/-
# The files of the installer

The six files that `install-state.ts` keeps in the state directory, as JSON: what each of its
writers puts into its file, and what each of its readers asks of it.  A writer replaces its file by
renaming a temporary one; it may stop at any step, and other processes read in between.  A reader
takes two steps: `existsSync`, and `readFileSync`, which throws for a file that is gone by then.

**`installer_files_whole`**: where only one process replaces a file at a time, a reader finds no
file, or what was last put into it, as a whole, unless the file is removed between its two steps.
-/
import NoderaxApi.AtomicFiles
import NoderaxApi.ControlPlaneUpdates
import NoderaxApi.InstallState
import NoderaxApi.Utf8

namespace Install

open AtomicFiles ControlPlaneUpdatesService Runs

/-! ## Files and what is written to them -/

/-- The files. -/
inductive InstallerFile
  | installState
  | installSecrets
  | installTransition
  | platformUpdateRequest
  | platformUpdateState
  | platformApiRestartRequest
  deriving DecidableEq, Repr

/-- The name of a file in the state directory. -/
def InstallerFile.filename : InstallerFile → String
  | .installState => "install-state.json"
  | .installSecrets => "install-secrets.json"
  | .installTransition => "install-transition.json"
  | .platformUpdateRequest => "platform-update-request.json"
  | .platformUpdateState => "platform-update-state.json"
  | .platformApiRestartRequest => "platform-api-restart-request.json"

/-- What the reader of the file throws. -/
def InstallerFile.invalidMessage : InstallerFile → String
  | .installState => "Install state file is invalid."
  | .installSecrets => "Install secrets file is invalid."
  | .installTransition => "Install transition file is invalid."
  | .platformUpdateRequest => "Platform update request file is invalid."
  | .platformUpdateState => "Platform update state file is invalid."
  | .platformApiRestartRequest => "Platform API restart request file is invalid."

/-- `PlatformApiRestartRequestState`, without its marks. -/
structure PlatformApiRestartRequest where
  requestId : Uuid
  requestedAt : String
  requestedByUserId : Option Uuid
  requestedByEmailSnapshot : Option String
  deriving DecidableEq, Repr

/-- A call of a writer.  The secrets are not empty: for none, the file is removed.  An optional
field that has no value is `null` or `undefined`; which, is said for each release of a state by
the name of its field, and for the state itself under the empty name. -/
inductive InstallerWrite
  | installState (installedAt : String) (managedEnv : EnvRecord)
  | installSecrets (secrets : EnvRecord) (updatedAt : String)
  | installTransition (details : Option EnvRecord) (updatedAt : String)
  | platformUpdateRequest (request : PlatformUpdateRequestState)
  | platformUpdateState (state : PlatformUpdateState) (isUndefined : String → String → Bool)
  | platformApiRestartRequest (request : PlatformApiRestartRequest)

/-- The file that is written. -/
def InstallerWrite.file : InstallerWrite → InstallerFile
  | .installState .. => .installState
  | .installSecrets .. => .installSecrets
  | .installTransition .. => .installTransition
  | .platformUpdateRequest _ => .platformUpdateRequest
  | .platformUpdateState .. => .platformUpdateState
  | .platformApiRestartRequest _ => .platformApiRestartRequest

/-- A record of texts as JSON. -/
def EnvRecord.toJson (env : EnvRecord) : Json :=
  .obj (env.map fun field => (field.1, .str field.2))

/-- An optional field: `JSON.stringify` leaves it out where it is `undefined`. -/
def optionalField (isUndefined : String → Bool) (key : String) : Option Json → JsonObject
  | some value => [(key, value)]
  | none => if isUndefined key then [] else [(key, .null)]

/-- A release as JSON. -/
def releaseJson (isUndefined : String → Bool) : Option PlatformRelease → Json
  | none => .null
  | some release =>
      .obj ([("version", .str release.version), ("releaseId", .str release.releaseId),
          ("releasedAt", Json.ofString? release.releasedAt)] ++
        optionalField isUndefined "builtAt" (release.builtAt.map .str) ++
        optionalField isUndefined "bundleSha256" (release.bundleSha256.map .str) ++
        optionalField isUndefined "bundleUrl" (release.bundleUrl.map .str) ++
        optionalField isUndefined "manifestUrl" (release.manifestUrl.map .str) ++
        optionalField isUndefined "changelog" (release.changelog.map fun sections =>
          .arr (sections.map fun part =>
            .obj [("title", .str part.1), ("items", .arr (part.2.map .str))])))

/-- The marks of a file: its version and its source. -/
def marked (version : ℚ) (fields : JsonObject) : JsonObject :=
  ("version", .num version) :: ("source", .str "installer") :: fields

/-- The payload that is written. -/
def InstallerWrite.payload : InstallerWrite → JsonObject
  | .installState installedAt managedEnv =>
      marked 2 [("installedAt", .str installedAt), ("managedEnv", managedEnv.toJson)]
  | .installSecrets secrets updatedAt =>
      marked 1 [("updatedAt", .str updatedAt), ("secrets", secrets.toJson)]
  | .installTransition details updatedAt =>
      marked 1 (("updatedAt", .str updatedAt) :: ("status", .str "promoting") ::
        ("target", .str "runtime_ha") :: (details.map fun env => ("details", env.toJson)).toList)
  | .platformUpdateRequest request =>
      marked 1 [("requestId", .str request.requestId), ("operation", .str request.operation.text),
        ("requestedAt", .str request.requestedAt),
        ("requestedByUserId", Json.ofString? request.requestedByUserId),
        ("requestedByEmailSnapshot", Json.ofString? request.requestedByEmailSnapshot),
        ("targetReleaseId", Json.ofString? request.targetReleaseId)]
  | .platformUpdateState state isUndefined =>
      marked 1 ([("updatedAt", .str state.updatedAt), ("operation", .str state.operation.text),
        ("status", .str state.status.text), ("requestedAt", .str state.requestedAt),
        ("startedAt", Json.ofString? state.startedAt),
        ("completedAt", Json.ofString? state.completedAt),
        ("requestedByUserId", Json.ofString? state.requestedByUserId),
        ("requestedByEmailSnapshot", Json.ofString? state.requestedByEmailSnapshot),
        ("currentRelease", releaseJson (isUndefined "currentRelease") state.currentRelease),
        ("targetRelease", releaseJson (isUndefined "targetRelease") state.targetRelease),
        ("preparedRelease", releaseJson (isUndefined "preparedRelease") state.preparedRelease),
        ("previousRelease", releaseJson (isUndefined "previousRelease") state.previousRelease),
        ("message", Json.ofString? state.message), ("error", Json.ofString? state.error),
        ("rollbackStatus", Json.ofString? (state.rollbackStatus.map RollbackStatus.text))] ++
        optionalField (isUndefined "") "auditLoggedAt" (state.auditLoggedAt.map .str))
  | .platformApiRestartRequest request =>
      marked 1 [("requestId", .str request.requestId), ("requestedAt", .str request.requestedAt),
        ("requestedByUserId", Json.ofString? request.requestedByUserId),
        ("requestedByEmailSnapshot", Json.ofString? request.requestedByEmailSnapshot)]

/-! ## Readers -/

/-- `parsed.version === n`. -/
def isVersion (parsed : JsonObject) (n : ℚ) : Bool :=
  match parsed.get "version" with
  | some (.num version) => version = n
  | _ => false

/-- `value && typeof value === 'object'`. -/
def isObject : Option Json → Bool
  | some (.obj _) | some (.arr _) => true
  | _ => false

/-- The `managedEnv` of `readInstallState`. -/
def managedEnvOf (parsed : JsonObject) : Option Json :=
  match parsed.get "managedEnv" with
  | none | some .null => if isVersion parsed 1 then parsed.get "runtimeEnv" else none
  | managedEnv => managedEnv

/-- The statuses that `readPlatformUpdateState` lists. -/
def platformUpdateStatuses : List String :=
  ["queued", "downloading", "verifying", "extracting", "loading_images", "prepared", "applying",
    "migrating_database", "recreating_services", "completed", "failed"]

/-- The check of a reader. -/
def InstallerFile.accepts (file : InstallerFile) (parsed : JsonObject) : Bool :=
  let isInstaller := parsed.string? "source" = some "installer"
  let isOperation := parsed.string? "operation" = some "download" ||
    parsed.string? "operation" = some "apply"
  let isRequest := (parsed.string? "requestId").isSome && (parsed.string? "requestedAt").isSome
  match file with
  | .installState =>
      (isVersion parsed 1 || isVersion parsed 2) && isInstaller && isObject (managedEnvOf parsed)
  | .installSecrets => isVersion parsed 1 && isInstaller && isObject (parsed.get "secrets")
  | .installTransition =>
      isVersion parsed 1 && isInstaller && parsed.string? "status" = some "promoting" &&
        parsed.string? "target" = some "runtime_ha"
  | .platformUpdateRequest => isVersion parsed 1 && isInstaller && isOperation && isRequest
  | .platformUpdateState =>
      isVersion parsed 1 && isInstaller && isOperation &&
        (parsed.string? "status").any fun status => status ∈ platformUpdateStatuses
  | .platformApiRestartRequest => isVersion parsed 1 && isInstaller && isRequest

/-- What a reader answers of a record: `readInstallState` sets the managed environment. -/
def InstallerFile.answer (file : InstallerFile) (parsed : JsonObject) : JsonObject :=
  match file with
  | .installState => parsed.set "managedEnv" ((managedEnvOf parsed).getD .null)
  | _ => parsed

/-- What a reader makes of a text.  `readInstallState` alone reads a field of what may be
`null`. -/
def InstallerFile.readText (parse : List UInt8 → Option Json) (file : InstallerFile)
    (raw : List UInt8) : Except InstallFileError JsonObject :=
  match parse raw with
  | none => .error .notParsed
  | some .null =>
      .error (if file = .installState then .notParsed else .invalid file.invalidMessage)
  | some (.obj parsed) =>
      if file.accepts parsed then .ok (file.answer parsed)
      else .error (.invalid file.invalidMessage)
  | some _ => .error (.invalid file.invalidMessage)

/-- What a reader throws. -/
inductive ReadError
  /-- The file is gone when `readFileSync` opens it. -/
  | gone
  | text (error : InstallFileError)
  deriving DecidableEq, Repr

/-- A reader: what `existsSync` finds, and what is there when `readFileSync` opens the file. -/
def InstallerFile.read (parse : List UInt8 → Option Json) (file : InstallerFile)
    (found opened : Option (List UInt8)) : Except ReadError (Option JsonObject) :=
  match found, opened with
  | none, _ => .ok none
  | some _, none => .error .gone
  | some _, some raw =>
      match file.readText parse raw with
      | .ok answer => .ok (some answer)
      | .error error => .error (.text error)

/-! ## Reading what was written -/

theorem status_mem (status : PlatformUpdateStatus) : status.text ∈ platformUpdateStatuses := by
  cases status <;> decide

/-- Each writer writes what the reader of its file accepts. -/
theorem InstallerWrite.accepts_payload (write : InstallerWrite) :
    write.file.accepts write.payload = true := by
  cases write with
  | installState installedAt managedEnv => rfl
  | installSecrets secrets updatedAt => rfl
  | installTransition details updatedAt => cases details <;> rfl
  | platformUpdateRequest request =>
      obtain ⟨requestId, operation, requestedAt, userId, email, targetReleaseId⟩ := request
      cases operation <;> rfl
  | platformUpdateState state isUndefined =>
      have hstatus : (JsonObject.string?
          (InstallerWrite.platformUpdateState state isUndefined).payload "status").any
            (fun status => status ∈ platformUpdateStatuses) = true :=
        decide_eq_true (status_mem state.status)
      have hoperation : ∀ operation : PlatformUpdateOperation,
          (decide (some operation.text = some "download") ||
            decide (some operation.text = some "apply")) = true := by
        intro operation
        cases operation <;> decide
      simp only [InstallerFile.accepts, InstallerWrite.file, hstatus, Bool.and_true]
      exact hoperation state.operation
  | platformApiRestartRequest request => rfl

/-- The reader answers the payload as it was written. -/
theorem InstallerWrite.answer_payload (write : InstallerWrite) :
    write.file.answer write.payload = write.payload := by
  cases write <;> rfl

variable {parse : List UInt8 → Option Json}

theorem read_payload {write : InstallerWrite} {found text : List UInt8}
    (htext : parse text = some (.obj write.payload)) :
    write.file.read parse (some found) (some text) = .ok (some write.payload) := by
  have hread : write.file.readText parse text = .ok write.payload := by
    simp only [InstallerFile.readText, htext, write.accepts_payload, write.answer_payload, if_true]
  simp only [InstallerFile.read, hread]

/-- The text of a payload of the file, which is what `JSON.stringify` makes of it. -/
def Written (parse : List UInt8 → Option Json) (file : InstallerFile) (text : List UInt8) : Prop :=
  ∃ write : InstallerWrite, write.file = file ∧ parse text = some (.obj write.payload)

/-- The state directory. -/
abbrev StateDirectory := Directory InstallerFile ℕ UInt8

/-- The steps of a writer, with the pieces in which the text reaches the disk. -/
def writeInstallerStateFile (p : ℕ) (write : InstallerWrite) (pieces : List (List UInt8)) :
    List (FileEvent InstallerFile ℕ UInt8) :=
  replacing p write.file pieces

/-- A writer that is not stopped leaves its payload to the readers. -/
theorem read_writeInstallerStateFile (d : StateDirectory) (p : ℕ) {write : InstallerWrite}
    {pieces : List (List UInt8)} (htext : parse pieces.flatten = some (.obj write.payload)) :
    let files := (run AtomicFiles.step d (writeInstallerStateFile p write pieces)).files
    write.file.read parse (files write.file) (files write.file) = .ok (some write.payload) := by
  dsimp only
  rw [writeInstallerStateFile, files_run_replacing, Function.update_self, read_payload htext]

/-- **The files are read as a whole.**  Writers may stop between any two steps, and writers of
different files may interleave: a reader whose check comes after `es` and whose read comes after
`es'` finds no file, or the payload of the last writer that came to its end before the read,
unless the file is removed in between. -/
theorem installer_files_whole {d : StateDirectory} (hd : Holds (Written parse) d)
    {es es' : List (FileEvent InstallerFile ℕ UInt8)}
    (hes : Along AtomicFiles.step (fun d e => OneWriter d e ∧ Meant (Written parse) e) d
      (es ++ es'))
    (file : InstallerFile) (hkept : .remove file ∉ es') :
    (registerRun d d.files es file = none ∧
      file.read parse ((run AtomicFiles.step d es).files file)
        ((run AtomicFiles.step d (es ++ es')).files file) = .ok none) ∨
    ∃ write : InstallerWrite, ∃ text, write.file = file ∧
      parse text = some (.obj write.payload) ∧ registerRun d d.files (es ++ es') file = some text ∧
      file.read parse ((run AtomicFiles.step d es).files file)
        ((run AtomicFiles.step d (es ++ es')).files file) = .ok (some write.payload) := by
  have hone : Along AtomicFiles.step OneWriter d (es ++ es') :=
    along_iff.mpr fun es₁ e es₂ hsplit => (along_iff.mp hes es₁ e es₂ hsplit).1
  rw [← register_run hd.disciplined hone,
    ← register_run hd.disciplined (along_append.mp hone).1]
  cases hfound : (run AtomicFiles.step d es).files file with
  | none => exact Or.inl ⟨rfl, rfl⟩
  | some found =>
      have hthere : ((run AtomicFiles.step d (es ++ es')).files file).isSome = true := by
        rw [run_append]
        exact isSome_run (by rw [hfound]; rfl) hkept
      obtain ⟨text, hopened⟩ := Option.isSome_iff_exists.mp hthere
      obtain ⟨write, rfl, htext⟩ := (holds_run hd hes).files file text hopened
      rw [hopened]
      exact Or.inr ⟨write, text, rfl, htext, rfl, read_payload htext⟩

/-- A request to restart the API. -/
def restartRequest : InstallerWrite :=
  .platformApiRestartRequest ⟨"r1", "2026-04-01T17:00:00.000Z", none, none⟩

/-- Its text. -/
def restartText : List UInt8 :=
  Utf8.encode ("\x7b\n  \"version\": 1,\n  \"source\": \"installer\",\n" ++
    "  \"requestId\": \"r1\",\n  \"requestedAt\": \"2026-04-01T17:00:00.000Z\",\n" ++
    "  \"requestedByUserId\": null,\n  \"requestedByEmailSnapshot\": null\n\x7d").toList

/-- `JSON.parse` of this text. -/
def restartParse (text : List UInt8) : Option Json :=
  if text = restartText then some (.obj restartRequest.payload) else none

/-- The empty state directory. -/
def emptyDirectory : StateDirectory := ⟨fun _ => none, fun _ => none, fun _ => none⟩

/-- A request is written in two pieces. -/
def restartWritten : List (FileEvent InstallerFile ℕ UInt8) :=
  writeInstallerStateFile 0 restartRequest [restartText.take 40, restartText.drop 40]

/-- The next writer of the file stops after its first piece. -/
def restartStopped : List (FileEvent InstallerFile ℕ UInt8) :=
  [.start 1 .platformApiRestartRequest [restartText.take 40, restartText.drop 40], .append 1,
    .crash 1]

/-- A reader checks before the second writer starts and reads after its end. -/
theorem installer_files_whole_crash :
    ∃ write : InstallerWrite, ∃ text, write.file = .platformApiRestartRequest ∧
      restartParse text = some (.obj write.payload) ∧
      registerRun emptyDirectory emptyDirectory.files (restartWritten ++ restartStopped)
        .platformApiRestartRequest = some text ∧
      InstallerFile.platformApiRestartRequest.read restartParse
          ((run AtomicFiles.step emptyDirectory restartWritten).files .platformApiRestartRequest)
          ((run AtomicFiles.step emptyDirectory (restartWritten ++ restartStopped)).files
            .platformApiRestartRequest)
        = .ok (some write.payload) := by
  have hempty : Holds (Written restartParse) emptyDirectory :=
    ⟨disciplined_idle _, fun _ _ hfile => absurd hfile (by simp [emptyDirectory]),
      fun _ _ hwriter => absurd hwriter (by simp [emptyDirectory])⟩
  have hmeant : Written restartParse .platformApiRestartRequest
      [restartText.take 40, restartText.drop 40].flatten := by
    refine ⟨restartRequest, rfl, ?_⟩
    rw [List.flatten_cons, List.flatten_cons, List.flatten_nil, List.append_nil,
      List.take_append_drop, restartParse, if_pos rfl]
  have hguard : Along AtomicFiles.step
      (fun d e => OneWriter d e ∧ Meant (Written restartParse) e) emptyDirectory
      (restartWritten ++ restartStopped) := by
    refine ⟨⟨⟨rfl, fun q w hq => ?_⟩, hmeant⟩, ⟨trivial, trivial⟩, ⟨trivial, trivial⟩,
      ⟨trivial, trivial⟩, ⟨⟨rfl, fun q w hq => ?_⟩, hmeant⟩, ⟨trivial, trivial⟩,
      ⟨trivial, trivial⟩, trivial⟩
    · cases hq
    · -- the first writer has come to its end
      simp [AtomicFiles.step, emptyDirectory, Function.update] at hq
  have hkept : (.remove .platformApiRestartRequest : FileEvent InstallerFile ℕ UInt8)
      ∉ restartStopped := by
    simp [restartStopped]
  have hread := installer_files_whole hempty hguard .platformApiRestartRequest hkept
  exact hread.resolve_left fun hnone => absurd hnone.1 (by decide +kernel)

end Install
