/-
# The install state

`install-state.ts`: the files in which the installer keeps the state, the secrets and the
transition of an installation, what is read from them, and how they are written: a temporary
file, and then a rename over the old one.

An environment is the list of its keys and values.  A file holds what `JSON.parse` makes of
it; the permissions of the files are left out.
-/
import NoderaxApi.Common

namespace Install

/-! ## Environments -/

/-- `Record<string, string>`. -/
abbrev EnvRecord := List (String × String)

/-- `env[key]`. -/
def EnvRecord.get (env : EnvRecord) (key : String) : Option String := env.lookup key

/-- `{ ...env, ...later }`. -/
def EnvRecord.spread (env later : EnvRecord) : EnvRecord :=
  env.filter (fun field => (later.get field.1).isNone) ++ later

theorem get_append (env env' : EnvRecord) (key : String) :
    EnvRecord.get (env ++ env') key = (env.get key).or (env'.get key) :=
  List.lookup_append

theorem get_cons (field : String × String) (rest : EnvRecord) (key : String) :
    EnvRecord.get (field :: rest) key =
      if key = field.1 then some field.2 else EnvRecord.get rest key := by
  obtain ⟨name, value⟩ := field
  rw [EnvRecord.get, List.lookup_cons]
  by_cases hname : key = name
  · simp [hname]
  · rw [beq_eq_false_iff_ne.mpr hname, if_neg hname]
    rfl

/-- A lookup among the fields whose keys have a property. -/
theorem get_filter (env : EnvRecord) (p : String → Bool) (key : String) :
    EnvRecord.get (env.filter fun field => p field.1) key
      = if p key then env.get key else none := by
  induction env with
  | nil => exact (ite_self none).symm
  | cons field rest ih =>
      rw [List.filter_cons, get_cons]
      by_cases hname : key = field.1
      · subst hname
        cases hp : p field.1 with
        | true => rw [if_pos rfl, get_cons, if_pos rfl, if_pos rfl, if_pos rfl]
        | false =>
            rw [if_neg Bool.false_ne_true, ih, hp]
            rfl
      · rw [if_neg hname]
        cases hp : p field.1 with
        | true => rw [if_pos rfl, get_cons, if_neg hname, ih]
        | false => rw [if_neg Bool.false_ne_true, ih]

/-- The later record wins. -/
theorem get_spread (env later : EnvRecord) (key : String) :
    (env.spread later).get key = (later.get key).or (env.get key) := by
  rw [EnvRecord.spread, get_append, get_filter env fun name => (later.get name).isNone]
  cases later.get key with
  | none => simp
  | some value => simp

/-- A record that may be missing holds nothing when it is. -/
theorem get_getD_nil (env : Option EnvRecord) (key : String) :
    EnvRecord.get (env.getD []) key = env.bind (EnvRecord.get · key) := by
  cases env <;> rfl

/-- `INSTALLER_MANAGED_FLAG`. -/
def installerManagedFlag : String := "NODERAX_INSTALLER_MANAGED"

/-- `INSTALL_SECRET_KEYS`. -/
def installSecretKeys : List String :=
  ["DATABASE_PASSWORD", "DB_PASSWORD", "JWT_SECRET", "SECRETS_ENCRYPTION_KEY", "SMTP_PASSWORD",
    "AGENT_ENROLLMENT_TOKEN"]

/-- `INSTALL_SECRET_KEYS.has(key)`. -/
def isSecretKey (key : String) : Bool := key ∈ installSecretKeys

theorem isSecretKey_of_mem {key : String} (hkey : key ∈ installSecretKeys) :
    isSecretKey key = true :=
  decide_eq_true hkey

/-- What `splitInstallerEnv` answers. -/
structure SplitEnv where
  managedEnv : EnvRecord
  secretEnv : EnvRecord
  deriving DecidableEq, Repr

/-- `splitInstallerEnv`. -/
def splitInstallerEnv (input : EnvRecord) : SplitEnv where
  managedEnv := input.filter fun field => !isSecretKey field.1
  secretEnv := input.filter fun field => isSecretKey field.1

theorem get_managedEnv (input : EnvRecord) (key : String) :
    (splitInstallerEnv input).managedEnv.get key
      = if isSecretKey key then none else input.get key := by
  rw [splitInstallerEnv, get_filter input fun name => !isSecretKey name]
  cases isSecretKey key <;> rfl

theorem get_secretEnv (input : EnvRecord) (key : String) :
    (splitInstallerEnv input).secretEnv.get key = if isSecretKey key then input.get key else none :=
  get_filter input isSecretKey key

/-! ## Files -/

/-- A file, as `JSON.parse` reads it. -/
inductive FileContents (α : Type)
  | missing
  /-- Not the JSON of a record. -/
  | garbled
  | holds (value : α)
  deriving DecidableEq, Repr

/-- `existsSync`. -/
def FileContents.exists {α : Type} : FileContents α → Bool
  | .missing => false
  | .garbled | .holds _ => true

/-- `install-state.json`. -/
structure InstallStateFile where
  version : ℕ
  source : String := "installer"
  installedAt : String
  runtimeEnv : Option EnvRecord := none
  managedEnv : Option EnvRecord := none
  deriving DecidableEq, Repr

/-- `install-secrets.json`. -/
structure InstallSecretsFile where
  version : ℕ
  source : String := "installer"
  updatedAt : String
  secrets : Option EnvRecord
  deriving DecidableEq, Repr

/-- `install-transition.json`. -/
structure InstallTransitionFile where
  version : ℕ
  source : String := "installer"
  status : String
  target : String
  updatedAt : String
  details : Option EnvRecord := none
  deriving DecidableEq, Repr

/-- The state directory. -/
structure InstallDisk where
  state : FileContents InstallStateFile := .missing
  stateTemp : FileContents InstallStateFile := .missing
  secrets : FileContents InstallSecretsFile := .missing
  secretsTemp : FileContents InstallSecretsFile := .missing
  transition : FileContents InstallTransitionFile := .missing
  transitionTemp : FileContents InstallTransitionFile := .missing
  deriving DecidableEq, Repr

/-! ## Reading -/

/-- What a reader throws. -/
inductive InstallFileError
  /-- The `SyntaxError` of `JSON.parse`, or a field access on what is not a record. -/
  | notParsed
  | invalid (message : String)
  deriving DecidableEq, Repr

/-- `InstallState`, with its managed environment. -/
structure InstallState where
  version : ℕ
  source : String
  installedAt : String
  managedEnv : EnvRecord
  deriving DecidableEq, Repr

/-- `readInstallState`. -/
def readInstallState (disk : InstallDisk) : Except InstallFileError (Option InstallState) :=
  match disk.state with
  | .missing => .ok none
  | .garbled => .error .notParsed
  | .holds parsed =>
      let managedEnv :=
        parsed.managedEnv.or (if parsed.version = 1 then parsed.runtimeEnv else none)
      match managedEnv with
      | none => .error (.invalid "Install state file is invalid.")
      | some managedEnv =>
          if (parsed.version ≠ 1 && parsed.version ≠ 2) || parsed.source ≠ "installer" then
            .error (.invalid "Install state file is invalid.")
          else .ok (some ⟨parsed.version, parsed.source, parsed.installedAt, managedEnv⟩)

/-- `hasInstallState`. -/
def hasInstallState (disk : InstallDisk) : Bool := disk.state.exists

/-- `readInstallSecrets`; its secrets. -/
def readInstallSecrets (disk : InstallDisk) : Except InstallFileError (Option EnvRecord) :=
  match disk.secrets with
  | .missing => .ok none
  | .garbled => .error .notParsed
  | .holds parsed =>
      match parsed.secrets with
      | none => .error (.invalid "Install secrets file is invalid.")
      | some secrets =>
          if parsed.version ≠ 1 || parsed.source ≠ "installer" then
            .error (.invalid "Install secrets file is invalid.")
          else .ok (some secrets)

/-- `readInstallTransitionState`. -/
def readInstallTransitionState (disk : InstallDisk) :
    Except InstallFileError (Option InstallTransitionFile) :=
  match disk.transition with
  | .missing => .ok none
  | .garbled => .error .notParsed
  | .holds parsed =>
      if parsed.version ≠ 1 || parsed.source ≠ "installer" || parsed.status ≠ "promoting" ||
          parsed.target ≠ "runtime_ha" then
        .error (.invalid "Install transition file is invalid.")
      else .ok (some parsed)

/-- What a restart reads of a key: the secrets are applied over the state, and a file that
cannot be read stops the start. -/
def readableEnv (disk : InstallDisk) (key : String) : Option String :=
  match readInstallState disk, readInstallSecrets disk with
  | .ok state, .ok secrets =>
      (secrets.bind fun secrets => secrets.get key).or
        (state.bind fun state => state.managedEnv.get key)
  | _, _ => none

/-! ## Writing -/

/-- A change of the state directory. -/
inductive FileOperation
  | writeStateTemp (file : InstallStateFile)
  | renameState
  | writeSecretsTemp (file : InstallSecretsFile)
  | renameSecrets
  | unlinkSecrets
  | writeTransitionTemp (file : InstallTransitionFile)
  | renameTransition
  | unlinkTransition
  deriving DecidableEq, Repr

/-- The directory after a change. -/
def FileOperation.apply (disk : InstallDisk) : FileOperation → InstallDisk
  | .writeStateTemp file => { disk with stateTemp := .holds file }
  | .renameState => { disk with state := disk.stateTemp, stateTemp := .missing }
  | .writeSecretsTemp file => { disk with secretsTemp := .holds file }
  | .renameSecrets => { disk with secrets := disk.secretsTemp, secretsTemp := .missing }
  | .unlinkSecrets => { disk with secrets := .missing }
  | .writeTransitionTemp file => { disk with transitionTemp := .holds file }
  | .renameTransition => { disk with transition := disk.transitionTemp, transitionTemp := .missing }
  | .unlinkTransition => { disk with transition := .missing }

/-- `persistedState`. -/
def persistedState (source installedAt : String) (managedEnv : EnvRecord) : InstallStateFile :=
  { version := 2, source, installedAt, managedEnv := some managedEnv }

/-- `writeInstallState`. -/
def writeInstallState (source installedAt : String) (managedEnv : EnvRecord) : List FileOperation :=
  [.writeStateTemp (persistedState source installedAt managedEnv), .renameState]

/-- The `payload` of `writeInstallSecrets`. -/
def secretsPayload (secrets : EnvRecord) (now : String) : InstallSecretsFile :=
  { version := 1, updatedAt := now, secrets := some secrets }

/-- `writeInstallSecrets`. -/
def writeInstallSecrets (disk : InstallDisk) (secrets : EnvRecord) (now : String) :
    List FileOperation :=
  if secrets.isEmpty then if disk.secrets.exists then [.unlinkSecrets] else []
  else [.writeSecretsTemp (secretsPayload secrets now), .renameSecrets]

/-- The `payload` of `writeInstallTransitionState`. -/
def transitionPayload (status target : String) (details : Option EnvRecord) (now : String) :
    InstallTransitionFile :=
  { version := 1, status, target, updatedAt := now, details }

/-- `writeInstallTransitionState`. -/
def writeInstallTransitionState (status target : String) (details : Option EnvRecord)
    (now : String) : List FileOperation :=
  [.writeTransitionTemp (transitionPayload status target details now), .renameTransition]

/-- `clearInstallTransitionState`. -/
def clearInstallTransitionState (disk : InstallDisk) : List FileOperation :=
  if disk.transition.exists then [.unlinkTransition] else []

/-! ## Reading what was written -/

variable {disk : InstallDisk}

theorem readableEnv_of_reads {state : Option InstallState} {secrets : Option EnvRecord}
    (hstate : readInstallState disk = .ok state) (hsecrets : readInstallSecrets disk = .ok secrets)
    (key : String) :
    readableEnv disk key = (secrets.bind fun secrets => secrets.get key).or
      (state.bind fun state => state.managedEnv.get key) := by
  rw [readableEnv, hstate, hsecrets]

theorem reads_of_readable {key value : String} (h : readableEnv disk key = some value) :
    ∃ state secrets, readInstallState disk = .ok state ∧ readInstallSecrets disk = .ok secrets := by
  unfold readableEnv at h
  split at h
  · next state secrets hstate hsecrets => exact ⟨state, secrets, hstate, hsecrets⟩
  · cases h

/-- Two directories with one file of the secrets read the same of a key on which their states
agree. -/
theorem readableEnv_congr {disk' : InstallDisk} {state state' : Option InstallState} {key : String}
    (hstate : readInstallState disk = .ok state) (hstate' : readInstallState disk' = .ok state')
    (hkey : (state.bind fun state => state.managedEnv.get key)
      = state'.bind fun state => state.managedEnv.get key)
    (hsecrets : disk.secrets = disk'.secrets) : readableEnv disk key = readableEnv disk' key := by
  have hsame : readInstallSecrets disk = readInstallSecrets disk' := by
    rw [readInstallSecrets, readInstallSecrets, hsecrets]
  cases hread : readInstallSecrets disk' with
  | error error => rw [readableEnv, readableEnv, hstate, hstate', hsame, hread]
  | ok secrets =>
      rw [readableEnv_of_reads hstate (hsame.trans hread), readableEnv_of_reads hstate' hread, hkey]

theorem readInstallState_persisted {installedAt : String} {managedEnv : EnvRecord}
    (h : disk.state = .holds (persistedState "installer" installedAt managedEnv)) :
    readInstallState disk = .ok (some ⟨2, "installer", installedAt, managedEnv⟩) := by
  rw [readInstallState, h]
  rfl

theorem readInstallSecrets_payload {secrets : EnvRecord} {now : String}
    (h : disk.secrets = .holds (secretsPayload secrets now)) :
    readInstallSecrets disk = .ok (some secrets) := by
  rw [readInstallSecrets, h]
  rfl

/-- A state without secrets gives none, and the file of the secrets decides. -/
theorem readableEnv_of_persisted {installedAt : String} {env : EnvRecord}
    (hstate : disk.state =
      .holds (persistedState "installer" installedAt (splitInstallerEnv env).managedEnv))
    {secrets : Option EnvRecord} (hsecrets : readInstallSecrets disk = .ok secrets)
    {key : String} (hkey : key ∈ installSecretKeys) :
    readableEnv disk key = secrets.bind fun secrets => secrets.get key := by
  rw [readableEnv_of_reads (readInstallState_persisted hstate) hsecrets, Option.bind_some,
    get_managedEnv, if_pos (isSecretKey_of_mem hkey), Option.or_none]

/-- Both files written, every secret is read from the file of the secrets. -/
theorem readableEnv_of_payload {installedAt now : String} {env : EnvRecord}
    (hstate : disk.state =
      .holds (persistedState "installer" installedAt (splitInstallerEnv env).managedEnv))
    (hsecrets : disk.secrets = .holds (secretsPayload (splitInstallerEnv env).secretEnv now))
    {key : String} (hkey : key ∈ installSecretKeys) : readableEnv disk key = env.get key := by
  rw [readableEnv_of_persisted hstate (readInstallSecrets_payload hsecrets) hkey, Option.bind_some,
    get_secretEnv, if_pos (isSecretKey_of_mem hkey)]

/-- An environment that gives one of the secrets leaves something to write. -/
theorem writeInstallSecrets_of_get {env : EnvRecord} {key value : String}
    (hkey : key ∈ installSecretKeys) (hget : env.get key = some value) (now : String) :
    writeInstallSecrets disk (splitInstallerEnv env).secretEnv now =
      [.writeSecretsTemp (secretsPayload (splitInstallerEnv env).secretEnv now),
        .renameSecrets] := by
  have hsecret : (splitInstallerEnv env).secretEnv.get key = some value := by
    rw [get_secretEnv, if_pos (isSecretKey_of_mem hkey), hget]
  rw [writeInstallSecrets, if_neg]
  intro hempty
  rw [List.isEmpty_iff.mp hempty] at hsecret
  cases hsecret

end Install
