/-
# The retention of metrics

`metrics-retention.service.ts`: the settings are read from the install state, or else from the
environment of the process; an update writes them into both, and a cleanup deletes the metrics that
are older than the days it has read.  Other processes write the install state too: the platform
settings are saved by `updateSettings` of `platform-settings.service.ts`, and a process that starts
takes its environment from `prepareBootEnvironment`.

Every call is cut where it waits.  An update does not wait, but each of its steps on a file is one
of its own, between which another process may run, or after which it stops.
-/
import NoderaxApi.BootEnvironment
import NoderaxApi.Interleaving

namespace MetricsRetentionService

open Install Interleaving PlatformSettingsService

/-! ## Settings -/

/-- `RETENTION_ENABLED_ENV_KEY`. -/
def retentionEnabledEnvKey : String := "METRICS_RETENTION_ENABLED"

/-- `RETENTION_DAYS_ENV_KEY`. -/
def retentionDaysEnvKey : String := "METRICS_RETENTION_DAYS"

/-- `DEFAULT_RETENTION_DAYS`. -/
def defaultRetentionDays : ℤ := 30

/-- `MIN_RETENTION_DAYS`. -/
def minRetentionDays : ℤ := 1

/-- `MAX_RETENTION_DAYS`. -/
def maxRetentionDays : ℤ := 3650

/-- The least magnitude that is `Infinity` as a double. -/
def infinityBound : ℕ := 2 ^ 1024 - 2 ^ 970

/-- The sign that a number starts with: whether it is negative, and the rest. -/
def splitSign : List Char → Bool × List Char
  | '-' :: rest => (true, rest)
  | '+' :: rest => (false, rest)
  | rest => (false, rest)

/-- `Number.parseInt(value, 10)` where it is finite.  A number beyond the integers of a double is
not rounded: it is clamped by all that read it. -/
def parseInt (value : String) : Option ℤ :=
  let (negative, rest) := splitSign (value.toList.dropWhile isJsWhitespace)
  let digits := rest.takeWhile Char.isDigit
  let magnitude := Nat.ofDigitChars 10 digits 0
  if digits = [] || infinityBound ≤ magnitude then none
  else some (if negative then -magnitude else magnitude)

/-- `clampRetentionDays`, of an integer. -/
def clampRetentionDays (value : ℤ) : ℤ := min (max value minRetentionDays) maxRetentionDays

/-- `parseRetentionDays`. -/
def parseRetentionDays (value : Option String) : ℤ :=
  match parseInt (value.getD "") with
  | some parsed => clampRetentionDays parsed
  | none => defaultRetentionDays

/-- `parseBoolean`.  No letter but those of ASCII has a small letter that is in one of the words. -/
def parseBoolean (value : Option String) (fallback : Bool) : Bool :=
  match value with
  | none => fallback
  | some value =>
      let normalized := String.ofList ((jsTrim value).toList.map Char.toLower)
      if normalized ∈ ["1", "true", "yes", "on"] then true
      else if normalized ∈ ["0", "false", "no", "off"] then false
      else fallback

/-- `UpdateMetricsRetentionDto`. -/
structure UpdateMetricsRetentionDto where
  enabled : Bool
  retentionDays : ℤ
  deriving DecidableEq, Repr

/-- The fields of an update, which go into the install state and into `process.env`. -/
def retentionFields (dto : UpdateMetricsRetentionDto) : EnvRecord :=
  [(retentionEnabledEnvKey, toString dto.enabled),
    (retentionDaysEnvKey, toString (clampRetentionDays dto.retentionDays))]

/-- What `readRetentionEnv` answers. -/
structure RetentionEnv where
  enabled : Option String
  retentionDays : Option String
  deriving DecidableEq, Repr

/-- The managed environment of a state that may be missing. -/
def managedEnvOf (installState : Option InstallState) : EnvRecord :=
  (installState.map InstallState.managedEnv).getD []

/-- `managedEnv[key] ?? process.env[key]`. -/
def managedOr (managedEnv processEnv : EnvRecord) (key : String) : Option String :=
  (managedEnv.get key).or (processEnv.get key)

/-- `readRetentionEnv`. -/
def readRetentionEnv (processEnv : EnvRecord) (disk : InstallDisk) :
    Except InstallFileError RetentionEnv := do
  let managedEnv := managedEnvOf (← readInstallState disk)
  .ok ⟨managedOr managedEnv processEnv retentionEnabledEnvKey,
    managedOr managedEnv processEnv retentionDaysEnvKey⟩

/-- `MetricsRetentionSettingsDto`. -/
structure RetentionSettings where
  enabled : Bool
  retentionDays : ℤ
  editable : Bool
  lastRunAt : Option ℤ
  lastDeletedCount : Option ℕ
  deriving DecidableEq, Repr

/-! ## Processes, metrics and files -/

/-- The id of a process of the API. -/
abbrev ProcessId := String

/-- A process: the environment it is started with, `process.env`, and the fields of the service. -/
structure RetentionProcess where
  baseEnv : EnvRecord := []
  env : EnvRecord := []
  isRunning : Bool := false
  lastRunAt : Option ℤ := none
  lastDeletedCount : Option ℕ := none
  deriving DecidableEq, Repr

/-- A row of `metrics`, with the column that the retention reads. -/
structure MetricRow where
  id : Uuid
  recordedAt : ℤ
  deriving DecidableEq, Repr

/-- The state directory, the processes and the table. -/
structure RetentionWorld where
  disk : InstallDisk := {}
  processes : ProcessId → RetentionProcess := fun _ => {}
  metrics : List MetricRow := []

/-- The world with another state of a process. -/
def RetentionWorld.setProcess (w : RetentionWorld) (i : ProcessId) (process : RetentionProcess) :
    RetentionWorld :=
  { w with processes := Function.update w.processes i process }

@[simp] theorem processes_setProcess_self (w : RetentionWorld) (i : ProcessId)
    (process : RetentionProcess) : (w.setProcess i process).processes i = process := by
  show Function.update w.processes i process i = process
  exact Function.update_self ..

theorem processes_setProcess_of_ne (w : RetentionWorld) {i j : ProcessId} (hne : j ≠ i)
    (process : RetentionProcess) : (w.setProcess i process).processes j = w.processes j := by
  show Function.update w.processes i process j = w.processes j
  exact Function.update_of_ne hne ..

/-- `getSettings`. -/
def getSettings (process : RetentionProcess) (disk : InstallDisk) :
    Except UpdateError RetentionSettings := do
  let env ← orFileError (readRetentionEnv process.env disk)
  let editable ← isInstallerManagedDeployment process.env disk
  .ok {
    enabled := parseBoolean env.enabled false
    retentionDays := parseRetentionDays env.retentionDays
    editable
    lastRunAt := process.lastRunAt
    lastDeletedCount := process.lastDeletedCount }

/-- The file operations of `updateSettings`; `now` is the time it reads. -/
def updateSettings (process : RetentionProcess) (disk : InstallDisk)
    (dto : UpdateMetricsRetentionDto) (now : String) : Except UpdateError (List FileOperation) := do
  let editable ← isInstallerManagedDeployment process.env disk
  if !editable then
    .error (.http (.conflict
      "Metrics retention can only be updated for installer-managed deployments."))
  else do
    let _previous ← getSettings process disk
    let installState ← orFileError (readInstallState disk)
    let source := (installState.map InstallState.source).getD "installer"
    let installedAt := (installState.map InstallState.installedAt).getD now
    .ok (writeInstallState source installedAt
      ((managedEnvOf installState).spread (retentionFields dto)))

/-! ## Steps on files -/

/-- A rename needs its temporary file, and a removal its file. -/
def canApply (disk : InstallDisk) : FileOperation → Bool
  | .renameState => disk.stateTemp.exists
  | .renameSecrets => disk.secretsTemp.exists
  | .unlinkSecrets => disk.secrets.exists
  | .renameTransition => disk.transitionTemp.exists
  | .unlinkTransition => disk.transition.exists
  | .writeStateTemp _ | .writeSecretsTemp _ | .writeTransitionTemp _ => true

/-- A temporary file is empty before it is written. -/
def opened? (disk : InstallDisk) : FileOperation → Option InstallDisk
  | .writeStateTemp _ => some { disk with stateTemp := .garbled }
  | .writeSecretsTemp _ => some { disk with secretsTemp := .garbled }
  | .writeTransitionTemp _ => some { disk with transitionTemp := .garbled }
  | _ => none

/-! ## Calls -/

/-- A request to a process, or the timer of one. -/
inductive RetentionRequest
  /-- `updateSettings`. -/
  | updateRetention (i : ProcessId) (dto : UpdateMetricsRetentionDto)
  /-- `updateSettings` of the platform settings. -/
  | updatePlatform (i : ProcessId) (dto : UpdatePlatformSettingsDto)
  | runScheduledRetention (i : ProcessId)
  | runCleanupNow (i : ProcessId)

/-- What a call waits for, or has left to do. -/
inductive PendingRetentionCall
  /-- The file operations that are left, whether the temporary file of the first is open, and what
  `process.env` gets in the end. -/
  | writing (i : ProcessId) (isOpen : Bool) (rest : List FileOperation) (fields : EnvRecord)
  /-- `hasTable`. -/
  | checkingTable (i : ProcessId)
  /-- `runWithLock`. -/
  | awaitingLock (i : ProcessId) (scheduled : Bool) (retentionDays : ℤ)
  /-- The DELETE of `deleteMetricsOlderThan`. -/
  | deleting (i : ProcessId) (scheduled : Bool) (cutoff : ℤ)
  /-- The end of `runWithLock`. -/
  | recording (i : ProcessId) (scheduled : Bool) (deletedCount : ℕ)

/-- The clock, and whether what the call waits for is so: the table exists, the lock is acquired,
the query or the file operation succeeds. -/
structure RetentionInput where
  now : ℤ
  nowText : String := ""
  succeeds : Bool := true

/-- A step of a call. -/
abbrev RetentionStep := RetentionWorld × Option PendingRetentionCall

/-- The `finally` of `runScheduledRetention`; `runCleanupNow` has none. -/
def finish (w : RetentionWorld) (i : ProcessId) (scheduled : Bool) : RetentionStep :=
  if scheduled then (w.setProcess i { w.processes i with isRunning := false }, none) else (w, none)

/-- The start of a call. -/
def invokeRetention (request : RetentionRequest) (inp : RetentionInput) (w : RetentionWorld) :
    RetentionStep :=
  match request with
  | .updateRetention i dto =>
      match updateSettings (w.processes i) w.disk dto inp.nowText with
      | .error _ => (w, none)
      | .ok operations => (w, some (.writing i false operations (retentionFields dto)))
  | .updatePlatform i dto =>
      match PlatformSettingsService.updateSettings (w.processes i).env w.disk dto inp.nowText with
      | .error _ => (w, none)
      | .ok operations => (w, some (.writing i false operations []))
  | .runScheduledRetention i =>
      if (w.processes i).isRunning then (w, none)
      else (w.setProcess i { w.processes i with isRunning := true }, some (.checkingTable i))
  | .runCleanupNow i =>
      match getSettings (w.processes i) w.disk with
      | .error _ => (w, none)
      | .ok settings => (w, some (.awaitingLock i false settings.retentionDays))

/-- The next step on a file, or the assignments to `process.env` after the last one. -/
def resumeWriting (i : ProcessId) (isOpen : Bool) (rest : List FileOperation) (fields : EnvRecord)
    (inp : RetentionInput) (w : RetentionWorld) : RetentionStep :=
  match rest with
  | [] => (w.setProcess i { w.processes i with env := (w.processes i).env.spread fields }, none)
  | operation :: later =>
      if !inp.succeeds || !canApply w.disk operation then (w, none)
      else
        match (if isOpen then none else opened? w.disk operation) with
        | some disk => ({ w with disk }, some (.writing i true rest fields))
        | none => ({ w with disk := operation.apply w.disk }, some (.writing i false later fields))

/-- `deleteMetricsOlderThan`: the milliseconds of a day. -/
def dayMs : ℤ := 86400000

/-- The next step of a call. -/
def resumeRetention (call : PendingRetentionCall) (inp : RetentionInput) (w : RetentionWorld) :
    RetentionStep :=
  match call with
  | .writing i isOpen rest fields => resumeWriting i isOpen rest fields inp w
  | .checkingTable i =>
      match getSettings (w.processes i) w.disk with
      | .error _ => finish w i true
      | .ok settings =>
          if !inp.succeeds || !settings.enabled then finish w i true
          else (w, some (.awaitingLock i true settings.retentionDays))
  | .awaitingLock i scheduled retentionDays =>
      if !inp.succeeds then finish w i scheduled
      else (w, some (.deleting i scheduled (inp.now - retentionDays * dayMs)))
  | .deleting i scheduled cutoff =>
      if !inp.succeeds then finish w i scheduled
      else
        let deleted := w.metrics.countP fun row => row.recordedAt < cutoff
        ({ w with metrics := w.metrics.filter fun row => cutoff ≤ row.recordedAt },
          some (.recording i scheduled deleted))
  | .recording i scheduled deletedCount =>
      let process := w.processes i
      finish (w.setProcess i { process with
        lastRunAt := some inp.now, lastDeletedCount := some deletedCount }) i scheduled

/-- The calls. -/
def retentionCalls :
    Calls RetentionWorld RetentionRequest PendingRetentionCall RetentionInput :=
  ⟨invokeRetention, resumeRetention⟩

/-- What else happens: an agent's report is stored, or a process starts again, where `found` is what
it finds in the database. -/
inductive RetentionEnvironment
  | ingest (row : MetricRow)
  | restart (i : ProcessId) (found : Option (List String))

/-- A process that cannot read the files does not start. -/
def retentionEnv (e : RetentionEnvironment) (w : RetentionWorld) : RetentionWorld :=
  match e with
  | .ingest row => { w with metrics := w.metrics ++ [row] }
  | .restart i found =>
      match preparedEnv (w.processes i).baseEnv found w.disk with
      | .error _ => w
      | .ok env => w.setProcess i { baseEnv := (w.processes i).baseEnv, env }

/-- The calls under way. -/
abbrev RetentionConfig := Config ℕ RetentionWorld PendingRetentionCall

/-- What happens next. -/
abbrev RetentionEvent := Event ℕ RetentionRequest RetentionInput RetentionEnvironment

/-- One event. -/
abbrev retentionStep : RetentionConfig → RetentionEvent → RetentionConfig :=
  step retentionCalls retentionEnv

end MetricsRetentionService
