/-
# Saving platform settings

`updateSettings` of `platform-settings.service.ts` writes the install state without the
secrets, and then the file of the secrets.  Between the two renames a secret that an older
state carried inline is in neither file.

**`secretsKept_iff`**: stopped after any number of its file operations, an update loses no
secret if and only if it is not stopped between the two renames, or every secret that the
state carried is in the file of the secrets too.
-/
import NoderaxApi.InstallState

namespace PlatformSettingsService

open Install

/-! ## Requests -/

/-- `PlatformAppSettingsDto`. -/
structure AppSettings where
  corsOrigin : String
  swaggerEnabled : Bool
  swaggerPath : String
  deriving DecidableEq, Repr

/-- `PlatformDatabaseSettingsDto`. -/
structure DatabaseSettings where
  host : String
  port : ℤ
  username : String
  password : String
  database : String
  synchronize : Bool
  logging : Bool
  ssl : Bool
  deriving DecidableEq, Repr

/-- `PlatformRedisSettingsDto`. -/
structure RedisSettings where
  enabled : Bool
  url : String
  host : String
  port : ℤ
  password : String
  db : ℤ
  keyPrefix : String
  deriving DecidableEq, Repr

/-- `PlatformAuthSettingsDto`. -/
structure AuthSettings where
  jwtSecret : String
  jwtExpiresIn : String
  bcryptSaltRounds : ℤ
  deriving DecidableEq, Repr

/-- `PlatformAgentSettingsDto`; `highCpuThreshold` is the text that `String` makes of it. -/
structure AgentSettings where
  heartbeatTimeoutSeconds : ℤ
  offlineCheckIntervalSeconds : ℤ
  realtimePingTimeoutSeconds : ℤ
  realtimePingCheckIntervalSeconds : ℤ
  taskClaimLeaseSeconds : ℤ
  staleTaskCheckIntervalSeconds : ℤ
  staleQueuedTaskTimeoutSeconds : ℤ
  staleRunningTaskTimeoutSeconds : ℤ
  enableRealtimeTaskDispatch : Bool
  enrollmentToken : String
  highCpuThreshold : String
  deriving DecidableEq, Repr

/-- `MailSettingsDto`. -/
structure MailSettingsDto where
  smtpHost : String
  smtpPort : ℤ
  smtpSecure : Bool
  smtpUsername : String
  smtpPassword : String
  fromEmail : String
  fromName : String
  webAppUrl : String
  deriving DecidableEq, Repr

/-- `UpdatePlatformSettingsDto`. -/
structure UpdatePlatformSettingsDto where
  app : AppSettings
  database : DatabaseSettings
  redis : RedisSettings
  auth : AuthSettings
  mail : MailSettingsDto
  agents : AgentSettings
  deriving DecidableEq, Repr

/-- `PLATFORM_SETTINGS_ENV_KEYS`. -/
def platformSettingsEnvKeys : List String :=
  ["CORS_ORIGIN", "SWAGGER_ENABLED", "SWAGGER_PATH", "DATABASE_HOST", "DATABASE_PORT",
    "DATABASE_USERNAME", "DATABASE_PASSWORD", "DATABASE_NAME", "DATABASE_SYNCHRONIZE",
    "DATABASE_LOGGING", "DATABASE_SSL", "DB_HOST", "DB_PORT", "DB_USERNAME", "DB_PASSWORD",
    "DB_NAME", "DB_SYNCHRONIZE", "DB_LOGGING", "DB_SSL", "REDIS_ENABLED", "REDIS_URL",
    "REDIS_HOST", "REDIS_PORT", "REDIS_PASSWORD", "REDIS_DB", "REDIS_KEY_PREFIX", "JWT_SECRET",
    "JWT_EXPIRES_IN", "BCRYPT_SALT_ROUNDS", "SMTP_HOST", "SMTP_PORT", "SMTP_SECURE",
    "SMTP_USERNAME", "SMTP_PASSWORD", "SMTP_FROM_EMAIL", "SMTP_FROM_NAME", "WEB_APP_URL",
    "AGENT_HEARTBEAT_TIMEOUT_SECONDS", "AGENT_OFFLINE_CHECK_INTERVAL_SECONDS",
    "AGENT_REALTIME_PING_TIMEOUT_SECONDS", "AGENT_REALTIME_PING_CHECK_INTERVAL_SECONDS",
    "AGENT_TASK_CLAIM_LEASE_SECONDS", "AGENT_STALE_TASK_CHECK_INTERVAL_SECONDS",
    "AGENT_STALE_QUEUED_TASK_TIMEOUT_SECONDS", "AGENT_STALE_RUNNING_TASK_TIMEOUT_SECONDS",
    "ENABLE_REALTIME_TASK_DISPATCH", "AGENT_ENROLLMENT_TOKEN", "AGENT_HIGH_CPU_THRESHOLD"]

/-- `serializeSettings`. -/
def serializeSettings (settings : UpdatePlatformSettingsDto) : EnvRecord :=
  [("CORS_ORIGIN", settings.app.corsOrigin),
    ("SWAGGER_ENABLED", toString settings.app.swaggerEnabled),
    ("SWAGGER_PATH", settings.app.swaggerPath),
    ("DATABASE_HOST", settings.database.host),
    ("DB_HOST", settings.database.host),
    ("DATABASE_PORT", toString settings.database.port),
    ("DB_PORT", toString settings.database.port),
    ("DATABASE_USERNAME", settings.database.username),
    ("DB_USERNAME", settings.database.username),
    ("DATABASE_PASSWORD", settings.database.password),
    ("DB_PASSWORD", settings.database.password),
    ("DATABASE_NAME", settings.database.database),
    ("DB_NAME", settings.database.database),
    ("DATABASE_SYNCHRONIZE", toString settings.database.synchronize),
    ("DB_SYNCHRONIZE", toString settings.database.synchronize),
    ("DATABASE_LOGGING", toString settings.database.logging),
    ("DB_LOGGING", toString settings.database.logging),
    ("DATABASE_SSL", toString settings.database.ssl),
    ("DB_SSL", toString settings.database.ssl),
    ("REDIS_ENABLED", toString settings.redis.enabled),
    ("REDIS_URL", settings.redis.url),
    ("REDIS_HOST", settings.redis.host),
    ("REDIS_PORT", toString settings.redis.port),
    ("REDIS_PASSWORD", settings.redis.password),
    ("REDIS_DB", toString settings.redis.db),
    ("REDIS_KEY_PREFIX", settings.redis.keyPrefix),
    ("JWT_SECRET", settings.auth.jwtSecret),
    ("JWT_EXPIRES_IN", settings.auth.jwtExpiresIn),
    ("BCRYPT_SALT_ROUNDS", toString settings.auth.bcryptSaltRounds),
    ("SMTP_HOST", settings.mail.smtpHost),
    ("SMTP_PORT", toString settings.mail.smtpPort),
    ("SMTP_SECURE", toString settings.mail.smtpSecure),
    ("SMTP_USERNAME", settings.mail.smtpUsername),
    ("SMTP_PASSWORD", settings.mail.smtpPassword),
    ("SMTP_FROM_EMAIL", settings.mail.fromEmail),
    ("SMTP_FROM_NAME", settings.mail.fromName),
    ("WEB_APP_URL", settings.mail.webAppUrl),
    ("AGENT_HEARTBEAT_TIMEOUT_SECONDS", toString settings.agents.heartbeatTimeoutSeconds),
    ("AGENT_OFFLINE_CHECK_INTERVAL_SECONDS", toString settings.agents.offlineCheckIntervalSeconds),
    ("AGENT_REALTIME_PING_TIMEOUT_SECONDS", toString settings.agents.realtimePingTimeoutSeconds),
    ("AGENT_REALTIME_PING_CHECK_INTERVAL_SECONDS",
      toString settings.agents.realtimePingCheckIntervalSeconds),
    ("AGENT_TASK_CLAIM_LEASE_SECONDS", toString settings.agents.taskClaimLeaseSeconds),
    ("AGENT_STALE_TASK_CHECK_INTERVAL_SECONDS",
      toString settings.agents.staleTaskCheckIntervalSeconds),
    ("AGENT_STALE_QUEUED_TASK_TIMEOUT_SECONDS",
      toString settings.agents.staleQueuedTaskTimeoutSeconds),
    ("AGENT_STALE_RUNNING_TASK_TIMEOUT_SECONDS",
      toString settings.agents.staleRunningTaskTimeoutSeconds),
    ("ENABLE_REALTIME_TASK_DISPATCH", toString settings.agents.enableRealtimeTaskDispatch),
    ("AGENT_ENROLLMENT_TOKEN", settings.agents.enrollmentToken),
    ("AGENT_HIGH_CPU_THRESHOLD", settings.agents.highCpuThreshold),
    (installerManagedFlag, "true")]

/-! ## The update -/

/-- What `updateSettings` throws. -/
inductive UpdateError
  | http (error : HttpError)
  | file (error : InstallFileError)
  deriving DecidableEq, Repr

/-- An error of a file. -/
def orFileError {α : Type} (x : Except InstallFileError α) : Except UpdateError α :=
  x.mapError UpdateError.file

/-- `isInstallerManagedDeployment`. -/
def isInstallerManagedDeployment (processEnv : EnvRecord) (disk : InstallDisk) :
    Except UpdateError Bool :=
  if processEnv.get installerManagedFlag = some "true" then .ok true
  else orFileError ((readInstallState disk).map Option.isSome)

/-- `readCurrentRuntimeEnv`. -/
def readCurrentRuntimeEnv (processEnv : EnvRecord) (disk : InstallDisk) :
    Except UpdateError EnvRecord := do
  let installState ← orFileError (readInstallState disk)
  let installSecrets ← orFileError (readInstallSecrets disk)
  let envFromProcess := platformSettingsEnvKeys.map fun key => (key, (processEnv.get key).getD "")
  .ok ((EnvRecord.spread envFromProcess ((installState.map InstallState.managedEnv).getD [])).spread
    (installSecrets.getD []))

/-- The file operations of `updateSettings`; `now` is the time it reads. -/
def updateSettings (processEnv : EnvRecord) (disk : InstallDisk) (dto : UpdatePlatformSettingsDto)
    (now : String) : Except UpdateError (List FileOperation) := do
  let editable ← isInstallerManagedDeployment processEnv disk
  if !editable then
    .error (.http (.conflict
      "Platform settings can only be updated for installer-managed deployments."))
  else do
    let installState ← orFileError (readInstallState disk)
    let currentEnv ← readCurrentRuntimeEnv processEnv disk
    let nextRuntimeEnv := (currentEnv.spread (serializeSettings dto)).spread
      [(installerManagedFlag, "true")]
    let split := splitInstallerEnv nextRuntimeEnv
    let source := (installState.map InstallState.source).getD "installer"
    let installedAt := (installState.map InstallState.installedAt).getD now
    .ok (writeInstallState source installedAt split.managedEnv ++
      writeInstallSecrets disk split.secretEnv now)

/-- The directory when an update stops after `n` of its file operations. -/
def stoppedUpdate (processEnv : EnvRecord) (disk : InstallDisk) (dto : UpdatePlatformSettingsDto)
    (now : String) (n : ℕ) : InstallDisk :=
  match updateSettings processEnv disk dto now with
  | .error _ => disk
  | .ok operations => (operations.take n).foldl FileOperation.apply disk

/-! ## The condition and the property -/

/-- Every secret that could be read before can be read after, with its old or its new value. -/
def SecretsKept (disk disk' : InstallDisk) (dto : UpdatePlatformSettingsDto) : Prop :=
  ∀ key ∈ installSecretKeys, ∀ old ∈ readableEnv disk key,
    old ∈ readableEnv disk' key ∨
      ∃ new ∈ (serializeSettings dto).get key, new ∈ readableEnv disk' key

/-- Every secret that the state carries is in the file of the secrets, if both can be read. -/
def SecretsInFile (disk : InstallDisk) : Prop :=
  ∀ state secrets, readInstallState disk = .ok state → readInstallSecrets disk = .ok secrets →
    ∀ key ∈ installSecretKeys, ((state.bind fun state => state.managedEnv.get key)).isSome = true →
      (secrets.bind fun secrets => secrets.get key).isSome = true

/-! ## What an update leaves -/

variable {processEnv : EnvRecord} {disk : InstallDisk} {dto : UpdatePlatformSettingsDto}
  {now : String}

theorem orFileError_ok {α : Type} {x : Except InstallFileError α} {a : α} :
    orFileError x = .ok a ↔ x = .ok a :=
  mapError_eq_ok

/-- `readInstallState` answers only with what the installer wrote. -/
theorem source_of_readInstallState {state : InstallState}
    (h : readInstallState disk = .ok (some state)) : state.source = "installer" := by
  unfold readInstallState at h
  split at h
  · cases h
  · cases h
  · next parsed hparsed =>
      simp only at h
      split at h
      · cases h
      · split at h
        · cases h
        · next hvalid =>
            obtain rfl := Option.some.inj (Except.ok.inj h)
            simp only [Bool.or_eq_true, not_or, decide_eq_true_eq, ne_eq, not_not] at hvalid
            exact hvalid.2

/-- The secret that `updateSettings` finds is the one that a restart reads. -/
theorem get_currentEnv {currentEnv : EnvRecord}
    (hcurrent : readCurrentRuntimeEnv processEnv disk = .ok currentEnv) {key old : String}
    (hold : readableEnv disk key = some old) : currentEnv.get key = some old := by
  obtain ⟨state, hstate, hrest⟩ := bind_eq_ok.mp hcurrent
  obtain ⟨secrets, hsecrets, hrest⟩ := bind_eq_ok.mp hrest
  rw [orFileError_ok] at hstate hsecrets
  obtain rfl := Except.ok.inj hrest
  rw [readableEnv_of_reads hstate hsecrets] at hold
  rw [get_spread, get_spread, get_getD_nil, get_getD_nil, Option.bind_map, ← Option.or_assoc]
  exact (congrArg (Option.or · _) hold).trans Option.some_or

/-- The operations that write an environment. -/
def writeOperations (installedAt now : String) (env : EnvRecord) : List FileOperation :=
  [.writeStateTemp (persistedState "installer" installedAt (splitInstallerEnv env).managedEnv),
    .renameState, .writeSecretsTemp (secretsPayload (splitInstallerEnv env).secretEnv now),
    .renameSecrets]

theorem not_flag_of_secretKey {key : String} (hkey : key ∈ installSecretKeys) :
    key ≠ installerManagedFlag := by
  rintro rfl
  revert hkey
  decide

/-- **What an update writes.**  A secret that could be read keeps its value, unless the
settings that were sent give it a new one. -/
theorem updateOperations {operations : List FileOperation}
    (hok : updateSettings processEnv disk dto now = .ok operations) :
    ∃ installedAt nextEnv, operations = writeOperations installedAt now nextEnv ∧
      ∀ key ∈ installSecretKeys, ∀ old ∈ readableEnv disk key,
        nextEnv.get key = ((serializeSettings dto).get key).or (some old) := by
  obtain ⟨editable, -, hrest⟩ := bind_eq_ok.mp hok
  split at hrest
  · cases hrest
  obtain ⟨state, hstate, hrest⟩ := bind_eq_ok.mp hrest
  obtain ⟨currentEnv, hcurrent, hrest⟩ := bind_eq_ok.mp hrest
  rw [orFileError_ok] at hstate
  have hsource : (state.map InstallState.source).getD "installer" = "installer" := by
    cases state with
    | none => rfl
    | some state => exact source_of_readInstallState hstate
  generalize hnext : (currentEnv.spread (serializeSettings dto)).spread
    [(installerManagedFlag, "true")] = nextEnv at hrest
  -- the settings that were sent have a password, so there are secrets to write
  have hpassword : nextEnv.get "DATABASE_PASSWORD" = some dto.database.password := by
    rw [← hnext, get_spread, get_spread]
    rfl
  simp only [hsource, writeInstallSecrets_of_get
    (by decide : "DATABASE_PASSWORD" ∈ installSecretKeys) hpassword] at hrest
  refine ⟨_, nextEnv, (Except.ok.inj hrest).symm, ?_⟩
  intro key hkey old hold
  have hflag : EnvRecord.get [(installerManagedFlag, "true")] key = none := by
    rw [EnvRecord.get, List.lookup_cons, beq_eq_false_iff_ne.mpr (not_flag_of_secretKey hkey)]
    rfl
  rw [← hnext, get_spread, get_spread, hflag, Option.none_or, get_currentEnv hcurrent hold]

/-! ## When no secret is lost -/

/-- A directory in which the same is read keeps every secret. -/
theorem secretsKept_of_readable {disk' : InstallDisk}
    (h : ∀ key ∈ installSecretKeys, readableEnv disk' key = readableEnv disk key) :
    SecretsKept disk disk' dto := by
  intro key hkey old hold
  rw [h key hkey]
  exact .inl hold

/-- **Both renames done, no secret is lost.** -/
theorem secretsKept_of_written {installedAt : String} {nextEnv : EnvRecord}
    (hnext : ∀ key ∈ installSecretKeys, ∀ old ∈ readableEnv disk key,
      nextEnv.get key = ((serializeSettings dto).get key).or (some old)) :
    SecretsKept disk
      ((writeOperations installedAt now nextEnv).foldl FileOperation.apply disk) dto := by
  intro key hkey old hold
  rw [readableEnv_of_payload rfl rfl hkey, hnext key hkey old hold]
  cases hnew : (serializeSettings dto).get key with
  | none => exact .inl rfl
  | some new => exact .inr ⟨new, rfl, rfl⟩

/-- **Between the two renames** a secret is kept just if it was in the file of the secrets. -/
theorem secretsKept_between {installedAt : String} {nextEnv : EnvRecord} {written : InstallDisk}
    (hstate : written.state =
      .holds (persistedState "installer" installedAt (splitInstallerEnv nextEnv).managedEnv))
    (hfile : written.secrets = disk.secrets) :
    SecretsKept disk written dto ↔ SecretsInFile disk := by
  have hsame : readInstallSecrets written = readInstallSecrets disk := by
    rw [readInstallSecrets, readInstallSecrets, hfile]
  constructor
  · intro hkept state secrets hreadState hreadSecrets key hkey hcarried
    have hafter : readableEnv written key = secrets.bind fun secrets => secrets.get key :=
      readableEnv_of_persisted hstate (hsame.trans hreadSecrets) hkey
    obtain ⟨old, hold⟩ : ∃ old, readableEnv disk key = some old := by
      rw [readableEnv_of_reads hreadState hreadSecrets, ← Option.isSome_iff_exists,
        Option.isSome_or, hcarried, Bool.or_true]
    rw [← hafter]
    obtain hkept | ⟨new, -, hkept⟩ := hkept key hkey old hold
    · exact Option.isSome_of_mem hkept
    · exact Option.isSome_of_mem hkept
  · intro hinFile key hkey old hold
    obtain ⟨state, secrets, hreadState, hreadSecrets⟩ := reads_of_readable hold
    have hafter : readableEnv written key = secrets.bind fun secrets => secrets.get key :=
      readableEnv_of_persisted hstate (hsame.trans hreadSecrets) hkey
    have hbefore := readableEnv_of_reads hreadState hreadSecrets key
    left
    cases hsecret : secrets.bind fun secrets => secrets.get key with
    | some value =>
        rw [hsecret, Option.some_or, hold] at hbefore
        rw [hafter, hsecret, ← hbefore]
        rfl
    | none =>
        -- then the state carried it, and the condition puts it in the file
        rw [hsecret, Option.none_or, hold] at hbefore
        have hinSecrets := hinFile state secrets hreadState hreadSecrets key hkey
          (by rw [← hbefore]; rfl)
        rw [hsecret] at hinSecrets
        cases hinSecrets

/-- An update whose files can be read, and whose state is there, is not refused. -/
theorem updateSettings_ok {state : InstallState} {secrets : Option EnvRecord}
    (hstate : readInstallState disk = .ok (some state))
    (hsecrets : readInstallSecrets disk = .ok secrets) :
    ∃ operations, updateSettings processEnv disk dto now = .ok operations := by
  have heditable : isInstallerManagedDeployment processEnv disk = .ok true := by
    rw [isInstallerManagedDeployment, hstate]
    split <;> rfl
  rw [updateSettings, heditable, readCurrentRuntimeEnv, hstate, hsecrets]
  exact ⟨_, rfl⟩

/-- Where an update is refused, no state carries a secret. -/
theorem secretsInFile_of_refused {error : UpdateError}
    (herror : updateSettings processEnv disk dto now = .error error) : SecretsInFile disk := by
  intro state secrets hstate hsecrets key _ hcarried
  cases state with
  | none => cases hcarried
  | some state =>
      obtain ⟨operations, hok⟩ : ∃ operations,
          updateSettings processEnv disk dto now = .ok operations :=
        updateSettings_ok hstate hsecrets
      rw [herror] at hok
      cases hok

/-- **An update loses no secret if and only if it is not stopped between its two renames, or
every secret that the state carried is in the file of the secrets.** -/
theorem secretsKept_iff (processEnv : EnvRecord) (disk : InstallDisk)
    (dto : UpdatePlatformSettingsDto) (now : String) (n : ℕ) :
    SecretsKept disk (stoppedUpdate processEnv disk dto now n) dto ↔
      n ≤ 1 ∨ 4 ≤ n ∨ SecretsInFile disk := by
  rw [stoppedUpdate]
  cases hupdate : updateSettings processEnv disk dto now with
  | error error =>
      exact iff_of_true (secretsKept_of_readable fun _ _ => rfl)
        (.inr (.inr (secretsInFile_of_refused hupdate)))
  | ok operations =>
      obtain ⟨installedAt, nextEnv, rfl, hnext⟩ := updateOperations hupdate
      match n with
      | 0 => exact iff_of_true (secretsKept_of_readable fun _ _ => rfl) (.inl (Nat.zero_le 1))
      | 1 => exact iff_of_true (secretsKept_of_readable fun _ _ => rfl) (.inl le_rfl)
      | 2 | 3 =>
          rw [or_iff_right (by omega), or_iff_right (by omega)]
          exact secretsKept_between rfl rfl
      | n + 4 =>
          have htake : (writeOperations installedAt now nextEnv).take (n + 4)
              = writeOperations installedAt now nextEnv :=
            List.take_of_length_le (by simp [writeOperations])
          simp only [htake]
          exact iff_of_true (secretsKept_of_written hnext) (.inr (.inl (by omega)))

/-- A directory of the first version: the state carries the secrets, and there is no other
file. -/
def inlineDisk : InstallDisk where
  state := .holds
    { version := 1, installedAt := "2024-01-01T00:00:00.000Z",
      runtimeEnv := some [("DATABASE_HOST", "db"), ("DATABASE_PASSWORD", "db-secret"),
        ("JWT_SECRET", "jwt-secret"), ("SECRETS_ENCRYPTION_KEY", "encryption-secret")] }

/-- Settings as the form sends them. -/
def sampleSettings : UpdatePlatformSettingsDto where
  app := ⟨"https://noderax.example.com", false, "docs"⟩
  database := ⟨"db", 5432, "noderax", "db-secret", "noderax", false, false, false⟩
  redis := ⟨true, "", "redis", 6379, "", 0, "noderax:"⟩
  auth := ⟨"jwt-secret", "15m", 12⟩
  mail := ⟨"smtp", 587, false, "", "", "noderax@example.com", "Noderax",
    "https://noderax.example.com"⟩
  agents := ⟨90, 30, 45, 10, 30, 60, 900, 3600, true, "", "90"⟩

/-- Stopped after the rename of the state, the update has lost the secrets. -/
theorem inlineSecrets_lost :
    (¬ ∀ (processEnv : EnvRecord) (disk : InstallDisk) (dto : UpdatePlatformSettingsDto)
      (now : String) (n : ℕ), SecretsKept disk (stoppedUpdate processEnv disk dto now n) dto) ∧
    (["JWT_SECRET", "SECRETS_ENCRYPTION_KEY"].map fun key => (readableEnv inlineDisk key,
      readableEnv (stoppedUpdate [] inlineDisk sampleSettings "2024-06-01T00:00:00.000Z" 2) key)) =
      [(some "jwt-secret", none), (some "encryption-secret", none)] := by
  have hread : (["JWT_SECRET", "SECRETS_ENCRYPTION_KEY"].map fun key => (readableEnv inlineDisk key,
      readableEnv (stoppedUpdate [] inlineDisk sampleSettings "2024-06-01T00:00:00.000Z" 2) key)) =
      [(some "jwt-secret", none), (some "encryption-secret", none)] := by decide +kernel
  refine ⟨fun hall => ?_, hread⟩
  obtain ⟨hsaved, hlost⟩ := Prod.mk.inj (List.cons.inj hread).1
  have hkept := hall [] inlineDisk sampleSettings "2024-06-01T00:00:00.000Z" 2 "JWT_SECRET"
    (by decide) "jwt-secret" hsaved
  obtain hkept | ⟨new, -, hkept⟩ := hkept
  · rw [hlost] at hkept
    cases hkept
  · rw [hlost] at hkept
    cases hkept

end PlatformSettingsService
