/-
# The installation

`install` of `setup.service.ts`, with the boot mode of `boot-mode.ts` that decides whether
a process that starts offers it.  What the installation changes is a list of effects, each
of which is done or not: a transaction of the migrations, the save of a row, an operation on
a file.

The database is the one that the requests name, and its tables are those that the migrations
create.  The lengths of the columns are left out: a row that does not fit is an installation
that stops there.
-/
import NoderaxApi.PlatformSettings
import NoderaxApi.Workspaces

/-! ## The boot mode -/

namespace Install

/-- `BootMode`. -/
inductive BootMode
  | setup
  | installed
  | legacy
  deriving DecidableEq, Repr

/-- `LEGACY_CORE_SCHEMA_TABLES`. -/
def legacyCoreSchemaTables : List String := ["users", "nodes", "tasks", "events", "metrics"]

/-- `LEGACY_SCHEMA_TABLES`. -/
def legacySchemaTables : List String := legacyCoreSchemaTables ++ ["enrollments", "scheduled_tasks"]

/-- `hasRequiredValue`, and `hasValue` of `database-env.utils.ts`. -/
def hasRequiredValue (value : Option String) : Bool := value.any fun value => jsTrim value ≠ ""

/-- `isInstallerSetupContext`. -/
def isInstallerSetupContext (env : EnvRecord) : Bool :=
  (env.get "NODERAX_RUNTIME_ROLE").map jsTrim = some "setup" ||
    hasRequiredValue (env.get "NODERAX_INSTALLER_PRESET_MODE")

/-- `DATABASE_ENV_ALIASES`. -/
def databaseEnvAliases : List (String × String) :=
  [("DATABASE_HOST", "DB_HOST"), ("DATABASE_PORT", "DB_PORT"),
    ("DATABASE_USERNAME", "DB_USERNAME"), ("DATABASE_PASSWORD", "DB_PASSWORD"),
    ("DATABASE_NAME", "DB_NAME"), ("DATABASE_SYNCHRONIZE", "DB_SYNCHRONIZE"),
    ("DATABASE_LOGGING", "DB_LOGGING"), ("DATABASE_SSL", "DB_SSL"),
    ("DATABASE_SSL_CA_FILE", "DB_SSL_CA_FILE")]

/-- One round of `normalizeDatabaseEnvAliases`. -/
def normalizeAlias (env : EnvRecord) (keys : String × String) : EnvRecord :=
  let canonicalValue := env.get keys.1
  let legacyValue := env.get keys.2
  if hasRequiredValue canonicalValue then env.spread [(keys.2, canonicalValue.getD "")]
  else if hasRequiredValue legacyValue then env.spread [(keys.1, legacyValue.getD "")]
  else env

/-- `normalizeDatabaseEnvAliases`. -/
def normalizeDatabaseEnvAliases (env : EnvRecord) : EnvRecord :=
  databaseEnvAliases.foldl normalizeAlias env

/-- `hasLegacyRuntimeEnv`. -/
def hasLegacyRuntimeEnv (env : EnvRecord) : Bool :=
  let env := normalizeDatabaseEnvAliases env
  let requiredKeys := ["DB_HOST", "DB_USERNAME", "DB_PASSWORD", "DB_NAME", "JWT_SECRET",
    "AGENT_ENROLLMENT_TOKEN"]
  let redisRequired := if env.get "REDIS_ENABLED" = some "false" then [] else ["REDIS_HOST"]
  (requiredKeys ++ redisRequired).all fun key => hasRequiredValue (env.get key)

/-- What `detectLegacySchemaState` answers. -/
inductive LegacySchemaState
  | present
  | incomplete
  | absent
  | unknown
  deriving DecidableEq, Repr

/-- `detectLegacySchemaState`, given the tables of the database that the environment names, if
it can be reached. -/
def detectLegacySchemaState (env : EnvRecord) (found : Option (List String)) : LegacySchemaState :=
  if !hasLegacyRuntimeEnv env then .absent
  else
    match found with
    | none => .unknown
    | some existingTables =>
        let hasAnyLegacyTable := legacySchemaTables.any fun name => name ∈ existingTables
        let hasCompleteCoreSchema := legacyCoreSchemaTables.all fun name => name ∈ existingTables
        if hasCompleteCoreSchema then .present
        else if hasAnyLegacyTable then .incomplete
        else .absent

/-- `resolveBootMode`. -/
def resolveBootMode (env : EnvRecord) (found : Option (List String))
    (installState : Option InstallState) : BootMode :=
  if isInstallerSetupContext env then .setup
  else if installState.isSome then .installed
  else if !hasLegacyRuntimeEnv env then .setup
  else
    match detectLegacySchemaState env found with
    | .present | .unknown => .legacy
    | .incomplete | .absent => .setup

/-- `prepareBootEnvironment`, given what `bootstrap` reads first; a file that cannot be read
stops the start. -/
def prepareBootEnvironment (env : EnvRecord) (found : Option (List String)) (disk : InstallDisk) :
    Except InstallFileError BootMode := do
  let installState ← readInstallState disk
  let _ ← readInstallSecrets disk
  .ok (resolveBootMode env found installState)

end Install

namespace SetupService

open AuthService Install KeyedTable PlatformSettingsService UsersService WorkspacesService

/-! ## Requests -/

/-- `ValidatePostgresConnectionDto`. -/
structure ValidatePostgresConnectionDto where
  host : String
  port : Option ℤ := some 5432
  username : String
  password : String
  database : String
  ssl : Option Bool := some false
  deriving DecidableEq, Repr

/-- `ValidateRedisConnectionDto`. -/
structure ValidateRedisConnectionDto where
  host : String
  port : Option ℤ := some 6379
  password : Option String := some ""
  db : Option ℤ := some 0
  deriving DecidableEq, Repr

/-- `SetupAdminDto`. -/
structure SetupAdminDto where
  name : String
  email : String
  password : String
  deriving DecidableEq, Repr

/-- `SetupWorkspaceDto`. -/
structure SetupWorkspaceDto where
  name : String
  slug : String
  defaultTimezone : String
  deriving DecidableEq, Repr

/-- `InstallSetupDto`. -/
structure InstallSetupDto where
  postgres : ValidatePostgresConnectionDto
  redis : ValidateRedisConnectionDto
  admin : SetupAdminDto
  workspace : SetupWorkspaceDto
  mail : MailSettingsDto
  deriving DecidableEq, Repr

/-! ## The world -/

/-- The database that the environment of a process names. -/
inductive LegacyDatabase
  /-- It cannot be reached. -/
  | unreachable
  /-- Another one than the installation fills, with its tables. -/
  | other (tables : List String)
  /-- The one that the installation fills. -/
  | same
  deriving DecidableEq, Repr

/-- The code outside the repository that the installation uses. -/
structure SetupPlatform (Token : Type) extends AccountPlatform Token where
  /-- The tables that each transaction of `runMigrations` creates. -/
  migrations : List (List String)
  /-- The environment in which a process starts. -/
  launchEnv : EnvRecord
  legacyDatabase : LegacyDatabase

/-- The database, with what its tables hold. -/
structure Database where
  /-- How many transactions of the migrations are done. -/
  migrated : ℕ := 0
  users : Table UserRow.key := Table.empty
  workspaces : Table Workspace.key := Table.empty
  memberships : Table WorkspaceMembership.key := Table.empty
  /-- How many rows each other table has. -/
  others : String → ℕ := fun _ => 0

/-- The process that answers the requests. -/
inductive Process
  /-- It could not start. -/
  | down
  /-- It runs, with its `NODERAX_BOOT_MODE`. -/
  | up (bootMode : Option BootMode)
  deriving DecidableEq, Repr

/-- The database, the state directory and the process. -/
structure SetupWorld where
  database : Database := {}
  disk : InstallDisk := {}
  process : Process := .up (some .setup)

/-- The tables that `isRecoverablePartialInstall` counts. -/
def runtimeTables : List String :=
  ["users", "workspaces", "workspace_memberships", "nodes", "tasks", "scheduled_tasks", "events",
    "metrics", "enrollments", "node_installs", "outbox_events"]

/-- The rows of a table, were it there. -/
def Database.storedRows (db : Database) (name : String) : ℕ :=
  if name = "users" then db.users.rows.length
  else if name = "workspaces" then db.workspaces.rows.length
  else if name = "workspace_memberships" then db.memberships.rows.length
  else db.others name

/-- A transaction of the migrations: the new tables are empty. -/
def Database.migrate (db : Database) (created : List String) : Database where
  migrated := db.migrated + 1
  users := if "users" ∈ created then Table.empty else db.users
  workspaces := if "workspaces" ∈ created then Table.empty else db.workspaces
  memberships := if "workspace_memberships" ∈ created then Table.empty else db.memberships
  others name := if name ∈ created then 0 else db.others name

/-- One thing that the installation changes. -/
inductive InstallEffect
  | migrate (created : List String)
  | saveUser (row : UserRow)
  | saveWorkspace (row : Workspace)
  | saveMembership (row : WorkspaceMembership)
  | file (operation : FileOperation)

/-- The world after an effect. -/
def InstallEffect.apply (w : SetupWorld) : InstallEffect → SetupWorld
  | .migrate created => { w with database := w.database.migrate created }
  | .saveUser row =>
      { w with database := { w.database with users := w.database.users.insert row } }
  | .saveWorkspace row =>
      { w with database := { w.database with workspaces := w.database.workspaces.insert row } }
  | .saveMembership row =>
      { w with database := { w.database with memberships := w.database.memberships.insert row } }
  | .file operation => { w with disk := operation.apply w.disk }

/-! ## Checks -/

/-- What `install` throws. -/
inductive SetupError
  | thrown (error : ThrownError)
  | file (error : InstallFileError)
  /-- There is no process to answer. -/
  | noAnswer
  deriving DecidableEq, Repr

/-- An error of the code that the modules share. -/
def orThrown {α : Type} (x : Except ThrownError α) : Except SetupError α :=
  x.mapError SetupError.thrown

/-- The modes of `SetupStatusResponseDto`. -/
inductive SetupMode
  | setup
  | promoting
  | installed
  | legacy
  deriving DecidableEq, Repr

/-- The mode that `getStatus` answers. -/
def getStatus (w : SetupWorld) : Except SetupError SetupMode :=
  match w.process with
  | .down => .error .noAnswer
  | .up bootMode =>
      match readInstallTransitionState w.disk with
      | .error error => .error (.file error)
      | .ok transition =>
          if transition.any fun transition => transition.status = "promoting" then .ok .promoting
          else
            match bootMode with
            | some .installed => .ok .installed
            | some .legacy => .ok .legacy
            | some .setup | none => .ok .setup

/-- `assertSetupOpen`. -/
def assertSetupOpen (w : SetupWorld) : Except SetupError Unit := do
  let status ← getStatus w
  orThrown (refuse (status ≠ .setup || hasInstallState w.disk)
    (.conflict "Setup already completed."))

/-- What the installation needs of its surroundings: the message of what fails. -/
structure SetupHost where
  postgres : Option String := none
  redis : Option String := none
  stateDirectory : Option String := none
  /-- The connection of `isRecoverablePartialInstall` is made. -/
  snapshotConnects : Bool := true
  extensions : Option String := none
  deriving DecidableEq, Repr

/-- A request is bad if its surroundings fail. -/
def probe (failure : Option String) (text : String → String) : Except SetupError Unit :=
  failure.elim (.ok ()) fun message => .error (.thrown (.http (.badRequest (text message))))

section Install

variable {Token : Type} (platform : SetupPlatform Token)

/-- The tables after some transactions of the migrations. -/
def tablesAt (migrated : ℕ) : List String := (platform.migrations.take migrated).flatten

/-- The tables of the database. -/
def Database.tables (db : Database) : List String := tablesAt platform db.migrated

/-- The `databaseEmpty` of `probePostgres`. -/
def databaseEmpty (db : Database) : Bool := (db.tables platform).isEmpty

/-- `SELECT COUNT(*)`, which fails for a table that is not there. -/
def Database.countRows (db : Database) (name : String) : Option ℕ :=
  if name ∈ db.tables platform then some (db.storedRows name) else none

/-- `isRecoverablePartialInstall`, once connected. -/
def isRecoverablePartialInstall (db : Database) : Bool :=
  let presentTables := db.tables platform
  if "users" ∉ presentTables || "workspaces" ∉ presentTables ||
      "workspace_memberships" ∉ presentTables then
    false
  else
    match runtimeTables.mapM (db.countRows platform) with
    | none => false
    | some counts => counts.all fun count => count = 0

/-- The checks of `install`, in their order; it answers `normalizedTimezone`. -/
def checkInstall (host : SetupHost) (w : SetupWorld) (dto : InstallSetupDto) :
    Except SetupError String := do
  assertSetupOpen w
  let normalizedTimezone ←
    orThrown (assertValidTimeZone platform.toAccountPlatform dto.workspace.defaultTimezone)
  orThrown (refuse (normalizedTimezone = "") (.badRequest "Workspace timezone is invalid."))
  probe host.postgres fun message => s!"PostgreSQL connection failed: {message}"
  probe host.redis fun message => s!"Redis connection failed: {message}"
  probe host.stateDirectory id
  let recoverablePartialInstall :=
    host.snapshotConnects && isRecoverablePartialInstall platform w.database
  orThrown (refuse (!databaseEmpty platform w.database && !recoverablePartialInstall)
    (.conflict "Database is not empty. Use manual migration for existing deployments."))
  probe host.extensions fun message => s!"PostgreSQL extension bootstrap failed: {message}"
  .ok normalizedTimezone

/-! ## What is written -/

/-- What an installation draws and reads besides its request. -/
structure InstallInput where
  processEnv : EnvRecord
  adminId : Uuid
  workspaceId : Uuid
  membershipId : Uuid
  salt : String
  /-- What `generateSecret` answers, in the order of its calls. -/
  secretsEncryptionKey : String
  jwtSecret : String
  agentEnrollmentToken : String
  now : ℤ
  installedAt : String
  secretsUpdatedAt : String
  transitionUpdatedAt : String
  deriving DecidableEq, Repr

/-- `DEFAULT_BCRYPT_SALT_ROUNDS`. -/
def defaultBcryptSaltRounds : ℕ := 12

/-- `value ? 'true' : 'false'`. -/
def flagText (value : Bool) : String := if value then "true" else "false"

/-- `buildRuntimeEnv`. -/
def buildRuntimeEnv (dto : InstallSetupDto) (input : InstallInput) : EnvRecord :=
  let processEnv := input.processEnv
  let secretsEncryptionKey :=
    (trimToNull (processEnv.get "SECRETS_ENCRYPTION_KEY")).getD input.secretsEncryptionKey
  [("DATABASE_HOST", dto.postgres.host),
    ("DB_HOST", dto.postgres.host),
    ("DATABASE_PORT", toString (dto.postgres.port.getD 5432)),
    ("DB_PORT", toString (dto.postgres.port.getD 5432)),
    ("DATABASE_USERNAME", dto.postgres.username),
    ("DB_USERNAME", dto.postgres.username),
    ("DATABASE_PASSWORD", dto.postgres.password),
    ("DB_PASSWORD", dto.postgres.password),
    ("DATABASE_NAME", dto.postgres.database),
    ("DB_NAME", dto.postgres.database),
    ("DATABASE_SSL", flagText (dto.postgres.ssl.getD false)),
    ("DB_SSL", flagText (dto.postgres.ssl.getD false)),
    ("DATABASE_SYNCHRONIZE", "false"),
    ("DB_SYNCHRONIZE", "false"),
    ("DATABASE_LOGGING", "false"),
    ("DB_LOGGING", "false"),
    ("REDIS_ENABLED", "true"),
    ("REDIS_HOST", dto.redis.host),
    ("REDIS_PORT", toString (dto.redis.port.getD 6379)),
    ("REDIS_PASSWORD", dto.redis.password.getD ""),
    ("REDIS_DB", toString (dto.redis.db.getD 0)),
    ("REDIS_URL", ""),
    ("REDIS_KEY_PREFIX", (processEnv.get "REDIS_KEY_PREFIX").getD "noderax:"),
    ("SMTP_HOST", dto.mail.smtpHost),
    ("SMTP_PORT", toString dto.mail.smtpPort),
    ("SMTP_SECURE", flagText dto.mail.smtpSecure),
    ("SMTP_USERNAME", dto.mail.smtpUsername),
    ("SMTP_PASSWORD", dto.mail.smtpPassword),
    ("SMTP_FROM_EMAIL", dto.mail.fromEmail),
    ("SMTP_FROM_NAME", dto.mail.fromName),
    ("WEB_APP_URL", dto.mail.webAppUrl),
    ("JWT_SECRET", input.jwtSecret),
    ("JWT_EXPIRES_IN", (processEnv.get "JWT_EXPIRES_IN").getD "1d"),
    ("BCRYPT_SALT_ROUNDS",
      (processEnv.get "BCRYPT_SALT_ROUNDS").getD (toString defaultBcryptSaltRounds)),
    ("SECRETS_ENCRYPTION_KEY", secretsEncryptionKey),
    ("AGENT_ENROLLMENT_TOKEN", input.agentEnrollmentToken),
    ("SEED_DEFAULT_ADMIN", "false"),
    (installerManagedFlag, "true")]

/-- `adminUser`. -/
def adminUser (dto : InstallSetupDto) (normalizedTimezone : String) (input : InstallInput) :
    UserRow where
  id := input.adminId
  email := platform.toLowerCase dto.admin.email
  name := jsTrim dto.admin.name
  passwordHash := some (platform.hash input.salt dto.admin.password)
  role := .platformAdmin
  timezone := normalizedTimezone
  isActive := true
  inviteStatus := .accepted
  activatedAt := some input.now
  criticalEventEmailsEnabled := true
  enrollmentEmailsEnabled := true
  sessionVersion := 0

/-- `workspace`. -/
def firstWorkspace (dto : InstallSetupDto) (normalizedTimezone : String) (input : InstallInput) :
    Workspace where
  id := input.workspaceId
  name := jsTrim dto.workspace.name
  slug := platform.toLowerCase (jsTrim dto.workspace.slug)
  defaultTimezone := normalizedTimezone
  createdByUserId := some input.adminId
  isArchived := false
  isDefault := true

/-- The rows that are saved. -/
def rowEffects (dto : InstallSetupDto) (normalizedTimezone : String) (input : InstallInput) :
    List InstallEffect :=
  [.saveUser (adminUser platform dto normalizedTimezone input),
    .saveWorkspace (firstWorkspace platform dto normalizedTimezone input),
    .saveMembership ⟨⟨input.workspaceId, input.adminId, .owner⟩, input.membershipId⟩]

/-- The operations on the files. -/
def fileOperations (disk : InstallDisk) (dto : InstallSetupDto) (input : InstallInput) :
    List FileOperation :=
  let split := splitInstallerEnv (buildRuntimeEnv dto input)
  clearInstallTransitionState disk ++
    writeInstallState "installer" input.installedAt split.managedEnv ++
    writeInstallSecrets disk split.secretEnv input.secretsUpdatedAt ++
    writeInstallTransitionState "promoting" "runtime_ha"
      (some [("publicOrigin", dto.mail.webAppUrl)]) input.transitionUpdatedAt

/-- The transactions that `runMigrations` still has to do. -/
def pendingMigrations (db : Database) : List (List String) := platform.migrations.drop db.migrated

/-- `install`: its effects, in their order. -/
def install (host : SetupHost) (w : SetupWorld) (dto : InstallSetupDto) (input : InstallInput) :
    Except SetupError (List InstallEffect) := do
  let normalizedTimezone ← checkInstall platform host w dto
  .ok ((pendingMigrations platform w.database).map InstallEffect.migrate ++
    rowEffects platform dto normalizedTimezone input ++
    (fileOperations w.disk dto input).map InstallEffect.file)

/-- The world when an installation has done `n` effects, or all that it has. -/
def stoppedInstall (host : SetupHost) (w : SetupWorld) (dto : InstallSetupDto)
    (input : InstallInput) (n : ℕ) : SetupWorld :=
  match install platform host w dto input with
  | .error _ => w
  | .ok effects => (effects.take n).foldl InstallEffect.apply w

/-! ## Starting again -/

/-- What the connection of `detectLegacySchemaState` finds, given the tables of the database
that the installation fills. -/
def legacyTables (tables : List String) : Option (List String) :=
  match platform.legacyDatabase with
  | .unreachable => none
  | .other tables => some tables
  | .same => some tables

/-- The process is started again. -/
def restart (w : SetupWorld) : SetupWorld :=
  { w with
    process :=
      match prepareBootEnvironment platform.launchEnv
          (legacyTables platform (w.database.tables platform)) w.disk with
      | .error _ => .down
      | .ok bootMode => .up (some bootMode) }

end Install

end SetupService
