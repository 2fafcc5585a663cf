/-
# The migration to workspaces

`onApplicationBootstrap` of `workspace-data.bootstrap.ts`, cut at its queries.  Every API
instance of a deployment without the installer runs it when it starts, and any number of them
may start at a time; each query is a transaction of its own.

Only the columns that a query reads or writes are there.  The candidates for the default
workspace are not sorted: at most one of them is the default one, and at most one has the slug.
`ORDER BY "createdAt"` leaves open which of several rows with one creation time comes first; here
every query takes the one that is first in the table.
-/
import NoderaxApi.Interleaving
import NoderaxApi.InstallState
import NoderaxApi.ScheduledTasks
import NoderaxApi.TeamMembers

namespace WorkspaceDataBootstrap

open Interleaving KeyedTable ScheduledTasksService WorkspacesService

/-! ## Rows -/

/-- The role column of a user; `admin` is the value from before there were workspaces. -/
inductive StoredRole
  | platformAdmin
  | admin
  | user
  deriving DecidableEq, Repr

/-- A row of `users`. -/
structure StoredUser where
  id : Uuid
  role : StoredRole := .user
  timezone : String := "UTC"
  createdAt : ℤ
  deriving DecidableEq, Repr

/-- The tables that got a `workspaceId`. -/
inductive BackfillTarget
  | nodes
  | tasks
  | events
  | metrics
  | scheduledTasks
  | enrollments
  deriving DecidableEq, Repr

/-- The tables in the order in which they are filled. -/
def backfillTargets : List BackfillTarget :=
  [.nodes, .tasks, .events, .metrics, .scheduledTasks, .enrollments]

/-- A row of one of them.  Only `scheduled_tasks` has a `timezoneSource`. -/
structure ResourceRow where
  id : Uuid
  workspaceId : Option Uuid
  timezoneSource : Option ScheduledTaskTimezoneSource := none
  deriving DecidableEq, Repr

/-- The tables. -/
structure LegacyData where
  workspaces : Table Workspace.key
  memberships : Table WorkspaceMembership.key
  users : List StoredUser
  teams : List Team
  teamMemberships : Table TeamMembership.key
  resources : BackfillTarget → List ResourceRow

/-! ## Queries -/

/-- `DEFAULT_WORKSPACE_SLUG`. -/
def defaultWorkspaceSlug : String := "default"

/-- `findDefaultWorkspaceCandidates`. -/
def findDefaultWorkspaceCandidates (d : LegacyData) : List Workspace :=
  d.workspaces.rows.filter fun row => row.isDefault || row.slug = defaultWorkspaceSlug

/-- The default workspace among the candidates, or else the one with the slug. -/
def chooseCandidate (candidates : List Workspace) : Option Uuid :=
  ((candidates.find? (·.isDefault)).or
    (candidates.find? fun row => row.slug = defaultWorkspaceSlug)).map (·.id)

/-- `ORDER BY "createdAt" ASC LIMIT 1`; of rows created at the same instant, the first. -/
def oldest (users : List StoredUser) : Option StoredUser :=
  users.find? fun user => users.all fun other => user.createdAt ≤ other.createdAt

/-- The oldest user with one of the two roles of administrators. -/
def seededAdmin (d : LegacyData) : Option StoredUser :=
  oldest (d.users.filter fun user => user.role ≠ .user)

/-- `seededAdmin[0]?.timezone || DEFAULT_TIMEZONE`. -/
def seededTimezone (admin : Option StoredUser) : String :=
  match admin with
  | none => "UTC"
  | some admin => if admin.timezone = "" then "UTC" else admin.timezone

/-- The row that `ensureDefaultWorkspace` inserts. -/
def defaultWorkspaceRow (id : Uuid) (admin : Option StoredUser) : Workspace where
  id := id
  name := "Default Workspace"
  slug := defaultWorkspaceSlug
  defaultTimezone := seededTimezone admin
  createdByUserId := admin.map (·.id)
  isDefault := true

/-- `UPDATE "users" SET "role" = 'platform_admin' WHERE "role"::text = 'admin'`, on a row. -/
def StoredUser.promoted (user : StoredUser) : StoredUser :=
  if user.role = .admin then { user with role := .platformAdmin } else user

/-- `UPDATE … SET "workspaceId" = $1 WHERE "workspaceId" IS NULL`, on a row. -/
def ResourceRow.filled (workspaceId : Uuid) (row : ResourceRow) : ResourceRow :=
  { row with workspaceId := some (row.workspaceId.getD workspaceId) }

/-- `UPDATE "scheduled_tasks" SET "timezoneSource" = 'legacy_fixed' …`, on a row. -/
def ResourceRow.fixed (row : ResourceRow) : ResourceRow :=
  if row.timezoneSource = some .workspace then row
  else { row with timezoneSource := some .legacyFixed }

/-- An UPDATE of the workspace with one id. -/
def LegacyData.updateWorkspace (d : LegacyData) (id : Uuid) (f : Workspace → Workspace)
    (hf : ∀ row, (f row).id = row.id) : LegacyData :=
  { d with workspaces := d.workspaces.update (fun row => decide (row.id = id)) f hf }

/-- An UPDATE of the rows of a table. -/
def LegacyData.withRows (d : LegacyData) (target : BackfillTarget) (f : ResourceRow → ResourceRow) :
    LegacyData :=
  { d with resources := Function.update d.resources target ((d.resources target).map f) }

/-- The user is a member of the workspace. -/
def isMember (d : LegacyData) (workspaceId userId : Uuid) : Bool :=
  d.memberships.rows.any fun row => row.workspaceId = workspaceId && row.userId = userId

/-- The row that `ensureDefaultMemberships` inserts for a user. -/
def defaultMembership (id workspaceId : Uuid) (user : StoredUser) : WorkspaceMembership where
  id := id
  workspaceId := workspaceId
  userId := user.id
  role := if user.role = .platformAdmin then .owner else .member

/-- The condition of `removeInvalidTeamMemberships`: the team is there, and the user is not a
member of its workspace. -/
def isInvalid (d : LegacyData) (row : TeamMembership) : Bool :=
  d.teams.any fun team => team.id = row.teamId && !isMember d team.workspaceId row.userId

/-- The timezone that `syncDefaultWorkspaceTimezone` writes. -/
def ownerTimezone (d : LegacyData) (workspaceId : Uuid) : String :=
  ((oldest (d.users.filter fun user => d.memberships.rows.any fun row =>
    row.userId = user.id && row.workspaceId = workspaceId && row.role = .owner)).map
      (·.timezone)).getD "UTC"

/-- A workspace with another default timezone. -/
def withTimezone (timezone : String) (workspace : Workspace) : Workspace :=
  { workspace with defaultTimezone := timezone }

/-! ## Steps -/

/-- How a migration fails. -/
inductive BootstrapError
  | queryFailed
  /-- An UPDATE violates `UQ_workspaces_single_default`. -/
  | secondDefault
  /-- An INSERT violates a primary key. -/
  | duplicateKey
  /-- `Unable to resolve a default workspace during bootstrap.` -/
  | unresolved
  deriving DecidableEq, Repr

/-- The query that a migration awaits. -/
inductive PendingBootstrap
  /-- `ensureDefaultWorkspace`. -/
  | findCandidates
  | findSeededAdmin
  | insertDefault (admin : Option StoredUser)
  | findCandidatesAgain
  /-- `ensureDefaultWorkspaceFlag`. -/
  | findDefault (id : Uuid)
  | flagDefault (id : Uuid)
  | promoteLegacyAdmins (id : Uuid)
  /-- `backfillWorkspaceIds`. -/
  | backfill (id : Uuid) (target : BackfillTarget) (rest : List BackfillTarget)
  | fixTimezoneSources (id : Uuid)
  /-- `ensureDefaultMemberships`. -/
  | listUsers (id : Uuid)
  | insertMembership (id : Uuid) (user : StoredUser) (rest : List StoredUser)
  /-- `removeInvalidTeamMemberships`. -/
  | findInvalid (id : Uuid)
  | deleteTeamMembership (id rowId : Uuid) (rest : List Uuid)
  /-- `syncDefaultWorkspaceTimezone`. -/
  | findOwnerTimezone (id : Uuid)
  | setTimezone (id : Uuid) (timezone : String)

/-- What a query receives: the id that the database generates, and whether it fails. -/
structure BootstrapInput where
  id : Uuid := ""
  fails : Bool := false

/-- What comes after a query. -/
inductive AfterQuery
  | goOn (next : PendingBootstrap)
  | finish (outcome : Except BootstrapError (Option Uuid))

/-- The next round of the loop over the tables. -/
def backfillNext (id : Uuid) : List BackfillTarget → PendingBootstrap
  | [] => .fixTimezoneSources id
  | target :: rest => .backfill id target rest

/-- The next round of the loop over the users. -/
def membershipNext (id : Uuid) : List StoredUser → PendingBootstrap
  | [] => .findInvalid id
  | user :: rest => .insertMembership id user rest

/-- The next round of the loop over the invalid team memberships. -/
def deletionNext (id : Uuid) : List Uuid → PendingBootstrap
  | [] => .findOwnerTimezone id
  | rowId :: rest => .deleteTeamMembership id rowId rest

/-- One query: the tables after it, and what comes next. -/
def runQuery (d : LegacyData) (input : BootstrapInput) :
    PendingBootstrap → LegacyData × AfterQuery
  | .findCandidates =>
      match chooseCandidate (findDefaultWorkspaceCandidates d) with
      | some id => (d, .goOn (.findDefault id))
      | none => (d, .goOn .findSeededAdmin)
  | .findSeededAdmin => (d, .goOn (.insertDefault (seededAdmin d)))
  | .insertDefault admin =>
      -- `ON CONFLICT DO NOTHING` covers the slug, the default flag and the primary key
      if (findDefaultWorkspaceCandidates d).isEmpty && (d.workspaces.get input.id).isNone then
        ({ d with workspaces := d.workspaces.insert (defaultWorkspaceRow input.id admin) },
          .goOn (.findDefault input.id))
      else (d, .goOn .findCandidatesAgain)
  | .findCandidatesAgain =>
      match chooseCandidate (findDefaultWorkspaceCandidates d) with
      | some id => (d, .goOn (.findDefault id))
      | none => (d, .finish (.error .unresolved))
  | .findDefault id =>
      if d.workspaces.rows.any (·.isDefault) then (d, .goOn (.promoteLegacyAdmins id))
      else (d, .goOn (.flagDefault id))
  | .flagDefault id =>
      if (d.workspaces.get id).isSome &&
          d.workspaces.rows.any fun row => row.isDefault && row.id ≠ id
      then (d, .finish (.error .secondDefault))
      else
        (d.updateWorkspace id (·.withDefault true) fun _ => rfl, .goOn (.promoteLegacyAdmins id))
  | .promoteLegacyAdmins id =>
      ({ d with users := d.users.map (·.promoted) }, .goOn (backfillNext id backfillTargets))
  | .backfill id target rest =>
      (d.withRows target fun row => row.filled id, .goOn (backfillNext id rest))
  | .fixTimezoneSources id =>
      (d.withRows .scheduledTasks ResourceRow.fixed, .goOn (.listUsers id))
  | .listUsers id => (d, .goOn (membershipNext id d.users))
  | .insertMembership id user rest =>
      if isMember d id user.id then (d, .goOn (membershipNext id rest))
      else if (d.memberships.get input.id).isSome then (d, .finish (.error .duplicateKey))
      else
        ({ d with memberships := d.memberships.insert (defaultMembership input.id id user) },
          .goOn (membershipNext id rest))
  | .findInvalid id =>
      (d, .goOn (deletionNext id ((d.teamMemberships.rows.filter (isInvalid d)).map (·.id))))
  | .deleteTeamMembership id rowId rest =>
      ({ d with teamMemberships := d.teamMemberships.delete rowId }, .goOn (deletionNext id rest))
  | .findOwnerTimezone id => (d, .goOn (.setTimezone id (ownerTimezone d id)))
  | .setTimezone id timezone =>
      (d.updateWorkspace id (withTimezone timezone) fun _ => rfl, .finish (.ok (some id)))

/-- The tables, and how the migrations that are over ended. -/
structure BootstrapWorld where
  data : LegacyData
  finished : List (Except BootstrapError (Option Uuid)) := []

/-- What a step of a migration leaves behind. -/
def BootstrapWorld.after (w : BootstrapWorld) :
    LegacyData × AfterQuery → BootstrapWorld × Option PendingBootstrap
  | (d, .goOn next) => ({ w with data := d }, some next)
  | (d, .finish outcome) => ({ data := d, finished := w.finished ++ [outcome] }, none)

/-- `onApplicationBootstrap`, in a process with the given environment. -/
def onApplicationBootstrap (processEnv : Install.EnvRecord) (_ : BootstrapInput)
    (w : BootstrapWorld) : BootstrapWorld × Option PendingBootstrap :=
  if processEnv.get Install.installerManagedFlag = some "true" then
    w.after (w.data, .finish (.ok none))
  else w.after (w.data, .goOn .findCandidates)

/-- A query that fails changes nothing and ends the migration. -/
def resumeBootstrap (call : PendingBootstrap) (input : BootstrapInput) (w : BootstrapWorld) :
    BootstrapWorld × Option PendingBootstrap :=
  if input.fails then w.after (w.data, .finish (.error .queryFailed))
  else w.after (runQuery w.data input call)

/-- Migrations as interleaved calls, one for each start of an instance. -/
def bootstrapCalls :
    Calls BootstrapWorld Install.EnvRecord PendingBootstrap BootstrapInput :=
  ⟨onApplicationBootstrap, resumeBootstrap⟩

/-- The migrations under way. -/
abbrev BootstrapConfig := Config ℕ BootstrapWorld PendingBootstrap

/-- What happens next. -/
abbrev BootstrapEvent := Event ℕ Install.EnvRecord BootstrapInput Empty

/-- One event. -/
abbrev bootstrapStep : BootstrapConfig → BootstrapEvent → BootstrapConfig :=
  step bootstrapCalls noEnv

end WorkspaceDataBootstrap
