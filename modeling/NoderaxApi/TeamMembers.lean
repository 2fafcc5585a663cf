/-
# Workspace and team members

`addMember`, `removeMember`, `addTeamMember`, `removeTeamMember` and `deleteTeam` of
`workspaces.service.ts`, cut at their database steps.  `removeMember` runs its steps in a
transaction; the writes of the others are transactions of their own.

The `teams` and `team_memberships` tables have no foreign keys, so a team that is deleted
leaves its memberships behind.  The audit log is left out.
-/
import NoderaxApi.Interleaving
import NoderaxApi.ReadCommitted
import NoderaxApi.Workspaces

namespace WorkspacesService

open AuthService KeyedTable NotificationsService ReadCommitted Interleaving Runs

/-! ## Rows -/

/-- `TeamEntity`. -/
structure Team where
  id : Uuid
  workspaceId : Uuid
  name : String
  description : Option String := none
  deriving DecidableEq, Repr

/-- `TeamMembershipEntity`. -/
structure TeamMembership where
  id : Uuid
  teamId : Uuid
  userId : Uuid
  deriving DecidableEq, Repr

/-- The primary keys. -/
abbrev Team.key (row : Team) : Uuid := row.id

abbrev TeamMembership.key (row : TeamMembership) : Uuid := row.id

/-- The tables. -/
structure TeamTables extends WorkspaceTables where
  users : Table UserRow.key
  teams : Table Team.key
  teamMemberships : Table TeamMembership.key

/-! ## Write statements -/

/-- The rows that a write locks, and the values of a unique constraint that it waits for. -/
inductive TeamLock
  | membership (workspaceId userId : Uuid)
  | teamMembership (teamId userId : Uuid)
  | team (id : Uuid)
  deriving DecidableEq, Repr

/-- A write statement. -/
inductive TeamWrite
  | insertMembership (row : WorkspaceMembership)
  | deleteMembership (row : WorkspaceMembership)
  | insertTeamMembership (row : TeamMembership)
  | deleteTeamMemberships (rows : List TeamMembership)
  | deleteTeam (team : Team)

/-- The tables after a write. -/
def TeamWrite.apply (d : TeamTables) : TeamWrite → TeamTables
  | .insertMembership row => { d with memberships := d.memberships.insert row }
  | .deleteMembership row => { d with memberships := d.memberships.delete row.id }
  | .insertTeamMembership row => { d with teamMemberships := d.teamMemberships.insert row }
  | .deleteTeamMemberships rows =>
      { d with
        teamMemberships := d.teamMemberships.deleteWhere fun row => rows.any (·.id = row.id) }
  | .deleteTeam team => { d with teams := d.teams.delete team.id }

/-- What a write locks. -/
def TeamWrite.locks : TeamWrite → List TeamLock
  | .insertMembership row | .deleteMembership row => [.membership row.workspaceId row.userId]
  | .insertTeamMembership row => [.teamMembership row.teamId row.userId]
  | .deleteTeamMemberships rows => rows.map fun row => .teamMembership row.teamId row.userId
  | .deleteTeam team => [.team team.id]

/-- The write statements. -/
def teamStatements : Statements TeamTables TeamWrite TeamLock :=
  ⟨fun write d => write.apply d, TeamWrite.locks⟩

/-- The database. -/
abbrev TeamDatabase := Database TeamTables TeamLock

/-! ## Lookups -/

/-- `findTeamOrFail`. -/
def findTeamOrFail (d : TeamTables) (workspaceId teamId : Uuid) : Except ThrownError Team :=
  match d.teams.get teamId with
  | none => .error (.http (.notFound s!"Team {teamId} was not found"))
  | some team =>
      if team.workspaceId = workspaceId then .ok team
      else .error (.http (.notFound s!"Team {teamId} was not found"))

/-- The membership of a user in a team. -/
def findTeamMembership (d : TeamTables) (teamId userId : Uuid) : Option TeamMembership :=
  d.teamMemberships.rows.find? fun row => row.teamId = teamId && row.userId = userId

/-! ## Calls -/

/-- What is done to a team. -/
inductive TeamAction
  | addTeamMember (userId : Uuid)
  | removeTeamMember (userId : Uuid)
  | deleteTeam
  deriving DecidableEq, Repr

/-- A request. -/
inductive TeamRequest
  | addMember (workspaceId : Uuid) (actor : AuthenticatedUser) (userId : Uuid)
      (role : WorkspaceMembershipRole)
  | removeMember (workspaceId membershipId : Uuid) (actor : AuthenticatedUser)
  | onTeam (workspaceId teamId : Uuid) (actor : AuthenticatedUser) (action : TeamAction)

/-- The workspace of a request. -/
def TeamRequest.workspaceId : TeamRequest → Uuid
  | .addMember workspaceId _ _ _ | .removeMember workspaceId _ _ | .onTeam workspaceId _ _ _ =>
      workspaceId

/-- Who makes a request. -/
def TeamRequest.actor : TeamRequest → AuthenticatedUser
  | .addMember _ actor _ _ | .removeMember _ _ actor | .onTeam _ _ actor _ => actor

/-- A membership that a call is to add. -/
inductive Addition
  | member (workspaceId : Uuid) (role : WorkspaceMembershipRole)
  | teamMember (workspaceId teamId : Uuid)
  deriving DecidableEq, Repr

/-- The user has this membership. -/
def Addition.taken (addition : Addition) (d : TeamTables) (userId : Uuid) : Bool :=
  match addition with
  | .member workspaceId _ => (findMembershipForUser d.toWorkspaceTables workspaceId userId).isSome
  | .teamMember _ teamId => (findTeamMembership d teamId userId).isSome

/-- The row of the membership. -/
def Addition.write (addition : Addition) (id userId : Uuid) : TeamWrite :=
  match addition with
  | .member workspaceId role => .insertMembership ⟨⟨workspaceId, userId, role⟩, id⟩
  | .teamMember _ teamId => .insertTeamMembership ⟨id, teamId, userId⟩

/-- Where a call waits for its next database step. -/
inductive PendingTeamCall
  /-- `assertWorkspaceWritable`. -/
  | assertingWritable (request : TeamRequest)
  /-- `findTeamOrFail`. -/
  | findingTeam (workspaceId teamId : Uuid) (action : TeamAction)
  /-- The workspace membership of a user who is added to a team. -/
  | findingMembership (workspaceId teamId userId : Uuid)
  | findingUser (addition : Addition) (userId : Uuid)
  /-- The lookup of a membership that is there already. -/
  | findingExisting (addition : Addition) (userId : Uuid)
  | inserting (addition : Addition) (userId : Uuid)
  | findingTeamMembership (teamId userId : Uuid)
  | removingTeamMembership (row : TeamMembership)
  /-- The counts of the nodes and the schedules of a team. -/
  | countingUses (team : Team)
  | removingTeam (team : Team)
  /-- `removeMember` up to the first query of its transaction. -/
  | findingRemoved (workspaceId membershipId : Uuid)
  | findingTeams (tx : Transaction TeamWrite) (membership : WorkspaceMembership)
  /-- The rows that the DELETE of the team memberships sees. -/
  | selectingTeamMemberships (tx : Transaction TeamWrite) (membership : WorkspaceMembership)
      (teamIds : List Uuid)
  | deletingTeamMemberships (tx : Transaction TeamWrite) (membership : WorkspaceMembership)
      (rows : List TeamMembership)
  | removingMembership (tx : Transaction TeamWrite) (membership : WorkspaceMembership)
      (rows : List TeamMembership)
  | committingRemoval (tx : Transaction TeamWrite) (membership : WorkspaceMembership)
      (rows : List TeamMembership)

/-- What a step draws or finds in other tables, and whether its statement fails. -/
structure TeamInput where
  id : Uuid := ""
  /-- Nodes or schedules of the team. -/
  inUse : Bool := false
  fails : Bool := false
  deriving DecidableEq, Repr

/-- The database, and the next step unless the call has ended. -/
abbrev TeamStep := TeamDatabase × Option PendingTeamCall

/-- A call up to `assertWorkspaceWritable`. -/
def invokeTeamCall (request : TeamRequest) (_ : TeamInput) (db : TeamDatabase) : TeamStep :=
  match assertWorkspaceAdmin db.committed.toWorkspaceTables request.workspaceId request.actor with
  | .error _ => (db, none)
  | .ok () => (db, some (.assertingWritable request))

/-- A statement that fails ends the call, and its transaction. -/
def rejectTeamCall (call : PendingTeamCall) (db : TeamDatabase) : TeamDatabase :=
  match call with
  | .findingTeams tx _ | .selectingTeamMemberships tx _ _ | .deletingTeamMemberships tx _ _
  | .removingMembership tx _ _ | .committingRemoval tx _ _ => db.rollback tx
  | _ => db

/-- A write outside transactions; the call stays where it is while the write has to wait. -/
def autocommitted (db : TeamDatabase) (call : PendingTeamCall) (write : TeamWrite) : TeamStep :=
  match db.autocommit teamStatements write with
  | none => (db, some call)
  | some db' => (db', none)

/-- The first call after `assertWorkspaceWritable`. -/
def TeamRequest.afterWritable : TeamRequest → PendingTeamCall
  | .addMember workspaceId _ userId role => .findingUser (.member workspaceId role) userId
  | .removeMember workspaceId membershipId _ => .findingRemoved workspaceId membershipId
  | .onTeam workspaceId teamId _ action => .findingTeam workspaceId teamId action

/-- The first call after `findTeamOrFail`. -/
def TeamAction.afterTeam (team : Team) : TeamAction → PendingTeamCall
  | .addTeamMember userId => .findingMembership team.workspaceId team.id userId
  | .removeTeamMember userId => .findingTeamMembership team.id userId
  | .deleteTeam => .countingUses team

/-- A later database step of a call that does not fail. -/
def continueTeamCall (call : PendingTeamCall) (input : TeamInput) (db : TeamDatabase) : TeamStep :=
  match call with
  | .assertingWritable request =>
      match assertWorkspaceWritable db.committed.toWorkspaceTables request.workspaceId with
      | .error _ => (db, none)
      | .ok () => (db, some request.afterWritable)
  | .findingTeam workspaceId teamId action =>
      match findTeamOrFail db.committed workspaceId teamId with
      | .error _ => (db, none)
      | .ok team => (db, some (action.afterTeam team))
  | .findingMembership workspaceId teamId userId =>
      if (findMembershipForUser db.committed.toWorkspaceTables workspaceId userId).isNone then
        (db, none)
      else (db, some (.findingUser (.teamMember workspaceId teamId) userId))
  | .findingUser addition userId =>
      match db.committed.users.get userId with
      | none => (db, none)
      | some user =>
          if !user.isActive || user.inviteStatus ≠ .accepted then (db, none)
          else (db, some (.findingExisting addition userId))
  | .findingExisting addition userId =>
      if addition.taken db.committed userId then (db, none)
      else (db, some (.inserting addition userId))
  | .inserting addition userId =>
      let write := addition.write input.id userId
      -- the unique constraint, once no transaction holds the row
      if !db.waits teamStatements { number := db.next } write &&
          addition.taken db.committed userId then (db, none)
      else autocommitted db call write
  | .findingTeamMembership teamId userId =>
      match findTeamMembership db.committed teamId userId with
      | none => (db, none)
      | some row => (db, some (.removingTeamMembership row))
  | .removingTeamMembership row => autocommitted db call (.deleteTeamMemberships [row])
  | .countingUses team => if input.inUse then (db, none) else (db, some (.removingTeam team))
  | .removingTeam team => autocommitted db call (.deleteTeam team)
  | .findingRemoved workspaceId membershipId =>
      let (db, tx) := db.begin
      match ((tx.view teamStatements db.committed).memberships.get membershipId).filter
          (·.workspaceId = workspaceId) with
      | none => (db.rollback tx, none)
      | some membership => (db, some (.findingTeams tx membership))
  | .findingTeams tx membership =>
      let teams := (tx.view teamStatements db.committed).teams.rows.filter
        (·.workspaceId = membership.workspaceId)
      if teams.isEmpty then (db, some (.removingMembership tx membership []))
      else (db, some (.selectingTeamMemberships tx membership (teams.map Team.id)))
  | .selectingTeamMemberships tx membership teamIds =>
      let rows := (tx.view teamStatements db.committed).teamMemberships.rows.filter fun row =>
        row.userId = membership.userId && row.teamId ∈ teamIds
      (db, some (.deletingTeamMemberships tx membership rows))
  | .deletingTeamMemberships tx membership rows =>
      match db.write teamStatements tx (.deleteTeamMemberships rows) with
      | none => (db, some call)
      | some (db, tx) => (db, some (.removingMembership tx membership rows))
  | .removingMembership tx membership rows =>
      match db.write teamStatements tx (.deleteMembership membership) with
      | none => (db, some call)
      | some (db, tx) => (db, some (.committingRemoval tx membership rows))
  | .committingRemoval tx _ _ => (db.commit teamStatements tx, none)

/-- A later database step of a call. -/
def resumeTeamCall (call : PendingTeamCall) (input : TeamInput) (db : TeamDatabase) : TeamStep :=
  if input.fails then (rejectTeamCall call db, none) else continueTeamCall call input db

/-- What the other operations change meanwhile. -/
inductive TeamEnv
  | changeUsers (users : Table UserRow.key)
  | changeWorkspaces (workspaces : Table Workspace.key)

/-- A change of the users or the workspaces. -/
def teamEnv (change : TeamEnv) (db : TeamDatabase) : TeamDatabase :=
  match change with
  | .changeUsers users => { db with committed := { db.committed with users := users } }
  | .changeWorkspaces workspaces =>
      { db with committed := { db.committed with workspaces := workspaces } }

/-- The family of the calls. -/
def teamCalls : Calls TeamDatabase TeamRequest PendingTeamCall TeamInput :=
  ⟨invokeTeamCall, resumeTeamCall⟩

/-- A state of the calls, which are numbered. -/
abbrev TeamConfig := Config ℕ TeamDatabase PendingTeamCall

/-- A call moves, or other tables change. -/
abbrev TeamEvent := Event ℕ TeamRequest TeamInput TeamEnv

/-- One event. -/
abbrev teamStep : TeamConfig → TeamEvent → TeamConfig := step teamCalls teamEnv

end WorkspacesService
