/-
# Who can change a workspace

The calls of `workspaces.service.ts` on members and teams: those of the module on team members, and
`updateMember`, `createTeam` and `updateTeam`.  Every call checks its actor once, in its first step,
and looks up rows by their ids and writes them in later ones.

**`outsiders_change_nothing`**: in any interleaving of calls whose actors may not administer a
workspace at the start, whatever they administer elsewhere, its members, its teams and the members
of its teams are at the end what they were.
-/
import NoderaxApi.TeamMembers

namespace WorkspacesService

open AuthService KeyedTable NotificationsService ReadCommitted Interleaving Runs

/-! ## The other calls -/

/-- A write statement; the `save` of a row that was loaded writes over the row of its id, or inserts
it once it is gone. -/
inductive AccessWrite
  | team (write : TeamWrite)
  | saveMembership (row : WorkspaceMembership)
  | insertTeam (row : Team)
  | saveTeam (row : Team)

/-- The tables after a write. -/
def AccessWrite.apply (d : TeamTables) : AccessWrite → TeamTables
  | .team write => write.apply d
  | .saveMembership row =>
      { d with
        memberships := d.memberships.upsert row.id (fun stored => { row with id := stored.id }) row
          fun _ => rfl }
  | .insertTeam row => { d with teams := d.teams.insert row }
  | .saveTeam row =>
      { d with
        teams := d.teams.upsert row.id (fun stored => { row with id := stored.id }) row
          fun _ => rfl }

/-- What a write locks. -/
def AccessWrite.locks : AccessWrite → List TeamLock
  | .team write => write.locks
  | .saveMembership row => [.membership row.workspaceId row.userId]
  | .insertTeam row | .saveTeam row => [.team row.id]

/-- The write statements. -/
def accessStatements : Statements TeamTables AccessWrite TeamLock :=
  ⟨fun write d => write.apply d, AccessWrite.locks⟩

/-- `description?.trim() || null`. -/
def trimmedOrNull (description : Option String) : Option String :=
  (description.map jsTrim).filter (· ≠ "")

/-- A request; the fields of `updateTeam` are `none` where they are not sent, and may be sent as
`null`. -/
inductive AccessRequest
  | team (request : TeamRequest)
  | updateMember (workspaceId membershipId : Uuid) (actor : AuthenticatedUser)
      (role : WorkspaceMembershipRole)
  | createTeam (workspaceId : Uuid) (actor : AuthenticatedUser) (name : String)
      (description : Option String)
  | updateTeam (workspaceId teamId : Uuid) (actor : AuthenticatedUser)
      (name description : Option (Option String))

/-- The workspace of a request. -/
def AccessRequest.workspaceId : AccessRequest → Uuid
  | .team request => request.workspaceId
  | .updateMember workspaceId _ _ _ | .createTeam workspaceId _ _ _
  | .updateTeam workspaceId _ _ _ _ => workspaceId

/-- Who makes a request. -/
def AccessRequest.actor : AccessRequest → AuthenticatedUser
  | .team request => request.actor
  | .updateMember _ _ actor _ | .createTeam _ actor _ _ | .updateTeam _ _ actor _ _ => actor

/-- Where a call waits for its next database step. -/
inductive PendingAccessCall
  | team (call : PendingTeamCall)
  /-- `assertWorkspaceWritable`. -/
  | assertingWritable (request : AccessRequest)
  | findingUpdatedMember (workspaceId membershipId : Uuid) (role : WorkspaceMembershipRole)
  | savingMember (row : WorkspaceMembership)
  | insertingTeam (workspaceId : Uuid) (name : String) (description : Option String)
  | findingUpdatedTeam (workspaceId teamId : Uuid) (name description : Option (Option String))
  | savingTeam (row : Team)

/-- The database, and the next step unless the call has ended. -/
abbrev AccessStep := TeamDatabase × Option PendingAccessCall

/-- A step of a call on team members. -/
def ofTeamStep (next : TeamStep) : AccessStep := (next.1, next.2.map .team)

/-- A call up to `assertWorkspaceWritable`. -/
def invokeAccess (request : AccessRequest) (input : TeamInput) (db : TeamDatabase) : AccessStep :=
  match request with
  | .team request => ofTeamStep (invokeTeamCall request input db)
  | request =>
      match assertWorkspaceAdmin db.committed.toWorkspaceTables request.workspaceId
          request.actor with
      | .error _ => (db, none)
      | .ok () => (db, some (.assertingWritable request))

/-- The first step after `assertWorkspaceWritable`. -/
def AccessRequest.afterWritable : AccessRequest → PendingAccessCall
  | .team request => .team request.afterWritable
  | .updateMember workspaceId membershipId _ role =>
      .findingUpdatedMember workspaceId membershipId role
  | .createTeam workspaceId _ name description =>
      .insertingTeam workspaceId (jsTrim name) (trimmedOrNull description)
  | .updateTeam workspaceId teamId _ name description =>
      .findingUpdatedTeam workspaceId teamId name description

/-- A write outside transactions; the call stays where it is while the write has to wait. -/
def savedOnItsOwn (db : TeamDatabase) (call : PendingAccessCall) (write : AccessWrite) :
    AccessStep :=
  match db.autocommit accessStatements write with
  | none => (db, some call)
  | some db' => (db', none)

/-- A membership that is inserted again violates the unique constraint where the user has another
one. -/
def membershipTaken (d : TeamTables) (row : WorkspaceMembership) : Bool :=
  (d.memberships.get row.id).isNone &&
    (findMembershipForUser d.toWorkspaceTables row.workspaceId row.userId).isSome

/-- A statement that fails ends the call. -/
def rejectAccess (call : PendingAccessCall) (db : TeamDatabase) : TeamDatabase :=
  match call with
  | .team call => rejectTeamCall call db
  | _ => db

/-- A later step of a call that does not fail. -/
def continueAccess (call : PendingAccessCall) (input : TeamInput) (db : TeamDatabase) :
    AccessStep :=
  match call with
  | .team call => ofTeamStep (continueTeamCall call input db)
  | .assertingWritable request =>
      match assertWorkspaceWritable db.committed.toWorkspaceTables request.workspaceId with
      | .error _ => (db, none)
      | .ok () => (db, some request.afterWritable)
  | .findingUpdatedMember workspaceId membershipId role =>
      match (db.committed.memberships.get membershipId).filter (·.workspaceId = workspaceId) with
      | none => (db, none)
      | some membership => (db, some (.savingMember { membership with role }))
  | .savingMember row =>
      if membershipTaken db.committed row then (db, none)
      else savedOnItsOwn db call (.saveMembership row)
  | .insertingTeam workspaceId name description =>
      savedOnItsOwn db call (.insertTeam { id := input.id, workspaceId, name, description })
  | .findingUpdatedTeam workspaceId teamId name description =>
      match findTeamOrFail db.committed workspaceId teamId with
      | .error _ => (db, none)
      | .ok team =>
          -- `null` has no `trim`
          if name = some none then (db, none)
          else
            (db, some (.savingTeam { team with
              name := (name.join.map jsTrim).getD team.name
              description := (description.map trimmedOrNull).getD team.description }))
  | .savingTeam row => savedOnItsOwn db call (.saveTeam row)

/-- A later step of a call. -/
def resumeAccess (call : PendingAccessCall) (input : TeamInput) (db : TeamDatabase) : AccessStep :=
  if input.fails then (rejectAccess call db, none) else continueAccess call input db

/-- The calls. -/
def accessCalls : Calls TeamDatabase AccessRequest PendingAccessCall TeamInput :=
  ⟨invokeAccess, resumeAccess⟩

/-- The calls under way. -/
abbrev AccessConfig := Config ℕ TeamDatabase PendingAccessCall

/-- What happens next. -/
abbrev AccessEvent := Event ℕ AccessRequest TeamInput TeamEnv

/-- One event. -/
abbrev accessStep : AccessConfig → AccessEvent → AccessConfig := step accessCalls teamEnv

/-! ## What a workspace has -/

/-- The members of a workspace, its teams, and the members of its teams. -/
structure WorkspaceRows where
  memberships : List WorkspaceMembership
  teams : List Team
  teamMemberships : List TeamMembership
  deriving DecidableEq, Repr

/-- The rows of a workspace. -/
def workspaceRows (d : TeamTables) (workspaceId : Uuid) : WorkspaceRows :=
  let teams := d.teams.rows.filter (·.workspaceId = workspaceId)
  { memberships := d.memberships.rows.filter (·.workspaceId = workspaceId)
    teams
    teamMemberships := d.teamMemberships.rows.filter (·.teamId ∈ teams.map Team.id) }

section

variable {d : TeamTables} {db : TeamDatabase} {workspaceId : Uuid} {rows : WorkspaceRows}

theorem mem_memberships_iff {row : WorkspaceMembership} :
    row ∈ (workspaceRows d workspaceId).memberships
      ↔ row ∈ d.memberships.rows ∧ row.workspaceId = workspaceId := by
  simp [workspaceRows]

theorem mem_teams_iff {row : Team} :
    row ∈ (workspaceRows d workspaceId).teams
      ↔ row ∈ d.teams.rows ∧ row.workspaceId = workspaceId := by
  simp [workspaceRows]

theorem mem_teamMemberships_iff {row : TeamMembership} :
    row ∈ (workspaceRows d workspaceId).teamMemberships
      ↔ row ∈ d.teamMemberships.rows ∧
        row.teamId ∈ (workspaceRows d workspaceId).teams.map Team.id := by
  simp [workspaceRows]

/-- **Who may administer a workspace** can be read off its rows. -/
theorem assertWorkspaceAdmin_congr {d' : TeamTables} (actor : AuthenticatedUser)
    (h : workspaceRows d' workspaceId = workspaceRows d workspaceId) :
    assertWorkspaceAdmin d'.toWorkspaceTables workspaceId actor
      = assertWorkspaceAdmin d.toWorkspaceTables workspaceId actor := by
  have hfind : ∀ d : TeamTables, findMembershipForUser d.toWorkspaceTables workspaceId actor.id
      = (workspaceRows d workspaceId).memberships.find? (·.userId = actor.id) := by
    intro d
    rw [workspaceRows, List.find?_filter]
    exact congrArg (List.find? · d.memberships.rows) (by funext row; simp)
  rw [assertWorkspaceAdmin, assertWorkspaceAdmin, hfind, hfind, h]

/-! ## Writes outside a workspace -/

variable (workspaceId rows)

/-- The write touches no row of the workspace, and adds none. -/
def TeamWrite.Outside : TeamWrite → Prop
  | .insertMembership row => row.workspaceId ≠ workspaceId
  | .deleteMembership row => ∀ kept ∈ rows.memberships, kept.id ≠ row.id
  | .insertTeamMembership row => row.teamId ∉ rows.teams.map Team.id
  | .deleteTeamMemberships deleted =>
      ∀ kept ∈ rows.teamMemberships, ∀ row ∈ deleted, row.id ≠ kept.id
  | .deleteTeam team => ∀ kept ∈ rows.teams, kept.id ≠ team.id

/-- So does a write of the other calls. -/
def AccessWrite.Outside : AccessWrite → Prop
  | .team write => write.Outside workspaceId rows
  | .saveMembership row =>
      row.workspaceId ≠ workspaceId ∧ ∀ kept ∈ rows.memberships, kept.id ≠ row.id
  | .insertTeam row => row.workspaceId ≠ workspaceId
  | .saveTeam row => row.workspaceId ≠ workspaceId ∧ ∀ kept ∈ rows.teams, kept.id ≠ row.id

variable {workspaceId rows}

/-- The rows of a workspace are those of three filters. -/
theorem workspaceRows_congr {d' : TeamTables}
    (hmemberships : d'.memberships.rows.filter (·.workspaceId = workspaceId)
      = d.memberships.rows.filter (·.workspaceId = workspaceId))
    (hteams : d'.teams.rows.filter (·.workspaceId = workspaceId)
      = d.teams.rows.filter (·.workspaceId = workspaceId))
    (hmembers : d'.teamMemberships.rows.filter
        (·.teamId ∈ (workspaceRows d workspaceId).teams.map Team.id)
      = (workspaceRows d workspaceId).teamMemberships) :
    workspaceRows d' workspaceId = workspaceRows d workspaceId := by
  unfold workspaceRows
  rw [hmemberships, hteams]
  exact congrArg (WorkspaceRows.mk _ _) hmembers

/-- **A write outside a workspace** leaves its rows what they are. -/
theorem TeamWrite.Outside.apply {write : TeamWrite}
    (h : write.Outside workspaceId (workspaceRows d workspaceId)) :
    workspaceRows (write.apply d) workspaceId = workspaceRows d workspaceId := by
  cases write with
  | insertMembership row =>
      exact workspaceRows_congr (Table.filter_insert (decide_eq_false h)) rfl rfl
  | deleteMembership row =>
      refine workspaceRows_congr (Table.filter_delete fun kept hkept hof => ?_) rfl rfl
      exact h kept (mem_memberships_iff.mpr ⟨hkept, of_decide_eq_true hof⟩)
  | insertTeamMembership row =>
      exact workspaceRows_congr rfl rfl (Table.filter_insert (decide_eq_false h))
  | deleteTeamMemberships deleted =>
      refine workspaceRows_congr rfl rfl (Table.filter_deleteWhere fun kept hkept hof => ?_)
      have hmem := mem_teamMemberships_iff.mpr ⟨hkept, of_decide_eq_true hof⟩
      rw [Bool.eq_false_iff]
      intro hany
      obtain ⟨row, hrow, hid⟩ := List.any_eq_true.mp hany
      exact h kept hmem row hrow (of_decide_eq_true hid)
  | deleteTeam team =>
      refine workspaceRows_congr rfl (Table.filter_delete fun kept hkept hof => ?_) rfl
      exact h kept (mem_teams_iff.mpr ⟨hkept, of_decide_eq_true hof⟩)

theorem AccessWrite.Outside.apply {write : AccessWrite}
    (h : write.Outside workspaceId (workspaceRows d workspaceId)) :
    workspaceRows (write.apply d) workspaceId = workspaceRows d workspaceId := by
  cases write with
  | team write => exact TeamWrite.Outside.apply h
  | saveMembership row =>
      refine workspaceRows_congr (Table.filter_upsert (decide_eq_false h.1) ?_) rfl rfl
      intro kept hkept hid
      refine ⟨decide_eq_false fun hof => ?_, decide_eq_false h.1⟩
      exact h.2 kept (mem_memberships_iff.mpr ⟨hkept, hof⟩) hid
  | insertTeam row => exact workspaceRows_congr rfl (Table.filter_insert (decide_eq_false h)) rfl
  | saveTeam row =>
      refine workspaceRows_congr rfl (Table.filter_upsert (decide_eq_false h.1) ?_) rfl
      intro kept hkept hid
      refine ⟨decide_eq_false fun hof => ?_, decide_eq_false h.1⟩
      exact h.2 kept (mem_teams_iff.mpr ⟨hkept, hof⟩) hid

end

/-! ## Calls outside a workspace -/

section

variable (workspaceId : Uuid) (rows : WorkspaceRows)

/-- The membership that a call is to add is none of the workspace. -/
def Addition.Outside : Addition → Prop
  | .member other _ => other ≠ workspaceId
  | .teamMember other teamId => other ≠ workspaceId ∧ teamId ∉ rows.teams.map Team.id

/-- The team is none of the workspace. -/
def TeamOutside (team : Team) : Prop :=
  team.workspaceId ≠ workspaceId ∧ ∀ kept ∈ rows.teams, kept.id ≠ team.id

/-- The membership is none of the workspace. -/
def MembershipOutside (row : WorkspaceMembership) : Prop :=
  row.workspaceId ≠ workspaceId ∧ ∀ kept ∈ rows.memberships, kept.id ≠ row.id

/-- The writes so far of a removal are outside the workspace, and so is the membership. -/
def RemovalOutside (tx : Transaction TeamWrite) (membership : WorkspaceMembership) : Prop :=
  (∀ write ∈ tx.writes, write.Outside workspaceId rows) ∧
    MembershipOutside workspaceId rows membership

/-- A call on team members that is outside the workspace. -/
def PendingTeamCall.Outside : PendingTeamCall → Prop
  | .assertingWritable request => request.workspaceId ≠ workspaceId
  | .findingTeam other _ _ | .findingRemoved other _ => other ≠ workspaceId
  | .findingMembership other teamId _ =>
      other ≠ workspaceId ∧ teamId ∉ rows.teams.map Team.id
  | .findingUser addition _ | .findingExisting addition _ | .inserting addition _ =>
      addition.Outside workspaceId rows
  | .findingTeamMembership teamId _ => teamId ∉ rows.teams.map Team.id
  | .removingTeamMembership row => ∀ kept ∈ rows.teamMemberships, row.id ≠ kept.id
  | .countingUses team | .removingTeam team => TeamOutside workspaceId rows team
  | .findingTeams tx membership =>
      tx.writes = [] ∧ RemovalOutside workspaceId rows tx membership
  | .selectingTeamMemberships tx membership teamIds =>
      tx.writes = [] ∧ RemovalOutside workspaceId rows tx membership ∧
        ∀ teamId ∈ teamIds, teamId ∉ rows.teams.map Team.id
  | .deletingTeamMemberships tx membership deleted =>
      RemovalOutside workspaceId rows tx membership ∧
        ∀ kept ∈ rows.teamMemberships, ∀ row ∈ deleted, row.id ≠ kept.id
  | .removingMembership tx membership _ | .committingRemoval tx membership _ =>
      RemovalOutside workspaceId rows tx membership

/-- Any call that is outside the workspace. -/
def PendingAccessCall.Outside : PendingAccessCall → Prop
  | .team call => call.Outside workspaceId rows
  | .assertingWritable request => request.workspaceId ≠ workspaceId
  | .findingUpdatedMember other _ _ | .insertingTeam other _ _ | .findingUpdatedTeam other _ _ _ =>
      other ≠ workspaceId
  | .savingMember row => MembershipOutside workspaceId rows row
  | .savingTeam row => TeamOutside workspaceId rows row

/-- The rows of the workspace are what they were. -/
def RowsKept (db : TeamDatabase) : Prop := workspaceRows db.committed workspaceId = rows

/-- A step that leaves the workspace alone. -/
structure StaysOutside {L : Type} (Out : L → Prop) (next : TeamDatabase × Option L) : Prop where
  kept : RowsKept workspaceId rows next.1
  outside : ∀ after, next.2 = some after → Out after

end

section

variable {d : TeamTables} {db db' : TeamDatabase} {workspaceId : Uuid} {rows : WorkspaceRows}
  {L : Type} {Out : L → Prop}

theorem StaysOutside.ends (h : RowsKept workspaceId rows db) :
    StaysOutside workspaceId rows Out (db, none) :=
  ⟨h, fun _ hnone => by cases hnone⟩

theorem StaysOutside.goesOn {after : L} (h : RowsKept workspaceId rows db) (hafter : Out after) :
    StaysOutside workspaceId rows Out (db, some after) :=
  ⟨h, fun _ heq => Option.some.inj heq ▸ hafter⟩

/-- A row that was found is the only one of its id. -/
theorem membershipOutside_of_get (h : RowsKept workspaceId rows db) {id : Uuid}
    {row : WorkspaceMembership} (hget : db.committed.memberships.get id = some row)
    (hother : row.workspaceId ≠ workspaceId) : MembershipOutside workspaceId rows row := by
  refine ⟨hother, fun kept hkept hid => ?_⟩
  rw [← h] at hkept
  obtain ⟨hmem, hof⟩ := mem_memberships_iff.mp hkept
  have hsame := Table.get_of_mem hmem
  rw [show kept.key = id from hid.trans (Table.key_of_get hget), hget] at hsame
  exact hother (Option.some.inj hsame ▸ hof)

theorem teamOutside_of_mem (h : RowsKept workspaceId rows db) {team : Team}
    (hteam : team ∈ db.committed.teams.rows) (hother : team.workspaceId ≠ workspaceId) :
    TeamOutside workspaceId rows team := by
  refine ⟨hother, fun kept hkept hid => ?_⟩
  rw [← h] at hkept
  obtain ⟨hmem, hof⟩ := mem_teams_iff.mp hkept
  have hsame := Table.get_of_mem hmem
  rw [show kept.key = team.key from hid, Table.get_of_mem hteam] at hsame
  exact hother (Option.some.inj hsame ▸ hof)

theorem TeamOutside.not_mem {team : Team} (h : TeamOutside workspaceId rows team) :
    team.id ∉ rows.teams.map Team.id := by
  intro hmem
  obtain ⟨kept, hkept, hid⟩ := List.mem_map.mp hmem
  exact h.2 kept hkept hid

/-- A team that was found for another workspace. -/
theorem teamOutside_of_find (h : RowsKept workspaceId rows db) {other teamId : Uuid} {team : Team}
    (hfind : findTeamOrFail db.committed other teamId = .ok team) (hother : other ≠ workspaceId) :
    TeamOutside workspaceId rows team := by
  unfold findTeamOrFail at hfind
  split at hfind
  · cases hfind
  · next found hget =>
      split at hfind
      · next hof =>
          obtain rfl := Except.ok.inj hfind
          exact teamOutside_of_mem h (Table.mem_of_get hget) (hof.trans_ne hother)
      · cases hfind

/-- A team membership of another team has another id than those of the workspace. -/
theorem ne_id_of_teamMembership (h : RowsKept workspaceId rows db) {row : TeamMembership}
    (hrow : row ∈ db.committed.teamMemberships.rows) (hteam : row.teamId ∉ rows.teams.map Team.id) :
    ∀ kept ∈ rows.teamMemberships, row.id ≠ kept.id := by
  intro kept hkept hid
  rw [← h] at hkept hteam
  obtain ⟨hmem, hof⟩ := mem_teamMemberships_iff.mp hkept
  have hsame := Table.get_of_mem hmem
  rw [show kept.key = row.key from hid.symm, Table.get_of_mem hrow] at hsame
  exact hteam (Option.some.inj hsame ▸ hof)

/-! ## Steps -/

theorem RowsKept.write (h : RowsKept workspaceId rows db) {write : TeamWrite}
    (hwrite : write.Outside workspaceId rows) :
    workspaceRows (write.apply db.committed) workspaceId = rows := by
  unfold RowsKept at h
  subst h
  exact TeamWrite.Outside.apply hwrite

/-- A write outside the workspace, of a call that is outside it. -/
theorem staysOutside_autocommitted (h : RowsKept workspaceId rows db) {call : PendingTeamCall}
    (hcall : call.Outside workspaceId rows) {write : TeamWrite}
    (hwrite : write.Outside workspaceId rows) :
    StaysOutside workspaceId rows (PendingTeamCall.Outside workspaceId rows)
      (autocommitted db call write) := by
  unfold autocommitted
  split
  · exact .goesOn h hcall
  · next db' hcommit =>
      refine .ends ?_
      rw [RowsKept, autocommit_eq_some hcommit]
      exact h.write hwrite

theorem staysOutside_saved (h : RowsKept workspaceId rows db) {call : PendingAccessCall}
    (hcall : call.Outside workspaceId rows) {write : AccessWrite}
    (hwrite : write.Outside workspaceId rows) :
    StaysOutside workspaceId rows (PendingAccessCall.Outside workspaceId rows)
      (savedOnItsOwn db call write) := by
  unfold savedOnItsOwn
  split
  · exact .goesOn h hcall
  · next db' hcommit =>
      refine .ends ?_
      rw [RowsKept, autocommit_eq_some hcommit]
      unfold RowsKept at h
      subst h
      exact AccessWrite.Outside.apply hwrite

/-- A write of a removal. -/
theorem RemovalOutside.write {tx : Transaction TeamWrite} {membership : WorkspaceMembership}
    (h : RemovalOutside workspaceId rows tx membership) {write : TeamWrite}
    {written : TeamDatabase × Transaction TeamWrite}
    (hwritten : db.write teamStatements tx write = some written)
    (hwrite : write.Outside workspaceId rows) :
    RemovalOutside workspaceId rows written.2 membership := by
  refine ⟨?_, h.2⟩
  rw [(write_eq_some hwritten).2]
  intro other hother
  rcases List.mem_append.mp hother with hold | hnew
  · exact h.1 other hold
  · exact List.mem_singleton.mp hnew ▸ hwrite

/-- A removal commits writes outside the workspace. -/
theorem RowsKept.view (h : RowsKept workspaceId rows db) {tx : Transaction TeamWrite}
    (htx : ∀ write ∈ tx.writes, write.Outside workspaceId rows) :
    workspaceRows (tx.view teamStatements db.committed) workspaceId = rows := by
  refine view_keeps (I := fun d => workspaceRows d workspaceId = rows) ?_ h
  intro write hmem d hd
  subst hd
  exact TeamWrite.Outside.apply (htx write hmem)

/-- What a transaction reads that has not written. -/
theorem view_of_nil {tx : Transaction TeamWrite} (htx : tx.writes = []) (d : TeamTables) :
    tx.view teamStatements d = d := by
  rw [Transaction.view, htx]
  rfl

/-- **A later step of a call on team members** that is outside the workspace. -/
theorem staysOutside_continueTeam (h : RowsKept workspaceId rows db) {call : PendingTeamCall}
    (hcall : call.Outside workspaceId rows) (input : TeamInput) :
    StaysOutside workspaceId rows (PendingTeamCall.Outside workspaceId rows)
      (continueTeamCall call input db) := by
  cases call with
  | assertingWritable request =>
      simp only [continueTeamCall]
      split
      · exact .ends h
      · refine .goesOn h ?_
        cases request <;> exact hcall
  | findingTeam other teamId action =>
      simp only [continueTeamCall]
      split
      · exact .ends h
      · next team hfind =>
          have houtside := teamOutside_of_find h hfind hcall
          refine .goesOn h ?_
          cases action with
          | addTeamMember userId => exact ⟨houtside.1, houtside.not_mem⟩
          | removeTeamMember userId => exact houtside.not_mem
          | deleteTeam => exact houtside
  | findingMembership other teamId userId =>
      simp only [continueTeamCall]
      split
      · exact .ends h
      · exact .goesOn h hcall
  | findingUser addition userId =>
      simp only [continueTeamCall]
      split
      · exact .ends h
      · split
        · exact .ends h
        · exact .goesOn h hcall
  | findingExisting addition userId =>
      simp only [continueTeamCall]
      split
      · exact .ends h
      · exact .goesOn h hcall
  | inserting addition userId =>
      simp only [continueTeamCall]
      split
      · exact .ends h
      · refine staysOutside_autocommitted h hcall ?_
        cases addition with
        | member other role => exact hcall
        | teamMember other teamId => exact hcall.2
  | findingTeamMembership teamId userId =>
      simp only [continueTeamCall]
      split
      · exact .ends h
      · next row hfind =>
          have hrow := List.mem_of_find?_eq_some hfind
          have hteam : row.teamId = teamId := by
            have hboth := List.find?_some hfind
            rw [Bool.and_eq_true, decide_eq_true_eq, decide_eq_true_eq] at hboth
            exact hboth.1
          exact .goesOn h (ne_id_of_teamMembership h hrow (hteam ▸ hcall))
  | removingTeamMembership row =>
      refine staysOutside_autocommitted h hcall ?_
      intro kept hkept deleted hdeleted
      exact List.mem_singleton.mp hdeleted ▸ hcall kept hkept
  | countingUses team =>
      simp only [continueTeamCall]
      split
      · exact .ends h
      · exact .goesOn h hcall
  | removingTeam team => exact staysOutside_autocommitted h hcall hcall.2
  | findingRemoved other membershipId =>
      simp only [continueTeamCall]
      split
      · exact .ends h
      · next membership hfind =>
          obtain ⟨hget, hof⟩ := Option.filter_eq_some_iff.mp hfind
          have hother : membership.workspaceId ≠ workspaceId :=
            (of_decide_eq_true hof).trans_ne hcall
          refine .goesOn h ⟨rfl, ?_, membershipOutside_of_get h hget hother⟩
          exact fun write hmem => absurd hmem List.not_mem_nil
  | findingTeams tx membership =>
      obtain ⟨hnil, hremoval⟩ := hcall
      simp only [continueTeamCall, view_of_nil hnil]
      split
      · exact .goesOn h hremoval
      · refine .goesOn h ⟨hnil, hremoval, ?_⟩
        intro teamId hmem
        obtain ⟨team, hteam, rfl⟩ := List.mem_map.mp hmem
        obtain ⟨hin, hof⟩ := List.mem_filter.mp hteam
        exact (teamOutside_of_mem h hin ((of_decide_eq_true hof).trans_ne hremoval.2.1)).not_mem
  | selectingTeamMemberships tx membership teamIds =>
      obtain ⟨hnil, hremoval, hteams⟩ := hcall
      simp only [continueTeamCall, view_of_nil hnil]
      refine .goesOn h ⟨hremoval, ?_⟩
      intro kept hkept row hrow
      obtain ⟨hin, hof⟩ := List.mem_filter.mp hrow
      rw [Bool.and_eq_true, decide_eq_true_eq, decide_eq_true_eq] at hof
      exact ne_id_of_teamMembership h hin (hteams row.teamId hof.2) kept hkept
  | deletingTeamMemberships tx membership deleted =>
      simp only [continueTeamCall]
      split
      · exact .goesOn h hcall
      · next written hwritten =>
          have hsame := (write_eq_some hwritten).1
          refine .goesOn ?_ (hcall.1.write hwritten hcall.2)
          rw [RowsKept, hsame]
          exact h
  | removingMembership tx membership deleted =>
      simp only [continueTeamCall]
      split
      · exact .goesOn h hcall
      · next written hwritten =>
          have hsame := (write_eq_some hwritten).1
          refine .goesOn ?_ (hcall.write hwritten hcall.2.2)
          rw [RowsKept, hsame]
          exact h
  | committingRemoval tx membership deleted => exact .ends (h.view hcall.1)

/-- A step of a call on team members, as a step of any call. -/
theorem StaysOutside.ofTeamStep {next : TeamStep}
    (h : StaysOutside workspaceId rows (PendingTeamCall.Outside workspaceId rows) next) :
    StaysOutside workspaceId rows (PendingAccessCall.Outside workspaceId rows)
      (ofTeamStep next) := by
  refine ⟨h.kept, fun after hafter => ?_⟩
  obtain ⟨call, hcall, rfl⟩ := Option.map_eq_some_iff.mp hafter
  exact h.outside call hcall

/-- **A later step of any call** that is outside the workspace. -/
theorem staysOutside_continue (h : RowsKept workspaceId rows db) {call : PendingAccessCall}
    (hcall : call.Outside workspaceId rows) (input : TeamInput) :
    StaysOutside workspaceId rows (PendingAccessCall.Outside workspaceId rows)
      (continueAccess call input db) := by
  cases call with
  | team call => exact (staysOutside_continueTeam h hcall input).ofTeamStep
  | assertingWritable request =>
      simp only [continueAccess]
      split
      · exact .ends h
      · refine .goesOn h ?_
        cases request with
        | team request => cases request <;> exact hcall
        | _ => exact hcall
  | findingUpdatedMember other membershipId role =>
      simp only [continueAccess]
      split
      · exact .ends h
      · next membership hfind =>
          obtain ⟨hget, hof⟩ := Option.filter_eq_some_iff.mp hfind
          have hother : membership.workspaceId ≠ workspaceId :=
            (of_decide_eq_true hof).trans_ne hcall
          have houtside := membershipOutside_of_get h hget hother
          exact .goesOn h houtside
  | savingMember row =>
      simp only [continueAccess]
      split
      · exact .ends h
      · exact staysOutside_saved h hcall hcall
  | insertingTeam other name description => exact staysOutside_saved h hcall hcall
  | findingUpdatedTeam other teamId name description =>
      simp only [continueAccess]
      split
      · exact .ends h
      · next team hfind =>
          split
          · exact .ends h
          · have houtside := teamOutside_of_find h hfind hcall
            exact .goesOn h houtside
  | savingTeam row => exact staysOutside_saved h hcall hcall

/-- A call that fails, and its transaction, leave everything what it is. -/
theorem rejectAccess_committed (call : PendingAccessCall) (db : TeamDatabase) :
    (rejectAccess call db).committed = db.committed := by
  cases call with
  | team call => cases call <;> rfl
  | _ => rfl

theorem staysOutside_resume (h : RowsKept workspaceId rows db) {call : PendingAccessCall}
    (hcall : call.Outside workspaceId rows) (input : TeamInput) :
    StaysOutside workspaceId rows (PendingAccessCall.Outside workspaceId rows)
      (resumeAccess call input db) := by
  unfold resumeAccess
  split
  · refine .ends ?_
    rw [RowsKept, rejectAccess_committed]
    exact h
  · exact staysOutside_continue h hcall input

/-! ## Runs -/

/-- The actor of the request may not administer the workspace. -/
def AccessRequest.IsOutsider (d : TeamTables) (workspaceId : Uuid) (request : AccessRequest) :
    Prop :=
  assertWorkspaceAdmin d.toWorkspaceTables workspaceId request.actor ≠ .ok ()

/-- A request of an outsider that is let in is one for another workspace. -/
theorem staysOutside_invoke {request : AccessRequest}
    (hrows : workspaceRows d workspaceId = rows) (h : RowsKept workspaceId rows db)
    (hrequest : request.IsOutsider d workspaceId) (input : TeamInput) :
    StaysOutside workspaceId rows (PendingAccessCall.Outside workspaceId rows)
      (invokeAccess request input db) := by
  have hother : assertWorkspaceAdmin db.committed.toWorkspaceTables request.workspaceId
      request.actor = .ok () → request.workspaceId ≠ workspaceId := by
    intro hok heq
    rw [heq, assertWorkspaceAdmin_congr request.actor (h.trans hrows.symm)] at hok
    exact hrequest hok
  cases request with
  | team request =>
      refine StaysOutside.ofTeamStep ?_
      unfold invokeTeamCall
      split
      · exact .ends h
      · next hok => exact .goesOn h (hother hok)
  | _ =>
      simp only [invokeAccess]
      split
      · exact .ends h
      · next hok => exact .goesOn h (hother hok)

theorem isolation_outline (hrows : workspaceRows d workspaceId = rows) :
    Outline accessCalls teamEnv (fun _ request _ => request.IsOutsider d workspaceId)
      (fun _ _ _ => True) (fun _ _ => True) (RowsKept workspaceId rows)
      (fun _ call => call.Outside workspaceId rows) where
  invoke := fun h hrequest =>
    ⟨(staysOutside_invoke hrows h hrequest _).kept,
      (staysOutside_invoke hrows h hrequest _).outside⟩
  resume := fun h hcall _ =>
    ⟨(staysOutside_resume h hcall _).kept, (staysOutside_resume h hcall _).outside⟩
  environment := by
    intro db change h _
    cases change <;> exact h
  invoke_stable := fun _ _ hcall => hcall
  resume_stable := fun _ _ _ hcall => hcall
  environment_stable := fun _ _ hcall => hcall

/-- **Outsiders change nothing.**  No call is made by a platform administrator, or by an owner or
administrator that the workspace has at the start: then the workspace has at the end the members
with their roles, the teams and the team members that it had. -/
theorem outsiders_change_nothing {es : List AccessEvent}
    (hes : ∀ p request input, .invoke p request input ∈ es →
      request.IsOutsider db.committed workspaceId) :
    workspaceRows (run accessStep (.idle db) es).world.committed workspaceId
      = workspaceRows db.committed workspaceId := by
  have hstart : Good (RowsKept workspaceId (workspaceRows db.committed workspaceId))
      (fun _ call => call.Outside workspaceId (workspaceRows db.committed workspaceId))
      (Config.idle db : AccessConfig) := good_idle rfl
  refine ((isolation_outline rfl).run hstart (along_iff.mpr fun es₁ e es₂ hsplit => ?_)).1
  have hmem : e ∈ es := by simp [hsplit]
  cases e with
  | invoke p request input => exact fun _ => hes p request input hmem
  | resume p input => exact fun _ _ => trivial
  | env change => exact trivial

/-- The owner of the first workspace, who is a member of the second. -/
def firstOwner : AuthenticatedUser where
  id := "u1"
  email := "owner@example.com"
  role := .user
  name := "Owner"

/-- Two workspaces; the second has two members and a team. -/
def twoWorkspaces : TeamTables where
  workspaces := ⟨[{ id := "w1", name := "Acme Operations", slug := "acme-ops" },
    { id := "w2", name := "Acme Research", slug := "acme-research" }], by decide⟩
  memberships := ⟨[⟨⟨"w1", "u1", .owner⟩, "m1"⟩, ⟨⟨"w2", "u1", .member⟩, "m2"⟩,
    ⟨⟨"w2", "u2", .admin⟩, "m3"⟩], by decide⟩
  users := Table.empty
  teams := ⟨[{ id := "t2", workspaceId := "w2", name := "Lab" }], by decide⟩
  teamMemberships := ⟨[⟨"tm1", "t2", "u2"⟩], by decide⟩

/-- The owner asks for the other role, and to remove the administrator and the team of the second
workspace, through each of the two; meanwhile a team of the first one is created. -/
def firstOwnerRequests : List AccessRequest :=
  [.updateMember "w2" "m2" firstOwner .owner, .updateMember "w1" "m2" firstOwner .owner,
    .team (.removeMember "w1" "m3" firstOwner), .team (.onTeam "w1" "t2" firstOwner .deleteTeam),
    .createTeam "w1" firstOwner "Platform Ops" none]

/-- Every request is made and goes on for nine steps. -/
def firstOwnerEvents : List AccessEvent :=
  firstOwnerRequests.zipIdx.map (fun request => .invoke request.2 request.1 {}) ++
    (List.range 9).flatMap fun _ => (List.range 5).map fun p => .resume p { id := "t1" }

/-- The second workspace is what it was, and the first has its new team. -/
theorem outsiders_change_nothing_owner :
    workspaceRows (run accessStep (.idle { committed := twoWorkspaces })
        firstOwnerEvents).world.committed "w2" = workspaceRows twoWorkspaces "w2" ∧
      ((run accessStep (.idle { committed := twoWorkspaces })
        firstOwnerEvents).world.committed.teams.get "t1").isSome = true := by
  refine ⟨outsiders_change_nothing ?_, by decide +kernel⟩
  have hnot : assertWorkspaceAdmin twoWorkspaces.toWorkspaceTables "w2" firstOwner ≠ .ok () := by
    decide +kernel
  intro p request input hmem
  rcases List.mem_append.mp hmem with hinvoke | hresume
  · obtain ⟨entry, hentry, heq⟩ := List.mem_map.mp hinvoke
    obtain ⟨-, rfl, -⟩ := Event.invoke.inj heq
    have hactor : ∀ entry ∈ firstOwnerRequests.zipIdx, entry.1.actor = firstOwner := by
      decide +kernel
    rw [AccessRequest.IsOutsider, hactor entry hentry]
    exact hnot
  · obtain ⟨-, -, hlater⟩ := List.mem_flatMap.mp hresume
    obtain ⟨q, -, heq⟩ := List.mem_map.mp hlater
    cases heq

end

end WorkspacesService
