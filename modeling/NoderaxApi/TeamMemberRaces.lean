/-
# Team members are workspace members

`addTeamMember` checks the workspace membership of the user some steps before it inserts the
team membership, and `removeMember` deletes the team memberships of the user some steps before
it commits.  Neither looks again, and nothing ties the two tables together.

**`teamMembers_areMembers`**: every member of a team is a member of its workspace, as long as
the workspace membership that was found is still there when the team membership is inserted, and
a removal, when it commits, finds the membership as it loaded it and no team membership of the
user that was not there when its DELETE looked.
-/
import NoderaxApi.TeamMembers

namespace WorkspacesService

open AuthService KeyedTable NotificationsService ReadCommitted Interleaving Runs

/-! ## The condition and the property -/

/-- The user has a membership of the workspace. -/
def IsMember (d : TeamTables) (workspaceId userId : Uuid) : Prop :=
  ∃ row ∈ d.memberships.rows, row.workspaceId = workspaceId ∧ row.userId = userId

instance IsMember.decidable (d : TeamTables) (workspaceId userId : Uuid) :
    Decidable (IsMember d workspaceId userId) := by
  unfold IsMember; infer_instance

/-- Every member of a team is a member of the workspace of the team. -/
def TeamMembersAreMembers (d : TeamTables) : Prop :=
  ∀ row ∈ d.teamMemberships.rows, ∀ team ∈ d.teams.get row.teamId,
    IsMember d team.workspaceId row.userId

instance TeamMembersAreMembers.decidable (d : TeamTables) :
    Decidable (TeamMembersAreMembers d) := by
  unfold TeamMembersAreMembers; infer_instance

/-- What a call has read that its write relies on. -/
structure TeamReads where
  /-- The workspace membership of the user who is added to a team. -/
  member : Option WorkspaceMembership := none
  /-- The team memberships that the DELETE of a removal has looked at. -/
  seen : Option (List TeamMembership) := none

/-- What a call has read once it took a step. -/
def TeamReads.next (reads : TeamReads) (call : PendingTeamCall) (db : TeamDatabase) : TeamReads :=
  match call with
  | .findingMembership workspaceId _ userId =>
      { reads with
        member := findMembershipForUser db.committed.toWorkspaceTables workspaceId userId }
  | .selectingTeamMemberships tx _ _ =>
      { reads with seen := some (tx.view teamStatements db.committed).teamMemberships.rows }
  | _ => reads

/-- The calls, each with what it has read. -/
def readingTeamCalls : Calls TeamDatabase TeamRequest (PendingTeamCall × TeamReads) TeamInput :=
  teamCalls.remembering (fun _ _ _ => {}) fun reads call _ db => reads.next call db

/-- The row is a team membership of the removed member in a team of the workspace. -/
def OfRemoved (d : TeamTables) (membership : WorkspaceMembership) (row : TeamMembership) : Prop :=
  row.userId = membership.userId ∧
    ∃ team ∈ d.teams.get row.teamId, team.workspaceId = membership.workspaceId

instance OfRemoved.decidable (d : TeamTables) (membership : WorkspaceMembership)
    (row : TeamMembership) : Decidable (OfRemoved d membership row) := by
  unfold OfRemoved; infer_instance

/-- When a team membership is inserted, the workspace membership that the check found is still
there; when a removal commits, the membership is as it was loaded, and the team memberships of the
user in the workspace were there when the DELETE looked. -/
def FindsAsRead (db : TeamDatabase) (call : PendingTeamCall × TeamReads) (input : TeamInput) :
    Prop :=
  match call.1 with
  | .inserting (.teamMember _ teamId) userId =>
      input.fails = true ∨
        db.waits teamStatements { number := db.next }
          (.insertTeamMembership ⟨input.id, teamId, userId⟩) = true ∨
        (findTeamMembership db.committed teamId userId).isSome = true ∨
        ∀ row ∈ call.2.member, row ∈ db.committed.memberships.rows
  | .committingRemoval _ membership _ =>
      input.fails = true ∨
        ((∀ stored ∈ db.committed.memberships.get membership.id, stored = membership) ∧
          ∀ seen ∈ call.2.seen, ∀ row ∈ db.committed.teamMemberships.rows,
            OfRemoved db.committed membership row → row ∈ seen)
  | _ => True

instance FindsAsRead.decidable (db : TeamDatabase) (call : PendingTeamCall × TeamReads)
    (input : TeamInput) : Decidable (FindsAsRead db call input) := by
  unfold FindsAsRead
  split <;> infer_instance

/-- What the steps rely on: a team membership is inserted while the user is a member of the
workspace, and when a removal commits, the membership that it removes supports no team membership
but those that it deleted. -/
def MembersStay (db : TeamDatabase) (call : PendingTeamCall) (input : TeamInput) : Prop :=
  match call with
  | .inserting (.teamMember workspaceId teamId) userId =>
      input.fails = true ∨
        db.waits teamStatements { number := db.next }
          (.insertTeamMembership ⟨input.id, teamId, userId⟩) = true ∨
        (findTeamMembership db.committed teamId userId).isSome = true ∨
        IsMember db.committed workspaceId userId
  | .committingRemoval _ membership rows =>
      input.fails = true ∨ ∀ removed ∈ db.committed.memberships.get membership.id,
        ∀ row ∈ db.committed.teamMemberships.rows, OfRemoved db.committed removed row → row ∈ rows
  | _ => True

/-! ## What the writes keep -/

variable {d d' : TeamTables} {db db' : TeamDatabase} {call : PendingTeamCall} {input : TeamInput}

/-- The teams of `d'` are among those of `d`. -/
def TeamsAmong (d d' : TeamTables) : Prop :=
  ∀ id team, d'.teams.get id = some team → d.teams.get id = some team

theorem teamsAmong_delete (team : Team) :
    TeamsAmong d ((TeamWrite.deleteTeam team).apply d) := by
  intro id found hfound
  replace hfound : (d.teams.delete team.id).get id = some found := hfound
  rw [Table.get_delete] at hfound
  split at hfound
  · cases hfound
  · exact hfound

/-- More members, and fewer teams and team memberships. -/
theorem TeamMembersAreMembers.mono (h : TeamMembersAreMembers d)
    (hmembers : ∀ row ∈ d.memberships.rows, row ∈ d'.memberships.rows)
    (hteams : TeamsAmong d d')
    (hrows : ∀ row ∈ d'.teamMemberships.rows, row ∈ d.teamMemberships.rows) :
    TeamMembersAreMembers d' := by
  intro row hrow team hteam
  obtain ⟨member, hmember, hsame⟩ := h row (hrows row hrow) team (hteams _ team hteam)
  exact ⟨member, hmembers member hmember, hsame⟩

theorem membersAreMembers_insertMembership (h : TeamMembersAreMembers d)
    (row : WorkspaceMembership) :
    TeamMembersAreMembers ((TeamWrite.insertMembership row).apply d) :=
  h.mono (fun _ hold => Table.mem_of_get (Table.get_insert_of_get (Table.get_of_mem hold)))
    (fun _ _ => id) fun _ => id

theorem membersAreMembers_deleteTeam (h : TeamMembersAreMembers d) (team : Team) :
    TeamMembersAreMembers ((TeamWrite.deleteTeam team).apply d) :=
  h.mono (fun _ => id) (teamsAmong_delete team) fun _ => id

theorem membersAreMembers_deleteTeamMemberships (h : TeamMembersAreMembers d)
    (rows : List TeamMembership) :
    TeamMembersAreMembers ((TeamWrite.deleteTeamMemberships rows).apply d) :=
  h.mono (fun _ => id) (fun _ _ => id) fun _ hrow => (Table.mem_deleteWhere.mp hrow).1

/-- A member of the workspace becomes a member of its team. -/
theorem membersAreMembers_insertTeamMembership {workspaceId : Uuid} {row : TeamMembership}
    (h : TeamMembersAreMembers d)
    (hteam : ∀ team ∈ d.teams.get row.teamId, team.workspaceId = workspaceId)
    (hmember : IsMember d workspaceId row.userId) :
    TeamMembersAreMembers ((TeamWrite.insertTeamMembership row).apply d) := by
  intro row' hrow' team hteam'
  rcases Table.mem_insert hrow' with hold | ⟨rfl, -⟩
  · exact h row' hold team hteam'
  · rw [hteam team hteam']
    exact hmember

/-- The writes of a removal: the team memberships that it saw, if the workspace has teams, and
the membership. -/
def RemovalWrites (writes : List TeamWrite) (rows : List TeamMembership) : Prop :=
  (writes = [] ∧ rows = []) ∨ writes = [.deleteTeamMemberships rows]

/-- What a removal leaves of the three tables. -/
theorem view_removal {tx : Transaction TeamWrite} {writes : List TeamWrite}
    {membership : WorkspaceMembership} {rows : List TeamMembership}
    (hwrites : RemovalWrites writes rows)
    (htx : tx.writes = writes ++ [.deleteMembership membership])
    (d : TeamTables) :
    (tx.view teamStatements d).memberships = d.memberships.delete membership.id ∧
      (tx.view teamStatements d).teams = d.teams ∧
      ∀ row ∈ (tx.view teamStatements d).teamMemberships.rows,
        row ∈ d.teamMemberships.rows ∧ row ∉ rows := by
  unfold Transaction.view
  rw [htx]
  rcases hwrites with ⟨rfl, rfl⟩ | rfl
  · exact ⟨rfl, rfl, fun row hrow => ⟨hrow, List.not_mem_nil⟩⟩
  · refine ⟨rfl, rfl, fun row hrow => ?_⟩
    obtain ⟨hold, hkept⟩ := Table.mem_deleteWhere.mp hrow
    refine ⟨hold, fun hmem => ?_⟩
    have hdeleted : rows.any (fun row' => decide (row'.id = row.id)) = true :=
      List.any_eq_true.mpr ⟨row, hmem, decide_eq_true rfl⟩
    exact absurd (hdeleted.symm.trans hkept) (by simp)

/-- A removal whose membership supports only the team memberships that it deletes. -/
theorem membersAreMembers_removal {tx : Transaction TeamWrite} {writes : List TeamWrite}
    {membership : WorkspaceMembership} {rows : List TeamMembership}
    (h : TeamMembersAreMembers d) (hwrites : RemovalWrites writes rows)
    (htx : tx.writes = writes ++ [.deleteMembership membership])
    (honly : ∀ removed ∈ d.memberships.get membership.id, ∀ row ∈ d.teamMemberships.rows,
      OfRemoved d removed row → row ∈ rows) :
    TeamMembersAreMembers (tx.view teamStatements d) := by
  obtain ⟨hmemberships, hteams, hrows⟩ := view_removal hwrites htx d
  intro row hrow team hteam
  obtain ⟨hold, hkept⟩ := hrows row hrow
  rw [hteams] at hteam
  obtain ⟨member, hmember, hworkspace, huser⟩ := h row hold team hteam
  have hother : member.key ≠ membership.id := by
    intro hid
    have hget : d.memberships.get membership.id = some member := hid ▸ Table.get_of_mem hmember
    exact hkept (honly member hget row hold ⟨huser.symm, team, hteam, hworkspace.symm⟩)
  have hget : (d.memberships.delete membership.id).get member.key = some member := by
    rw [Table.get_delete, if_neg hother, Table.get_of_mem hmember]
  exact ⟨member, hmemberships ▸ Table.mem_of_get hget, hworkspace, huser⟩

/-! ## One step of a call -/

/-- The team, while it is there, is one of the workspace. -/
def TeamOf (d : TeamTables) (workspaceId teamId : Uuid) : Prop :=
  ∀ team ∈ d.teams.get teamId, team.workspaceId = workspaceId

/-- What a pending call relies on. -/
def TeamCallKept (db : TeamDatabase) : PendingTeamCall → Prop
  | .findingMembership workspaceId teamId _ => TeamOf db.committed workspaceId teamId
  | .findingUser (.teamMember workspaceId teamId) _
  | .findingExisting (.teamMember workspaceId teamId) _
  | .inserting (.teamMember workspaceId teamId) _ => TeamOf db.committed workspaceId teamId
  | .findingTeams tx _ | .selectingTeamMemberships tx _ _ | .deletingTeamMemberships tx _ _ =>
      tx.writes = []
  | .removingMembership tx _ rows => RemovalWrites tx.writes rows
  | .committingRemoval tx membership rows =>
      ∃ writes, RemovalWrites writes rows ∧ tx.writes = writes ++ [.deleteMembership membership]
  | _ => True

/-- What a pending call relies on does not need a team to stay. -/
theorem TeamCallKept.mono (h : TeamCallKept db call)
    (hteams : TeamsAmong db.committed db'.committed) :
    TeamCallKept db' call := by
  have hteam : ∀ {workspaceId teamId}, TeamOf db.committed workspaceId teamId →
      TeamOf db'.committed workspaceId teamId :=
    fun hteam team hget => hteam team (hteams _ team hget)
  cases call with
  | findingMembership workspaceId teamId userId => exact hteam h
  | findingUser addition userId =>
      cases addition with
      | member workspaceId role => trivial
      | teamMember workspaceId teamId => exact hteam h
  | findingExisting addition userId =>
      cases addition with
      | member workspaceId role => trivial
      | teamMember workspaceId teamId => exact hteam h
  | inserting addition userId =>
      cases addition with
      | member workspaceId role => trivial
      | teamMember workspaceId teamId => exact hteam h
  | _ => exact h

theorem teamOf_findTeam {workspaceId teamId : Uuid} {team : Team}
    (h : findTeamOrFail d workspaceId teamId = .ok team) :
    TeamOf d team.workspaceId team.id := by
  unfold findTeamOrFail at h
  split at h
  · cases h
  · next found hfound =>
      split at h
      · obtain rfl := Except.ok.inj h
        have hid : found.key = teamId := Table.key_of_get hfound
        intro other hother
        rw [show found.id = teamId from hid, hfound] at hother
        exact congrArg Team.workspaceId (Option.some.inj hother).symm
      · cases h

/-- What a step of a call does. -/
structure TeamAdvance (db db' : TeamDatabase) (next : Option PendingTeamCall) : Prop where
  members : TeamMembersAreMembers db'.committed
  teams : TeamsAmong db.committed db'.committed
  relies : ∀ after, next = some after → TeamCallKept db' after

/-- A step that changes nothing that is committed. -/
theorem TeamAdvance.looks {next : Option PendingTeamCall} (h : TeamMembersAreMembers db.committed)
    (hsame : db'.committed = db.committed)
    (hnext : ∀ after, next = some after → TeamCallKept db' after) : TeamAdvance db db' next :=
  ⟨hsame ▸ h, fun _ _ hget => hsame ▸ hget, hnext⟩

/-- A step that ends the call. -/
theorem TeamAdvance.ends (h : TeamMembersAreMembers db.committed)
    (hsame : db'.committed = db.committed) : TeamAdvance db db' none :=
  TeamAdvance.looks h hsame fun _ hafter => absurd hafter (by simp)

/-- A step that goes on to the next one. -/
theorem TeamAdvance.goesOn {after : PendingTeamCall} (h : TeamMembersAreMembers db.committed)
    (hsame : db'.committed = db.committed) (hafter : TeamCallKept db' after) :
    TeamAdvance db db' (some after) :=
  TeamAdvance.looks h hsame fun _ heq => Option.some.inj heq ▸ hafter

/-- A write that waits for another transaction. -/
theorem TeamAdvance.waits {write : TeamWrite} (h : TeamMembersAreMembers db.committed)
    (hcall : TeamCallKept db call)
    (hwaits : db.waits teamStatements { number := db.next } write = true) :
    TeamAdvance db (autocommitted db call write).1 (autocommitted db call write).2 := by
  have hnone := autocommit_of_waits hwaits
  simp only [autocommitted, hnone]
  exact TeamAdvance.goesOn h rfl hcall

/-- A write outside transactions. -/
theorem TeamAdvance.autocommitted {write : TeamWrite} (h : TeamMembersAreMembers db.committed)
    (hcall : TeamCallKept db call)
    (hmembers : TeamMembersAreMembers (write.apply db.committed))
    (hteams : TeamsAmong db.committed (write.apply db.committed)) :
    TeamAdvance db (autocommitted db call write).1 (autocommitted db call write).2 := by
  unfold WorkspacesService.autocommitted
  split
  · exact TeamAdvance.goesOn h rfl hcall
  · next db' hwritten =>
      have hcommitted : db'.committed = write.apply db.committed := autocommit_eq_some hwritten
      refine ⟨?_, ?_, fun after hafter => absurd hafter (by simp)⟩
      · rw [hcommitted]
        exact hmembers
      · rw [hcommitted]
        exact hteams

/-- **One later step of a call**, under the condition. -/
theorem teamAdvance (h : TeamMembersAreMembers db.committed) (hcall : TeamCallKept db call)
    (hguard : MembersStay db call input) :
    TeamAdvance db (resumeTeamCall call input db).1 (resumeTeamCall call input db).2 := by
  unfold resumeTeamCall
  cases hfails : input.fails with
  | true =>
      rw [if_pos rfl]
      refine TeamAdvance.ends h ?_
      cases call <;> rfl
  | false =>
      rw [if_neg Bool.false_ne_true]
      have hsame : TeamsAmong db.committed db.committed := fun _ _ => id
      cases call with
      | assertingWritable request =>
          simp only [continueTeamCall]
          split
          · exact TeamAdvance.ends h rfl
          · refine TeamAdvance.goesOn h rfl ?_
            cases request <;> trivial
      | findingTeam workspaceId teamId action =>
          simp only [continueTeamCall]
          split
          · exact TeamAdvance.ends h rfl
          · next team hfind =>
              refine TeamAdvance.goesOn h rfl ?_
              cases action with
              | addTeamMember userId => exact teamOf_findTeam hfind
              | removeTeamMember userId => trivial
              | deleteTeam => trivial
      | findingMembership workspaceId teamId userId =>
          simp only [continueTeamCall]
          split
          · exact TeamAdvance.ends h rfl
          · exact TeamAdvance.goesOn h rfl hcall
      | findingUser addition userId =>
          simp only [continueTeamCall]
          split
          · exact TeamAdvance.ends h rfl
          · split
            · exact TeamAdvance.ends h rfl
            · refine TeamAdvance.goesOn h rfl ?_
              cases addition <;> exact hcall
      | findingExisting addition userId =>
          simp only [continueTeamCall]
          split
          · exact TeamAdvance.ends h rfl
          · refine TeamAdvance.goesOn h rfl ?_
            cases addition <;> exact hcall
      | inserting addition userId =>
          simp only [continueTeamCall]
          split
          · exact TeamAdvance.ends h rfl
          · next hfree =>
              cases addition with
              | member workspaceId role =>
                  exact TeamAdvance.autocommitted h hcall
                    (membersAreMembers_insertMembership h _) hsame
              | teamMember workspaceId teamId =>
                  -- the insert waits, is refused, or the user is a member at this moment
                  rcases hguard.resolve_left (by simp [hfails]) with hwaits | htaken | hmember
                  · exact TeamAdvance.waits h hcall hwaits
                  · -- a row that is there and not locked violates the constraint
                    cases hwaits : db.waits teamStatements { number := db.next }
                        (.insertTeamMembership ⟨input.id, teamId, userId⟩) with
                    | true => exact TeamAdvance.waits h hcall hwaits
                    | false =>
                        exact absurd (by simp [Addition.write, Addition.taken, hwaits, htaken])
                          hfree
                  · exact TeamAdvance.autocommitted h hcall
                      (membersAreMembers_insertTeamMembership h hcall hmember) hsame
      | findingTeamMembership teamId userId =>
          simp only [continueTeamCall]
          split
          · exact TeamAdvance.ends h rfl
          · exact TeamAdvance.goesOn h rfl trivial
      | removingTeamMembership row =>
          exact TeamAdvance.autocommitted h hcall
            (membersAreMembers_deleteTeamMemberships h [row]) hsame
      | countingUses team =>
          simp only [continueTeamCall]
          split
          · exact TeamAdvance.ends h rfl
          · exact TeamAdvance.goesOn h rfl trivial
      | removingTeam team =>
          exact TeamAdvance.autocommitted h hcall (membersAreMembers_deleteTeam h team)
            (teamsAmong_delete team)
      | findingRemoved workspaceId membershipId =>
          simp only [continueTeamCall]
          split
          · exact TeamAdvance.ends h rfl
          · exact TeamAdvance.goesOn h rfl rfl
      | findingTeams tx membership =>
          simp only [continueTeamCall]
          split
          · exact TeamAdvance.goesOn h rfl (.inl ⟨hcall, rfl⟩)
          · exact TeamAdvance.goesOn h rfl hcall
      | selectingTeamMemberships tx membership teamIds => exact TeamAdvance.goesOn h rfl hcall
      | deletingTeamMemberships tx membership rows =>
          simp only [continueTeamCall]
          split
          · exact TeamAdvance.goesOn h rfl hcall
          · next written hwritten =>
              obtain ⟨hcommitted, hwrites⟩ := write_eq_some hwritten
              refine TeamAdvance.goesOn h hcommitted (.inr ?_)
              rw [hwrites, show tx.writes = [] from hcall]
              rfl
      | removingMembership tx membership rows =>
          simp only [continueTeamCall]
          split
          · exact TeamAdvance.goesOn h rfl hcall
          · next written hwritten =>
              obtain ⟨hcommitted, hwrites⟩ := write_eq_some hwritten
              exact TeamAdvance.goesOn h hcommitted ⟨tx.writes, hcall, hwrites⟩
      | committingRemoval tx membership rows =>
          -- only the commit takes the membership away, with what the transaction saw
          obtain ⟨writes, hremoval, htx⟩ := hcall
          have honly := hguard.resolve_left (by simp [hfails])
          have hteams := (view_removal hremoval htx db.committed).2.1
          exact ⟨membersAreMembers_removal h hremoval htx honly, fun id team hget => hteams ▸ hget,
            fun after hafter => absurd hafter (by simp [continueTeamCall])⟩

/-! ## Runs -/

/-- The first step of a call only looks. -/
theorem invokeTeamCall_looks (request : TeamRequest) (input : TeamInput) (db : TeamDatabase) :
    (invokeTeamCall request input db).1 = db ∧
      ∀ after, (invokeTeamCall request input db).2 = some after →
        after = .assertingWritable request := by
  unfold invokeTeamCall
  split
  · exact ⟨rfl, fun after hafter => absurd hafter (by simp)⟩
  · exact ⟨rfl, fun after hafter => (Option.some.inj hafter).symm⟩

theorem teamEnv_keeps (change : TeamEnv) (db : TeamDatabase) :
    (teamEnv change db).committed.memberships = db.committed.memberships ∧
      (teamEnv change db).committed.teams = db.committed.teams ∧
      (teamEnv change db).committed.teamMemberships = db.committed.teamMemberships := by
  cases change <;> exact ⟨rfl, rfl, rfl⟩

/-! ## What the reads are worth -/

/-- The teams of the workspace are among these. -/
def AllTeams (d : TeamTables) (workspaceId : Uuid) (teamIds : List Uuid) : Prop :=
  ∀ id, ∀ team ∈ d.teams.get id, team.workspaceId = workspaceId → id ∈ teamIds

/-- A removal is to delete every team membership that it has seen, or there is no team. -/
structure Covers (d : TeamTables) (reads : TeamReads) (membership : WorkspaceMembership)
    (rows : List TeamMembership) : Prop where
  noTeam : reads.seen = none → AllTeams d membership.workspaceId []
  deleted : ∀ seen ∈ reads.seen, ∀ row ∈ seen, OfRemoved d membership row → row ∈ rows

/-- What a pending call has read. -/
def ReadsKept (db : TeamDatabase) (call : PendingTeamCall) (reads : TeamReads) : Prop :=
  match call with
  | .findingUser (.teamMember workspaceId _) userId
  | .findingExisting (.teamMember workspaceId _) userId
  | .inserting (.teamMember workspaceId _) userId =>
      ∃ row ∈ reads.member, row.workspaceId = workspaceId ∧ row.userId = userId
  | .findingTeams _ _ => reads.seen = none
  | .selectingTeamMemberships _ membership teamIds =>
      AllTeams db.committed membership.workspaceId teamIds
  | .deletingTeamMemberships _ membership rows | .removingMembership _ membership rows
  | .committingRemoval _ membership rows => Covers db.committed reads membership rows
  | .assertingWritable _ | .findingTeam _ _ _ | .findingMembership _ _ _
  | .findingRemoved _ _ => reads.seen = none
  | _ => True

theorem Covers.mono {reads : TeamReads} {membership : WorkspaceMembership}
    {rows : List TeamMembership} (h : Covers d reads membership rows) (hteams : TeamsAmong d d') :
    Covers d' reads membership rows where
  noTeam hnone id team hget := h.noTeam hnone id team (hteams id team hget)
  deleted := by
    rintro seen hseen row hrow ⟨huser, team, hteam, hworkspace⟩
    exact h.deleted seen hseen row hrow ⟨huser, team, hteams _ team hteam, hworkspace⟩

/-- What a call has read does not need a team to stay. -/
theorem ReadsKept.mono {reads : TeamReads} (h : ReadsKept db call reads)
    (hteams : TeamsAmong db.committed db'.committed) : ReadsKept db' call reads := by
  cases call with
  | findingUser addition userId => cases addition <;> exact h
  | findingExisting addition userId => cases addition <;> exact h
  | inserting addition userId => cases addition <;> exact h
  | selectingTeamMemberships tx membership teamIds =>
      exact fun id team hget => h id team (hteams id team hget)
  | deletingTeamMemberships tx membership rows => exact Covers.mono h hteams
  | removingMembership tx membership rows => exact Covers.mono h hteams
  | committingRemoval tx membership rows => exact Covers.mono h hteams
  | _ => exact h

/-- A call that waits has read what it had. -/
theorem reads_autocommitted {reads : TeamReads} {write : TeamWrite} {after : PendingTeamCall}
    (h : ReadsKept db call reads) (hafter : (autocommitted db call write).2 = some after) :
    ReadsKept (autocommitted db call write).1 after reads := by
  unfold autocommitted at hafter ⊢
  split
  · next hnone =>
      rw [hnone] at hafter
      exact Option.some.inj hafter ▸ h
  · next hsome =>
      rw [hsome] at hafter
      cases hafter

/-- The membership that the check has found is one of the user. -/
theorem findMembershipForUser_spec {tables : WorkspaceTables} {workspaceId userId : Uuid}
    {row : WorkspaceMembership} (h : findMembershipForUser tables workspaceId userId = some row) :
    row.workspaceId = workspaceId ∧ row.userId = userId := by
  have hfound := List.find?_some h
  simpa using hfound

/-- A removal learns all the teams of the workspace. -/
theorem reads_findingTeams {reads : TeamReads} {after : PendingTeamCall}
    {tx : Transaction TeamWrite} {membership : WorkspaceMembership}
    (hcall : TeamCallKept db (.findingTeams tx membership)) (h : reads.seen = none)
    (hafter : (continueTeamCall (.findingTeams tx membership) input db).2 = some after) :
    ReadsKept (continueTeamCall (.findingTeams tx membership) input db).1 after reads := by
  have hview : tx.view teamStatements db.committed = db.committed := by
    rw [Transaction.view, show tx.writes = [] from hcall]
    rfl
  have hmem : ∀ id, ∀ team ∈ db.committed.teams.get id,
      team.workspaceId = membership.workspaceId →
        team ∈ db.committed.teams.rows.filter (·.workspaceId = membership.workspaceId) :=
    fun id team hteam hworkspace =>
      List.mem_filter.mpr ⟨Table.mem_of_get hteam, decide_eq_true hworkspace⟩
  simp only [continueTeamCall, hview] at hafter ⊢
  by_cases hempty : (db.committed.teams.rows.filter
      (·.workspaceId = membership.workspaceId)).isEmpty = true
  · rw [if_pos hempty] at hafter ⊢
    obtain rfl := Option.some.inj hafter
    refine ⟨fun _ id team hteam hworkspace => ?_, fun seen hseen => ?_⟩
    · have hnone := hmem id team hteam hworkspace
      rw [List.isEmpty_iff.mp hempty] at hnone
      exact absurd hnone List.not_mem_nil
    · rw [h] at hseen
      cases hseen
  · rw [if_neg hempty] at hafter ⊢
    obtain rfl := Option.some.inj hafter
    intro id team hteam hworkspace
    exact List.mem_map.mpr ⟨team, hmem id team hteam hworkspace, Table.key_of_get hteam⟩

/-- **What a step reads**, it keeps for the write. -/
theorem reads_resume {reads : TeamReads} {after : PendingTeamCall}
    (hcall : TeamCallKept db call) (h : ReadsKept db call reads)
    (hafter : (resumeTeamCall call input db).2 = some after) :
    ReadsKept (resumeTeamCall call input db).1 after (reads.next call db) := by
  unfold resumeTeamCall at hafter ⊢
  split at hafter
  · cases hafter
  · next hfails =>
      rw [if_neg hfails]
      cases call with
      | assertingWritable request =>
          simp only [continueTeamCall] at hafter ⊢
          split at hafter
          · cases hafter
          · obtain rfl := Option.some.inj hafter
            cases request with
            | addMember => trivial
            | removeMember => exact h
            | onTeam => exact h
      | findingTeam workspaceId teamId action =>
          simp only [continueTeamCall] at hafter ⊢
          split at hafter
          · cases hafter
          · obtain rfl := Option.some.inj hafter
            cases action <;> first | exact h | trivial
      | findingMembership workspaceId teamId userId =>
          simp only [continueTeamCall] at hafter ⊢
          split at hafter
          · cases hafter
          · next hsome =>
              obtain rfl := Option.some.inj hafter
              obtain ⟨row, hrow⟩ := Option.ne_none_iff_exists'.mp fun hnone =>
                hsome (Option.isNone_iff_eq_none.mpr hnone)
              exact ⟨row, hrow, findMembershipForUser_spec hrow⟩
      | findingUser addition userId =>
          simp only [continueTeamCall] at hafter ⊢
          split at hafter
          · cases hafter
          · split at hafter
            · cases hafter
            · obtain rfl := Option.some.inj hafter
              cases addition <;> exact h
      | findingExisting addition userId =>
          simp only [continueTeamCall] at hafter ⊢
          split at hafter
          · cases hafter
          · obtain rfl := Option.some.inj hafter
            cases addition <;> exact h
      | inserting addition userId =>
          simp only [continueTeamCall] at hafter ⊢
          split at hafter
          · cases hafter
          · next hfree =>
              rw [if_neg hfree]
              exact reads_autocommitted h hafter
      | findingTeamMembership teamId userId =>
          simp only [continueTeamCall] at hafter ⊢
          split at hafter
          · cases hafter
          · obtain rfl := Option.some.inj hafter
            trivial
      | removingTeamMembership row => exact reads_autocommitted h hafter
      | countingUses team =>
          simp only [continueTeamCall] at hafter ⊢
          split at hafter
          · cases hafter
          · obtain rfl := Option.some.inj hafter
            trivial
      | removingTeam team => exact reads_autocommitted h hafter
      | findingRemoved workspaceId membershipId =>
          simp only [continueTeamCall] at hafter ⊢
          split at hafter
          · cases hafter
          · obtain rfl := Option.some.inj hafter
            exact h
      | findingTeams tx membership =>
          exact reads_findingTeams hcall h hafter
      | selectingTeamMemberships tx membership teamIds =>
          obtain rfl := Option.some.inj hafter
          refine ⟨fun hnone => absurd hnone (by simp [TeamReads.next]), ?_⟩
          rintro seen hseen row hrow ⟨huser, team, hteam, hworkspace⟩
          obtain rfl := Option.some.inj hseen
          refine List.mem_filter.mpr ⟨hrow, ?_⟩
          simpa [huser] using h row.teamId team hteam hworkspace
      | deletingTeamMemberships tx membership rows =>
          simp only [continueTeamCall] at hafter ⊢
          split at hafter
          · obtain rfl := Option.some.inj hafter
            exact h
          · next written hwritten =>
              obtain rfl := Option.some.inj hafter
              exact Covers.mono h fun _ _ hget => (write_eq_some hwritten).1 ▸ hget
      | removingMembership tx membership rows =>
          simp only [continueTeamCall] at hafter ⊢
          split at hafter
          · obtain rfl := Option.some.inj hafter
            exact h
          · next written hwritten =>
              obtain rfl := Option.some.inj hafter
              exact Covers.mono h fun _ _ hget => (write_eq_some hwritten).1 ▸ hget
      | committingRemoval tx membership rows => cases hafter

/-- **What was read and is still so is what the steps rely on.** -/
theorem membersStay_of_reads {reads : TeamReads} (h : ReadsKept db call reads)
    (hguard : FindsAsRead db (call, reads) input) : MembersStay db call input := by
  cases call with
  | inserting addition userId =>
      cases addition with
      | member workspaceId role => trivial
      | teamMember workspaceId teamId =>
          obtain ⟨row, hrow, hmember⟩ := h
          exact hguard.imp_right (Or.imp_right (Or.imp_right fun hstill =>
            ⟨row, hstill row hrow, hmember⟩))
  | committingRemoval tx membership rows =>
      refine hguard.imp_right fun ⟨hsame, hseen⟩ removed hremoved row hrow hof => ?_
      obtain rfl := hsame removed hremoved
      cases hreads : reads.seen with
      | none =>
          obtain ⟨-, team, hteam, hworkspace⟩ := hof
          exact absurd (h.noTeam hreads _ team hteam hworkspace) List.not_mem_nil
      | some seen => exact h.deleted seen hreads row (hseen seen hreads row hrow hof) hof
  | _ => trivial

/-- What a pending call relies on, and what it has read. -/
def TeamCallReads (db : TeamDatabase) (call : PendingTeamCall × TeamReads) : Prop :=
  TeamCallKept db call.1 ∧ ReadsKept db call.1 call.2

/-- The calls under the condition. -/
theorem team_outline :
    Outline readingTeamCalls teamEnv (fun _ _ _ => True) FindsAsRead (fun _ _ => True)
      (fun db => TeamMembersAreMembers db.committed) TeamCallReads := by
  refine outline_remembering ?_ ?_ ?_ ?_ ?_ ?_
  · intro db request input h _
    obtain ⟨hsame, hnext⟩ := invokeTeamCall_looks request input db
    show TeamMembersAreMembers (invokeTeamCall request input db).1.committed ∧
      ∀ after, (invokeTeamCall request input db).2 = some after →
        TeamCallReads (invokeTeamCall request input db).1 (after, {})
    rw [hsame]
    exact ⟨h, fun after hafter => hnext after hafter ▸ ⟨trivial, rfl⟩⟩
  · intro db call reads input h hcall hguard
    have hadvance := teamAdvance h hcall.1 (membersStay_of_reads hcall.2 hguard)
    exact ⟨hadvance.members, fun after hafter =>
      ⟨hadvance.relies after hafter, reads_resume hcall.1 hcall.2 hafter⟩⟩
  · intro db change h _
    obtain ⟨hmemberships, hteams, hrows⟩ := teamEnv_keeps change db
    exact h.mono (fun row => hmemberships ▸ id) (fun id team hget => hteams ▸ hget)
      fun row => hrows ▸ id
  · intro db request input call _ _ hcall
    show TeamCallReads (invokeTeamCall request input db).1 call
    rw [(invokeTeamCall_looks request input db).1]
    exact hcall
  · intro db call reads input other h hcall hguard hother
    have hteams := (teamAdvance h hcall.1 (membersStay_of_reads hcall.2 hguard)).teams
    exact ⟨hother.1.mono hteams, hother.2.mono hteams⟩
  · intro db change call _ _ hcall
    have hteams : TeamsAmong db.committed (teamEnv change db).committed :=
      fun id team hget => (teamEnv_keeps change db).2.1 ▸ hget
    exact ⟨hcall.1.mono hteams, hcall.2.mono hteams⟩

/-- **Team members are workspace members** in every state of every run, of any calls interleaved
step by step, in which each insert of a team membership finds the workspace membership that its
check has found, and each removal that commits finds the membership that it loaded and only team
memberships that its DELETE has looked at. -/
theorem teamMembers_areMembers (d : TeamTables) (hd : TeamMembersAreMembers d)
    (es : List TeamEvent)
    (hes : Along (step readingTeamCalls teamEnv) (ResumeGuard FindsAsRead)
      (Config.idle { committed := d }) es) :
    TeamMembersAreMembers (run teamStep (Config.idle { committed := d }) es).world.committed :=
  team_outline.run_remembering hd hes

/-- An administrator. -/
def teamAdmin : AuthenticatedUser where
  id := "u1"
  email := "admin@example.com"
  role := .platformAdmin
  name := "Noderax Admin"

/-- A workspace with one member and one team. -/
def oneTeam : TeamTables where
  workspaces := ⟨[{ id := "w1", name := "Acme Operations", slug := "acme-ops" }],
    List.nodup_singleton _⟩
  memberships := ⟨[⟨⟨"w1", "u2", .member⟩, "m1"⟩], List.nodup_singleton _⟩
  users := ⟨[{ id := "u2", email := "member@example.com" }], List.nodup_singleton _⟩
  teams := ⟨[{ id := "t1", workspaceId := "w1", name := "Platform Ops" }], List.nodup_singleton _⟩
  teamMemberships := Table.empty

/-- `addTeamMember`, up to the insert of the team membership. -/
def additionSteps : List TeamEvent :=
  .invoke 0 (.onTeam "w1" "t1" teamAdmin (.addTeamMember "u2")) {} ::
    List.replicate 5 (.resume 0 {})

/-- The insert. -/
def additionInsert : TeamEvent := .resume 0 { id := "tm1" }

/-- `removeMember`. -/
def removalSteps : List TeamEvent :=
  .invoke 1 (.removeMember "w1" "m1" teamAdmin) {} :: List.replicate 7 (.resume 1 {})

/-- The member is added to the team and then removed from the workspace. -/
theorem teamMembers_areMembers_removal :
    (run teamStep (Config.idle { committed := oneTeam })
        (additionSteps ++ [additionInsert])).world.committed.teamMemberships.rows
      = [⟨"tm1", "t1", "u2"⟩] ∧
    (run teamStep (Config.idle { committed := oneTeam })
        (additionSteps ++ [additionInsert] ++ removalSteps)).world.committed.memberships.rows = [] ∧
    TeamMembersAreMembers (run teamStep (Config.idle { committed := oneTeam })
      (additionSteps ++ [additionInsert] ++ removalSteps)).world.committed :=
  ⟨by decide +kernel, by decide +kernel, teamMembers_areMembers oneTeam (by decide +kernel)
    (additionSteps ++ [additionInsert] ++ removalSteps) (by decide +kernel)⟩

/-- The removal between the check of the membership and the insert leaves a team member who is
no member of the workspace, with no call pending. -/
theorem racingRemoval_leavesTeamMember :
    (¬ ∀ (d : TeamTables) (es : List TeamEvent), TeamMembersAreMembers d →
      (∀ p, (run teamStep (Config.idle { committed := d }) es).pending p = none) →
      TeamMembersAreMembers (run teamStep (Config.idle { committed := d }) es).world.committed) ∧
    (run teamStep (Config.idle { committed := oneTeam })
        (additionSteps ++ removalSteps ++ [additionInsert])).world.committed.teamMemberships.rows
      = [⟨"tm1", "t1", "u2"⟩] ∧
    (run teamStep (Config.idle { committed := oneTeam })
        (additionSteps ++ removalSteps ++ [additionInsert])).world.committed.memberships.rows
      = [] := by
  refine ⟨fun hall => ?_, by decide +kernel, by decide +kernel⟩
  have hmembers := hall oneTeam (additionSteps ++ removalSteps ++ [additionInsert])
    (by decide +kernel) (fun p => ?_)
  · exact absurd hmembers (by decide +kernel)
  · match p with
    | 0 => decide +kernel
    | 1 => decide +kernel
    | p + 2 =>
        refine run_pending_of_others fun e he hcaller => ?_
        have hcallers : ∀ e ∈ additionSteps ++ removalSteps ++ [additionInsert],
            e.caller? = some 0 ∨ e.caller? = some 1 := by decide +kernel
        rcases hcallers e he with hzero | hone
        · rw [hzero] at hcaller
          exact absurd (Option.some.inj hcaller) (by omega)
        · rw [hone] at hcaller
          exact absurd (Option.some.inj hcaller) (by omega)

end WorkspacesService
