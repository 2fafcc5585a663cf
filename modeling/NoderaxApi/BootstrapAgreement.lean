/-
# Migrations agree

Any number of instances run the migration at once, with every interleaving of their queries,
and any of them may stop in the middle or fail.  What one of them has done, no other undoes:
`Progress` relates the tables before and after a query, `Reached` says what a migration relies
on at each of its queries, and it is kept along `Progress`.

**`bootstraps_agree`**: the instances that finish all chose the same default workspace, and the
tables are migrated to it.

**`bootstraps_settle`**: once one instance has finished, no query of any other one changes the
tables any more.
-/
import NoderaxApi.WorkspaceDataBootstrap

namespace WorkspaceDataBootstrap

open Interleaving KeyedTable NotificationsService Runs ScheduledTasksService WorkspacesService

/-! ## What a migration achieves -/

/-- The unique indexes on workspaces and memberships. -/
structure LegacyData.Valid (d : LegacyData) : Prop where
  oneDefault : ∀ row ∈ d.workspaces.rows, ∀ row' ∈ d.workspaces.rows,
    row.isDefault = true → row'.isDefault = true → row = row'
  oneSlug : ∀ row ∈ d.workspaces.rows, ∀ row' ∈ d.workspaces.rows, row.slug = row'.slug → row = row'
  oneMembership : ∀ row ∈ d.memberships.rows, ∀ row' ∈ d.memberships.rows,
    row.workspaceId = row'.workspaceId → row.userId = row'.userId → row = row'

/-- The workspace is the default one. -/
def DefaultIs (d : LegacyData) (id : Uuid) : Prop :=
  ∃ row ∈ d.workspaces.rows, row.id = id ∧ row.isDefault = true

/-- The workspace is the default one, or has the slug and there is no default one. -/
def Chosen (d : LegacyData) (id : Uuid) : Prop :=
  ∃ row ∈ d.workspaces.rows, row.id = id ∧ (row.isDefault = true ∨
    row.slug = defaultWorkspaceSlug ∧ ∀ other ∈ d.workspaces.rows, other.isDefault = false)

/-- No user has the role from before there were workspaces. -/
def NoLegacyAdmin (d : LegacyData) : Prop := ∀ user ∈ d.users, user.role ≠ .admin

/-- Every row of the table belongs to a workspace. -/
def Filled (d : LegacyData) (target : BackfillTarget) : Prop :=
  ∀ row ∈ d.resources target, row.workspaceId.isSome

/-- Every schedule has one of the two timezone sources. -/
def SourcesSet (d : LegacyData) : Prop :=
  ∀ row ∈ d.resources .scheduledTasks, row.timezoneSource.isSome

/-- Every user is a member of the workspace. -/
def AllMembers (d : LegacyData) (id : Uuid) : Prop := ∀ user ∈ d.users, isMember d id user.id = true

/-- The default workspace is there, and the rows of users and resources are migrated. -/
structure Upgraded (d : LegacyData) (id : Uuid) : Prop where
  default : DefaultIs d id
  roles : NoLegacyAdmin d
  filled : ∀ target, Filled d target
  sources : SourcesSet d

/-- The tables are migrated to a default workspace. -/
structure Migrated (d : LegacyData) (id : Uuid) : Prop extends Upgraded d id where
  members : AllMembers d id
  teamMembers : ∀ row ∈ d.teamMemberships.rows, isInvalid d row = false
  timezone : ∀ row ∈ d.workspaces.rows, row.id = id → row.defaultTimezone = ownerTimezone d id

/-- What may become of a row of a resource. -/
structure ResourceRow.Keeps (row row' : ResourceRow) : Prop where
  id : row'.id = row.id
  workspaceId : row.workspaceId.isSome → row'.workspaceId = row.workspaceId
  timezoneSource : row.timezoneSource = some .workspace → row'.timezoneSource = some .workspace

/-- What the queries of migrations do and do not change. -/
structure Progress (d d' : LegacyData) : Prop where
  workspaces : ∀ row ∈ d.workspaces.rows, ∃ row' ∈ d'.workspaces.rows,
    row' = { row with isDefault := row'.isDefault, defaultTimezone := row'.defaultTimezone }
  default : ∀ id, DefaultIs d id → DefaultIs d' id
  chosen : ∀ id, Chosen d id → Chosen d' id
  users : d'.users = d.users ∨ d'.users = d.users.map (·.promoted)
  resources : ∀ target, ∃ f : ResourceRow → ResourceRow,
    d'.resources target = (d.resources target).map f ∧ ∀ row : ResourceRow, row.Keeps (f row)
  filled : ∀ target, Filled d target → Filled d' target
  sources : SourcesSet d → SourcesSet d'
  memberships : ∀ row ∈ d.memberships.rows, row ∈ d'.memberships.rows
  settled : ∀ id, DefaultIs d id → NoLegacyAdmin d → AllMembers d id →
    d'.memberships = d.memberships
  teams : d'.teams = d.teams
  removed : ∀ row ∈ d'.teamMemberships.rows, row ∈ d.teamMemberships.rows
  kept : ∀ row ∈ d.teamMemberships.rows, isInvalid d row = false → row ∈ d'.teamMemberships.rows

/-! ## Progress is a preorder -/

@[simp] theorem StoredUser.promoted_id (user : StoredUser) : user.promoted.id = user.id := by
  unfold StoredUser.promoted
  split <;> rfl

theorem StoredUser.promoted_role (user : StoredUser) : user.promoted.role ≠ .admin := by
  unfold StoredUser.promoted
  split
  · simp
  · assumption

theorem StoredUser.promoted_of_ne {user : StoredUser} (h : user.role ≠ .admin) :
    user.promoted = user := if_neg h

theorem map_promoted {users : List StoredUser} (h : ∀ user ∈ users, user.role ≠ .admin) :
    users.map (·.promoted) = users :=
  (List.map_congr_left fun user hu => StoredUser.promoted_of_ne (h user hu)).trans
    (List.map_id users)

theorem ResourceRow.Keeps.refl (row : ResourceRow) : row.Keeps row :=
  ⟨rfl, fun _ => rfl, fun h => h⟩

theorem ResourceRow.Keeps.trans {row row' row'' : ResourceRow} (h : row.Keeps row')
    (h' : row'.Keeps row'') : row.Keeps row'' where
  id := h'.id.trans h.id
  workspaceId hsome := by
    have hfirst := h.workspaceId hsome
    rw [h'.workspaceId (hfirst ▸ hsome), hfirst]
  timezoneSource hsource := h'.timezoneSource (h.timezoneSource hsource)

section

variable {d d' d'' : LegacyData} {id : Uuid}

theorem isMember_mono (h : ∀ row ∈ d.memberships.rows, row ∈ d'.memberships.rows)
    {workspaceId userId : Uuid} (hm : isMember d workspaceId userId = true) :
    isMember d' workspaceId userId = true := by
  obtain ⟨row, hrow, hkey⟩ := List.any_eq_true.mp hm
  exact List.any_eq_true.mpr ⟨row, h row hrow, hkey⟩

/-- A team membership that is valid stays so. -/
theorem isInvalid_mono (hteams : d'.teams = d.teams)
    (h : ∀ row ∈ d.memberships.rows, row ∈ d'.memberships.rows) {row : TeamMembership}
    (hvalid : isInvalid d row = false) : isInvalid d' row = false := by
  unfold isInvalid at hvalid ⊢
  rw [hteams, List.any_eq_false]
  intro team hteam hboth
  refine List.any_eq_false.mp hvalid team hteam ?_
  rw [Bool.and_eq_true, Bool.not_eq_true'] at hboth ⊢
  refine ⟨hboth.1, Bool.eq_false_iff.mpr fun hm => ?_⟩
  rw [isMember_mono h hm] at hboth
  exact absurd hboth.2 (by simp)

theorem Progress.refl (d : LegacyData) : Progress d d where
  workspaces row hrow := ⟨row, hrow, rfl⟩
  default _ h := h
  chosen _ h := h
  users := Or.inl rfl
  resources _ := ⟨fun row => row, (List.map_id _).symm, ResourceRow.Keeps.refl⟩
  filled _ h := h
  sources h := h
  memberships _ h := h
  settled _ _ _ _ := rfl
  teams := rfl
  removed _ h := h
  kept _ h _ := h

/-- Where no user is a legacy administrator, the users stay as they are. -/
theorem Progress.users_eq (h : Progress d d') (hroles : NoLegacyAdmin d) : d'.users = d.users := by
  rcases h.users with heq | heq
  · exact heq
  · exact heq.trans (map_promoted hroles)

theorem Progress.noLegacyAdmin (h : Progress d d') (hroles : NoLegacyAdmin d) :
    NoLegacyAdmin d' := by
  intro user huser
  rw [h.users_eq hroles] at huser
  exact hroles user huser

theorem Progress.allMembers (h : Progress d d') (hroles : NoLegacyAdmin d)
    (hmembers : AllMembers d id) : AllMembers d' id := by
  intro user huser
  rw [h.users_eq hroles] at huser
  exact isMember_mono h.memberships (hmembers user huser)

theorem Progress.trans (h : Progress d d') (h' : Progress d' d'') : Progress d d'' where
  workspaces row hrow := by
    obtain ⟨row', hrow', heq⟩ := h.workspaces row hrow
    obtain ⟨row'', hrow'', heq'⟩ := h'.workspaces row' hrow'
    refine ⟨row'', hrow'', ?_⟩
    rw [heq', heq]
  default id hid := h'.default id (h.default id hid)
  chosen id hid := h'.chosen id (h.chosen id hid)
  users := by
    have hagain : ∀ user : StoredUser, user.promoted.promoted = user.promoted := fun user =>
      StoredUser.promoted_of_ne user.promoted_role
    rcases h.users with heq | heq <;> rcases h'.users with heq' | heq' <;> rw [heq', heq]
    · exact Or.inl rfl
    · exact Or.inr rfl
    · exact Or.inr rfl
    · right
      rw [List.map_map]
      exact List.map_congr_left fun user _ => hagain user
  resources target := by
    obtain ⟨f, hf, hkeeps⟩ := h.resources target
    obtain ⟨g, hg, hkeeps'⟩ := h'.resources target
    refine ⟨fun row => g (f row), ?_, fun row => (hkeeps row).trans (hkeeps' (f row))⟩
    rw [hg, hf, List.map_map]
    rfl
  filled target ht := h'.filled target (h.filled target ht)
  sources hs := h'.sources (h.sources hs)
  memberships row hrow := h'.memberships row (h.memberships row hrow)
  settled id hid hroles hmembers :=
    (h'.settled id (h.default id hid) (h.noLegacyAdmin hroles) (h.allMembers hroles hmembers)).trans
      (h.settled id hid hroles hmembers)
  teams := h'.teams.trans h.teams
  removed row hrow := h.removed row (h'.removed row hrow)
  kept row hrow hvalid :=
    h'.kept row (h.kept row hrow hvalid) (isInvalid_mono h.teams h.memberships hvalid)

theorem Progress.upgraded (h : Progress d d') (hup : Upgraded d id) : Upgraded d' id where
  default := h.default id hup.default
  roles := h.noLegacyAdmin hup.roles
  filled target := h.filled target (hup.filled target)
  sources := h.sources hup.sources

/-- Once every user is a member of the default workspace, the memberships stay as they are. -/
theorem Progress.memberships_eq (h : Progress d d') (hup : Upgraded d id)
    (hmembers : AllMembers d id) : d'.memberships = d.memberships :=
  h.settled id hup.default hup.roles hmembers

theorem Progress.isInvalid_eq (h : Progress d d') (hup : Upgraded d id)
    (hmembers : AllMembers d id) (row : TeamMembership) : isInvalid d' row = isInvalid d row := by
  unfold isInvalid isMember
  rw [h.teams, h.memberships_eq hup hmembers]

theorem Progress.ownerTimezone_eq (h : Progress d d') (hup : Upgraded d id)
    (hmembers : AllMembers d id) : ownerTimezone d' id = ownerTimezone d id := by
  unfold ownerTimezone
  rw [h.users_eq hup.roles, h.memberships_eq hup hmembers]

/-! ## What a migration relies on -/

/-- What holds at each query of a migration. -/
def Reached (d : LegacyData) : PendingBootstrap → Prop
  | .findCandidates | .findSeededAdmin | .insertDefault _ | .findCandidatesAgain => True
  | .findDefault id | .flagDefault id => Chosen d id
  | .promoteLegacyAdmins id => DefaultIs d id
  | .backfill id target rest =>
      DefaultIs d id ∧ NoLegacyAdmin d ∧ ∀ other, other ∉ target :: rest → Filled d other
  | .fixTimezoneSources id => DefaultIs d id ∧ NoLegacyAdmin d ∧ ∀ other, Filled d other
  | .listUsers id => Upgraded d id
  | .insertMembership id user rest =>
      Upgraded d id ∧ (∀ u ∈ user :: rest, u ∈ d.users) ∧
        ∀ u ∈ d.users, u ∉ user :: rest → isMember d id u.id = true
  | .findInvalid id => Upgraded d id ∧ AllMembers d id
  | .deleteTeamMembership id rowId rest =>
      Upgraded d id ∧ AllMembers d id ∧
        ∀ row ∈ d.teamMemberships.rows, row.id ∈ rowId :: rest ↔ isInvalid d row = true
  | .findOwnerTimezone id =>
      Upgraded d id ∧ AllMembers d id ∧ ∀ row ∈ d.teamMemberships.rows, isInvalid d row = false
  | .setTimezone id timezone =>
      (Upgraded d id ∧ AllMembers d id ∧ ∀ row ∈ d.teamMemberships.rows, isInvalid d row = false) ∧
        timezone = ownerTimezone d id

/-- No query of another migration disturbs it. -/
theorem Reached.mono (h : Progress d d') {call : PendingBootstrap} (hcall : Reached d call) :
    Reached d' call := by
  have hnone : ∀ {id}, Upgraded d id → AllMembers d id →
      (∀ row ∈ d.teamMemberships.rows, isInvalid d row = false) →
        ∀ row ∈ d'.teamMemberships.rows, isInvalid d' row = false := by
    intro id hup hmembers hvalid row hrow
    rw [h.isInvalid_eq hup hmembers]
    exact hvalid row (h.removed row hrow)
  cases call with
  | findCandidates => trivial
  | findSeededAdmin => trivial
  | insertDefault admin => trivial
  | findCandidatesAgain => trivial
  | findDefault id => exact h.chosen id hcall
  | flagDefault id => exact h.chosen id hcall
  | promoteLegacyAdmins id => exact h.default id hcall
  | backfill id target rest =>
      exact ⟨h.default id hcall.1, h.noLegacyAdmin hcall.2.1, fun other hother =>
        h.filled other (hcall.2.2 other hother)⟩
  | fixTimezoneSources id =>
      exact ⟨h.default id hcall.1, h.noLegacyAdmin hcall.2.1, fun other =>
        h.filled other (hcall.2.2 other)⟩
  | listUsers id => exact h.upgraded hcall
  | insertMembership id user rest =>
      obtain ⟨hup, hlisted, hdone⟩ := hcall
      have husers := h.users_eq hup.roles
      refine ⟨h.upgraded hup, fun u hu => husers ▸ hlisted u hu, fun u hu hnot => ?_⟩
      exact isMember_mono h.memberships (hdone u (husers ▸ hu) hnot)
  | findInvalid id => exact ⟨h.upgraded hcall.1, h.allMembers hcall.1.roles hcall.2⟩
  | deleteTeamMembership id rowId rest =>
      obtain ⟨hup, hmembers, hlisted⟩ := hcall
      refine ⟨h.upgraded hup, h.allMembers hup.roles hmembers, fun row hrow => ?_⟩
      rw [h.isInvalid_eq hup hmembers]
      exact hlisted row (h.removed row hrow)
  | findOwnerTimezone id =>
      obtain ⟨hup, hmembers, hvalid⟩ := hcall
      exact ⟨h.upgraded hup, h.allMembers hup.roles hmembers, hnone hup hmembers hvalid⟩
  | setTimezone id timezone =>
      obtain ⟨⟨hup, hmembers, hvalid⟩, htimezone⟩ := hcall
      refine ⟨⟨h.upgraded hup, h.allMembers hup.roles hmembers, hnone hup hmembers hvalid⟩, ?_⟩
      exact htimezone.trans (h.ownerTimezone_eq hup hmembers).symm

/-! ## Single queries -/

theorem DefaultIs.unique (hd : d.Valid) {id' : Uuid} (h : DefaultIs d id) (h' : DefaultIs d id') :
    id = id' := by
  obtain ⟨row, hrow, rfl, hdefault⟩ := h
  obtain ⟨row', hrow', rfl, hdefault'⟩ := h'
  rw [hd.oneDefault row hrow row' hrow' hdefault hdefault']

theorem DefaultIs.chosen (h : DefaultIs d id) : Chosen d id := by
  obtain ⟨row, hrow, hid, hdefault⟩ := h
  exact ⟨row, hrow, hid, Or.inl hdefault⟩

/-- Only the chosen workspace can be the default one. -/
theorem Chosen.eq_of_default (hd : d.Valid) (h : Chosen d id) {row : Workspace}
    (hrow : row ∈ d.workspaces.rows) (hdefault : row.isDefault = true) : row.id = id := by
  obtain ⟨chosen, hchosen, rfl, hchosenDefault | ⟨-, hnone⟩⟩ := h
  · rw [hd.oneDefault row hrow chosen hchosen hdefault hchosenDefault]
  · rw [hnone row hrow] at hdefault
    exact absurd hdefault (by simp)

theorem no_candidate (h : findDefaultWorkspaceCandidates d = []) {row : Workspace}
    (hrow : row ∈ d.workspaces.rows) : row.isDefault = false ∧ row.slug ≠ defaultWorkspaceSlug := by
  have hnot := List.filter_eq_nil_iff.mp h row hrow
  rw [Bool.or_eq_true, not_or, decide_eq_true_iff, Bool.not_eq_true] at hnot
  exact hnot

theorem chosen_of_candidates
    (h : chooseCandidate (findDefaultWorkspaceCandidates d) = some id) : Chosen d id := by
  unfold chooseCandidate at h
  obtain ⟨row, hrow, rfl⟩ := Option.map_eq_some_iff.mp h
  have hmem : ∀ {p : Workspace → Bool} {r : Workspace},
      (findDefaultWorkspaceCandidates d).find? p = some r → r ∈ d.workspaces.rows := fun hfind =>
    List.mem_of_mem_filter (List.mem_of_find?_eq_some hfind)
  cases hdefault : (findDefaultWorkspaceCandidates d).find? (·.isDefault) with
  | some first =>
      rw [hdefault, Option.some_or] at hrow
      obtain rfl := Option.some.inj hrow
      exact ⟨first, hmem hdefault, rfl, Or.inl (by simpa using List.find?_some hdefault)⟩
  | none =>
      rw [hdefault, Option.none_or] at hrow
      refine ⟨row, hmem hrow, rfl,
        Or.inr ⟨by simpa using List.find?_some hrow, fun other hother => ?_⟩⟩
      -- a default workspace is a candidate, and would have been found first
      by_contra hcontra
      have hcandidate : other ∈ findDefaultWorkspaceCandidates d :=
        List.mem_filter.mpr ⟨hother, by simp [Bool.eq_true_of_not_eq_false hcontra]⟩
      exact hcontra (by simpa using List.find?_eq_none.mp hdefault other hcandidate)

section

variable {f : Workspace → Workspace} {hf : ∀ row, (f row).id = row.id}

/-- The rows after an UPDATE of the workspace with one id. -/
theorem mem_updateWorkspace {row' : Workspace} :
    row' ∈ (d.updateWorkspace id f hf).workspaces.rows ↔
      ∃ row ∈ d.workspaces.rows, row' = if row.id = id then f row else row := by
  refine List.mem_map.trans (exists_congr fun row => and_congr_right fun _ => ?_)
  rw [eq_comm]
  by_cases hid : row.id = id <;> simp [hid]

theorem id_updated (hf : ∀ row, (f row).id = row.id) (row : Workspace) :
    (if row.id = id then f row else row).id = row.id := by
  split
  · exact hf row
  · rfl

/-- The unique indexes after an UPDATE that leaves the slug alone and makes no second default. -/
theorem valid_updateWorkspace (hd : d.Valid) (hslug : ∀ row, (f row).slug = row.slug)
    (honly : ∀ row ∈ d.workspaces.rows, row.id = id → (f row).isDefault = true →
      ∀ other ∈ d.workspaces.rows, other.isDefault = true → other.id = id) :
    (d.updateWorkspace id f hf).Valid where
  oneDefault := by
    intro row' hrow' other' hother' hrowDefault hotherDefault
    obtain ⟨row, hrow, rfl⟩ := mem_updateWorkspace.mp hrow'
    obtain ⟨other, hother, rfl⟩ := mem_updateWorkspace.mp hother'
    have hkey : row.id = other.id → row = other := fun hids => by
      have hget := d.workspaces.get_of_mem hrow
      rw [show Workspace.key row = other.key from hids, d.workspaces.get_of_mem hother] at hget
      exact (Option.some.inj hget).symm
    have heq : row = other := by
      by_cases hrowId : row.id = id <;> by_cases hotherId : other.id = id
      · exact hkey (hrowId.trans hotherId.symm)
      · rw [if_pos hrowId] at hrowDefault
        rw [if_neg hotherId] at hotherDefault
        exact absurd (honly row hrow hrowId hrowDefault other hother hotherDefault) hotherId
      · rw [if_neg hrowId] at hrowDefault
        rw [if_pos hotherId] at hotherDefault
        exact absurd (honly other hother hotherId hotherDefault row hrow hrowDefault) hrowId
      · rw [if_neg hrowId] at hrowDefault
        rw [if_neg hotherId] at hotherDefault
        exact hd.oneDefault row hrow other hother hrowDefault hotherDefault
    rw [heq]
  oneSlug := by
    intro row' hrow' other' hother' hslugs
    obtain ⟨row, hrow, rfl⟩ := mem_updateWorkspace.mp hrow'
    obtain ⟨other, hother, rfl⟩ := mem_updateWorkspace.mp hother'
    have hsame : ∀ r : Workspace, (if r.id = id then f r else r).slug = r.slug := by
      intro r
      split
      · exact hslug r
      · rfl
    rw [hd.oneSlug row hrow other hother (by rw [← hsame row, hslugs, hsame other])]
  oneMembership := hd.oneMembership

/-- A default workspace stays one. -/
theorem DefaultIs.update (hdefault : ∀ row, row.isDefault = true → (f row).isDefault = true)
    {id' : Uuid} (h : DefaultIs d id') : DefaultIs (d.updateWorkspace id f hf) id' := by
  obtain ⟨row, hrow, rfl, hrowDefault⟩ := h
  refine ⟨_, mem_updateWorkspace.mpr ⟨row, hrow, rfl⟩, id_updated hf row, ?_⟩
  split
  · exact hdefault row hrowDefault
  · exact hrowDefault

theorem progress_updateWorkspace
    (hshape : ∀ row, f row = { row with
      isDefault := (f row).isDefault, defaultTimezone := (f row).defaultTimezone })
    (hdefault : ∀ row, row.isDefault = true → (f row).isDefault = true)
    (hchosen : ∀ id', Chosen d id' → Chosen (d.updateWorkspace id f hf) id') :
    Progress d (d.updateWorkspace id f hf) :=
  { Progress.refl d with
    workspaces := by
      intro row hrow
      refine ⟨_, mem_updateWorkspace.mpr ⟨row, hrow, rfl⟩, ?_⟩
      split
      · exact hshape row
      · rfl
    default := fun id' h => h.update hdefault
    chosen := hchosen
    settled := fun _ _ _ _ => rfl }

end

/-! ## Every query is sound -/

/-- What holds after a query. -/
def Ends (d : LegacyData) : AfterQuery → Prop
  | .goOn next => Reached d next
  | .finish (.ok none) => True
  | .finish (.ok (some id)) => Migrated d id
  | .finish (.error error) => error ≠ .secondDefault

/-- A query keeps the unique indexes and makes progress, and leaves what comes next. -/
structure Sound (d : LegacyData) (result : LegacyData × AfterQuery) : Prop where
  valid : result.1.Valid
  progress : Progress d result.1
  ends : Ends result.1 result.2

theorem Sound.read (hd : d.Valid) {next : AfterQuery} (h : Ends d next) : Sound d (d, next) :=
  ⟨hd, Progress.refl d, h⟩

theorem reached_backfillNext {rest : List BackfillTarget} (hdefault : DefaultIs d id)
    (hroles : NoLegacyAdmin d) (hfilled : ∀ other, other ∉ rest → Filled d other) :
    Reached d (backfillNext id rest) := by
  cases rest with
  | nil => exact ⟨hdefault, hroles, fun other => hfilled other List.not_mem_nil⟩
  | cons target rest => exact ⟨hdefault, hroles, hfilled⟩

theorem reached_membershipNext {rest : List StoredUser} (hup : Upgraded d id)
    (hlisted : ∀ user ∈ rest, user ∈ d.users)
    (hdone : ∀ user ∈ d.users, user ∉ rest → isMember d id user.id = true) :
    Reached d (membershipNext id rest) := by
  cases rest with
  | nil => exact ⟨hup, fun user huser => hdone user huser List.not_mem_nil⟩
  | cons user rest => exact ⟨hup, hlisted, hdone⟩

theorem reached_deletionNext {rest : List Uuid} (hup : Upgraded d id) (hmembers : AllMembers d id)
    (hlisted : ∀ row ∈ d.teamMemberships.rows, row.id ∈ rest ↔ isInvalid d row = true) :
    Reached d (deletionNext id rest) := by
  cases rest with
  | nil =>
      refine ⟨hup, hmembers, fun row hrow => Bool.eq_false_iff.mpr fun hinvalid => ?_⟩
      exact List.not_mem_nil ((hlisted row hrow).mpr hinvalid)
  | cons rowId rest => exact ⟨hup, hmembers, hlisted⟩

/-- The default workspace is inserted where there is no candidate. -/
theorem sound_insertDefault (hd : d.Valid) (hnone : findDefaultWorkspaceCandidates d = [])
    {row : Workspace} (hnew : d.workspaces.get row.id = none) (hdefault : row.isDefault = true)
    (hslug : row.slug = defaultWorkspaceSlug) :
    Sound d ({ d with workspaces := d.workspaces.insert row }, .goOn (.findDefault row.id)) := by
  have hmem : ∀ {r}, r ∈ (d.workspaces.insert row).rows ↔ r ∈ d.workspaces.rows ∨ r = row :=
    Table.mem_insert_iff hnew
  have hchosen : ∀ id, ¬ Chosen d id := by
    rintro id ⟨other, hother, -, hdefault | ⟨hslug, -⟩⟩
    · rw [(no_candidate hnone hother).1] at hdefault
      exact absurd hdefault (by simp)
    · exact (no_candidate hnone hother).2 hslug
  refine ⟨⟨?_, ?_, hd.oneMembership⟩, ?_, row, hmem.mpr (Or.inr rfl), rfl, Or.inl hdefault⟩
  · intro first hfirst second hsecond hfirstDefault hsecondDefault
    have honly : ∀ r ∈ (d.workspaces.insert row).rows, r.isDefault = true → r = row := by
      intro r hr hrDefault
      rcases hmem.mp hr with hold | heq
      · rw [(no_candidate hnone hold).1] at hrDefault
        exact absurd hrDefault (by simp)
      · exact heq
    rw [honly first hfirst hfirstDefault, honly second hsecond hsecondDefault]
  · intro first hfirst second hsecond hslugs
    rcases hmem.mp hfirst with hold | rfl <;> rcases hmem.mp hsecond with hold' | rfl
    · exact hd.oneSlug first hold second hold' hslugs
    · exact absurd (hslugs.trans hslug) (no_candidate hnone hold).2
    · exact absurd (hslugs.symm.trans hslug) (no_candidate hnone hold').2
    · rfl
  · exact
      { Progress.refl d with
        workspaces := fun r hr => ⟨r, hmem.mpr (Or.inl hr), rfl⟩
        default := fun id hid => absurd hid.chosen (hchosen id)
        chosen := fun id hid => absurd hid (hchosen id)
        settled := fun _ _ _ _ => rfl }

/-- The chosen workspace becomes the default one. -/
theorem sound_flagDefault (hd : d.Valid) (hchosen : Chosen d id) :
    Sound d (d.updateWorkspace id (·.withDefault true) fun _ => rfl,
      .goOn (.promoteLegacyAdmins id)) := by
  have hnow : DefaultIs (d.updateWorkspace id (·.withDefault true) fun _ => rfl) id := by
    obtain ⟨row, hrow, hid, -⟩ := hchosen
    refine ⟨_, mem_updateWorkspace.mpr ⟨row, hrow, rfl⟩, ?_, ?_⟩ <;> rw [if_pos hid]
    · exact hid
    · rfl
  refine ⟨valid_updateWorkspace hd (fun _ => rfl) fun _ _ _ _ other hother hdefault =>
    hchosen.eq_of_default hd hother hdefault,
    progress_updateWorkspace (fun _ => rfl) (fun _ _ => rfl) ?_, hnow⟩
  rintro id' ⟨row, hrow, rfl, hdefault | ⟨hslug, hnone⟩⟩
  · exact (DefaultIs.update (fun _ _ => rfl) ⟨row, hrow, rfl, hdefault⟩).chosen
  · -- nothing was the default, so what this migration chose has the slug, too
    obtain ⟨row', hrow', rfl, hdefault' | ⟨hslug', -⟩⟩ := hchosen
    · rw [hnone row' hrow'] at hdefault'
      exact absurd hdefault' (by simp)
    · rw [hd.oneSlug row hrow row' hrow' (hslug.trans hslug'.symm)]
      exact hnow.chosen

/-- The timezone of the default workspace is written last. -/
theorem sound_setTimezone (hd : d.Valid) (hup : Upgraded d id) (hmembers : AllMembers d id)
    (hvalid : ∀ row ∈ d.teamMemberships.rows, isInvalid d row = false) :
    Sound d (d.updateWorkspace id (withTimezone (ownerTimezone d id)) fun _ => rfl,
      .finish (.ok (some id))) := by
  have hf : ∀ row, (withTimezone (ownerTimezone d id) row).id = row.id := fun _ => rfl
  refine ⟨valid_updateWorkspace hd (fun _ => rfl) ?_,
    progress_updateWorkspace (fun _ => rfl) (fun _ h => h) ?_, ?_⟩
  · intro row hrow hid hdefault other hother hother'
    rw [hd.oneDefault other hother row hrow hother' hdefault]
    exact hid
  · rintro id' ⟨row, hrow, rfl, hrow'⟩
    have hflag : ∀ r : Workspace, (if r.id = id then withTimezone (ownerTimezone d id) r
        else r).isDefault = r.isDefault := by
      intro r
      split <;> rfl
    have hslug : ∀ r : Workspace, (if r.id = id then withTimezone (ownerTimezone d id) r
        else r).slug = r.slug := by
      intro r
      split <;> rfl
    refine ⟨_, mem_updateWorkspace.mpr ⟨row, hrow, rfl⟩, id_updated hf row, ?_⟩
    rw [hflag, hslug]
    refine hrow'.imp_right fun ⟨hrowSlug, hnone⟩ => ⟨hrowSlug, fun other' hother' => ?_⟩
    obtain ⟨other, hother, rfl⟩ := mem_updateWorkspace.mp hother'
    exact (hflag other).trans (hnone other hother)
  · have hdefault : DefaultIs (d.updateWorkspace id _ hf) id :=
      DefaultIs.update (f := withTimezone (ownerTimezone d id)) (fun _ h => h) hup.default
    refine ⟨⟨hdefault, hup.roles, hup.filled, hup.sources⟩, hmembers, hvalid,
      fun row' hrow' hid => ?_⟩
    obtain ⟨row, hrow, rfl⟩ := mem_updateWorkspace.mp hrow'
    rw [id_updated hf] at hid
    rw [if_pos hid]
    rfl

theorem sound_promote (hd : d.Valid) (hdefault : DefaultIs d id) :
    Sound d ({ d with users := d.users.map (·.promoted) },
      .goOn (backfillNext id backfillTargets)) := by
  have hdefault' : DefaultIs { d with users := d.users.map (·.promoted) } id := hdefault
  have hroles : NoLegacyAdmin { d with users := d.users.map (·.promoted) } := by
    intro user huser
    obtain ⟨old, -, rfl⟩ := List.mem_map.mp huser
    exact old.promoted_role
  have hnext : Reached { d with users := d.users.map (·.promoted) }
      (backfillNext id backfillTargets) := by
    refine reached_backfillNext hdefault' hroles fun other hother => ?_
    cases other <;> exact absurd hother (by decide)
  exact ⟨⟨hd.oneDefault, hd.oneSlug, hd.oneMembership⟩,
    { Progress.refl d with users := Or.inr rfl, settled := fun _ _ _ _ => rfl }, hnext⟩

theorem resources_withRows_self (target : BackfillTarget) (f : ResourceRow → ResourceRow) :
    (d.withRows target f).resources target = (d.resources target).map f :=
  Function.update_self _ _ _

/-- An UPDATE of the rows of a table that keeps each row. -/
theorem progress_withRows {target : BackfillTarget} {f : ResourceRow → ResourceRow}
    (hkeeps : ∀ row : ResourceRow, row.Keeps (f row))
    (hsources : ∀ row : ResourceRow, row.timezoneSource.isSome → (f row).timezoneSource.isSome) :
    Progress d (d.withRows target f) := by
  have hother : ∀ other ≠ target, (d.withRows target f).resources other = d.resources other :=
    fun other hne => Function.update_of_ne hne _ _
  have hself := resources_withRows_self (d := d) target f
  refine { Progress.refl d with resources := ?_, filled := ?_, sources := ?_ }
  · intro other
    by_cases hne : other = target
    · subst hne
      exact ⟨f, hself, hkeeps⟩
    · exact ⟨fun row => row, (hother other hne).trans (List.map_id _).symm, ResourceRow.Keeps.refl⟩
  · intro other hfilled row' hrow'
    by_cases hne : other = target
    · subst hne
      rw [hself] at hrow'
      obtain ⟨row, hrow, rfl⟩ := List.mem_map.mp hrow'
      rw [(hkeeps row).workspaceId (hfilled row hrow)]
      exact hfilled row hrow
    · rw [hother other hne] at hrow'
      exact hfilled row' hrow'
  · intro hset row' hrow'
    by_cases hne : BackfillTarget.scheduledTasks = target
    · subst hne
      rw [hself] at hrow'
      obtain ⟨row, hrow, rfl⟩ := List.mem_map.mp hrow'
      exact hsources row (hset row hrow)
    · rw [hother _ hne] at hrow'
      exact hset row' hrow'

theorem ResourceRow.keeps_filled (workspaceId : Uuid) (row : ResourceRow) :
    row.Keeps (row.filled workspaceId) where
  id := rfl
  workspaceId h := by
    obtain ⟨id, hid⟩ := Option.isSome_iff_exists.mp h
    rw [ResourceRow.filled, hid]
    rfl
  timezoneSource h := h

theorem ResourceRow.fixed_isSome (row : ResourceRow) : row.fixed.timezoneSource.isSome := by
  unfold ResourceRow.fixed
  split
  next h => rw [h]; rfl
  next => rfl

theorem ResourceRow.keeps_fixed (row : ResourceRow) : row.Keeps row.fixed := by
  unfold ResourceRow.fixed
  split
  next => exact ResourceRow.Keeps.refl row
  next h => exact ⟨rfl, fun _ => rfl, fun hsource => absurd hsource h⟩

theorem sound_backfill (hd : d.Valid) {target : BackfillTarget} {rest : List BackfillTarget}
    (hcall : Reached d (.backfill id target rest)) :
    Sound d (d.withRows target fun row => row.filled id, .goOn (backfillNext id rest)) := by
  obtain ⟨hdefault, hroles, hfilled⟩ := hcall
  have hprogress : Progress d (d.withRows target fun row => row.filled id) :=
    progress_withRows (ResourceRow.keeps_filled id) fun _ h => h
  refine ⟨⟨hd.oneDefault, hd.oneSlug, hd.oneMembership⟩, hprogress,
    reached_backfillNext (hprogress.default id hdefault) hroles fun other hother => ?_⟩
  by_cases hne : other = target
  · subst hne
    intro row' hrow'
    rw [resources_withRows_self] at hrow'
    obtain ⟨row, -, rfl⟩ := List.mem_map.mp hrow'
    rfl
  · exact hprogress.filled other (hfilled other (by simp [hne, hother]))

theorem sound_fixTimezoneSources (hd : d.Valid) (hcall : Reached d (.fixTimezoneSources id)) :
    Sound d (d.withRows .scheduledTasks ResourceRow.fixed, .goOn (.listUsers id)) := by
  obtain ⟨hdefault, hroles, hfilled⟩ := hcall
  have hprogress : Progress d (d.withRows .scheduledTasks ResourceRow.fixed) :=
    progress_withRows ResourceRow.keeps_fixed fun row _ => row.fixed_isSome
  refine ⟨⟨hd.oneDefault, hd.oneSlug, hd.oneMembership⟩, hprogress, hprogress.default id hdefault,
    hroles, fun other => hprogress.filled other (hfilled other), fun row' hrow' => ?_⟩
  rw [resources_withRows_self] at hrow'
  obtain ⟨row, -, rfl⟩ := List.mem_map.mp hrow'
  exact row.fixed_isSome

/-- A user without a membership of the default workspace gets one. -/
theorem sound_insertMembership (hd : d.Valid) {user : StoredUser} {rest : List StoredUser}
    (hcall : Reached d (.insertMembership id user rest)) (hnot : isMember d id user.id = false)
    {row : WorkspaceMembership} (hnew : d.memberships.get row.id = none)
    (hworkspace : row.workspaceId = id) (huser : row.userId = user.id) :
    Sound d ({ d with memberships := d.memberships.insert row },
      .goOn (membershipNext id rest)) := by
  obtain ⟨hup, hlisted, hdone⟩ := hcall
  have hmem : ∀ {r}, r ∈ (d.memberships.insert row).rows ↔ r ∈ d.memberships.rows ∨ r = row :=
    Table.mem_insert_iff hnew
  have hfree : ∀ r ∈ d.memberships.rows,
      ¬ (r.workspaceId = row.workspaceId ∧ r.userId = row.userId) := by
    rintro r hr ⟨hw, hu⟩
    refine List.any_eq_false.mp hnot r hr ?_
    simp [hw, hu, hworkspace, huser]
  have hprogress : Progress d { d with memberships := d.memberships.insert row } :=
    { Progress.refl d with
      memberships := fun r hr => hmem.mpr (Or.inl hr)
      settled := by
        -- the user would be a member already
        intro id' hid' _ hmembers
        have hmember := hmembers user (hlisted user List.mem_cons_self)
        rw [← hup.default.unique hd hid', hnot] at hmember
        exact absurd hmember (by simp) }
  refine ⟨⟨hd.oneDefault, hd.oneSlug, ?_⟩, hprogress, ?_⟩
  · intro first hfirst second hsecond hw hu
    rcases hmem.mp hfirst with hold | rfl <;> rcases hmem.mp hsecond with hold' | rfl
    · exact hd.oneMembership first hold second hold' hw hu
    · exact absurd ⟨hw, hu⟩ (hfree first hold)
    · exact absurd ⟨hw.symm, hu.symm⟩ (hfree second hold')
    · rfl
  · refine reached_membershipNext (hprogress.upgraded hup)
      (fun u hu => hlisted u (List.mem_cons_of_mem user hu)) fun u hu hnotin => ?_
    by_cases heq : u = user
    · subst heq
      exact List.any_eq_true.mpr ⟨row, hmem.mpr (Or.inr rfl), by simp [hworkspace, huser]⟩
    · exact isMember_mono hprogress.memberships (hdone u hu (by simp [heq, hnotin]))

theorem sound_deleteTeamMembership (hd : d.Valid) {rowId : Uuid} {rest : List Uuid}
    (hcall : Reached d (.deleteTeamMembership id rowId rest)) :
    Sound d ({ d with teamMemberships := d.teamMemberships.delete rowId },
      .goOn (deletionNext id rest)) := by
  obtain ⟨hup, hmembers, hlisted⟩ := hcall
  have hmem : ∀ {row : TeamMembership}, row ∈ (d.teamMemberships.delete rowId).rows ↔
      row ∈ d.teamMemberships.rows ∧ row.id ≠ rowId := by
    intro row
    exact List.mem_filter.trans (and_congr_right fun _ => decide_eq_true_iff)
  have hprogress : Progress d { d with teamMemberships := d.teamMemberships.delete rowId } :=
    { Progress.refl d with
      settled := fun _ _ _ _ => rfl
      removed := fun row hrow => (hmem.mp hrow).1
      kept := by
        intro row hrow hvalid
        refine hmem.mpr ⟨hrow, fun heq => ?_⟩
        rw [(hlisted row hrow).mp (heq ▸ List.mem_cons_self)] at hvalid
        exact absurd hvalid (by simp) }
  refine ⟨⟨hd.oneDefault, hd.oneSlug, hd.oneMembership⟩, hprogress,
    reached_deletionNext (hprogress.upgraded hup) hmembers fun row hrow => ?_⟩
  obtain ⟨hold, hne⟩ := hmem.mp hrow
  have hlist := hlisted row hold
  rw [List.mem_cons, or_iff_right hne] at hlist
  exact hlist

/-- **Every query is sound.** -/
theorem runQuery_sound (hd : d.Valid) {call : PendingBootstrap} (hcall : Reached d call)
    (input : BootstrapInput) : Sound d (runQuery d input call) := by
  cases call with
  | findCandidates =>
      simp only [runQuery]
      split
      next id hchoose => exact Sound.read hd (chosen_of_candidates hchoose)
      next => exact Sound.read hd trivial
  | findSeededAdmin => exact Sound.read hd trivial
  | insertDefault admin =>
      simp only [runQuery]
      split
      next hfree =>
        rw [Bool.and_eq_true, List.isEmpty_iff, Option.isNone_iff_eq_none] at hfree
        exact sound_insertDefault hd hfree.1 hfree.2 rfl rfl
      next => exact Sound.read hd trivial
  | findCandidatesAgain =>
      simp only [runQuery]
      split
      next id hchoose => exact Sound.read hd (chosen_of_candidates hchoose)
      next => exact Sound.read hd (by simp [Ends])
  | findDefault id =>
      simp only [runQuery]
      split
      next hany =>
        obtain ⟨row, hrow, hdefault⟩ := List.any_eq_true.mp hany
        exact Sound.read hd ⟨row, hrow, Chosen.eq_of_default hd hcall hrow hdefault, hdefault⟩
      next => exact Sound.read hd hcall
  | flagDefault id =>
      simp only [runQuery]
      split
      next hsecond =>
        -- a default workspace is the chosen one
        rw [Bool.and_eq_true, List.any_eq_true] at hsecond
        obtain ⟨-, row, hrow, hboth⟩ := hsecond
        rw [Bool.and_eq_true, decide_eq_true_iff] at hboth
        exact absurd (Chosen.eq_of_default hd hcall hrow hboth.1) hboth.2
      next => exact sound_flagDefault hd hcall
  | promoteLegacyAdmins id => exact sound_promote hd hcall
  | backfill id target rest => exact sound_backfill hd hcall
  | fixTimezoneSources id => exact sound_fixTimezoneSources hd hcall
  | listUsers id =>
      exact Sound.read hd (reached_membershipNext hcall (fun _ hu => hu) fun _ hu hnot =>
        absurd hu hnot)
  | insertMembership id user rest =>
      simp only [runQuery]
      split
      next hmember =>
        obtain ⟨hup, hlisted, hdone⟩ := hcall
        refine Sound.read hd (reached_membershipNext hup
          (fun u hu => hlisted u (List.mem_cons_of_mem user hu)) fun u hu hnot => ?_)
        by_cases heq : u = user
        · rw [heq]
          exact hmember
        · exact hdone u hu (by simp [heq, hnot])
      next hnot =>
        split
        next => exact Sound.read hd (by simp [Ends])
        next hnew =>
          exact sound_insertMembership hd hcall (Bool.eq_false_iff.mpr hnot)
            (Option.not_isSome_iff_eq_none.mp hnew) rfl rfl
  | findInvalid id =>
      refine Sound.read hd (reached_deletionNext hcall.1 hcall.2 fun row hrow => ?_)
      rw [List.mem_map]
      constructor
      · rintro ⟨other, hother, hids⟩
        obtain ⟨hmem, hinvalid⟩ := List.mem_filter.mp hother
        have hget := d.teamMemberships.get_of_mem hrow
        rw [← show TeamMembership.key other = row.key from hids,
          d.teamMemberships.get_of_mem hmem] at hget
        rwa [← Option.some.inj hget]
      · intro hinvalid
        exact ⟨row, List.mem_filter.mpr ⟨hrow, hinvalid⟩, rfl⟩
  | deleteTeamMembership id rowId rest => exact sound_deleteTeamMembership hd hcall
  | findOwnerTimezone id => exact Sound.read hd ⟨hcall, rfl⟩
  | setTimezone id timezone =>
      obtain ⟨⟨hup, hmembers, hvalid⟩, rfl⟩ := hcall
      exact sound_setTimezone hd hup hmembers hvalid

/-! ## Migrated tables stay as they are -/

theorem withRows_of_fixed {target : BackfillTarget} {f : ResourceRow → ResourceRow}
    (h : ∀ row ∈ d.resources target, f row = row) : d.withRows target f = d := by
  have hrows : Function.update d.resources target ((d.resources target).map f) = d.resources := by
    rw [(List.map_congr_left h).trans (List.map_id (d.resources target))]
    exact Function.update_eq_self target d.resources
  unfold LegacyData.withRows
  rw [hrows]

theorem updateWorkspace_of_fixed {f : Workspace → Workspace} {hf : ∀ row, (f row).id = row.id}
    (h : ∀ row ∈ d.workspaces.rows, row.id = id → f row = row) : d.updateWorkspace id f hf = d := by
  unfold LegacyData.updateWorkspace
  rw [Table.update_of_fixed fun row hrow hid => h row hrow (of_decide_eq_true hid)]

/-- **No query of a migration changes tables that are migrated.** -/
theorem runQuery_of_migrated (hd : d.Valid) (hmigrated : Migrated d id) {call : PendingBootstrap}
    (hcall : Reached d call) (input : BootstrapInput) : (runQuery d input call).1 = d := by
  have hsame : ∀ {id'}, DefaultIs d id' → id' = id := fun h => h.unique hd hmigrated.default
  cases call with
  | findCandidates => simp only [runQuery]; split <;> rfl
  | findSeededAdmin => rfl
  | insertDefault admin =>
      obtain ⟨row, hrow, -, hdefault⟩ := hmigrated.default
      have hcandidate : (findDefaultWorkspaceCandidates d).isEmpty = false := by
        rw [List.isEmpty_eq_false_iff_exists_mem]
        exact ⟨row, List.mem_filter.mpr ⟨hrow, by simp [hdefault]⟩⟩
      simp only [runQuery, hcandidate, Bool.false_and, Bool.false_eq_true, if_false]
  | findCandidatesAgain => simp only [runQuery]; split <;> rfl
  | findDefault id' => simp only [runQuery]; split <;> rfl
  | flagDefault id' =>
      simp only [runQuery]
      split
      · rfl
      · refine updateWorkspace_of_fixed fun row hrow hid => ?_
        obtain ⟨owner, howner, hownerId, hdefault⟩ := hmigrated.default
        have hids : owner.id = id' := Chosen.eq_of_default hd hcall howner hdefault
        have hget := d.workspaces.get_of_mem hrow
        rw [show Workspace.key row = owner.key from hid.trans hids.symm,
          d.workspaces.get_of_mem howner] at hget
        rw [← Option.some.inj hget]
        exact congrArg (fun flag => { owner with isDefault := flag }) hdefault.symm
  | promoteLegacyAdmins id' =>
      simp only [runQuery]
      rw [map_promoted hmigrated.roles]
  | backfill id' target rest =>
      refine withRows_of_fixed fun row hrow => ?_
      obtain ⟨workspaceId, hsome⟩ := Option.isSome_iff_exists.mp (hmigrated.filled target row hrow)
      simp only [ResourceRow.filled, hsome, Option.getD_some]
      rw [← hsome]
  | fixTimezoneSources id' =>
      refine withRows_of_fixed fun row hrow => ?_
      obtain ⟨source, hsource⟩ := Option.isSome_iff_exists.mp (hmigrated.sources row hrow)
      unfold ResourceRow.fixed
      split
      · rfl
      · next hne =>
          cases source with
          | workspace => exact absurd hsource hne
          | legacyFixed => rw [← hsource]
  | listUsers id' => rfl
  | insertMembership id' user rest =>
      have hmember := hmigrated.members user (hcall.2.1 user List.mem_cons_self)
      rw [← hsame hcall.1.default] at hmember
      simp only [runQuery, hmember, if_true]
  | findInvalid id' => rfl
  | deleteTeamMembership id' rowId rest =>
      have hdelete : d.teamMemberships.delete rowId = d.teamMemberships := by
        refine Table.delete_of_none fun row hrow hids => ?_
        have hinvalid := (hcall.2.2 row hrow).mp (by rw [← hids]; exact List.mem_cons_self)
        rw [hmigrated.teamMembers row hrow] at hinvalid
        exact absurd hinvalid (by simp)
      simp only [runQuery, hdelete]
  | findOwnerTimezone id' => rfl
  | setTimezone id' timezone =>
      obtain ⟨⟨hup, -, -⟩, rfl⟩ := hcall
      obtain rfl := hsame hup.default
      refine updateWorkspace_of_fixed fun row hrow hid => ?_
      unfold withTimezone
      rw [← hmigrated.timezone row hrow hid]

end

/-! ## Runs -/

/-- The unique indexes hold, and every migration that is over ended as it should. -/
structure Settled (w : BootstrapWorld) : Prop where
  valid : w.data.Valid
  finished : ∀ outcome ∈ w.finished, Ends w.data (.finish outcome)

/-- What one step of migrations does to the world. -/
structure Advance (w w' : BootstrapWorld) : Prop where
  progress : Progress w.data w'.data
  finished : ∀ outcome ∈ w.finished, outcome ∈ w'.finished
  final : ∀ id, Migrated w.data id → w'.data = w.data

theorem Advance.refl (w : BootstrapWorld) : Advance w w :=
  ⟨Progress.refl w.data, fun _ h => h, fun _ _ => rfl⟩

theorem Advance.trans {w w' w'' : BootstrapWorld} (h : Advance w w') (h' : Advance w' w'') :
    Advance w w'' where
  progress := h.progress.trans h'.progress
  finished outcome houtcome := h'.finished outcome (h.finished outcome houtcome)
  final id hmigrated := by
    have heq := h.final id hmigrated
    rw [h'.final id (heq ▸ hmigrated), heq]

/-- A step keeps the world settled, advances it, and leaves the migration where it relies on
what holds. -/
abbrev Next : BootstrapWorld → BootstrapWorld × Option PendingBootstrap → Prop :=
  Ascends Advance Settled fun w call => Reached w.data call

/-- What a sound query makes of the world, and of the migration that asked it. -/
theorem next_after {w : BootstrapWorld} (hw : Settled w) {result : LegacyData × AfterQuery}
    (hsound : Sound w.data result) (hfinal : ∀ id, Migrated w.data id → result.1 = w.data) :
    Next w (w.after result) := by
  obtain ⟨d, next⟩ := result
  -- where a migration is over, the tables stay as they are
  have hkeep : ∀ outcome ∈ w.finished, Ends d (.finish outcome) := by
    intro outcome houtcome
    have hends := hw.finished outcome houtcome
    match outcome with
    | .ok none => trivial
    | .ok (some id) => rw [show d = w.data from hfinal id hends]; exact hends
    | .error error => exact hends
  cases next with
  | goOn next =>
      refine ⟨⟨hsound.valid, hkeep⟩, ⟨hsound.progress, fun _ h => h, hfinal⟩, fun call hcall => ?_⟩
      obtain rfl := Option.some.inj hcall
      exact hsound.ends
  | finish outcome =>
      refine ⟨⟨hsound.valid, fun other hother => ?_⟩, ⟨hsound.progress, fun other hother => ?_,
        hfinal⟩, fun call hcall => absurd hcall (by simp [BootstrapWorld.after])⟩
      · rcases List.mem_append.mp hother with hold | hnew
        · exact hkeep other hold
        · rw [List.mem_singleton.mp hnew]
          exact hsound.ends
      · exact List.mem_append_left [outcome] hother

theorem next_onApplicationBootstrap {w : BootstrapWorld} (hw : Settled w)
    (processEnv : Install.EnvRecord) (input : BootstrapInput) :
    Next w (onApplicationBootstrap processEnv input w) := by
  have hread : ∀ {next : AfterQuery}, Ends w.data next → Next w (w.after (w.data, next)) :=
    fun hends => next_after hw (Sound.read hw.valid hends) fun _ _ => rfl
  unfold onApplicationBootstrap
  split
  · apply hread
    trivial
  · apply hread
    trivial

theorem next_resumeBootstrap {w : BootstrapWorld} (hw : Settled w) {call : PendingBootstrap}
    (hcall : Reached w.data call) (input : BootstrapInput) :
    Next w (resumeBootstrap call input w) := by
  unfold resumeBootstrap
  split
  · have hends : Ends w.data (.finish (.error .queryFailed)) := by simp [Ends]
    exact next_after hw (Sound.read hw.valid hends) fun _ _ => rfl
  · exact next_after hw (runQuery_sound hw.valid hcall input) fun _ hmigrated =>
      runQuery_of_migrated hw.valid hmigrated hcall input

theorem bootstrap_outline :
    MonotoneOutline bootstrapCalls noEnv (fun _ _ _ => True) (fun _ _ _ => True) (fun _ _ => True)
      Advance Settled (fun w call => Reached w.data call) where
  refl := Advance.refl
  trans := Advance.trans
  mono h hcall := hcall.mono h.progress
  invoke := fun {_ processEnv input} hw _ => next_onApplicationBootstrap hw processEnv input
  resume := fun {_ _ input} hw hcall _ => next_resumeBootstrap hw hcall input
  environment := fun {_ e} => e.elim

variable {d : LegacyData} (hd : d.Valid) (es : List BootstrapEvent)

include hd in
/-- What holds after every run of migrations, and what a longer run does. -/
theorem bootstrap_run (es' : List BootstrapEvent) :
    Settled (run bootstrapStep (Config.idle ⟨d, []⟩) es).world ∧
      Advance (run bootstrapStep (Config.idle ⟨d, []⟩) es).world
        (run bootstrapStep (Config.idle ⟨d, []⟩) (es ++ es')).world := by
  have hidle : Good Settled (fun w call => Reached w.data call)
      (Config.idle ⟨d, []⟩ : BootstrapConfig) :=
    good_idle ⟨hd, fun _ h => absurd h List.not_mem_nil⟩
  have hgood := (bootstrap_outline.run_all es hidle).1
  refine ⟨hgood.1, ?_⟩
  rw [run_append]
  exact (bootstrap_outline.run_all es' hgood).2

/-- **Instances that migrate agree.**  However the queries of any number of migrations interleave,
and whichever of them fail or stop in the middle, the unique indexes hold, and nothing is undone
that was there before; those that finish have chosen one and the same default workspace, and the
tables are migrated to it. -/
theorem bootstraps_agree {d : LegacyData} (hd : d.Valid) (es : List BootstrapEvent) :
    (run bootstrapStep (Config.idle ⟨d, []⟩) es).world.data.Valid ∧
      Progress d (run bootstrapStep (Config.idle ⟨d, []⟩) es).world.data ∧
      (∀ outcome ∈ (run bootstrapStep (Config.idle ⟨d, []⟩) es).world.finished,
        outcome ≠ .error .secondDefault) ∧
      ∀ id, .ok (some id) ∈ (run bootstrapStep (Config.idle ⟨d, []⟩) es).world.finished →
        Migrated (run bootstrapStep (Config.idle ⟨d, []⟩) es).world.data id ∧
          ∀ id', .ok (some id') ∈ (run bootstrapStep (Config.idle ⟨d, []⟩) es).world.finished →
            id' = id := by
  have hsettled := (bootstrap_run hd es []).1
  have hprogress := (bootstrap_run hd [] es).2.progress
  refine ⟨hsettled.valid, hprogress, ?_, fun id hid => ?_⟩
  · rintro outcome houtcome rfl
    exact hsettled.finished _ houtcome rfl
  · have hmigrated : Migrated _ id := hsettled.finished _ hid
    refine ⟨hmigrated, fun id' hid' => ?_⟩
    have hmigrated' : Migrated _ id' := hsettled.finished _ hid'
    exact hmigrated'.default.unique hsettled.valid hmigrated.default

/-- **Migrations settle.**  Once one instance has finished, no query of any instance, and no
later start of one, changes the tables. -/
theorem bootstraps_settle {d : LegacyData} (hd : d.Valid) (es es' : List BootstrapEvent) {id : Uuid}
    (hover : .ok (some id) ∈ (run bootstrapStep (Config.idle ⟨d, []⟩) es).world.finished) :
    (run bootstrapStep (Config.idle ⟨d, []⟩) (es ++ es')).world.data
      = (run bootstrapStep (Config.idle ⟨d, []⟩) es).world.data := by
  obtain ⟨hsettled, hadvance⟩ := bootstrap_run hd es es'
  exact hadvance.final id (hsettled.finished _ hover)

/-- A database from before there were workspaces. -/
def legacyData : LegacyData where
  workspaces := Table.empty
  memberships := Table.empty
  users := [⟨"u1", .admin, "Europe/Istanbul", 1⟩, ⟨"u2", .user, "UTC", 2⟩]
  teams := []
  teamMemberships := Table.empty
  resources target := if target = .nodes then [⟨"n1", none, none⟩] else []

theorem legacyData_valid : legacyData.Valid :=
  ⟨fun _ h => absurd h List.not_mem_nil, fun _ h => absurd h List.not_mem_nil,
    fun _ h => absurd h List.not_mem_nil⟩

/-- Two instances start; the second waits while the first one migrates. -/
def firstMigration : List BootstrapEvent :=
  [.invoke 0 [] {}, .invoke 1 [] {}, .resume 1 {}, .resume 1 {}] ++
    List.replicate 13 (.resume 0 { id := "w1" }) ++
    [.resume 0 { id := "m1" }, .resume 0 { id := "m2" }] ++
      List.replicate 3 (.resume 0 {})

theorem bootstraps_agree_legacyData :
    Migrated (run bootstrapStep (Config.idle ⟨legacyData, []⟩) firstMigration).world.data "w1" :=
  ((bootstraps_agree legacyData_valid firstMigration).2.2.2 "w1" (by decide +kernel)).1

theorem bootstraps_settle_legacyData :
    (run bootstrapStep (Config.idle ⟨legacyData, []⟩)
      (firstMigration ++ List.replicate 20 (.resume 1 { id := "w2" }))).world.data
        = (run bootstrapStep (Config.idle ⟨legacyData, []⟩) firstMigration).world.data :=
  bootstraps_settle legacyData_valid firstMigration (List.replicate 20 (.resume 1 { id := "w2" }))
    (show Except.ok (some "w1") ∈ _ by decide +kernel)

end WorkspaceDataBootstrap
