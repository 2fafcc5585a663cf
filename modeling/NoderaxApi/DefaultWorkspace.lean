/-
# The default workspace

`updateWorkspace` does not let an archived workspace become the default one, nor the default
one be archived, and `deleteWorkspace` does not delete it.  `createWorkspace` has no such
check: a workspace that is created as archived becomes the default one if it is asked to, or
if there is none.

**`defaultWorkspace_iff`**: from the first creation on there is always exactly one default
workspace, and it is not archived, if and only if no creation does this and the default is
never set to a workspace that is not there or archived.
-/
import NoderaxApi.Runs
import NoderaxApi.UserAccountSteps
import NoderaxApi.Workspaces

namespace WorkspacesService

open AuthService KeyedTable NotificationsService Runs

/-! ## The steps -/

/-- The tables, and whether a workspace was ever created. -/
structure WorkspaceWorld extends WorkspaceTables where
  created : Bool := false

/-- What happens. -/
inductive WorkspaceEvent
  | createWorkspace (actor : AuthenticatedUser) (dto : CreateWorkspaceDto) (input : WorkspaceInput)
  | updateWorkspace (workspaceId : Uuid) (actor : AuthenticatedUser) (dto : UpdateWorkspaceDto)
      (input : WorkspaceInput)
  | deleteWorkspace (workspaceId : Uuid) (actor : AuthenticatedUser) (input : WorkspaceInput)
  | setDefaultWorkspace (workspaceId : Uuid)
  /-- Members are added, changed and removed. -/
  | changeMemberships (memberships : Table WorkspaceMembership.key)

section Steps

variable {Token : Type} (platform : UsersService.AccountPlatform Token)

/-- One step; a request that is refused changes nothing. -/
def workspaceStep (w : WorkspaceWorld) : WorkspaceEvent → WorkspaceWorld
  | .createWorkspace actor dto input =>
      match createWorkspace platform w.toWorkspaceTables actor dto input with
      | .error _ => w
      | .ok db => ⟨db, true⟩
  | .updateWorkspace workspaceId actor dto input =>
      match updateWorkspace platform w.toWorkspaceTables workspaceId actor dto input with
      | .error _ => w
      | .ok db => ⟨db, w.created⟩
  | .deleteWorkspace workspaceId actor input =>
      match deleteWorkspace w.toWorkspaceTables workspaceId actor input with
      | .error _ => w
      | .ok db => ⟨db, w.created⟩
  | .setDefaultWorkspace workspaceId =>
      { w with workspaces := setDefaultWorkspace w.workspaces workspaceId }
  | .changeMemberships memberships => { w with memberships := memberships }

/-- No workspace. -/
def noWorkspaces : WorkspaceWorld := ⟨⟨Table.empty, Table.empty⟩, false⟩

/-! ## The condition and the property -/

/-- Exactly one workspace is the default one, and it is not archived. -/
def SoleDefault (workspaces : Table Workspace.key) : Prop :=
  ∃ row ∈ workspaces.rows, row.isDefault = true ∧ row.isArchived = false ∧
    ∀ other ∈ workspaces.rows, other.isDefault = true → other = row

/-- From the first creation on there is one default workspace. -/
def WorkspaceWorld.DefaultKept (w : WorkspaceWorld) : Prop :=
  w.created = true → SoleDefault w.workspaces

/-- A workspace that is created and becomes the default one is not archived, and the default is
set to a workspace that is there and not archived. -/
def UnarchivedDefault (w : WorkspaceWorld) : WorkspaceEvent → Prop
  | .createWorkspace actor dto input =>
      (checkCreation platform w.toWorkspaceTables actor dto).isOk = true →
        insertFails w.toWorkspaceTables input = false →
        shouldBecomeDefault w.toWorkspaceTables dto = true → dto.isArchived ≠ some true
  | .setDefaultWorkspace workspaceId =>
      w.workspaces.rows = [] ∨ ∃ row ∈ w.workspaces.get workspaceId, row.isArchived = false
  | _ => True

end Steps

/-! ## Setting the default -/

variable {workspaces : Table Workspace.key}

/-- The rows after the default is set. -/
theorem mem_setDefaultWorkspace {workspaceId : Uuid} {row : Workspace} :
    row ∈ (setDefaultWorkspace workspaces workspaceId).rows ↔
      ∃ old ∈ workspaces.rows, row = old.withDefault (decide (old.id = workspaceId)) := by
  have hrow : ∀ old : Workspace,
      (if decide ((if old.isDefault then old.withDefault false else old).id = workspaceId) then
          (if old.isDefault then old.withDefault false else old).withDefault true
        else if old.isDefault then old.withDefault false else old)
      = old.withDefault (decide (old.id = workspaceId)) := by
    intro old
    cases hdefault : old.isDefault with
    | true =>
        by_cases hid : old.id = workspaceId
        · simp [Workspace.withDefault, hid]
        · simp [Workspace.withDefault, hid]
    | false =>
        by_cases hid : old.id = workspaceId
        · simp [hid]
        · simp [Workspace.withDefault, hid, ← hdefault]
  show row ∈ ((workspaces.rows.map _).map _) ↔ _
  rw [List.map_map, List.mem_map]
  constructor
  · rintro ⟨old, hold, rfl⟩
    exact ⟨old, hold, hrow old⟩
  · rintro ⟨old, hold, rfl⟩
    exact ⟨old, hold, hrow old⟩

/-- Setting the default leaves one default workspace if and only if it is there and not
archived. -/
theorem soleDefault_setDefault_iff {workspaceId : Uuid} :
    SoleDefault (setDefaultWorkspace workspaces workspaceId) ↔
      ∃ row ∈ workspaces.get workspaceId, row.isArchived = false := by
  constructor
  · rintro ⟨row, hrow, hdefault, harchived, -⟩
    obtain ⟨old, hold, rfl⟩ := mem_setDefaultWorkspace.mp hrow
    have hid : old.id = workspaceId := of_decide_eq_true hdefault
    exact ⟨old, hid ▸ Table.get_of_mem hold, harchived⟩
  · rintro ⟨row, hrow, harchived⟩
    have hid : row.key = workspaceId := Table.key_of_get hrow
    refine ⟨row.withDefault true, ?_, rfl, harchived, fun other hother hdefault => ?_⟩
    · exact mem_setDefaultWorkspace.mpr
        ⟨row, Table.mem_of_get hrow, by rw [decide_eq_true hid]⟩
    · obtain ⟨old, hold, rfl⟩ := mem_setDefaultWorkspace.mp hother
      have hsame : old.id = workspaceId := of_decide_eq_true hdefault
      have hget : workspaces.get workspaceId = some old := hsame ▸ Table.get_of_mem hold
      obtain rfl := Option.some.inj (hrow.symm.trans hget)
      rw [decide_eq_true hsame]

/-! ## The other writes -/

/-- A row that is not the default one is added. -/
theorem SoleDefault.insert (h : SoleDefault workspaces) {row : Workspace}
    (hrow : row.isDefault = false) : SoleDefault (workspaces.insert row) := by
  obtain ⟨default, hmem, hdefault, harchived, honly⟩ := h
  refine ⟨default, ?_, hdefault, harchived, fun other hother hother' => ?_⟩
  · exact Table.mem_of_get (Table.get_insert_of_get (Table.get_of_mem hmem))
  · rcases Table.mem_insert hother with hold | ⟨rfl, -⟩
    · exact honly other hold hother'
    · exact absurd hother' (by simp [hrow])

/-- A row that is not the default one is deleted. -/
theorem SoleDefault.delete (h : SoleDefault workspaces) {row : Workspace}
    (hget : workspaces.get row.id = some row) (hrow : row.isDefault = false) :
    SoleDefault (workspaces.delete row.id) := by
  obtain ⟨default, hmem, hdefault, harchived, honly⟩ := h
  have hne : default.id ≠ row.id := by
    intro heq
    have hsame : workspaces.get row.id = some default := heq ▸ Table.get_of_mem hmem
    obtain rfl := Option.some.inj (hget.symm.trans hsame)
    exact absurd hdefault (by simp [hrow])
  refine ⟨default, ?_, hdefault, harchived, fun other hother hother' => ?_⟩
  · exact List.mem_filter.mpr ⟨hmem, decide_eq_true hne⟩
  · exact honly other (List.mem_filter.mp hother).1 hother'

/-- A row is saved with the flag it had, the default one as not archived. -/
theorem SoleDefault.save (h : SoleDefault workspaces) {row entity : Workspace}
    (hget : workspaces.get entity.id = some row) (hdefault : entity.isDefault = row.isDefault)
    (hkeeps : row.isDefault = true → row.isArchived = false → entity.isArchived = false) :
    SoleDefault (saveWorkspace workspaces entity) := by
  obtain ⟨default, hmem, hisDefault, harchived, honly⟩ := h
  have hid : row.key = entity.id := Table.key_of_get hget
  have hsaved : ∀ other, other ∈ (saveWorkspace workspaces entity).rows ↔
      (other ∈ workspaces.rows ∧ other.id ≠ entity.id) ∨ other = entity := by
    intro other
    rw [saveWorkspace, Table.mem_update_key hget, show row.id = entity.id from hid]
  by_cases hsame : default.id = entity.id
  · -- the row is the default one
    have hrow : workspaces.get entity.id = some default := hsame ▸ Table.get_of_mem hmem
    obtain rfl := Option.some.inj (hget.symm.trans hrow)
    refine ⟨entity, (hsaved entity).mpr (.inr rfl), hdefault.trans hisDefault,
      hkeeps hisDefault harchived, fun other hother hother' => ?_⟩
    rcases (hsaved other).mp hother with ⟨hold, hne⟩ | rfl
    · exact absurd (congrArg Workspace.key (honly other hold hother')) (hid ▸ hne)
    · rfl
  · refine ⟨default, (hsaved default).mpr (.inl ⟨hmem, hsame⟩), hisDefault, harchived,
      fun other hother hother' => ?_⟩
    rcases (hsaved other).mp hother with ⟨hold, -⟩ | rfl
    · exact honly other hold hother'
    · have hrow := honly row (Table.mem_of_get hget) (hdefault ▸ hother')
      exact absurd (hrow ▸ hid) hsame

/-! ## What the operations do -/

section Operations

variable {Token : Type} {platform : UsersService.AccountPlatform Token} {db db' : WorkspaceTables}
  {actor : AuthenticatedUser} {input : WorkspaceInput} {workspaceId : Uuid}
  {dto : UpdateWorkspaceDto} {workspace entity : Workspace}

theorem get_of_findWorkspaceForUser
    (h : findWorkspaceForUserOrFail db workspaceId actor = .ok workspace) :
    db.workspaces.get workspaceId = some workspace := by
  obtain ⟨found, hfound, hrest⟩ := bind_eq_ok.mp h
  have hget : db.workspaces.get workspaceId = some found := by
    unfold findWorkspaceOrFail at hfound
    split at hfound
    · cases hfound
    · next hget => exact Except.ok.inj hfound ▸ hget
  split at hrest
  · exact Except.ok.inj hrest ▸ hget
  · split at hrest
    · cases hrest
    · exact Except.ok.inj hrest ▸ hget

theorem refuse_ok {refused : Bool} {error : HttpError} :
    refuse refused error = .ok () ↔ refused = false := by
  cases refused <;> simp [refuse]

/-- What `updateWorkspace` does not let through. -/
theorem checkFlags_ok (h : checkFlags workspace actor dto = .ok ()) :
    (dto.isArchived = some (some true) → workspace.isDefault = false) ∧
      (dto.isDefault = some (some true) →
        workspace.isArchived = false ∧ dto.isArchived ≠ some (some true)) := by
  obtain ⟨-, -, h⟩ := bind_eq_ok.mp h
  obtain ⟨-, -, h⟩ := bind_eq_ok.mp h
  obtain ⟨-, -, h⟩ := bind_eq_ok.mp h
  obtain ⟨⟨⟩, harchive, hdefault⟩ := bind_eq_ok.mp h
  rw [refuse_ok] at harchive hdefault
  refine ⟨fun hdto => ?_, fun hdto => ?_⟩
  · simpa [hdto] using harchive
  · simpa [hdto] using hdefault

/-- What the entity that is saved has of the flags. -/
theorem updatedWorkspace_ok (h : updatedWorkspace platform db workspace dto = .ok entity) :
    entity.key = workspace.key ∧ entity.isDefault = workspace.isDefault ∧
      (entity.isArchived = workspace.isArchived ∨
        dto.isArchived = some (some entity.isArchived)) := by
  obtain ⟨name, -, h⟩ := bind_eq_ok.mp h
  obtain ⟨slug, -, h⟩ := bind_eq_ok.mp h
  obtain ⟨timezone, -, h⟩ := bind_eq_ok.mp h
  obtain ⟨isArchived, hisArchived, h⟩ := bind_eq_ok.mp h
  obtain ⟨emailEnabled, -, h⟩ := bind_eq_ok.mp h
  obtain ⟨telegramEnabled, -, h⟩ := bind_eq_ok.mp h
  obtain ⟨emailLevels, -, h⟩ := bind_eq_ok.mp h
  obtain ⟨telegramLevels, -, h⟩ := bind_eq_ok.mp h
  obtain rfl := Except.ok.inj h
  refine ⟨rfl, rfl, ?_⟩
  unfold requiredColumn at hisArchived
  split at hisArchived
  · exact .inl (Except.ok.inj hisArchived).symm
  · cases hisArchived
  · next hfield => exact .inr (Except.ok.inj hisArchived ▸ hfield)

/-- **An update** keeps the default workspace, or moves it to one that is not archived. -/
theorem soleDefault_updateWorkspace
    (hok : updateWorkspace platform db workspaceId actor dto input = .ok db')
    (h : SoleDefault db.workspaces) : SoleDefault db'.workspaces := by
  obtain ⟨workspace, hfind, hrest⟩ := bind_eq_ok.mp hok
  obtain ⟨-, -, hrest⟩ := bind_eq_ok.mp hrest
  obtain ⟨⟨⟩, hflags, hrest⟩ := bind_eq_ok.mp hrest
  obtain ⟨entity, hentity, hrest⟩ := bind_eq_ok.mp hrest
  obtain ⟨harchive, hdefault⟩ := checkFlags_ok hflags
  obtain ⟨hkey, hisDefault, hisArchived⟩ := updatedWorkspace_ok hentity
  have hget := get_of_findWorkspaceForUser hfind
  have hid : workspace.key = workspaceId := Table.key_of_get hget
  replace hget : db.workspaces.get entity.key = some workspace := by
    rw [hkey, hid]
    exact hget
  split at hrest
  · cases hrest
  obtain rfl := Except.ok.inj hrest
  show SoleDefault (if dto.isDefault = some (some true) then _ else _)
  split
  · next hdto =>
      obtain ⟨hworkspace, hdto'⟩ := hdefault hdto
      refine soleDefault_setDefault_iff.mpr
        ⟨_, (Table.get_update_key hget entity.key).trans (if_pos rfl), ?_⟩
      show entity.isArchived = false
      rcases hisArchived with hsame | hset
      · exact hsame.trans hworkspace
      · cases harchived : entity.isArchived with
        | false => rfl
        | true => exact absurd (harchived ▸ hset) hdto'
  · refine h.save hget hisDefault fun hworkspace hlive => ?_
    rcases hisArchived with hsame | hset
    · exact hsame.trans hlive
    · cases harchived : entity.isArchived with
      | false => rfl
      | true => exact absurd hworkspace (by simp [harchive (harchived ▸ hset)])

/-- **A deletion** keeps the default workspace. -/
theorem soleDefault_deleteWorkspace (hok : deleteWorkspace db workspaceId actor input = .ok db')
    (h : SoleDefault db.workspaces) : SoleDefault db'.workspaces := by
  obtain ⟨workspace, hfind, hrest⟩ := bind_eq_ok.mp hok
  obtain ⟨-, -, hrest⟩ := bind_eq_ok.mp hrest
  obtain ⟨-, -, hrest⟩ := bind_eq_ok.mp hrest
  obtain ⟨⟨⟩, hdefault, hrest⟩ := bind_eq_ok.mp hrest
  rw [refuse_ok] at hdefault
  have hid : workspace.key = workspaceId := Table.key_of_get (get_of_findWorkspaceForUser hfind)
  have hget : db.workspaces.get workspace.key = some workspace := by
    rw [hid]
    exact get_of_findWorkspaceForUser hfind
  split at hrest
  · cases hrest
  obtain rfl := Except.ok.inj hrest
  exact h.delete hget hdefault

/-- Without workspaces nothing is updated or deleted. -/
theorem workspaces_of_find (h : findWorkspaceForUserOrFail db workspaceId actor = .ok workspace) :
    db.workspaces.rows ≠ [] :=
  List.ne_nil_of_mem (Table.mem_of_get (get_of_findWorkspaceForUser h))

/-- **A creation** leaves one default workspace if and only if the new one does not become the
default one as archived. -/
theorem soleDefault_createWorkspace_iff {dto : CreateWorkspaceDto}
    (hok : createWorkspace platform db actor dto input = .ok db')
    (h : db.workspaces.rows ≠ [] → SoleDefault db.workspaces) :
    SoleDefault db'.workspaces ↔
      (shouldBecomeDefault db dto = true → dto.isArchived ≠ some true) := by
  obtain ⟨⟨slug, timezone⟩, -, hrest⟩ := bind_eq_ok.mp hok
  replace hrest : (if insertFails db input then _ else _) = Except.ok db' := hrest
  split at hrest
  · cases hrest
  next hinsert =>
  obtain rfl := Except.ok.inj hrest
  have hnew : db.workspaces.get input.id = none := by
    cases hget : db.workspaces.get input.id with
    | none => rfl
    | some row => exact absurd (by simp [insertFails, hget]) hinsert
  have hget :
      (db.workspaces.insert (createdWorkspace actor dto slug timezone input.id)).get input.id
        = some (createdWorkspace actor dto slug timezone input.id) := by
    rw [Table.get_insert, if_pos ⟨rfl, hnew⟩]
  show SoleDefault (if shouldBecomeDefault db dto = true then _ else _) ↔ _
  split
  · next hbecomes =>
      rw [soleDefault_setDefault_iff]
      constructor
      · rintro ⟨row, hrow, harchived⟩ - hdto
        obtain rfl := Option.some.inj (hget.symm.trans hrow)
        simp [createdWorkspace, hdto] at harchived
      · intro hdto
        refine ⟨_, hget, ?_⟩
        show dto.isArchived.getD false = false
        cases harchived : dto.isArchived with
        | none => rfl
        | some archived => simpa [harchived] using hdto hbecomes
  · next hstays =>
      refine iff_of_true ?_ fun hbecomes => absurd hbecomes hstays
      refine (h fun hnone => hstays ?_).insert rfl
      simp [shouldBecomeDefault, hasDefaultWorkspace, hnone]

/-! ## The invariant -/

/-- Before the first creation there is no workspace. -/
def WorkspaceWorld.EmptyBefore (w : WorkspaceWorld) : Prop :=
  w.created = false → w.workspaces.rows = []

theorem emptyBefore_step {w : WorkspaceWorld} (h : w.EmptyBefore) (e : WorkspaceEvent) :
    (workspaceStep platform w e).EmptyBefore := by
  cases e with
  | createWorkspace actor dto input =>
      simp only [workspaceStep]
      split
      · exact h
      · exact fun hnone => absurd hnone (by simp)
  | updateWorkspace workspaceId actor dto input =>
      simp only [workspaceStep]
      split
      · exact h
      · next db hok =>
          intro hnone
          obtain ⟨workspace, hfind, -⟩ := bind_eq_ok.mp hok
          exact absurd (h hnone) (workspaces_of_find hfind)
  | deleteWorkspace workspaceId actor input =>
      simp only [workspaceStep]
      split
      · exact h
      · next db hok =>
          intro hnone
          obtain ⟨workspace, hfind, -⟩ := bind_eq_ok.mp hok
          exact absurd (h hnone) (workspaces_of_find hfind)
  | setDefaultWorkspace workspaceId =>
      intro hnone
      refine List.eq_nil_iff_forall_not_mem.mpr fun row hrow => ?_
      obtain ⟨old, hold, -⟩ := mem_setDefaultWorkspace.mp hrow
      rw [h hnone] at hold
      exact List.not_mem_nil hold
  | changeMemberships memberships => exact h

/-- **One step** keeps the default workspace if and only if the condition holds there. -/
theorem defaultKept_step_iff {w : WorkspaceWorld} (hempty : w.EmptyBefore) (h : w.DefaultKept)
    (e : WorkspaceEvent) :
    (workspaceStep platform w e).DefaultKept ↔ UnarchivedDefault platform w e := by
  have hrows : w.workspaces.rows ≠ [] → SoleDefault w.workspaces := by
    intro hrows
    cases hcreated : w.created with
    | false => exact absurd (hempty hcreated) hrows
    | true => exact h hcreated
  cases e with
  | createWorkspace actor dto input =>
      simp only [workspaceStep, UnarchivedDefault]
      split
      · next error hrefused =>
          -- a creation that passes its checks is refused by the database only
          refine iff_of_true h fun hcheck hinsert => ?_
          cases hchecked : checkCreation platform w.toWorkspaceTables actor dto with
          | error error' => simp [hchecked, Except.isOk, Except.toBool] at hcheck
          | ok checked =>
              obtain ⟨slug, timezone⟩ := checked
              rw [createWorkspace, hchecked] at hrefused
              replace hrefused : (if insertFails w.toWorkspaceTables input then _ else _)
                = Except.error error := hrefused
              rw [hinsert, if_neg Bool.false_ne_true] at hrefused
              cases hrefused
      · next db hok =>
          have hiff := soleDefault_createWorkspace_iff hok hrows
          obtain ⟨⟨slug, timezone⟩, hchecked, hrest⟩ := bind_eq_ok.mp hok
          replace hrest : (if insertFails w.toWorkspaceTables input then _ else _)
            = Except.ok db := hrest
          have hcheck : (checkCreation platform w.toWorkspaceTables actor dto).isOk = true := by
            rw [hchecked]
            rfl
          have hinsert : insertFails w.toWorkspaceTables input = false := by
            cases hinsert : insertFails w.toWorkspaceTables input with
            | false => rfl
            | true =>
                rw [hinsert, if_pos rfl] at hrest
                cases hrest
          constructor
          · exact fun hkept _ _ => hiff.mp (hkept rfl)
          · exact fun hcond _ => hiff.mpr (hcond hcheck hinsert)
  | updateWorkspace workspaceId actor dto input =>
      simp only [workspaceStep, UnarchivedDefault, iff_true]
      split
      · exact h
      · next db hok => exact fun hcreated => soleDefault_updateWorkspace hok (h hcreated)
  | deleteWorkspace workspaceId actor input =>
      simp only [workspaceStep, UnarchivedDefault, iff_true]
      split
      · exact h
      · next db hok => exact fun hcreated => soleDefault_deleteWorkspace hok (h hcreated)
  | setDefaultWorkspace workspaceId =>
      show (w.created = true → SoleDefault (setDefaultWorkspace w.workspaces workspaceId)) ↔
        w.workspaces.rows = [] ∨ _
      rw [soleDefault_setDefault_iff]
      constructor
      · intro hkept
        cases hcreated : w.created with
        | false => exact .inl (hempty hcreated)
        | true => exact .inr (hkept hcreated)
      · rintro (hnone | hrow) hcreated
        · obtain ⟨row, hrow, -⟩ := h hcreated
          rw [hnone] at hrow
          exact absurd hrow List.not_mem_nil
        · exact hrow
  | changeMemberships memberships => exact iff_of_true h trivial

end Operations

/-! ## The theorem -/

/-- **There is exactly one default workspace, and it is not archived**, at every point after the
first creation of a run of any requests, from no workspace, if and only if no workspace is
created as archived and becomes the default one, and the default is not set to a workspace that
is not there or archived. -/
theorem defaultWorkspace_iff {Token : Type} (platform : UsersService.AccountPlatform Token)
    (es : List WorkspaceEvent) :
    (∀ es₁ es₂, es = es₁ ++ es₂ → (run (workspaceStep platform) noWorkspaces es₁).DefaultKept) ↔
      Along (workspaceStep platform) (UnarchivedDefault platform) noWorkspaces es := by
  refine prefixes_iff_along (A := WorkspaceWorld.EmptyBefore) (I := WorkspaceWorld.DefaultKept)
    (fun w e hempty _ _ => emptyBefore_step hempty e)
    (fun w e hempty h => defaultKept_step_iff hempty h e) (fun _ => rfl) ?_
  exact fun hcreated => absurd hcreated (by simp [noWorkspaces])

/-- An administrator. -/
def platformAdmin : AuthenticatedUser where
  id := "u1"
  email := "admin@example.com"
  role := .platformAdmin
  name := "Noderax Admin"

/-- The first workspace, created as archived. -/
def archivedCreation : List WorkspaceEvent :=
  [.createWorkspace platformAdmin
    { name := "Acme Operations", slug := "acme-ops", isArchived := some true }
    { id := "w1", membershipId := "m1" }]

/-- The first workspace is archived and the default one. -/
theorem archivedCreation_isDefault :
    (¬ ∀ (Token : Type) (platform : UsersService.AccountPlatform Token)
      (es es₁ es₂ : List WorkspaceEvent), es = es₁ ++ es₂ →
      (run (workspaceStep platform) noWorkspaces es₁).DefaultKept) ∧
    (run (workspaceStep UsersService.sampleAccountPlatform) noWorkspaces
        archivedCreation).workspaces.rows.map
      (fun row => (row.id, row.isDefault, row.isArchived)) = [("w1", true, true)] := by
  refine ⟨fun hall => ?_, by decide +kernel⟩
  obtain ⟨row, hrow, -, harchived, -⟩ := hall _ UsersService.sampleAccountPlatform
    archivedCreation archivedCreation [] rfl (by decide +kernel)
  have hall : ∀ row ∈ (run (workspaceStep UsersService.sampleAccountPlatform) noWorkspaces
      archivedCreation).workspaces.rows, row.isArchived = true := by decide +kernel
  exact absurd harchived (by simp [hall row hrow])

end WorkspacesService
