/-
# Session versions

An access token carries the session version of its user, and `validateJwtPayload` refuses
it once the row has another one.  The operations that invalidate sessions add one to the
version that they loaded, and every save writes back the version that its call loaded, so
a save that comes late can take the version back.

**`invalidation_permanent`**: as long as every save finds the version that its call loaded,
no version decreases and no invalidated session is accepted again.
-/
import NoderaxApi.Histories
import NoderaxApi.UserAccountSteps

namespace UsersService

open AuthService KeyedTable Interleaving Runs Histories

/-! ## The condition and the property -/

/-- A save finds the session version that its call loaded. -/
def SavesLoadedVersion (w : AccountWorld) (call : PendingAccountCall) (_ : AccountInput) : Prop :=
  match call with
  | .saving _ loaded _ =>
      ∃ row ∈ w.users.get loaded.id, row.sessionVersion = loaded.sessionVersion
  | _ => True

instance SavesLoadedVersion.decidable (w : AccountWorld) (call : PendingAccountCall)
    (input : AccountInput) : Decidable (SavesLoadedVersion w call input) :=
  match call with
  | .saving _ loaded _ =>
      inferInstanceAs
        (Decidable (∃ row ∈ w.users.get loaded.id, row.sessionVersion = loaded.sessionVersion))
  | .countingAdmins .. | .findingEmail .. | .countingAdminsToDelete .. | .countingReferences ..
  | .removing .. | .linkingIdentity .. => instDecidableTrue

/-- The session was handed out before a completed operation that invalidates it. -/
def AccountWorld.Invalidated (w : AccountWorld) (user : UserEntity) : Prop :=
  Then (· = .session user) (· = .invalidated user.id) w.sessions

/-- Invalidation is permanent in a run: no stored session version decreases, and the access
token of an invalidated session is refused. -/
structure InvalidatesForGood {Token : Type} (platform : AccountPlatform Token) (c : AccountConfig)
    (es : List (AccountEvent Token)) : Prop where
  monotone : ∀ es₁ es₂ es₃, es = es₁ ++ es₂ ++ es₃ → ∀ id,
    ∀ row ∈ (run (accountStep platform) c es₁).world.users.get id,
    ∀ row' ∈ (run (accountStep platform) c (es₁ ++ es₂)).world.users.get id,
      row.sessionVersion ≤ row'.sessionVersion
  refused : ∀ es₁ es₂, es = es₁ ++ es₂ → ∀ user,
    (run (accountStep platform) c es₁).world.Invalidated user → ∀ authenticated,
      validateJwtPayload (run (accountStep platform) c es₁).world.entities (accessPayload user)
        ≠ .ok authenticated

/-! ## Rows that advance -/

/-- From one state of a user to a later one: the session version grows, or it stays and the
user stays active or inactive. -/
def UserEntity.Advances (a b : UserEntity) : Prop :=
  a.sessionVersion < b.sessionVersion ∨
    (a.sessionVersion = b.sessionVersion ∧ a.isActive = b.isActive)

theorem UserEntity.Advances.refl (a : UserEntity) : UserEntity.Advances a a := .inr ⟨rfl, rfl⟩

theorem UserEntity.Advances.trans {a b c : UserEntity} (hab : UserEntity.Advances a b)
    (hbc : UserEntity.Advances b c) : UserEntity.Advances a c := by
  rcases hab with hlt | ⟨hv, hactive⟩
  · left
    rcases hbc with hlt' | ⟨hv', -⟩
    · exact hlt.trans hlt'
    · exact hv' ▸ hlt
  · rcases hbc with hlt' | ⟨hv', hactive'⟩
    · exact .inl (hv ▸ hlt')
    · exact .inr ⟨hv.trans hv', hactive.trans hactive'⟩

theorem UserEntity.Advances.le {a b : UserEntity} (h : UserEntity.Advances a b) :
    a.sessionVersion ≤ b.sessionVersion := by
  rcases h with hlt | ⟨hv, -⟩
  · exact hlt.le
  · exact hv.le

/-- Every row that there is now was there before, and has advanced since. -/
def AccountWorld.Precedes (w w' : AccountWorld) : Prop :=
  ∀ id, ∀ row' ∈ w'.users.get id, ∃ row ∈ w.users.get id,
    UserEntity.Advances row.toUserEntity row'.toUserEntity

theorem AccountWorld.Precedes.refl (w : AccountWorld) : w.Precedes w :=
  fun _ row hrow => ⟨row, hrow, .refl _⟩

theorem AccountWorld.Precedes.of_users {w w' : AccountWorld} (h : w'.users = w.users) :
    w.Precedes w' :=
  fun _ row hrow => ⟨row, h ▸ hrow, .refl _⟩

theorem AccountWorld.Precedes.trans {a b c : AccountWorld} (hab : a.Precedes b)
    (hbc : b.Precedes c) : a.Precedes c := by
  intro id row'' hrow''
  obtain ⟨row', hrow', hlater⟩ := hbc id row'' hrow''
  obtain ⟨row, hrow, hearlier⟩ := hab id row' hrow'
  exact ⟨row, hrow, hearlier.trans hlater⟩

/-- This state of a user is not ahead of the row. -/
def AccountWorld.Reached (w : AccountWorld) (user : UserEntity) : Prop :=
  ∀ row ∈ w.users.get user.id, UserEntity.Advances user row.toUserEntity

theorem AccountWorld.Reached.later {w w' : AccountWorld} {user : UserEntity} (h : w.Reached user)
    (hw : w.Precedes w') : w'.Reached user := by
  intro row' hrow'
  obtain ⟨row, hrow, hlater⟩ := hw user.id row' hrow'
  exact (h row hrow).trans hlater

theorem AccountWorld.reached_of_get {w : AccountWorld} {row : UserRow}
    (h : w.users.get row.id = some row) : w.Reached row.toUserEntity := by
  intro row' hrow'
  obtain rfl := Option.some.inj (h.symm.trans hrow')
  exact .refl _

/-! ## The invariant -/

/-- Sessions are of active users as they are or were, and an invalidated one is of an
earlier version. -/
structure SessionInv (w : AccountWorld) : Prop where
  session : ∀ user, .session user ∈ w.sessions → user.isActive = true ∧ w.Reached user
  invalidated : ∀ user, w.Invalidated user → ∀ row ∈ w.users.get user.id,
    user.sessionVersion < row.sessionVersion

/-- A pending call loaded a state that the row has had. -/
def LoadedBefore {Token : Type} (platform : AccountPlatform Token) (w : AccountWorld)
    (call : PendingAccountCall) : Prop :=
  w.Reached call.loaded.toUserEntity ∧ Sound platform call

section Invariant

variable {Token : Type} {platform : AccountPlatform Token} {w w' : AccountWorld}

theorem LoadedBefore.later {call : PendingAccountCall} (h : LoadedBefore platform w call)
    (hw : w.Precedes w') : LoadedBefore platform w' call :=
  ⟨h.1.later hw, h.2⟩

/-- Nothing new is recorded. -/
theorem SessionInv.later (h : SessionInv w) (hw : w.Precedes w')
    (hsessions : w'.sessions = w.sessions) : SessionInv w' where
  session := by
    intro user hmem
    rw [hsessions] at hmem
    exact ⟨(h.session user hmem).1, (h.session user hmem).2.later hw⟩
  invalidated := by
    intro user hinvalidated row' hrow'
    rw [AccountWorld.Invalidated, hsessions] at hinvalidated
    obtain ⟨row, hrow, hlater⟩ := hw user.id row' hrow'
    exact (h.invalidated user hinvalidated row hrow).trans_le hlater.le

/-- A session is handed out. -/
theorem SessionInv.recordSession {user : UserEntity} (h : SessionInv w)
    (hactive : user.isActive = true) (hreached : w.Reached user) :
    SessionInv (w.recordSession (.session user)) where
  session := by
    intro other hmem
    rcases List.mem_append.mp hmem with hold | hnew
    · exact h.session other hold
    · cases List.mem_singleton.mp hnew
      exact ⟨hactive, hreached⟩
  invalidated := by
    intro other hinvalidated row hrow
    rcases then_concat.mp hinvalidated with hold | ⟨hnew, -⟩
    · exact h.invalidated other hold row hrow
    · cases hnew

/-- An operation that invalidates the sessions of a user is completed. -/
theorem SessionInv.recordInvalidated {id : Uuid} (h : SessionInv w)
    (hahead : ∀ user, .session user ∈ w.sessions → user.id = id → ∀ row ∈ w.users.get id,
      user.sessionVersion < row.sessionVersion) :
    SessionInv (w.recordSession (.invalidated id)) where
  session := by
    intro user hmem
    rcases List.mem_append.mp hmem with hold | hnew
    · exact h.session user hold
    · cases List.mem_singleton.mp hnew
  invalidated := by
    intro user hinvalidated row hrow
    rcases then_concat.mp hinvalidated with hold | ⟨hnew, earlier, hearlier, rfl⟩
    · exact h.invalidated user hold row hrow
    · cases hnew
      exact hahead user hearlier rfl row hrow

/-! ## A save -/

/-- What a save that finds the version its call loaded does to that version: it goes up in the
order, and an invalidating one leaves every active state behind. -/
theorem SavePurpose.Versions.advances {purpose : SavePurpose} {loaded entity : UserRow}
    (h : purpose.Versions loaded entity) :
    UserEntity.Advances loaded.toUserEntity entity.toUserEntity := by
  have hraised : entity.sessionVersion = loaded.sessionVersion + 1 →
      UserEntity.Advances loaded.toUserEntity entity.toUserEntity := fun hv => .inl (by omega)
  cases purpose with
  | updated isActive =>
      rcases h.2 with hv | ⟨hv, hactive⟩
      · exact hraised hv
      · exact .inr ⟨hv.symm, hactive.symm⟩
  | preferences => exact .inr ⟨h.1.symm, h.2.symm⟩
  | mfaSetup => exact .inr ⟨h.1.symm, h.2.symm⟩
  | recovery code => exact .inr ⟨h.1.symm, h.2.1.symm⟩
  | passwordChange => exact hraised h
  | invitation => exact hraised h
  | passwordReset => exact hraised h
  | mfaConfirmation recoveryCodes => exact hraised h
  | regeneration recoveryCodes => exact hraised h
  | mfaRemoval => exact hraised h

/-- An invalidating save either raises the version or leaves an inactive user inactive. -/
theorem SavePurpose.Versions.invalidates {purpose : SavePurpose} {loaded entity : UserRow}
    {id : Uuid} (h : purpose.Versions loaded entity)
    (hfact : purpose.sessionFact entity = some (.invalidated id)) :
    id = entity.id ∧ (loaded.sessionVersion < entity.sessionVersion ∨
      (loaded.sessionVersion = entity.sessionVersion ∧ loaded.isActive = false)) := by
  have hraised : entity.sessionVersion = loaded.sessionVersion + 1 →
      loaded.sessionVersion < entity.sessionVersion ∨
        (loaded.sessionVersion = entity.sessionVersion ∧ loaded.isActive = false) :=
    fun hv => .inl (by omega)
  cases purpose with
  | updated isActive =>
      cases isActive with
      | true => cases hfact
      | false =>
          cases hfact
          refine ⟨rfl, ?_⟩
          rcases h.2 with hv | ⟨hv, hactive⟩
          · exact hraised hv
          · exact .inr ⟨hv.symm, hactive.symm.trans h.1⟩
  | preferences => cases hfact
  | mfaSetup => cases hfact
  | recovery code => cases hfact
  | passwordChange => cases hfact; exact ⟨rfl, hraised h⟩
  | invitation => cases hfact; exact ⟨rfl, hraised h⟩
  | passwordReset => cases hfact; exact ⟨rfl, hraised h⟩
  | mfaConfirmation recoveryCodes => cases hfact; exact ⟨rfl, hraised h⟩
  | regeneration recoveryCodes => cases hfact; exact ⟨rfl, hraised h⟩
  | mfaRemoval => cases hfact; exact ⟨rfl, hraised h⟩

/-- A save hands out a session for an active user only. -/
theorem SavePurpose.Versions.session {purpose : SavePurpose} {loaded entity : UserRow}
    {user : UserEntity} (h : purpose.Versions loaded entity)
    (hfact : purpose.sessionFact entity = some (.session user)) :
    user = entity.toUserEntity ∧ entity.isActive = true := by
  cases purpose with
  | updated isActive =>
      cases isActive with
      | true => cases hfact
      | false => cases hfact
  | recovery code =>
      cases hfact
      exact ⟨rfl, h.2.1.trans h.2.2⟩
  | _ => cases hfact

section Saved

variable {purpose : SavePurpose} {loaded entity : UserRow} {input : AccountInput}

/-- The stored row has the version and the active flag that were loaded. -/
theorem stored_of_loaded (hcall : LoadedBefore platform w (.saving purpose loaded entity))
    (hguard : SavesLoadedVersion w (.saving purpose loaded entity) input) :
    ∃ row, w.users.get entity.id = some row ∧ row.sessionVersion = loaded.sessionVersion ∧
      row.isActive = loaded.isActive := by
  obtain ⟨row, hrow, hversion⟩ := hguard
  refine ⟨row, hcall.2.id ▸ hrow, hversion, ?_⟩
  rcases hcall.1 row hrow with hlt | ⟨-, hactive⟩
  · exact absurd hversion (Nat.ne_of_gt hlt)
  · exact hactive.symm

/-- Such a save takes no row back. -/
theorem precedes_saveUser (hcall : LoadedBefore platform w (.saving purpose loaded entity))
    (hguard : SavesLoadedVersion w (.saving purpose loaded entity) input) :
    w.Precedes (w.saveUser purpose.columns entity) := by
  obtain ⟨row, hrow, hversion, hactive⟩ := stored_of_loaded hcall hguard
  intro id row' hrow'
  rw [Option.mem_def, get_saveUser] at hrow'
  split at hrow'
  · next hid =>
      subst hid
      rw [hrow] at hrow'
      obtain rfl := Option.some.inj hrow'
      refine ⟨row, hrow, ?_⟩
      rcases hcall.2.versions.advances with hlt | ⟨hsame, hflag⟩
      · exact .inl (hversion ▸ hlt)
      · exact .inr ⟨hversion.trans hsame, hactive.trans hflag⟩
  · exact ⟨row', hrow', .refl _⟩

/-- The row after such a save is the entity as far as sessions go. -/
theorem reached_saveUser (hcall : LoadedBefore platform w (.saving purpose loaded entity))
    (hguard : SavesLoadedVersion w (.saving purpose loaded entity) input) :
    (w.saveUser purpose.columns entity).Reached entity.toUserEntity := by
  obtain ⟨row, hrow, -, -⟩ := stored_of_loaded hcall hguard
  intro row' hrow'
  rw [Option.mem_def, get_saveUser, if_pos rfl, hrow] at hrow'
  obtain rfl := Option.some.inj hrow'
  exact .inr ⟨rfl, rfl⟩

/-- After an invalidating save every session so far is of an earlier version. -/
theorem ahead_of_sessions (h : SessionInv w)
    (hcall : LoadedBefore platform w (.saving purpose loaded entity))
    (hguard : SavesLoadedVersion w (.saving purpose loaded entity) input)
    (hleft : loaded.sessionVersion < entity.sessionVersion ∨
      (loaded.sessionVersion = entity.sessionVersion ∧ loaded.isActive = false))
    {user : UserEntity} (hsession : .session user ∈ w.sessions) (hid : user.id = entity.id) :
    ∀ row ∈ (w.saveUser purpose.columns entity).users.get entity.id,
      user.sessionVersion < row.sessionVersion := by
  obtain ⟨row, hrow, hversion, hactive⟩ := stored_of_loaded hcall hguard
  obtain ⟨hsignedIn, hreached⟩ := h.session user hsession
  have hstored : UserEntity.Advances user row.toUserEntity := hreached row (hid ▸ hrow)
  intro row' hrow'
  rw [Option.mem_def, get_saveUser, if_pos rfl, hrow] at hrow'
  obtain rfl := Option.some.inj hrow'
  show user.sessionVersion < entity.sessionVersion
  rcases hleft with hlt | ⟨hsame, hinactive⟩
  · exact hstored.le.trans_lt (hversion ▸ hlt)
  · -- the user was inactive already, so the session is of a version before
    rcases hstored with hlt | ⟨-, hflag⟩
    · exact (hlt.trans_eq hversion).trans_eq hsame
    · rw [hsignedIn] at hflag
      exact absurd (hflag.trans (hactive.trans hinactive)) (by simp)

/-- **A save that finds the version its call loaded keeps the invariant.** -/
theorem sessionInv_completeSave (h : SessionInv w)
    (hcall : LoadedBefore platform w (.saving purpose loaded entity))
    (hguard : SavesLoadedVersion w (.saving purpose loaded entity) input) :
    SessionInv (completeSave platform w purpose entity) := by
  have hsaved : SessionInv ((w.saveUser purpose.columns entity).recordCodes
      (purpose.codeFacts entity.id (codesOf platform w entity.id))) :=
    h.later (precedes_saveUser hcall hguard) rfl
  unfold completeSave
  simp only
  cases hfact : purpose.sessionFact entity with
  | none => exact hsaved
  | some fact =>
      cases fact with
      | session user =>
          obtain ⟨rfl, hactive⟩ := hcall.2.versions.session hfact
          exact hsaved.recordSession hactive (reached_saveUser hcall hguard)
      | invalidated id =>
          obtain ⟨rfl, hleft⟩ := hcall.2.versions.invalidates hfact
          exact hsaved.recordInvalidated fun user hsession hid =>
            ahead_of_sessions h hcall hguard hleft hsession hid

end Saved

/-! ## The proof outline -/

theorem sessionInv_invoke (h : SessionInv w) {next : AccountStep}
    (hstarts : Starts platform w next) :
    SessionInv next.1 ∧ next.1.users = w.users ∧
      ∀ call, next.2 = some call → LoadedBefore platform next.1 call := by
  cases hstarts with
  | ended => exact ⟨h, rfl, fun _ hnext => absurd hnext (by simp)⟩
  | session row hrow hactive =>
      refine ⟨h.recordSession hactive ?_, rfl, fun _ hnext => absurd hnext (by simp)⟩
      exact AccountWorld.reached_of_get (Table.get_of_mem hrow)
  | called call hloaded hsound =>
      refine ⟨h, rfl, ?_⟩
      intro call' hnext
      obtain rfl := Option.some.inj hnext
      exact ⟨AccountWorld.reached_of_get hloaded, hsound⟩

theorem sessionInv_resume (h : SessionInv w) {call : PendingAccountCall} {input : AccountInput}
    (hcall : LoadedBefore platform w call) (hguard : SavesLoadedVersion w call input)
    {next : AccountStep} (hresumes : Resumes platform w call next) :
    SessionInv next.1 ∧ w.Precedes next.1 ∧
      ∀ call', next.2 = some call' → LoadedBefore platform next.1 call' := by
  cases hresumes with
  | goesOn hgoes =>
      cases hgoes with
      | ended => exact ⟨h, .refl w, fun _ hnext => absurd hnext (by simp)⟩
      | next call' hloaded hsound =>
          refine ⟨h, .refl w, ?_⟩
          intro call'' hnext
          obtain rfl := Option.some.inj hnext
          exact ⟨hloaded ▸ hcall.1, hsound⟩
  | removed user =>
      have hprecedes : w.Precedes { w with users := w.users.delete user.id } := by
        intro id row hrow
        rw [Option.mem_def, Table.get_delete] at hrow
        split at hrow
        · cases hrow
        · exact ⟨row, hrow, .refl _⟩
      exact ⟨h.later hprecedes rfl, hprecedes, fun _ hnext => absurd hnext (by simp)⟩
  | saved purpose loaded entity =>
      refine ⟨sessionInv_completeSave h hcall hguard, ?_, fun _ hnext => absurd hnext (by simp)⟩
      refine (precedes_saveUser hcall hguard).trans ?_
      exact .of_users (completeSave_users purpose entity)
  | session user =>
      exact ⟨h.recordSession hcall.2 hcall.1, .of_users rfl, fun _ hnext => absurd hnext (by simp)⟩

variable (platform)

/-- The proof outline of the calls. -/
theorem session_outline :
    Outline (accountCalls platform) accountEnv (fun _ _ _ => True) SavesLoadedVersion
      (fun _ _ => True) SessionInv (LoadedBefore platform) where
  invoke {w request input} h _ :=
    have hinvoke := sessionInv_invoke h (invoke_starts request input w)
    ⟨hinvoke.1, hinvoke.2.2⟩
  resume {w call input} h hcall hguard :=
    have hresume := sessionInv_resume h hcall hguard (resume_resumes call input w)
    ⟨hresume.1, hresume.2.2⟩
  environment h _ := h.later (.of_users rfl) rfl
  invoke_stable {w request input _} h _ hcall :=
    hcall.later (.of_users (sessionInv_invoke h (invoke_starts request input w)).2.1)
  resume_stable {w call input _} h hcall hguard hother :=
    hother.later (sessionInv_resume h hcall hguard (resume_resumes call input w)).2.1
  environment_stable _ _ hcall := hcall.later (.of_users rfl)

/-- Along a run whose saves find the versions that they loaded, rows only advance. -/
theorem precedes_run {c : AccountConfig} {es : List (AccountEvent Token)}
    (hc : Good SessionInv (LoadedBefore platform) c)
    (hes : Along (accountStep platform) (ResumeGuard SavesLoadedVersion) c es) :
    c.world.Precedes (run (accountStep platform) c es).world :=
  (session_outline platform).rel_run AccountWorld.Precedes.refl AccountWorld.Precedes.trans
    (fun {w request input} h _ =>
      .of_users (sessionInv_invoke h (invoke_starts request input w)).2.1)
    (fun {w call input} h hcall hguard =>
      (sessionInv_resume h hcall hguard (resume_resumes call input w)).2.1)
    (fun _ _ => .of_users rfl) hc hes

/-- The access token of an invalidated session is refused. -/
theorem refused_of_invalidated (h : SessionInv w) {user : UserEntity}
    (hinvalidated : w.Invalidated user) (authenticated : AuthenticatedUser) :
    validateJwtPayload w.entities (accessPayload user) ≠ .ok authenticated := by
  unfold validateJwtPayload findOneOrFail accessPayload
  simp only [find_entities]
  cases hrow : w.users.get user.id with
  | none => simp
  | some row =>
      have hlt := h.invalidated user hinvalidated row hrow
      have hne : some row.sessionVersion ≠ some user.sessionVersion :=
        fun heq => Nat.ne_of_gt hlt (Option.some.inj heq)
      simp [hne]

end Invariant

/-! ## Invalidation is permanent -/

/-- **Invalidation is permanent** in every run, over any users and with any calls
interleaved at their database steps, whose saves find the session version that their call
loaded. -/
theorem invalidation_permanent {Token : Type} (platform : AccountPlatform Token)
    (w : AccountWorld) (hw : w.sessions = []) (es : List (AccountEvent Token))
    (hes : Along (accountStep platform) (ResumeGuard SavesLoadedVersion) (Config.idle w) es) :
    InvalidatesForGood platform (Config.idle w) es := by
  have hstart : Good SessionInv (LoadedBefore platform) (Config.idle w : AccountConfig) := by
    refine good_idle ⟨?_, ?_⟩
    · intro user hmem
      rw [hw] at hmem
      cases hmem
    · intro user hinvalidated
      obtain ⟨earlier, hearlier, -⟩ := hinvalidated.exists_first
      rw [hw] at hearlier
      cases hearlier
  constructor
  · rintro es₁ es₂ es₃ rfl id row hrow row' hrow'
    obtain ⟨hes₁, hes₂⟩ := along_append.mp (along_append.mp hes).1
    have hgood := (session_outline platform).run hstart hes₁
    rw [run_append] at hrow'
    obtain ⟨before, hbefore, hlater⟩ := precedes_run platform hgood hes₂ id row' hrow'
    obtain rfl := Option.some.inj (hbefore.symm.trans hrow)
    exact hlater.le
  · rintro es₁ es₂ rfl user hinvalidated authenticated
    have hgood := (session_outline platform).run hstart (along_append.mp hes).1
    exact refused_of_invalidated hgood.1 hinvalidated authenticated

/-- A sign-in, and after it a change of the password, without anything in between. -/
def passwordChangeRun : List (AccountEvent (JwtPayload × ℤ × ℤ)) :=
  [.invoke 0 (.login "admin@example.com" "ChangeMe123!") {},
    .invoke 1 (.changePassword "u1" "ChangeMe123!" "Changed456!") {},
    .resume 1 {}]

theorem invalidation_permanent_password_change :
    (run (accountStep sampleAccountPlatform) (Config.idle sampleWorld)
        passwordChangeRun).world.sessions = [.session sampleRow.toUserEntity, .invalidated "u1"] ∧
      InvalidatesForGood sampleAccountPlatform (Config.idle sampleWorld) passwordChangeRun :=
  ⟨rfl, invalidation_permanent sampleAccountPlatform sampleWorld rfl passwordChangeRun
    (by decide +kernel)⟩

/-- The password is changed while `updatePreferences` is between its load and its save. -/
def stalePreferencesRun : List (AccountEvent (JwtPayload × ℤ × ℤ)) :=
  [.invoke 0 (.login "admin@example.com" "ChangeMe123!") {},
    .invoke 1 (.updatePreferences "u1" { criticalEventEmailsEnabled := some false }) {},
    .invoke 2 (.changePassword "u1" "ChangeMe123!" "Changed456!") {},
    .resume 2 {},
    .resume 1 {}]

/-- The late save writes the old session version back, and the session from before the
change of the password is accepted again. -/
theorem stalePreferences_revive :
    ¬ ∀ {Token : Type} (platform : AccountPlatform Token) (w : AccountWorld), w.sessions = [] →
      ∀ es : List (AccountEvent Token), InvalidatesForGood platform (Config.idle w) es := by
  intro hall
  have hrefused := (hall sampleAccountPlatform sampleWorld rfl stalePreferencesRun).refused
    stalePreferencesRun [] rfl sampleRow.toUserEntity
  refine hrefused ?_ ⟨"u1", "admin@example.com", .user, "", some 0⟩ rfl
  exact ⟨[.session sampleRow.toUserEntity], _, [], rfl, rfl, _, List.mem_singleton.mpr rfl, rfl⟩

end UsersService
