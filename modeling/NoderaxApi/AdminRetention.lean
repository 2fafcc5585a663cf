/-
# The last active administrator

`assertPlatformAdminRetention` counts the active platform administrators before `update` and
`delete` take one away, but the user is saved or removed at a later step, when the stored user
and the count may be others.

**`adminRetained`**: as long as every save and every removal finds the role and the active flag
that its call loaded, and the count that its check read, an active administrator remains.
-/
import NoderaxApi.UserAccountSteps

namespace UsersService

open AuthService KeyedTable Interleaving Runs

/-! ## The condition and the property -/

/-- Some user is an active platform administrator. -/
def AccountWorld.HasActiveAdmin (w : AccountWorld) : Prop :=
  ∃ user ∈ w.users.rows, UserRow.isActiveAdmin user = true

/-- The count that the check of a call reads, if it counts. -/
abbrev CountRead := Option ℕ

/-- The count that a call has read once it took a step. -/
def countRead (count : CountRead) (call : PendingAccountCall) (w : AccountWorld) : CountRead :=
  match call with
  | .countingAdmins .. | .countingAdminsToDelete .. => some (activeAdminCount w.users.rows)
  | _ => count

/-- The calls, each with the count that its check read. -/
def countingCalls {Token : Type} (platform : AccountPlatform Token) :
    Calls AccountWorld (AccountRequest Token) (PendingAccountCall × CountRead) AccountInput :=
  (accountCalls platform).remembering (fun _ _ _ => none) fun count call _ w =>
    countRead count call w

/-- The user is stored as it was loaded, as far as administrators go, and as many of them are
active as the check counted. -/
def AccountWorld.AsChecked (w : AccountWorld) (loaded : UserRow) (count : CountRead) : Prop :=
  (∀ user ∈ w.users.get loaded.id, user.role = loaded.role ∧ user.isActive = loaded.isActive) ∧
    ∀ n ∈ count, activeAdminCount w.users.rows = n

/-- A save or a removal finds what its call has checked. -/
def FindsAsChecked (w : AccountWorld) (call : PendingAccountCall × CountRead)
    (_ : AccountInput) : Prop :=
  match call.1 with
  | .saving _ loaded _ | .removing loaded => w.AsChecked loaded call.2
  | _ => True

instance FindsAsChecked.decidable (w : AccountWorld) (call : PendingAccountCall × CountRead)
    (input : AccountInput) : Decidable (FindsAsChecked w call input) := by
  unfold FindsAsChecked AccountWorld.AsChecked
  split <;> infer_instance

variable {Token : Type} {platform : AccountPlatform Token} {w : AccountWorld}

/-! ## What the check has found -/

/-- A change that takes an administrator away has counted more than one. -/
def Checked (count : CountRead) (user : UserRow) (nextRole : UserRole) (nextIsActive : Bool) :
    Prop :=
  leavesAdmins user nextRole nextIsActive = true → ∃ n ∈ count, 1 < n

/-- The check is behind the calls that are about to save or to remove. -/
def RetentionChecked (call : PendingAccountCall) (count : CountRead) : Prop :=
  match call with
  | .findingEmail dto _ user => Checked count user (dto.nextRole user) (dto.nextIsActive user)
  | .countingReferences user | .removing user => Checked count user .user false
  | .saving _ loaded entity => Checked count loaded entity.role entity.isActive
  | _ => True

theorem checked_of_not_leaves {count : CountRead} {user : UserRow} {nextRole : UserRole}
    {nextIsActive : Bool} (h : leavesAdmins user nextRole nextIsActive = false) :
    Checked count user nextRole nextIsActive := by
  intro hleaves
  rw [h] at hleaves
  cases hleaves

/-- **What `assertPlatformAdminRetention` lets through.** -/
theorem checked_of_assert {n : ℕ} {user : UserRow} {nextRole : UserRole} {nextIsActive : Bool}
    (h : assertPlatformAdminRetention n user nextRole nextIsActive = .ok ()) :
    Checked (some n) user nextRole nextIsActive := by
  intro hleaves
  unfold assertPlatformAdminRetention at h
  rw [hleaves, Bool.true_and] at h
  split at h
  · cases h
  · next hcount => exact ⟨n, rfl, Nat.lt_of_not_le fun hle => hcount (decide_eq_true hle)⟩

theorem thenSave_call {purpose : SavePurpose} {loaded : UserRow}
    {result : Except ThrownError UserRow} {call : PendingAccountCall}
    (hcall : (thenSave w purpose loaded result).2 = some call) :
    ∃ entity, result = .ok entity ∧ call = .saving purpose loaded entity := by
  cases result with
  | error e => cases hcall
  | ok entity => exact ⟨entity, rfl, (Option.some.inj hcall).symm⟩

theorem thenSaveIfChanged_call {purpose : SavePurpose} {loaded : UserRow}
    {result : Except ThrownError (Option UserRow)} {call : PendingAccountCall}
    (hcall : (thenSaveIfChanged w purpose loaded result).2 = some call) :
    ∃ entity, result = .ok (some entity) ∧ call = .saving purpose loaded entity := by
  cases result with
  | error e => cases hcall
  | ok changed =>
      cases changed with
      | none => cases hcall
      | some entity => exact ⟨entity, rfl, (Option.some.inj hcall).symm⟩

theorem withUser_call {userId : Uuid} {rest : UserRow → AccountStep} {call : PendingAccountCall}
    (hcall : (withUser w userId rest).2 = some call) : ∃ user, (rest user).2 = some call := by
  unfold withUser at hcall
  split at hcall
  · cases hcall
  · next user _ => exact ⟨user, hcall⟩

/-- A call that is not one of `update` or `delete` and is about to save. -/
def SavesAnother (call : PendingAccountCall) : Prop :=
  ∃ purpose loaded entity, call = .saving purpose loaded entity ∧
    ∀ isActive, purpose ≠ .updated isActive

theorem savesAnother_thenSave {purpose : SavePurpose} {userId : Uuid}
    {result : UserRow → Except ThrownError UserRow} {call : PendingAccountCall}
    (hpurpose : ∀ isActive, purpose ≠ .updated isActive)
    (hcall : (withUser w userId fun user => thenSave w purpose user (result user)).2 = some call) :
    SavesAnother call := by
  obtain ⟨user, hcall⟩ := withUser_call hcall
  obtain ⟨entity, -, rfl⟩ := thenSave_call hcall
  exact ⟨purpose, user, entity, rfl, hpurpose⟩

theorem savesAnother_thenSaveIfChanged {purpose : SavePurpose} {userId : Uuid}
    {result : UserRow → Except ThrownError (Option UserRow)} {call : PendingAccountCall}
    (hpurpose : ∀ isActive, purpose ≠ .updated isActive)
    (hcall : (withUser w userId fun user =>
      thenSaveIfChanged w purpose user (result user)).2 = some call) : SavesAnother call := by
  obtain ⟨user, hcall⟩ := withUser_call hcall
  obtain ⟨entity, -, rfl⟩ := thenSaveIfChanged_call hcall
  exact ⟨purpose, user, entity, rfl, hpurpose⟩

/-- Such a save takes no administrator away. -/
theorem SavesAnother.checked {call : PendingAccountCall} (h : SavesAnother call)
    (hsound : Sound platform call) (count : CountRead) : RetentionChecked call count := by
  obtain ⟨purpose, loaded, entity, rfl, hpurpose⟩ := h
  have hadmins := hsound.admins
  cases purpose with
  | updated isActive => exact absurd rfl (hpurpose isActive)
  | _ => exact checked_of_not_leaves hadmins

theorem checked_saveUpdate {dto : UpdateUserDto} {email : Option String} {user : UserRow}
    {count : CountRead} {call : PendingAccountCall}
    (h : Checked count user (dto.nextRole user) (dto.nextIsActive user))
    (hcall : (saveUpdate w dto email user).2 = some call) : RetentionChecked call count := by
  obtain ⟨entity, hentity, rfl⟩ := thenSave_call hcall
  simp only [updatedUser, bind_eq_ok] at hentity
  obtain ⟨name, -, hentity⟩ := hentity
  split at hentity
  · cases hentity
  · obtain rfl := Except.ok.inj hentity
    exact h

theorem checked_updateRetained {actor : AuthenticatedUser} {dto : UpdateUserDto} {user : UserRow}
    {count : CountRead} {call : PendingAccountCall}
    (h : Checked count user (dto.nextRole user) (dto.nextIsActive user))
    (hcall : (updateRetained platform w actor dto user).2 = some call) :
    RetentionChecked call count := by
  unfold updateRetained at hcall
  split at hcall
  · cases hcall
  · split at hcall
    · exact checked_saveUpdate h hcall
    · cases hcall
    · obtain rfl := Option.some.inj hcall
      exact h

theorem checked_deleteRetained {actor : AuthenticatedUser} {user : UserRow} {count : CountRead}
    {call : PendingAccountCall} (h : Checked count user .user false)
    (hcall : (deleteRetained w actor user).2 = some call) : RetentionChecked call count := by
  unfold deleteRetained at hcall
  split at hcall
  · cases hcall
  · obtain rfl := Option.some.inj hcall
    exact h

/-- A first step leaves a call that takes no administrator away, or has yet to count. -/
theorem checked_invoke {request : AccountRequest Token} {input : AccountInput}
    {call : PendingAccountCall}
    (hcall : (invokeAccount platform request input w).2 = some call) :
    RetentionChecked call none := by
  have hsound : Sound platform call := (invoke_starts request input w).sound hcall
  cases request with
  | update actor userId dto =>
      obtain ⟨user, hcall⟩ := withUser_call hcall
      split at hcall
      · obtain rfl := Option.some.inj hcall
        exact trivial
      · next hleaves =>
          exact checked_updateRetained (checked_of_not_leaves (eq_false_of_ne_true hleaves)) hcall
  | delete actor userId =>
      obtain ⟨user, hcall⟩ := withUser_call hcall
      split at hcall
      · obtain rfl := Option.some.inj hcall
        exact trivial
      · next hleaves =>
          exact checked_deleteRetained (checked_of_not_leaves (eq_false_of_ne_true hleaves)) hcall
  | updatePreferences userId dto =>
      exact (savesAnother_thenSaveIfChanged (by simp) hcall).checked hsound none
  | disableMfa userId token =>
      exact (savesAnother_thenSaveIfChanged (by simp) hcall).checked hsound none
  | login email password => cases hcall
  | verifyMfaChallenge challengeToken token => cases hcall
  | verifyMfaRecovery challengeToken recoveryCode =>
      simp only [invokeAccount] at hcall
      split at hcall
      · cases hcall
      · obtain ⟨user, hcall⟩ := withUser_call hcall
        obtain rfl := Option.some.inj hcall
        exact SavesAnother.checked ⟨_, _, _, rfl, by simp⟩ hsound none
  | handleOidcCallback email =>
      simp only [invokeAccount] at hcall
      split at hcall
      · cases hcall
      · obtain rfl := Option.some.inj hcall
        exact trivial
  | changePassword | acceptInvitation | resetPassword | initiateMfaSetup | confirmMfaSetup
  | regenerateMfaRecoveryCodes =>
      exact (savesAnother_thenSave (by simp) hcall).checked hsound none

/-- **A later step lets a change through that the count it has read allows.** -/
theorem checked_resume {call next : PendingAccountCall} {count : CountRead} {input : AccountInput}
    (h : RetentionChecked call count)
    (hnext : (resumeAccount platform call input w).2 = some next) :
    RetentionChecked next (countRead count call w) := by
  cases call with
  | countingAdmins actor dto user =>
      simp only [resumeAccount] at hnext
      split at hnext
      · cases hnext
      · next hassert => exact checked_updateRetained (checked_of_assert hassert) hnext
  | findingEmail dto email user =>
      simp only [resumeAccount] at hnext
      split at hnext
      · cases hnext
      · exact checked_saveUpdate h hnext
  | countingAdminsToDelete actor user =>
      simp only [resumeAccount] at hnext
      split at hnext
      · cases hnext
      · next hassert => exact checked_deleteRetained (checked_of_assert hassert) hnext
  | countingReferences user =>
      simp only [resumeAccount] at hnext
      split at hnext
      · cases hnext
      · obtain rfl := Option.some.inj hnext
        exact h
  | removing user => cases hnext
  | saving purpose loaded entity => cases hnext
  | linkingIdentity user =>
      simp only [resumeAccount] at hnext
      split at hnext
      · cases hnext
      · cases hnext

/-! ## What a write leaves -/

/-- Where the stored user is no administrator, a change of it leaves the one there is. -/
theorem exists_other_of_not_admin {userId : Uuid} (hw : w.HasActiveAdmin)
    (hnot : ∀ user ∈ w.users.get userId, UserRow.isActiveAdmin user = false) :
    ∃ id, id ≠ userId ∧ ∃ other ∈ w.users.get id, UserRow.isActiveAdmin other = true := by
  obtain ⟨id, other, hother, hadmin⟩ := Table.exists_row_iff.mp hw
  refine ⟨id, ?_, other, hother, hadmin⟩
  rintro rfl
  rw [hnot other hother] at hadmin
  cases hadmin

/-- **What the check is worth at the write.**  If everything is as it was checked, the change
leaves its user an active administrator, or another one is there. -/
theorem stays_or_other {loaded : UserRow} {count : CountRead} {nextRole : UserRole}
    {nextIsActive : Bool} (hw : w.HasActiveAdmin) (hsame : w.AsChecked loaded count)
    (hchecked : Checked count loaded nextRole nextIsActive) :
    ((w.users.get loaded.id).isSome = true ∧ nextRole = .platformAdmin ∧ nextIsActive = true) ∨
      ∃ id, id ≠ loaded.id ∧ ∃ other ∈ w.users.get id, UserRow.isActiveAdmin other = true := by
  cases hget : w.users.get loaded.id with
  | none =>
      refine .inr (exists_other_of_not_admin hw fun user huser => ?_)
      rw [hget] at huser
      cases huser
  | some user =>
      obtain ⟨hrole, hactive⟩ := hsame.1 user hget
      cases hadmin : UserRow.isActiveAdmin user with
      | false =>
          refine .inr (exists_other_of_not_admin hw fun user' huser => ?_)
          rw [hget] at huser
          exact Option.some.inj huser ▸ hadmin
      | true =>
          have hloaded : UserRow.isActiveAdmin loaded = true := by
            rwa [UserRow.isActiveAdmin, ← hrole, ← hactive]
          by_cases hnext : nextRole = .platformAdmin ∧ nextIsActive = true
          · exact .inl ⟨rfl, hnext⟩
          · -- the check has counted, and the count is what it was
            have hleaves : leavesAdmins loaded nextRole nextIsActive = true := by
              simpa [leavesAdmins, hloaded, imp_iff_not_or] using hnext
            obtain ⟨n, hn, hmany⟩ := hchecked hleaves
            have hcount : 1 < List.countP UserRow.isActiveAdmin w.users.rows := by
              rw [← activeAdminCount, hsame.2 n hn]
              exact hmany
            exact .inr ((Table.one_lt_countP_iff hget hadmin).mp hcount)

/-- A save of such an entity leaves an active administrator. -/
theorem hasActiveAdmin_saveUser {columns : UserColumns} {loaded entity : UserRow}
    {count : CountRead} (hw : w.HasActiveAdmin) (hid : entity.id = loaded.id)
    (hsame : w.AsChecked loaded count)
    (hchecked : Checked count loaded entity.role entity.isActive) :
    (w.saveUser columns entity).HasActiveAdmin := by
  rw [AccountWorld.HasActiveAdmin, Table.exists_row_iff]
  rcases stays_or_other hw hsame hchecked with
    ⟨hstored, hrole, hactive⟩ | ⟨id, hne, other, hother, hadmin⟩
  · obtain ⟨user, huser⟩ := Option.isSome_iff_exists.mp hstored
    refine ⟨entity.id, entity.savedOver columns user, ?_, ?_⟩
    · rw [Option.mem_def, get_saveUser, if_pos rfl, hid, huser]
      rfl
    · exact Bool.and_eq_true_iff.mpr ⟨decide_eq_true hrole, hactive⟩
  · refine ⟨id, other, ?_, hadmin⟩
    rw [Option.mem_def, get_saveUser, if_neg (hid ▸ hne)]
    exact hother

/-- So does the removal of a user. -/
theorem hasActiveAdmin_delete {loaded : UserRow} {count : CountRead} (hw : w.HasActiveAdmin)
    (hsame : w.AsChecked loaded count) (hchecked : Checked count loaded .user false) :
    AccountWorld.HasActiveAdmin { w with users := w.users.delete loaded.id } := by
  rw [AccountWorld.HasActiveAdmin, Table.exists_row_iff]
  rcases stays_or_other hw hsame hchecked with ⟨-, hrole, -⟩ | ⟨id, hne, other, hother, hadmin⟩
  · cases hrole
  · refine ⟨id, other, ?_, hadmin⟩
    rw [Option.mem_def, Table.get_delete, if_neg hne]
    exact hother

theorem AccountWorld.HasActiveAdmin.of_users {w' : AccountWorld} (hw : w.HasActiveAdmin)
    (h : w'.users = w.users) : w'.HasActiveAdmin := by
  rwa [AccountWorld.HasActiveAdmin, h]

/-! ## An administrator remains -/

/-- A pending call is sound, and the check is behind it. -/
def PendingChecked (platform : AccountPlatform Token) (_ : AccountWorld)
    (call : PendingAccountCall × CountRead) : Prop :=
  Sound platform call.1 ∧ RetentionChecked call.1 call.2

theorem hasActiveAdmin_resume {call : PendingAccountCall} {count : CountRead}
    {input : AccountInput} (hw : w.HasActiveAdmin) (hcall : PendingChecked platform w (call, count))
    (hsame : FindsAsChecked w (call, count) input) :
    (resumeAccount platform call input w).1.HasActiveAdmin := by
  cases call with
  | saving purpose loaded entity =>
      show (completeSave platform w purpose entity).HasActiveAdmin
      refine AccountWorld.HasActiveAdmin.of_users ?_ (completeSave_users purpose entity)
      exact hasActiveAdmin_saveUser hw hcall.1.id hsame hcall.2
  | removing user => exact hasActiveAdmin_delete hw hsame hcall.2
  | _ =>
      exact AccountWorld.HasActiveAdmin.of_users hw
        ((resume_resumes _ input w).users (by simp) (by simp))

theorem retention_outline (platform : AccountPlatform Token) :
    Outline (countingCalls platform) accountEnv (fun _ _ _ => True) FindsAsChecked
      (fun _ _ => True) AccountWorld.HasActiveAdmin (PendingChecked platform) := by
  refine outline_remembering ?_ ?_ (fun hw _ => hw) (fun _ _ hcall => hcall)
    (fun _ _ _ hcall => hcall) fun _ _ hcall => hcall
  · intro w request input hw _
    have hstarts : Starts platform w (invokeAccount platform request input w) :=
      invoke_starts request input w
    exact ⟨AccountWorld.HasActiveAdmin.of_users hw hstarts.users,
      fun call hcall => ⟨hstarts.sound hcall, checked_invoke hcall⟩⟩
  · intro w call count input hw hcall hsame
    refine ⟨hasActiveAdmin_resume hw hcall hsame, fun next hnext => ?_⟩
    exact ⟨(resume_resumes call input w).sound hnext, checked_resume hcall.2 hnext⟩

/-- **The last active administrator stays.**  From any users with an active administrator, along
every run of any calls interleaved at their database steps in which each save and each removal
finds the role and the active flag that its call loaded, and the count that its check read,
there is an active administrator at every point. -/
theorem adminRetained {Token : Type} (platform : AccountPlatform Token) (w : AccountWorld)
    (hw : w.HasActiveAdmin) (es : List (AccountEvent Token))
    (hes : Along (step (countingCalls platform) accountEnv) (ResumeGuard FindsAsChecked)
      (Config.idle w) es) :
    ∀ es₁ es₂, es = es₁ ++ es₂ →
      (run (accountStep platform) (Config.idle w) es₁).world.HasActiveAdmin := by
  rintro es₁ es₂ rfl
  exact (retention_outline platform).run_remembering hw (along_append.mp hes).1

/-- An administrator. -/
def sampleAdmin (id email : String) : UserRow where
  id := id
  email := email
  role := .platformAdmin

/-- Two administrators. -/
def twoAdmins : AccountWorld where
  users := ⟨[sampleAdmin "a1" "ada@example.com", sampleAdmin "a2" "bob@example.com"], by decide⟩

/-- The administrator as an actor. -/
def sampleActor (user : UserRow) : AuthenticatedUser :=
  ⟨user.id, user.email, user.role, user.name, some user.sessionVersion⟩

/-- One administrator deactivates the other. -/
def deactivationRun : List (AccountEvent (JwtPayload × ℤ × ℤ)) :=
  [.invoke 0 (.update (sampleActor (sampleAdmin "a1" "ada@example.com")) "a2"
      { isActive := some false }) {},
    .resume 0 {},
    .resume 0 {}]

theorem adminRetained_deactivation :
    (run (accountStep sampleAccountPlatform) (Config.idle twoAdmins)
      deactivationRun).world.HasActiveAdmin := by
  have hadmin : twoAdmins.HasActiveAdmin := ⟨_, List.mem_cons_self, rfl⟩
  exact adminRetained sampleAccountPlatform twoAdmins hadmin deactivationRun (by decide +kernel)
    deactivationRun [] (List.append_nil _).symm

/-- Each of the two deactivates the other, both between their counts and their saves. -/
def mutualDeactivationRun : List (AccountEvent (JwtPayload × ℤ × ℤ)) :=
  [.invoke 0 (.update (sampleActor (sampleAdmin "a1" "ada@example.com")) "a2"
      { isActive := some false }) {},
    .invoke 1 (.update (sampleActor (sampleAdmin "a2" "bob@example.com")) "a1"
      { isActive := some false }) {},
    .resume 0 {},
    .resume 1 {},
    .resume 0 {},
    .resume 1 {}]

/-- Both counts find two administrators, and none is left. -/
theorem mutualDeactivation_locksOut :
    ¬ ∀ {Token : Type} (platform : AccountPlatform Token) (w : AccountWorld), w.HasActiveAdmin →
      ∀ es : List (AccountEvent Token),
        (run (accountStep platform) (Config.idle w) es).world.HasActiveAdmin := by
  intro hall
  obtain ⟨user, hmem, hadmin⟩ := hall sampleAccountPlatform twoAdmins
    ⟨_, List.mem_cons_self, rfl⟩ mutualDeactivationRun
  have hrows : (run (accountStep sampleAccountPlatform) (Config.idle twoAdmins)
      mutualDeactivationRun).world.users.rows.any UserRow.isActiveAdmin = false := rfl
  rw [List.any_eq_false] at hrows
  exact hrows user hmem hadmin

end UsersService
