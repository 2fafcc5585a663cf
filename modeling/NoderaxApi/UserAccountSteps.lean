/-
# What a step of a user operation can do

The steps of `UserAccountCalls.lean`, summed up.  A first step changes no user: it hands out
a session or leaves a call behind whose row is in the table.  A later step keeps the loaded
row, and what a save was computed from is recorded in `Sound`.
-/
import NoderaxApi.SecondFactor
import NoderaxApi.UserAccountCalls

namespace UsersService

open AuthService KeyedTable Interleaving

variable {Token : Type} {platform : AccountPlatform Token}

/-! ## The saved entity -/

/-- What a save does to the session version and the active flag that were loaded. -/
def SavePurpose.Versions (purpose : SavePurpose) (loaded entity : UserRow) : Prop :=
  match purpose with
  | .updated isActive =>
      entity.isActive = isActive ∧
        (entity.sessionVersion = loaded.sessionVersion + 1 ∨
          (entity.sessionVersion = loaded.sessionVersion ∧ entity.isActive = loaded.isActive))
  | .preferences | .mfaSetup =>
      entity.sessionVersion = loaded.sessionVersion ∧ entity.isActive = loaded.isActive
  | .recovery _ =>
      entity.sessionVersion = loaded.sessionVersion ∧ entity.isActive = loaded.isActive ∧
        loaded.isActive = true
  | .passwordChange | .invitation | .passwordReset | .mfaConfirmation _ | .regeneration _
  | .mfaRemoval => entity.sessionVersion = loaded.sessionVersion + 1

/-- What a save does to the recovery codes that were loaded. -/
def SavePurpose.Codes (platform : AccountPlatform Token) (purpose : SavePurpose)
    (loaded entity : UserRow) : Prop :=
  match purpose with
  | .updated _ | .preferences | .passwordChange | .invitation | .passwordReset => True
  | .mfaSetup => entity.mfaRecoveryCodes = loaded.mfaRecoveryCodes
  | .mfaConfirmation recoveryCodes | .regeneration recoveryCodes =>
      ∃ ivs encrypted, encryptRecoveryCodes platform.toAuthPlatform ivs recoveryCodes
        = .ok encrypted ∧ entity.mfaRecoveryCodes = some encrypted
  | .recovery code =>
      ∃ codes ivs encrypted, ∃ i : ℕ, ∃ entry,
        decryptRecoveryCodes platform.toAuthPlatform loaded.mfaRecoveryCodes = .ok codes ∧
        codes[i]? = some entry ∧ normalizeRecoveryCode entry = code ∧
        encryptRecoveryCodes platform.toAuthPlatform ivs (codes.eraseIdx i) = .ok encrypted ∧
        entity.mfaRecoveryCodes = some encrypted
  | .mfaRemoval => entity.mfaRecoveryCodes = none

/-- What a save does to the administrators: only that of `update` takes one away. -/
def SavePurpose.Admins (purpose : SavePurpose) (loaded entity : UserRow) : Prop :=
  match purpose with
  | .updated _ => True
  | _ => leavesAdmins loaded entity.role entity.isActive = false

/-- How a save was computed from the row that the call loaded. -/
structure SavePurpose.Saves (platform : AccountPlatform Token) (purpose : SavePurpose)
    (loaded entity : UserRow) : Prop where
  id : entity.id = loaded.id
  versions : purpose.Versions loaded entity
  codes : purpose.Codes platform loaded entity
  admins : purpose.Admins loaded entity

/-- What is known of a pending call, whatever happens to the table. -/
def Sound (platform : AccountPlatform Token) : PendingAccountCall → Prop
  | .saving purpose loaded entity => purpose.Saves platform loaded entity
  | .linkingIdentity user => user.isActive = true
  | _ => True

/-! ## The operations, one by one -/

theorem leavesAdmins_same (user : UserRow) :
    leavesAdmins user user.role user.isActive = false := by
  unfold leavesAdmins UserRow.isActiveAdmin
  exact Bool.and_not_self _

theorem leavesAdmins_activated (user : UserRow) : leavesAdmins user user.role true = false := by
  unfold leavesAdmins UserRow.isActiveAdmin
  cases decide (user.role = .platformAdmin) with
  | true => simp
  | false => rfl

theorem saves_updatedUser {dto : UpdateUserDto} {email : Option String} {user entity : UserRow}
    {now : ℤ} (h : updatedUser dto email user now = .ok entity) :
    (SavePurpose.updated (dto.nextIsActive user)).Saves platform user entity := by
  simp only [updatedUser, bind_eq_ok] at h
  obtain ⟨name, -, h⟩ := h
  split at h
  · cases h
  · obtain rfl := Except.ok.inj h
    refine ⟨rfl, ⟨rfl, ?_⟩, trivial, trivial⟩
    simp only
    split
    · exact .inl rfl
    · next hsame =>
        simp only [ne_eq, decide_not, Bool.or_eq_true, Bool.not_eq_true',
          decide_eq_false_iff_not, not_or, not_not] at hsame
        exact .inr ⟨rfl, hsame.2⟩

theorem saves_updatedPreferences {dto : UpdateUserPreferencesDto} {user entity : UserRow}
    (h : updatedPreferences platform dto user = .ok (some entity)) :
    SavePurpose.preferences.Saves platform user entity := by
  simp only [updatedPreferences, bind_eq_ok] at h
  obtain ⟨timezone, -, h⟩ := h
  have h' := Except.ok.inj h
  split at h'
  · cases h'
  · obtain rfl := Option.some.inj h'
    exact ⟨rfl, ⟨rfl, rfl⟩, trivial, leavesAdmins_same user⟩

theorem saves_passwordChanged {salt currentPassword newPassword : String} {user entity : UserRow}
    (h : passwordChanged platform salt currentPassword newPassword user = .ok entity) :
    SavePurpose.passwordChange.Saves platform user entity := by
  unfold passwordChanged at h
  split at h
  · cases h
  · split at h
    · cases h
    · obtain rfl := Except.ok.inj h
      exact ⟨rfl, rfl, trivial, leavesAdmins_same user⟩

theorem saves_invitationAccepted {salt password : String} {user entity : UserRow} {now : ℤ}
    (h : invitationAccepted platform salt password user now = .ok entity) :
    SavePurpose.invitation.Saves platform user entity := by
  unfold invitationAccepted at h
  split at h
  · cases h
  · obtain rfl := Except.ok.inj h
    exact ⟨rfl, rfl, trivial, leavesAdmins_activated user⟩

theorem saves_passwordReset {salt password : String} {user entity : UserRow}
    (h : passwordReset platform salt password user = .ok entity) :
    SavePurpose.passwordReset.Saves platform user entity := by
  unfold passwordReset at h
  split at h
  · cases h
  · obtain rfl := Except.ok.inj h
    exact ⟨rfl, rfl, trivial, leavesAdmins_same user⟩

theorem saves_mfaInitiated {iv secret : String} {user entity : UserRow}
    (h : mfaInitiated platform iv secret user = .ok entity) :
    SavePurpose.mfaSetup.Saves platform user entity := by
  simp only [mfaInitiated, bind_eq_ok] at h
  obtain ⟨encrypted, -, h⟩ := h
  obtain rfl := Except.ok.inj h
  exact ⟨rfl, ⟨rfl, rfl⟩, rfl, leavesAdmins_same user⟩

theorem saves_mfaConfirmed {token secretIv : String} {recoveryCodes : List String}
    {ivs : ℕ → String} {user entity : UserRow} {now : ℤ}
    (h : mfaConfirmed platform token recoveryCodes secretIv ivs user now = .ok entity) :
    (SavePurpose.mfaConfirmation recoveryCodes).Saves platform user entity := by
  unfold mfaConfirmed at h
  split at h
  · cases h
  · obtain ⟨pendingSecret, -, h⟩ := bind_eq_ok.mp h
    obtain ⟨accepted, -, h⟩ := bind_eq_ok.mp h
    split at h
    · cases h
    · obtain ⟨encrypted, -, h⟩ := bind_eq_ok.mp h
      obtain ⟨encryptedCodes, hencrypted, h⟩ := bind_eq_ok.mp h
      obtain rfl := Except.ok.inj h
      exact ⟨rfl, rfl, ⟨ivs, encryptedCodes, hencrypted, rfl⟩, leavesAdmins_same user⟩

theorem saves_recoveryCodesRegenerated {token : String} {recoveryCodes : List String}
    {ivs : ℕ → String} {user entity : UserRow} {now : ℤ}
    (h : recoveryCodesRegenerated platform token recoveryCodes ivs user now = .ok entity) :
    (SavePurpose.regeneration recoveryCodes).Saves platform user entity := by
  unfold recoveryCodesRegenerated at h
  split at h
  · cases h
  · obtain ⟨-, -, h⟩ := bind_eq_ok.mp h
    obtain ⟨encryptedCodes, hencrypted, h⟩ := bind_eq_ok.mp h
    obtain rfl := Except.ok.inj h
    exact ⟨rfl, rfl, ⟨ivs, encryptedCodes, hencrypted, rfl⟩, leavesAdmins_same user⟩

theorem saves_mfaDisabled {token : String} {user entity : UserRow} {now : ℤ}
    (h : mfaDisabled platform token user now = .ok (some entity)) :
    SavePurpose.mfaRemoval.Saves platform user entity := by
  unfold mfaDisabled at h
  split at h
  · cases Except.ok.inj h
  · obtain ⟨-, -, h⟩ := bind_eq_ok.mp h
    obtain rfl := Option.some.inj (Except.ok.inj h)
    exact ⟨rfl, rfl, rfl, leavesAdmins_same user⟩

/-! ## Signing in -/

/-- The rows that signing in reads are those of the table. -/
theorem find_entities (w : AccountWorld) (id : Uuid) :
    KeyedTable.find UserEntity.id w.entities id
      = (w.users.get id).map UserRow.toUserEntity := by
  rw [AccountWorld.entities, KeyedTable.find, List.find?_map]
  rfl

/-- An MFA challenge is accepted for an active user. -/
theorem verifyMfaChallengeToken_active {users : List UserEntity} {token : Token} {now : ℤ}
    {user : UserEntity}
    (h : verifyMfaChallengeToken platform.toAuthPlatform users token now = .ok user) :
    user.isActive = true := by
  obtain ⟨payload, -, hrest⟩ := bind_eq_ok.mp (verifying_eq_ok.mp h)
  dsimp only at hrest
  split at hrest
  · cases hrest
  obtain ⟨loaded, -, hrest⟩ := bind_eq_ok.mp hrest
  split at hrest
  · cases hrest
  · next hcheck =>
      cases hrest
      simp only [Bool.or_eq_true, Bool.not_eq_true', not_or, Bool.not_eq_false] at hcheck
      exact hcheck.1

/-- `login` answers an active user only. -/
theorem login_active {users : List UserEntity} {email password : String} {now : ℤ}
    {response : LoginResponse Token}
    (h : AuthService.login platform.toAuthPlatform users email password now = .ok response) :
    ∃ user, findByEmailWithPassword platform.toAuthPlatform users email = some user ∧
      user.isActive = true := by
  unfold AuthService.login at h
  cases hfind : findByEmailWithPassword platform.toAuthPlatform users email with
  | none =>
      simp only [hfind] at h
      cases h
  | some found =>
      simp only [hfind] at h
      refine ⟨found, rfl, ?_⟩
      cases hactive : found.isActive with
      | true => rfl
      | false =>
          simp only [hactive, Bool.not_false, if_true] at h
          split at h
          · cases h
          · cases h

theorem loginSession_mem {users : List UserEntity} {email password : String} {now : ℤ}
    {user : UserEntity} (h : loginSession platform users email password now = some user) :
    user ∈ users ∧ user.isActive = true := by
  unfold loginSession at h
  split at h
  · cases h
  · next response hlogin =>
      obtain ⟨found, hfind, hactive⟩ := login_active hlogin
      split at h
      · cases h
      · rw [hfind] at h
        obtain rfl := Option.some.inj h
        exact ⟨List.mem_of_find?_eq_some hfind, hactive⟩

theorem challengeSession_mem {users : List UserEntity} {challengeToken : Token} {token : String}
    {now : ℤ} {user : UserEntity}
    (h : challengeSession platform users challengeToken token now = some user) :
    user ∈ users ∧ user.isActive = true := by
  unfold challengeSession at h
  split at h
  · cases h
  · cases hverify : verifyMfaChallengeToken platform.toAuthPlatform users challengeToken now with
    | error e =>
        rw [hverify] at h
        cases h
    | ok found =>
        rw [hverify] at h
        obtain rfl := Option.some.inj h
        exact ⟨KeyedTable.mem_of_find (verifyMfaChallengeToken_find hverify),
          verifyMfaChallengeToken_active hverify⟩

/-- What `verifyMfaRecovery` makes of the row it loads. -/
theorem verifyMfaRecovery_row {w : AccountWorld} {challengeToken : Token} {recoveryCode : String}
    {ivs : ℕ → String} {entity : UserEntity}
    (h : AuthService.verifyMfaRecovery platform.toAuthPlatform w.entities challengeToken
      recoveryCode ivs w.clock = .ok entity) :
    ∃ row, w.users.get entity.id = some row ∧
      (SavePurpose.recovery (normalizeRecoveryCode recoveryCode)).Saves platform row
        { row with mfaRecoveryCodes := entity.mfaRecoveryCodes } := by
  obtain ⟨user, huser, hrest⟩ := bind_eq_ok.mp h
  obtain ⟨codes, hcodes, hrest⟩ := bind_eq_ok.mp hrest
  have hactive := verifyMfaChallengeToken_active huser
  have hfind := verifyMfaChallengeToken_find huser
  rw [find_entities] at hfind
  obtain ⟨row, hrow, rfl⟩ := Option.map_eq_some_iff.mp hfind
  split at hrest
  · cases hrest
  · next i hindex =>
      obtain ⟨encrypted, hencrypted, hreturn⟩ := bind_eq_ok.mp hrest
      cases hreturn
      obtain ⟨hlength, hmatch, -⟩ := List.findIdx?_eq_some_iff_getElem.mp hindex
      refine ⟨row, hrow, rfl, ⟨rfl, rfl, hactive⟩, ⟨codes, ivs, encrypted, i, codes[i], hcodes,
        List.getElem?_eq_getElem hlength, of_decide_eq_true hmatch, hencrypted, rfl⟩,
        leavesAdmins_same row⟩

/-! ## First steps -/

/-- What the first step of a call can do. -/
inductive Starts (platform : AccountPlatform Token) (w : AccountWorld) : AccountStep → Prop
  | ended : Starts platform w (w, none)
  | session (row : UserRow) (hrow : row ∈ w.users.rows) (hactive : row.isActive = true) :
      Starts platform w (w.recordSession (.session row.toUserEntity), none)
  | called (call : PendingAccountCall) (hloaded : w.users.get call.loaded.id = some call.loaded)
      (hsound : Sound platform call) : Starts platform w (w, some call)

variable {w : AccountWorld}

theorem starts_withUser {userId : Uuid} {rest : UserRow → AccountStep}
    (hrest : ∀ user, w.users.get user.id = some user → Starts platform w (rest user)) :
    Starts platform w (withUser w userId rest) := by
  unfold withUser
  split
  · exact .ended
  · next user huser =>
      have hkey : user.key = userId := Table.key_of_get huser
      rw [← hkey] at huser
      exact hrest user huser

/-- A step that may be the first of a call or a later one: it changes nothing and goes on
with the row that was loaded. -/
inductive GoesOn (platform : AccountPlatform Token) (w : AccountWorld) (loaded : UserRow) :
    AccountStep → Prop
  | ended : GoesOn platform w loaded (w, none)
  | next (call : PendingAccountCall) (hloaded : call.loaded = loaded)
      (hsound : Sound platform call) : GoesOn platform w loaded (w, some call)

theorem GoesOn.starts {loaded : UserRow} {next : AccountStep}
    (h : GoesOn platform w loaded next) (hloaded : w.users.get loaded.id = some loaded) :
    Starts platform w next := by
  cases h with
  | ended => exact .ended
  | next call hcall hsound => exact .called call (hcall ▸ hloaded) hsound

theorem goesOn_thenSave {purpose : SavePurpose} {loaded : UserRow}
    {result : Except ThrownError UserRow}
    (h : ∀ entity, result = .ok entity → purpose.Saves platform loaded entity) :
    GoesOn platform w loaded (thenSave w purpose loaded result) := by
  cases result with
  | error e => exact .ended
  | ok entity => exact .next _ rfl (h entity rfl)

theorem goesOn_thenSaveIfChanged {purpose : SavePurpose} {loaded : UserRow}
    {result : Except ThrownError (Option UserRow)}
    (h : ∀ entity, result = .ok (some entity) → purpose.Saves platform loaded entity) :
    GoesOn platform w loaded (thenSaveIfChanged w purpose loaded result) := by
  cases result with
  | error e => exact .ended
  | ok changed =>
      cases changed with
      | none => exact .ended
      | some entity => exact .next _ rfl (h entity rfl)

theorem goesOn_saveUpdate (dto : UpdateUserDto) (email : Option String) (user : UserRow) :
    GoesOn platform w user (saveUpdate w dto email user) :=
  goesOn_thenSave fun _ h => saves_updatedUser h

theorem goesOn_updateRetained (actor : AuthenticatedUser) (dto : UpdateUserDto) (user : UserRow) :
    GoesOn platform w user (updateRetained platform w actor dto user) := by
  unfold updateRetained
  split
  · exact .ended
  · split
    · exact goesOn_saveUpdate dto none user
    · exact .ended
    · exact .next _ rfl trivial

theorem goesOn_deleteRetained (actor : AuthenticatedUser) (user : UserRow) :
    GoesOn platform w user (deleteRetained w actor user) := by
  unfold deleteRetained
  split
  · exact .ended
  · exact .next _ rfl trivial

/-- **The first step of a call.** -/
theorem invoke_starts (request : AccountRequest Token) (input : AccountInput) (w : AccountWorld) :
    Starts platform w (invokeAccount platform request input w) := by
  have hhandOut : ∀ session : Option UserEntity,
      (∀ user, session = some user → user ∈ w.entities ∧ user.isActive = true) →
      Starts platform w (w.handOut session, none) := by
    intro session hsession
    cases session with
    | none => exact .ended
    | some user =>
        obtain ⟨hmem, hactive⟩ := hsession user rfl
        obtain ⟨row, hrow, rfl⟩ := List.mem_map.mp hmem
        exact .session row hrow hactive
  cases request with
  | update actor userId dto =>
      refine starts_withUser fun user huser => ?_
      split
      · exact .called _ huser trivial
      · exact (goesOn_updateRetained actor dto user).starts huser
  | delete actor userId =>
      refine starts_withUser fun user huser => ?_
      split
      · exact .called _ huser trivial
      · exact (goesOn_deleteRetained actor user).starts huser
  | updatePreferences userId dto =>
      refine starts_withUser fun user huser => GoesOn.starts ?_ huser
      exact goesOn_thenSaveIfChanged fun _ h => saves_updatedPreferences h
  | changePassword userId currentPassword newPassword =>
      refine starts_withUser fun user huser => GoesOn.starts ?_ huser
      exact goesOn_thenSave fun _ h => saves_passwordChanged h
  | acceptInvitation userId password =>
      refine starts_withUser fun user huser => GoesOn.starts ?_ huser
      exact goesOn_thenSave fun _ h => saves_invitationAccepted h
  | resetPassword userId password =>
      refine starts_withUser fun user huser => GoesOn.starts ?_ huser
      exact goesOn_thenSave fun _ h => saves_passwordReset h
  | initiateMfaSetup userId =>
      refine starts_withUser fun user huser => GoesOn.starts ?_ huser
      exact goesOn_thenSave fun _ h => saves_mfaInitiated h
  | confirmMfaSetup userId token =>
      refine starts_withUser fun user huser => GoesOn.starts ?_ huser
      exact goesOn_thenSave fun _ h => saves_mfaConfirmed h
  | regenerateMfaRecoveryCodes userId token =>
      refine starts_withUser fun user huser => GoesOn.starts ?_ huser
      exact goesOn_thenSave fun _ h => saves_recoveryCodesRegenerated h
  | disableMfa userId token =>
      refine starts_withUser fun user huser => GoesOn.starts ?_ huser
      exact goesOn_thenSaveIfChanged fun _ h => saves_mfaDisabled h
  | login email password => exact hhandOut _ fun _ h => loginSession_mem h
  | verifyMfaChallenge challengeToken token => exact hhandOut _ fun _ h => challengeSession_mem h
  | verifyMfaRecovery challengeToken recoveryCode =>
      simp only [invokeAccount]
      split
      · exact .ended
      · next entity hentity =>
          obtain ⟨row, hrow, hsaves⟩ := verifyMfaRecovery_row hentity
          have hkey : row.key = entity.id := Table.key_of_get hrow
          rw [withUser, hrow]
          rw [← hkey] at hrow
          exact .called _ hrow hsaves
  | handleOidcCallback email =>
      simp only [invokeAccount]
      split
      · exact .ended
      · next user huser =>
          obtain ⟨hfind, hcheck⟩ := Option.filter_eq_some_iff.mp huser
          have hrow : user ∈ w.users.rows := List.mem_of_find?_eq_some hfind
          exact .called _ (Table.get_of_mem hrow) (Bool.and_eq_true_iff.mp hcheck).1

/-! ## Later steps -/

/-- What a later step of a call can do. -/
inductive Resumes (platform : AccountPlatform Token) (w : AccountWorld) :
    PendingAccountCall → AccountStep → Prop
  | goesOn {call : PendingAccountCall} {next : AccountStep}
      (h : GoesOn platform w call.loaded next) : Resumes platform w call next
  | removed (user : UserRow) :
      Resumes platform w (.removing user) ({ w with users := w.users.delete user.id }, none)
  | saved (purpose : SavePurpose) (loaded entity : UserRow) :
      Resumes platform w (.saving purpose loaded entity)
        (completeSave platform w purpose entity, none)
  | session (user : UserRow) :
      Resumes platform w (.linkingIdentity user)
        (w.recordSession (.session user.toUserEntity), none)

/-- **A later step of a call.** -/
theorem resume_resumes (call : PendingAccountCall) (input : AccountInput) (w : AccountWorld) :
    Resumes platform w call (resumeAccount platform call input w) := by
  cases call with
  | countingAdmins actor dto user =>
      simp only [resumeAccount]
      split
      · exact .goesOn .ended
      · exact .goesOn (goesOn_updateRetained actor dto user)
  | findingEmail dto email user =>
      simp only [resumeAccount]
      split
      · exact .goesOn .ended
      · exact .goesOn (goesOn_saveUpdate dto (some email) user)
  | countingAdminsToDelete actor user =>
      simp only [resumeAccount]
      split
      · exact .goesOn .ended
      · exact .goesOn (goesOn_deleteRetained actor user)
  | countingReferences user =>
      simp only [resumeAccount]
      split
      · exact .goesOn .ended
      · exact .goesOn (.next _ rfl trivial)
  | removing user => exact .removed user
  | saving purpose loaded entity => exact .saved purpose loaded entity
  | linkingIdentity user =>
      simp only [resumeAccount]
      split
      · exact .goesOn .ended
      · exact .session user

theorem GoesOn.users {loaded : UserRow} {next : AccountStep} (h : GoesOn platform w loaded next) :
    next.1.users = w.users := by
  cases h with
  | ended => rfl
  | next call hloaded hsound => rfl

/-- A first step changes no user. -/
theorem Starts.users {next : AccountStep} (h : Starts platform w next) :
    next.1.users = w.users := by
  cases h with
  | ended => rfl
  | session row hrow hactive => rfl
  | called call hloaded hsound => rfl

theorem Starts.sound {next : AccountStep} {call : PendingAccountCall}
    (h : Starts platform w next) (hnext : next.2 = some call) : Sound platform call := by
  cases h with
  | ended => cases hnext
  | session row hrow hactive => cases hnext
  | called call' hloaded hsound => exact Option.some.inj hnext ▸ hsound

theorem Resumes.sound {call next : PendingAccountCall} {result : AccountStep}
    (h : Resumes platform w call result) (hnext : result.2 = some next) :
    Sound platform next := by
  cases h with
  | goesOn hgoes =>
      cases hgoes with
      | ended => cases hnext
      | next call' hloaded hsound => exact Option.some.inj hnext ▸ hsound
  | removed user => cases hnext
  | saved purpose loaded entity => cases hnext
  | session user => cases hnext

/-- Only saves and removals change users. -/
theorem Resumes.users {call : PendingAccountCall} {next : AccountStep}
    (h : Resumes platform w call next)
    (hsaving : ∀ purpose loaded entity, call ≠ .saving purpose loaded entity)
    (hremoving : ∀ user, call ≠ .removing user) : next.1.users = w.users := by
  cases h with
  | goesOn hgoes => exact hgoes.users
  | removed user => exact absurd rfl (hremoving user)
  | saved purpose loaded entity => exact absurd rfl (hsaving purpose loaded entity)
  | session user => rfl

/-! ## What a save leaves -/

/-- The row after a save. -/
theorem get_saveUser (columns : UserColumns) (entity : UserRow) (id : Uuid) :
    (w.saveUser columns entity).users.get id =
      if id = entity.id then
        some (((w.users.get entity.id).map (entity.savedOver columns)).getD
          (entity.inserted columns))
      else w.users.get id := by
  have hnew : (entity.inserted columns).key = entity.id := rfl
  exact Table.get_upsert hnew id

@[simp] theorem completeSave_users (purpose : SavePurpose) (entity : UserRow) :
    (completeSave platform w purpose entity).users = (w.saveUser purpose.columns entity).users := by
  unfold completeSave
  simp only
  split
  · rfl
  · rfl

@[simp] theorem completeSave_codes (purpose : SavePurpose) (entity : UserRow) :
    (completeSave platform w purpose entity).codes =
      w.codes ++ purpose.codeFacts entity.id (codesOf platform w entity.id) := by
  unfold completeSave
  simp only
  split
  · rfl
  · rfl

/-! ## A platform and a user to run on -/

/-- The platform of the sample runs. -/
def sampleAccountPlatform : AccountPlatform (JwtPayload × ℤ × ℤ) where
  toAuthPlatform := samplePlatform
  hash salt _ := "$2b$12$" ++ salt ++ "eojm9r2xP5kjlBzu7YmwyiZhZwmYVe"
  toLowerCase := String.toLower
  isValidTimeZone name := name = "UTC" || name = "Europe/Istanbul"

/-- A user without MFA. -/
def sampleRow : UserRow where
  toUserEntity := { sampleUser with mfaEnabled := false, mfaSecretEncrypted := none }

/-- The user alone. -/
def sampleWorld : AccountWorld where
  users := ⟨[sampleRow], List.nodup_singleton _⟩

end UsersService
