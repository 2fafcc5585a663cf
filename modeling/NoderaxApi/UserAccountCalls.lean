/-
# The operations on user accounts, interleaved

The calls of `UserAccounts.lean` and the sign-ins, cut at their database steps.  A call
loads a user and saves it at a later step; in between any other call may move.  `save`
writes back every column that the entity carries, and inserts the entity again if its row
is gone by then.

`acceptInvitation` and `resetPassword` start here once their token is checked, and their
save is the commit of their transaction.  Beside the table the world records the sessions
handed out, the operations completed that invalidate them, and what became of the recovery
codes.
-/
import NoderaxApi.Interleaving
import NoderaxApi.UserAccounts

namespace UsersService

open AuthService KeyedTable Interleaving Runs

/-! ## The world -/

/-- What happened to the sessions of a user. -/
inductive SessionFact
  /-- An access token was handed out for this entity. -/
  | session (user : UserEntity)
  /-- A password change or reset, a deactivation or an MFA change was completed. -/
  | invalidated (userId : Uuid)
  deriving DecidableEq, Repr

/-- What happened to the recovery codes of a user. -/
inductive CodeFact
  | issued (userId : Uuid) (codes : List String)
  | replaced (userId : Uuid) (codes : List String)
  /-- A session was handed out for this code. -/
  | used (userId : Uuid) (code : String)
  deriving DecidableEq, Repr

/-- The `users` table and the clock, and the two records, the latest entry last. -/
structure AccountWorld where
  users : Table UserRow.key
  clock : ℤ := 0
  sessions : List SessionFact := []
  codes : List CodeFact := []

/-- The rows as signing in reads them. -/
def AccountWorld.entities (w : AccountWorld) : List UserEntity :=
  w.users.rows.map UserRow.toUserEntity

/-- `usersRepository.save(entity)`. -/
def AccountWorld.saveUser (w : AccountWorld) (columns : UserColumns) (entity : UserRow) :
    AccountWorld :=
  let users := w.users.upsert entity.id (entity.savedOver columns) (entity.inserted columns)
    (UserRow.savedOver_key columns entity)
  { w with users := users }

/-- One more entry about sessions. -/
def AccountWorld.recordSession (w : AccountWorld) (fact : SessionFact) : AccountWorld :=
  { w with sessions := w.sessions ++ [fact] }

/-- More entries about recovery codes. -/
def AccountWorld.recordCodes (w : AccountWorld) (facts : List CodeFact) : AccountWorld :=
  { w with codes := w.codes ++ facts }

/-! ## Requests and pending calls -/

/-- A request. -/
inductive AccountRequest (Token : Type)
  | update (actor : AuthenticatedUser) (userId : Uuid) (dto : UpdateUserDto)
  | delete (actor : AuthenticatedUser) (userId : Uuid)
  | updatePreferences (userId : Uuid) (dto : UpdateUserPreferencesDto)
  | changePassword (userId : Uuid) (currentPassword newPassword : String)
  | acceptInvitation (userId : Uuid) (password : String)
  | resetPassword (userId : Uuid) (password : String)
  | initiateMfaSetup (userId : Uuid)
  | confirmMfaSetup (userId : Uuid) (token : String)
  | regenerateMfaRecoveryCodes (userId : Uuid) (token : String)
  | disableMfa (userId : Uuid) (token : String)
  | login (email password : String)
  | verifyMfaChallenge (challengeToken : Token) (token : String)
  | verifyMfaRecovery (challengeToken : Token) (recoveryCode : String)
  /-- `handleOidcCallback`, once the identity provider has named a verified address. -/
  | handleOidcCallback (email : String)

/-- What a save completes. -/
inductive SavePurpose
  /-- `update`, to an active user or an inactive one. -/
  | updated (isActive : Bool)
  | preferences
  | passwordChange
  | invitation
  | passwordReset
  | mfaSetup
  | mfaConfirmation (recoveryCodes : List String)
  | recovery (code : String)
  | regeneration (recoveryCodes : List String)
  | mfaRemoval
  deriving DecidableEq, Repr

/-- The hidden columns of the entity that is saved. -/
def SavePurpose.columns : SavePurpose → UserColumns
  | .updated _ | .preferences => .visible
  | .passwordChange | .invitation | .passwordReset => .password
  | .mfaSetup | .mfaConfirmation _ | .recovery _ | .regeneration _ | .mfaRemoval => .mfa

/-- Where a call waits for its next database step, with the row it loaded. -/
inductive PendingAccountCall
  /-- The count of `assertPlatformAdminRetention` in `update`. -/
  | countingAdmins (actor : AuthenticatedUser) (dto : UpdateUserDto) (user : UserRow)
  /-- `findByEmailCaseInsensitive` in `update`. -/
  | findingEmail (dto : UpdateUserDto) (email : String) (user : UserRow)
  /-- The count of `assertPlatformAdminRetention` in `delete`. -/
  | countingAdminsToDelete (actor : AuthenticatedUser) (user : UserRow)
  /-- The counts of `assertDeletable`. -/
  | countingReferences (user : UserRow)
  /-- `usersRepository.remove`. -/
  | removing (user : UserRow)
  /-- `usersRepository.save`. -/
  | saving (purpose : SavePurpose) (loaded entity : UserRow)
  /-- The identity lookup of `handleOidcCallback`. -/
  | linkingIdentity (user : UserRow)
  deriving DecidableEq, Repr

/-- The row that a pending call loaded. -/
def PendingAccountCall.loaded : PendingAccountCall → UserRow
  | .countingAdmins _ _ user | .findingEmail _ _ user | .countingAdminsToDelete _ user
  | .countingReferences user | .removing user | .saving _ user _ | .linkingIdentity user => user

/-- What a step draws at random or finds in the other tables. -/
structure AccountInput where
  salt : String := ""
  secret : String := ""
  recoveryCodes : List String := []
  secretIv : String := ""
  ivs : ℕ → String := fun _ => ""
  workspaceMembershipCount : ℕ := 0
  teamMembershipCount : ℕ := 0
  ownedScheduledTaskCount : ℕ := 0
  /-- The identity is linked to another user, or to one that cannot be saved. -/
  identityTaken : Bool := false

/-- The world, and the next database step unless the call has returned. -/
abbrev AccountStep := AccountWorld × Option PendingAccountCall

section Calls

variable {Token : Type} (platform : AccountPlatform Token)

/-! ## The steps -/

/-- The rest of a call whose next step saves what was computed. -/
def thenSave (w : AccountWorld) (purpose : SavePurpose) (loaded : UserRow) :
    Except ThrownError UserRow → AccountStep
  | .error _ => (w, none)
  | .ok entity => (w, some (.saving purpose loaded entity))

/-- The rest of a call that saves only if something changes. -/
def thenSaveIfChanged (w : AccountWorld) (purpose : SavePurpose) (loaded : UserRow) :
    Except ThrownError (Option UserRow) → AccountStep
  | .error _ | .ok none => (w, none)
  | .ok (some entity) => (w, some (.saving purpose loaded entity))

/-- The rest of a call that loads a user by id first. -/
def withUser (w : AccountWorld) (userId : Uuid) (rest : UserRow → AccountStep) : AccountStep :=
  match w.users.get userId with
  | none => (w, none)
  | some user => rest user

/-- `update` once the e-mail address is free. -/
def saveUpdate (w : AccountWorld) (dto : UpdateUserDto) (email : Option String) (user : UserRow) :
    AccountStep :=
  thenSave w (.updated (dto.nextIsActive user)) user (updatedUser dto email user w.clock)

/-- `update` after `assertPlatformAdminRetention`. -/
def updateRetained (w : AccountWorld) (actor : AuthenticatedUser) (dto : UpdateUserDto)
    (user : UserRow) : AccountStep :=
  match assertSelfMutationAllowed actor user (dto.nextRole user) (dto.nextIsActive user) with
  | .error _ => (w, none)
  | .ok () =>
      match dto.email.map (normalizeEmail platform) with
      | none => saveUpdate w dto none user
      | some (.error _) => (w, none)
      | some (.ok email) => (w, some (.findingEmail dto email user))

/-- `delete` after `assertPlatformAdminRetention`. -/
def deleteRetained (w : AccountWorld) (actor : AuthenticatedUser) (user : UserRow) :
    AccountStep :=
  match assertSelfDeletionAllowed actor user with
  | .error _ => (w, none)
  | .ok () => (w, some (.countingReferences user))

/-- The user whom `login` hands a session. -/
def loginSession (users : List UserEntity) (email password : String) (now : ℤ) :
    Option UserEntity :=
  match AuthService.login platform.toAuthPlatform users email password now with
  | .error _ => none
  | .ok response =>
      if response.requiresMfa then none
      else findByEmailWithPassword platform.toAuthPlatform users email

/-- The user whom `verifyMfaChallenge` hands a session. -/
def challengeSession (users : List UserEntity) (challengeToken : Token) (token : String)
    (now : ℤ) : Option UserEntity :=
  match AuthService.verifyMfaChallenge platform.toAuthPlatform users challengeToken token now with
  | .error _ => none
  | .ok _ => (verifyMfaChallengeToken platform.toAuthPlatform users challengeToken now).toOption

/-- A session for this user, if there is one. -/
def AccountWorld.handOut (w : AccountWorld) : Option UserEntity → AccountWorld
  | none => w
  | some user => w.recordSession (.session user)

/-- `handleOidcCallback` with the user of the verified address. -/
def oidcUser (w : AccountWorld) (email : String) : Option UserRow :=
  (w.users.rows.find? fun user => user.email = platform.toLowerCase (jsTrim email)).filter
    fun user => user.isActive && user.inviteStatus = .accepted

/-- The first database step of a call, with what follows it up to the next. -/
def invokeAccount (request : AccountRequest Token) (input : AccountInput) (w : AccountWorld) :
    AccountStep :=
  match request with
  | .update actor userId dto =>
      withUser w userId fun user =>
        if leavesAdmins user (dto.nextRole user) (dto.nextIsActive user) then
          (w, some (.countingAdmins actor dto user))
        else updateRetained platform w actor dto user
  | .delete actor userId =>
      withUser w userId fun user =>
        if leavesAdmins user .user false then (w, some (.countingAdminsToDelete actor user))
        else deleteRetained w actor user
  | .updatePreferences userId dto =>
      withUser w userId fun user =>
        thenSaveIfChanged w .preferences user (updatedPreferences platform dto user)
  | .changePassword userId currentPassword newPassword =>
      withUser w userId fun user =>
        thenSave w .passwordChange user
          (passwordChanged platform input.salt currentPassword newPassword user)
  | .acceptInvitation userId password =>
      withUser w userId fun user =>
        thenSave w .invitation user
          (invitationAccepted platform input.salt password user w.clock)
  | .resetPassword userId password =>
      withUser w userId fun user =>
        thenSave w .passwordReset user (passwordReset platform input.salt password user)
  | .initiateMfaSetup userId =>
      withUser w userId fun user =>
        thenSave w .mfaSetup user (mfaInitiated platform input.secretIv input.secret user)
  | .confirmMfaSetup userId token =>
      withUser w userId fun user =>
        thenSave w (.mfaConfirmation input.recoveryCodes) user
          (mfaConfirmed platform token input.recoveryCodes input.secretIv input.ivs user w.clock)
  | .regenerateMfaRecoveryCodes userId token =>
      withUser w userId fun user =>
        thenSave w (.regeneration input.recoveryCodes) user
          (recoveryCodesRegenerated platform token input.recoveryCodes input.ivs user w.clock)
  | .disableMfa userId token =>
      withUser w userId fun user =>
        thenSaveIfChanged w .mfaRemoval user (mfaDisabled platform token user w.clock)
  | .login email password =>
      (w.handOut (loginSession platform w.entities email password w.clock), none)
  | .verifyMfaChallenge challengeToken token =>
      (w.handOut (challengeSession platform w.entities challengeToken token w.clock), none)
  | .verifyMfaRecovery challengeToken recoveryCode =>
      match AuthService.verifyMfaRecovery platform.toAuthPlatform w.entities challengeToken
          recoveryCode input.ivs w.clock with
      | .error _ => (w, none)
      | .ok entity =>
          withUser w entity.id fun user =>
            (w, some (.saving (.recovery (normalizeRecoveryCode recoveryCode)) user
              { user with mfaRecoveryCodes := entity.mfaRecoveryCodes }))
  | .handleOidcCallback email =>
      match oidcUser platform w email with
      | none => (w, none)
      | some user => (w, some (.linkingIdentity user))

/-- The recovery codes in a row, normalized. -/
def storedCodes (row : UserRow) : List String :=
  match decryptRecoveryCodes platform.toAuthPlatform row.mfaRecoveryCodes with
  | .error _ => []
  | .ok codes => codes.map normalizeRecoveryCode

/-- The recovery codes that a user has. -/
def codesOf (w : AccountWorld) (userId : Uuid) : List String :=
  ((w.users.get userId).map (storedCodes platform)).getD []

/-- What the completion of a save says about sessions. -/
def SavePurpose.sessionFact (purpose : SavePurpose) (entity : UserRow) : Option SessionFact :=
  match purpose with
  | .updated isActive => if isActive then none else some (.invalidated entity.id)
  | .preferences | .mfaSetup => none
  | .passwordChange | .invitation | .passwordReset | .mfaConfirmation _ | .regeneration _
  | .mfaRemoval => some (.invalidated entity.id)
  | .recovery _ => some (.session entity.toUserEntity)

/-- What the completion of a save says about recovery codes, `stored` being those that the
row had. -/
def SavePurpose.codeFacts (purpose : SavePurpose) (userId : Uuid) (stored : List String) :
    List CodeFact :=
  match purpose with
  | .updated _ | .preferences | .passwordChange | .invitation | .passwordReset | .mfaSetup => []
  | .mfaConfirmation recoveryCodes | .regeneration recoveryCodes =>
      [.replaced userId stored, .issued userId (recoveryCodes.map normalizeRecoveryCode)]
  | .mfaRemoval => [.replaced userId stored]
  | .recovery code => [.used userId code]

/-- The save, and what the call does after it. -/
def completeSave (w : AccountWorld) (purpose : SavePurpose) (entity : UserRow) : AccountWorld :=
  let saved := (w.saveUser purpose.columns entity).recordCodes
    (purpose.codeFacts entity.id (codesOf platform w entity.id))
  match purpose.sessionFact entity with
  | none => saved
  | some fact => saved.recordSession fact

/-- A later database step of a call. -/
def resumeAccount (call : PendingAccountCall) (input : AccountInput) (w : AccountWorld) :
    AccountStep :=
  match call with
  | .countingAdmins actor dto user =>
      match assertPlatformAdminRetention (activeAdminCount w.users.rows) user (dto.nextRole user)
          (dto.nextIsActive user) with
      | .error _ => (w, none)
      | .ok () => updateRetained platform w actor dto user
  | .findingEmail dto email user =>
      if w.users.rows.any fun row =>
          platform.lower row.email = platform.lower email && row.id ≠ user.id then (w, none)
      else saveUpdate w dto (some email) user
  | .countingAdminsToDelete actor user =>
      match assertPlatformAdminRetention (activeAdminCount w.users.rows) user .user false with
      | .error _ => (w, none)
      | .ok () => deleteRetained w actor user
  | .countingReferences user =>
      match assertDeletable input.workspaceMembershipCount input.teamMembershipCount
          input.ownedScheduledTaskCount with
      | .error _ => (w, none)
      | .ok () => (w, some (.removing user))
  | .removing user => ({ w with users := w.users.delete user.id }, none)
  | .saving purpose _ entity => (completeSave platform w purpose entity, none)
  | .linkingIdentity user =>
      if input.identityTaken then (w, none)
      else (w.recordSession (.session user.toUserEntity), none)

/-- Time passes. -/
def accountEnv (ms : ℕ) (w : AccountWorld) : AccountWorld := { w with clock := w.clock + ms }

/-- The family of the calls. -/
def accountCalls : Calls AccountWorld (AccountRequest Token) PendingAccountCall AccountInput :=
  ⟨invokeAccount platform, resumeAccount platform⟩

end Calls

/-- A state of the calls, which are numbered. -/
abbrev AccountConfig := Config ℕ AccountWorld PendingAccountCall

/-- A call moves, or time passes. -/
abbrev AccountEvent (Token : Type) := Event ℕ (AccountRequest Token) AccountInput ℕ

/-- One event. -/
abbrev accountStep {Token : Type} (platform : AccountPlatform Token) :
    AccountConfig → AccountEvent Token → AccountConfig :=
  step (accountCalls platform) accountEnv

end UsersService
