/-
# User accounts

`users.service.ts` (`update`, `delete`, `updatePreferences`, `changePassword`, and what
`acceptInvitation` and `resetPassword` do to the user) and the operations of
`auth.service.ts` on the second factor, up to what they save.

The rows have all the columns of `users`.  The columns `passwordHash`,
`mfaSecretEncrypted`, `mfaPendingSecretEncrypted` and `mfaRecoveryCodes` are not selected
by default, so what a save writes of them depends on how its entity was loaded.
-/
import NoderaxApi.AuthService

/-! ## Rows -/

/-- `UserInvitationStatus`. -/
inductive UserInvitationStatus
  | pending
  | accepted
  | revoked
  deriving DecidableEq, Repr

/-- A row of the `users` table with the columns that signing in does not use. -/
structure UserRow extends UserEntity where
  timezone : String := "UTC"
  inviteStatus : UserInvitationStatus := .accepted
  activatedAt : Option ℤ := none
  criticalEventEmailsEnabled : Bool := true
  enrollmentEmailsEnabled : Bool := true
  mfaPendingSecretEncrypted : Option String := none
  mfaEnabledAt : Option ℤ := none
  deriving DecidableEq, Repr

/-- The primary key of a row. -/
abbrev UserRow.key (row : UserRow) : Uuid := row.id

/-- The hidden columns that an entity carries. -/
inductive UserColumns
  /-- None: `findOne`. -/
  | visible
  /-- `passwordHash`, selected or set. -/
  | password
  /-- The three columns of `loadUserWithMfa`. -/
  | mfa
  deriving DecidableEq, Repr

/-- The row after the save of an entity: every column that the entity carries is its own. -/
def UserRow.savedOver (columns : UserColumns) (entity row : UserRow) : UserRow :=
  { entity with
    id := row.id
    passwordHash := if columns = .password then entity.passwordHash else row.passwordHash
    mfaSecretEncrypted :=
      if columns = .mfa then entity.mfaSecretEncrypted else row.mfaSecretEncrypted
    mfaPendingSecretEncrypted :=
      if columns = .mfa then entity.mfaPendingSecretEncrypted else row.mfaPendingSecretEncrypted
    mfaRecoveryCodes := if columns = .mfa then entity.mfaRecoveryCodes else row.mfaRecoveryCodes }

/-- The save of an entity whose row is gone inserts it, without the columns it does not
carry. -/
def UserRow.inserted (columns : UserColumns) (entity : UserRow) : UserRow :=
  entity.savedOver columns { id := entity.id, email := entity.email }

theorem UserRow.savedOver_key (columns : UserColumns) (entity row : UserRow) :
    (entity.savedOver columns row).key = row.key := rfl

namespace UsersService

open AuthService KeyedTable

/-! ## Requests and checks -/

/-- `UpdateUserDto`. -/
structure UpdateUserDto where
  email : Option String := none
  name : Option String := none
  role : Option UserRole := none
  isActive : Option Bool := none
  deriving DecidableEq, Repr

/-- `UpdateUserPreferencesDto`. -/
structure UpdateUserPreferencesDto where
  timezone : Option String := none
  criticalEventEmailsEnabled : Option Bool := none
  enrollmentEmailsEnabled : Option Bool := none
  deriving DecidableEq, Repr

/-- The code outside the repository that these operations use. -/
structure AccountPlatform (Token : Type) extends AuthPlatform Token where
  /-- `bcrypt.hash` under a random salt. -/
  hash : (salt password : String) → String
  /-- `String.prototype.toLowerCase`. -/
  toLowerCase : String → String
  /-- `isValidTimeZone` of a trimmed name: what the `Intl` library knows. -/
  isValidTimeZone : String → Bool

section Checks

variable {Token : Type} (platform : AccountPlatform Token)

/-- `normalizeEmail`. -/
def normalizeEmail (email : String) : Except ThrownError String :=
  let normalized := platform.toLowerCase (jsTrim email)
  if normalized = "" then .error (.http (.badRequest "Email is required.")) else .ok normalized

/-- `normalizeName`. -/
def normalizeName (name : String) : Except ThrownError String :=
  let normalized := jsTrim name
  if jsLength normalized < 2 then
    .error (.http (.badRequest "Name must be at least 2 characters."))
  else .ok normalized

/-- `assertValidTimeZone`. -/
def assertValidTimeZone (value : String) : Except ThrownError String :=
  let normalized := jsTrim value
  if normalized ≠ "" ∧ platform.isValidTimeZone normalized then .ok normalized
  else
    let shown := if value = "" then "Timezone" else value
    .error (.http (.badRequest s!"{shown} is not a valid IANA timezone."))

/-- A platform administrator who can sign in. -/
def UserRow.isActiveAdmin (user : UserRow) : Bool := user.role = .platformAdmin && user.isActive

/-- `usersRepository.count` of the active platform administrators. -/
def activeAdminCount (users : List UserRow) : ℕ := users.countP UserRow.isActiveAdmin

/-- The first condition of `assertPlatformAdminRetention`: the change takes an active
administrator away. -/
def leavesAdmins (user : UserRow) (nextRole : UserRole) (nextIsActive : Bool) : Bool :=
  UserRow.isActiveAdmin user && !(nextRole = .platformAdmin && nextIsActive)

/-- `assertPlatformAdminRetention`, given the count. -/
def assertPlatformAdminRetention (count : ℕ) (user : UserRow) (nextRole : UserRole)
    (nextIsActive : Bool) : Except ThrownError Unit :=
  if leavesAdmins user nextRole nextIsActive && count ≤ 1 then
    .error (.http (.conflict "At least one active platform admin must remain."))
  else .ok ()

/-- `assertSelfMutationAllowed`. -/
def assertSelfMutationAllowed (actor : AuthenticatedUser) (user : UserRow) (nextRole : UserRole)
    (nextIsActive : Bool) : Except ThrownError Unit :=
  if actor.id ≠ user.id then .ok ()
  else if !nextIsActive then
    .error (.http (.badRequest "You cannot deactivate your own account."))
  else if nextRole ≠ .platformAdmin then
    .error (.http (.badRequest "You cannot downgrade your own platform admin role."))
  else .ok ()

/-- `assertSelfDeletionAllowed`. -/
def assertSelfDeletionAllowed (actor : AuthenticatedUser) (user : UserRow) :
    Except ThrownError Unit :=
  if actor.id = user.id then
    .error (.http (.badRequest "You cannot delete your own account."))
  else .ok ()

/-- `assertDeletable`, given its three counts. -/
def assertDeletable (workspaceMembershipCount teamMembershipCount ownedScheduledTaskCount : ℕ) :
    Except ThrownError Unit :=
  if workspaceMembershipCount > 0 then
    .error (.http (.conflict
      "Remove this user from all workspaces before deleting the account."))
  else if teamMembershipCount > 0 then
    .error (.http (.conflict "Remove this user from all teams before deleting the account."))
  else if ownedScheduledTaskCount > 0 then
    .error (.http (.conflict
      "Delete or reassign this user’s scheduled tasks before deleting the account."))
  else .ok ()

/-! ## What the operations save -/

/-- The role that `update` gives. -/
def UpdateUserDto.nextRole (dto : UpdateUserDto) (user : UserRow) : UserRole :=
  dto.role.getD user.role

/-- Whether the user is active after `update`. -/
def UpdateUserDto.nextIsActive (dto : UpdateUserDto) (user : UserRow) : Bool :=
  dto.isActive.getD user.isActive

/-- `update` from its checks on the name on, the e-mail address being free. -/
def updatedUser (dto : UpdateUserDto) (email : Option String) (user : UserRow) (now : ℤ) :
    Except ThrownError UserRow := do
  let name ← dto.name.elim (.ok user.name) normalizeName
  let nextRole := dto.nextRole user
  let nextIsActive := dto.nextIsActive user
  if nextIsActive && user.inviteStatus ≠ .accepted then
    .error (.http (.conflict
      "Pending invited users can only become active after accepting their invitation."))
  else
    .ok { user with
      email := email.getD user.email
      name := name
      sessionVersion :=
        if nextRole ≠ user.role || nextIsActive ≠ user.isActive then user.sessionVersion + 1
        else user.sessionVersion
      isActive := nextIsActive
      activatedAt :=
        if nextIsActive && user.inviteStatus = .accepted && user.activatedAt.isNone then some now
        else user.activatedAt
      role := nextRole }

/-- `updatePreferences` up to its save; `none` if nothing changes. -/
def updatedPreferences (dto : UpdateUserPreferencesDto) (user : UserRow) :
    Except ThrownError (Option UserRow) := do
  let timezone ← dto.timezone.elim (.ok user.timezone) (assertValidTimeZone platform)
  let next : UserRow := { user with
    timezone := timezone
    criticalEventEmailsEnabled :=
      dto.criticalEventEmailsEnabled.getD user.criticalEventEmailsEnabled
    enrollmentEmailsEnabled := dto.enrollmentEmailsEnabled.getD user.enrollmentEmailsEnabled }
  .ok (if next = user then none else some next)

/-- `changePassword` up to its save. -/
def passwordChanged (salt currentPassword newPassword : String) (user : UserRow) :
    Except ThrownError UserRow :=
  if !isPresent user.passwordHash then
    .error (.http (.badRequest
      "This account must finish invitation activation before changing the password."))
  else if !platform.compare currentPassword (user.passwordHash.getD "") then
    .error (.http (.unauthorized "Current password is incorrect."))
  else
    .ok { user with
      passwordHash := some (platform.hash salt newPassword)
      sessionVersion := user.sessionVersion + 1 }

/-- The user whom `acceptInvitation` saves. -/
def invitationAccepted (salt password : String) (user : UserRow) (now : ℤ) :
    Except ThrownError UserRow :=
  if user.inviteStatus = .accepted && user.activatedAt.isSome then
    .error (.http (.conflict "Invitation token has already been used."))
  else
    .ok { user with
      passwordHash := some (platform.hash salt password)
      isActive := true
      inviteStatus := .accepted
      activatedAt := some now
      sessionVersion := user.sessionVersion + 1 }

/-- The user whom `resetPassword` saves. -/
def passwordReset (salt password : String) (user : UserRow) : Except ThrownError UserRow :=
  if !user.isActive || user.inviteStatus ≠ .accepted then
    .error (.http (.conflict "Only active accepted accounts can reset their password."))
  else
    .ok { user with
      passwordHash := some (platform.hash salt password)
      sessionVersion := user.sessionVersion + 1 }

/-- `initiateMfaSetup` up to its save. -/
def mfaInitiated (iv secret : String) (user : UserRow) : Except ThrownError UserRow := do
  let encrypted ← encrypt platform.toAuthPlatform iv secret
  .ok { user with mfaPendingSecretEncrypted := some encrypted }

/-- `confirmMfaSetup` up to its save. -/
def mfaConfirmed (token : String) (recoveryCodes : List String) (secretIv : String)
    (ivs : ℕ → String) (user : UserRow) (now : ℤ) : Except ThrownError UserRow :=
  if !isPresent user.mfaPendingSecretEncrypted then
    .error (.http (.badRequest "MFA setup has not been initiated."))
  else do
    let pendingSecret ← decrypt platform.toAuthPlatform (user.mfaPendingSecretEncrypted.getD "")
    if !(← verifyTotpToken platform.toAuthPlatform pendingSecret token now) then
      .error (.http (.badRequest "Invalid authenticator code."))
    else do
      let encrypted ← encrypt platform.toAuthPlatform secretIv pendingSecret
      let encryptedCodes ← encryptRecoveryCodes platform.toAuthPlatform ivs recoveryCodes
      .ok { user with
        mfaEnabled := true
        mfaSecretEncrypted := some encrypted
        mfaPendingSecretEncrypted := none
        mfaRecoveryCodes := some encryptedCodes
        mfaEnabledAt := some now
        sessionVersion := user.sessionVersion + 1 }

/-- The authenticator code that `regenerateMfaRecoveryCodes` and `disableMfa` ask for. -/
def assertAuthenticatorCode (token : String) (user : UserRow) (now : ℤ) :
    Except ThrownError Unit := do
  let secret ← decrypt platform.toAuthPlatform (user.mfaSecretEncrypted.getD "")
  if !(← verifyTotpToken platform.toAuthPlatform secret token now) then
    .error (.http (.unauthorized "Invalid authenticator code."))
  else .ok ()

/-- `regenerateMfaRecoveryCodes` up to its save. -/
def recoveryCodesRegenerated (token : String) (recoveryCodes : List String) (ivs : ℕ → String)
    (user : UserRow) (now : ℤ) : Except ThrownError UserRow :=
  if !user.mfaEnabled || !isPresent user.mfaSecretEncrypted then
    .error (.http (.badRequest "MFA is not enabled for this account."))
  else do
    assertAuthenticatorCode platform token user now
    let encryptedCodes ← encryptRecoveryCodes platform.toAuthPlatform ivs recoveryCodes
    .ok { user with
      mfaRecoveryCodes := some encryptedCodes
      sessionVersion := user.sessionVersion + 1 }

/-- `disableMfa` up to its save; `none` if MFA is not enabled. -/
def mfaDisabled (token : String) (user : UserRow) (now : ℤ) :
    Except ThrownError (Option UserRow) :=
  if !user.mfaEnabled || !isPresent user.mfaSecretEncrypted then .ok none
  else do
    assertAuthenticatorCode platform token user now
    .ok (some { user with
      mfaEnabled := false
      mfaSecretEncrypted := none
      mfaPendingSecretEncrypted := none
      mfaRecoveryCodes := none
      mfaEnabledAt := none
      sessionVersion := user.sessionVersion + 1 })

end Checks

end UsersService
