/-
# Invitation and password-reset tokens

`users.service.ts`: `acceptInvitation` and `resetPassword`, and the operations that issue
the tokens (`create`, `resendInvite`, `requestPasswordReset`), cut at their queries.  Each
runs in a READ COMMITTED transaction: it reads and checks the token, and writes the
password and the token in later statements, which no condition protects.

The two families of tokens have a table each, with the same columns; `kind` says which.
The e-mails and the audit log are left out, except that they can fail and end a transaction.
-/
import NoderaxApi.Histories
import NoderaxApi.Interleaving
import NoderaxApi.ReadCommitted
import NoderaxApi.UserAccounts

namespace UsersService

open AuthService KeyedTable ReadCommitted Interleaving Runs Histories

/-! ## Tokens -/

/-- The two families of tokens. -/
inductive TokenKind
  | invitation
  | passwordReset
  deriving DecidableEq, Repr

/-- `UserInvitationStatus` of an invitation and `PasswordResetTokenStatus`; consumed is
ACCEPTED or USED. -/
inductive TokenStatus
  | pending
  | consumed
  | revoked
  deriving DecidableEq, Repr

/-- `UserInvitationEntity` and `PasswordResetTokenEntity`. -/
structure TokenRow where
  id : Uuid
  userId : Uuid
  tokenHash : String
  tokenLookupHash : String
  status : TokenStatus := .pending
  expiresAt : ℤ
  consumedAt : Option ℤ := none
  revokedAt : Option ℤ := none
  deriving DecidableEq, Repr

/-- The primary key of a token. -/
abbrev TokenRow.key (row : TokenRow) : Uuid := row.id

/-- The row after the save of an entity; the two hashes never change. -/
def TokenRow.savedOver (entity row : TokenRow) : TokenRow :=
  { entity with
    id := row.id
    tokenHash := row.tokenHash
    tokenLookupHash := row.tokenLookupHash }

theorem TokenRow.savedOver_key (entity row : TokenRow) :
    (entity.savedOver row).key = row.key := rfl

/-- `INVITATION_TTL_HOURS`. -/
def invitationTtlHours : ℤ := 72

/-- `PASSWORD_RESET_TTL_HOURS`. -/
def passwordResetTtlHours : ℤ := 1

/-- The time for which a token of a kind is valid. -/
def TokenKind.ttlHours : TokenKind → ℤ
  | .invitation => invitationTtlHours
  | .passwordReset => passwordResetTtlHours

/-- The code outside the repository that these operations use. -/
structure TokenPlatform (Token : Type) extends AccountPlatform Token where
  /-- `createOpaqueTokenLookupHash`: SHA-256. -/
  createOpaqueTokenLookupHash : String → String

section Checks

variable {Token : Type} (platform : TokenPlatform Token)

/-- `verifyOpaqueToken`. -/
def verifyOpaqueToken (token tokenHash tokenLookupHash : String) : Bool :=
  if platform.createOpaqueTokenLookupHash token ≠ tokenLookupHash then false
  else platform.compare token tokenHash

/-- The lookup of a token, with the message of its refusal. -/
def findTokenOrThrow (notFound : String) (rows : List TokenRow) (token : String) :
    Except ThrownError TokenRow :=
  match rows.find? fun row =>
      row.tokenLookupHash = platform.createOpaqueTokenLookupHash token with
  | none => .error (.http (.notFound notFound))
  | some candidate =>
      if !verifyOpaqueToken platform token candidate.tokenHash candidate.tokenLookupHash then
        .error (.http (.notFound notFound))
      else .ok candidate

/-- `findInvitationByTokenOrThrow`. -/
def findInvitationByTokenOrThrow : List TokenRow → String → Except ThrownError TokenRow :=
  findTokenOrThrow platform "Invitation token was not found."

/-- `findPasswordResetTokenOrThrow`. -/
def findPasswordResetTokenOrThrow : List TokenRow → String → Except ThrownError TokenRow :=
  findTokenOrThrow platform "Password reset token was not found."

/-- The lookup of a kind. -/
def TokenKind.findOrThrow : TokenKind → List TokenRow → String → Except ThrownError TokenRow
  | .invitation => findInvitationByTokenOrThrow platform
  | .passwordReset => findPasswordResetTokenOrThrow platform

/-- The check of a token, with the messages of its refusals. -/
def assertTokenAvailable (used unavailable : String) (token : TokenRow) (now : ℤ) :
    Except ThrownError Unit :=
  if token.status = .consumed then .error (.http (.conflict used))
  else if token.status = .revoked then .error (.http (.gone unavailable))
  else if token.expiresAt ≤ now then .error (.http (.gone unavailable))
  else .ok ()

/-- `assertInvitationAvailable`. -/
def assertInvitationAvailable : TokenRow → ℤ → Except ThrownError Unit :=
  assertTokenAvailable "Invitation token has already been used."
    "Invitation token has expired or was revoked."

/-- `assertPasswordResetAvailable`. -/
def assertPasswordResetAvailable : TokenRow → ℤ → Except ThrownError Unit :=
  assertTokenAvailable "Password reset token has already been used."
    "Password reset token has expired or was revoked."

/-- The check of a kind. -/
def TokenKind.assertAvailable : TokenKind → TokenRow → ℤ → Except ThrownError Unit
  | .invitation => assertInvitationAvailable
  | .passwordReset => assertPasswordResetAvailable

/-- The user whom `acceptInvitation` or `resetPassword` saves. -/
def TokenKind.changedUser (kind : TokenKind) (salt password : String) (user : UserRow) (now : ℤ) :
    Except ThrownError UserRow :=
  match kind with
  | .invitation => invitationAccepted platform.toAccountPlatform salt password user now
  | .passwordReset => UsersService.passwordReset platform.toAccountPlatform salt password user

/-- `revokePendingInvitations` and `revokePendingPasswordResetTokens` up to their save: the
pending tokens of the user, all but one of them revoked. -/
def pendingRevoked (rows : List TokenRow) (userId : Uuid) (excludeId : Option Uuid) (now : ℤ) :
    List TokenRow :=
  (rows.filter fun row => row.userId = userId && row.status = .pending).map fun row =>
    if excludeId = some row.id then row
    else { row with status := .revoked, revokedAt := some now }

/-- `findByEmailWithPassword` and the check of `requestPasswordReset`. -/
def resettableUser (users : List UserRow) (email : String) : Option UserRow :=
  (users.find? fun user => platform.lower user.email = platform.lower email).filter fun user =>
    user.isActive && user.inviteStatus = .accepted && isPresent user.passwordHash

/-- The user whom `create` inserts. -/
def createdUser (id : Uuid) (email name : String) (role : Option UserRole) :
    Except ThrownError UserRow := do
  let name ← normalizeName name
  .ok {
    id := id
    email := email
    name := name
    role := role.getD .user
    isActive := false
    inviteStatus := .pending }

end Checks

/-! ## The database -/

/-- The tables. -/
structure TokenTables where
  users : Table UserRow.key
  tokens : TokenKind → Table TokenRow.key

/-- The write statements. -/
inductive TokenWrite
  | insertUser (user : UserRow)
  | saveUser (entity : UserRow)
  /-- The UPDATE of `resendInvite`. -/
  | setInvited (userId : Uuid)
  | insertToken (kind : TokenKind) (token : TokenRow)
  | saveTokens (kind : TokenKind) (entities : List TokenRow)
  deriving DecidableEq, Repr

/-- The save of one token. -/
def saveToken (table : Table TokenRow.key) (entity : TokenRow) : Table TokenRow.key :=
  table.update (fun row => decide (row.id = entity.id)) entity.savedOver
    (TokenRow.savedOver_key entity)

/-- The save of a user whose password is set. -/
def saveUserWithPassword (table : Table UserRow.key) (entity : UserRow) : Table UserRow.key :=
  table.upsert entity.id (entity.savedOver .password) (entity.inserted .password)
    (UserRow.savedOver_key .password entity)

/-- The UPDATE of `resendInvite`. -/
def invitedAgain (table : Table UserRow.key) (userId : Uuid) : Table UserRow.key :=
  table.update (fun user => decide (user.id = userId))
    (fun user => { user with inviteStatus := .pending }) fun _ => rfl

/-- What a write does. -/
def TokenWrite.apply (write : TokenWrite) (d : TokenTables) : TokenTables :=
  match write with
  | .insertUser user => { d with users := d.users.insert user }
  | .saveUser entity => { d with users := saveUserWithPassword d.users entity }
  | .setInvited userId => { d with users := invitedAgain d.users userId }
  | .insertToken kind token =>
      { d with tokens := Function.update d.tokens kind ((d.tokens kind).insert token) }
  | .saveTokens kind entities =>
      { d with tokens := Function.update d.tokens kind (entities.foldl saveToken (d.tokens kind)) }

/-- A row, or an entry of a unique index, that a write locks. -/
inductive TokenLock
  | user (id : Uuid)
  | email (email : String)
  | token (kind : TokenKind) (id : Uuid)
  | lookup (kind : TokenKind) (tokenLookupHash : String)
  deriving DecidableEq, Repr

/-- What a write locks. -/
def TokenWrite.rows : TokenWrite → List TokenLock
  | .insertUser user => [.user user.id, .email user.email]
  | .saveUser entity => [.user entity.id]
  | .setInvited userId => [.user userId]
  | .insertToken kind token => [.token kind token.id, .lookup kind token.tokenLookupHash]
  | .saveTokens kind entities => entities.map fun entity => .token kind entity.id

/-- The statements of the database. -/
abbrev tokenStatements : Statements TokenTables TokenWrite TokenLock :=
  ⟨TokenWrite.apply, TokenWrite.rows⟩

/-! ## The world and the calls -/

/-- What became of the tokens. -/
inductive TokenFact
  /-- A transaction that issued a token was committed. -/
  | issued (kind : TokenKind) (token : TokenRow)
  /-- A transaction that changed the password with a token was committed. -/
  | passwordChanged (kind : TokenKind) (tokenId : Uuid) (time : ℤ)
  deriving DecidableEq, Repr

/-- The database, the clock and the record of what was committed, the latest entry last. -/
structure TokenWorld where
  db : Database TokenTables TokenLock
  clock : ℤ := 0
  history : List TokenFact := []

/-- A request. -/
inductive TokenRequest
  | acceptInvitation (token password : String)
  | resetPassword (token password : String)
  | requestPasswordReset (email : String)
  | resendInvite (userId : Uuid)
  | create (email name : String) (role : Option UserRole)
  deriving DecidableEq, Repr

/-- What a transaction is for. -/
inductive TokenPurpose
  /-- To set the password with a token, as it was loaded. -/
  | consume (token : TokenRow)
  /-- To issue a token to a user. -/
  | issue (userId : Uuid) (issuedAt : ℤ)
  deriving DecidableEq, Repr

/-- The user of a transaction. -/
def TokenPurpose.userId : TokenPurpose → Uuid
  | .consume token => token.userId
  | .issue userId _ => userId

/-- The token that `revokePendingInvitations` leaves alone. -/
def TokenPurpose.excludeId : TokenPurpose → Option Uuid
  | .consume token => some token.id
  | .issue _ _ => none

/-- An open transaction of this database. -/
abbrev TokenTransaction := Transaction TokenWrite

/-- Where a call waits for its next query. -/
inductive PendingTokenCall
  | findingUser (tx : TokenTransaction) (kind : TokenKind) (password : String) (token : TokenRow)
  | savingUser (tx : TokenTransaction) (kind : TokenKind) (token : TokenRow) (entity : UserRow)
  | savingToken (tx : TokenTransaction) (kind : TokenKind) (token : TokenRow)
  /-- The UPDATE of `resendInvite`. -/
  | updatingUser (tx : TokenTransaction) (userId : Uuid) (issuedAt : ℤ)
  | insertingUser (tx : TokenTransaction) (user : UserRow) (issuedAt : ℤ)
  | findingPending (tx : TokenTransaction) (kind : TokenKind) (purpose : TokenPurpose)
  | savingPending (tx : TokenTransaction) (kind : TokenKind) (purpose : TokenPurpose)
      (entities : List TokenRow)
  | insertingToken (tx : TokenTransaction) (kind : TokenKind) (userId : Uuid) (issuedAt : ℤ)
  | committingChange (tx : TokenTransaction) (kind : TokenKind) (token : TokenRow)
  | committingIssue (tx : TokenTransaction) (kind : TokenKind) (token : TokenRow)
  deriving DecidableEq

/-- The transaction of a call. -/
def PendingTokenCall.tx : PendingTokenCall → TokenTransaction
  | .findingUser tx _ _ _ | .savingUser tx _ _ _ | .savingToken tx _ _ | .updatingUser tx _ _
  | .insertingUser tx _ _ | .findingPending tx _ _ | .savingPending tx _ _ _
  | .insertingToken tx _ _ _ | .committingChange tx _ _ | .committingIssue tx _ _ => tx

/-- What a step draws at random, and whether its statement fails (a lost connection, a
deadlock, a mail server that does not answer). -/
structure TokenInput where
  id : Uuid := ""
  salt : String := ""
  secret : String := ""
  fails : Bool := false
  deriving DecidableEq, Repr

/-- The world, and the next query unless the call has returned. -/
abbrev TokenStep := TokenWorld × Option PendingTokenCall

/-- A transaction begins. -/
def withTransaction (w : TokenWorld) (first : TokenTransaction → PendingTokenCall) : TokenStep :=
  let begun := w.db.begin
  ({ w with db := begun.1 }, some (first begun.2))

/-- A transaction is rolled back. -/
def rolledBack (w : TokenWorld) (tx : TokenTransaction) : TokenStep :=
  ({ w with db := w.db.rollback tx }, none)

/-- A write statement; the call stays where it is while it has to wait. -/
def writing (w : TokenWorld) (call : PendingTokenCall) (write : TokenWrite)
    (next : TokenTransaction → PendingTokenCall) : TokenStep :=
  match w.db.write tokenStatements call.tx write with
  | none => (w, some call)
  | some (db, tx) => ({ w with db := db }, some (next tx))

/-- The commit, and what it is recorded as. -/
def committing (w : TokenWorld) (tx : TokenTransaction) (fact : TokenFact) : TokenStep :=
  ({ w with db := w.db.commit tokenStatements tx, history := w.history ++ [fact] }, none)

/-- What follows the revocation of the pending tokens. -/
def afterRevocation (kind : TokenKind) (purpose : TokenPurpose) (tx : TokenTransaction) :
    PendingTokenCall :=
  match purpose with
  | .consume token => .committingChange tx kind token
  | .issue userId issuedAt => .insertingToken tx kind userId issuedAt

section Calls

variable {Token : Type} (platform : TokenPlatform Token)

/-- The rest of `acceptInvitation` and `resetPassword` after the lookup of the token. -/
def consumeToken (w : TokenWorld) (kind : TokenKind) (token password : String) : TokenStep :=
  match kind.findOrThrow platform (w.db.committed.tokens kind).rows token with
  | .error _ => (w, none)
  | .ok found =>
      match kind.assertAvailable found w.clock with
      | .error _ => (w, none)
      | .ok () => withTransaction w fun tx => .findingUser tx kind password found

/-- The first query of a call, with what follows it up to the next. -/
def invokeToken (request : TokenRequest) (input : TokenInput) (w : TokenWorld) : TokenStep :=
  match request with
  | .acceptInvitation token password => consumeToken platform w .invitation token password
  | .resetPassword token password => consumeToken platform w .passwordReset token password
  | .requestPasswordReset email =>
      match resettableUser platform w.db.committed.users.rows email with
      | none => (w, none)
      | some user =>
          withTransaction w fun tx => .findingPending tx .passwordReset (.issue user.id w.clock)
  | .resendInvite userId =>
      match w.db.committed.users.get userId with
      | none => (w, none)
      | some user =>
          if user.inviteStatus = .accepted && user.activatedAt.isSome then (w, none)
          else withTransaction w fun tx => .updatingUser tx user.id w.clock
  | .create email name role =>
      match normalizeEmail platform.toAccountPlatform email with
      | .error _ => (w, none)
      | .ok email =>
          if w.db.committed.users.rows.any fun user => user.email = email then (w, none)
          else
            match createdUser input.id email name role with
            | .error _ => (w, none)
            | .ok user => withTransaction w fun tx => .insertingUser tx user w.clock

/-- The token that `createInvitationRecord` and `createPasswordResetRecord` insert. -/
def issuedToken (kind : TokenKind) (userId : Uuid) (issuedAt : ℤ) (input : TokenInput) :
    TokenRow where
  id := input.id
  userId := userId
  tokenHash := platform.hash input.salt input.secret
  tokenLookupHash := platform.createOpaqueTokenLookupHash input.secret
  expiresAt := issuedAt + kind.ttlHours * 60 * 60 * 1000

/-- A later query of a call that does not fail. -/
def continueToken (call : PendingTokenCall) (input : TokenInput) (w : TokenWorld) : TokenStep :=
  match call with
  | .findingUser tx kind password token =>
      match (tx.view tokenStatements w.db.committed).users.get token.userId with
      | none => rolledBack w tx
      | some user =>
          match kind.changedUser platform input.salt password user w.clock with
          | .error _ => rolledBack w tx
          | .ok entity => (w, some (.savingUser tx kind token entity))
  | .savingUser _ kind token entity =>
      writing w call (.saveUser entity) fun tx => .savingToken tx kind token
  | .savingToken _ kind token =>
      writing w call
        (.saveTokens kind [{ token with status := .consumed, consumedAt := some w.clock }])
        fun tx => .findingPending tx kind (.consume token)
  | .updatingUser _ userId issuedAt =>
      writing w call (.setInvited userId)
        fun tx => .findingPending tx .invitation (.issue userId issuedAt)
  | .insertingUser tx user issuedAt =>
      -- the unique index on the e-mail address
      if (tx.view tokenStatements w.db.committed).users.rows.any fun row =>
          row.id = user.id || row.email = user.email then rolledBack w tx
      else
        writing w call (.insertUser user)
          fun tx => .findingPending tx .invitation (.issue user.id issuedAt)
  | .findingPending tx kind purpose =>
      let rows := ((tx.view tokenStatements w.db.committed).tokens kind).rows
      let entities := pendingRevoked rows purpose.userId purpose.excludeId w.clock
      if entities.isEmpty then (w, some (afterRevocation kind purpose tx))
      else (w, some (.savingPending tx kind purpose entities))
  | .savingPending _ kind purpose entities =>
      writing w call (.saveTokens kind entities) fun tx => afterRevocation kind purpose tx
  | .insertingToken tx kind userId issuedAt =>
      let token := issuedToken platform kind userId issuedAt input
      -- the primary key and the unique index on the lookup hash
      if ((tx.view tokenStatements w.db.committed).tokens kind).rows.any fun row =>
          row.id = token.id || row.tokenLookupHash = token.tokenLookupHash then rolledBack w tx
      else writing w call (.insertToken kind token) fun tx => .committingIssue tx kind token
  | .committingChange tx kind token =>
      committing w tx (.passwordChanged kind token.id w.clock)
  | .committingIssue tx kind token => committing w tx (.issued kind token)

/-- A later query of a call. -/
def resumeToken (call : PendingTokenCall) (input : TokenInput) (w : TokenWorld) : TokenStep :=
  if input.fails then rolledBack w call.tx else continueToken platform call input w

/-- Time passes. -/
def tokenEnv (ms : ℕ) (w : TokenWorld) : TokenWorld := { w with clock := w.clock + ms }

/-- The family of the calls. -/
def tokenCalls : Calls TokenWorld TokenRequest PendingTokenCall TokenInput :=
  ⟨invokeToken platform, resumeToken platform⟩

end Calls

/-- A state of the calls, which are numbered. -/
abbrev TokenConfig := Config ℕ TokenWorld PendingTokenCall

/-- A call moves, or time passes. -/
abbrev TokenEvent := Event ℕ TokenRequest TokenInput ℕ

/-- One event. -/
abbrev tokenStep {Token : Type} (platform : TokenPlatform Token) :
    TokenConfig → TokenEvent → TokenConfig :=
  step (tokenCalls platform) tokenEnv

end UsersService
