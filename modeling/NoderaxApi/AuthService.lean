/-
# Signing in

`auth.service.ts`: `login`, the second factor (`verifyMfaChallenge` and
`verifyMfaRecovery`), the tokens that the service signs and the functions that
verify them, and `JwtStrategy`.  All tokens are signed with one secret; what sets
them apart is the `type` of their payload, which access tokens do not have.

The JWT library, bcrypt, AES-GCM and HMAC are parameters (`AuthPlatform`).  Audit
log entries are left out.
-/
import NoderaxApi.KeyedTable
import NoderaxApi.SignedTokens
import NoderaxApi.TotpVerifier

/-! ## Users -/

/-- `UserRole`. -/
inductive UserRole
  | platformAdmin
  | user
  deriving DecidableEq, Repr

/-- A row of the `users` table: the columns that signing in reads or writes. -/
structure UserEntity where
  id : Uuid
  email : String
  name : String := ""
  role : UserRole := .user
  passwordHash : Option String := none
  isActive : Bool := true
  sessionVersion : ℕ := 0
  mfaEnabled : Bool := false
  mfaSecretEncrypted : Option String := none
  mfaRecoveryCodes : Option (List String) := none
  deriving DecidableEq, Repr

/-- `usersRepository.save` of an entity loaded by `loadUserWithMfa`: every column
is written back except `passwordHash`, which was not selected. -/
def UserEntity.saveOver (entity row : UserEntity) : UserEntity :=
  { entity with passwordHash := row.passwordHash }

/-- `AuthenticatedUser`. -/
structure AuthenticatedUser where
  id : Uuid
  email : String
  role : UserRole
  name : String
  sessionVersion : Option ℕ := none
  deriving DecidableEq, Repr

/-- The columns of `UserResponseDto` that are modelled. -/
structure UserResponse where
  id : Uuid
  email : String
  name : String
  role : UserRole
  isActive : Bool
  mfaEnabled : Bool
  deriving DecidableEq, Repr

/-- `UsersService.toResponse`. -/
def UserEntity.toResponse (user : UserEntity) : UserResponse :=
  ⟨user.id, user.email, user.name, user.role, user.isActive, user.mfaEnabled⟩

namespace AuthService

/-! ## Payloads and errors -/

/-- A decoded token.  One record serves `JwtPayload`, `MfaChallengePayload`,
`TerminalConnectTokenPayload` and `OidcStatePayload`; a field that the token does
not have is `none`. -/
structure JwtPayload where
  sub : Option Uuid := none
  email : Option String := none
  role : Option UserRole := none
  name : Option String := none
  sessionVersion : Option ℕ := none
  type : Option String := none
  sessionId : Option String := none
  workspaceId : Option String := none
  jti : Option String := none
  providerId : Option String := none
  redirectUri : Option String := none
  next : Option String := none
  deriving DecidableEq, Repr

/-- What a `catch` clause may find: an error of the JWT library, an exception of
the service, or any other error. -/
inductive ThrownError
  | jwt (refusal : TokenRefusal)
  | http (error : HttpError)
  | other
  deriving DecidableEq, Repr

/-- `createTokenVerificationException`. -/
def createTokenVerificationException : ThrownError → ThrownError
  | .jwt .expired => .http (.unauthorized "Authentication token expired")
  | .jwt .notActive | .jwt .malformed => .http (.unauthorized "Invalid authentication token")
  | .http (.unauthorized message) => .http (.unauthorized message)
  | .http _ | .other => .http (.unauthorized "Authentication token could not be verified")

/-- A body whose errors are thrown again as verification errors. -/
def verifying {α : Type} (body : Except ThrownError α) : Except ThrownError α :=
  body.mapError createTokenVerificationException

/-- `MFA_CHALLENGE_EXPIRY`. -/
def mfaChallengeExpiry : String := "10m"

/-- `OIDC_STATE_EXPIRY`. -/
def oidcStateExpiry : String := "10m"

/-- `TERMINAL_CONNECT_TOKEN_EXPIRY`. -/
def terminalConnectTokenExpiry : String := "2m"

/-- The code outside the repository, and the configuration. -/
structure AuthPlatform (Token : Type) where
  jwt : Signer JwtPayload Token
  /-- The seconds of a time span such as `'10m'`. -/
  timespan : String → ℤ
  /-- `bcrypt.compare`. -/
  compare : (password passwordHash : String) → Bool
  /-- AES-256-GCM under a random initialization vector. -/
  encryptSecretValue : (iv value rawKey : String) → String
  /-- `none` where the authentication tag does not match. -/
  decryptSecretValue : (encryptedValue rawKey : String) → Option String
  hmacSha1 : TotpUtil.HmacSha1
  /-- `LOWER` of the database. -/
  lower : String → String
  jwtExpiresIn : String := "1d"
  secretsEncryptionKey : String := "noderax-local-secrets-key-change-me"

/-! ## Looking up users -/

/-- `UsersService.findOneOrFail`.  TypeORM leaves out a condition whose value is
`undefined`, and then answers some row. -/
def findOneOrFail (users : List UserEntity) : Option Uuid → Except ThrownError UserEntity
  | none =>
      match users.head? with
      | none => .error (.http (.notFound "User undefined was not found"))
      | some user => .ok user
  | some id =>
      match KeyedTable.find UserEntity.id users id with
      | none => .error (.http (.notFound s!"User {id} was not found"))
      | some user => .ok user

/-- `loadUserWithMfa`.  An `undefined` query parameter matches no row. -/
def loadUserWithMfa (users : List UserEntity) : Option Uuid → Except ThrownError UserEntity
  | none => .error (.http (.notFound "User undefined was not found"))
  | some id =>
      match KeyedTable.find UserEntity.id users id with
      | none => .error (.http (.notFound s!"User {id} was not found"))
      | some user => .ok user

section Service

variable {Token : Type} (platform : AuthPlatform Token)

/-- `UsersService.findByEmailWithPassword`. -/
def findByEmailWithPassword (users : List UserEntity) (email : String) : Option UserEntity :=
  users.find? fun user => platform.lower user.email = platform.lower email

/-! ## Signing and verifying -/

/-- `jwtService.signAsync`; the dates of a token are whole seconds. -/
def signAsync (payload : JwtPayload) (expiresIn : String) (now : ℤ) : Token :=
  platform.jwt.sign payload (now / 1000) (now / 1000 + platform.timespan expiresIn)

/-- `jwtService.verifyAsync`. -/
def verifyAsync (token : Token) (now : ℤ) : Except ThrownError JwtPayload :=
  (platform.jwt.verify (now / 1000) token).mapError .jwt

/-- The payload of an access token. -/
def accessPayload (user : UserEntity) : JwtPayload where
  sub := some user.id
  email := some user.email
  role := some user.role
  name := some user.name
  sessionVersion := some user.sessionVersion

/-- The payload of an MFA challenge. -/
def mfaChallengePayload (user : UserEntity) : JwtPayload :=
  { accessPayload user with type := some "mfa_challenge" }

/-- The payload of a terminal connect token. -/
def terminalConnectPayload (user : AuthenticatedUser) (sessionId workspaceId jti : String) :
    JwtPayload where
  sub := some user.id
  email := some user.email
  role := some user.role
  name := some user.name
  sessionVersion := some (user.sessionVersion.getD 0)
  type := some "terminal_session"
  sessionId := some sessionId
  workspaceId := some workspaceId
  jti := some jti

/-- The payload of the state that `startOidcLogin` sends along. -/
def oidcStatePayload (providerId redirectUri : String) (next : Option String) : JwtPayload where
  type := some "oidc_state"
  providerId := some providerId
  redirectUri := some redirectUri
  next := next

/-- `LoginResponseDto`. -/
structure LoginResponse (Token : Type) where
  accessToken : Option Token := none
  expiresIn : String
  user : UserResponse
  requiresMfa : Bool := false
  mfaChallengeToken : Option Token := none
  redirectPath : Option String := none
  deriving DecidableEq, Repr

/-- The access token that `createAccessSession` signs. -/
def accessToken (user : UserEntity) (now : ℤ) : Token :=
  signAsync platform (accessPayload user) platform.jwtExpiresIn now

/-- `createAccessSession`. -/
def createAccessSession (user : UserEntity) (redirectPath : Option String) (now : ℤ) :
    LoginResponse Token where
  accessToken := some (accessToken platform user now)
  expiresIn := platform.jwtExpiresIn
  user := user.toResponse
  redirectPath := redirectPath

/-- `createMfaChallengeToken`. -/
def createMfaChallengeToken (user : UserEntity) (now : ℤ) : Token :=
  signAsync platform (mfaChallengePayload user) mfaChallengeExpiry now

/-- `createTerminalConnectToken`; `jti` is a random uuid. -/
def createTerminalConnectToken (user : AuthenticatedUser) (sessionId workspaceId jti : String)
    (now : ℤ) : Token × String :=
  (signAsync platform (terminalConnectPayload user sessionId workspaceId jti)
      terminalConnectTokenExpiry now,
    toISOString (now + 2 * 60000))

/-- The state that `startOidcLogin` signs. -/
def oidcStateToken (providerId redirectUri : String) (next : Option String) (now : ℤ) : Token :=
  signAsync platform (oidcStatePayload providerId redirectUri next) oidcStateExpiry now

/-- `validateJwtPayload`. -/
def validateJwtPayload (users : List UserEntity) (payload : JwtPayload) :
    Except ThrownError AuthenticatedUser :=
  match findOneOrFail users payload.sub with
  | .error _ => .error (.http (.unauthorized "Invalid authentication token"))
  | .ok user =>
      if !user.isActive || some user.sessionVersion ≠ payload.sessionVersion then
        .error (.http (.unauthorized "Invalid authentication token"))
      else
        .ok {
          id := user.id
          email := user.email
          name := user.name
          role := user.role
          sessionVersion := some user.sessionVersion }

/-- `verifyAccessToken`. -/
def verifyAccessToken (users : List UserEntity) (token : Token) (now : ℤ) :
    Except ThrownError AuthenticatedUser :=
  verifying do
    let payload ← verifyAsync platform token now
    validateJwtPayload users payload

/-- A bearer token through `JwtStrategy`: passport verifies it with the same
secret and hands the payload to `validate`. -/
def jwtStrategy (users : List UserEntity) (token : Token) (now : ℤ) :
    Except ThrownError AuthenticatedUser := do
  let payload ← verifyAsync platform token now
  validateJwtPayload users payload

/-- `consumeTerminalConnectTokenJti`: a `jti` counts as used for 180 seconds, in
Redis or in the memory of the process.  The answer is the new list of used ones. -/
def consumeTerminalConnectTokenJti (used : List (String × ℤ)) (jti : String) (now : ℤ) :
    Option (List (String × ℤ)) :=
  if used.any fun entry => entry.1 = jti && now < entry.2 then none
  else some (used ++ [(jti, now + 180000)])

/-- A string that is present and not empty. -/
def isPresent (value : Option String) : Bool := value.any (· ≠ "")

/-- What `verifyTerminalConnectToken` answers. -/
structure TerminalConnection where
  user : AuthenticatedUser
  sessionId : Option String
  workspaceId : Option String
  deriving DecidableEq, Repr

/-- `verifyTerminalConnectToken`, with the used `jti`s after it. -/
def verifyTerminalConnectToken (users : List UserEntity) (used : List (String × ℤ)) (token : Token)
    (now : ℤ) : Except ThrownError TerminalConnection × List (String × ℤ) :=
  match verifyAsync platform token now with
  | .error e => (verifying (.error e), used)
  | .ok payload =>
      if payload.type ≠ some "terminal_session" || !isPresent payload.sessionId ||
          !isPresent payload.workspaceId || !isPresent payload.jti then
        (verifying (.error (.http (.unauthorized "Invalid terminal connection token."))), used)
      else
        match consumeTerminalConnectTokenJti used (payload.jti.getD "") now with
        | none =>
            (verifying (.error
              (.http (.unauthorized "Terminal connection token has already been used."))), used)
        | some used' =>
            (verifying do
              let user ← validateJwtPayload users payload
              return ⟨user, payload.sessionId, payload.workspaceId⟩, used')

/-- `verifyMfaChallengeToken`. -/
def verifyMfaChallengeToken (users : List UserEntity) (token : Token) (now : ℤ) :
    Except ThrownError UserEntity :=
  verifying do
    let payload ← verifyAsync platform token now
    if payload.type ≠ some "mfa_challenge" then
      throw (.http (.unauthorized "Invalid MFA challenge token."))
    let user ← loadUserWithMfa users payload.sub
    if !user.isActive || some user.sessionVersion ≠ payload.sessionVersion then
      throw (.http (.unauthorized "Invalid MFA challenge token."))
    return user

/-- `verifyOidcStateToken`. -/
def verifyOidcStateToken (token : Token) (now : ℤ) : Except ThrownError JwtPayload :=
  verifying do
    let payload ← verifyAsync platform token now
    if payload.type ≠ some "oidc_state" then
      throw (.http (.unauthorized "Invalid OIDC state token."))
    return payload

/-! ## Signing in -/

/-- `login`. -/
def login (users : List UserEntity) (email password : String) (now : ℤ) :
    Except ThrownError (LoginResponse Token) :=
  match findByEmailWithPassword platform users email with
  | none => .error (.http (.unauthorized "Invalid email or password"))
  | some user =>
      if !isPresent user.passwordHash then
        .error (.http (.unauthorized "Invalid email or password"))
      else if !user.isActive then
        .error (.http (.unauthorized "This account is inactive."))
      else if !platform.compare password (user.passwordHash.getD "") then
        .error (.http (.unauthorized "Invalid email or password"))
      else if user.mfaEnabled then
        .ok {
          requiresMfa := true
          mfaChallengeToken := some (createMfaChallengeToken platform user now)
          expiresIn := mfaChallengeExpiry
          user := user.toResponse }
      else .ok (createAccessSession platform user none now)

/-- The check on the configured key that `encrypt` and `decrypt` share. -/
def assertSecretsEncryptionKey : Except ThrownError Unit :=
  if jsTrim platform.secretsEncryptionKey = "" then
    .error (.http (.internalServerError "SECRETS_ENCRYPTION_KEY is not configured."))
  else .ok ()

/-- `encrypt`. -/
def encrypt (iv value : String) : Except ThrownError String := do
  assertSecretsEncryptionKey platform
  return platform.encryptSecretValue iv value platform.secretsEncryptionKey

/-- `decrypt`. -/
def decrypt (value : String) : Except ThrownError String := do
  assertSecretsEncryptionKey platform
  match platform.decryptSecretValue value platform.secretsEncryptionKey with
  | none => .error .other
  | some secret => .ok secret

/-- `encryptRecoveryCodes`, each code under a vector of its own. -/
def encryptRecoveryCodes (ivs : ℕ → String) (recoveryCodes : List String) :
    Except ThrownError (List String) :=
  recoveryCodes.zipIdx.mapM fun entry => encrypt platform (ivs entry.2) entry.1

/-- `decryptRecoveryCodes`. -/
def decryptRecoveryCodes (recoveryCodes : Option (List String)) :
    Except ThrownError (List String) :=
  (recoveryCodes.getD []).mapM (decrypt platform)

/-- `normalizeRecoveryCode`: the ASCII letters and digits, in upper case. -/
def normalizeRecoveryCode (value : String) : String :=
  String.ofList ((value.toList.filter Char.isAlphanum).map Char.toUpper)

/-- `verifyTotpToken`, which throws where the counter does not fit into two words. -/
def verifyTotpToken (secret token : String) (now : ℤ) : Except ThrownError Bool :=
  match TotpUtil.verifyTotpToken platform.hmacSha1 secret token now with
  | some accepted => .ok accepted
  | none => .error .other

/-- `verifyMfaChallenge`. -/
def verifyMfaChallenge (users : List UserEntity) (challengeToken : Token) (token : String)
    (now : ℤ) : Except ThrownError (LoginResponse Token) := do
  let user ← verifyMfaChallengeToken platform users challengeToken now
  if !user.mfaEnabled || !isPresent user.mfaSecretEncrypted then
    throw (.http (.badRequest "MFA is not enabled for this account."))
  let secret ← decrypt platform (user.mfaSecretEncrypted.getD "")
  if !(← verifyTotpToken platform secret token now) then
    throw (.http (.unauthorized "Invalid authenticator code."))
  return createAccessSession platform user none now

/-- `verifyMfaRecovery`, up to the save: the entity without the code that was
used. -/
def verifyMfaRecovery (users : List UserEntity) (challengeToken : Token) (recoveryCode : String)
    (ivs : ℕ → String) (now : ℤ) : Except ThrownError UserEntity := do
  let user ← verifyMfaChallengeToken platform users challengeToken now
  let recoveryCodes ← decryptRecoveryCodes platform user.mfaRecoveryCodes
  match recoveryCodes.findIdx? fun entry =>
      normalizeRecoveryCode entry = normalizeRecoveryCode recoveryCode with
  | none => throw (.http (.unauthorized "Invalid recovery code."))
  | some matchingIndex =>
      let remaining ← encryptRecoveryCodes platform ivs (recoveryCodes.eraseIdx matchingIndex)
      return { user with mfaRecoveryCodes := some remaining }

end Service

end AuthService
