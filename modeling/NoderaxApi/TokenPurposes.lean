/-
# What a token was minted for

The service mints tokens for four purposes and verifies them in five places.
The special-purpose verifiers compare the `type` of the payload and so accept
their own tokens only.  `validateJwtPayload` does not look at the `type`:
`verifyAccessToken` and `JwtStrategy` accept every token whose subject signs in
with the session version of the payload.
-/
import NoderaxApi.AuthService

namespace AuthService

/-! ## Minting operations and verifiers -/

/-- What a token is for. -/
inductive Purpose
  | access
  | mfaChallenge
  | terminalConnect
  | oidcState
  deriving DecidableEq, Repr

/-- The `type` in the payloads of a purpose. -/
def Purpose.type : Purpose → Option String
  | .access => none
  | .mfaChallenge => some "mfa_challenge"
  | .terminalConnect => some "terminal_session"
  | .oidcState => some "oidc_state"

theorem Purpose.type_injective {p q : Purpose} (h : p.type = q.type) : p = q := by
  cases p <;> cases q <;> first | rfl | exact absurd h (by decide)

/-- A minting operation with its inputs. -/
inductive Mint
  | accessSession (user : UserEntity)
  | mfaChallenge (user : UserEntity)
  | terminalConnect (user : AuthenticatedUser) (sessionId workspaceId jti : String)
  | oidcState (providerId redirectUri : String) (next : Option String)

/-- The purpose of a minting operation. -/
def Mint.purpose : Mint → Purpose
  | .accessSession _ => .access
  | .mfaChallenge _ => .mfaChallenge
  | .terminalConnect _ _ _ _ => .terminalConnect
  | .oidcState _ _ _ => .oidcState

/-- The payload it signs. -/
def Mint.payload : Mint → JwtPayload
  | .accessSession user => accessPayload user
  | .mfaChallenge user => mfaChallengePayload user
  | .terminalConnect user sessionId workspaceId jti =>
      terminalConnectPayload user sessionId workspaceId jti
  | .oidcState providerId redirectUri next => oidcStatePayload providerId redirectUri next

/-- The user it signs for, and the session version of that user. -/
def Mint.subject : Mint → Option (Uuid × ℕ)
  | .accessSession user | .mfaChallenge user => some (user.id, user.sessionVersion)
  | .terminalConnect user _ _ _ => some (user.id, user.sessionVersion.getD 0)
  | .oidcState _ _ _ => none

theorem Mint.payload_type (m : Mint) : m.payload.type = m.purpose.type := by
  cases m <;> rfl

/-- A verifier of the service. -/
inductive Verifier
  | accessToken
  | strategy
  | mfaChallengeToken
  | terminalConnectToken
  | oidcStateToken
  deriving DecidableEq, Repr

/-- What the verifier is there for. -/
def Verifier.purpose : Verifier → Purpose
  | .accessToken | .strategy => .access
  | .mfaChallengeToken => .mfaChallenge
  | .terminalConnectToken => .terminalConnect
  | .oidcStateToken => .oidcState

/-- The user signs in now: active, and with this session version. -/
def SignsIn (users : List UserEntity) (subject : Uuid × ℕ) : Prop :=
  ∃ user ∈ KeyedTable.find UserEntity.id users subject.1,
    user.isActive = true ∧ user.sessionVersion = subject.2

instance (users : List UserEntity) (subject : Uuid × ℕ) : Decidable (SignsIn users subject) := by
  unfold SignsIn; infer_instance

section Service

variable {Token : Type} (platform : AuthPlatform Token)

/-- How long its tokens last. -/
def Mint.expiresIn : Mint → String
  | .accessSession _ => platform.jwtExpiresIn
  | .mfaChallenge _ => mfaChallengeExpiry
  | .terminalConnect _ _ _ _ => terminalConnectTokenExpiry
  | .oidcState _ _ _ => oidcStateExpiry

/-- The token minted at a time. -/
def Mint.token (m : Mint) (mintedAt : ℤ) : Token :=
  match m with
  | .accessSession user => accessToken platform user mintedAt
  | .mfaChallenge user => createMfaChallengeToken platform user mintedAt
  | .terminalConnect user sessionId workspaceId jti =>
      (createTerminalConnectToken platform user sessionId workspaceId jti mintedAt).1
  | .oidcState providerId redirectUri next =>
      oidcStateToken platform providerId redirectUri next mintedAt

theorem Mint.token_eq (m : Mint) (mintedAt : ℤ) :
    m.token platform mintedAt = signAsync platform m.payload (m.expiresIn platform) mintedAt := by
  cases m <;> rfl

/-- The token has expired. -/
def Mint.Expired (m : Mint) (mintedAt now : ℤ) : Prop :=
  mintedAt / 1000 + platform.timespan (m.expiresIn platform) ≤ now / 1000

/-- The verifier returns. -/
def Verifier.accepts (users : List UserEntity) (used : List (String × ℤ)) (now : ℤ)
    (token : Token) : Verifier → Bool
  | .accessToken => (verifyAccessToken platform users token now).isOk
  | .strategy => (jwtStrategy platform users token now).isOk
  | .mfaChallengeToken => (verifyMfaChallengeToken platform users token now).isOk
  | .terminalConnectToken => (verifyTerminalConnectToken platform users used token now).1.isOk
  | .oidcStateToken => (verifyOidcStateToken platform token now).isOk

/-! ## Verifying what was signed -/

theorem isOk_iff {ε α : Type} {x : Except ε α} : x.isOk = true ↔ ∃ a, x = .ok a := by
  cases x with
  | error e => simp [Except.isOk, Except.toBool]
  | ok a => simp [Except.isOk, Except.toBool]

theorem verifying_eq_ok {α : Type} {body : Except ThrownError α} {a : α} :
    verifying body = .ok a ↔ body = .ok a :=
  mapError_eq_ok

theorem verifying_isOk {α : Type} (body : Except ThrownError α) :
    (verifying body).isOk = body.isOk := by
  rw [Bool.eq_iff_iff, isOk_iff, isOk_iff]
  exact exists_congr fun a => verifying_eq_ok

variable {platform} {payload payload' : JwtPayload} {expiresIn : String} {mintedAt now : ℤ}
  {users : List UserEntity} {used : List (String × ℤ)} {token : Token}

/-- A signed token verifies until it expires, as what was signed. -/
theorem verifyAsync_signAsync (hjwt : platform.jwt.Lawful) :
    verifyAsync platform (signAsync platform payload expiresIn mintedAt) now = .ok payload' ↔
      now / 1000 < mintedAt / 1000 + platform.timespan expiresIn ∧ payload = payload' :=
  mapError_eq_ok.trans hjwt.verify_sign_eq_ok

/-- The payload of a minted token that verifies. -/
theorem Mint.payload_of_verifyAsync (hjwt : platform.jwt.Lawful) {m : Mint}
    (h : verifyAsync platform (m.token platform mintedAt) now = .ok payload) :
    payload = m.payload := by
  rw [Mint.token_eq] at h
  exact ((verifyAsync_signAsync hjwt).mp h).2.symm

/-- `validateJwtPayload` looks at the subject and the session version only. -/
theorem validateJwtPayload_isOk {id : Uuid} (hsub : payload.sub = some id) :
    (validateJwtPayload users payload).isOk = true ↔
      ∃ user ∈ KeyedTable.find UserEntity.id users id,
        user.isActive = true ∧ some user.sessionVersion = payload.sessionVersion := by
  unfold validateJwtPayload findOneOrFail
  rw [hsub]
  cases hfind : KeyedTable.find UserEntity.id users id with
  | none => simp [hfind, Except.isOk, Except.toBool]
  | some user =>
      by_cases hstale : some user.sessionVersion = payload.sessionVersion
      · by_cases hactive : user.isActive = true
        · simp [hfind, hstale, hactive, Except.isOk, Except.toBool]
        · simp [hfind, hactive, Except.isOk, Except.toBool]
      · simp [hfind, hstale, Except.isOk, Except.toBool]

/-- Without a session version nothing is accepted, whatever row is found. -/
theorem validateJwtPayload_unversioned (hversion : payload.sessionVersion = none) :
    (validateJwtPayload users payload).isOk = false := by
  unfold validateJwtPayload
  split
  · rfl
  · rw [hversion]
    simp [Except.isOk, Except.toBool]

/-- **Which minted payloads are let in**: those of a user who signs in with the
session version they carry, of any purpose. -/
theorem validateJwtPayload_mint (m : Mint) :
    (validateJwtPayload users m.payload).isOk = true ↔
      ∃ subject ∈ m.subject, SignsIn users subject := by
  have hsubject : ∀ id version, m.subject = some (id, version) → m.payload.sub = some id →
      m.payload.sessionVersion = some version →
      ((validateJwtPayload users m.payload).isOk = true ↔
        ∃ subject ∈ m.subject, SignsIn users subject) := by
    intro id version hsubject hsub hversion
    rw [validateJwtPayload_isOk hsub, hversion, hsubject]
    simp [SignsIn]
  cases m with
  | accessSession user => exact hsubject _ _ rfl rfl rfl
  | mfaChallenge user => exact hsubject _ _ rfl rfl rfl
  | terminalConnect user sessionId workspaceId jti => exact hsubject _ _ rfl rfl rfl
  | oidcState providerId redirectUri next =>
      have hrefused : (validateJwtPayload users (oidcStatePayload providerId redirectUri next)).isOk
          = false := validateJwtPayload_unversioned rfl
      simp [Mint.payload, Mint.subject, hrefused]

/-! ## The special-purpose verifiers -/

theorem verifyMfaChallengeToken_type {user : UserEntity}
    (h : verifyMfaChallengeToken platform users token now = .ok user) :
    ∃ payload, verifyAsync platform token now = .ok payload ∧
      payload.type = Purpose.mfaChallenge.type := by
  obtain ⟨payload, hpayload, hrest⟩ := bind_eq_ok.mp (verifying_eq_ok.mp h)
  refine ⟨payload, hpayload, ?_⟩
  by_contra htype
  have htype : payload.type ≠ some "mfa_challenge" := htype
  rw [if_pos htype] at hrest
  cases hrest

theorem verifyOidcStateToken_type
    (h : verifyOidcStateToken platform token now = .ok payload) :
    ∃ payload, verifyAsync platform token now = .ok payload ∧
      payload.type = Purpose.oidcState.type := by
  obtain ⟨payload, hpayload, hrest⟩ := bind_eq_ok.mp (verifying_eq_ok.mp h)
  refine ⟨payload, hpayload, ?_⟩
  by_contra htype
  have htype : payload.type ≠ some "oidc_state" := htype
  rw [if_pos htype] at hrest
  cases hrest

theorem verifyTerminalConnectToken_type {connection : TerminalConnection}
    (h : (verifyTerminalConnectToken platform users used token now).1 = .ok connection) :
    ∃ payload, verifyAsync platform token now = .ok payload ∧
      payload.type = Purpose.terminalConnect.type := by
  unfold verifyTerminalConnectToken at h
  split at h
  · cases h
  · next payload hpayload =>
      refine ⟨payload, hpayload, ?_⟩
      by_contra htype
      have htype : payload.type ≠ some "terminal_session" := htype
      rw [if_pos (by simp [htype])] at h
      cases h

/-- **A special-purpose verifier** accepts only tokens of its purpose. -/
theorem Verifier.purpose_of_accepts (hjwt : platform.jwt.Lawful) {v : Verifier} {m : Mint}
    (hspecial : v.purpose ≠ .access)
    (h : v.accepts platform users used now (m.token platform mintedAt) = true) :
    m.purpose = v.purpose := by
  have hof : ∀ {purpose : Purpose},
      (∃ payload, verifyAsync platform (m.token platform mintedAt) now = .ok payload ∧
        payload.type = purpose.type) → m.purpose = purpose := by
    rintro purpose ⟨payload, hpayload, htype⟩
    rw [Mint.payload_of_verifyAsync hjwt hpayload, Mint.payload_type] at htype
    exact Purpose.type_injective htype
  cases v with
  | accessToken => exact absurd rfl hspecial
  | strategy => exact absurd rfl hspecial
  | mfaChallengeToken =>
      obtain ⟨user, huser⟩ := isOk_iff.mp h
      exact hof (verifyMfaChallengeToken_type huser)
  | terminalConnectToken =>
      obtain ⟨connection, hconnection⟩ := isOk_iff.mp h
      exact hof (verifyTerminalConnectToken_type hconnection)
  | oidcStateToken =>
      obtain ⟨payload, hpayload⟩ := isOk_iff.mp h
      exact hof (verifyOidcStateToken_type hpayload)

/-! ## The access verifiers -/

theorem jwtStrategy_isOk :
    (jwtStrategy platform users token now).isOk = true ↔
      ∃ payload, verifyAsync platform token now = .ok payload ∧
        (validateJwtPayload users payload).isOk = true := by
  rw [isOk_iff]
  constructor
  · rintro ⟨user, huser⟩
    obtain ⟨payload, hpayload, hvalid⟩ := bind_eq_ok.mp huser
    exact ⟨payload, hpayload, isOk_iff.mpr ⟨user, hvalid⟩⟩
  · rintro ⟨payload, hpayload, hvalid⟩
    obtain ⟨user, huser⟩ := isOk_iff.mp hvalid
    exact ⟨user, bind_eq_ok.mpr ⟨payload, hpayload, huser⟩⟩

/-- `verifyAccessToken` and `JwtStrategy` accept the same tokens. -/
theorem verifyAccessToken_isOk :
    (verifyAccessToken platform users token now).isOk
      = (jwtStrategy platform users token now).isOk :=
  verifying_isOk _

/-- **An access verifier** accepts a minted token until it expires, as long as
its subject signs in; the purpose does not matter. -/
theorem Verifier.accepts_access (hjwt : platform.jwt.Lawful) {v : Verifier} (m : Mint)
    (haccess : v.purpose = .access) :
    v.accepts platform users used now (m.token platform mintedAt) = true ↔
      ¬ m.Expired platform mintedAt now ∧ ∃ subject ∈ m.subject, SignsIn users subject := by
  have hstrategy : (jwtStrategy platform users (m.token platform mintedAt) now).isOk = true ↔
      ¬ m.Expired platform mintedAt now ∧ ∃ subject ∈ m.subject, SignsIn users subject := by
    rw [jwtStrategy_isOk, ← validateJwtPayload_mint, Mint.token_eq, Mint.Expired, not_le]
    constructor
    · rintro ⟨payload, hpayload, hvalid⟩
      obtain ⟨hlive, rfl⟩ := (verifyAsync_signAsync hjwt).mp hpayload
      exact ⟨hlive, hvalid⟩
    · rintro ⟨hlive, hvalid⟩
      exact ⟨m.payload, (verifyAsync_signAsync hjwt).mpr ⟨hlive, rfl⟩, hvalid⟩
  cases v with
  | accessToken =>
      show (verifyAccessToken platform users _ now).isOk = true ↔ _
      rw [verifyAccessToken_isOk]
      exact hstrategy
  | strategy => exact hstrategy
  | mfaChallengeToken => cases haccess
  | terminalConnectToken => cases haccess
  | oidcStateToken => cases haccess

/-- **When purposes are kept apart**: at the special-purpose verifiers always, at
the access verifiers for the tokens they would refuse anyway. -/
theorem Verifier.keeps_purpose_iff (hjwt : platform.jwt.Lawful) (v : Verifier) (m : Mint) :
    (v.accepts platform users used now (m.token platform mintedAt) = true → m.purpose = v.purpose) ↔
      (v.purpose = .access → m.purpose = .access ∨ m.Expired platform mintedAt now ∨
        ∀ subject ∈ m.subject, ¬ SignsIn users subject) := by
  by_cases haccess : v.purpose = .access
  · rw [accepts_access hjwt m haccess, haccess]
    constructor
    · intro hkeeps _
      by_contra hnone
      rw [not_or, not_or] at hnone
      obtain ⟨hpurpose, hlive, hsigns⟩ := hnone
      refine hpurpose (hkeeps ⟨hlive, ?_⟩)
      by_contra hnever
      refine hsigns fun subject hsubject hin => hnever ⟨subject, hsubject, hin⟩
    · rintro hcond ⟨hlive, subject, hsubject, hin⟩
      rcases hcond rfl with hpurpose | hexpired | hnever
      · exact hpurpose
      · exact absurd hexpired hlive
      · exact absurd hin (hnever subject hsubject)
  · constructor
    · intro _ hsame
      exact absurd hsame haccess
    · intro _ haccepts
      exact purpose_of_accepts hjwt haccess haccepts

end Service

end AuthService
