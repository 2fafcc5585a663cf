/-
# Signing in with a second factor

Any interleaving of `login`, `verifyMfaChallenge`, `verifyMfaRecovery` and
requests with a bearer token.  The history says which tokens the service handed
out, after which checks, and which requests were authenticated.

If no request bears a token that carries a `type`, every authenticated request of
a user with MFA bears a token handed out after a second factor.  A request that
bears the MFA challenge itself is authenticated too.
-/
import NoderaxApi.TokenPurposes
import NoderaxApi.Interleaving
import NoderaxApi.Histories

namespace AuthService

open Histories Interleaving Runs

/-! ## The calls -/

/-- What signing in has come to. -/
inductive AuthFact (Token : Type)
  /-- An MFA challenge was handed out after the password. -/
  | challenge (userId : Uuid) (token : Token)
  /-- An access token was handed out, after a second factor or without. -/
  | session (userId : Uuid) (token : Token) (secondFactor : Bool)
  /-- A request with this token was authenticated as the user. -/
  | authenticated (userId : Uuid) (mfaEnabled : Bool) (token : Token)
  deriving DecidableEq, Repr

/-- The token that an entry hands out. -/
def AuthFact.hands {Token : Type} : AuthFact Token → Option Token
  | .challenge _ token | .session _ token _ => some token
  | .authenticated _ _ _ => none

/-- The tokens of a response. -/
def LoginResponse.facts {Token : Type} (response : LoginResponse Token) (secondFactor : Bool) :
    List (AuthFact Token) :=
  (response.mfaChallengeToken.toList.map fun token => .challenge response.user.id token) ++
    response.accessToken.toList.map fun token => .session response.user.id token secondFactor

/-- The `mfaEnabled` column of a user. -/
def mfaColumn (users : List UserEntity) (id : Uuid) : Option Bool :=
  (KeyedTable.find UserEntity.id users id).map UserEntity.mfaEnabled

/-- The `users` table, the clock, and the history, the latest entry last. -/
structure AuthWorld (Token : Type) where
  users : List UserEntity
  clock : ℤ
  history : List (AuthFact Token) := []

/-- More entries. -/
def AuthWorld.record {Token : Type} (w : AuthWorld Token) (facts : List (AuthFact Token)) :
    AuthWorld Token :=
  { w with history := w.history ++ facts }

/-- `usersRepository.save(user)`. -/
def AuthWorld.saveUser {Token : Type} (w : AuthWorld Token) (user : UserEntity) : AuthWorld Token :=
  { w with users := w.users.map fun row => if row.id = user.id then user.saveOver row else row }

/-- A request of a client. -/
inductive AuthRequest (Token : Type)
  | login (email password : String)
  | verifyMfaChallenge (challengeToken : Token) (code : String)
  | verifyMfaRecovery (challengeToken : Token) (recoveryCode : String)
  /-- Any other HTTP request, with its bearer token. -/
  | bearer (token : Token)
  /-- A websocket connection, with its token. -/
  | socket (token : Token)

/-- The token that a client presents. -/
def AuthRequest.token : {Token : Type} → AuthRequest Token → Option Token
  | _, .login _ _ => none
  | _, .verifyMfaChallenge token _ | _, .verifyMfaRecovery token _ => some token
  | _, .bearer token | _, .socket token => some token

/-- The token presented as an access token. -/
def AuthRequest.borne : {Token : Type} → AuthRequest Token → Option Token
  | _, .login _ _ | _, .verifyMfaChallenge _ _ | _, .verifyMfaRecovery _ _ => none
  | _, .bearer token | _, .socket token => some token

/-- What is left of a call: the save of `verifyMfaRecovery`. -/
inductive PendingAuth
  | recoverySave (user : UserEntity)

/-- The initialization vectors that a step draws. -/
structure AuthInput where
  ivs : ℕ → String := fun _ => ""

section Calls

variable {Token : Type} (platform : AuthPlatform Token)

/-- A request that was authenticated as `user`. -/
def AuthWorld.authenticate (w : AuthWorld Token) (token : Token)
    (verified : Except ThrownError AuthenticatedUser) : AuthWorld Token :=
  match verified with
  | .error _ => w
  | .ok user =>
      w.record [.authenticated user.id ((mfaColumn w.users user.id).getD false) token]

/-- The first database step of a call, with what follows it up to the next. -/
def invokeAuth (request : AuthRequest Token) (input : AuthInput) (w : AuthWorld Token) :
    AuthWorld Token × Option PendingAuth :=
  match request with
  | .login email password =>
      match login platform w.users email password w.clock with
      | .error _ => (w, none)
      | .ok response => (w.record (response.facts false), none)
  | .verifyMfaChallenge challengeToken code =>
      match verifyMfaChallenge platform w.users challengeToken code w.clock with
      | .error _ => (w, none)
      | .ok response => (w.record (response.facts true), none)
  | .verifyMfaRecovery challengeToken recoveryCode =>
      match verifyMfaRecovery platform w.users challengeToken recoveryCode input.ivs w.clock with
      | .error _ => (w, none)
      | .ok user => (w, some (.recoverySave user))
  | .bearer token => (w.authenticate token (jwtStrategy platform w.users token w.clock), none)
  | .socket token =>
      (w.authenticate token (verifyAccessToken platform w.users token w.clock), none)

/-- The save of `verifyMfaRecovery`, and its answer. -/
def resumeAuth (call : PendingAuth) (_ : AuthInput) (w : AuthWorld Token) :
    AuthWorld Token × Option PendingAuth :=
  match call with
  | .recoverySave user =>
      ((w.saveUser user).record ((createAccessSession platform user none w.clock).facts true), none)

/-- Time passes. -/
def authEnv (ms : ℕ) (w : AuthWorld Token) : AuthWorld Token :=
  { w with clock := w.clock + ms }

/-- The family of the calls. -/
def authCalls : Calls (AuthWorld Token) (AuthRequest Token) PendingAuth AuthInput :=
  ⟨invokeAuth platform, resumeAuth platform⟩

/-- A state of the calls, which are numbered. -/
abbrev AuthConfig (Token : Type) := Config ℕ (AuthWorld Token) PendingAuth

/-- An event of the calls. -/
abbrev AuthEvent (Token : Type) := Event ℕ (AuthRequest Token) AuthInput ℕ

/-- The state before the first event: no token is out. -/
abbrev authStart (users : List UserEntity) (clock : ℤ) : AuthConfig Token :=
  Config.idle { users := users, clock := clock }

/-- The state after the events `es`. -/
abbrev authRun (users : List UserEntity) (clock : ℤ) (es : List (AuthEvent Token)) :
    AuthConfig Token :=
  run (Interleaving.step (authCalls platform) authEnv) (authStart users clock) es

/-! ## Conditions on the tokens presented -/

/-- The token was handed out. -/
def Handed (history : List (AuthFact Token)) (token : Token) : Prop :=
  ∃ fact ∈ history, fact.hands = some token

/-- Clients cannot sign: a token that verifies was handed out before. -/
def PresentsHanded (w : AuthWorld Token) (request : AuthRequest Token) (_ : AuthInput) : Prop :=
  ∀ token ∈ request.token, (verifyAsync platform token w.clock).isOk = true →
    Handed w.history token

/-- A request does not bear a token that carries a `type`. -/
def BearsUntyped (w : AuthWorld Token) (request : AuthRequest Token) (_ : AuthInput) : Prop :=
  ∀ token ∈ request.borne, ∀ payload ∈ (verifyAsync platform token w.clock).toOption,
    payload.type = none

instance [DecidableEq Token] (history : List (AuthFact Token)) (token : Token) :
    Decidable (Handed history token) := by
  unfold Handed; infer_instance

instance [DecidableEq Token] (w : AuthWorld Token) (request : AuthRequest Token)
    (input : AuthInput) : Decidable (PresentsHanded platform w request input) := by
  unfold PresentsHanded; infer_instance

instance (w : AuthWorld Token) (request : AuthRequest Token) (input : AuthInput) :
    Decidable (BearsUntyped platform w request input) := by
  unfold BearsUntyped; infer_instance

/-- A guard on the invoked steps only. -/
def InvokeGuard (Gi : AuthWorld Token → AuthRequest Token → AuthInput → Prop) :
    AuthConfig Token → AuthEvent Token → Prop :=
  Guard Gi (fun _ _ _ => True) (fun _ _ => True)

/-- No token is forged. -/
def Unforged : AuthConfig Token → AuthEvent Token → Prop := InvokeGuard (PresentsHanded platform)

/-- No token is forged, and no request bears a token that carries a `type`. -/
def BearsAccessTokens : AuthConfig Token → AuthEvent Token → Prop :=
  InvokeGuard fun w request input =>
    PresentsHanded platform w request input ∧ BearsUntyped platform w request input

instance [DecidableEq Token] (c : AuthConfig Token) (e : AuthEvent Token) :
    Decidable (Unforged platform c e) := by
  unfold Unforged InvokeGuard; infer_instance

instance [DecidableEq Token] (c : AuthConfig Token) (e : AuthEvent Token) :
    Decidable (BearsAccessTokens platform c e) := by
  unfold BearsAccessTokens InvokeGuard; infer_instance

end Calls

/-! ## What the responses hand out -/

section Service

variable {Token : Type} {platform : AuthPlatform Token} {users : List UserEntity} {now : ℤ}
  {user : UserEntity}

theorem createAccessSession_facts {redirectPath : Option String} {secondFactor : Bool} :
    (createAccessSession platform user redirectPath now).facts secondFactor
      = [.session user.id (accessToken platform user now) secondFactor] :=
  rfl

/-- After the password, a user with MFA is handed a challenge, and only a user
without MFA an access token. -/
theorem login_facts {email password : String} {response : LoginResponse Token}
    (h : login platform users email password now = .ok response) :
    ∃ user ∈ users,
      (user.mfaEnabled = true ∧
        response.facts false = [.challenge user.id (createMfaChallengeToken platform user now)]) ∨
      (user.mfaEnabled = false ∧
        response.facts false = [.session user.id (accessToken platform user now) false]) := by
  unfold login at h
  split at h
  · cases h
  · next user hfind =>
      refine ⟨user, List.mem_of_find?_eq_some hfind, ?_⟩
      split_ifs at h with hhash hactive hpassword hmfa
      · cases h
        exact Or.inl ⟨hmfa, rfl⟩
      · cases h
        exact Or.inr ⟨by simpa using hmfa, rfl⟩

/-- The user of a challenge is a row of the table. -/
theorem verifyMfaChallengeToken_find {token : Token}
    (h : verifyMfaChallengeToken platform users token now = .ok user) :
    KeyedTable.find UserEntity.id users user.id = some user := by
  obtain ⟨payload, -, hrest⟩ := bind_eq_ok.mp (verifying_eq_ok.mp h)
  dsimp only at hrest
  split at hrest
  · cases hrest
  obtain ⟨loaded, hload, hrest⟩ := bind_eq_ok.mp hrest
  split at hrest
  · cases hrest
  cases hrest
  unfold loadUserWithMfa at hload
  split at hload
  · cases hload
  · next id =>
      split at hload
      · cases hload
      · next found hfind =>
          cases hload
          rw [KeyedTable.key_of_find hfind]
          exact hfind

/-- The code is one of the authenticator app of the user. -/
def AcceptsCode (platform : AuthPlatform Token) (users : List UserEntity) (id : Uuid)
    (code : String) (now : ℤ) : Prop :=
  ∃ user, KeyedTable.find UserEntity.id users id = some user ∧
    ∃ secret, decrypt platform (user.mfaSecretEncrypted.getD "") = .ok secret ∧
      TotpUtil.verifyTotpToken platform.hmacSha1 secret code now = some true

/-- The code is a recovery code of the user. -/
def AcceptsRecoveryCode (platform : AuthPlatform Token) (users : List UserEntity) (id : Uuid)
    (recoveryCode : String) : Prop :=
  ∃ user, KeyedTable.find UserEntity.id users id = some user ∧
    ∃ codes, decryptRecoveryCodes platform user.mfaRecoveryCodes = .ok codes ∧
      ∃ entry ∈ codes, normalizeRecoveryCode entry = normalizeRecoveryCode recoveryCode

theorem verifyTotpToken_eq_true {secret code : String}
    (h : verifyTotpToken platform secret code now = .ok true) :
    TotpUtil.verifyTotpToken platform.hmacSha1 secret code now = some true := by
  unfold verifyTotpToken at h
  split at h
  · next accepted haccepted =>
      rw [haccepted, Except.ok.inj h]
  · cases h

theorem verifyMfaChallenge_facts {challengeToken : Token} {code : String}
    {response : LoginResponse Token}
    (h : verifyMfaChallenge platform users challengeToken code now = .ok response) :
    ∃ user : UserEntity,
      response.facts true = [.session user.id (accessToken platform user now) true] ∧
        AcceptsCode platform users user.id code now := by
  obtain ⟨user, huser, hrest⟩ := bind_eq_ok.mp h
  dsimp only at hrest
  split at hrest
  · cases hrest
  obtain ⟨secret, hsecret, hrest⟩ := bind_eq_ok.mp hrest
  obtain ⟨accepted, haccepted, hrest⟩ := bind_eq_ok.mp hrest
  cases accepted with
  | false => cases hrest
  | true =>
      cases hrest
      exact ⟨user, rfl, user, verifyMfaChallengeToken_find huser, secret, hsecret,
        verifyTotpToken_eq_true haccepted⟩

/-- The entity that `verifyMfaRecovery` saves: the row, with fewer codes. -/
theorem verifyMfaRecovery_find {challengeToken : Token} {recoveryCode : String} {ivs : ℕ → String}
    (h : verifyMfaRecovery platform users challengeToken recoveryCode ivs now = .ok user) :
    (∃ row, KeyedTable.find UserEntity.id users user.id = some row ∧
      user.mfaEnabled = row.mfaEnabled) ∧
        AcceptsRecoveryCode platform users user.id recoveryCode := by
  obtain ⟨row, hrow, hrest⟩ := bind_eq_ok.mp h
  obtain ⟨recoveryCodes, hcodes, hrest⟩ := bind_eq_ok.mp hrest
  have hfind := verifyMfaChallengeToken_find hrow
  split at hrest
  · cases hrest
  · next index hindex =>
      obtain ⟨remaining, -, hreturn⟩ := bind_eq_ok.mp hrest
      cases hreturn
      obtain ⟨hlt, hentry, -⟩ := List.findIdx?_eq_some_iff_getElem.mp hindex
      exact ⟨⟨row, hfind, rfl⟩, row, hfind, recoveryCodes, hcodes, _, List.getElem_mem hlt,
        of_decide_eq_true hentry⟩

/-- The user that a payload is accepted for. -/
theorem validateJwtPayload_id {payload : JwtPayload} {id : Uuid} {authenticated : AuthenticatedUser}
    (hsub : payload.sub = some id)
    (h : validateJwtPayload users payload = .ok authenticated) : authenticated.id = id := by
  unfold validateJwtPayload findOneOrFail at h
  rw [hsub] at h
  cases hfind : KeyedTable.find UserEntity.id users id with
  | none =>
      simp only [hfind] at h
      cases h
  | some user =>
      simp only [hfind] at h
      split_ifs at h
      cases h
      show user.id = id
      exact KeyedTable.key_of_find hfind

end Service

/-! ## The invariant -/

section Invariant

variable {Token : Type} (platform : AuthPlatform Token)

/-- What the tokens of the history are, and who got one without a second
factor. -/
def AuthFact.Means (users : List UserEntity) : AuthFact Token → Prop
  | .challenge _ token => ∃ user mintedAt, token = createMfaChallengeToken platform user mintedAt
  | .session id token secondFactor =>
      (∃ user mintedAt, user.id = id ∧ token = accessToken platform user mintedAt) ∧
        (secondFactor = false → mfaColumn users id ≠ some true)
  | .authenticated _ _ _ => True

/-- The authenticated request of a user with MFA bears a token that was handed
out after a second factor. -/
def AuthFact.Allowed (past : List (AuthFact Token)) : AuthFact Token → Prop
  | .authenticated id mfaEnabled token => mfaEnabled = true → .session id token true ∈ past
  | _ => True

/-- The history is in order, and its tokens are what it says. -/
structure AuthInv (w : AuthWorld Token) : Prop where
  history : Justified AuthFact.Allowed w.history
  means : ∀ fact ∈ w.history, fact.Means platform w.users
  keys : (w.users.map UserEntity.id).Nodup

/-- The entity that is saved agrees with the row on `mfaEnabled`. -/
def KeepsFactor (w : AuthWorld Token) : PendingAuth → Prop
  | .recoverySave user => ∀ column ∈ mfaColumn w.users user.id, column = user.mfaEnabled

variable {platform} {w : AuthWorld Token}

/-- One more entry in order. -/
theorem AuthInv.record {fact : AuthFact Token} (h : AuthInv platform w)
    (hallowed : fact.Allowed w.history) (hmeans : fact.Means platform w.users) :
    AuthInv platform (w.record [fact]) where
  history := justified_concat.mpr ⟨h.history, hallowed⟩
  means := by
    intro entry hentry
    rcases List.mem_append.mp hentry with hold | hnew
    · exact h.means entry hold
    · rw [List.mem_singleton.mp hnew]
      exact hmeans
  keys := h.keys

/-! ## The save -/

theorem AuthWorld.find_saveUser (user : UserEntity) (id : Uuid) :
    KeyedTable.find UserEntity.id (w.saveUser user).users id
      = (KeyedTable.find UserEntity.id w.users id).map fun row =>
          if row.id = user.id then user.saveOver row else row := by
  refine KeyedTable.find_map ?_ w.users id
  intro row
  split
  · next hid => exact hid.symm
  · rfl

/-- The save changes no `mfaEnabled`. -/
theorem mfaColumn_saveUser {user : UserEntity} (hkeeps : KeepsFactor w (.recoverySave user))
    (id : Uuid) : mfaColumn (w.saveUser user).users id = mfaColumn w.users id := by
  unfold mfaColumn
  rw [AuthWorld.find_saveUser, Option.map_map]
  cases hfind : KeyedTable.find UserEntity.id w.users id with
  | none => rfl
  | some row =>
      show some (if row.id = user.id then user.saveOver row else row).mfaEnabled
        = some row.mfaEnabled
      split
      · next hid =>
          have hcolumn : row.mfaEnabled ∈ mfaColumn w.users user.id := by
            unfold mfaColumn
            rw [← hid, KeyedTable.key_of_find hfind, hfind]
            rfl
          exact congrArg some (hkeeps _ hcolumn).symm
      · rfl

theorem ids_saveUser (user : UserEntity) :
    (w.saveUser user).users.map UserEntity.id = w.users.map UserEntity.id := by
  refine KeyedTable.map_key_map ?_ w.users
  intro row
  split
  · next hid => exact hid.symm
  · rfl

theorem AuthFact.Means.of_columns {users users' : List UserEntity} {fact : AuthFact Token}
    (hcolumns : ∀ id, mfaColumn users' id = mfaColumn users id)
    (h : fact.Means platform users) : fact.Means platform users' := by
  cases fact with
  | session id token secondFactor =>
      refine ⟨h.1, ?_⟩
      rw [hcolumns id]
      exact h.2
  | _ => exact h

theorem KeepsFactor.of_columns {w' : AuthWorld Token} {call : PendingAuth}
    (hcolumns : ∀ id, mfaColumn w'.users id = mfaColumn w.users id)
    (h : KeepsFactor w call) : KeepsFactor w' call := by
  cases call with
  | recoverySave user =>
      show ∀ column ∈ mfaColumn w'.users user.id, column = user.mfaEnabled
      rw [hcolumns user.id]
      exact h

theorem AuthInv.saveUser {user : UserEntity} (h : AuthInv platform w)
    (hkeeps : KeepsFactor w (.recoverySave user)) : AuthInv platform (w.saveUser user) where
  history := h.history
  means := fun fact hfact => (h.means fact hfact).of_columns (mfaColumn_saveUser hkeeps)
  keys := by
    rw [ids_saveUser]
    exact h.keys

/-! ## A request with a token -/

/-- **An authenticated request** of a user with MFA, whose token carries no
`type`: the token was handed out after a second factor. -/
theorem session_of_jwtStrategy (hjwt : platform.jwt.Lawful) (h : AuthInv platform w) {token : Token}
    {user : AuthenticatedUser} (hhanded : Handed w.history token)
    (huntyped : ∀ payload ∈ (verifyAsync platform token w.clock).toOption, payload.type = none)
    (haccepted : jwtStrategy platform w.users token w.clock = .ok user)
    (hmfa : mfaColumn w.users user.id = some true) : .session user.id token true ∈ w.history := by
  obtain ⟨payload, hpayload, hvalid⟩ := bind_eq_ok.mp haccepted
  have htype : payload.type = none := huntyped payload (by rw [hpayload]; rfl)
  obtain ⟨fact, hfact, hhands⟩ := hhanded
  have hmeans := h.means fact hfact
  cases fact with
  | challenge id minted =>
      obtain ⟨owner, mintedAt, rfl⟩ := hmeans
      cases hhands
      have hsigned : payload = (Mint.mfaChallenge owner).payload :=
        Mint.payload_of_verifyAsync hjwt hpayload
      rw [hsigned] at htype
      cases htype
  | session id minted secondFactor =>
      obtain ⟨⟨owner, mintedAt, hid, rfl⟩, hwithout⟩ := hmeans
      cases hhands
      have hsigned : payload = (Mint.accessSession owner).payload :=
        Mint.payload_of_verifyAsync hjwt hpayload
      have huser : user.id = id := by
        rw [← hid]
        refine validateJwtPayload_id ?_ hvalid
        rw [hsigned]
        rfl
      cases secondFactor with
      | false =>
          rw [huser] at hmfa
          exact absurd hmfa (hwithout rfl)
      | true =>
          rw [huser]
          exact hfact
  | authenticated id mfaEnabled minted => cases hhands

theorem verifyAccessToken_eq_ok {users : List UserEntity} {token : Token} {now : ℤ}
    {user : AuthenticatedUser} (h : verifyAccessToken platform users token now = .ok user) :
    jwtStrategy platform users token now = .ok user :=
  verifying_eq_ok.mp h

/-- The entry that `authenticate` makes is in order. -/
theorem AuthInv.authenticate (hjwt : platform.jwt.Lawful) (h : AuthInv platform w) {token : Token}
    {verified : Except ThrownError AuthenticatedUser}
    (hstrategy : ∀ user, verified = .ok user →
      jwtStrategy platform w.users token w.clock = .ok user)
    (hhanded : (verifyAsync platform token w.clock).isOk = true → Handed w.history token)
    (huntyped : ∀ payload ∈ (verifyAsync platform token w.clock).toOption, payload.type = none) :
    AuthInv platform (w.authenticate token verified) := by
  cases verified with
  | error e => exact h
  | ok user =>
      refine h.record ?_ trivial
      intro hmfa
      have haccepted := hstrategy user rfl
      obtain ⟨payload, hpayload, -⟩ := bind_eq_ok.mp haccepted
      have hverified : (verifyAsync platform token w.clock).isOk = true :=
        isOk_iff.mpr ⟨payload, hpayload⟩
      refine session_of_jwtStrategy hjwt h (hhanded hverified) huntyped haccepted ?_
      cases hcolumn : mfaColumn w.users user.id with
      | none =>
          rw [hcolumn] at hmfa
          cases hmfa
      | some column =>
          rw [hcolumn] at hmfa
          exact congrArg some hmfa

/-! ## The proof outline -/

theorem authInv_invoke (hjwt : platform.jwt.Lawful) (h : AuthInv platform w)
    {request : AuthRequest Token} {input : AuthInput}
    (hpresents : PresentsHanded platform w request input)
    (hbears : BearsUntyped platform w request input) :
    AuthInv platform (invokeAuth platform request input w).1 ∧
      ∀ call, (invokeAuth platform request input w).2 = some call →
        KeepsFactor (invokeAuth platform request input w).1 call := by
  cases request with
  | login email password =>
      simp only [invokeAuth]
      split
      · exact ⟨h, fun _ hcall => by cases hcall⟩
      · next response hresponse =>
          refine ⟨?_, fun _ hcall => by cases hcall⟩
          obtain ⟨user, huser, ⟨-, hfacts⟩ | ⟨hmfa, hfacts⟩⟩ := login_facts hresponse
          · rw [hfacts]
            exact h.record trivial ⟨user, w.clock, rfl⟩
          · rw [hfacts]
            refine h.record trivial ⟨⟨user, w.clock, rfl, rfl⟩, fun _ => ?_⟩
            -- the row found by its email is the one of its id
            unfold mfaColumn
            rw [KeyedTable.find_of_mem h.keys huser, Option.map_some, hmfa]
            decide
  | verifyMfaChallenge challengeToken code =>
      simp only [invokeAuth]
      split
      · exact ⟨h, fun _ hcall => by cases hcall⟩
      · next response hresponse =>
          refine ⟨?_, fun _ hcall => by cases hcall⟩
          obtain ⟨user, hfacts, -⟩ := verifyMfaChallenge_facts hresponse
          rw [hfacts]
          exact h.record trivial ⟨⟨user, w.clock, rfl, rfl⟩, fun hfalse => by cases hfalse⟩
  | verifyMfaRecovery challengeToken recoveryCode =>
      simp only [invokeAuth]
      split
      · exact ⟨h, fun _ hcall => by cases hcall⟩
      · next user huser =>
          refine ⟨h, ?_⟩
          intro call hcall
          cases hcall
          obtain ⟨⟨row, hfind, hmfa⟩, -⟩ := verifyMfaRecovery_find huser
          show ∀ column ∈ mfaColumn w.users user.id, column = user.mfaEnabled
          unfold mfaColumn
          rw [hfind, hmfa]
          intro column hcolumn
          exact (Option.some.inj hcolumn).symm
  | bearer token =>
      refine ⟨?_, fun _ hcall => by cases hcall⟩
      exact h.authenticate hjwt (fun _ haccepted => haccepted) (hpresents token rfl)
        (hbears token rfl)
  | socket token =>
      refine ⟨?_, fun _ hcall => by cases hcall⟩
      exact h.authenticate hjwt (fun _ haccepted => verifyAccessToken_eq_ok haccepted)
        (hpresents token rfl) (hbears token rfl)

theorem authInv_resume (h : AuthInv platform w) {call : PendingAuth} (input : AuthInput)
    (hkeeps : KeepsFactor w call) : AuthInv platform (resumeAuth platform call input w).1 := by
  cases call with
  | recoverySave user =>
      have hsaved : AuthInv platform (w.saveUser user) := h.saveUser hkeeps
      show AuthInv platform ((w.saveUser user).record _)
      rw [createAccessSession_facts]
      exact hsaved.record trivial ⟨⟨user, w.clock, rfl, rfl⟩, fun hfalse => by cases hfalse⟩

/-- The first step of a call writes no user. -/
theorem users_invokeAuth (request : AuthRequest Token) (input : AuthInput) (w : AuthWorld Token) :
    (invokeAuth platform request input w).1.users = w.users := by
  have hauthenticate : ∀ token verified, (w.authenticate token verified).users = w.users := by
    intro token verified
    cases verified <;> rfl
  cases request with
  | bearer token => exact hauthenticate token _
  | socket token => exact hauthenticate token _
  | _ =>
      simp only [invokeAuth]
      split <;> rfl

variable (platform)

/-- The proof outline of the calls. -/
theorem auth_outline (hjwt : platform.jwt.Lawful) :
    Outline (authCalls platform) authEnv
      (fun w request input =>
        PresentsHanded platform w request input ∧ BearsUntyped platform w request input)
      (fun _ _ _ => True) (fun _ _ => True) (AuthInv platform) KeepsFactor where
  invoke h hguard := authInv_invoke hjwt h hguard.1 hguard.2
  resume := by
    intro w call input h hkeeps _
    refine ⟨authInv_resume h input hkeeps, ?_⟩
    intro next hnext
    cases call with
    | recoverySave user => cases hnext
  environment h _ := ⟨h.history, h.means, h.keys⟩
  invoke_stable := by
    intro w request input call _ _ hkeeps
    refine hkeeps.of_columns fun id => ?_
    show mfaColumn (invokeAuth platform request input w).1.users id = mfaColumn w.users id
    rw [users_invokeAuth]
  resume_stable := by
    intro w call input other _ hkeeps _ hother
    cases call with
    | recoverySave user => exact hother.of_columns (mfaColumn_saveUser hkeeps)
  environment_stable _ _ hkeeps := hkeeps.of_columns fun _ => rfl

end Invariant

/-! ## Purposes are kept apart -/

/-- Every authenticated request of a user with MFA bears a token that was handed
out before, after a second factor. -/
def SecondFactorFirst {Token : Type} (history : List (AuthFact Token)) : Prop :=
  ∀ past id token rest, history = past ++ .authenticated id true token :: rest →
    .session id token true ∈ past

/-- A call that hands out a token after a second factor has accepted one: a code of the user's
authenticator app, or else a recovery code of the user, whose entity it then saves. -/
structure ChecksSecondFactor {Token : Type} (platform : AuthPlatform Token) : Prop where
  invoked : ∀ w request input handed id token,
    (invokeAuth platform request input w).1.history = w.history ++ handed →
    .session id token true ∈ handed → ∃ challengeToken code,
      request = .verifyMfaChallenge challengeToken code ∧
        AcceptsCode platform w.users id code w.clock
  saving : ∀ w request input user,
    (invokeAuth platform request input w).2 = some (.recoverySave user) →
    ∃ challengeToken recoveryCode, request = .verifyMfaRecovery challengeToken recoveryCode ∧
      AcceptsRecoveryCode platform w.users user.id recoveryCode
  saved : ∀ w user input handed id token,
    (resumeAuth platform (.recoverySave user) input w).1.history = w.history ++ handed →
    .session id token true ∈ handed → id = user.id

theorem record_history {Token : Type} (w : AuthWorld Token) (facts : List (AuthFact Token)) :
    (w.record facts).history = w.history ++ facts := rfl

theorem checksSecondFactor {Token : Type} (platform : AuthPlatform Token) :
    ChecksSecondFactor platform where
  invoked := by
    intro w request input handed id token hhistory hsession
    have hnothing : w.history ≠ w.history ++ handed := by
      intro heq
      rw [List.self_eq_append_right.mp heq] at hsession
      exact absurd hsession List.not_mem_nil
    have hauthenticate : ∀ bearer verified,
        (w.authenticate bearer verified).history ≠ w.history ++ handed := by
      intro bearer verified heq
      cases verified with
      | error e => exact hnothing heq
      | ok user =>
          rw [AuthWorld.authenticate, record_history, List.append_cancel_left_eq] at heq
          rw [← heq, List.mem_singleton] at hsession
          cases hsession
    cases request with
    | login email password =>
        simp only [invokeAuth] at hhistory
        split at hhistory
        · exact absurd hhistory hnothing
        · next response hresponse =>
            rw [record_history, List.append_cancel_left_eq] at hhistory
            obtain ⟨user, -, ⟨-, hfacts⟩ | ⟨-, hfacts⟩⟩ := login_facts hresponse <;>
              rw [← hhistory, hfacts, List.mem_singleton] at hsession <;> cases hsession
    | verifyMfaChallenge challengeToken code =>
        simp only [invokeAuth] at hhistory
        split at hhistory
        · exact absurd hhistory hnothing
        · next response hresponse =>
            rw [record_history, List.append_cancel_left_eq] at hhistory
            obtain ⟨user, hfacts, haccepts⟩ := verifyMfaChallenge_facts hresponse
            rw [← hhistory, hfacts, List.mem_singleton] at hsession
            cases hsession
            exact ⟨challengeToken, code, rfl, haccepts⟩
    | verifyMfaRecovery challengeToken recoveryCode =>
        simp only [invokeAuth] at hhistory
        split at hhistory <;> exact absurd hhistory hnothing
    | bearer bearer => exact absurd hhistory (hauthenticate bearer _)
    | socket bearer => exact absurd hhistory (hauthenticate bearer _)
  saving := by
    intro w request input user hcall
    cases request with
    | verifyMfaRecovery challengeToken recoveryCode =>
        simp only [invokeAuth] at hcall
        split at hcall
        · cases hcall
        · next saved hsaved =>
            cases hcall
            exact ⟨challengeToken, recoveryCode, rfl, (verifyMfaRecovery_find hsaved).2⟩
    | login email password =>
        simp only [invokeAuth] at hcall
        split at hcall <;> cases hcall
    | verifyMfaChallenge challengeToken code =>
        simp only [invokeAuth] at hcall
        split at hcall <;> cases hcall
    | bearer bearer => cases hcall
    | socket bearer => cases hcall
  saved := by
    intro w user input handed id token hhistory hsession
    simp only [resumeAuth] at hhistory
    rw [record_history, createAccessSession_facts] at hhistory
    have hhanded := List.append_cancel_left hhistory
    rw [← hhanded, List.mem_singleton] at hsession
    cases hsession
    rfl

/-- **Token purposes.**  A verifier accepts a minted token for its own purpose
only, unless it is an access verifier, the token has not expired and its subject
signs in.  In every run whose requests bear no token with a `type`, an
authenticated request of a user with MFA bears a token that was handed out after
a second factor, which the call that handed it out has checked. -/
theorem token_purposes_separated {Token : Type} (platform : AuthPlatform Token)
    (hjwt : platform.jwt.Lawful) :
    (∀ users used now mintedAt (v : Verifier) (m : Mint),
      (v.accepts platform users used now (m.token platform mintedAt) = true →
          m.purpose = v.purpose) ↔
        (v.purpose = .access → m.purpose = .access ∨ m.Expired platform mintedAt now ∨
          ∀ subject ∈ m.subject, ¬ SignsIn users subject)) ∧
    (∀ users clock (es : List (AuthEvent Token)), (users.map UserEntity.id).Nodup →
      Along (Interleaving.step (authCalls platform) authEnv) (BearsAccessTokens platform)
        (authStart users clock) es →
      SecondFactorFirst (authRun platform users clock es).world.history) ∧
    ChecksSecondFactor platform := by
  refine ⟨fun users used now mintedAt v m => v.keeps_purpose_iff hjwt m, ?_,
    checksSecondFactor platform⟩
  intro users clock es hkeys hes past id token rest hsplit
  have hstart : AuthInv platform { users := users, clock := clock } :=
    ⟨justified_nil, fun _ hfact => absurd hfact List.not_mem_nil, hkeys⟩
  have hinv : AuthInv platform (authRun platform users clock es).world :=
    ((auth_outline platform hjwt).run (good_idle hstart) hes).1
  exact hinv.history past _ rest hsplit rfl

/-- The signer, bcrypt, AES-GCM and HMAC-SHA1 on the values of the runs below. -/
def samplePlatform : AuthPlatform (JwtPayload × ℤ × ℤ) where
  jwt := Signer.transparent JwtPayload
  timespan text := if text = "10m" then 600 else if text = "2m" then 120 else 86400
  compare password passwordHash := password = "ChangeMe123!" &&
    passwordHash = "$2b$12$abcdefghijklmnopqrstuuKeojm9r2xP5kjlBzu7YmwyiZhZwmYVe"
  encryptSecretValue _ value _ := value
  decryptSecretValue encryptedValue _ :=
    if encryptedValue = "AAECAwQFBgcICQoLRtvIxP-moj9mSZqVU3s9RpE8CNsJBU1E0z4kbTT6_sE" then
      some "JBSWY3DPEHPK3PXP"
    else none
  hmacSha1 key message :=
    if key = [72, 101, 108, 108, 111, 33, 222, 173, 190, 239] ∧
        message = [0, 0, 0, 0, 3, 134, 45, 32] then
      #v[200, 167, 121, 94, 132, 73, 14, 5, 192, 72, 155, 183, 82, 9, 177, 111, 6, 116, 152, 171]
    else Vector.replicate 20 0
  lower text := text

/-- A user with MFA. -/
def sampleUser : UserEntity where
  id := "u1"
  email := "admin@example.com"
  passwordHash := some "$2b$12$abcdefghijklmnopqrstuuKeojm9r2xP5kjlBzu7YmwyiZhZwmYVe"
  mfaEnabled := true
  mfaSecretEncrypted := some "AAECAwQFBgcICQoLRtvIxP-moj9mSZqVU3s9RpE8CNsJBU1E0z4kbTT6_sE"

/-- The challenge that `login` hands out. -/
def sampleChallenge : JwtPayload × ℤ × ℤ :=
  createMfaChallengeToken samplePlatform sampleUser 1773750731000

/-- The access token that `verifyMfaChallenge` hands out. -/
def sampleAccessToken : JwtPayload × ℤ × ℤ := accessToken samplePlatform sampleUser 1773750731000

/-- Password, authenticator code, and a request with the access token. -/
def secondFactorRun : List (AuthEvent (JwtPayload × ℤ × ℤ)) :=
  [.invoke 0 (.login "admin@example.com" "ChangeMe123!") {},
    .invoke 1 (.verifyMfaChallenge sampleChallenge "123313") {},
    .invoke 2 (.bearer sampleAccessToken) {}]

theorem token_purposes_separated_second_factor :
    (authRun samplePlatform [sampleUser] 1773750731000 secondFactorRun).world.history
        = [.challenge "u1" sampleChallenge, .session "u1" sampleAccessToken true] ++
          .authenticated "u1" true sampleAccessToken :: [] ∧
      SecondFactorFirst
        (authRun samplePlatform [sampleUser] 1773750731000 secondFactorRun).world.history :=
  ⟨by decide +kernel,
    (token_purposes_separated samplePlatform (Signer.transparent_lawful JwtPayload)).2.1
      [sampleUser] 1773750731000 secondFactorRun (by decide) (by decide +kernel)⟩

/-- The MFA challenge that the password alone yields authenticates a request. -/
theorem mfa_challenge_authenticates :
    (¬ ∀ {Token : Type} (platform : AuthPlatform Token), platform.jwt.Lawful →
      ∀ users used now mintedAt (v : Verifier) (m : Mint),
        v.accepts platform users used now (m.token platform mintedAt) = true →
          m.purpose = v.purpose) ∧
    ¬ ∀ {Token : Type} (platform : AuthPlatform Token), platform.jwt.Lawful →
      ∀ users clock (es : List (AuthEvent Token)), (users.map UserEntity.id).Nodup →
        Along (Interleaving.step (authCalls platform) authEnv) (Unforged platform)
          (authStart users clock) es →
        SecondFactorFirst (authRun platform users clock es).world.history := by
  constructor
  · intro hall
    have hpurpose := hall samplePlatform (Signer.transparent_lawful JwtPayload) [sampleUser] []
      1773750732000 1773750731000 .accessToken (.mfaChallenge sampleUser) (by decide)
    cases hpurpose
  · intro hall
    have hsession := hall samplePlatform (Signer.transparent_lawful JwtPayload) [sampleUser]
      1773750731000
      [.invoke 0 (.login "admin@example.com" "ChangeMe123!") {},
        .invoke 1 (.socket sampleChallenge) {}] (by decide) (by decide)
      [.challenge "u1" sampleChallenge] "u1" sampleChallenge [] (by decide)
    exact absurd hsession (by decide)

end AuthService
