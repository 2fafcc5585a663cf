/-
# Single sign-on

`startOidcLogin` and `handleOidcCallback` of `auth.service.ts` with the management of the
identity providers, cut at their queries and at the requests to the provider.  The answers of a
provider are inputs: nothing is asked of them.

The unique index of `oidc_identities` is the key of its table; its foreign keys are checked when
a row is inserted, and delete the rows of a provider or a user that is deleted.
-/
import NoderaxApi.Interleaving
import NoderaxApi.UserAccounts

namespace AuthService

open Interleaving KeyedTable UsersService

/-! ## Rows and documents -/

/-- `OidcProviderEntity`. -/
structure OidcProviderEntity where
  id : Uuid
  slug : String
  name : String
  preset : Option String := none
  issuer : String
  clientId : String
  clientSecretEncrypted : Option String := none
  discoveryUrl : String
  scopes : List String := ["openid", "email", "profile"]
  enabled : Bool := true
  deriving DecidableEq, Repr

/-- The primary key. -/
abbrev OidcProviderEntity.key (provider : OidcProviderEntity) : Uuid := provider.id

/-- `OidcIdentityEntity`. -/
structure OidcIdentityEntity where
  providerId : Uuid
  userId : Uuid
  subject : String
  email : String
  deriving DecidableEq, Repr

/-- `UQ_oidc_identities_provider_subject`. -/
abbrev OidcIdentityEntity.key (identity : OidcIdentityEntity) : Uuid × String :=
  (identity.providerId, identity.subject)

/-- `OidcDiscoveryDocument`. -/
structure OidcDiscoveryDocument where
  issuer : Option String := none
  authorizationEndpoint : Option String := none
  tokenEndpoint : Option String := none
  userinfoEndpoint : Option String := none
  jwksUri : Option String := none
  deriving DecidableEq, Repr

/-- `OidcTokenResponse`. -/
structure OidcTokenResponse where
  accessToken : Option String := none
  idToken : Option String := none
  deriving DecidableEq, Repr

/-- `OidcProfile`. -/
structure OidcProfile where
  sub : Option String := none
  email : Option String := none
  emailVerified : Option Bool := none
  deriving DecidableEq, Repr

/-! ## Providers -/

/-- `OIDC_DEFAULT_SCOPES`. -/
def oidcDefaultScopes : List String := ["openid", "email", "profile"]

/-- The issuer and the discovery URL of `OIDC_PRESETS`. -/
def oidcPresets : String → Option (String × String)
  | "google" => some ("https://accounts.google.com",
      "https://accounts.google.com/.well-known/openid-configuration")
  | "microsoft" => some ("https://login.microsoftonline.com/common/v2.0",
      "https://login.microsoftonline.com/common/v2.0/.well-known/openid-configuration")
  | _ => none

/-- The input of `normalizeOidcProviderInput`: that of `createOidcProvider`. -/
structure OidcProviderInput where
  slug : String
  name : String
  preset : Option String := none
  issuer : String
  clientId : String
  clientSecret : Option String := none
  discoveryUrl : String
  scopes : Option (List String) := none
  enabled : Option Bool := none
  deriving DecidableEq, Repr

/-- `UpdateOidcProviderDto`. -/
structure UpdateOidcProviderDto where
  slug : Option String := none
  name : Option String := none
  preset : Option String := none
  issuer : Option String := none
  clientId : Option String := none
  clientSecret : Option String := none
  discoveryUrl : Option String := none
  scopes : Option (List String) := none
  enabled : Option Bool := none
  deriving DecidableEq, Repr

/-- `value || fallback || ''`. -/
def orPreset (value : String) (fallback : Option String) : String :=
  if value = "" then fallback.getD "" else value

section Providers

variable {Token : Type} (platform : AccountPlatform Token)

/-- `normalizeOidcProviderInput`, as the columns of the row with the id, but for the secret. -/
def normalizeOidcProviderInput (id : Uuid) (input : OidcProviderInput) : OidcProviderEntity :=
  let presetDefaults := input.preset.bind oidcPresets
  { id
    slug := platform.toLowerCase (jsTrim input.slug)
    name := jsTrim input.name
    preset := input.preset
    issuer := jsTrim (orPreset input.issuer (presetDefaults.map Prod.fst))
    clientId := jsTrim input.clientId
    discoveryUrl := jsTrim (orPreset input.discoveryUrl (presetDefaults.map Prod.snd))
    scopes :=
      match input.scopes with
      | none | some [] => oidcDefaultScopes
      | some scopes => (scopes.map jsTrim).filter (· ≠ "")
    enabled := input.enabled.getD true }

/-- The input that `updateOidcProvider` makes of its dto and the row it found. -/
def updatedOidcProviderInput (provider : OidcProviderEntity) (dto : UpdateOidcProviderDto) :
    OidcProviderInput where
  slug := dto.slug.getD provider.slug
  name := dto.name.getD provider.name
  preset := dto.preset.or
    (if provider.preset = some "google" ∨ provider.preset = some "microsoft" then provider.preset
      else none)
  issuer := dto.issuer.getD provider.issuer
  clientId := dto.clientId.getD provider.clientId
  clientSecret := dto.clientSecret
  discoveryUrl := dto.discoveryUrl.getD provider.discoveryUrl
  scopes := dto.scopes.or (some provider.scopes)
  enabled := some (dto.enabled.getD provider.enabled)

/-- The checks of `ensureOidcDiscoveryReachable`. -/
def ensureOidcDiscoveryReachable (issuer : String) :
    Option OidcDiscoveryDocument → Except ThrownError Unit
  | none => .error (.http (.badRequest "Unable to fetch the OIDC discovery document."))
  | some discovery =>
      if !isPresent discovery.authorizationEndpoint || !isPresent discovery.tokenEndpoint then
        .error (.http (.badRequest "OIDC discovery document is missing required endpoints."))
      else if isPresent discovery.issuer && discovery.issuer ≠ some issuer then
        .error (.http (.badRequest "OIDC discovery issuer does not match the configured issuer."))
      else .ok ()

/-- The column of the secret that a dto asks for: none where it names none. -/
def clientSecretColumn (iv : String) (kept : Option String) :
    Option String → Except ThrownError (Option String)
  | none => .ok kept
  | some "" => .ok none
  | some clientSecret => (encrypt platform.toAuthPlatform iv clientSecret).map some

end Providers

/-! ## The world -/

/-- The callback that a call serves: its state token, when that was verified, and what it said. -/
structure OidcCallback (Token : Type) where
  state : Token
  verifiedAt : ℤ
  payload : JwtPayload
  deriving DecidableEq

/-- What happened. -/
inductive OidcFact (Token : Type)
  /-- The code of a callback was sent to the token endpoint of a provider. -/
  | exchanged (providerId : Uuid) (redirectUri : Option String) (callback : OidcCallback Token)
  /-- A session was handed out to a subject of a provider. -/
  | session (providerId : Uuid) (subject : String) (user : UserRow) (redirectPath : Option String)
      (callback : OidcCallback Token)
  /-- The row of an identity was deleted, with its provider or its user. -/
  | unlinked (providerId : Uuid) (subject : String) (userId : Uuid)
  deriving DecidableEq

/-- What a call answers. -/
inductive OidcAnswer (Token : Type)
  | authorization (endpoint : String) (parameters : List (String × String)) (state : Token)
  | session (response : LoginResponse Token)
  | provider (provider : OidcProviderEntity)
  | deleted (id : Uuid)
  | refused (error : ThrownError)

/-- The tables, the clock, the facts and the answers, the latest last. -/
structure OidcWorld (Token : Type) where
  providers : Table OidcProviderEntity.key
  users : Table UserRow.key
  identities : Table OidcIdentityEntity.key
  clock : ℤ := 0
  history : List (OidcFact Token) := []
  answers : List (OidcAnswer Token) := []

/-- A request. -/
inductive OidcRequest (Token : Type)
  | start (providerSlug redirectUri : String) (next : Option String)
  | callback (providerSlug : String) (code : Option String) (state : Option Token)
      (error errorDescription : Option String)
  | create (id : Uuid) (dto : OidcProviderInput)
  | update (id : Uuid) (dto : UpdateOidcProviderDto)
  | delete (id : Uuid)

/-- Where a call waits. -/
inductive PendingOidcCall (Token : Type)
  /-- `fetchOidcDiscoveryDocument` of `startOidcLogin`. -/
  | discoveringToStart (provider : OidcProviderEntity) (redirectUri : String)
      (next : Option String)
  /-- `fetchOidcDiscoveryDocument` of `handleOidcCallback`. -/
  | discovering (provider : OidcProviderEntity) (callback : OidcCallback Token)
  /-- The request of `exchangeOidcCode`. -/
  | exchanging (provider : OidcProviderEntity) (discovery : OidcDiscoveryDocument)
      (callback : OidcCallback Token)
  /-- `jwtVerify`. -/
  | verifyingIdToken (provider : OidcProviderEntity) (discovery : OidcDiscoveryDocument)
      (tokens : OidcTokenResponse) (callback : OidcCallback Token)
  /-- The request to the userinfo endpoint. -/
  | loadingProfile (provider : OidcProviderEntity) (callback : OidcCallback Token)
  /-- `findByEmail`. -/
  | findingUser (provider : OidcProviderEntity) (profile : OidcProfile) (email : String)
      (callback : OidcCallback Token)
  /-- The lookup, and the insertion, of the identity. -/
  | findingIdentity (provider : OidcProviderEntity) (subject email : String) (user : UserRow)
      (callback : OidcCallback Token)
  | linkingIdentity (provider : OidcProviderEntity) (subject email : String) (user : UserRow)
      (callback : OidcCallback Token)
  /-- `createAccessSession`. -/
  | grantingSession (providerId : Uuid) (subject : String) (user : UserRow)
      (callback : OidcCallback Token)
  /-- `assertOidcProviderSlugAvailable`. -/
  | checkingSlug (entity : OidcProviderEntity) (clientSecret : Option String)
  /-- `ensureOidcDiscoveryReachable`. -/
  | probing (entity : OidcProviderEntity) (clientSecret : Option String)
  /-- The save, and the removal, of a provider. -/
  | savingProvider (entity : OidcProviderEntity)
  | removingProvider (id : Uuid)

/-- What a provider answers, and the random bytes of an encryption; `none` where a request
fails. -/
structure OidcInput where
  discovery : Option OidcDiscoveryDocument := none
  tokens : Option OidcTokenResponse := none
  profile : Option OidcProfile := none
  iv : String := ""

/-- A step of a call. -/
abbrev OidcStep (Token : Type) := OidcWorld Token × Option (PendingOidcCall Token)

section World

variable {Token : Type}

/-- The call returns. -/
def OidcWorld.answer (w : OidcWorld Token) (answer : OidcAnswer Token) : OidcStep Token :=
  ({ w with answers := w.answers ++ [answer] }, none)

/-- The call throws. -/
def OidcWorld.refuse (w : OidcWorld Token) (error : ThrownError) : OidcStep Token :=
  w.answer (.refused error)

/-- The call goes on where nothing is thrown. -/
def OidcWorld.proceed {α : Type} (w : OidcWorld Token) (result : Except ThrownError α)
    (next : α → OidcStep Token) : OidcStep Token :=
  match result with
  | .error error => w.refuse error
  | .ok value => next value

/-- One more fact. -/
def OidcWorld.record (w : OidcWorld Token) (fact : OidcFact Token) : OidcWorld Token :=
  { w with history := w.history ++ [fact] }

/-- `ON DELETE CASCADE` of the identities. -/
def OidcWorld.unlink (w : OidcWorld Token) (gone : OidcIdentityEntity → Bool) : OidcWorld Token :=
  { w with
    identities := w.identities.deleteWhere gone
    history := w.history ++ (w.identities.rows.filter gone).map fun identity =>
      .unlinked identity.providerId identity.subject identity.userId }

end World

/-! ## Calls -/

section Calls

variable {Token : Type} (platform : AccountPlatform Token)

/-- `getOidcProviderBySlugOrFail`. -/
def getOidcProviderBySlugOrFail (w : OidcWorld Token) (providerSlug : String) :
    Except ThrownError OidcProviderEntity :=
  match w.providers.rows.find? fun provider =>
      provider.slug = platform.toLowerCase (jsTrim providerSlug) && provider.enabled with
  | none => .error (.http (.notFound s!"OIDC provider {providerSlug} was not found."))
  | some provider => .ok provider

/-- `getOidcProviderOrFail`. -/
def getOidcProviderOrFail (w : OidcWorld Token) (id : Uuid) :
    Except ThrownError OidcProviderEntity :=
  match w.providers.get id with
  | none => .error (.http (.notFound s!"OIDC provider {id} was not found."))
  | some provider => .ok provider

/-- The parameters of the URL that `startOidcLogin` answers, but for `state`. -/
def authorizationParameters (provider : OidcProviderEntity) (redirectUri : String) :
    List (String × String) :=
  [("client_id", provider.clientId), ("response_type", "code"), ("redirect_uri", redirectUri),
    ("scope", if provider.scopes = [] then "openid email profile"
      else " ".intercalate provider.scopes)]

/-- The checks of `handleOidcCallback` on its parameters and on the provider. -/
def acceptCallback (w : OidcWorld Token) (providerSlug : String) (code : Option String)
    (state : Option Token) (error errorDescription : Option String) :
    Except ThrownError (OidcProviderEntity × OidcCallback Token) :=
  if isPresent error then
    .error (.http (.unauthorized
      (errorDescription.getD ("OIDC sign-in failed: " ++ error.getD ""))))
  else
    match isPresent code, state with
    | true, some state => do
        let payload ← verifyOidcStateToken platform.toAuthPlatform state w.clock
        let provider ← getOidcProviderBySlugOrFail platform w providerSlug
        if payload.providerId ≠ some provider.id then
          throw (.http (.unauthorized "OIDC state token does not match provider."))
        return (provider, ⟨state, w.clock, payload⟩)
    | _, _ => .error (.http (.badRequest "OIDC callback is missing code or state."))

/-- What `exchangeOidcCode` needs before its request. -/
def prepareExchange (provider : OidcProviderEntity) :
    Option OidcDiscoveryDocument → Except ThrownError OidcDiscoveryDocument
  | none => .error (.http (.badRequest "Unable to fetch the OIDC discovery document."))
  | some discovery =>
      if !isPresent discovery.tokenEndpoint then
        .error (.http (.badRequest "OIDC discovery document is missing a token endpoint."))
      else if !isPresent provider.clientSecretEncrypted then .ok discovery
      else (decrypt platform.toAuthPlatform (provider.clientSecretEncrypted.getD "")).map
        fun _ => discovery

/-- The part of `resolveOidcProfile` that asks the userinfo endpoint. -/
def askUserinfo (w : OidcWorld Token) (provider : OidcProviderEntity)
    (discovery : OidcDiscoveryDocument) (tokens : OidcTokenResponse)
    (callback : OidcCallback Token) : OidcStep Token :=
  if !isPresent discovery.userinfoEndpoint || !isPresent tokens.accessToken then
    w.refuse (.http (.forbidden "Identity provider response is missing profile information."))
  else (w, some (.loadingProfile provider callback))

/-- The check on the address of a profile. -/
def verifiedEmail (profile : OidcProfile) : Except ThrownError String :=
  let email := platform.toLowerCase (jsTrim (profile.email.getD ""))
  if email = "" ∨ profile.emailVerified ≠ some true then
    .error (.http (.forbidden
      "Single sign-on requires a verified email address from the identity provider."))
  else .ok email

/-- The profile of a callback is known. -/
def receiveProfile (w : OidcWorld Token) (provider : OidcProviderEntity) (profile : OidcProfile)
    (callback : OidcCallback Token) : OidcStep Token :=
  w.proceed (verifiedEmail platform profile) fun email =>
    (w, some (.findingUser provider profile email callback))

/-- The user that signs on, and the subject. -/
def signingOnUser (w : OidcWorld Token) (profile : OidcProfile) (email : String) :
    Except ThrownError (UserRow × String) :=
  match w.users.rows.find? fun user => user.email = platform.toLowerCase (jsTrim email) with
  | none => .error (.http (.forbidden
      "Single sign-on is only available to existing active users."))
  | some user =>
      if !user.isActive || user.inviteStatus ≠ .accepted then
        .error (.http (.forbidden "Single sign-on is only available to existing active users."))
      else
        let subject := jsTrim (profile.sub.getD "")
        if subject = "" then
          .error (.http (.forbidden "Identity provider response is missing a subject identifier."))
        else .ok (user, subject)

/-- The save of an identity, under the unique index and the foreign keys. -/
def saveIdentity (w : OidcWorld Token) (identity : OidcIdentityEntity) :
    Except ThrownError (OidcWorld Token) :=
  if (w.identities.get identity.key).isSome || (w.providers.get identity.providerId).isNone ||
      (w.users.get identity.userId).isNone then .error .other
  else .ok { w with identities := w.identities.insert identity }

/-- The save of a provider, under the unique index of its slug.  One that is gone is inserted
again. -/
def saveProvider (w : OidcWorld Token) (entity : OidcProviderEntity) :
    Except ThrownError (OidcWorld Token) :=
  let providers := w.providers.upsert entity.id (fun provider => { entity with id := provider.id })
    entity fun _ => rfl
  if w.providers.rows.any fun provider => provider.slug = entity.slug && provider.id ≠ entity.id
  then .error .other
  else .ok { w with providers }

/-- The start of a call. -/
def invokeOidc (request : OidcRequest Token) (_ : OidcInput) (w : OidcWorld Token) :
    OidcStep Token :=
  match request with
  | .start providerSlug redirectUri next =>
      w.proceed (getOidcProviderBySlugOrFail platform w providerSlug) fun provider =>
        (w, some (.discoveringToStart provider redirectUri next))
  | .callback providerSlug code state error errorDescription =>
      w.proceed (acceptCallback platform w providerSlug code state error errorDescription)
        fun accepted => (w, some (.discovering accepted.1 accepted.2))
  | .create id dto =>
      (w, some (.checkingSlug (normalizeOidcProviderInput platform id dto)
        (some (jsTrim (dto.clientSecret.getD "")))))
  | .update id dto =>
      w.proceed (getOidcProviderOrFail w id) fun provider =>
        let entity := { normalizeOidcProviderInput platform provider.id
            (updatedOidcProviderInput provider dto) with
          clientSecretEncrypted := provider.clientSecretEncrypted }
        if entity.slug ≠ provider.slug then (w, some (.checkingSlug entity dto.clientSecret))
        else (w, some (.probing entity dto.clientSecret))
  | .delete id =>
      w.proceed (getOidcProviderOrFail w id) fun provider =>
        (w, some (.removingProvider provider.id))

/-- A later step of a call. -/
def resumeOidc (call : PendingOidcCall Token) (input : OidcInput) (w : OidcWorld Token) :
    OidcStep Token :=
  match call with
  | .discoveringToStart provider redirectUri next =>
      match input.discovery with
      | none => w.refuse (.http (.badRequest "Unable to fetch the OIDC discovery document."))
      | some discovery =>
          if !isPresent discovery.authorizationEndpoint then
            w.refuse (.http (.badRequest
              "OIDC discovery document is missing an authorization endpoint."))
          else
            w.answer (.authorization (discovery.authorizationEndpoint.getD "")
              (authorizationParameters provider redirectUri)
              (oidcStateToken platform.toAuthPlatform provider.id redirectUri next w.clock))
  | .discovering provider callback =>
      w.proceed (prepareExchange platform provider input.discovery) fun discovery =>
        (w.record (.exchanged provider.id callback.payload.redirectUri callback),
          some (.exchanging provider discovery callback))
  | .exchanging provider discovery callback =>
      match input.tokens with
      | none => w.refuse (.http (.unauthorized "OIDC token exchange failed."))
      | some tokens =>
          if isPresent tokens.idToken && isPresent discovery.jwksUri then
            (w, some (.verifyingIdToken provider discovery tokens callback))
          else askUserinfo w provider discovery tokens callback
  | .verifyingIdToken provider discovery tokens callback =>
      match input.profile with
      | some profile => receiveProfile platform w provider profile callback
      | none => askUserinfo w provider discovery tokens callback
  | .loadingProfile provider callback =>
      match input.profile with
      | some profile => receiveProfile platform w provider profile callback
      | none => w.refuse (.http (.forbidden
          "Unable to load the user profile from the identity provider."))
  | .findingUser provider profile email callback =>
      w.proceed (signingOnUser platform w profile email) fun signing =>
        (w, some (.findingIdentity provider signing.2 email signing.1 callback))
  | .findingIdentity provider subject email user callback =>
      match w.identities.get (provider.id, subject) with
      | none => (w, some (.linkingIdentity provider subject email user callback))
      | some identity =>
          if identity.userId ≠ user.id then
            w.refuse (.http (.conflict
              "This identity provider account is already linked to another user."))
          else (w, some (.grantingSession provider.id subject user callback))
  | .linkingIdentity provider subject email user callback =>
      w.proceed (saveIdentity w ⟨provider.id, user.id, subject, email⟩) fun saved =>
        (saved, some (.grantingSession provider.id subject user callback))
  | .grantingSession providerId subject user callback =>
      (w.record (.session providerId subject user callback.payload.next callback)).answer
        (.session (createAccessSession platform.toAuthPlatform user.toUserEntity
          callback.payload.next w.clock))
  | .checkingSlug entity clientSecret =>
      match w.providers.rows.find? fun provider => provider.slug = entity.slug with
      | some provider =>
          if provider.id ≠ entity.id then
            w.refuse (.http (.conflict "An identity provider with this slug already exists."))
          else (w, some (.probing entity clientSecret))
      | none => (w, some (.probing entity clientSecret))
  | .probing entity clientSecret =>
      w.proceed (ensureOidcDiscoveryReachable entity.issuer input.discovery) fun _ =>
        w.proceed (clientSecretColumn platform input.iv entity.clientSecretEncrypted clientSecret)
          fun clientSecretEncrypted =>
            (w, some (.savingProvider { entity with clientSecretEncrypted }))
  | .savingProvider entity =>
      w.proceed (saveProvider w entity) fun saved => saved.answer (.provider entity)
  | .removingProvider id =>
      ({ w with providers := w.providers.delete id }.unlink fun identity =>
        identity.providerId = id).answer (.deleted id)

/-- The users change, and time passes. -/
inductive OidcChange
  | saveUser (row : UserRow)
  | deleteUser (id : Uuid)
  | tick (ms : ℕ)

/-- One change. -/
def oidcEnv (change : OidcChange) (w : OidcWorld Token) : OidcWorld Token :=
  match change with
  | .saveUser row =>
      let users := w.users.upsert row.id (fun old => { row with id := old.id }) row fun _ => rfl
      { w with users }
  | .deleteUser id =>
      { w with users := w.users.delete id }.unlink fun identity => identity.userId = id
  | .tick ms => { w with clock := w.clock + ms }

/-- The calls. -/
def oidcCalls : Calls (OidcWorld Token) (OidcRequest Token) (PendingOidcCall Token) OidcInput :=
  ⟨invokeOidc platform, resumeOidc platform⟩

end Calls

/-- The calls under way. -/
abbrev OidcConfig (Token : Type) := Config ℕ (OidcWorld Token) (PendingOidcCall Token)

/-- What happens next. -/
abbrev OidcEvent (Token : Type) := Event ℕ (OidcRequest Token) OidcInput OidcChange

/-- One event. -/
abbrev oidcStep {Token : Type} (platform : AccountPlatform Token) :
    OidcConfig Token → OidcEvent Token → OidcConfig Token :=
  step (oidcCalls platform) oidcEnv

end AuthService
