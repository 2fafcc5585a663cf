/-
# What a single sign-on is bound to

Two properties of the calls of `OidcLogins`, in every interleaving of them with each other and
with changes of the providers and the users.

**`subject_keeps_user`**: the sessions of one subject of one provider are those of one user,
unless an identity was deleted.  The lookup and the insertion of an identity are not one step; it
is the unique index that decides between two callbacks.

**`state_binds_login`**: a code is sent to the provider, and a user to the page, that the login
was started with, and the user was active when it was found.
-/
import NoderaxApi.OidcLogins
import NoderaxApi.UserAccountSteps

namespace AuthService

open Interleaving KeyedTable Runs UsersService

variable {Token : Type} {w w' : OidcWorld Token}

/-! ## Links -/

/-- The subject is linked to the user, or was. -/
def Linked (w : OidcWorld Token) (providerId : Uuid) (subject : String) (userId : Uuid) : Prop :=
  (∃ identity ∈ w.identities.rows, identity.key = (providerId, subject) ∧
    identity.userId = userId) ∨ .unlinked providerId subject userId ∈ w.history

/-- Facts stay, and an identity goes only with an entry that says so. -/
structure OnlyUnlinks (w w' : OidcWorld Token) : Prop where
  history : w.history <+: w'.history
  linked : ∀ providerId subject userId, Linked w providerId subject userId →
    Linked w' providerId subject userId

theorem OnlyUnlinks.of_eq (hidentities : w'.identities = w.identities)
    (hhistory : w'.history = w.history) : OnlyUnlinks w w' where
  history := hhistory ▸ List.prefix_rfl
  linked := fun _ _ _ h => by
    unfold Linked
    rw [hidentities, hhistory]
    exact h

theorem OnlyUnlinks.refl (w : OidcWorld Token) : OnlyUnlinks w w := OnlyUnlinks.of_eq rfl rfl

theorem OnlyUnlinks.trans {a b c : OidcWorld Token} (h : OnlyUnlinks a b) (h' : OnlyUnlinks b c) :
    OnlyUnlinks a c where
  history := h.history.trans h'.history
  linked := fun _ _ _ hlinked => h'.linked _ _ _ (h.linked _ _ _ hlinked)

theorem OnlyUnlinks.mem {fact : OidcFact Token} (h : OnlyUnlinks w w')
    (hfact : fact ∈ w.history) : fact ∈ w'.history :=
  h.history.subset hfact

theorem onlyUnlinks_record (w : OidcWorld Token) (fact : OidcFact Token) :
    OnlyUnlinks w (w.record fact) where
  history := List.prefix_append _ _
  linked := by
    rintro providerId subject userId (hrow | hgone)
    · exact Or.inl hrow
    · exact Or.inr (List.mem_append_left _ hgone)

theorem onlyUnlinks_unlink (w : OidcWorld Token) (gone : OidcIdentityEntity → Bool) :
    OnlyUnlinks w (w.unlink gone) where
  history := List.prefix_append _ _
  linked := by
    rintro providerId subject userId (⟨identity, hmem, hkey, huser⟩ | hgone)
    · cases hdeleted : gone identity with
      | false =>
          refine Or.inl ⟨identity, List.mem_filter.mpr ⟨hmem, ?_⟩, hkey, huser⟩
          rw [hdeleted]
          rfl
      | true =>
          refine Or.inr (List.mem_append_right _ (List.mem_map.mpr ⟨identity, ?_, ?_⟩))
          · exact List.mem_filter.mpr ⟨hmem, hdeleted⟩
          · obtain ⟨rfl, rfl⟩ := Prod.mk.inj hkey
            rw [huser]
    · exact Or.inr (List.mem_append_left _ hgone)

/-- The row that the unique index lets in. -/
theorem saveIdentity_ok {identity : OidcIdentityEntity} {saved : OidcWorld Token}
    (h : saveIdentity w identity = .ok saved) :
    OnlyUnlinks w saved ∧ saved.history = w.history ∧
      Linked saved identity.providerId identity.subject identity.userId := by
  unfold saveIdentity at h
  split at h
  · cases h
  next hfree =>
    obtain rfl := Except.ok.inj h
    simp only [Bool.or_eq_true, not_or, Bool.not_eq_true, Option.isSome_eq_false_iff] at hfree
    have hrows : (w.identities.insert identity).rows = w.identities.rows ++ [identity] := by
      unfold Table.insert
      exact congrArg Table.rows (dif_pos hfree.1.1)
    refine ⟨⟨List.prefix_rfl, ?_⟩, rfl, Or.inl ⟨identity, ?_, rfl, rfl⟩⟩
    · rintro providerId subject userId (⟨other, hmem, hother⟩ | hgone)
      · refine Or.inl ⟨other, ?_, hother⟩
        rw [hrows]
        exact List.mem_append_left _ hmem
      · exact Or.inr hgone
    · rw [hrows]
      exact List.mem_append_right _ (List.mem_singleton_self identity)

/-- Two users of one subject: one of them was unlinked. -/
theorem Linked.of_ne {providerId userId userId' : Uuid} {subject : String}
    (h : Linked w providerId subject userId) (h' : Linked w providerId subject userId')
    (hne : userId ≠ userId') : .unlinked providerId subject userId ∈ w.history ∨
      .unlinked providerId subject userId' ∈ w.history := by
  rcases h with ⟨identity, hmem, hkey, huser⟩ | hgone
  · rcases h' with ⟨other, hmem', hkey', huser'⟩ | hgone
    · have hsame : identity = other :=
        List.inj_on_of_nodup_map w.identities.distinct hmem hmem' (hkey.trans hkey'.symm)
      exact absurd (huser.symm.trans ((congrArg _ hsame).trans huser')) hne
    · exact Or.inr hgone
  · exact Or.inl hgone

/-! ## What the calls know -/

variable (platform : AccountPlatform Token)

/-- The state of the callback was accepted for the provider. -/
def Accepted (providerId : Uuid) (callback : OidcCallback Token) : Prop :=
  verifyOidcStateToken platform.toAuthPlatform callback.state callback.verifiedAt
      = .ok callback.payload ∧
    callback.payload.providerId = some providerId

/-- The code of the callback was sent to the provider. -/
def Exchanged (w : OidcWorld Token) (providerId : Uuid) (callback : OidcCallback Token) : Prop :=
  .exchanged providerId callback.payload.redirectUri callback ∈ w.history

/-- A user who may sign on. -/
def SignsOn (user : UserRow) : Prop := user.isActive = true ∧ user.inviteStatus = .accepted

/-- What a fact is based on. -/
def FactHolds (w : OidcWorld Token) : OidcFact Token → Prop
  | .exchanged providerId redirectUri callback =>
      Accepted platform providerId callback ∧ redirectUri = callback.payload.redirectUri
  | .session providerId subject user redirectPath callback =>
      Accepted platform providerId callback ∧ Exchanged w providerId callback ∧ SignsOn user ∧
        Linked w providerId subject user.id ∧ redirectPath = callback.payload.next
  | .unlinked _ _ _ => True

/-- Every fact has its basis. -/
def FactsHold (w : OidcWorld Token) : Prop := ∀ fact ∈ w.history, FactHolds platform w fact

/-- What a call that waits has found out. -/
def OidcFound (w : OidcWorld Token) : PendingOidcCall Token → Prop
  | .discovering provider callback => Accepted platform provider.id callback
  | .exchanging provider _ callback | .verifyingIdToken provider _ _ callback
  | .loadingProfile provider callback | .findingUser provider _ _ callback =>
      Accepted platform provider.id callback ∧ Exchanged w provider.id callback
  | .findingIdentity provider _ _ user callback | .linkingIdentity provider _ _ user callback =>
      Accepted platform provider.id callback ∧ Exchanged w provider.id callback ∧ SignsOn user
  | .grantingSession providerId subject user callback =>
      Accepted platform providerId callback ∧ Exchanged w providerId callback ∧ SignsOn user ∧
        Linked w providerId subject user.id
  | .discoveringToStart .. | .checkingSlug .. | .probing .. | .savingProvider _
  | .removingProvider _ => True

variable {platform}

theorem Exchanged.mono (h : OnlyUnlinks w w') {providerId : Uuid} {callback : OidcCallback Token}
    (hsent : Exchanged w providerId callback) : Exchanged w' providerId callback :=
  h.mem hsent

theorem FactHolds.mono (h : OnlyUnlinks w w') {fact : OidcFact Token}
    (hfact : FactHolds platform w fact) : FactHolds platform w' fact := by
  cases fact with
  | exchanged providerId redirectUri callback => exact hfact
  | session providerId subject user redirectPath callback =>
      obtain ⟨haccepted, hsent, hactive, hlinked, hpath⟩ := hfact
      exact ⟨haccepted, hsent.mono h, hactive, h.linked _ _ _ hlinked, hpath⟩
  | unlinked providerId subject userId => trivial

theorem OidcFound.mono (h : OnlyUnlinks w w') {call : PendingOidcCall Token}
    (hfound : OidcFound platform w call) : OidcFound platform w' call := by
  cases call with
  | discovering provider callback => exact hfound
  | exchanging provider discovery callback => exact ⟨hfound.1, hfound.2.mono h⟩
  | verifyingIdToken provider discovery tokens callback => exact ⟨hfound.1, hfound.2.mono h⟩
  | loadingProfile provider callback => exact ⟨hfound.1, hfound.2.mono h⟩
  | findingUser provider profile email callback => exact ⟨hfound.1, hfound.2.mono h⟩
  | findingIdentity provider subject email user callback =>
      exact ⟨hfound.1, hfound.2.1.mono h, hfound.2.2⟩
  | linkingIdentity provider subject email user callback =>
      exact ⟨hfound.1, hfound.2.1.mono h, hfound.2.2⟩
  | grantingSession providerId subject user callback =>
      obtain ⟨haccepted, hsent, hactive, hlinked⟩ := hfound
      exact ⟨haccepted, hsent.mono h, hactive, h.linked _ _ _ hlinked⟩
  | discoveringToStart provider redirectUri next => trivial
  | checkingSlug entity clientSecret => trivial
  | probing entity clientSecret => trivial
  | savingProvider entity => trivial
  | removingProvider id => trivial

/-- No new fact, or facts that need no basis. -/
theorem FactsHold.of_unlinks (h : FactsHold platform w) (hstep : OnlyUnlinks w w')
    (hnew : ∀ fact ∈ w'.history, fact ∈ w.history ∨ FactHolds platform w' fact) :
    FactsHold platform w' := by
  intro fact hfact
  rcases hnew fact hfact with hold | hholds
  · exact (h fact hold).mono hstep
  · exact hholds

theorem FactsHold.of_history (h : FactsHold platform w) (hstep : OnlyUnlinks w w')
    (hhistory : w'.history = w.history) : FactsHold platform w' :=
  h.of_unlinks hstep fun _ hfact => Or.inl (hhistory ▸ hfact)

theorem FactsHold.record (h : FactsHold platform w) {fact : OidcFact Token}
    (hfact : FactHolds platform w fact) : FactsHold platform (w.record fact) := by
  refine h.of_unlinks (onlyUnlinks_record w fact) fun other hother => ?_
  rcases List.mem_append.mp hother with hold | hnew
  · exact Or.inl hold
  · obtain rfl := List.mem_singleton.mp hnew
    exact Or.inr (hfact.mono (onlyUnlinks_record w _))

theorem FactsHold.unlink (h : FactsHold platform w) (gone : OidcIdentityEntity → Bool) :
    FactsHold platform (w.unlink gone) := by
  refine h.of_unlinks (onlyUnlinks_unlink w gone) fun fact hfact => ?_
  rcases List.mem_append.mp hfact with hold | hnew
  · exact Or.inl hold
  · obtain ⟨identity, -, rfl⟩ := List.mem_map.mp hnew
    exact Or.inr trivial

/-! ## Steps -/

variable (platform) in
/-- A step that keeps every fact on its basis. -/
abbrev KeepsFacts (w : OidcWorld Token) (next : OidcStep Token) : Prop :=
  Ascends OnlyUnlinks (FactsHold platform) (OidcFound platform) w next

theorem FactsHold.wait (h : FactsHold platform w) {call : PendingOidcCall Token}
    (hfound : OidcFound platform w call) : KeepsFacts platform w (w, some call) :=
  ⟨h, OnlyUnlinks.refl w, fun _ hcall => Option.some.inj hcall ▸ hfound⟩

/-- A call that returns, from a world that has gone up. -/
theorem FactsHold.answer (h : FactsHold platform w') (hstep : OnlyUnlinks w w')
    (answer : OidcAnswer Token) : KeepsFacts platform w (w'.answer answer) := by
  have hsame : OnlyUnlinks w' (w'.answer answer).1 := OnlyUnlinks.of_eq rfl rfl
  refine ⟨h.of_history hsame rfl, hstep.trans hsame, fun _ hcall => ?_⟩
  exact absurd hcall (Option.some_ne_none _).symm

theorem FactsHold.refuse (h : FactsHold platform w) (error : ThrownError) :
    KeepsFacts platform w (w.refuse error) :=
  h.answer (OnlyUnlinks.refl w) _

theorem FactsHold.proceed (h : FactsHold platform w) {α : Type} {result : Except ThrownError α}
    {next : α → OidcStep Token} (hnext : ∀ value, result = .ok value →
      KeepsFacts platform w (next value)) : KeepsFacts platform w (w.proceed result next) := by
  unfold OidcWorld.proceed
  cases result with
  | error error => exact h.refuse error
  | ok value => exact hnext value rfl

theorem acceptCallback_ok {providerSlug : String} {code error errorDescription : Option String}
    {state : Option Token} {provider : OidcProviderEntity} {callback : OidcCallback Token}
    (h : acceptCallback platform w providerSlug code state error errorDescription
      = .ok (provider, callback)) : Accepted platform provider.id callback := by
  unfold acceptCallback at h
  split at h
  · cases h
  split at h
  next token _ _ =>
    obtain ⟨payload, hverified, h⟩ := bind_eq_ok.mp h
    obtain ⟨found, -, h⟩ := bind_eq_ok.mp h
    split at h
    · cases h
    next hprovider =>
      obtain ⟨rfl, rfl⟩ := Prod.mk.inj (Except.ok.inj h)
      exact ⟨hverified, not_not.mp hprovider⟩
  next => cases h

theorem signingOnUser_ok {profile : OidcProfile} {email subject : String} {user : UserRow}
    (h : signingOnUser platform w profile email = .ok (user, subject)) : SignsOn user := by
  unfold signingOnUser at h
  split at h
  · cases h
  split at h
  · cases h
  next hactive =>
    simp only at h
    split at h
    · cases h
    · obtain ⟨rfl, -⟩ := Prod.mk.inj (Except.ok.inj h)
      simp only [Bool.or_eq_true, not_or, Bool.not_eq_true, Bool.not_eq_false',
        decide_eq_true_eq, not_not] at hactive
      exact hactive

theorem keepsFacts_invoke (h : FactsHold platform w) (request : OidcRequest Token)
    (input : OidcInput) : KeepsFacts platform w (invokeOidc platform request input w) := by
  cases request with
  | start providerSlug redirectUri next => exact h.proceed fun provider _ => h.wait trivial
  | callback providerSlug code state error errorDescription =>
      exact h.proceed fun accepted haccepted => h.wait (acceptCallback_ok haccepted)
  | create id dto => exact h.wait trivial
  | update id dto =>
      refine h.proceed fun provider _ => ?_
      simp only
      split
      · exact h.wait trivial
      · exact h.wait trivial
  | delete id => exact h.proceed fun provider _ => h.wait trivial

/-- The profile comes by way of the ID token or of the userinfo endpoint. -/
theorem FactsHold.askUserinfo (h : FactsHold platform w) {provider : OidcProviderEntity}
    {discovery : OidcDiscoveryDocument} {tokens : OidcTokenResponse} {callback : OidcCallback Token}
    (hfound : Accepted platform provider.id callback ∧ Exchanged w provider.id callback) :
    KeepsFacts platform w (askUserinfo w provider discovery tokens callback) := by
  unfold AuthService.askUserinfo
  split
  · exact h.refuse _
  · exact h.wait hfound

theorem FactsHold.receiveProfile (h : FactsHold platform w) {provider : OidcProviderEntity}
    {profile : OidcProfile} {callback : OidcCallback Token}
    (hfound : Accepted platform provider.id callback ∧ Exchanged w provider.id callback) :
    KeepsFacts platform w (receiveProfile platform w provider profile callback) :=
  h.proceed fun _ _ => h.wait hfound

theorem keepsFacts_exchange (h : FactsHold platform w) {provider : OidcProviderEntity}
    {discovery : OidcDiscoveryDocument} {callback : OidcCallback Token}
    (haccepted : Accepted platform provider.id callback) :
    KeepsFacts platform w
      (w.record (.exchanged provider.id callback.payload.redirectUri callback),
        some (.exchanging provider discovery callback)) := by
  refine ⟨h.record ⟨haccepted, rfl⟩, onlyUnlinks_record w _, fun call hcall => ?_⟩
  obtain rfl := Option.some.inj hcall
  exact ⟨haccepted, List.mem_append_right _ (List.mem_singleton_self _)⟩

theorem keepsFacts_link (h : FactsHold platform w) {provider : OidcProviderEntity}
    {subject email : String} {user : UserRow} {callback : OidcCallback Token}
    (hfound : OidcFound platform w (.linkingIdentity provider subject email user callback))
    {saved : OidcWorld Token}
    (hsaved : saveIdentity w ⟨provider.id, user.id, subject, email⟩ = .ok saved) :
    KeepsFacts platform w (saved, some (.grantingSession provider.id subject user callback)) := by
  obtain ⟨hstep, hhistory, hlinked⟩ := saveIdentity_ok hsaved
  refine ⟨h.of_history hstep hhistory, hstep, fun call hcall => ?_⟩
  obtain rfl := Option.some.inj hcall
  exact ⟨hfound.1, hfound.2.1.mono hstep, hfound.2.2, hlinked⟩

/-- The row that the lookup finds links its user. -/
theorem linked_of_get {providerId : Uuid} {subject : String} {identity : OidcIdentityEntity}
    (h : w.identities.get (providerId, subject) = some identity) :
    Linked w providerId subject identity.userId :=
  Or.inl ⟨identity, mem_of_find h, key_of_find h, rfl⟩

theorem keepsFacts_resume (h : FactsHold platform w) {call : PendingOidcCall Token}
    (hfound : OidcFound platform w call) (input : OidcInput) :
    KeepsFacts platform w (resumeOidc platform call input w) := by
  cases call with
  | discoveringToStart provider redirectUri next =>
      simp only [resumeOidc]
      split
      · exact h.refuse _
      split
      · exact h.refuse _
      · exact h.answer (OnlyUnlinks.refl w) _
  | discovering provider callback =>
      exact h.proceed fun discovery _ => keepsFacts_exchange h hfound
  | exchanging provider discovery callback =>
      simp only [resumeOidc]
      split
      · exact h.refuse _
      split
      · exact h.wait hfound
      · exact h.askUserinfo hfound
  | verifyingIdToken provider discovery tokens callback =>
      simp only [resumeOidc]
      split
      · exact h.receiveProfile hfound
      · exact h.askUserinfo hfound
  | loadingProfile provider callback =>
      simp only [resumeOidc]
      split
      · exact h.receiveProfile hfound
      · exact h.refuse _
  | findingUser provider profile email callback =>
      exact h.proceed fun signing hsigning =>
        h.wait ⟨hfound.1, hfound.2, signingOnUser_ok hsigning⟩
  | findingIdentity provider subject email user callback =>
      simp only [resumeOidc]
      split
      next => exact h.wait hfound
      next identity hidentity =>
        split
        · exact h.refuse _
        next huser =>
          have hlinked := linked_of_get hidentity
          rw [not_not.mp huser] at hlinked
          exact h.wait ⟨hfound.1, hfound.2.1, hfound.2.2, hlinked⟩
  | linkingIdentity provider subject email user callback =>
      exact h.proceed fun saved hsaved => keepsFacts_link h hfound hsaved
  | grantingSession providerId subject user callback =>
      obtain ⟨haccepted, hsent, hactive, hlinked⟩ := hfound
      have hbasis : FactHolds platform w
          (.session providerId subject user callback.payload.next callback) :=
        ⟨haccepted, hsent, hactive, hlinked, rfl⟩
      exact (h.record hbasis).answer (onlyUnlinks_record w _) _
  | checkingSlug entity clientSecret =>
      simp only [resumeOidc]
      split
      · split
        · exact h.refuse _
        · exact h.wait trivial
      · exact h.wait trivial
  | probing entity clientSecret =>
      exact h.proceed fun _ _ => h.proceed fun _ _ => h.wait trivial
  | savingProvider entity =>
      refine h.proceed fun saved hsaved => ?_
      have hsame : saved.identities = w.identities ∧ saved.history = w.history := by
        unfold saveProvider at hsaved
        simp only at hsaved
        split at hsaved
        · cases hsaved
        · obtain rfl := Except.ok.inj hsaved
          exact ⟨rfl, rfl⟩
      have hstep : OnlyUnlinks w saved := OnlyUnlinks.of_eq hsame.1 hsame.2
      exact (h.of_history hstep hsame.2).answer hstep _
  | removingProvider id =>
      have hsame : OnlyUnlinks w { w with providers := w.providers.delete id } :=
        OnlyUnlinks.of_eq rfl rfl
      exact ((h.of_history hsame rfl).unlink _).answer
        (hsame.trans (onlyUnlinks_unlink _ _)) _

theorem keepsFacts_change (h : FactsHold platform w) (change : OidcChange) :
    FactsHold platform (oidcEnv change w) ∧ OnlyUnlinks w (oidcEnv change w) := by
  cases change with
  | saveUser row =>
      have hsame : OnlyUnlinks w (oidcEnv (.saveUser row) w) := OnlyUnlinks.of_eq rfl rfl
      exact ⟨h.of_history hsame rfl, hsame⟩
  | deleteUser id =>
      have hsame : OnlyUnlinks w { w with users := w.users.delete id } := OnlyUnlinks.of_eq rfl rfl
      exact ⟨(h.of_history hsame rfl).unlink _, hsame.trans (onlyUnlinks_unlink _ _)⟩
  | tick ms =>
      have hsame : OnlyUnlinks w (oidcEnv (.tick ms) w) := OnlyUnlinks.of_eq rfl rfl
      exact ⟨h.of_history hsame rfl, hsame⟩

variable (platform) in
theorem oidc_outline :
    MonotoneOutline (oidcCalls platform) oidcEnv (fun _ _ _ => True) (fun _ _ _ => True)
      (fun _ _ => True) OnlyUnlinks (FactsHold platform) (OidcFound platform) where
  refl := OnlyUnlinks.refl
  trans := OnlyUnlinks.trans
  mono := fun h hfound => OidcFound.mono h hfound
  invoke := fun {_ request input} h _ => keepsFacts_invoke h request input
  resume := fun {_ _ input} h hfound _ => keepsFacts_resume h hfound input
  environment := fun {_ change} h _ => keepsFacts_change h change

/-! ## Whole runs -/

variable (platform)

/-- Every fact of a run has its basis at its end. -/
theorem factsHold_run (hstart : w.history = []) (es : List (OidcEvent Token)) :
    FactsHold platform (run (oidcStep platform) (Config.idle w) es).world := by
  have hnone : FactsHold platform w := by
    intro fact hfact
    rw [hstart] at hfact
    exact absurd hfact List.not_mem_nil
  exact ((oidc_outline platform).run_all es (good_idle hnone)).1.1

/-- **A subject keeps its user.**  Two sessions of one subject of one provider are those of one
user, unless the identity of one of the two was deleted. -/
theorem subject_keeps_user (hstart : w.history = []) (es : List (OidcEvent Token))
    {providerId : Uuid} {subject : String} {user user' : UserRow} {path path' : Option String}
    {callback callback' : OidcCallback Token}
    (hsession : .session providerId subject user path callback
      ∈ (run (oidcStep platform) (Config.idle w) es).world.history)
    (hsession' : .session providerId subject user' path' callback'
      ∈ (run (oidcStep platform) (Config.idle w) es).world.history) (hne : user.id ≠ user'.id) :
    .unlinked providerId subject user.id
        ∈ (run (oidcStep platform) (Config.idle w) es).world.history ∨
      .unlinked providerId subject user'.id
        ∈ (run (oidcStep platform) (Config.idle w) es).world.history := by
  have hfacts := factsHold_run platform hstart es
  obtain ⟨-, -, -, hlinked, -⟩ := hfacts _ hsession
  obtain ⟨-, -, -, hlinked', -⟩ := hfacts _ hsession'
  exact hlinked.of_ne hlinked' hne

/-- The account of Ada. -/
def ada (id : Uuid) : UserRow := { id, email := "ada@example.com" }

/-- A provider and a user. -/
def oidcStart : OidcWorld (JwtPayload × ℤ × ℤ) where
  providers := ⟨[{
    id := "p1"
    slug := "google"
    name := "Google"
    issuer := "https://accounts.google.com"
    clientId := "client"
    discoveryUrl := "https://accounts.google.com/.well-known/openid-configuration" }],
    List.nodup_singleton _⟩
  users := ⟨[ada "u1"], List.nodup_singleton _⟩
  identities := Table.empty
  clock := 1773750731000

/-- The state of a login that was started at the beginning. -/
def startedState : JwtPayload × ℤ × ℤ :=
  oidcStateToken sampleAccountPlatform.toAuthPlatform "p1" "https://app.example.com/callback"
    (some "/nodes") 1773750731000

/-- What the provider answers to the requests of a call: its endpoints, tokens, and a profile. -/
def oidcAnswers : OidcInput where
  discovery := some {
    authorizationEndpoint := some "https://accounts.google.com/o/oauth2/v2/auth"
    tokenEndpoint := some "https://oauth2.googleapis.com/token"
    userinfoEndpoint := some "https://openidconnect.googleapis.com/v1/userinfo" }
  tokens := some { accessToken := some "access" }
  profile := some {
    sub := some "subject"
    email := some "ada@example.com"
    emailVerified := some true }

/-- A callback of the provider, with the steps of its call. -/
def oidcSignOn (p : ℕ) : List (OidcEvent (JwtPayload × ℤ × ℤ)) :=
  .invoke p (.callback "google" (some "code") (some startedState) none none) {} ::
    List.replicate 7 (.resume p oidcAnswers)

/-- Ada signs on, her account is deleted and made again, and she signs on again. -/
def oidcRun : List (OidcEvent (JwtPayload × ℤ × ℤ)) :=
  oidcSignOn 0 ++ .env (.deleteUser "u1") ::
    .env (.saveUser (ada "u2")) :: oidcSignOn 1

/-- The callbacks of the run. -/
def startedCallback : OidcCallback (JwtPayload × ℤ × ℤ) :=
  ⟨startedState, 1773750731000, startedState.1⟩

theorem subject_keeps_user_deleted :
    .unlinked "p1" "subject" "u1"
        ∈ (run (oidcStep sampleAccountPlatform) (Config.idle oidcStart) oidcRun).world.history ∨
      .unlinked "p1" "subject" "u2"
        ∈ (run (oidcStep sampleAccountPlatform) (Config.idle oidcStart) oidcRun).world.history := by
  have hfirst : .session "p1" "subject" (ada "u1") (some "/nodes") startedCallback
      ∈ (run (oidcStep sampleAccountPlatform) (Config.idle oidcStart) oidcRun).world.history := by
    decide +kernel
  have hsecond : .session "p1" "subject" (ada "u2") (some "/nodes") startedCallback
      ∈ (run (oidcStep sampleAccountPlatform) (Config.idle oidcStart) oidcRun).world.history := by
    decide +kernel
  exact subject_keeps_user sampleAccountPlatform rfl oidcRun hfirst hsecond (by decide)

/-- What a state that `startOidcLogin` signed says of the callback that brings it. -/
theorem Accepted.of_start (hjwt : platform.jwt.Lawful) {providerId startedFor redirectUri : String}
    {next : Option String} {startedAt : ℤ} {callback : OidcCallback Token}
    (h : Accepted platform providerId callback)
    (hstate : callback.state
      = oidcStateToken platform.toAuthPlatform startedFor redirectUri next startedAt) :
    startedFor = providerId ∧ callback.payload.redirectUri = some redirectUri ∧
      callback.payload.next = next ∧
      callback.verifiedAt / 1000 < startedAt / 1000 + platform.timespan oidcStateExpiry := by
  obtain ⟨hverified, hprovider⟩ := h
  obtain ⟨payload, hdecoded, hreturn⟩ := bind_eq_ok.mp (verifying_eq_ok.mp hverified)
  rw [hstate] at hdecoded
  obtain ⟨hlive, hpayload⟩ := hjwt.verify_sign_eq_ok.mp (mapError_eq_ok.mp hdecoded)
  split at hreturn
  · cases hreturn
  · rw [← Except.ok.inj hreturn, ← hpayload] at hprovider ⊢
    exact ⟨Option.some.inj hprovider, rfl, rfl, hlive⟩

/-- **The state binds a login.**  Where the state of a callback is one that `startOidcLogin` signed,
less than ten minutes ago, the code goes to the provider it was signed for, and the session to the
page it named.  The user of a session was active, and the code of its callback was sent to the
provider that named the subject. -/
theorem state_binds_login (hjwt : platform.jwt.Lawful) (hstart : w.history = [])
    (es : List (OidcEvent Token)) {startedFor redirectUri : String} {next : Option String}
    {startedAt : ℤ} {callback : OidcCallback Token}
    (hstate : callback.state
      = oidcStateToken platform.toAuthPlatform startedFor redirectUri next startedAt) :
    (∀ providerId redirect, .exchanged providerId redirect callback
        ∈ (run (oidcStep platform) (Config.idle w) es).world.history →
      providerId = startedFor ∧ redirect = some redirectUri ∧
        callback.verifiedAt / 1000 < startedAt / 1000 + platform.timespan oidcStateExpiry) ∧
    ∀ providerId subject user path, .session providerId subject user path callback
        ∈ (run (oidcStep platform) (Config.idle w) es).world.history →
      providerId = startedFor ∧ path = next ∧ SignsOn user ∧
        .exchanged providerId (some redirectUri) callback
          ∈ (run (oidcStep platform) (Config.idle w) es).world.history := by
  have hfacts := factsHold_run platform hstart es
  constructor
  · intro providerId redirect hexchanged
    obtain ⟨haccepted, rfl⟩ := hfacts _ hexchanged
    obtain ⟨rfl, hredirect, -, hlive⟩ := haccepted.of_start platform hjwt hstate
    exact ⟨rfl, hredirect, hlive⟩
  · intro providerId subject user path hsession
    obtain ⟨haccepted, hsent, hactive, -, rfl⟩ := hfacts _ hsession
    obtain ⟨rfl, hredirect, hnext, -⟩ := haccepted.of_start platform hjwt hstate
    unfold Exchanged at hsent
    rw [hredirect] at hsent
    exact ⟨rfl, hnext, hactive, hsent⟩

theorem state_binds_login_google :
    OidcFact.session "p1" "subject" (ada "u1") (some "/nodes") startedCallback
        ∈ (run (oidcStep sampleAccountPlatform) (Config.idle oidcStart) oidcRun).world.history ∧
      .exchanged "p1" (some "https://app.example.com/callback") startedCallback
        ∈ (run (oidcStep sampleAccountPlatform) (Config.idle oidcStart) oidcRun).world.history := by
  have hsession : .session "p1" "subject" (ada "u1") (some "/nodes") startedCallback
      ∈ (run (oidcStep sampleAccountPlatform) (Config.idle oidcStart) oidcRun).world.history := by
    decide +kernel
  have hempty : oidcStart.history = [] := rfl
  have hstate : startedCallback.state = oidcStateToken sampleAccountPlatform.toAuthPlatform "p1"
      "https://app.example.com/callback" (some "/nodes") 1773750731000 := rfl
  have hbound := state_binds_login sampleAccountPlatform (Signer.transparent_lawful JwtPayload)
    hempty oidcRun hstate
  exact ⟨hsession, (hbound.2 _ _ _ _ hsession).2.2.2⟩

end AuthService
