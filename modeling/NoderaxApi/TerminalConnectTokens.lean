/-
# Terminal connect tokens are used once

`verifyTerminalConnectToken` cut at its awaits, on any number of API instances.  The `jti` of a
token is consumed by a SET NX in Redis, or without Redis in a set of the process; both forget
it after 180 seconds, and by then the token has expired for long enough.
-/
import NoderaxApi.Interleaving
import NoderaxApi.PendingWeights
import NoderaxApi.SecondFactor

open Runs Interleaving

namespace AuthService

/-! ## The shared world -/

/-- The outcome of a call: the token it was given, and what it returns or throws. -/
abbrev ConnectOutcome (Token : Type) := Token × Except ThrownError TerminalConnection

/-- Redis, the users, and for each instance of the API the state of its client and its set of
consumed `jti`s.  A key in Redis is there until its time; an entry of a set is there until its
timer fires, which is due at its time.  `outcomes` is the log of the calls; no step reads it. -/
structure ConnectWorld (Token : Type) where
  now : ℤ
  redisEnabled : Bool := true
  users : List UserEntity := []
  redis : String → Option ℤ := fun _ => none
  ready : ℕ → Bool := fun _ => true
  consumedTerminalTokenJtis : ℕ → List (String × ℤ) := fun _ => []
  outcomes : List (ConnectOutcome Token) := []

/-- The connections that calls have returned. -/
def ConnectWorld.accepted {Token : Type} (w : ConnectWorld Token) : List (ConnectOutcome Token) :=
  w.outcomes.filter fun outcome => outcome.2.isOk

/-- How many calls with the token have returned successfully. -/
def ConnectWorld.successes {Token : Type} [DecidableEq Token] (w : ConnectWorld Token)
    (token : Token) : ℕ :=
  w.outcomes.countP fun outcome => outcome.1 = token ∧ outcome.2.isOk

/-- The key of a `jti` in Redis. -/
def consumedKey (jti : String) : String := s!"terminal-connect-token:used:{jti}"

/-- SET NX EX 180. -/
def ConnectWorld.setIfAbsent {Token : Type} (w : ConnectWorld Token) (key : String) :
    ConnectWorld Token × Bool :=
  if (w.redis key).any (w.now < ·) then (w, false)
  else ({ w with redis := Function.update w.redis key (some (w.now + 180000)) }, true)

/-- The set of the process, when Redis is disabled. -/
def ConnectWorld.consumeLocally {Token : Type} (w : ConnectWorld Token) (i : ℕ) (jti : String) :
    ConnectWorld Token × Bool :=
  if jti ∈ (w.consumedTerminalTokenJtis i).map Prod.fst then (w, false)
  else
    ({ w with
        consumedTerminalTokenJtis := Function.update w.consumedTerminalTokenJtis i
          (w.consumedTerminalTokenJtis i ++ [(jti, w.now + 180000)]) }, true)

/-- What happens outside of the calls: time passes, a client changes its state, a timer fires,
or users are changed. -/
inductive ConnectEnv
  | advance (milliseconds : ℕ)
  | setReady (i : ℕ) (ready : Bool)
  | forget (i : ℕ) (jti : String)
  | setUsers (users : List UserEntity)

/-- A step of the environment.  A timer that is not due does not fire. -/
def connectEnv {Token : Type} : ConnectEnv → ConnectWorld Token → ConnectWorld Token
  | .advance milliseconds, w => { w with now := w.now + milliseconds }
  | .setReady i ready, w => { w with ready := Function.update w.ready i ready }
  | .forget i jti, w =>
      { w with
        consumedTerminalTokenJtis := Function.update w.consumedTerminalTokenJtis i
          ((w.consumedTerminalTokenJtis i).filter fun entry =>
            ¬ (entry.1 = jti ∧ entry.2 ≤ w.now)) }
  | .setUsers users, w => { w with users := users }

/-! ## The calls -/

/-- A call of `verifyTerminalConnectToken` on an instance. -/
structure ConnectRequest (Token : Type) where
  i : ℕ
  token : Token

/-- What becomes of a command SET: it is answered, it is carried out and the connection is lost
before the answer, it is never carried out, or it is sent again after a lost answer. -/
inductive SetReply
  | answered
  | lost
  | unsent
  | resent
  deriving DecidableEq, Repr

/-- What a call awaits: `verifyAsync`, `ensureConnected`, SET, `consumeTerminalConnectTokenJti`,
or `validateJwtPayload`. -/
inductive ConnectStage
  | verifying (result : Except ThrownError JwtPayload)
  | connecting (payload : JwtPayload)
  | setting (payload : JwtPayload)
  | consumed (payload : JwtPayload) (fresh : Bool)
  | validating (payload : JwtPayload)

/-- A pending call.  `checkedAt` is the time of its signature check; no step reads it. -/
structure ConnectCall (Token : Type) where
  i : ℕ
  token : Token
  checkedAt : ℤ
  stage : ConnectStage

section Calls

variable {Token : Type} (platform : AuthPlatform Token)

/-- The call returns or throws. -/
def ConnectCall.finish (l : ConnectCall Token) (w : ConnectWorld Token)
    (result : Except ThrownError TerminalConnection) :
    ConnectWorld Token × Option (ConnectCall Token) :=
  ({ w with outcomes := w.outcomes ++ [(l.token, AuthService.verifying result)] }, none)

/-- The call goes on to its next await. -/
def ConnectCall.goOn (l : ConnectCall Token) (w : ConnectWorld Token) (stage : ConnectStage) :
    ConnectWorld Token × Option (ConnectCall Token) :=
  (w, some { l with stage := stage })

/-- The payload is one of a terminal connect token. -/
def isTerminalConnectPayload (payload : JwtPayload) : Bool :=
  payload.type = some "terminal_session" && isPresent payload.sessionId &&
    isPresent payload.workspaceId && isPresent payload.jti

/-- `verifyTerminalConnectToken`, one await after the other.  `verifyAsync` reads the clock when
it is called. -/
def connectCalls : Calls (ConnectWorld Token) (ConnectRequest Token) (ConnectCall Token) SetReply
    where
  invoke req _ w :=
    (w, some ⟨req.i, req.token, w.now, .verifying (verifyAsync platform req.token w.now)⟩)
  resume l reply w :=
    match l.stage with
    | .verifying (.error e) => l.finish w (.error e)
    | .verifying (.ok payload) =>
        if ¬ isTerminalConnectPayload payload then
          l.finish w (.error (.http (.unauthorized "Invalid terminal connection token.")))
        else if w.redisEnabled then l.goOn w (.connecting payload)
        else
          let (w', fresh) := w.consumeLocally l.i (payload.jti.getD "")
          l.goOn w' (.consumed payload fresh)
    | .connecting payload =>
        l.goOn w (if w.ready l.i then .setting payload else .consumed payload false)
    | .setting payload =>
        let (w', fresh) := w.setIfAbsent (consumedKey (payload.jti.getD ""))
        match reply with
        | .unsent => l.finish w (.error .other)
        | .lost => l.finish w' (.error .other)
        | .answered =>
            if w.ready l.i then l.goOn w' (.consumed payload fresh)
            else l.finish w' (.error .other)
        | .resent =>
            if w.ready l.i then l.goOn w' (.consumed payload false)
            else l.finish w' (.error .other)
    | .consumed payload fresh =>
        if fresh then l.goOn w (.validating payload)
        else
          l.finish w
            (.error (.http (.unauthorized "Terminal connection token has already been used.")))
    | .validating payload =>
        l.finish w do
          let user ← validateJwtPayload w.users payload
          return ⟨user, payload.sessionId, payload.workspaceId⟩

/-- The world and the pending calls. -/
abbrev ConnectConfig (Token : Type) := Config ℕ (ConnectWorld Token) (ConnectCall Token)

/-- An event. -/
abbrev ConnectEvent (Token : Type) := Event ℕ (ConnectRequest Token) SetReply ConnectEnv

/-- One step of a call or of the environment. -/
abbrev connectStep : ConnectConfig Token → ConnectEvent Token → ConnectConfig Token :=
  step (connectCalls platform) connectEnv

end Calls

/-! ## Calls that nothing interrupts -/

section Uninterrupted

variable {Token : Type} {platform : AuthPlatform Token}

/-- What `verifyTerminalConnectToken` answers for a token that verifies. -/
theorem verifyTerminalConnectToken_of_ok {users : List UserEntity} {used : List (String × ℤ)}
    {token : Token} {now : ℤ} {payload : JwtPayload}
    (h : verifyAsync platform token now = .ok payload) :
    (verifyTerminalConnectToken platform users used token now).1 =
      if ¬ isTerminalConnectPayload payload then
        verifying (.error (.http (.unauthorized "Invalid terminal connection token.")))
      else if used.any fun entry => entry.1 = payload.jti.getD "" && now < entry.2 then
        verifying
          (.error (.http (.unauthorized "Terminal connection token has already been used.")))
      else
        verifying do
          let user ← validateJwtPayload users payload
          return ⟨user, payload.sessionId, payload.workspaceId⟩ := by
  have hinvalid : (payload.type ≠ some "terminal_session" || !isPresent payload.sessionId ||
      !isPresent payload.workspaceId || !isPresent payload.jti) =
        !isTerminalConnectPayload payload := by
    simp [isTerminalConnectPayload, Bool.not_and]
  unfold verifyTerminalConnectToken consumeTerminalConnectTokenJti
  rw [h]
  simp only [hinvalid]
  cases isTerminalConnectPayload payload with
  | false => rfl
  | true =>
      cases used.any fun entry => entry.1 = payload.jti.getD "" && now < entry.2 with
      | true => rfl
      | false => rfl

/-- A call that nothing interrupts. -/
def uninterrupted (i : ℕ) (token : Token) : List (ConnectEvent Token) :=
  .invoke 0 ⟨i, token⟩ .answered :: List.replicate 5 (.resume 0 .answered)

/-- **A call that nothing interrupts** answers as `verifyTerminalConnectToken` does in one step,
if the keys in Redis are the used ones. -/
theorem uninterrupted_outcomes (w : ConnectWorld Token) (i : ℕ) (token : Token)
    (used : List (String × ℤ)) (hredis : w.redisEnabled = true) (hready : w.ready i = true)
    (hused : ∀ jti, (w.redis (consumedKey jti)).any (w.now < ·) =
      used.any fun entry => entry.1 = jti && w.now < entry.2) :
    (run (connectStep platform) (Config.idle w) (uninterrupted i token)).world.outcomes =
      w.outcomes ++
        [(token, (verifyTerminalConnectToken platform w.users used token w.now).1)] := by
  cases hverify : verifyAsync platform token w.now with
  | error e =>
      simp [uninterrupted, List.replicate, step, connectCalls, ConnectCall.finish, hverify,
        verifyTerminalConnectToken]
  | ok payload =>
      rw [verifyTerminalConnectToken_of_ok hverify, ← hused]
      cases hpayload : isTerminalConnectPayload payload with
      | false =>
          simp [uninterrupted, List.replicate, step, connectCalls, ConnectCall.finish, hverify,
            hpayload]
      | true =>
          cases hlive : (w.redis (consumedKey (payload.jti.getD ""))).any (w.now < ·) <;>
            simp [uninterrupted, List.replicate, step, connectCalls, ConnectCall.finish,
              ConnectCall.goOn, hverify, hpayload, hredis, hready, ConnectWorld.setIfAbsent, hlive]

end Uninterrupted

/-! ## What is claimed -/

section Claim

variable {Token : Type} [DecidableEq Token] (platform : AuthPlatform Token)

/-- The next step of a call consumes its `jti`. -/
def ConnectCall.Consumes (w : ConnectWorld Token) (l : ConnectCall Token) : Prop :=
  match l.stage with
  | .verifying (.ok _) => w.redisEnabled = false
  | .setting _ => True
  | _ => False

/-- The next step of a call needs Redis. -/
def ConnectCall.NeedsRedis (l : ConnectCall Token) : Prop :=
  match l.stage with
  | .connecting _ | .setting _ => True
  | _ => False

/-- The calls with a token take at most 50 seconds from the signature check to the consumption;
without Redis they are all made on one instance. -/
def InTime (token : Token) (i : ℕ) (c : ConnectConfig Token) : ConnectEvent Token → Prop
  | .invoke _ req _ => req.token = token → c.world.redisEnabled = true ∨ req.i = i
  | .resume p _ => ∀ l, c.pending p = some l → l.token = token → l.Consumes c.world →
      c.world.now ≤ l.checkedAt + 50000
  | .env _ => True

/-- **A token is used once.** -/
structure SingleUse (c : ConnectConfig Token) (token : Token)
    (es : List (ConnectEvent Token)) : Prop where
  /-- At most one call with the token has returned successfully. -/
  once : (run (connectStep platform) c es).world.successes token ≤ 1
  /-- A call that needs Redis when the client of its instance is not ready returns nothing, then
  or later. -/
  failsClosed : ∀ es₁ p reply es₂ reply' es₃ l,
    es = es₁ ++ .resume p reply :: es₂ ++ .resume p reply' :: es₃ →
    (run (connectStep platform) c es₁).pending p = some l → l.NeedsRedis →
    (run (connectStep platform) c es₁).world.ready l.i = false →
    (∀ req reply, .invoke p req reply ∉ es₂) →
    (run (connectStep platform) c
        (es₁ ++ .resume p reply :: es₂ ++ [.resume p reply'])).world.accepted =
      (run (connectStep platform) c (es₁ ++ .resume p reply :: es₂)).world.accepted

end Claim

/-! ## Failing closed -/

section FailsClosed

variable {Token : Type} {platform : AuthPlatform Token}

/-- The call of `p`, if it has one, has not consumed its `jti`. -/
def Refused (p : ℕ) (c : ConnectConfig Token) : Prop :=
  ∀ l, c.pending p = some l → ∃ payload, l.stage = .consumed payload false

theorem accepted_finish_error (l : ConnectCall Token) (w : ConnectWorld Token)
    (e : ThrownError) : (l.finish w (.error e)).1.accepted = w.accepted := by
  simp [ConnectCall.finish, ConnectWorld.accepted, AuthService.verifying, Except.mapError,
    Except.isOk, Except.toBool]

/-- What a call does that needs Redis when the client is not ready. -/
theorem refused_of_unready {l l' : ConnectCall Token} {w : ConnectWorld Token}
    {reply : SetReply} (hl : l.NeedsRedis) (hw : w.ready l.i = false)
    (hl' : ((connectCalls platform).resume l reply w).2 = some l') :
    ∃ payload, l'.stage = .consumed payload false := by
  obtain ⟨i, token, checkedAt, stage⟩ := l
  have hready : w.ready i = false := hw
  cases stage with
  | verifying result => exact hl.elim
  | consumed payload fresh => exact hl.elim
  | validating payload => exact hl.elim
  | connecting payload =>
      simp only [connectCalls, ConnectCall.goOn, hready, Bool.false_eq_true, if_false] at hl'
      cases hl'
      exact ⟨payload, rfl⟩
  | setting payload =>
      have hnone : ((connectCalls platform).resume ⟨i, token, checkedAt, .setting payload⟩ reply
          w).2 = none := by
        cases reply <;> simp [connectCalls, ConnectCall.finish, hready]
      exact absurd (hnone.symm.trans hl') (by simp)

theorem refused_step {p : ℕ} {c : ConnectConfig Token} {e : ConnectEvent Token}
    (hc : Refused p c) (he : ∀ req reply, e ≠ .invoke p req reply) :
    Refused p (connectStep platform c e) := by
  have hmoved : ∀ q w next, (q = p → ∀ l, next = some l →
      ∃ payload, l.stage = .consumed payload false) →
        Refused p (⟨w, Function.update c.pending q next⟩ : ConnectConfig Token) := by
    intro q w next hself l hl
    by_cases hqp : p = q
    · subst hqp
      exact hself rfl l ((Function.update_self p next c.pending).symm.trans hl)
    · exact hc l ((Function.update_of_ne hqp next c.pending).symm.trans hl)
  cases e with
  | invoke q req reply =>
      cases hq : c.pending q with
      | some l =>
          rw [connectStep, step_invoke_busy hq]
          exact hc
      | none =>
          rw [connectStep, step_invoke hq]
          exact hmoved q _ _ fun hqp => absurd (by rw [hqp]) (he req reply)
  | resume q reply =>
      cases hq : c.pending q with
      | none =>
          rw [connectStep, step_resume_idle hq]
          exact hc
      | some l =>
          rw [connectStep, step_resume hq]
          refine hmoved q _ _ fun hqp l' hl' => ?_
          subst hqp
          obtain ⟨payload, hstage⟩ := hc l hq
          simp [connectCalls, hstage, ConnectCall.finish] at hl'
  | env e => exact hc

/-- A refused call returns nothing. -/
theorem Refused.accepted {p : ℕ} {c : ConnectConfig Token} (hc : Refused p c)
    (reply : SetReply) :
    (connectStep platform c (.resume p reply)).world.accepted = c.world.accepted := by
  cases hp : c.pending p with
  | none => rw [connectStep, step_resume_idle hp]
  | some l =>
      obtain ⟨payload, hstage⟩ := hc l hp
      rw [connectStep, step_resume hp]
      simp only [connectCalls, hstage, Bool.false_eq_true, if_false]
      exact accepted_finish_error l c.world _

theorem refused_run {p : ℕ} {c : ConnectConfig Token} {es : List (ConnectEvent Token)}
    (hc : Refused p c) (hes : ∀ req reply, .invoke p req reply ∉ es) :
    Refused p (run (connectStep platform) c es) := by
  induction es generalizing c with
  | nil => exact hc
  | cons e es ih =>
      have hhead : ∀ req reply, e ≠ .invoke p req reply := fun req reply h =>
        hes req reply (h ▸ List.mem_cons_self)
      exact ih (refused_step hc hhead) fun req reply h => hes req reply (List.mem_cons_of_mem _ h)

/-- A step that needs Redis without a client that is ready leaves a refused call. -/
theorem refused_resume {p : ℕ} {c : ConnectConfig Token} {l : ConnectCall Token}
    (hp : c.pending p = some l) (hl : l.NeedsRedis) (hready : c.world.ready l.i = false)
    (reply : SetReply) : Refused p (connectStep platform c (.resume p reply)) := by
  intro l' hl'
  rw [connectStep, step_resume hp] at hl'
  exact refused_of_unready hl hready ((Function.update_self p _ c.pending).symm.trans hl')

end FailsClosed

/-! ## Using a token once -/

/-- A token that verifies for less than 120 seconds after it was minted, and has a `jti`. -/
structure ConnectToken {Token : Type} (platform : AuthPlatform Token) where
  token : Token
  jti : String
  mintedAt : ℤ
  verifies : ∀ {now payload}, verifyAsync platform token now = .ok payload →
    payload.jti = some jti ∧ now < mintedAt + 120000

section Once

variable {Token : Type} {platform : AuthPlatform Token} (t : ConnectToken platform) (i : ℕ)

/-- The `jti` of the token is marked as consumed, or it was minted 180 seconds ago. -/
def Marked (w : ConnectWorld Token) : Prop :=
  t.mintedAt + 180000 ≤ w.now ∨
    if w.redisEnabled then
      ∃ until_, w.redis (consumedKey t.jti) = some until_ ∧ t.mintedAt + 180000 ≤ until_
    else
      ∃ until_, (t.jti, until_) ∈ w.consumedTerminalTokenJtis i ∧ t.mintedAt + 180000 ≤ until_

/-- The payload that a call has verified. -/
def ConnectStage.payload : ConnectStage → Option JwtPayload
  | .verifying (.ok payload) | .connecting payload | .setting payload | .consumed payload _
  | .validating payload => some payload
  | .verifying (.error _) => none

/-- A pending call with the token. -/
def ConnectPending (w : ConnectWorld Token) (l : ConnectCall Token) : Prop :=
  l.token = t.token → (w.redisEnabled = true ∨ l.i = i) ∧ (l.NeedsRedis → w.redisEnabled = true) ∧
    ∀ payload, l.stage.payload = some payload →
      payload.jti = some t.jti ∧ l.checkedAt < t.mintedAt + 120000

/-- The call has consumed its `jti`. -/
def ConnectStage.passed : ConnectStage → Bool
  | .consumed _ fresh => fresh
  | .validating _ => true
  | _ => false

variable {t i}

theorem setIfAbsent_frame (w : ConnectWorld Token) (key : String) :
    (w.setIfAbsent key).1.now = w.now ∧ (w.setIfAbsent key).1.redisEnabled = w.redisEnabled ∧
      (w.setIfAbsent key).1.outcomes = w.outcomes := by
  unfold ConnectWorld.setIfAbsent
  split <;> exact ⟨rfl, rfl, rfl⟩

theorem consumeLocally_frame (w : ConnectWorld Token) (j : ℕ) (jti : String) :
    (w.consumeLocally j jti).1.now = w.now ∧
      (w.consumeLocally j jti).1.redisEnabled = w.redisEnabled ∧
      (w.consumeLocally j jti).1.outcomes = w.outcomes := by
  unfold ConnectWorld.consumeLocally
  split <;> exact ⟨rfl, rfl, rfl⟩

/-- SET NX keeps the mark, and sets it. -/
theorem marked_setIfAbsent {w : ConnectWorld Token} (hclock : t.mintedAt ≤ w.now)
    (hw : Marked t i w) (key : String) : Marked t i (w.setIfAbsent key).1 := by
  unfold ConnectWorld.setIfAbsent
  split
  · exact hw
  · rcases hw with hlate | hmark
    · exact .inl hlate
    · refine .inr ?_
      simp only
      split
      next hredis =>
          rw [if_pos hredis] at hmark
          by_cases hkey : consumedKey t.jti = key
          · exact ⟨w.now + 180000, by rw [hkey, Function.update_self], by omega⟩
          · rw [Function.update_of_ne hkey]
            exact hmark
      next hredis =>
          rw [if_neg hredis] at hmark
          exact hmark

theorem setIfAbsent_marks {w : ConnectWorld Token} (hclock : t.mintedAt ≤ w.now)
    (hredis : w.redisEnabled = true)
    (hfresh : (w.setIfAbsent (consumedKey t.jti)).2 = true) :
    Marked t i (w.setIfAbsent (consumedKey t.jti)).1 := by
  unfold ConnectWorld.setIfAbsent at hfresh ⊢
  split at hfresh
  · exact absurd hfresh (by simp)
  next hlive =>
      rw [if_neg hlive]
      refine .inr ?_
      simp only [hredis, if_true]
      exact ⟨w.now + 180000, Function.update_self _ _ _, by omega⟩

/-- **While a verified token can be consumed, its mark is live**: 120 seconds after it was
minted it verifies no more, and the mark lasts 180 seconds from the first consumption. -/
theorem setIfAbsent_fresh {w : ConnectWorld Token} {checkedAt : ℤ}
    (hredis : w.redisEnabled = true) (hfresh : (w.setIfAbsent (consumedKey t.jti)).2 = true)
    (hw : Marked t i w) (hchecked : checkedAt < t.mintedAt + 120000)
    (hconsumed : w.now ≤ checkedAt + 50000) : False := by
  rcases hw with hlate | hmark
  · omega
  · rw [if_pos hredis] at hmark
    obtain ⟨until_, hkey, huntil⟩ := hmark
    have hlive : (w.redis (consumedKey t.jti)).any (w.now < ·) = true := by
      rw [hkey, Option.any_some, decide_eq_true_eq]
      omega
    rw [ConnectWorld.setIfAbsent, if_pos hlive] at hfresh
    exact absurd hfresh (by simp)

theorem marked_consumeLocally {w : ConnectWorld Token} (hw : Marked t i w) (j : ℕ)
    (jti : String) : Marked t i (w.consumeLocally j jti).1 := by
  unfold ConnectWorld.consumeLocally
  split
  · exact hw
  · rcases hw with hlate | hmark
    · exact .inl hlate
    · refine .inr ?_
      simp only
      split
      next hredis =>
          rw [if_pos hredis] at hmark
          exact hmark
      next hredis =>
          rw [if_neg hredis] at hmark
          obtain ⟨until_, hentry, huntil⟩ := hmark
          refine ⟨until_, ?_, huntil⟩
          by_cases hij : i = j
          · subst hij
            rw [Function.update_self]
            exact List.mem_append_left _ hentry
          · rw [Function.update_of_ne hij]
            exact hentry

theorem consumeLocally_marks {w : ConnectWorld Token} (hclock : t.mintedAt ≤ w.now)
    (hredis : w.redisEnabled = false) (hfresh : (w.consumeLocally i t.jti).2 = true) :
    Marked t i (w.consumeLocally i t.jti).1 := by
  unfold ConnectWorld.consumeLocally at hfresh ⊢
  split at hfresh
  · exact absurd hfresh (by simp)
  next hlive =>
      rw [if_neg hlive]
      refine .inr ?_
      simp only [hredis, Bool.false_eq_true, if_false]
      refine ⟨w.now + 180000, ?_, by omega⟩
      rw [Function.update_self]
      exact List.mem_append_right _ (List.mem_singleton_self _)

/-- The same for the set of a process. -/
theorem consumeLocally_fresh {w : ConnectWorld Token} {checkedAt : ℤ}
    (hredis : w.redisEnabled = false) (hfresh : (w.consumeLocally i t.jti).2 = true)
    (hw : Marked t i w) (hchecked : checkedAt < t.mintedAt + 120000)
    (hconsumed : w.now ≤ checkedAt + 50000) : False := by
  rcases hw with hlate | hmark
  · omega
  · rw [if_neg (by simp [hredis])] at hmark
    obtain ⟨until_, hentry, -⟩ := hmark
    have hused : t.jti ∈ (w.consumedTerminalTokenJtis i).map Prod.fst :=
      List.mem_map.mpr ⟨_, hentry, rfl⟩
    rw [ConnectWorld.consumeLocally, if_pos hused] at hfresh
    exact absurd hfresh (by simp)

/-- A mark is there for 180 seconds. -/
theorem marked_env {w : ConnectWorld Token} (hw : Marked t i w) (e : ConnectEnv) :
    Marked t i (connectEnv e w) := by
  cases e with
  | setReady j ready => exact hw
  | setUsers users => exact hw
  | advance milliseconds =>
      rcases hw with hlate | hmark
      · have hlater : t.mintedAt + 180000 ≤ w.now + milliseconds := by omega
        exact .inl hlater
      · exact .inr hmark
  | forget j jti =>
      rcases hw with hlate | hmark
      · exact .inl hlate
      · have hsame : (connectEnv (.forget j jti) w).redisEnabled = w.redisEnabled := rfl
        unfold Marked
        rw [hsame]
        by_cases hredis : w.redisEnabled = true
        · rw [if_pos hredis] at hmark ⊢
          exact .inr hmark
        · rw [if_neg hredis] at hmark ⊢
          obtain ⟨until_, hentry, huntil⟩ := hmark
          by_cases hdue : until_ ≤ w.now
          · exact .inl (huntil.trans hdue)
          · refine .inr ⟨until_, ?_, huntil⟩
            simp only [connectEnv]
            by_cases hij : i = j
            · subst hij
              rw [Function.update_self]
              exact List.mem_filter.mpr ⟨hentry, by simp [hdue]⟩
            · rw [Function.update_of_ne hij]
              exact hentry

variable [DecidableEq Token] (t i)

/-- A call with the token that has consumed the `jti`. -/
def passedWeight (l : ConnectCall Token) : ℤ :=
  if l.token = t.token ∧ l.stage.passed then 1 else 0

/-- **The state between two steps**: of the calls with the token, one at most has consumed the
`jti`, and then it is marked. -/
structure OnceInvariant (c : ConnectConfig Token) : Prop where
  clock : t.mintedAt ≤ c.world.now
  calls : ∀ p l, c.pending p = some l → ConnectPending t i c.world l
  passed : ∃ n, Weighs (passedWeight t) c.pending n ∧ n + c.world.successes t.token ≤ 1 ∧
    (0 < n + c.world.successes t.token → Marked t i c.world)

variable {t i}

/-- One call moved: either no further call has consumed the `jti`, or one has and marked it. -/
theorem OnceInvariant.update {c : ConnectConfig Token} {p : ℕ} {w' : ConnectWorld Token}
    {next : Option (ConnectCall Token)} (hc : OnceInvariant t i c)
    (hnow : w'.now = c.world.now) (hredis : w'.redisEnabled = c.world.redisEnabled)
    (hcalls : ∀ l, next = some l → ConnectPending t i c.world l)
    (hpassed :
      ((w'.successes t.token : ℤ) + pendingWeight (passedWeight t) next ≤
          c.world.successes t.token + pendingWeight (passedWeight t) (c.pending p) ∧
        (Marked t i c.world → Marked t i w')) ∨
      ((w'.successes t.token : ℤ) + pendingWeight (passedWeight t) next ≤
          c.world.successes t.token + pendingWeight (passedWeight t) (c.pending p) + 1 ∧
        ¬ Marked t i c.world ∧ Marked t i w')) :
    OnceInvariant t i ⟨w', Function.update c.pending p next⟩ where
  clock := hc.clock.trans_eq hnow.symm
  calls := by
    have hsame : ∀ l, ConnectPending t i c.world l → ConnectPending t i w' l := by
      intro l hl htoken
      rw [hredis]
      exact hl htoken
    exact pending_update (fun l hl => hsame l (hcalls l hl))
      fun q l hq => hsame l (hc.calls q l hq)
  passed := by
    obtain ⟨n, hweighs, hle, hmark⟩ := hc.passed
    refine ⟨_, hweighs.update p next, ?_, ?_⟩ <;> simp only
    · rcases hpassed with ⟨hsame, -⟩ | ⟨hone, hfree, -⟩
      · omega
      · have hnone : ¬ 0 < n + c.world.successes t.token := fun h => hfree (hmark h)
        omega
    · rcases hpassed with ⟨hsame, hkeep⟩ | ⟨-, -, hmarked⟩
      · exact fun h => hkeep (hmark (by omega))
      · exact fun _ => hmarked

theorem successes_finish (l : ConnectCall Token) (w : ConnectWorld Token)
    (result : Except ThrownError TerminalConnection) (token : Token) :
    (l.finish w result).1.successes token =
      w.successes token + if l.token = token ∧ result.isOk then 1 else 0 := by
  simp [ConnectCall.finish, ConnectWorld.successes, List.countP_append, List.countP_singleton,
    verifying_isOk]

/-- A call that ends counts when it has consumed its `jti`, and never otherwise. -/
theorem OnceInvariant.finish {c : ConnectConfig Token} {p : ℕ} {l : ConnectCall Token}
    (hc : OnceInvariant t i c) (hp : c.pending p = some l) {w : ConnectWorld Token}
    {result : Except ThrownError TerminalConnection} (hnow : w.now = c.world.now)
    (hredis : w.redisEnabled = c.world.redisEnabled) (houtcomes : w.outcomes = c.world.outcomes)
    (hmarked : Marked t i c.world → Marked t i w)
    (hresult : l.stage.passed = true ∨ result.isOk = false) :
    OnceInvariant t i ⟨(l.finish w result).1, Function.update c.pending p none⟩ := by
  refine hc.update hnow hredis (fun _ h => absurd h (by simp)) (.inl ⟨?_, hmarked⟩)
  have hsame : w.successes t.token = c.world.successes t.token := by
    rw [ConnectWorld.successes, houtcomes, ConnectWorld.successes]
  have hcounted : ((if l.token = t.token ∧ result.isOk then 1 else 0 : ℕ) : ℤ) ≤
      passedWeight t l := by
    unfold passedWeight
    by_cases hok : l.token = t.token ∧ result.isOk = true
    · have hpassed : l.stage.passed = true :=
        hresult.resolve_right fun herror => by rw [herror] at hok; exact absurd hok.2 (by simp)
      rw [if_pos hok, if_pos ⟨hok.1, hpassed⟩]
      exact le_refl 1
    · rw [if_neg hok]
      split <;> simp
  rw [successes_finish, hsame, hp, Nat.cast_add]
  simp only [pendingWeight]
  omega

/-- A call that goes on, and consumes nothing. -/
theorem OnceInvariant.goOn {c : ConnectConfig Token} {p : ℕ} {l : ConnectCall Token}
    (hc : OnceInvariant t i c) (hp : c.pending p = some l) {w : ConnectWorld Token}
    {stage : ConnectStage} (hnow : w.now = c.world.now)
    (hredis : w.redisEnabled = c.world.redisEnabled) (houtcomes : w.outcomes = c.world.outcomes)
    (hmarked : Marked t i c.world → Marked t i w) (hpayload : stage.payload = l.stage.payload)
    (hneeds : { l with stage := stage }.NeedsRedis → l.NeedsRedis ∨ c.world.redisEnabled = true)
    (hstage : l.token = t.token → stage.passed = true → l.stage.passed = true) :
    OnceInvariant t i ⟨(l.goOn w stage).1, Function.update c.pending p (l.goOn w stage).2⟩ := by
  refine hc.update hnow hredis (fun l' hl' => ?_) (.inl ⟨?_, hmarked⟩)
  · cases hl'
    intro htoken
    obtain ⟨hinstance, henabled, hverified⟩ := hc.calls p l hp htoken
    exact ⟨hinstance, fun h => (hneeds h).elim henabled id,
      fun payload h => hverified payload (hpayload.symm.trans h)⟩
  · have hsame : w.successes t.token = c.world.successes t.token := by
      rw [ConnectWorld.successes, houtcomes, ConnectWorld.successes]
    have hweight : passedWeight t { l with stage := stage } ≤ passedWeight t l := by
      unfold passedWeight
      by_cases hpassed : l.token = t.token ∧ stage.passed = true
      · rw [if_pos hpassed, if_pos ⟨hpassed.1, hstage hpassed.1 hpassed.2⟩]
      · rw [if_neg hpassed]
        split <;> simp
    simp only [ConnectCall.goOn, hsame, hp, pendingWeight]
    omega

/-- A call consumes the `jti` of its payload, and goes on. -/
theorem OnceInvariant.consume {c : ConnectConfig Token} {p : ℕ} {l : ConnectCall Token}
    (hc : OnceInvariant t i c) (hp : c.pending p = some l) {w : ConnectWorld Token}
    {payload : JwtPayload} {fresh : Bool} (hnow : w.now = c.world.now)
    (hredis : w.redisEnabled = c.world.redisEnabled) (houtcomes : w.outcomes = c.world.outcomes)
    (hmarked : Marked t i c.world → Marked t i w) (hpayload : l.stage.payload = some payload)
    (hfresh : l.token = t.token → fresh = true → ¬ Marked t i c.world ∧ Marked t i w) :
    OnceInvariant t i ⟨(l.goOn w (.consumed payload fresh)).1,
      Function.update c.pending p (l.goOn w (.consumed payload fresh)).2⟩ := by
  by_cases hconsumed : l.token = t.token ∧ fresh = true
  · obtain ⟨hfree, hmark⟩ := hfresh hconsumed.1 hconsumed.2
    refine hc.update hnow hredis (fun l' hl' => ?_) (.inr ⟨?_, hfree, hmark⟩)
    · cases hl'
      intro htoken
      obtain ⟨hinstance, -, hverified⟩ := hc.calls p l hp htoken
      exact ⟨hinstance, fun h => h.elim, fun payload' h => hverified payload' (hpayload.trans h)⟩
    · have hsame : w.successes t.token = c.world.successes t.token := by
        rw [ConnectWorld.successes, houtcomes, ConnectWorld.successes]
      have hweight : 0 ≤ passedWeight t l := by
        unfold passedWeight
        split <;> simp
      have hone : passedWeight t { l with stage := .consumed payload fresh } = 1 :=
        if_pos hconsumed
      simp only [ConnectCall.goOn, hsame, hp, pendingWeight, hone]
      omega
  · exact hc.goOn hp hnow hredis houtcomes hmarked hpayload.symm (fun h => h.elim)
      fun htoken hpassed => absurd ⟨htoken, hpassed⟩ hconsumed

/-- **One step of a call.** -/
theorem onceInvariant_resume {c : ConnectConfig Token} {p : ℕ} {reply : SetReply}
    (hc : OnceInvariant t i c) (hg : InTime t.token i c (.resume p reply)) :
    OnceInvariant t i (connectStep platform c (.resume p reply)) := by
  cases hp : c.pending p with
  | none =>
      rw [connectStep, step_resume_idle hp]
      exact hc
  | some l =>
      have hintime := hg l hp
      have hpending := hc.calls p l hp
      rw [connectStep, step_resume hp]
      obtain ⟨j, token, checkedAt, stage⟩ := l
      cases stage with
      | verifying result =>
          cases result with
          | error e => exact hc.finish hp rfl rfl rfl id (.inr rfl)
          | ok payload =>
              simp only [connectCalls]
              split
              · exact hc.finish hp rfl rfl rfl id (.inr rfl)
              · split
                next henabled =>
                    exact hc.goOn hp rfl rfl rfl id rfl (fun _ => .inr henabled)
                      fun _ h => absurd h (by simp [ConnectStage.passed])
                next henabled =>
                    -- without Redis the memory of this one instance decides
                    have hdisabled := Bool.eq_false_of_not_eq_true henabled
                    obtain ⟨hnow, hredis, houtcomes⟩ :=
                      consumeLocally_frame c.world j (payload.jti.getD "")
                    refine hc.consume hp hnow hredis houtcomes
                      (fun h => marked_consumeLocally h j _) rfl fun htoken hfresh => ?_
                    obtain ⟨hinstance, -, hverified⟩ := hpending htoken
                    obtain ⟨hjti, hchecked⟩ := hverified payload rfl
                    obtain rfl : j = i := hinstance.resolve_left henabled
                    have hconsumed : c.world.now ≤ checkedAt + 50000 := hintime htoken hdisabled
                    rw [hjti, Option.getD_some] at hfresh ⊢
                    refine ⟨fun h => ?_, consumeLocally_marks hc.clock hdisabled hfresh⟩
                    exact consumeLocally_fresh hdisabled hfresh h hchecked hconsumed
      | connecting payload =>
          refine hc.goOn hp rfl rfl rfl id ?_ (fun _ => .inl trivial) fun _ h => ?_
          · split <;> rfl
          · split at h <;> exact absurd h (by simp [ConnectStage.passed])
      | setting payload =>
          obtain ⟨hnow, hredis, houtcomes⟩ :=
            setIfAbsent_frame c.world (consumedKey (payload.jti.getD ""))
          have hmarked : Marked t i c.world →
              Marked t i (c.world.setIfAbsent (consumedKey (payload.jti.getD ""))).1 := fun h =>
            marked_setIfAbsent hc.clock h _
          cases reply with
          | unsent => exact hc.finish hp rfl rfl rfl id (.inr rfl)
          | lost => exact hc.finish hp hnow hredis houtcomes hmarked (.inr rfl)
          | resent =>
              -- the first answer was lost, so the second finds the key that the first has set
              simp only [connectCalls]
              split
              · exact hc.goOn hp hnow hredis houtcomes hmarked rfl (fun h => h.elim)
                  fun _ h => absurd h (by simp [ConnectStage.passed])
              · exact hc.finish hp hnow hredis houtcomes hmarked (.inr rfl)
          | answered =>
              simp only [connectCalls]
              split
              · refine hc.consume hp hnow hredis houtcomes hmarked rfl fun htoken hfresh => ?_
                obtain ⟨-, hneeds, hverified⟩ := hpending htoken
                obtain ⟨hjti, hchecked⟩ := hverified payload rfl
                have henabled := hneeds trivial
                have hconsumed : c.world.now ≤ checkedAt + 50000 := hintime htoken trivial
                rw [hjti, Option.getD_some] at hfresh ⊢
                refine ⟨fun h => ?_, setIfAbsent_marks hc.clock henabled hfresh⟩
                exact setIfAbsent_fresh henabled hfresh h hchecked hconsumed
              · exact hc.finish hp hnow hredis houtcomes hmarked (.inr rfl)
      | consumed payload fresh =>
          simp only [connectCalls]
          split
          next hfresh =>
              exact hc.goOn hp rfl rfl rfl id rfl (fun h => h.elim) fun _ _ => hfresh
          next => exact hc.finish hp rfl rfl rfl id (.inr rfl)
      | validating payload => exact hc.finish hp rfl rfl rfl id (.inl rfl)

/-- A call starts. -/
theorem onceInvariant_invoke {c : ConnectConfig Token} {p : ℕ} {req : ConnectRequest Token}
    {reply : SetReply} (hc : OnceInvariant t i c)
    (hg : InTime t.token i c (.invoke p req reply)) :
    OnceInvariant t i (connectStep platform c (.invoke p req reply)) := by
  cases hp : c.pending p with
  | some l =>
      rw [connectStep, step_invoke_busy hp]
      exact hc
  | none =>
      rw [connectStep, step_invoke hp]
      refine hc.update rfl rfl (fun l hl => ?_) (.inl ⟨?_, id⟩)
      · cases hl
        intro htoken
        have htoken' : req.token = t.token := htoken
        refine ⟨hg htoken', fun h => h.elim, fun payload hpayload => ?_⟩
        cases hresult : verifyAsync platform req.token c.world.now with
        | error e =>
            simp only [hresult, ConnectStage.payload] at hpayload
            exact absurd hpayload (by simp)
        | ok payload' =>
            simp only [hresult, ConnectStage.payload, Option.some.injEq] at hpayload
            subst hpayload
            exact t.verifies (htoken' ▸ hresult)
      · rw [hp]
        simp [connectCalls, pendingWeight, passedWeight, ConnectStage.passed]

theorem onceInvariant_env {c : ConnectConfig Token} (hc : OnceInvariant t i c) (e : ConnectEnv) :
    OnceInvariant t i (connectStep platform c (.env e)) := by
  rw [connectStep, step_env]
  have hsame : (connectEnv e c.world).redisEnabled = c.world.redisEnabled ∧
      (connectEnv e c.world).outcomes = c.world.outcomes ∧
      c.world.now ≤ (connectEnv e c.world).now := by
    cases e with
    | advance milliseconds => exact ⟨rfl, rfl, by simp [connectEnv]⟩
    | _ => exact ⟨rfl, rfl, le_refl _⟩
  obtain ⟨hredis, houtcomes, hnow⟩ := hsame
  have hsuccesses : (connectEnv e c.world).successes t.token = c.world.successes t.token := by
    rw [ConnectWorld.successes, houtcomes, ConnectWorld.successes]
  refine ⟨hc.clock.trans hnow, fun p l hp htoken => ?_, ?_⟩
  · rw [hredis]
    exact hc.calls p l hp htoken
  · obtain ⟨n, hweighs, hle, hmark⟩ := hc.passed
    rw [← hsuccesses] at hle hmark
    exact ⟨n, hweighs, hle, fun h => marked_env (hmark h) e⟩

/-- **One event.** -/
theorem onceInvariant_step (c : ConnectConfig Token) (e : ConnectEvent Token)
    (hc : OnceInvariant t i c) (hg : InTime t.token i c e) :
    OnceInvariant t i (connectStep platform c e) := by
  cases e with
  | invoke p req reply => exact onceInvariant_invoke hc hg
  | resume p reply => exact onceInvariant_resume hc hg
  | env e => exact onceInvariant_env hc e

/-- The token has just been minted. -/
theorem onceInvariant_start {w : ConnectWorld Token} (hnow : t.mintedAt = w.now)
    (houtcomes : w.outcomes = []) : OnceInvariant t i (Config.idle w) where
  clock := hnow.le
  calls _ _ h := absurd h (by simp)
  passed := by
    have hnone : w.successes t.token = 0 := by
      rw [ConnectWorld.successes, houtcomes]
      rfl
    refine ⟨0, weighs_idle, ?_, fun h => ?_⟩
    · simp [hnone]
    · simp [hnone] at h

theorem OnceInvariant.successes_le {c : ConnectConfig Token} (hc : OnceInvariant t i c) :
    c.world.successes t.token ≤ 1 := by
  obtain ⟨n, hweighs, hle, -⟩ := hc.passed
  have hnonneg : 0 ≤ n := hweighs.nonneg fun p l _ => by
    unfold passedWeight
    split <;> simp
  omega

end Once

/-! ## The theorem -/

section Theorem

variable {Token : Type} [DecidableEq Token] {platform : AuthPlatform Token}

/-- What `createTerminalConnectToken` signs expires after 120 seconds. -/
def mintedToken (hjwt : platform.jwt.Lawful)
    (htimespan : platform.timespan terminalConnectTokenExpiry = 120) (user : AuthenticatedUser)
    (sessionId workspaceId jti : String) (mintedAt : ℤ) : ConnectToken platform where
  token := (createTerminalConnectToken platform user sessionId workspaceId jti mintedAt).1
  jti := jti
  mintedAt := mintedAt
  verifies {now payload} h := by
    obtain ⟨hlive, rfl⟩ := (verifyAsync_signAsync hjwt).mp h
    rw [htimespan] at hlive
    exact ⟨rfl, by omega⟩

/-- A new connect token: nothing has been returned yet. -/
def connectStart (w : ConnectWorld Token) : ConnectConfig Token :=
  Config.idle { w with outcomes := [] }

/-- **Terminal connect tokens are single-use**: of any interleaved calls with the token one at
most returns successfully, and without Redis a call that needs it returns nothing. -/
theorem terminalConnectToken_singleUse (platform : AuthPlatform Token)
    (hjwt : platform.jwt.Lawful)
    (htimespan : platform.timespan terminalConnectTokenExpiry = 120) (user : AuthenticatedUser)
    (sessionId workspaceId jti : String) (w : ConnectWorld Token) (i : ℕ)
    (es : List (ConnectEvent Token))
    (hes : Along (connectStep platform)
      (InTime (createTerminalConnectToken platform user sessionId workspaceId jti w.now).1 i)
      (connectStart w) es) :
    SingleUse platform (connectStart w)
      (createTerminalConnectToken platform user sessionId workspaceId jti w.now).1 es where
  once := by
    have hstart : OnceInvariant
        (mintedToken hjwt htimespan user sessionId workspaceId jti w.now) i (connectStart w) :=
      onceInvariant_start rfl rfl
    exact (inv_run onceInvariant_step hstart hes).successes_le
  failsClosed := by
    rintro es₁ p reply es₂ reply' es₃ l - hp hl hready hes₂
    have hrefused : Refused p
        (run (connectStep platform) (connectStart w) (es₁ ++ .resume p reply :: es₂)) := by
      rw [run_append, run_cons]
      exact refused_run (refused_resume hp hl hready reply) hes₂
    rw [run_concat]
    exact hrefused.accepted reply'

end Theorem

/-! ## A token and two calls -/

/-- Two calls on two instances, each with the token of a user. -/
def connectTwice : List (ConnectEvent (JwtPayload × ℤ × ℤ)) :=
  let token := (createTerminalConnectToken samplePlatform
    ⟨"u1", "admin@example.com", .user, "", some 0⟩ "s1" "w1" "j1" 1773750731000).1
  [.invoke 0 ⟨0, token⟩ .answered, .invoke 1 ⟨1, token⟩ .answered, .resume 0 .answered,
    .resume 1 .answered, .resume 0 .answered, .resume 1 .answered, .resume 0 .answered,
    .resume 1 .answered, .resume 0 .answered, .resume 1 .answered, .resume 0 .answered]

theorem terminalConnectToken_singleUse_twice :
    SingleUse samplePlatform
      (connectStart { now := 1773750731000, users := [sampleUser] })
      (createTerminalConnectToken samplePlatform
        ⟨"u1", "admin@example.com", .user, "", some 0⟩ "s1" "w1" "j1" 1773750731000).1
      connectTwice :=
  terminalConnectToken_singleUse samplePlatform (Signer.transparent_lawful JwtPayload) rfl
    ⟨"u1", "admin@example.com", .user, "", some 0⟩ "s1" "w1" "j1"
    { now := 1773750731000, users := [sampleUser] } 0 connectTwice (by
      refine ⟨fun _ => .inl rfl, fun _ => .inl rfl, ?_, ?_, ?_, ?_, ?_, ?_, ?_, ?_, ?_, trivial⟩
      all_goals
        intro l hl
        cases hl
        exact fun _ _ => (by decide : (1773750731000 : ℤ) ≤ 1773750731000 + 50000))

end AuthService
