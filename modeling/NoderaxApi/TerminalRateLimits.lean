/-
# Rate limits of the terminal sockets

`assertSocketRateLimit` of `terminal.gateway.ts`: a counter for each action of each socket, and what
a run of messages and disconnects does to them.  To the messages of one socket with one action the
gateway is a limiter of its own, whatever the other sockets send.
-/
import Mathlib.Logic.Function.Basic
import NoderaxApi.FixedWindows

namespace TerminalGateway

open FixedWindows

/-! ## The counters -/

/-- `keyof typeof TERMINAL_SOCKET_RATE_LIMITS`. -/
inductive SocketAction
  | attach | input | resize | terminate
  deriving DecidableEq, Repr

/-- The key as it stands in the message of the error. -/
def SocketAction.key : SocketAction → String
  | attach => "attach"
  | input => "input"
  | resize => "resize"
  | terminate => "terminate"

/-- `TERMINAL_SOCKET_RATE_LIMIT_WINDOW_MS`. -/
def socketRateLimitWindowMs : ℤ := 5000

/-- A table of limits.  None of them is zero: the first message of a window is not compared with
its limit. -/
structure SocketRateLimits where
  limit : SocketAction → ℕ
  limit_pos : ∀ action, 0 < limit action

/-- `TERMINAL_SOCKET_RATE_LIMITS`. -/
def socketRateLimits : SocketRateLimits where
  limit
    | .attach => 20
    | .input => 600
    | .resize => 60
    | .terminate => 20
  limit_pos action := by cases action <;> decide

/-- The value type of the inner map. -/
structure ActionCounter where
  count : ℕ
  windowStartedAt : ℤ
  deriving DecidableEq, Repr

/-- The inner map: the counters of a socket. -/
abbrev SocketState := SocketAction → Option ActionCounter

/-- `socketActionCounters`. -/
abbrev SocketActionCounters := String → Option SocketState

/-- `assertSocketRateLimit` at the time `now`, with a table of limits. -/
def assertSocketRateLimit (limits : SocketRateLimits) (socketActionCounters : SocketActionCounters)
    (clientId : String) (action : SocketAction) (now : ℤ) :
    SocketActionCounters × Except String Unit :=
  let socketState := (socketActionCounters clientId).getD fun _ => none
  let set := fun counter => Function.update socketActionCounters clientId
    (some (Function.update socketState action (some counter)))
  let start := (set ⟨1, now⟩, .ok ())
  match socketState action with
  | none => start
  | some current =>
      if socketRateLimitWindowMs ≤ now - current.windowStartedAt then start
      else
        let nextCount := current.count + 1
        (set ⟨nextCount, current.windowStartedAt⟩,
          if limits.limit action < nextCount then
            .error s!"Terminal {action.key} rate limit exceeded for this socket."
          else .ok ())

/-- `handleDisconnect` forgets the counters of the socket. -/
def handleDisconnect (socketActionCounters : SocketActionCounters) (clientId : String) :
    SocketActionCounters :=
  Function.update socketActionCounters clientId none

/-! ## Runs of the gateway -/

/-- A message that reaches the check, or the end of a connection. -/
inductive GatewayEvent
  | message (clientId : String) (action : SocketAction) (now : ℤ)
  | disconnect (clientId : String)
  deriving DecidableEq, Repr

/-- A message that was checked, and the start of the window it was counted in. -/
structure Handled where
  clientId : String
  action : SocketAction
  now : ℤ
  windowStartedAt : ℤ
  outcome : Except String Unit

/-- The counters and the messages so far. -/
structure GatewayRun where
  counters : SocketActionCounters
  handled : List Handled := []

/-- The counter of one action of one socket. -/
def counterOf (counters : SocketActionCounters) (clientId : String) (action : SocketAction) :
    Option ActionCounter :=
  (counters clientId).bind fun socketState => socketState action

def GatewayRun.handle (limits : SocketRateLimits) (r : GatewayRun) : GatewayEvent → GatewayRun
  | .message clientId action now =>
      let (counters, outcome) := assertSocketRateLimit limits r.counters clientId action now
      let windowStartedAt := ((counterOf counters clientId action).map (·.windowStartedAt)).getD now
      ⟨counters, r.handled ++ [⟨clientId, action, now, windowStartedAt, outcome⟩]⟩
  | .disconnect clientId => { r with counters := handleDisconnect r.counters clientId }

def GatewayRun.handleAll (limits : SocketRateLimits) (r : GatewayRun)
    (events : List GatewayEvent) : GatewayRun :=
  events.foldl (GatewayRun.handle limits) r

/-! ## One action of one socket -/

section Socket

variable (clientId : String) (action : SocketAction)

/-- The time of a message of the socket with this action. -/
def GatewayEvent.time? : GatewayEvent → Option ℤ
  | .message clientId' action' now =>
      if clientId' = clientId ∧ action' = action then some now else none
  | .disconnect _ => none

/-- What the limiter records of a message of the socket with this action. -/
def Handled.record? (h : Handled) : Option (Record ℤ) :=
  if h.clientId = clientId ∧ h.action = action then
    some ⟨h.now, h.windowStartedAt, h.outcome.isOk⟩
  else none

/-- The messages of the socket with this action. -/
def GatewayRun.records (r : GatewayRun) : List (Record ℤ) :=
  r.handled.filterMap (Handled.record? clientId action)

/-- The limiter of the socket and the action. -/
def GatewayRun.log (r : GatewayRun) : Log ℤ :=
  ⟨(counterOf r.counters clientId action).map fun c => ⟨c.count, c.windowStartedAt⟩,
    r.records clientId action⟩

variable {clientId action} (limits : SocketRateLimits)

theorem counterOf_eq (counters : SocketActionCounters) (client : String) (act : SocketAction) :
    ((counters client).getD fun _ => none) act = counterOf counters client act := by
  unfold counterOf
  cases counters client <;> rfl

/-- The counters after `counter` is set. -/
def setCounter (counters : SocketActionCounters) (client : String) (act : SocketAction)
    (counter : ActionCounter) : SocketActionCounters :=
  Function.update counters client
    (some (Function.update ((counters client).getD fun _ => none) act (some counter)))

theorem counterOf_setCounter (counters : SocketActionCounters) (client : String)
    (act : SocketAction) (counter : ActionCounter) :
    counterOf (setCounter counters client act counter) clientId action =
      if client = clientId ∧ act = action then some counter
      else counterOf counters clientId action := by
  by_cases hclient : client = clientId
  · subst hclient
    rw [counterOf, setCounter, Function.update_self, Option.bind_some]
    by_cases hact : act = action
    · rw [hact, Function.update_self, if_pos ⟨rfl, rfl⟩]
    · rw [Function.update_of_ne (Ne.symm hact), counterOf_eq, if_neg fun h => hact h.2]
  · rw [counterOf, setCounter, Function.update_of_ne (Ne.symm hclient), if_neg fun h => hclient h.1,
      counterOf]

/-- The check starts a window, or it counts the message in the current one. -/
theorem assertSocketRateLimit_cases (counters : SocketActionCounters) (client : String)
    (act : SocketAction) (now : ℤ) :
    (∀ current ∈ counterOf counters client act,
        socketRateLimitWindowMs ≤ now - current.windowStartedAt) ∧
      assertSocketRateLimit limits counters client act now =
        (setCounter counters client act ⟨1, now⟩, .ok ()) ∨
    ∃ current outcome, counterOf counters client act = some current ∧
      now - current.windowStartedAt < socketRateLimitWindowMs ∧
      outcome.isOk = decide (current.count + 1 ≤ limits.limit act) ∧
      assertSocketRateLimit limits counters client act now =
        (setCounter counters client act ⟨current.count + 1, current.windowStartedAt⟩, outcome) := by
  simp only [assertSocketRateLimit, counterOf_eq]
  cases counterOf counters client act with
  | none => exact .inl ⟨fun current h => absurd h (Option.not_mem_none current), rfl⟩
  | some current =>
      by_cases hend : socketRateLimitWindowMs ≤ now - current.windowStartedAt
      · refine .inl ⟨fun current' h => ?_, if_pos hend⟩
        rwa [← Option.some_inj.mp h]
      · refine .inr ⟨current, _, rfl, not_le.mp hend, ?_, if_neg hend⟩
        by_cases hlimit : limits.limit act < current.count + 1
        · rw [if_pos hlimit, decide_eq_false (not_le.mpr hlimit)]
          rfl
        · rw [if_neg hlimit, decide_eq_true (not_lt.mp hlimit)]
          rfl

/-- A message that is counted and answered so. -/
theorem log_handle_of_eq {r : GatewayRun} {now : ℤ} {counter : ActionCounter}
    {outcome : Except String Unit}
    (h : assertSocketRateLimit limits r.counters clientId action now =
      (setCounter r.counters clientId action counter, outcome)) :
    (r.handle limits (.message clientId action now)).log clientId action =
      ⟨some ⟨counter.count, counter.windowStartedAt⟩,
        r.records clientId action ++ [⟨now, counter.windowStartedAt, outcome.isOk⟩]⟩ := by
  unfold GatewayRun.handle GatewayRun.log GatewayRun.records
  simp only [h, counterOf_setCounter, and_self, if_true, Option.map_some, Option.getD_some,
    List.filterMap_append]
  rw [List.filterMap_cons_some (by rw [Handled.record?, if_pos ⟨rfl, rfl⟩]), List.filterMap_nil]

theorem log_handle_message (r : GatewayRun) (now : ℤ) :
    (r.handle limits (.message clientId action now)).log clientId action =
      (r.log clientId action).arrive socketRateLimitWindowMs (limits.limit action) now := by
  unfold Log.arrive
  rcases assertSocketRateLimit_cases limits r.counters clientId action now with
    ⟨hends, hassert⟩ | ⟨current, outcome, hcounter, hend, houtcome, hassert⟩
  · rw [log_handle_of_eq limits hassert, GatewayRun.log]
    cases hcounter : counterOf r.counters clientId action with
    | none => rfl
    | some current => exact (if_pos (hends current hcounter)).symm
  · rw [log_handle_of_eq limits hassert, GatewayRun.log, hcounter, houtcome]
    exact (if_neg (not_le.mpr hend)).symm

theorem log_handle_other (r : GatewayRun) {event : GatewayEvent}
    (htime : event.time? clientId action = none) (hdisconnect : event ≠ .disconnect clientId) :
    (r.handle limits event).log clientId action = r.log clientId action := by
  cases event with
  | message client act now =>
      have hother : ¬ (client = clientId ∧ act = action) := by
        intro h
        rw [GatewayEvent.time?, if_pos h] at htime
        exact Option.some_ne_none now htime
      have hset : ∃ counter, (assertSocketRateLimit limits r.counters client act now).1 =
          setCounter r.counters client act counter := by
        rcases assertSocketRateLimit_cases limits r.counters client act now with
          ⟨-, hassert⟩ | ⟨current, outcome, -, -, -, hassert⟩
        all_goals exact ⟨_, congrArg Prod.fst hassert⟩
      obtain ⟨counter, hcounters⟩ := hset
      unfold GatewayRun.handle GatewayRun.log GatewayRun.records
      simp only [hcounters, counterOf_setCounter, if_neg hother, List.filterMap_append]
      rw [List.filterMap_cons_none (by rw [Handled.record?, if_neg hother]), List.filterMap_nil,
        List.append_nil]
  | disconnect client =>
      have hclient : client ≠ clientId := fun h => hdisconnect (by rw [h])
      unfold GatewayRun.handle GatewayRun.log GatewayRun.records handleDisconnect counterOf
      simp only [Function.update_of_ne hclient.symm]

/-- **Each socket and each action has a limiter of its own.** -/
theorem log_handleAll (r : GatewayRun) {events : List GatewayEvent}
    (hconnected : .disconnect clientId ∉ events) :
    (r.handleAll limits events).log clientId action =
      (events.filterMap (GatewayEvent.time? clientId action)).foldl
        (Log.arrive socketRateLimitWindowMs (limits.limit action)) (r.log clientId action) := by
  induction events generalizing r with
  | nil => rfl
  | cons event events ih =>
      have hstep := ih (r.handle limits event) fun h => hconnected (List.mem_cons_of_mem event h)
      rw [GatewayRun.handleAll, List.foldl_cons, ← GatewayRun.handleAll, hstep]
      cases htime : event.time? clientId action with
      | none =>
          have hne : event ≠ .disconnect clientId := fun h => hconnected (h ▸ List.mem_cons_self)
          rw [List.filterMap_cons_none htime, log_handle_other limits r htime hne]
      | some now =>
          rw [List.filterMap_cons_some htime, List.foldl_cons]
          cases event with
          | message client act time =>
              rw [GatewayEvent.time?] at htime
              split at htime
              next h =>
                rw [h.1, h.2, Option.some_inj.mp htime, log_handle_message]
              next => exact absurd htime.symm (Option.some_ne_none now)
          | disconnect client => exact absurd htime.symm (Option.some_ne_none now)

/-- A socket without a counter starts with an empty limiter. -/
theorem records_handleAll {counters : SocketActionCounters}
    (hfresh : counterOf counters clientId action = none) {events : List GatewayEvent}
    (hconnected : .disconnect clientId ∉ events) :
    (GatewayRun.handleAll limits { counters := counters } events).records clientId action =
      (run socketRateLimitWindowMs (limits.limit action)
        (events.filterMap (GatewayEvent.time? clientId action))).records := by
  have hstart : GatewayRun.log clientId action { counters := counters } = {} := by
    rw [GatewayRun.log, hfresh]
    rfl
  rw [run, ← hstart, ← log_handleAll limits { counters := counters } hconnected]
  rfl

end Socket

/-! ## The bounds -/

/-- What a limit promises of the messages of one socket with one action, in their order. -/
structure RateBounds (limit : ℕ) (records : List (Record ℤ)) : Prop where
  inWindow : ∀ start, acceptedIn start records ≤ limit
  inInterval : ∀ t, (records.countP fun r =>
    r.accepted && (t ≤ r.time && r.time ≤ t + socketRateLimitWindowMs)) ≤ 2 * limit
  refused : ∀ before r after, records = before ++ r :: after → r.accepted = false →
    limit ≤ acceptedIn r.start before
  follows : records.IsChain fun last next => next.start =
    if socketRateLimitWindowMs ≤ next.time - last.start then next.time else last.start

theorem rateBounds_run {limit : ℕ} (hlimit : 0 < limit) {times : List ℤ}
    (hsorted : times.Pairwise (· ≤ ·)) :
    RateBounds limit (run socketRateLimitWindowMs limit times).records := by
  have hwidth : 0 < socketRateLimitWindowMs := by decide
  have hquota : quota limit = limit := max_eq_left hlimit
  have hwindows := (run_holds limit hwidth hsorted).windows
  exact {
    inWindow := fun start => (hwindows.bounded start).trans_eq hquota
    inInterval := fun t => (hwindows.accepted_in_interval_le t).trans_eq (congrArg (2 * ·) hquota)
    refused := fun before r after heq hr =>
      hquota.ge.trans (hwindows.refused before r after heq hr).ge
    follows := hwindows.follows }

/-- The messages of a socket that is connected meanwhile stay within the limit. -/
theorem rateBounds_handleAll (limits : SocketRateLimits) {counters : SocketActionCounters}
    {clientId : String} {action : SocketAction}
    (hfresh : counterOf counters clientId action = none) {events : List GatewayEvent}
    (hconnected : .disconnect clientId ∉ events)
    (hsorted : (events.filterMap (GatewayEvent.time? clientId action)).Pairwise (· ≤ ·)) :
    RateBounds (limits.limit action)
      ((GatewayRun.handleAll limits { counters := counters } events).records clientId action) := by
  rw [records_handleAll limits hfresh hconnected]
  exact rateBounds_run (limits.limit_pos action) hsorted

/-- A message of a socket, sent again at its time. -/
def resend (clientId : String) (action : SocketAction) (r : Record ℤ) : GatewayEvent :=
  .message clientId action r.time

theorem times_resend (clientId : String) (action : SocketAction) (records : List (Record ℤ)) :
    (records.map (resend clientId action)).filterMap (GatewayEvent.time? clientId action) =
      records.map Record.time := by
  rw [List.filterMap_map, ← List.filterMap_eq_map]
  refine List.filterMap_congr fun r _ => ?_
  exact if_pos ⟨rfl, rfl⟩

/-- **The rate limit is a bound**, for the table of the code as for any other.  The second part
says that the refused messages change nothing: without them the others are accepted again, in
windows that start at the same times. -/
theorem socketRateLimits_bounds (limits : SocketRateLimits) (counters : SocketActionCounters)
    (clientId : String) (action : SocketAction) (events : List GatewayEvent)
    (hfresh : counterOf counters clientId action = none)
    (hconnected : .disconnect clientId ∉ events)
    (hsorted : (events.filterMap (GatewayEvent.time? clientId action)).Pairwise (· ≤ ·)) :
    let records :=
      (GatewayRun.handleAll limits { counters := counters } events).records clientId action
    let accepted := records.filter fun r => r.accepted
    RateBounds (limits.limit action) records ∧
      (GatewayRun.handleAll limits { counters := counters }
        (accepted.map (resend clientId action))).records clientId action = accepted := by
  intro records accepted
  refine ⟨rateBounds_handleAll limits hfresh hconnected hsorted, ?_⟩
  have haccepted : accepted = (run socketRateLimitWindowMs (limits.limit action)
      (events.filterMap (GatewayEvent.time? clientId action))).records.filter fun r => r.accepted :=
    congrArg (List.filter fun r => r.accepted) (records_handleAll limits hfresh hconnected)
  have hresend : .disconnect clientId ∉ accepted.map (resend clientId action) := by
    intro h
    obtain ⟨r, -, hr⟩ := List.mem_map.mp h
    exact GatewayEvent.noConfusion hr
  rw [records_handleAll limits hfresh hresend, times_resend, haccepted]
  exact records_run_accepted _ _ _

/-- Three messages, one of another socket, and the first message of the next window. -/
def sampleEvents : List GatewayEvent :=
  [.message "socket" .input 0, .message "other" .input 7, .message "socket" .input 10,
    .disconnect "other", .message "socket" .input 5000]

theorem sampleEvents_bounds :
    let records := (GatewayRun.handleAll socketRateLimits { counters := fun _ => none }
      sampleEvents).records "socket" .input
    let accepted := records.filter fun r => r.accepted
    RateBounds 600 records ∧
      (GatewayRun.handleAll socketRateLimits { counters := fun _ => none }
        (accepted.map (resend "socket" .input))).records "socket" .input = accepted :=
  socketRateLimits_bounds socketRateLimits (fun _ => none) "socket" .input sampleEvents rfl
    (by decide) (by decide)

end TerminalGateway
