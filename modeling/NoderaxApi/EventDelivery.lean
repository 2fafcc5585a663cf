/-
# Retries of an event

One worker's attempts at an `event.created` outbox event.  An attempt emits the
event to the realtime clients, publishes it, and then notifies the channels; an
error of the last step makes the outbox repeat all three.  The channels are
protected from repetition, the realtime clients are not; and a client that is in
the room of the node and in that of the workspace is sent the event by both.
-/
import Mathlib.Algebra.BigOperators.Group.List.Basic
import NoderaxApi.Notifications
import NoderaxApi.OutboxRetries
import NoderaxApi.RealtimeFanOut

namespace EventDelivery

open NotificationsService OutboxService RealtimeFanOut

/-! ## The event in the outbox -/

/-- The stored text of a severity. -/
def severityText : EventSeverity → String
  | .info => "info"
  | .warning => "warning"
  | .critical => "critical"

/-- The severity a text names. -/
def severityOfText : Option String → EventSeverity
  | some "critical" => .critical
  | some "warning" => .warning
  | _ => .info

/-- The saved event as a record (`EventsService.record`); fields that nothing reads
are left out. -/
def eventRow (event : EventEntity) : JsonObject :=
  [("id", .str event.id), ("workspaceId", .str event.workspaceId),
    ("nodeId", Json.ofString? event.nodeId), ("type", .str event.type),
    ("severity", .str (severityText event.severity))]

/-- `hydrateEvent`: the record is taken for an event without a check. -/
def hydrateEvent (payload : JsonObject) : EventEntity where
  id := (payload.string? "id").getD ""
  workspaceId := (payload.string? "workspaceId").getD ""
  nodeId := payload.string? "nodeId"
  type := (payload.string? "type").getD ""
  severity := severityOfText (payload.string? "severity")

/-- The realtime payload of an enqueued event. -/
def realtimePayload (enqueuer : InstanceId) (event : EventEntity) : JsonObject :=
  asPayload ((enqueuedPayload .eventCreated enqueuer (eventRow event)).get "event")

/-- The row that `EventsService.record` enqueues. -/
def eventCreatedRow (now : ℤ) (id : Uuid) (enqueuer : InstanceId) (event : EventEntity)
    (maxAttempts : Option ℕ) : OutboxEventEntity :=
  enqueued now id
    { type := "event.created"
      payload := .obj (enqueuedPayload .eventCreated enqueuer (eventRow event))
      maxAttempts := maxAttempts }

theorem string?_set_source (row : JsonObject) (enqueuer : InstanceId) {key : String}
    (h : key ≠ "sourceInstanceId") :
    (row.set "sourceInstanceId" (.str enqueuer)).string? key = row.string? key := by
  unfold JsonObject.string?
  rw [JsonObject.get_set_of_ne _ _ h]

theorem realtimePayload_eq (enqueuer : InstanceId) (event : EventEntity) :
    realtimePayload enqueuer event = (eventRow event).set "sourceInstanceId" (.str enqueuer) := by
  simp [realtimePayload, enqueuedPayload, RealtimeKind.field, JsonObject.get, asPayload]

/-- The dispatcher gets back the event that was recorded. -/
theorem hydrateEvent_realtimePayload (enqueuer : InstanceId) (event : EventEntity) :
    hydrateEvent (realtimePayload enqueuer event) = event := by
  obtain ⟨id, workspaceId, nodeId, type, severity⟩ := event
  rw [realtimePayload_eq, hydrateEvent]
  rw [string?_set_source _ _ (by decide), string?_set_source _ _ (by decide),
    string?_set_source _ _ (by decide), string?_set_source _ _ (by decide),
    string?_set_source _ _ (by decide)]
  cases nodeId <;> cases severity <;> rfl

/-! ## One attempt -/

section Attempts

variable (toLowerCase : String → String)

/-- The API instance whose worker dispatches. -/
structure Dispatcher where
  instanceId : InstanceId
  workerId : String
  redisEnabled : Bool

/-- What an attempt meets: the time, the configuration, how the sends end, and the
rooms of each client of the dispatching instance when the event is emitted, and
when the channel hands it back. -/
structure DispatchAttempt where
  now : ℤ
  tables : NotificationTables
  telegram : Except String Unit := .ok ()
  mail : Except String Unit := .ok ()
  joined : ClientId → List String
  joinedLater : ClientId → List String

/-- What an attempt did: how often each client of the dispatching instance was sent
the event, and what the channels accepted. -/
structure AttemptResult where
  realtimeSends : ClientId → ℕ
  deliveries : List Delivery

/-- How often an emission reaches a client that is in the rooms `joined`. -/
def reaches (emitted : ℕ × JsonObject × List String) (joined : List String) : ℕ :=
  emitted.2.2.countP fun room => room ∈ joined

/-- Publishing a payload makes the bridge of the publishing instance emit it, unless
the payload carries its own stamp. -/
def echoes (d : Dispatcher) (payload : JsonObject) : Bool :=
  d.redisEnabled && !isSameInstance payload d.instanceId

/-- `dispatchCreatedEvent`: emit, publish, notify. -/
def dispatchCreatedEvent (d : Dispatcher) (payload : JsonObject) (a : DispatchAttempt) :
    AttemptResult × Except String Unit :=
  let realtimePayload := asPayload (payload.get "event")
  let emitted := RealtimeFanOut.emit 0 realtimePayload
  let echoed := RealtimeFanOut.emit 0 emitted.2.1
  let notified := notifyEvent toLowerCase a.tables (hydrateEvent realtimePayload) a.telegram a.mail
  (⟨fun client => reaches emitted (a.joined client) +
      if echoes d emitted.2.1 then reaches echoed (a.joinedLater client) else 0, notified.1⟩,
    notified.2)

/-- The worker claims the row, dispatches the event, and records the outcome. -/
def attempt (d : Dispatcher) (a : DispatchAttempt) (row : OutboxEventEntity) :
    OutboxEventEntity × AttemptResult :=
  let event := claimedBy d.workerId a.now row
  let dispatched := dispatchCreatedEvent toLowerCase d (asPayload (some event.payload)) a
  match dispatched.2 with
  | .ok () => (delivered a.now event, dispatched.1)
  | .error message => (markedFailed a.now event message event, dispatched.1)

/-- The worker's attempts, as long as the row is due. -/
def attempts (d : Dispatcher) : OutboxEventEntity → List DispatchAttempt →
    OutboxEventEntity × List AttemptResult
  | row, [] => (row, [])
  | row, a :: as =>
      if isDue a.now row then
        let first := attempt toLowerCase d a row
        let rest := attempts d first.1 as
        (rest.1, first.2 :: rest.2)
      else attempts d row as

/-- The row holds the event. -/
def Holds (row : OutboxEventEntity) (enqueuer : InstanceId) (event : EventEntity) : Prop :=
  row.payload = .obj (enqueuedPayload .eventCreated enqueuer (eventRow event))

/-- The rooms of an event: of its node and of its workspace. -/
def eventRooms (event : EventEntity) : List String := roomsOf (eventRow event)

theorem roomsOf_realtimePayload (enqueuer : InstanceId) (event : EventEntity) :
    roomsOf (realtimePayload enqueuer event) = eventRooms event := by
  rw [realtimePayload_eq, eventRooms]
  simp only [roomsOf, roomOf]
  rw [string?_set_source _ _ (by decide), string?_set_source _ _ (by decide)]

/-- How often an attempt sends the event to a client. -/
def sends (d : Dispatcher) (enqueuer : InstanceId) (event : EventEntity) (a : DispatchAttempt)
    (client : ClientId) : ℕ :=
  (eventRooms event).countP (fun room => room ∈ a.joined client) +
    if d.redisEnabled = true ∧ enqueuer ≠ d.instanceId then
      (eventRooms event).countP fun room => room ∈ a.joinedLater client
    else 0

theorem dispatchCreatedEvent_eq (d : Dispatcher) (a : DispatchAttempt) {row : OutboxEventEntity}
    {enqueuer : InstanceId} {event : EventEntity} (h : Holds row enqueuer event) :
    dispatchCreatedEvent toLowerCase d (asPayload (some row.payload)) a
      = (⟨sends d enqueuer event a,
          (notifyEvent toLowerCase a.tables event a.telegram a.mail).1⟩,
        (notifyEvent toLowerCase a.tables event a.telegram a.mail).2) := by
  have hpayload : asPayload ((asPayload (some row.payload)).get "event")
      = realtimePayload enqueuer event := by
    rw [h]; rfl
  have hsource : sourceOf (realtimePayload enqueuer event) = some enqueuer :=
    sourceOf_enqueuedPayload .eventCreated enqueuer (eventRow event)
  have hrooms := roomsOf_realtimePayload enqueuer event
  simp only [dispatchCreatedEvent, hpayload, hydrateEvent_realtimePayload, Prod.mk.injEq,
    AttemptResult.mk.injEq, and_true]
  funext client
  simp only [reaches, rooms_emit, roomsOf_emit, hrooms, echoes, isSameInstance, sourceOf_emit,
    hsource, sends, Option.some.injEq, Bool.and_eq_true, Bool.not_eq_true', decide_eq_false_iff_not,
    ne_eq]

/-- What an attempt did. -/
theorem attempt_result (d : Dispatcher) (a : DispatchAttempt) {row : OutboxEventEntity}
    {enqueuer : InstanceId} {event : EventEntity} (h : Holds row enqueuer event) :
    (attempt toLowerCase d a row).2
      = ⟨sends d enqueuer event a,
          (notifyEvent toLowerCase a.tables event a.telegram a.mail).1⟩ := by
  have hclaimed : Holds (claimedBy d.workerId a.now row) enqueuer event := h
  simp only [attempt, dispatchCreatedEvent_eq toLowerCase d a hclaimed]
  split <;> rfl

theorem attempt_holds (d : Dispatcher) (a : DispatchAttempt) {row : OutboxEventEntity}
    {enqueuer : InstanceId} {event : EventEntity} (h : Holds row enqueuer event) :
    Holds (attempt toLowerCase d a row).1 enqueuer event := by
  simp only [attempt]
  split
  · exact h
  · exact h

/-- After an attempt whose channels all fail the row waits, or is given up. -/
theorem attempt_failed (d : Dispatcher) (a : DispatchAttempt) {row : OutboxEventEntity}
    {enqueuer : InstanceId} {event : EventEntity} (h : Holds row enqueuer event)
    (hfail : AllChannelsFail toLowerCase a.tables event a.telegram a.mail) :
    (attempt toLowerCase d a row).1.status
      = if row.maxAttempts ≤ row.attempts + 1 then .deadLetter else .failed := by
  have hclaimed : Holds (claimedBy d.workerId a.now row) enqueuer event := h
  obtain ⟨message, herror⟩ :=
    (notifyEvent_spec toLowerCase a.tables event a.telegram a.mail).1.mpr hfail
  simp only [attempt, dispatchCreatedEvent_eq toLowerCase d a hclaimed, herror]
  simp only [markedFailed, isDeadLetter, claimedBy]
  by_cases hlast : row.maxAttempts ≤ row.attempts + 1
  · simp [hlast]
  · simp [hlast]

/-- After any other attempt it is delivered. -/
theorem attempt_delivered (d : Dispatcher) (a : DispatchAttempt) {row : OutboxEventEntity}
    {enqueuer : InstanceId} {event : EventEntity} (h : Holds row enqueuer event)
    (hok : ¬AllChannelsFail toLowerCase a.tables event a.telegram a.mail) :
    (attempt toLowerCase d a row).1.status = .delivered := by
  have hclaimed : Holds (claimedBy d.workerId a.now row) enqueuer event := h
  have hnot : ¬∃ message, (notifyEvent toLowerCase a.tables event a.telegram a.mail).2
      = .error message := fun herror =>
    hok ((notifyEvent_spec toLowerCase a.tables event a.telegram a.mail).1.mp herror)
  cases hresult : (notifyEvent toLowerCase a.tables event a.telegram a.mail).2 with
  | error message => exact absurd ⟨message, hresult⟩ hnot
  | ok u =>
      simp only [attempt, dispatchCreatedEvent_eq toLowerCase d a hclaimed, hresult, delivered]

/-! ## All attempts -/

/-- A finished row is not attempted again. -/
theorem attempts_of_finished (d : Dispatcher) {row : OutboxEventEntity}
    (h : OutboxEventStatus.isFinished row.status = true) (as : List DispatchAttempt) :
    attempts toLowerCase d row as = (row, []) := by
  induction as with
  | nil => rfl
  | cons a as ih => rw [attempts, if_neg (by rw [isDue_of_isFinished h]; decide), ih]

/-- Nothing is repeated: each channel delivers at most once, a success is the end of
the attempts, and the realtime client is sent the event once. -/
structure NothingRepeated (results : List AttemptResult) (client : ClientId) : Prop where
  telegram : (results.flatMap (·.deliveries)).countP Delivery.isTelegram ≤ 1
  email : (results.flatMap (·.deliveries)).countP (fun d => !d.isTelegram) ≤ 1
  success : results.Pairwise fun r _ => r.deliveries = []
  realtime : (results.map (·.realtimeSends client)).sum = 1

/-- **The channels are protected.**  Over all attempts each channel delivers at most
once, and no attempt follows a success. -/
theorem attempts_channels (d : Dispatcher) {enqueuer : InstanceId} {event : EventEntity}
    (as : List DispatchAttempt) {row : OutboxEventEntity} (h : Holds row enqueuer event) :
    ((attempts toLowerCase d row as).2.flatMap (·.deliveries)).countP Delivery.isTelegram ≤ 1 ∧
      ((attempts toLowerCase d row as).2.flatMap (·.deliveries)).countP
        (fun d => !d.isTelegram) ≤ 1 ∧
      (attempts toLowerCase d row as).2.Pairwise (fun r _ => r.deliveries = []) := by
  induction as generalizing row with
  | nil => simp [attempts]
  | cons a as ih =>
      rw [attempts]
      split
      · obtain ⟨_, hnone, htelegram, hemail⟩ :=
          notifyEvent_spec toLowerCase a.tables event a.telegram a.mail
        have hresult := attempt_result toLowerCase d a h
        by_cases hfail : AllChannelsFail toLowerCase a.tables event a.telegram a.mail
        · -- nothing was delivered, so the bounds are those of the rest
          obtain ⟨ht, he, hp⟩ := ih (attempt_holds toLowerCase d a h)
          simp only [hresult, hnone hfail, List.flatMap_cons, List.nil_append, List.pairwise_cons]
          exact ⟨ht, he, fun _ _ => trivial, hp⟩
        · have hfinished : OutboxEventStatus.isFinished (attempt toLowerCase d a row).1.status
              = true := by
            rw [attempt_delivered toLowerCase d a h hfail]; rfl
          simp only [attempts_of_finished toLowerCase d hfinished, hresult, List.flatMap_cons,
            List.flatMap_nil, List.append_nil]
          exact ⟨htelegram, hemail, List.pairwise_singleton _ _⟩
      · exact ih h

/-- The first attempt is made when the row is first due. -/
theorem head?_attempts (d : Dispatcher) (row : OutboxEventEntity) (as : List DispatchAttempt) :
    (attempts toLowerCase d row as).2.head?
      = (as.find? fun a => isDue a.now row).map fun a => (attempt toLowerCase d a row).2 := by
  induction as with
  | nil => rfl
  | cons a as ih =>
      rw [attempts, List.find?_cons]
      split
      next hdue => rw [hdue]; rfl
      next hdue => rw [Bool.of_not_eq_true hdue]; exact ih

/-- Each attempt sends the event to a client in one of its rooms. -/
theorem attempts_realtimeSends_pos (d : Dispatcher) {enqueuer : InstanceId} {event : EventEntity}
    {client : ClientId} {as : List DispatchAttempt} {row : OutboxEventEntity}
    (h : Holds row enqueuer event)
    (hhears : ∀ a ∈ as, ∃ room ∈ eventRooms event, room ∈ a.joined client) :
    ∀ r ∈ (attempts toLowerCase d row as).2, 1 ≤ r.realtimeSends client := by
  induction as generalizing row with
  | nil => exact fun r hr => absurd hr List.not_mem_nil
  | cons a as ih =>
      rw [List.forall_mem_cons] at hhears
      rw [attempts]
      split
      · rw [List.forall_mem_cons, attempt_result toLowerCase d a h]
        refine ⟨?_, ih (attempt_holds toLowerCase d a h) hhears.2⟩
        obtain ⟨room, hroom, hjoined⟩ := hhears.1
        have hpos := List.countP_pos_iff (p := fun room => room ∈ a.joined client).mpr
          ⟨room, hroom, decide_eq_true hjoined⟩
        exact hpos.trans_le (Nat.le_add_right _ _)
      · exact ih h hhears.2

/-- Positive numbers add up to one when there is one of them, and it is one. -/
theorem sum_eq_one_iff {l : List ℕ} (h : ∀ n ∈ l, 1 ≤ n) :
    l.sum = 1 ↔ l.length = 1 ∧ ∀ n ∈ l.head?, n = 1 := by
  cases l with
  | nil => simp
  | cons n l =>
      rw [List.forall_mem_cons] at h
      have hrest := List.length_le_sum_of_one_le l h.2
      simp only [List.sum_cons, List.length_cons, List.head?_cons, Option.mem_some_iff, forall_eq']
      constructor
      · intro hsum
        omega
      · rintro ⟨hlength, rfl⟩
        rw [List.eq_nil_of_length_eq_zero (Nat.succ.inj hlength), List.sum_nil, Nat.add_zero]

/-- Ending an open event takes an attempt. -/
theorem attempts_ne_nil (d : Dispatcher) {as : List DispatchAttempt} {row : OutboxEventEntity}
    (hopen : OutboxEventStatus.isFinished row.status = false)
    (hover : OutboxEventStatus.isFinished (attempts toLowerCase d row as).1.status = true) :
    (attempts toLowerCase d row as).2 ≠ [] := by
  induction as with
  | nil =>
      rw [attempts, hopen] at hover
      exact Bool.noConfusion hover
  | cons a as ih =>
      rw [attempts] at hover ⊢
      by_cases hdue : isDue a.now row = true
      · rw [if_pos hdue]
        exact List.cons_ne_nil _ _
      · rw [if_neg hdue] at hover ⊢
        exact ih hover

/-- A run of attempts that ends the event makes exactly one attempt iff the first
one succeeds or is the last one permitted. -/
theorem attempts_length (d : Dispatcher) {enqueuer : InstanceId} {event : EventEntity}
    (as : List DispatchAttempt) {row : OutboxEventEntity} (h : Holds row enqueuer event)
    (hopen : OutboxEventStatus.isFinished row.status = false)
    (hover : OutboxEventStatus.isFinished (attempts toLowerCase d row as).1.status = true) :
    (attempts toLowerCase d row as).2.length = 1 ↔
      ∀ first ∈ as.find? (fun a => isDue a.now row),
        ¬AllChannelsFail toLowerCase first.tables event first.telegram first.mail ∨
          row.maxAttempts ≤ row.attempts + 1 := by
  induction as with
  | nil =>
      rw [attempts, hopen] at hover
      exact Bool.noConfusion hover
  | cons a as ih =>
      rw [attempts] at hover ⊢
      by_cases hdue : isDue a.now row = true
      · rw [if_pos hdue] at hover ⊢
        simp only [List.find?_cons, hdue, Option.mem_some_iff, forall_eq', List.length_cons]
        by_cases hfail : AllChannelsFail toLowerCase a.tables event a.telegram a.mail
        · have hstatus := attempt_failed toLowerCase d a h hfail
          by_cases hlast : row.maxAttempts ≤ row.attempts + 1
          · rw [if_pos hlast] at hstatus
            have hfinished : OutboxEventStatus.isFinished (attempt toLowerCase d a row).1.status
                = true := by
              rw [hstatus]; rfl
            rw [attempts_of_finished toLowerCase d hfinished]
            simp [hlast]
          · -- the row waits again, so the end of the run takes another attempt
            rw [if_neg hlast] at hstatus
            have hmore : (attempts toLowerCase d (attempt toLowerCase d a row).1 as).2 ≠ [] :=
              attempts_ne_nil toLowerCase d (by rw [hstatus]; rfl) hover
            have hpos := List.length_pos_iff.mpr hmore
            simp only [hfail, not_true, hlast, or_self, iff_false]
            omega
        · have hfinished : OutboxEventStatus.isFinished (attempt toLowerCase d a row).1.status
              = true := by
            rw [attempt_delivered toLowerCase d a h hfail]; rfl
          rw [attempts_of_finished toLowerCase d hfinished]
          simp [hfail]
      · rw [if_neg hdue] at hover ⊢
        simp only [List.find?_cons, Bool.of_not_eq_true hdue]
        exact ih hover

/-- **A retried event is not repeated iff it is not retried.**  Over all attempts of
one worker, until the event is delivered or given up: each channel delivers at most
once, nothing follows a success and a client of the dispatching instance, which is in
a room of the event whenever it is emitted, is sent the event exactly once, if and
only if some channel of the event accepts it at the first attempt (or it has none, or
no second attempt is permitted), the event was enqueued by the dispatching instance
(or there is no pub/sub), and the client is in only one of its rooms then. -/
theorem retried_event_not_repeated_iff (d : Dispatcher) (now : ℤ) (id : Uuid)
    (enqueuer : InstanceId) (event : EventEntity) (maxAttempts : Option ℕ)
    (as : List DispatchAttempt)
    (hover : OutboxEventStatus.isFinished (attempts toLowerCase d
      (eventCreatedRow now id enqueuer event maxAttempts) as).1.status = true)
    (client : ClientId)
    (hhears : ∀ a ∈ as, ∃ room ∈ eventRooms event, room ∈ a.joined client)
    (hhearsLater : ∀ a ∈ as, ∃ room ∈ eventRooms event, room ∈ a.joinedLater client) :
    NothingRepeated (attempts toLowerCase d
        (eventCreatedRow now id enqueuer event maxAttempts) as).2 client ↔
      (∀ first ∈ as.find? (fun a =>
          isDue a.now (eventCreatedRow now id enqueuer event maxAttempts)),
        (¬AllChannelsFail toLowerCase first.tables event first.telegram first.mail ∨
          maxAttempts.getD 8 ≤ 1) ∧
        (eventRooms event).countP (fun room => room ∈ first.joined client) = 1) ∧
      (d.redisEnabled = true → enqueuer = d.instanceId) := by
  have hholds : Holds (eventCreatedRow now id enqueuer event maxAttempts) enqueuer event := rfl
  have hlength := attempts_length toLowerCase d as hholds rfl hover
  have hne := attempts_ne_nil toLowerCase d rfl hover
  have hpos := attempts_realtimeSends_pos toLowerCase d hholds hhears
  have hhead := head?_attempts toLowerCase d (eventCreatedRow now id enqueuer event maxAttempts) as
  obtain ⟨htelegram, hemail, hsuccess⟩ := attempts_channels toLowerCase d as hholds
  generalize hresults : (attempts toLowerCase d
    (eventCreatedRow now id enqueuer event maxAttempts) as).2 = results at *
  -- some attempt was made, and the first of them is that of the first due time
  obtain ⟨first, hfirst⟩ : ∃ first,
      as.find? (fun a => isDue a.now (eventCreatedRow now id enqueuer event maxAttempts)) =
        some first := by
    cases hfind : as.find? fun a =>
        isDue a.now (eventCreatedRow now id enqueuer event maxAttempts) with
    | some first => exact ⟨first, rfl⟩
    | none =>
        rw [hfind, Option.map_none] at hhead
        exact absurd (List.head?_eq_none_iff.mp hhead) hne
  have hmem : first ∈ as := List.mem_of_find?_eq_some hfirst
  have hsum : (results.map (·.realtimeSends client)).sum = 1 ↔
      results.length = 1 ∧ sends d enqueuer event first client = 1 := by
    have hones : ∀ n ∈ results.map (·.realtimeSends client), 1 ≤ n := by
      intro n hn
      obtain ⟨r, hr, rfl⟩ := List.mem_map.mp hn
      exact hpos r hr
    rw [sum_eq_one_iff hones, List.length_map, List.head?_map, hhead, hfirst, Option.map_some,
      Option.map_some, attempt_result toLowerCase d first hholds]
    simp only [Option.mem_some_iff, forall_eq']
  have honce : sends d enqueuer event first client = 1 ↔
      (eventRooms event).countP (fun room => room ∈ first.joined client) = 1 ∧
        (d.redisEnabled = true → enqueuer = d.instanceId) := by
    have hcount : ∀ joined : List String, (∃ room ∈ eventRooms event, room ∈ joined) →
        1 ≤ (eventRooms event).countP fun room => room ∈ joined := by
      rintro joined ⟨room, hroom, hjoined⟩
      exact List.countP_pos_iff.mpr ⟨room, hroom, decide_eq_true hjoined⟩
    have hemitted := hcount _ (hhears first hmem)
    have hechoed := hcount _ (hhearsLater first hmem)
    rw [sends]
    by_cases hecho : d.redisEnabled = true ∧ enqueuer ≠ d.instanceId
    · rw [if_pos hecho]
      refine iff_of_false (by omega) ?_
      rintro ⟨-, hown⟩
      exact hecho.2 (hown hecho.1)
    · rw [if_neg hecho, Nat.add_zero]
      exact (and_iff_left fun henabled =>
        not_not.mp fun hne => hecho ⟨henabled, hne⟩).symm
  simp only [hfirst, Option.mem_some_iff, forall_eq'] at hlength ⊢
  constructor
  · intro h
    obtain ⟨hone, hsent⟩ := hsum.mp h.realtime
    obtain ⟨hroom, hown⟩ := honce.mp hsent
    exact ⟨⟨hlength.mp hone, hroom⟩, hown⟩
  · rintro ⟨⟨haccepted, hroom⟩, hown⟩
    exact ⟨htelegram, hemail, hsuccess,
      hsum.mpr ⟨hlength.mpr haccepted, honce.mpr ⟨hroom, hown⟩⟩⟩

end Attempts

/-- A workspace whose warnings go to Telegram. -/
def sampleTables : NotificationTables where
  workspaces := [{
    id := "w1"
    automationTelegramEnabled := true
    automationTelegramBotToken := some "token"
    automationTelegramChatId := some "chat"
    automationTelegramLevels := [.warning] }]
  nodes := []
  users := []
  memberships := []

/-- A warning of that workspace. -/
def sampleEvent : EventEntity where
  id := "e1"
  workspaceId := "w1"
  nodeId := none
  type := "high.cpu"
  severity := .warning

/-- An instance connected to the channel. -/
def sampleDispatcher : Dispatcher := ⟨"a", "worker-a", true⟩

/-- An attempt while the client `x` is in the room of the workspace. -/
def sampleAttempt (now : ℤ) (telegram : Except String Unit) : DispatchAttempt where
  now := now
  tables := sampleTables
  telegram := telegram
  joined _ := ["workspace:w1"]
  joinedLater _ := ["workspace:w1"]

/-- Telegram accepts the warning at once. -/
theorem retried_event_not_repeated_accepted :
    NothingRepeated (attempts (String.map Char.toLower) sampleDispatcher
      (eventCreatedRow 0 "o1" "a" sampleEvent none) [sampleAttempt 0 (.ok ())]).2 "x" := by
  refine (retried_event_not_repeated_iff (String.map Char.toLower) sampleDispatcher 0 "o1" "a"
    sampleEvent none [sampleAttempt 0 (.ok ())] (by decide) "x"
    (List.forall_mem_singleton.mpr ⟨"workspace:w1", by decide, by decide⟩)
    (List.forall_mem_singleton.mpr ⟨"workspace:w1", by decide, by decide⟩)).mpr
    ⟨?_, fun _ => rfl⟩
  intro first hfirst
  obtain rfl : sampleAttempt 0 (.ok ()) = first := Option.some.inj hfirst
  refine ⟨Or.inl fun hfail => ?_, by decide⟩
  obtain ⟨message, herror⟩ := hfail.2.1 ⟨_, rfl, by decide⟩
  exact absurd herror (by simp [sampleAttempt])

/-- Telegram refuses the warning once: the retry sends it to the realtime clients a
second time. -/
theorem retried_event_repeated :
    ¬ ∀ (toLowerCase : String → String) (d : Dispatcher) (now : ℤ) (id : Uuid)
      (enqueuer : InstanceId) (event : EventEntity) (as : List DispatchAttempt),
      OutboxEventStatus.isFinished (attempts toLowerCase d
        (eventCreatedRow now id enqueuer event none) as).1.status = true →
      ∀ client, (∀ a ∈ as, ∃ room ∈ eventRooms event, room ∈ a.joined client) →
        (∀ a ∈ as, ∃ room ∈ eventRooms event, room ∈ a.joinedLater client) →
        NothingRepeated (attempts toLowerCase d
          (eventCreatedRow now id enqueuer event none) as).2 client := by
  intro hall
  have hhears : ∀ a ∈ [sampleAttempt 0 (.error "429"), sampleAttempt 2000 (.ok ())],
      ∃ room ∈ eventRooms sampleEvent, room ∈ a.joined "x" := by
    intro a ha
    simp only [List.mem_cons, List.not_mem_nil, or_false] at ha
    rcases ha with rfl | rfl <;> exact ⟨"workspace:w1", by decide, by decide⟩
  have htwice := (hall (String.map Char.toLower) sampleDispatcher 0 "o1" "a" sampleEvent
    [sampleAttempt 0 (.error "429"), sampleAttempt 2000 (.ok ())] (by decide) "x" hhears
    (fun a ha => by
      simp only [List.mem_cons, List.not_mem_nil, or_false] at ha
      rcases ha with rfl | rfl <;> exact ⟨"workspace:w1", by decide, by decide⟩)).realtime
  revert htwice
  decide

end EventDelivery
