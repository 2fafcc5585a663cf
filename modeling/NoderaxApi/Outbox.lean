/-
# The outbox

The rows of `outbox_events`, the statements of `OutboxService`, and the worker
loop of `OutboxDispatcherService.dispatchDueEvents`, cut at its database
accesses: a worker claims a batch, reloads it, and for each event dispatches
first and records the outcome afterwards.  Between any two of these steps other
workers and operators may move; a worker that crashes is never resumed.
-/
import NoderaxApi.Common
import NoderaxApi.KeyedTable
import NoderaxApi.Interleaving
import Mathlib.Data.List.Sort

open KeyedTable

/-! ## The row -/

/-- `OutboxEventStatus`. -/
inductive OutboxEventStatus
  | pending
  | processing
  | failed
  | delivered
  | deadLetter
  deriving DecidableEq, Repr

/-- A row of `outbox_events`. -/
structure OutboxEventEntity where
  id : Uuid
  type : String
  payload : Json
  status : OutboxEventStatus := .pending
  attempts : ℕ := 0
  maxAttempts : ℕ := 8
  availableAt : ℤ
  lockedAt : Option ℤ := none
  lockedBy : Option String := none
  processedAt : Option ℤ := none
  lastError : Option String := none
  createdAt : ℤ

namespace OutboxService

/-- `EnqueueOutboxEventInput`. -/
structure EnqueueOutboxEventInput where
  type : String
  payload : Json
  availableAt : Option ℤ := none
  maxAttempts : Option ℕ := none

/-- The row `enqueue` saves; the database gives it its id. -/
def enqueued (now : ℤ) (id : Uuid) (input : EnqueueOutboxEventInput) : OutboxEventEntity where
  id := id
  type := input.type
  payload := input.payload
  status := .pending
  attempts := 0
  maxAttempts := input.maxAttempts.getD 8
  availableAt := input.availableAt.getD now
  createdAt := now

/-- The WHERE clause of `claimDueBatch`: due for its next attempt, or stuck in
`processing` for two minutes. -/
def isDue (now : ℤ) (row : OutboxEventEntity) : Bool :=
  match row.status with
  | .pending | .failed => decide (row.availableAt ≤ now)
  | .processing => row.lockedAt.any fun lockedAt => decide (lockedAt ≤ now - 2 * 60 * 1000)
  | .delivered | .deadLetter => false

/-- `ORDER BY "availableAt" ASC, "createdAt" ASC`. -/
def DueBefore (a b : OutboxEventEntity) : Prop :=
  a.availableAt < b.availableAt ∨ (a.availableAt = b.availableAt ∧ a.createdAt ≤ b.createdAt)

instance : DecidableRel DueBefore := fun a b =>
  inferInstanceAs (Decidable (a.availableAt < b.availableAt ∨
    (a.availableAt = b.availableAt ∧ a.createdAt ≤ b.createdAt)))

/-- The ids the `due` query selects: rows locked by other transactions are
skipped (`FOR UPDATE SKIP LOCKED`). -/
def dueIds (now : ℤ) (locked : List Uuid) (limit : ℕ) (rows : List OutboxEventEntity) : List Uuid :=
  ((rows.filter fun row => isDue now row && decide (row.id ∉ locked)).insertionSort
    DueBefore |>.take limit).map (·.id)

/-- The SET clause of `claimDueBatch`. -/
def claimedBy (workerId : String) (now : ℤ) (row : OutboxEventEntity) : OutboxEventEntity :=
  { row with
    status := .processing
    attempts := row.attempts + 1
    lockedAt := some now
    lockedBy := some workerId }

/-- The SET clause of `markDelivered`. -/
def delivered (now : ℤ) (row : OutboxEventEntity) : OutboxEventEntity :=
  { row with
    status := .delivered
    processedAt := some now
    lockedAt := none
    lockedBy := none
    lastError := none }

/-- Whether `markFailed` gives an event up. -/
def isDeadLetter (event : OutboxEventEntity) : Bool := decide (event.maxAttempts ≤ event.attempts)

/-- The delay before the next attempt, in milliseconds. -/
def retryDelayMs (attempts : ℕ) : ℤ := min 60000 (2 ^ min attempts 6 * 1000)

/-- The SET clause of `markFailed`: the outcome follows from the event the worker
holds, not from the row. -/
def markedFailed (now : ℤ) (event : OutboxEventEntity) (errorMessage : String)
    (row : OutboxEventEntity) : OutboxEventEntity :=
  { row with
    status := if isDeadLetter event then .deadLetter else .failed
    availableAt := if isDeadLetter event then now else now + retryDelayMs event.attempts
    lockedAt := none
    lockedBy := none
    processedAt := if isDeadLetter event then some now else none
    lastError := some errorMessage }

/-- The SET clause of `requeueDeadLetters`. -/
def requeued (now : ℤ) (row : OutboxEventEntity) : OutboxEventEntity :=
  { row with
    status := .failed
    attempts := 0
    availableAt := now
    lockedAt := none
    lockedBy := none
    processedAt := none
    lastError := none }

/-! No statement changes a primary key. -/

theorem claimedBy_id (workerId : String) (now : ℤ) (row : OutboxEventEntity) :
    (claimedBy workerId now row).id = row.id := rfl

theorem delivered_id (now : ℤ) (row : OutboxEventEntity) : (delivered now row).id = row.id := rfl

theorem markedFailed_id (now : ℤ) (event : OutboxEventEntity) (errorMessage : String)
    (row : OutboxEventEntity) : (markedFailed now event errorMessage row).id = row.id := rfl

theorem requeued_id (now : ℤ) (row : OutboxEventEntity) : (requeued now row).id = row.id := rfl

/-! ## The world -/

/-- What has happened to the events; no code reads it. -/
inductive OutboxRecord
  | enqueued (id : Uuid)
  | claimed (id : Uuid)
  | dispatched (id : Uuid)
  /-- The dispatch function has returned. -/
  | succeeded (id : Uuid)
  /-- A failure was written into the row. -/
  | failed (id : Uuid)
  | requeued (id : Uuid)
  deriving DecidableEq

/-- The table and its history, latest record first. -/
structure OutboxWorld where
  events : Table OutboxEventEntity.id := Table.empty
  history : List OutboxRecord := []

/-- The status column of a row. -/
def OutboxWorld.statusOf (w : OutboxWorld) (id : Uuid) : Option OutboxEventStatus :=
  (w.events.get id).map (·.status)

/-- `OUTBOX_BATCH_LIMIT`. -/
def outboxBatchLimit : ℕ := 25

/-- `claimDueBatch` up to its commit, with the ids it returned. -/
def claimDueBatch (workerId : String) (now : ℤ) (locked : List Uuid) (limit : ℕ) (w : OutboxWorld) :
    OutboxWorld × List Uuid :=
  let due := dueIds now locked limit w.events.rows
  ({ events := w.events.update (fun row => decide (row.id ∈ due)) (claimedBy workerId now)
       (claimedBy_id workerId now)
     history := due.map .claimed ++ w.history }, due.filter (· ≠ ""))

/-- `OUTBOX_WEB_REMEDIATE_TYPES`. -/
def outboxWebRemediateTypes : List String := ["event.created"]

/-- `assertEligibleDeadLetterIds`. -/
def assertEligibleDeadLetterIds (ids : List Uuid) (w : OutboxWorld) :
    Except HttpError (List Uuid) :=
  let normalizedIds := (ids.filter (· ≠ "")).eraseDups
  let eligible := w.events.rows.filter fun row =>
    decide (row.id ∈ normalizedIds) && decide (row.status = .deadLetter) &&
      decide (row.type ∈ outboxWebRemediateTypes)
  if normalizedIds = [] then
    .error (.badRequest "At least one dead-letter outbox event id is required.")
  else if eligible.length ≠ normalizedIds.length then
    .error (.badRequest ("Only dead-letter event.created outbox entries may be remediated " ++
      "from the web UI."))
  else .ok normalizedIds

/-! ## The dispatcher -/

/-- `assertClaimedEvent`. -/
def assertClaimedEvent (event : OutboxEventEntity) : Except String Unit :=
  match event.payload with
  | .obj _ =>
      if event.id = "" ∨ event.type = "" then .error "Malformed outbox event claimed for dispatch"
      else .ok ()
  | _ => .error "Malformed outbox event claimed for dispatch"

/-- The types `dispatchEvent` has a case for. -/
def dispatchedTypes : List String :=
  ["event.created", "metric.ingested", "node.status-updated", "node.root-access-updated",
    "task.created", "task.updated", "node-install.updated"]

/-- `canMarkFailed`; the counters of a row are always numbers. -/
def canMarkFailed (event : OutboxEventEntity) : Bool := decide (event.id ≠ "")

/-- A call of a worker's timer, a producer or an operator. -/
inductive OutboxRequest
  | enqueue (id : Uuid) (input : EnqueueOutboxEventInput)
  | dispatchDueEvents (workerId : String)
  | requeueDeadLetters (ids : List Uuid)

/-- What is left of a call after a step. -/
inductive PendingOutboxCall
  /-- The head of the worker's loop. -/
  | claim (workerId : String)
  /-- The second query of `claimDueBatch`. -/
  | reload (workerId : String) (claimedIds : List Uuid)
  /-- The dispatch of the next event of a batch. -/
  | dispatch (workerId : String) (event : OutboxEventEntity) (rest : List OutboxEventEntity)
  /-- The record of a dispatch that returned or threw. -/
  | mark (workerId : String) (event : OutboxEventEntity) (outcome : Except String Unit)
      (rest : List OutboxEventEntity)
  /-- The UPDATE of `requeueDeadLetters`. -/
  | requeue (ids : List Uuid)

/-- What a step receives from outside: the clock, the rows locked by other
transactions, how the dispatch ended, and whether the statement failed. -/
structure OutboxInput where
  now : ℤ := 0
  locked : List Uuid := []
  dispatched : Except String Unit := .ok ()
  databaseError : Option String := none

/-- Continue with the rest of a batch, or claim the next one. -/
def nextEvent (workerId : String) : List OutboxEventEntity → Option PendingOutboxCall
  | [] => some (.claim workerId)
  | event :: rest => some (.dispatch workerId event rest)

/-- One iteration's `claimDueBatch`, up to its commit. -/
def claimStep (workerId : String) (input : OutboxInput) (w : OutboxWorld) :
    OutboxWorld × Option PendingOutboxCall :=
  let claim := claimDueBatch workerId input.now input.locked outboxBatchLimit w
  (claim.1, if claim.2 = [] then none else some (.reload workerId claim.2))

/-- The dispatch of one event.  The types not listed are refused. -/
def dispatchStep (workerId : String) (event : OutboxEventEntity) (rest : List OutboxEventEntity)
    (input : OutboxInput) (w : OutboxWorld) : OutboxWorld × Option PendingOutboxCall :=
  match assertClaimedEvent event with
  | .error message => (w, some (.mark workerId event (.error message) rest))
  | .ok () =>
      if event.type ∈ dispatchedTypes then
        let records := match input.dispatched with
          | .ok () => [.succeeded event.id, .dispatched event.id]
          | .error _ => [.dispatched event.id]
        ({ w with history := records ++ w.history },
          some (.mark workerId event input.dispatched rest))
      else
        (w, some (.mark workerId event (.error ("Unknown outbox event type " ++ event.type)) rest))

/-- The statement that records an outcome.  A failing `markDelivered` is caught
and recorded as a failed dispatch; a failing `markFailed` ends the worker's loop. -/
def markStep (workerId : String) (event : OutboxEventEntity) (outcome : Except String Unit)
    (rest : List OutboxEventEntity) (input : OutboxInput) (w : OutboxWorld) :
    OutboxWorld × Option PendingOutboxCall :=
  match outcome, input.databaseError with
  | .ok (), none =>
      ({ w with
          events := w.events.update (fun row => row.id = event.id) (delivered input.now)
            (delivered_id input.now) },
        nextEvent workerId rest)
  | .ok (), some message => (w, some (.mark workerId event (.error message) rest))
  | .error message, databaseError =>
      if canMarkFailed event then
        match databaseError with
        | none =>
            ({ events := w.events.update (fun row => row.id = event.id)
                  (markedFailed input.now event message)
                  (markedFailed_id input.now event message)
               history := .failed event.id :: w.history },
              nextEvent workerId rest)
        | some _ => (w, none)
      else (w, nextEvent workerId rest)

/-- The first step of a call. -/
def invokeOutbox (request : OutboxRequest) (input : OutboxInput) (w : OutboxWorld) :
    OutboxWorld × Option PendingOutboxCall :=
  match request with
  | .enqueue id event =>
      if (w.events.get id).isNone then
        ({ events := w.events.insert (enqueued input.now id event)
           history := .enqueued id :: w.history }, none)
      else (w, none)
  | .dispatchDueEvents workerId => claimStep workerId input w
  | .requeueDeadLetters ids =>
      match assertEligibleDeadLetterIds ids w with
      | .error _ => (w, none)
      | .ok eligibleIds => (w, some (.requeue eligibleIds))

/-- The next step of a pending call. -/
def resumeOutbox (call : PendingOutboxCall) (input : OutboxInput) (w : OutboxWorld) :
    OutboxWorld × Option PendingOutboxCall :=
  match call with
  | .claim workerId => claimStep workerId input w
  | .reload workerId claimedIds =>
      match claimedIds.filterMap w.events.get with
      | [] => (w, none)
      | event :: rest => (w, some (.dispatch workerId event rest))
  | .dispatch workerId event rest => dispatchStep workerId event rest input w
  | .mark workerId event outcome rest => markStep workerId event outcome rest input w
  | .requeue ids =>
      ({ events := w.events.update (fun row => decide (row.id ∈ ids)) (requeued input.now)
           (requeued_id input.now)
         history := ids.map .requeued ++ w.history }, none)

/-- The outbox as interleaved calls. -/
def outboxCalls : Interleaving.Calls OutboxWorld OutboxRequest PendingOutboxCall OutboxInput :=
  ⟨invokeOutbox, resumeOutbox⟩

/-- The worker processes and requests of all API instances. -/
abbrev OutboxConfig := Interleaving.Config ℕ OutboxWorld PendingOutboxCall

/-- What moves next. -/
abbrev OutboxCallEvent := Interleaving.Event ℕ OutboxRequest OutboxInput Empty

/-- The state after the events `es`, from the world `w` with no call pending. -/
abbrev outboxRun (w : OutboxWorld) (es : List OutboxCallEvent) : OutboxConfig :=
  Runs.run (Interleaving.step outboxCalls Interleaving.noEnv) (Interleaving.Config.idle w) es

end OutboxService
