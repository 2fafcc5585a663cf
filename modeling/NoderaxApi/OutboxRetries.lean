/-
# The bound on outbox attempts

`claimDueBatch` counts an attempt when it claims, and `markFailed` compares the
count with `maxAttempts` when a failure is recorded.  A failure that is never
recorded is not compared: a row stuck in `processing` is claimed again however
many attempts it has had.  And the comparison looks at the event the worker
holds, so a late record may put a row that is on its last attempt back to
`failed`.

The file says exactly along which runs an event is claimed at most `maxAttempts`
times and the failure of its last attempt makes it a dead letter.
-/
import NoderaxApi.OutboxRaces

namespace OutboxService

open Interleaving KeyedTable Runs

/-! ## What the history says of an event -/

/-- The claims of an event since it was last enqueued or requeued; the history
has the latest record first. -/
def claimsSince (id : Uuid) : List OutboxRecord → ℕ
  | [] => 0
  | .enqueued id' :: history | .requeued id' :: history =>
      if id' = id then 0 else claimsSince id history
  | .claimed id' :: history => (if id' = id then 1 else 0) + claimsSince id history
  | .dispatched _ :: history | .succeeded _ :: history | .failed _ :: history =>
      claimsSince id history

/-- A failure of the event was recorded since it was last claimed. -/
def failedSince (id : Uuid) : List OutboxRecord → Bool
  | [] => false
  | .failed id' :: history => decide (id' = id) || failedSince id history
  | .claimed id' :: history => !decide (id' = id) && failedSince id history
  | .enqueued _ :: history | .requeued _ :: history | .dispatched _ :: history
  | .succeeded _ :: history => failedSince id history

theorem claimsSince_claimed (id : Uuid) (ids : List Uuid) (history : List OutboxRecord) :
    claimsSince id (ids.map .claimed ++ history) = ids.count id + claimsSince id history := by
  induction ids with
  | nil => simp
  | cons id' ids ih =>
      simp only [List.map_cons, List.cons_append, claimsSince, ih, List.count_cons, beq_iff_eq]
      omega

theorem claimsSince_requeued (id : Uuid) (ids : List Uuid) (history : List OutboxRecord) :
    claimsSince id (ids.map .requeued ++ history)
      = if id ∈ ids then 0 else claimsSince id history := by
  induction ids with
  | nil => simp
  | cons id' ids ih =>
      simp only [List.map_cons, List.cons_append, claimsSince, ih, List.mem_cons]
      by_cases hid : id' = id
      · simp [hid]
      · simp [hid, Ne.symm hid]

theorem failedSince_claimed (id : Uuid) (ids : List Uuid) (history : List OutboxRecord) :
    failedSince id (ids.map .claimed ++ history)
      = (!decide (id ∈ ids) && failedSince id history) := by
  induction ids with
  | nil => simp
  | cons id' ids ih =>
      simp only [List.map_cons, List.cons_append, failedSince, ih, List.mem_cons]
      by_cases hid : id' = id
      · simp [hid]
      · simp [hid, Ne.symm hid]

theorem failedSince_requeued (id : Uuid) (ids : List Uuid) (history : List OutboxRecord) :
    failedSince id (ids.map .requeued ++ history) = failedSince id history := by
  induction ids with
  | nil => rfl
  | cons id' ids ih => exact ih

/-- What the history says of a row: `attempts` counts the claims, a row being processed
has no failure since its claim, and the dispatch of a delivered row returned. -/
structure RowRecorded (history : List OutboxRecord) (row : OutboxEventEntity) : Prop where
  counted : claimsSince row.id history = row.attempts
  processing : row.status = .processing → failedSince row.id history = false
  delivered : row.status = .delivered → .succeeded row.id ∈ history

/-- The history says so of every row. -/
def Recorded (w : OutboxWorld) : Prop := ∀ row ∈ w.events.rows, RowRecorded w.history row

/-- A dispatch whose return is about to be recorded did return. -/
def Dispatched (w : OutboxWorld) : PendingOutboxCall → Prop
  | .mark _ event (.ok _) _ => .succeeded event.id ∈ w.history
  | _ => True

/-- A batch names every row at most once. -/
theorem nodup_dueIds (now : ℤ) (locked : List Uuid) (limit : ℕ)
    (events : Table OutboxEventEntity.id) : (dueIds now locked limit events.rows).Nodup := by
  have hperm := List.perm_insertionSort DueBefore
    (events.rows.filter fun row => isDue now row && decide (row.id ∉ locked))
  have hsub : List.Sublist (events.rows.filter fun row =>
      isDue now row && decide (row.id ∉ locked)) events.rows := List.filter_sublist
  have hsorted : ((events.rows.filter fun row => isDue now row && decide (row.id ∉ locked))
      |>.insertionSort DueBefore |>.map OutboxEventEntity.id).Nodup :=
    (hperm.map OutboxEventEntity.id).nodup_iff.mpr
      ((hsub.map OutboxEventEntity.id).nodup events.distinct)
  exact ((List.take_sublist limit _).map OutboxEventEntity.id).nodup hsorted

/-! ## What a step writes -/

/-- The writes of the steps that enqueue nothing. -/
inductive OutboxMove (w : OutboxWorld) : OutboxWorld → Prop
  | nothing : OutboxMove w w
  | claimed (workerId : String) (input : OutboxInput) :
      OutboxMove w (claimStep workerId input w).1
  | dispatched (id : Uuid) : OutboxMove w { w with history := .dispatched id :: w.history }
  | succeeded (id : Uuid) :
      OutboxMove w { w with history := .succeeded id :: .dispatched id :: w.history }
  | delivered (now : ℤ) (id : Uuid) (hreturned : .succeeded id ∈ w.history) :
      OutboxMove w { w with
        events := w.events.update (fun row => row.id = id) (delivered now) (delivered_id now) }
  | failed (now : ℤ) (event : OutboxEventEntity) (errorMessage : String) :
      OutboxMove w {
        events := w.events.update (fun row => row.id = event.id)
          (markedFailed now event errorMessage) (markedFailed_id now event errorMessage)
        history := .failed event.id :: w.history }
  | requeued (ids : List Uuid) (input : OutboxInput) :
      OutboxMove w (resumeOutbox (.requeue ids) input w).1

/-- **What a later step of a call writes.** -/
theorem resume_outboxMove {call : PendingOutboxCall} (input : OutboxInput) {w : OutboxWorld}
    (hcall : Dispatched w call) : OutboxMove w (resumeOutbox call input w).1 := by
  cases call with
  | claim workerId => exact .claimed workerId input
  | reload workerId claimedIds =>
      simp only [resumeOutbox]
      split
      · exact .nothing
      · exact .nothing
  | dispatch workerId event rest =>
      simp only [resumeOutbox, dispatchStep]
      split
      · exact .nothing
      · split
        · cases input.dispatched with
          | ok _ => exact .succeeded event.id
          | error _ => exact .dispatched event.id
        · exact .nothing
  | mark workerId event outcome rest =>
      cases outcome with
      | ok _ =>
          simp only [resumeOutbox, markStep]
          cases input.databaseError with
          | none => exact .delivered input.now event.id hcall
          | some _ => exact .nothing
      | error message =>
          simp only [resumeOutbox, markStep]
          split
          · cases input.databaseError with
            | none => exact .failed input.now event message
            | some _ => exact .nothing
          · exact .nothing
  | requeue ids => exact .requeued ids input

/-- The records are only added to. -/
theorem OutboxMove.history {w w' : OutboxWorld} (hmove : OutboxMove w w') :
    ∃ new, w'.history = new ++ w.history := by
  cases hmove with
  | nothing | delivered => exact ⟨[], rfl⟩
  | claimed | requeued => exact ⟨_, rfl⟩
  | dispatched id => exact ⟨[.dispatched id], rfl⟩
  | succeeded id => exact ⟨[.succeeded id, .dispatched id], rfl⟩
  | failed now event _ => exact ⟨[.failed event.id], rfl⟩

theorem recorded_claimStep (workerId : String) (input : OutboxInput) {w : OutboxWorld}
    (h : Recorded w) : Recorded (claimStep workerId input w).1 := by
  have hnodup := nodup_dueIds input.now input.locked outboxBatchLimit w.events
  intro row hrow
  simp only [claimStep, claimDueBatch] at hrow ⊢
  rcases Table.mem_update hrow with ⟨hold, hnot⟩ | ⟨row₀, hold, hdue, rfl⟩
  · have hnot' := of_decide_eq_false hnot
    constructor
    · rw [claimsSince_claimed, List.count_eq_zero_of_not_mem hnot', (h row hold).counted,
        Nat.zero_add]
    · intro hstatus
      rw [failedSince_claimed, (h row hold).processing hstatus, Bool.and_false]
    · intro hstatus
      exact List.mem_append_right _ ((h row hold).delivered hstatus)
  · have hdue' := of_decide_eq_true hdue
    constructor
    · rw [claimsSince_claimed, claimedBy_id, List.count_eq_one_of_mem hnodup hdue',
        (h row₀ hold).counted]
      exact Nat.add_comm _ _
    · intro _
      rw [failedSince_claimed, claimedBy_id, decide_eq_true hdue', Bool.not_true, Bool.false_and]
    · intro hstatus
      exact OutboxEventStatus.noConfusion hstatus

/-- Records that are neither claims nor failures. -/
theorem Recorded.of_history {w : OutboxWorld} (h : Recorded w) {record : OutboxRecord}
    (hclaims : ∀ id, claimsSince id (record :: w.history) = claimsSince id w.history)
    (hfailed : ∀ id, failedSince id (record :: w.history) = failedSince id w.history) :
    Recorded { w with history := record :: w.history } := by
  intro row hrow
  constructor
  · exact (hclaims row.id).trans (h row hrow).counted
  · intro hstatus
    exact (hfailed row.id).trans ((h row hrow).processing hstatus)
  · intro hstatus
    exact List.mem_cons_of_mem _ ((h row hrow).delivered hstatus)

theorem recorded_delivered (now : ℤ) {id : Uuid} {w : OutboxWorld} (h : Recorded w)
    (hreturned : .succeeded id ∈ w.history) :
    Recorded { w with
      events := w.events.update (fun row => row.id = id) (delivered now) (delivered_id now) } := by
  intro row hrow
  simp only at hrow ⊢
  rcases Table.mem_update hrow with ⟨hold, _⟩ | ⟨row₀, hold, hid, rfl⟩
  · exact h row hold
  · refine ⟨(h row₀ hold).counted, fun hstatus => OutboxEventStatus.noConfusion hstatus, ?_⟩
    intro _
    rwa [delivered_id, of_decide_eq_true hid]

theorem recorded_markedFailed (now : ℤ) (event : OutboxEventEntity) (errorMessage : String)
    {w : OutboxWorld} (h : Recorded w) :
    Recorded {
      events := w.events.update (fun row => row.id = event.id)
        (markedFailed now event errorMessage) (markedFailed_id now event errorMessage)
      history := .failed event.id :: w.history } := by
  intro row hrow
  simp only at hrow ⊢
  rcases Table.mem_update hrow with ⟨hold, hne⟩ | ⟨row₀, hold, hid, rfl⟩
  · have hne' : event.id ≠ row.id := Ne.symm (of_decide_eq_false hne)
    refine ⟨(h row hold).counted, ?_, ?_⟩
    · intro hstatus
      simp only [failedSince, hne', decide_false, Bool.false_or]
      exact (h row hold).processing hstatus
    · intro hstatus
      exact List.mem_cons_of_mem _ ((h row hold).delivered hstatus)
  · -- a recorded failure leaves the row waiting or dead, never delivered or in process
    refine ⟨(h row₀ hold).counted, ?_, ?_⟩
    · intro hstatus
      cases hdead : isDeadLetter event <;> simp [markedFailed, hdead] at hstatus
    · intro hstatus
      cases hdead : isDeadLetter event <;> simp [markedFailed, hdead] at hstatus

theorem recorded_requeue (ids : List Uuid) (input : OutboxInput) {w : OutboxWorld}
    (h : Recorded w) : Recorded (resumeOutbox (.requeue ids) input w).1 := by
  intro row hrow
  simp only [resumeOutbox] at hrow ⊢
  rcases Table.mem_update hrow with ⟨hold, hnot⟩ | ⟨row₀, hold, hin, rfl⟩
  · constructor
    · rw [claimsSince_requeued, if_neg (of_decide_eq_false hnot), (h row hold).counted]
    · intro hstatus
      rw [failedSince_requeued, (h row hold).processing hstatus]
    · intro hstatus
      exact List.mem_append_right _ ((h row hold).delivered hstatus)
  · refine ⟨?_, fun hstatus => OutboxEventStatus.noConfusion hstatus,
      fun hstatus => OutboxEventStatus.noConfusion hstatus⟩
    rw [claimsSince_requeued, requeued_id, if_pos (of_decide_eq_true hin)]
    rfl

theorem OutboxMove.recorded {w w' : OutboxWorld} (hmove : OutboxMove w w') (h : Recorded w) :
    Recorded w' := by
  cases hmove with
  | nothing => exact h
  | claimed workerId input => exact recorded_claimStep workerId input h
  | dispatched id => exact h.of_history (fun _ => rfl) fun _ => rfl
  | succeeded id =>
      have hdispatched : Recorded { w with history := .dispatched id :: w.history } :=
        h.of_history (fun _ => rfl) fun _ => rfl
      exact hdispatched.of_history (fun _ => rfl) fun _ => rfl
  | delivered now id hreturned => exact recorded_delivered now h hreturned
  | failed now event errorMessage => exact recorded_markedFailed now event errorMessage h
  | requeued ids input => exact recorded_requeue ids input h

theorem recorded_invoke (request : OutboxRequest) (input : OutboxInput) {w : OutboxWorld}
    (h : Recorded w) : Recorded (invokeOutbox request input w).1 := by
  cases request with
  | enqueue id event =>
      simp only [invokeOutbox]
      split
      · next hnew =>
          intro row hrow
          rcases Table.mem_insert hrow with hold | ⟨rfl, _⟩
          · have hne : id ≠ row.id := by
              rintro rfl
              rw [Table.get_of_mem hold] at hnew
              exact Bool.noConfusion hnew
            refine ⟨?_, (h row hold).processing, ?_⟩
            · simp only [claimsSince, hne, if_false]
              exact (h row hold).counted
            · intro hstatus
              exact List.mem_cons_of_mem _ ((h row hold).delivered hstatus)
          · refine ⟨?_, fun hstatus => OutboxEventStatus.noConfusion hstatus,
              fun hstatus => OutboxEventStatus.noConfusion hstatus⟩
            simp only [claimsSince, enqueued, if_true]
      · exact h
  | dispatchDueEvents workerId => exact recorded_claimStep workerId input h
  | requeueDeadLetters ids =>
      simp only [invokeOutbox]
      split
      · exact h
      · exact h

theorem invoke_history (request : OutboxRequest) (input : OutboxInput) (w : OutboxWorld) :
    ∃ new, (invokeOutbox request input w).1.history = new ++ w.history := by
  cases request with
  | enqueue id event =>
      simp only [invokeOutbox]
      split
      · exact ⟨[.enqueued id], rfl⟩
      · exact ⟨[], rfl⟩
  | dispatchDueEvents workerId => exact ⟨_, rfl⟩
  | requeueDeadLetters ids =>
      simp only [invokeOutbox]
      split
      · exact ⟨[], rfl⟩
      · exact ⟨[], rfl⟩

/-- A return stays in the history. -/
theorem Dispatched.of_history {w w' : OutboxWorld} {call : PendingOutboxCall}
    (h : Dispatched w call) (hhistory : ∃ new, w'.history = new ++ w.history) :
    Dispatched w' call := by
  obtain ⟨new, hnew⟩ := hhistory
  unfold Dispatched at h ⊢
  split
  · rw [hnew]
    exact List.mem_append_right _ h
  · trivial

theorem dispatched_nextEvent (w : OutboxWorld) {workerId : String}
    {rest : List OutboxEventEntity} {call : PendingOutboxCall}
    (hcall : nextEvent workerId rest = some call) : Dispatched w call := by
  cases rest with
  | nil => obtain rfl := Option.some.inj hcall; exact trivial
  | cons event rest => obtain rfl := Option.some.inj hcall; exact trivial

theorem dispatched_claimStep {workerId : String} {input : OutboxInput} {w : OutboxWorld}
    {call : PendingOutboxCall} (hcall : (claimStep workerId input w).2 = some call) :
    Dispatched (claimStep workerId input w).1 call := by
  simp only [claimStep] at hcall
  split at hcall
  · exact absurd hcall (by simp)
  · obtain rfl := Option.some.inj hcall
    exact trivial

theorem dispatched_invoke {request : OutboxRequest} {input : OutboxInput} {w : OutboxWorld}
    {call : PendingOutboxCall} (hcall : (invokeOutbox request input w).2 = some call) :
    Dispatched (invokeOutbox request input w).1 call := by
  cases request with
  | enqueue id event =>
      simp only [invokeOutbox] at hcall
      split at hcall
      · exact absurd hcall (by simp)
      · exact absurd hcall (by simp)
  | dispatchDueEvents workerId => exact dispatched_claimStep hcall
  | requeueDeadLetters ids =>
      simp only [invokeOutbox] at hcall
      split at hcall
      · exact absurd hcall (by simp)
      · obtain rfl := Option.some.inj hcall
        exact trivial

theorem dispatched_resume {call next : PendingOutboxCall} {input : OutboxInput} {w : OutboxWorld}
    (hcall : (resumeOutbox call input w).2 = some next) :
    Dispatched (resumeOutbox call input w).1 next := by
  cases call with
  | claim workerId => exact dispatched_claimStep hcall
  | reload workerId claimedIds =>
      simp only [resumeOutbox] at hcall
      split at hcall
      · exact absurd hcall (by simp)
      · obtain rfl := Option.some.inj hcall
        exact trivial
  | dispatch workerId event rest =>
      simp only [resumeOutbox, dispatchStep] at hcall ⊢
      split at hcall
      · obtain rfl := Option.some.inj hcall
        exact trivial
      · split at hcall
        · next htype =>
            obtain rfl := Option.some.inj hcall
            simp only [htype, if_true]
            cases input.dispatched with
            | ok _ => exact List.mem_cons_self
            | error _ => exact trivial
        · obtain rfl := Option.some.inj hcall
          exact trivial
  | mark workerId event outcome rest =>
      simp only [resumeOutbox, markStep] at hcall ⊢
      split at hcall
      · exact dispatched_nextEvent _ hcall
      · obtain rfl := Option.some.inj hcall
        exact trivial
      · split at hcall
        · split at hcall
          · exact dispatched_nextEvent _ hcall
          · exact absurd hcall (by simp)
        · exact dispatched_nextEvent _ hcall
  | requeue ids => exact absurd hcall (by simp [resumeOutbox])

/-- **The history and the rows agree along every run.** -/
theorem recorded_outline :
    Outline outboxCalls noEnv (fun _ _ _ => True) (fun _ _ _ => True) (fun _ _ => True) Recorded
      Dispatched where
  invoke h _ := ⟨recorded_invoke _ _ h, fun _ hcall => dispatched_invoke hcall⟩
  resume h hcall _ :=
    ⟨(resume_outboxMove _ hcall).recorded h, fun _ hnext => dispatched_resume hnext⟩
  environment {_ e} := e.elim
  invoke_stable {w request input _} _ _ hcall := hcall.of_history (invoke_history request input w)
  resume_stable _ hcall _ hother := hother.of_history (resume_outboxMove _ hcall).history
  environment_stable {_ e} := e.elim

/-! ## The bound -/

/-- Where an event may be after its last permitted attempt: still being processed, its
failure not recorded; delivered, its dispatch having returned; or dead. -/
def AfterLastAttempt (w : OutboxWorld) (row : OutboxEventEntity) : Prop :=
  match row.status with
  | .processing => failedSince row.id w.history = false
  | .delivered => .succeeded row.id ∈ w.history
  | .deadLetter => True
  | .pending | .failed => False

instance (w : OutboxWorld) (row : OutboxEventEntity) : Decidable (AfterLastAttempt w row) := by
  unfold AfterLastAttempt; split <;> infer_instance

/-- **The bound.**  No event was claimed more than `maxAttempts` times since it was
enqueued or requeued; and one that was claimed that often and whose dispatch never
returned is a dead letter once the failure of that attempt is recorded. -/
def RetriesBounded (w : OutboxWorld) : Prop :=
  ∀ row ∈ w.events.rows, claimsSince row.id w.history ≤ row.maxAttempts ∧
    (claimsSince row.id w.history = row.maxAttempts → AfterLastAttempt w row)

instance (w : OutboxWorld) : Decidable (RetriesBounded w) := by
  unfold RetriesBounded; infer_instance

/-- The statuses from which a due event is claimed again. -/
def OutboxEventStatus.isWaiting : OutboxEventStatus → Bool
  | .pending | .failed => true
  | .processing | .delivered | .deadLetter => false

/-- The bound on a row, read off its columns. -/
def WithinLimit (row : OutboxEventEntity) : Prop :=
  row.attempts ≤ row.maxAttempts ∧
    (OutboxEventStatus.isWaiting row.status = true → row.attempts ≠ row.maxAttempts)

/-- The bound on the rows of the table. -/
def RowsWithinLimit (w : OutboxWorld) : Prop := ∀ row ∈ w.events.rows, WithinLimit row

theorem afterLastAttempt_iff {w : OutboxWorld} {row : OutboxEventEntity}
    (h : RowRecorded w.history row) :
    AfterLastAttempt w row ↔ OutboxEventStatus.isWaiting row.status = false := by
  unfold AfterLastAttempt
  cases hs : row.status with
  | pending | failed => simp [OutboxEventStatus.isWaiting]
  | processing => exact iff_of_true (h.processing hs) rfl
  | delivered => exact iff_of_true (h.delivered hs) rfl
  | deadLetter => exact iff_of_true trivial rfl

theorem retriesBounded_iff {w : OutboxWorld} (h : Recorded w) :
    RetriesBounded w ↔ RowsWithinLimit w := by
  refine forall₂_congr fun row hrow => ?_
  rw [(h row hrow).counted, afterLastAttempt_iff (h row hrow)]
  refine and_congr_right fun _ => ⟨fun hafter hwait hlast => ?_, fun hbound hlast => ?_⟩
  · rw [hafter hlast] at hwait
    exact Bool.noConfusion hwait
  · exact eq_false_of_ne_true fun hwait => hbound hwait hlast

/-- Every event was granted at least one attempt. -/
def AttemptsGranted (w : OutboxWorld) : Prop := ∀ row ∈ w.events.rows, 0 < row.maxAttempts

/-! ## The exact condition -/

/-- A claim takes no row that is stuck on its last attempt. -/
def ReclaimsInTime (w : OutboxWorld) (input : OutboxInput) : Prop :=
  ∀ row ∈ w.events.rows, row.id ∈ dueIds input.now input.locked outboxBatchLimit w.events.rows →
    row.status = .processing → row.attempts < row.maxAttempts

instance (w : OutboxWorld) (input : OutboxInput) : Decidable (ReclaimsInTime w input) := by
  unfold ReclaimsInTime; infer_instance

/-- The record of a failure puts no row back to `failed` that is on its last
attempt: the event of the worker is not out of date then. -/
def RecordsInTime (w : OutboxWorld) (event : OutboxEventEntity) : Prop :=
  isDeadLetter event = false → ∀ row ∈ w.events.rows, row.id = event.id →
    row.attempts < row.maxAttempts

instance (w : OutboxWorld) (event : OutboxEventEntity) : Decidable (RecordsInTime w event) := by
  unfold RecordsInTime; infer_instance

/-- The condition on the first step of a call. -/
def InvokesInTime (w : OutboxWorld) (request : OutboxRequest) (input : OutboxInput) : Prop :=
  match request with
  | .enqueue id event => w.events.get id = none → 0 < event.maxAttempts.getD 8
  | .dispatchDueEvents _ => ReclaimsInTime w input
  | .requeueDeadLetters _ => True

/-- The condition on a later step. -/
def ResumesInTime (w : OutboxWorld) (call : PendingOutboxCall) (input : OutboxInput) : Prop :=
  match call with
  | .claim _ => ReclaimsInTime w input
  | .mark _ event (.error _) _ =>
      canMarkFailed event = true → input.databaseError = none → RecordsInTime w event
  | _ => True

/-- The guard on the steps of a run: no reclaim of a last attempt, no late record
over a last attempt, and at least one attempt for every event. -/
abbrev LastAttemptsRecorded : OutboxConfig → OutboxCallEvent → Prop :=
  Guard InvokesInTime ResumesInTime fun _ _ => True

/-! ## One step -/

/-- An UPDATE has to keep the bound on the rows it changes. -/
theorem withinLimit_update {w : OutboxWorld} {p : OutboxEventEntity → Bool}
    {f : OutboxEventEntity → OutboxEventEntity} {hf : ∀ r, (f r).id = r.id}
    {history : List OutboxRecord} (hlimit : RowsWithinLimit w) :
    RowsWithinLimit { events := w.events.update p f hf, history := history }
      ↔ ∀ row ∈ w.events.rows, p row = true → WithinLimit (f row) := by
  rw [RowsWithinLimit, Table.forall_update fun row hrow _ => hlimit row hrow]

theorem isWaiting_or_processing {now : ℤ} {row : OutboxEventEntity} (h : isDue now row = true) :
    OutboxEventStatus.isWaiting row.status = true ∨ row.status = .processing := by
  unfold isDue at h
  cases hs : row.status with
  | pending | failed => exact Or.inl rfl
  | processing => exact Or.inr rfl
  | delivered | deadLetter => simp [hs] at h

theorem withinLimit_claimStep {w : OutboxWorld} (hlimit : RowsWithinLimit w) (workerId : String)
    (input : OutboxInput) :
    RowsWithinLimit (claimStep workerId input w).1 ↔ ReclaimsInTime w input := by
  refine (withinLimit_update hlimit).trans ?_
  constructor
  · intro hall row hrow hdue _
    have hnext := (hall row hrow (decide_eq_true hdue)).1
    simp only [claimedBy] at hnext
    omega
  · intro hgood row hrow hdue
    have hmem := of_decide_eq_true hdue
    have hlt : row.attempts < row.maxAttempts := by
      rcases isWaiting_or_processing (isDue_of_mem_dueIds hrow hmem) with hwait | hproc
      · have hrow' := hlimit row hrow
        have hne := hrow'.2 hwait
        have hle := hrow'.1
        omega
      · exact hgood row hrow hmem hproc
    refine ⟨?_, fun hwait => Bool.noConfusion hwait⟩
    simp only [claimedBy]
    omega

theorem withinLimit_markFailed {w : OutboxWorld} (hlimit : RowsWithinLimit w) (now : ℤ)
    (event : OutboxEventEntity) (errorMessage : String) (history : List OutboxRecord) :
    RowsWithinLimit {
        events := w.events.update (fun row => row.id = event.id)
          (markedFailed now event errorMessage) (markedFailed_id now event errorMessage)
        history := history }
      ↔ RecordsInTime w event := by
  refine (withinLimit_update hlimit).trans ?_
  constructor
  · intro hall hdead row hrow hid
    have hnext := (hall row hrow (decide_eq_true hid)).2
    have hle := (hlimit row hrow).1
    simp only [markedFailed, hdead, Bool.false_eq_true, if_false] at hnext
    have hne := hnext rfl
    omega
  · intro hgood row hrow hid
    refine ⟨(hlimit row hrow).1, ?_⟩
    intro hwait
    cases hdead : isDeadLetter event with
    | true =>
        simp only [markedFailed, hdead, if_true] at hwait
        exact Bool.noConfusion hwait
    | false =>
        have hlt := hgood hdead row hrow (of_decide_eq_true hid)
        simp only [markedFailed]
        omega

theorem withinLimit_markDelivered {w : OutboxWorld} (hlimit : RowsWithinLimit w) (now : ℤ)
    (id : Uuid) :
    RowsWithinLimit { w with
      events := w.events.update (fun row => row.id = id) (delivered now) (delivered_id now) } := by
  refine (withinLimit_update hlimit).mpr fun row hrow _ => ?_
  exact ⟨(hlimit row hrow).1, fun hwait => Bool.noConfusion hwait⟩

theorem withinLimit_requeue {w : OutboxWorld} (hlimit : RowsWithinLimit w)
    (hgranted : AttemptsGranted w) (ids : List Uuid) (input : OutboxInput) :
    RowsWithinLimit (resumeOutbox (.requeue ids) input w).1 := by
  refine (withinLimit_update hlimit).mpr fun row hrow _ => ?_
  have hpos := hgranted row hrow
  refine ⟨Nat.zero_le _, fun _ => ?_⟩
  simp only [requeued]
  omega

theorem withinLimit_enqueue {w : OutboxWorld} (hlimit : RowsWithinLimit w) (id : Uuid)
    (event : EnqueueOutboxEventInput) (input : OutboxInput) :
    RowsWithinLimit (invokeOutbox (.enqueue id event) input w).1
      ↔ (w.events.get id = none → 0 < event.maxAttempts.getD 8) := by
  simp only [invokeOutbox]
  split
  · next hnew =>
      have hnone := Option.isNone_iff_eq_none.mp hnew
      constructor
      · intro hall _
        have hmem : enqueued input.now id event ∈
            (w.events.insert (enqueued input.now id event)).rows := by
          rw [Table.mem_rows_iff, Table.get_insert, if_pos ⟨rfl, hnone⟩]
        have hne := (hall _ hmem).2 rfl
        simp only [enqueued] at hne
        omega
      · intro hpos row hrow
        rcases Table.mem_insert hrow with hold | ⟨rfl, _⟩
        · exact hlimit row hold
        · refine ⟨Nat.zero_le _, fun _ => ?_⟩
          have hpos' := hpos hnone
          simp only [enqueued]
          omega
  · next hold =>
      refine iff_of_true hlimit fun hnone => ?_
      rw [hnone] at hold
      exact absurd rfl hold

theorem withinLimit_invoke {w : OutboxWorld} (hlimit : RowsWithinLimit w)
    (request : OutboxRequest) (input : OutboxInput) :
    RowsWithinLimit (invokeOutbox request input w).1 ↔ InvokesInTime w request input := by
  cases request with
  | enqueue id event => exact withinLimit_enqueue hlimit id event input
  | dispatchDueEvents workerId => exact withinLimit_claimStep hlimit workerId input
  | requeueDeadLetters ids =>
      refine iff_of_true ?_ trivial
      simp only [invokeOutbox]
      split
      · exact hlimit
      · exact hlimit

theorem withinLimit_resume {w : OutboxWorld} (hlimit : RowsWithinLimit w)
    (hgranted : AttemptsGranted w) (call : PendingOutboxCall) (input : OutboxInput) :
    RowsWithinLimit (resumeOutbox call input w).1 ↔ ResumesInTime w call input := by
  cases call with
  | claim workerId => exact withinLimit_claimStep hlimit workerId input
  | reload workerId claimedIds =>
      refine iff_of_true ?_ trivial
      simp only [resumeOutbox]
      split
      · exact hlimit
      · exact hlimit
  | dispatch workerId event rest =>
      refine iff_of_true ?_ trivial
      simp only [resumeOutbox, dispatchStep]
      split
      · exact hlimit
      · split
        · exact hlimit
        · exact hlimit
  | mark workerId event outcome rest =>
      cases outcome with
      | ok u =>
          refine iff_of_true ?_ trivial
          simp only [resumeOutbox, markStep]
          cases input.databaseError with
          | none => exact withinLimit_markDelivered hlimit input.now event.id
          | some message => exact hlimit
      | error message =>
          simp only [resumeOutbox, markStep, ResumesInTime]
          cases canMarkFailed event with
          | false => exact iff_of_true hlimit fun hcan => Bool.noConfusion hcan
          | true =>
              cases input.databaseError with
              | none =>
                  simp only [if_true, true_implies]
                  exact withinLimit_markFailed hlimit input.now event message _
              | some _ => simpa using hlimit
  | requeue ids => exact iff_of_true (withinLimit_requeue hlimit hgranted ids input) trivial

/-! ## The runs -/

/-- No statement changes `maxAttempts`. -/
theorem granted_update {t : Table OutboxEventEntity.id} {p : OutboxEventEntity → Bool}
    {f : OutboxEventEntity → OutboxEventEntity} (hf : ∀ r, (f r).id = r.id)
    (hmax : ∀ r, (f r).maxAttempts = r.maxAttempts) (h : ∀ row ∈ t.rows, 0 < row.maxAttempts) :
    ∀ row ∈ (t.update p f hf).rows, 0 < row.maxAttempts := by
  rw [Table.forall_update fun row hrow _ => h row hrow]
  intro row hrow _
  rw [hmax]
  exact h row hrow

theorem granted_claimStep (workerId : String) (input : OutboxInput) {w : OutboxWorld}
    (h : AttemptsGranted w) : AttemptsGranted (claimStep workerId input w).1 :=
  granted_update (claimedBy_id workerId input.now) (fun _ => rfl) h

theorem granted_invoke {w : OutboxWorld} (h : AttemptsGranted w) {request : OutboxRequest}
    {input : OutboxInput} (hlimit : RowsWithinLimit (invokeOutbox request input w).1) :
    AttemptsGranted (invokeOutbox request input w).1 := by
  cases request with
  | enqueue id event =>
      intro row hrow
      have hrow' := hlimit row hrow
      simp only [invokeOutbox] at hrow
      split at hrow
      · rcases Table.mem_insert hrow with hold | ⟨rfl, _⟩
        · exact h row hold
        · -- the new row waits, so the bound itself grants it an attempt
          have hne := hrow'.2 rfl
          simp only [enqueued] at hne ⊢
          omega
      · exact h row hrow
  | dispatchDueEvents workerId => exact granted_claimStep workerId input h
  | requeueDeadLetters ids =>
      simp only [invokeOutbox]
      split
      · exact h
      · exact h

theorem OutboxMove.granted {w w' : OutboxWorld} (hmove : OutboxMove w w')
    (h : AttemptsGranted w) : AttemptsGranted w' := by
  cases hmove with
  | nothing | dispatched | succeeded => exact h
  | claimed workerId input => exact granted_claimStep workerId input h
  | delivered now id _ => exact granted_update (delivered_id now) (fun _ => rfl) h
  | failed now event errorMessage =>
      exact granted_update (markedFailed_id now event errorMessage) (fun _ => rfl) h
  | requeued ids input => exact granted_update (requeued_id input.now) (fun _ => rfl) h

/-- The history and the rows agree, and every event was granted an attempt. -/
structure RetryInv (c : OutboxConfig) : Prop where
  recorded : Good Recorded Dispatched c
  granted : AttemptsGranted c.world

/-- One event of a run keeps the invariant. -/
theorem retryInv_step (c : OutboxConfig) (e : OutboxCallEvent) (h : RetryInv c)
    (hbound : RetriesBounded (Interleaving.step outboxCalls noEnv c e).world) :
    RetryInv (Interleaving.step outboxCalls noEnv c e) := by
  have hrecorded : Good Recorded Dispatched (Interleaving.step outboxCalls noEnv c e) :=
    recorded_outline.step_all c e h.recorded
  have hlimit := (retriesBounded_iff hrecorded.1).mp hbound
  refine ⟨hrecorded, ?_⟩
  cases e with
  | invoke p request input =>
      cases hp : c.pending p with
      | none => rw [step_invoke hp] at hlimit ⊢; exact granted_invoke h.granted hlimit
      | some call => rw [step_invoke_busy hp]; exact h.granted
  | resume p input =>
      cases hp : c.pending p with
      | none => rw [step_resume_idle hp]; exact h.granted
      | some call =>
          rw [step_resume hp]
          exact (resume_outboxMove input (h.recorded.2 p call hp)).granted h.granted
  | env e => exact e.elim

/-- One event keeps the bound exactly if it meets the condition. -/
theorem retriesBounded_step (c : OutboxConfig) (e : OutboxCallEvent) (h : RetryInv c)
    (hbound : RetriesBounded c.world) :
    RetriesBounded (Interleaving.step outboxCalls noEnv c e).world
      ↔ LastAttemptsRecorded c e := by
  have hrecorded : Recorded (Interleaving.step outboxCalls noEnv c e).world :=
    (recorded_outline.step_all c e h.recorded).1
  have hlimit := (retriesBounded_iff h.recorded.1).mp hbound
  rw [retriesBounded_iff hrecorded]
  exact world_step_iff hlimit (fun request input => withinLimit_invoke hlimit request input)
    (fun call input => withinLimit_resume hlimit h.granted call input) (fun e => e.elim) e

/-- **Retries are bounded exactly along the runs that meet the condition.**  Of the runs
from an empty outbox, those in whose every state each event was claimed at most
`maxAttempts` times, and is delivered, dead or still being processed after that, are the
runs in which no worker reclaims a row stuck on its last attempt, no late failure puts
such a row back to `failed`, and every event was granted an attempt. -/
theorem retries_bounded_iff (es : List OutboxCallEvent) :
    (∀ es₁ es₂, es = es₁ ++ es₂ → RetriesBounded (outboxRun {} es₁).world) ↔
      Along (Interleaving.step outboxCalls noEnv) LastAttemptsRecorded (Config.idle {}) es := by
  have hnone : ∀ row, row ∉ ({} : OutboxWorld).events.rows := fun _ => List.not_mem_nil
  have hinv : RetryInv (Config.idle {}) :=
    ⟨good_idle fun row hrow => absurd hrow (hnone row), fun row hrow => absurd hrow (hnone row)⟩
  have hbound : RetriesBounded {} := fun row hrow => absurd hrow (hnone row)
  exact prefixes_iff_along (I := fun c : OutboxConfig => RetriesBounded c.world)
    (fun c e hA _ hI => retryInv_step c e hA hI)
    (fun c e hA hI => retriesBounded_step c e hA hI) hinv hbound

/-- An event is enqueued, and nine times, every two minutes, a worker claims it and
crashes before it records anything. -/
def nineCrashes : List OutboxCallEvent :=
  .invoke 0 (.enqueue "e1" { type := "task.updated", payload := .obj [] }) {} ::
    (List.range 9).map fun (i : ℕ) =>
      .invoke (i + 1) (.dispatchDueEvents "worker-a") { now := 120000 * i }

/-- The event, which was granted eight attempts, is claimed a ninth time. -/
theorem last_attempt_reclaimed :
    ¬ ∀ es : List OutboxCallEvent, RetriesBounded (outboxRun {} es).world := by
  intro hall
  have hrow := hall nineCrashes
  revert hrow
  decide

end OutboxService
