/-
# Finished events under races

A row that is `delivered` or `dead_letter` is not due, so no worker claims it.
But a worker records the outcome of a dispatch by id alone, and an operator's
requeue does not look at the status again: either may land on a row that another
step has finished in the meantime.

Along the runs in which every outcome lands on a row still `processing` and every
requeue on rows still `dead_letter`, finished rows stay finished.
-/
import NoderaxApi.Outbox

namespace OutboxService

open Interleaving KeyedTable Runs

/-! ## What is kept -/

/-- How often the event was handed to its dispatch function. -/
def OutboxWorld.dispatches (w : OutboxWorld) (id : Uuid) : ℕ := w.history.count (.dispatched id)

/-- How often an operator's UPDATE requeued the event. -/
def OutboxWorld.requeues (w : OutboxWorld) (id : Uuid) : ℕ := w.history.count (.requeued id)

/-- What the later world keeps of the outcomes of the earlier one. -/
structure OutcomeKept (w w' : OutboxWorld) : Prop where
  delivered : ∀ id, w.statusOf id = some .delivered →
    w'.statusOf id = some .delivered ∧ w'.dispatches id = w.dispatches id
  deadLetter : ∀ id, w.statusOf id = some .deadLetter → w'.requeues id = w.requeues id →
    w'.statusOf id = some .deadLetter
  requeues_le : ∀ id, w.requeues id ≤ w'.requeues id

theorem OutcomeKept.refl (w : OutboxWorld) : OutcomeKept w w :=
  ⟨fun _ h => ⟨h, rfl⟩, fun _ h _ => h, fun _ => le_refl _⟩

theorem OutcomeKept.trans {a b c : OutboxWorld} (hab : OutcomeKept a b) (hbc : OutcomeKept b c) :
    OutcomeKept a c := by
  constructor
  · intro id hid
    obtain ⟨hb, hcount⟩ := hab.delivered id hid
    obtain ⟨hc, hcount'⟩ := hbc.delivered id hb
    exact ⟨hc, hcount'.trans hcount⟩
  · intro id hid hsame
    -- the requeues only grow, so none happened on either half
    have h₁ := hab.requeues_le id
    have h₂ := hbc.requeues_le id
    exact hbc.deadLetter id (hab.deadLetter id hid (by omega)) (by omega)
  · intro id
    exact le_trans (hab.requeues_le id) (hbc.requeues_le id)

/-- The statuses a row is finished in. -/
def OutboxEventStatus.isFinished : OutboxEventStatus → Bool
  | .delivered | .deadLetter => true
  | .pending | .processing | .failed => false

/-- A step that leaves the finished rows alone and does not dispatch a delivered
event keeps every outcome. -/
theorem OutcomeKept.of_rows {w w' : OutboxWorld} (new : List OutboxRecord)
    (hrows : ∀ id row, w.events.get id = some row →
      OutboxEventStatus.isFinished row.status = true → w'.events.get id = some row)
    (hhistory : w'.history = new ++ w.history)
    (hdispatched : ∀ id, w.statusOf id = some .delivered → .dispatched id ∉ new) :
    OutcomeKept w w' := by
  have hstatus : ∀ id status, w.statusOf id = some status →
      OutboxEventStatus.isFinished status = true → w'.statusOf id = some status := by
    intro id status h hfin
    obtain ⟨row, hrow, rfl⟩ := Option.map_eq_some_iff.mp h
    rw [OutboxWorld.statusOf, hrows id row hrow hfin, Option.map_some]
  constructor
  · intro id h
    refine ⟨hstatus id _ h rfl, ?_⟩
    rw [OutboxWorld.dispatches, hhistory, List.count_append,
      List.count_eq_zero_of_not_mem (hdispatched id h), Nat.zero_add, OutboxWorld.dispatches]
  · intro id h _
    exact hstatus id _ h rfl
  · intro id
    rw [OutboxWorld.requeues, OutboxWorld.requeues, hhistory, List.count_append]
    omega

/-! ## The statements -/

/-- The ids a claim selects are ids of due rows. -/
theorem mem_dueIds {now : ℤ} {locked : List Uuid} {limit : ℕ} {rows : List OutboxEventEntity}
    {id : Uuid} (h : id ∈ dueIds now locked limit rows) :
    ∃ row ∈ rows, row.id = id ∧ isDue now row = true := by
  obtain ⟨row, hrow, rfl⟩ := List.mem_map.mp h
  have hsorted := List.mem_of_mem_take hrow
  rw [List.mem_insertionSort, List.mem_filter] at hsorted
  exact ⟨row, hsorted.1, rfl, (Bool.and_eq_true_iff.mp hsorted.2).1⟩

/-- A row that a claim selects is due. -/
theorem isDue_of_mem_dueIds {now : ℤ} {locked : List Uuid} {limit : ℕ} {w : OutboxWorld}
    {row : OutboxEventEntity} (hrow : row ∈ w.events.rows)
    (h : row.id ∈ dueIds now locked limit w.events.rows) : isDue now row = true := by
  obtain ⟨row', hmem, hid, hdue⟩ := mem_dueIds h
  have heq : row' = row := by
    have h' := Table.get_of_mem hmem
    rw [hid, Table.get_of_mem hrow] at h'
    exact (Option.some.inj h').symm
  rwa [heq] at hdue

theorem isDue_of_isFinished {now : ℤ} {row : OutboxEventEntity}
    (h : OutboxEventStatus.isFinished row.status = true) : isDue now row = false := by
  unfold isDue
  cases hs : row.status with
  | pending | failed | processing => simp [hs, OutboxEventStatus.isFinished] at h
  | delivered | deadLetter => rfl

theorem outcomeKept_claimStep (workerId : String) (input : OutboxInput) (w : OutboxWorld) :
    OutcomeKept w (claimStep workerId input w).1 := by
  refine OutcomeKept.of_rows _ ?_ rfl ?_
  · intro id row hrow hfin
    have hnot : row.id ∉ dueIds input.now input.locked outboxBatchLimit w.events.rows := by
      intro hmem
      have hdue := isDue_of_mem_dueIds (Table.mem_of_get hrow) hmem
      rw [isDue_of_isFinished hfin] at hdue
      exact Bool.noConfusion hdue
    simp only [claimStep, claimDueBatch, Table.get_update, hrow, Option.map_some, hnot,
      decide_false, Bool.false_eq_true, if_false]
  · intro id _ hmem
    obtain ⟨id', _, hrec⟩ := List.mem_map.mp hmem
    exact OutboxRecord.noConfusion hrec

/-- An UPDATE of one unfinished row. -/
theorem outcomeKept_update {w : OutboxWorld} {id : Uuid}
    {f : OutboxEventEntity → OutboxEventEntity} {hf : ∀ r, (f r).id = r.id}
    (hid : w.statusOf id = some .processing) (new : List OutboxRecord)
    (hnew : ∀ id, .dispatched id ∉ new) :
    OutcomeKept w { events := w.events.update (fun row => row.id = id) f hf,
                    history := new ++ w.history } := by
  refine OutcomeKept.of_rows new ?_ rfl fun id _ => hnew id
  intro id' row hrow hfin
  have hne : row.id ≠ id := by
    intro heq
    have hid' : id' = id := by rw [← heq, Table.key_of_get hrow]
    rw [OutboxWorld.statusOf, ← hid', hrow, Option.map_some, Option.some_inj] at hid
    rw [hid] at hfin
    exact Bool.noConfusion hfin
  simp only [Table.get_update, hrow, Option.map_some, hne, decide_false, Bool.false_eq_true,
    if_false]

/-! ## The condition and the theorem -/

/-- A dispatch and its record find their row still `processing`, a requeue finds
its rows still `dead_letter`. -/
def FindsItsRow (w : OutboxWorld) (call : PendingOutboxCall) (_ : OutboxInput) : Prop :=
  match call with
  | .dispatch _ event _ | .mark _ event _ _ => w.statusOf event.id = some .processing
  | .requeue ids => ∀ id ∈ ids, w.statusOf id = some .deadLetter
  | .claim _ | .reload _ _ => True

instance : ∀ w call input, Decidable (FindsItsRow w call input) := by
  intro w call input
  cases call <;> unfold FindsItsRow <;> infer_instance

/-- Every step of the run finds its row as it left it. -/
abbrev StepsFindTheirRows : OutboxConfig → OutboxCallEvent → Prop := ResumeGuard FindsItsRow

/-- A claim leaves the rows it returns `processing`. -/
theorem statusOf_claimDueBatch {workerId : String} {now : ℤ} {locked : List Uuid} {limit : ℕ}
    {w : OutboxWorld} {id : Uuid} (hid : id ∈ (claimDueBatch workerId now locked limit w).2) :
    (claimDueBatch workerId now locked limit w).1.statusOf id = some .processing := by
  have hdue : id ∈ dueIds now locked limit w.events.rows := (List.mem_filter.mp hid).1
  obtain ⟨row, hrow, rfl, -⟩ := mem_dueIds hdue
  have hfind : w.events.get row.id = some row := Table.get_of_mem hrow
  simp only [OutboxWorld.statusOf, claimDueBatch, Table.get_update, hfind, Option.map_some, hdue,
    decide_true, if_true, claimedBy]

/-- **A row that nobody writes** between its claim and its dispatch or record is found
`processing`: the claim itself has made it so. -/
theorem stepsFindTheirRows_of_claim {c : OutboxConfig} {es : List OutboxCallEvent} {p : ℕ}
    {workerId : String} {w : OutboxWorld} {claim input : OutboxInput} {call : PendingOutboxCall}
    {event : OutboxEventEntity} (hworld : c.world = (claimStep workerId claim w).1)
    (hid : event.id ∈ (claimDueBatch workerId claim.now claim.locked outboxBatchLimit w).2)
    (hkeeps : Keeps outboxCalls noEnv (fun w => w.statusOf event.id) c es)
    (hcall : (∃ rest, call = .dispatch workerId event rest) ∨
      ∃ outcome rest, call = .mark workerId event outcome rest)
    (hp : (run (Interleaving.step outboxCalls noEnv) c es).pending p = some call) :
    StepsFindTheirRows (run (Interleaving.step outboxCalls noEnv) c es) (.resume p input) := by
  have hstatus : (run (Interleaving.step outboxCalls noEnv) c es).world.statusOf event.id
      = some .processing := by
    rw [hkeeps.world_eq, hworld]
    exact statusOf_claimDueBatch hid
  refine (ResumeGuard.resume_iff hp input).mpr ?_
  rcases hcall with ⟨rest, rfl⟩ | ⟨outcome, rest, rfl⟩
  · exact hstatus
  · exact hstatus

/-- The ids that `requeueDeadLetters` accepts are those of `dead_letter` rows. -/
theorem statusOf_assertEligibleDeadLetterIds {ids eligibleIds : List Uuid} {w : OutboxWorld}
    (h : assertEligibleDeadLetterIds ids w = .ok eligibleIds) :
    ∀ id ∈ eligibleIds, w.statusOf id = some .deadLetter := by
  unfold assertEligibleDeadLetterIds at h
  dsimp only at h
  set eligible := w.events.rows.filter fun row =>
    decide (row.id ∈ (ids.filter (· ≠ "")).eraseDups) && decide (row.status = .deadLetter) &&
      decide (row.type ∈ outboxWebRemediateTypes)
  split at h
  · cases h
  split at h
  · cases h
  next hlength =>
    cases h
    have hsubset : eligible.map OutboxEventEntity.id ⊆ (ids.filter (· ≠ "")).eraseDups := by
      intro id hid
      obtain ⟨row, hrow, rfl⟩ := List.mem_map.mp hid
      have hrow := (List.mem_filter.mp hrow).2
      simp only [Bool.and_eq_true, decide_eq_true_eq] at hrow
      exact hrow.1.1
    have hnodup : (eligible.map OutboxEventEntity.id).Nodup :=
      w.events.distinct.sublist (List.filter_sublist.map _)
    -- as many rows as ids, so every id is one of theirs
    have hperm := (List.subperm_of_subset hnodup hsubset).perm_of_length_le
      (by simpa using (not_not.mp hlength).ge)
    intro id hid
    obtain ⟨row, hrow, rfl⟩ := List.mem_map.mp (hperm.mem_iff.mpr hid)
    obtain ⟨hmem, hchecks⟩ := List.mem_filter.mp hrow
    simp only [Bool.and_eq_true, decide_eq_true_eq] at hchecks
    rw [OutboxWorld.statusOf, Table.get_of_mem hmem, Option.map_some, hchecks.1.2]

/-- Rows that nobody writes between the checks of a requeue and its UPDATE are found
`dead_letter`. -/
theorem stepsFindTheirRows_of_requeue {c : OutboxConfig} {es : List OutboxCallEvent} {p : ℕ}
    {ids eligibleIds : List Uuid} {input input' : OutboxInput} (hp : c.pending p = none)
    (hchecked : assertEligibleDeadLetterIds ids c.world = .ok eligibleIds)
    (hkeeps : Keeps outboxCalls noEnv (fun w => eligibleIds.map w.statusOf)
      (Interleaving.step outboxCalls noEnv c (.invoke p (.requeueDeadLetters ids) input)) es)
    (hes : ∀ e ∈ es, e.caller? ≠ some p) :
    StepsFindTheirRows (run (Interleaving.step outboxCalls noEnv)
      (Interleaving.step outboxCalls noEnv c (.invoke p (.requeueDeadLetters ids) input)) es)
      (.resume p input') := by
  have hinvoke : invokeOutbox (.requeueDeadLetters ids) input c.world
      = (c.world, some (.requeue eligibleIds)) := by
    simp only [invokeOutbox, hchecked]
  refine hkeeps.resumeGuard hes fun l hl w hw => ?_
  rw [step_invoke hp] at hl hw
  dsimp only [outboxCalls] at hl hw
  rw [hinvoke, Function.update_self] at hl
  rw [hinvoke] at hw
  cases hl
  intro id hid
  rw [List.map_inj_left.mp hw id hid]
  exact statusOf_assertEligibleDeadLetterIds hchecked id hid

theorem outcomeKept_invoke (request : OutboxRequest) (input : OutboxInput) (w : OutboxWorld) :
    OutcomeKept w (invokeOutbox request input w).1 := by
  cases request with
  | enqueue id event =>
      simp only [invokeOutbox]
      split
      · refine OutcomeKept.of_rows [.enqueued id] ?_ rfl (by simp)
        intro id' row hrow _
        rw [Table.get_insert]
        split
        · next h => rw [h.1, h.2] at hrow; exact absurd hrow (by simp)
        · exact hrow
      · exact OutcomeKept.refl w
  | dispatchDueEvents workerId => exact outcomeKept_claimStep workerId input w
  | requeueDeadLetters ids =>
      simp only [invokeOutbox]
      split
      · exact OutcomeKept.refl w
      · exact OutcomeKept.refl w

theorem outcomeKept_requeue {w : OutboxWorld} {ids : List Uuid} {now : ℤ}
    (h : ∀ id ∈ ids, w.statusOf id = some .deadLetter) :
    OutcomeKept w
      { events := w.events.update (fun row => decide (row.id ∈ ids)) (requeued now)
          (requeued_id now)
        history := ids.map .requeued ++ w.history } := by
  constructor
  · intro id hid
    obtain ⟨row, hrow, hstatus⟩ := Option.map_eq_some_iff.mp hid
    have hnot : id ∉ ids := by
      intro hmem
      rw [h id hmem] at hid
      exact absurd hid (by simp)
    constructor
    · have hkey : row.id = id := Table.key_of_get hrow
      simp [OutboxWorld.statusOf, Table.get_update, hrow, hkey, hnot, hstatus]
    · have hnone : OutboxRecord.dispatched id ∉ ids.map OutboxRecord.requeued := by simp
      rw [OutboxWorld.dispatches, List.count_append, List.count_eq_zero_of_not_mem hnone,
        Nat.zero_add, OutboxWorld.dispatches]
  · intro id hid hsame
    have hnot : id ∉ ids := by
      intro hmem
      have hpos : 0 < (ids.map OutboxRecord.requeued).count (.requeued id) :=
        List.count_pos_iff.mpr (List.mem_map_of_mem hmem)
      simp only [OutboxWorld.requeues, List.count_append] at hsame
      omega
    obtain ⟨row, hrow, hstatus⟩ := Option.map_eq_some_iff.mp hid
    have hkey : row.id = id := Table.key_of_get hrow
    simp [OutboxWorld.statusOf, Table.get_update, hrow, hkey, hnot, hstatus]
  · intro id
    simp only [OutboxWorld.requeues, List.count_append]
    omega

theorem outcomeKept_resume {call : PendingOutboxCall} {input : OutboxInput} {w : OutboxWorld}
    (h : FindsItsRow w call input) : OutcomeKept w (resumeOutbox call input w).1 := by
  cases call with
  | claim workerId => exact outcomeKept_claimStep workerId input w
  | reload workerId claimedIds =>
      simp only [resumeOutbox]
      split
      · exact OutcomeKept.refl w
      · exact OutcomeKept.refl w
  | dispatch workerId event rest =>
      simp only [resumeOutbox, dispatchStep]
      split
      · exact OutcomeKept.refl w
      · split
        · refine OutcomeKept.of_rows _ (fun _ _ hrow _ => hrow) rfl ?_
          intro id hid hmem
          have heq : id = event.id := by
            cases hdispatched : input.dispatched <;> simpa [hdispatched] using hmem
          rw [heq, show w.statusOf event.id = some .processing from h] at hid
          exact absurd hid (by simp)
        · exact OutcomeKept.refl w
  | mark workerId event outcome rest =>
      simp only [resumeOutbox, markStep]
      split
      · exact outcomeKept_update h [] fun _ => List.not_mem_nil
      · exact OutcomeKept.refl w
      · split
        · split
          · exact outcomeKept_update h [.failed event.id] (by simp)
          · exact OutcomeKept.refl w
        · exact OutcomeKept.refl w
  | requeue ids => exact outcomeKept_requeue h

/-- The outline that asserts nothing: the outcomes are a relation between worlds. -/
theorem outbox_outline :
    Outline outboxCalls noEnv (fun _ _ _ => True) FindsItsRow (fun _ _ => True)
      (fun _ => True) (fun _ _ => True) := by
  constructor <;> intros <;> simp

/-- **Finished events stay finished.**  From any outbox, along any interleaving
of workers, producers and operators whose steps find their rows: a `delivered`
event stays `delivered` and is not dispatched again, and a `dead_letter` event
stays one until a requeue. -/
theorem terminal_statuses_absorbing (w : OutboxWorld) (es es' : List OutboxCallEvent)
    (h : Along (Interleaving.step outboxCalls noEnv) StepsFindTheirRows (Config.idle w)
      (es ++ es')) (id : Uuid) :
    ((outboxRun w es).world.statusOf id = some .delivered →
      (outboxRun w (es ++ es')).world.statusOf id = some .delivered ∧
        (outboxRun w (es ++ es')).world.dispatches id
          = (outboxRun w es).world.dispatches id) ∧
    ((outboxRun w es).world.statusOf id = some .deadLetter →
      (outboxRun w (es ++ es')).world.requeues id = (outboxRun w es).world.requeues id →
      (outboxRun w (es ++ es')).world.statusOf id = some .deadLetter) := by
  have hrest := (along_append.mp h).2
  have hgood : Good (fun _ => True) (fun _ _ => True) (outboxRun w es) :=
    ⟨trivial, fun _ _ _ => trivial⟩
  have hkept : OutcomeKept (outboxRun w es).world (outboxRun w (es ++ es')).world := by
    rw [outboxRun, outboxRun, run_append]
    exact outbox_outline.rel_run OutcomeKept.refl OutcomeKept.trans
      (fun _ _ => outcomeKept_invoke _ _ _) (fun _ _ hfinds => outcomeKept_resume hfinds)
      (fun {_ e} _ _ => e.elim) hgood hrest
  exact ⟨hkept.delivered id, hkept.deadLetter id⟩

/-- One event is enqueued, and a worker claims, reloads and dispatches it. -/
def firstDispatch (dispatched : Except String Unit) : List OutboxCallEvent :=
  [.invoke 0 (.enqueue "e1" { type := "task.updated", payload := .obj [] }) {},
    .invoke 1 (.dispatchDueEvents "worker-a") { now := 1000 },
    .resume 1 { now := 1001 },
    .resume 1 { now := 1002, dispatched := dispatched }]

/-- A delivery in one go, and two more timers after it. -/
theorem terminal_statuses_absorbing_one_worker :
    (outboxRun {} (firstDispatch (.ok ()) ++ [.resume 1 { now := 1003 }])).world.statusOf "e1"
        = some .delivered ∧
      (outboxRun {} (firstDispatch (.ok ()) ++ [.resume 1 { now := 1003 }] ++
        [.resume 1 { now := 1004 },
          .invoke 2 (.dispatchDueEvents "worker-b") { now := 500000 }])).world.statusOf "e1"
        = some .delivered := by
  have hbefore : (outboxRun {} (firstDispatch (.ok ()) ++
      [.resume 1 { now := 1003 }])).world.statusOf "e1" = some .delivered := by decide
  have hafter := (terminal_statuses_absorbing {}
    (firstDispatch (.ok ()) ++ [.resume 1 { now := 1003 }])
    [.resume 1 { now := 1004 }, .invoke 2 (.dispatchDueEvents "worker-b") { now := 500000 }]
    (by decide) "e1").1 hbefore
  exact ⟨hbefore, hafter.1⟩

/-- A second worker takes the event over after two minutes and delivers it. -/
def takenOver : List OutboxCallEvent :=
  firstDispatch (.error "publish timed out") ++
    [.invoke 2 (.dispatchDueEvents "worker-b") { now := 200000 },
      .resume 2 { now := 200001 },
      .resume 2 { now := 200002 },
      .resume 2 { now := 200003 }]

/-- The first worker's late record puts the delivered event back to `failed`, and
the event is dispatched a third time. -/
theorem delivered_event_resurrected :
    ¬ ∀ (w : OutboxWorld) (es es' : List OutboxCallEvent) (id : Uuid),
      (outboxRun w es).world.statusOf id = some .delivered →
        (outboxRun w (es ++ es')).world.statusOf id = some .delivered ∧
          (outboxRun w (es ++ es')).world.dispatches id
            = (outboxRun w es).world.dispatches id := by
  intro hall
  have hbefore : (outboxRun {} takenOver).world.statusOf "e1" = some .delivered := by decide
  obtain ⟨hstatus, hcount⟩ := hall {} takenOver
    [.resume 1 { now := 200100 },
      .invoke 3 (.dispatchDueEvents "worker-c") { now := 300000 },
      .resume 3 { now := 300001 },
      .resume 3 { now := 300002 }] "e1" hbefore
  revert hstatus
  decide

end OutboxService
