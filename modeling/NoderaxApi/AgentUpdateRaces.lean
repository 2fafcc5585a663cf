/-
# Sequential rollouts

The operations on rollouts, their database steps interleaved.  `createRollout` looks for
an open rollout long before it inserts its own, and `dispatchNextTarget` counts the active
targets, takes the next one and creates its task before it saves what it decided; nothing
holds the rows in between.

Each call remembers here what it counted.  Along the runs in which copies and counts are
current, agents report on targets that were dispatched, and no two dispatches have a task for
one target, at most one rollout is open, each rollout has at most one active target, and the
passages of targets from `pending` to an active status and the update tasks correspond one to
one.
-/
import NoderaxApi.AgentUpdateCopies

namespace AgentUpdatesService

open Interleaving KeyedTable Runs

variable {P : Type}

/-! ## What is claimed -/

/-- The target and the update task of a dispatch that has created its task and not yet
saved the target. -/
def heldTask : PendingUpdateCall → Option (Uuid × Uuid)
  | .dispatchSave _ target _ taskId _ => some (target.id, taskId)
  | _ => none

/-- The pending calls of a run. -/
abbrev UpdateConfig (P : Type) := Config P AgentUpdatesWorld PendingUpdateCall

/-- The task that a pending call holds. -/
def heldBy (c : UpdateConfig P) (p : P) : Option (Uuid × Uuid) := (c.pending p).bind heldTask

/-- At most one rollout is open, and at most one target of a rollout is active. -/
structure OneAtATime (w : AgentUpdatesWorld) : Prop where
  oneRollout : ∀ a ∈ w.rollouts.rows, ∀ b ∈ w.rollouts.rows, a.status.isOpen = true →
    b.status.isOpen = true → a.id = b.id
  oneActive : ∀ a ∈ w.targets.rows, ∀ b ∈ w.targets.rows, a.rolloutId = b.rolloutId →
    a.status.isActive = true → b.status.isActive = true → a.id = b.id

/-- Each passage has one task of its own, and each task one passage; only the task of a
dispatch that is still to save its target has none yet, and there is at most one such
dispatch for a target. -/
structure OneTaskEach (w : AgentUpdatesWorld) (held : P → Option (Uuid × Uuid)) : Prop where
  passageTask : ∀ passage ∈ w.passages, ∃ taskId, passage.2 = some taskId ∧
    (passage.1, taskId) ∈ w.tasks
  passageOnce : (w.passages.map Prod.snd).Nodup
  taskOnce : (w.tasks.map Prod.snd).Nodup
  taskPassage : ∀ task ∈ w.tasks, (task.1, some task.2) ∈ w.passages ∨ ∃ p, held p = some task
  heldUnsaved : ∀ p task, held p = some task →
    task ∈ w.tasks ∧ (task.1, some task.2) ∉ w.passages
  oneDispatch : ∀ p q a b, held p = some a → held q = some b → a.1 = b.1 → p = q

/-- **Sequential rollouts.** -/
structure Sequential (c : UpdateConfig P) : Prop where
  oneAtATime : OneAtATime c.world
  oneTaskEach : OneTaskEach c.world (heldBy c)

/-! ## What the operations have counted -/

/-- The count that an operation starts with: the open rollouts. -/
def countedFirst (request : UpdateRequest) (_ : UpdateInput) (w : AgentUpdatesWorld) : ℕ :=
  match request with
  | .createRollout .. => openCount w
  | _ => 0

/-- The last count of an operation, after a step. -/
def countedLast (counted : ℕ) (call : PendingUpdateCall) (_ : UpdateInput)
    (w : AgentUpdatesWorld) : ℕ :=
  match call with
  | .dispatchCount rollout _ => activeCount rollout.id w
  | _ => counted

/-- The operations, each with the count it has read last. -/
def countingCalls : Calls AgentUpdatesWorld UpdateRequest (PendingUpdateCall × ℕ) UpdateInput :=
  updateCalls.remembering countedFirst countedLast

/-- The pending calls of a run, with their counts. -/
abbrev CountingConfig (P : Type) := Config P AgentUpdatesWorld (PendingUpdateCall × ℕ)

/-- What an operation has found out of its counts, and of the target of a report. -/
def Counted : PendingUpdateCall × ℕ → Prop
  | (.createNodes .., counted) | (.dispatchNext .., counted) | (.dispatchNode .., counted)
  | (.dispatchTask .., counted) | (.dispatchSave .., counted) => counted = 0
  | (.progressRollout target _, _) | (.progressSave _ target _, _) => target.status ≠ .pending
  | _ => True

/-! ## The condition -/

/-- The creation of a task does not throw once the task is there. -/
def CreationOk : QueueOutcome → Prop
  | .failedAfterInsert _ _ => False
  | .refused _ | .queued _ => True

instance (queue : QueueOutcome) : Decidable (CreationOk queue) := by
  cases queue <;> unfold CreationOk <;> infer_instance

/-- **The counts are current**: a rollout is inserted, and a dispatched target saved, while
the count that allowed it is what it was; the target is still as it was loaded. -/
def CountsCurrent (w : AgentUpdatesWorld) : PendingUpdateCall × ℕ → UpdateInput → Prop
  | (.createNodes _ _ [] _, counted), _ => openCount w = counted
  | (.dispatchSave rollout target _ _ _, counted), _ =>
      activeCount rollout.id w = counted ∧ TargetAsLoaded w target
  | (.dispatchTask .., _), input => CreationOk input.queue
  | _, _ => True

/-- An agent reports on a target that has been dispatched. -/
def ReportsLater (w : AgentUpdatesWorld) : UpdateRequest → UpdateInput → Prop
  | .handleAgentProgress targetId _ _, _ =>
      ∀ target ∈ w.targets.get targetId, target.status ≠ .pending
  | _, _ => True

/-- The target that a step creates a task for. -/
def createsTaskFor : PendingUpdateCall → UpdateInput → Option Uuid
  | .dispatchTask _ target _ _, input =>
      match input.queue with
      | .queued _ => some target.id
      | .refused _ | .failedAfterInsert _ _ => none
  | _, _ => none

/-- **Creations are apart**: no task is created for a target while another dispatch has one
that it has not saved on the target. -/
def CreationsApart (c : CountingConfig P) : Event P UpdateRequest UpdateInput UpdateEnv → Prop
  | .resume p input => ∀ call ∈ c.pending p, ∀ targetId ∈ createsTaskFor call.1 input,
      ∀ q, q ≠ p → ∀ task ∈ heldBy c.forget q, task.1 ≠ targetId
  | _ => True

variable [DecidableEq P]

/-- **What an operation loaded and counted still holds** when it writes. -/
def UpdateGuard (c : CountingConfig P) (e : Event P UpdateRequest UpdateInput UpdateEnv) : Prop :=
  Guard ReportsLater
    (fun w call input => CopiesCurrent w call.1 input ∧ CountsCurrent w call input)
    (fun _ _ => True) c e ∧ CreationsApart c e

instance (w : AgentUpdatesWorld) (call : PendingUpdateCall × ℕ) (input : UpdateInput) :
    Decidable (CountsCurrent w call input) := by
  unfold CountsCurrent
  split <;> infer_instance

instance (w : AgentUpdatesWorld) (request : UpdateRequest) (input : UpdateInput) :
    Decidable (ReportsLater w request input) :=
  match request with
  | .handleAgentProgress targetId _ _ =>
      inferInstanceAs (Decidable (∀ target ∈ w.targets.get targetId, target.status ≠ .pending))
  | .createRollout _ _ | .resumeRollout _ | .cancelRollout _ | .retryTarget _ _ | .skipTarget _ _
  | .observeNodeVersion _ | .reconcileActiveTargets => .isTrue trivial

instance {n : ℕ} (c : CountingConfig (Fin n))
    (e : Event (Fin n) UpdateRequest UpdateInput UpdateEnv) : Decidable (CreationsApart c e) := by
  unfold CreationsApart
  split <;> infer_instance

instance {n : ℕ} (c : CountingConfig (Fin n))
    (e : Event (Fin n) UpdateRequest UpdateInput UpdateEnv) : Decidable (UpdateGuard c e) := by
  unfold UpdateGuard
  infer_instance

/-! ## Every operation counts before it writes -/

variable {w w' : AgentUpdatesWorld} {counted : ℕ}

theorem counted_continueLoop (loop : Option ReconcileLoop) :
    ∀ call ∈ continueLoop loop, Counted (call, counted) := by
  intro call hcall
  obtain ⟨rest, -, rfl⟩ := Option.map_eq_some_iff.mp hcall
  exact True.intro

theorem counted_recorded (loop : Option ReconcileLoop) (recordError : Bool) :
    ∀ call ∈ (if recordError then none else continueLoop loop), Counted (call, counted) := by
  intro call hcall
  split at hcall
  · cases hcall
  · exact counted_continueLoop loop call hcall

/-- The first count of an operation. -/
theorem counted_invoke {request : UpdateRequest} {input : UpdateInput}
    (hreports : ReportsLater w request input) :
    ∀ call ∈ (invokeUpdate request input w).2, Counted (call, countedFirst request input w) := by
  fun_cases invokeUpdate request input w
  all_goals intro call hcall
  all_goals first
    | cases hcall; done
    | (obtain rfl := Option.some.inj hcall; exact True.intro)
    | skip
  · next hnone =>
      obtain rfl := Option.some.inj hcall
      exact Nat.eq_zero_of_not_pos hnone
  · next target hget =>
      obtain rfl := Option.some.inj hcall
      exact hreports target hget

/-- The node lookups keep the count of the open rollouts. -/
theorem counted_createNodes {version : String} {rollback : Bool} {nodeIds : List Uuid}
    {nodes : List UpdatableNode} {input : UpdateInput} (h : counted = 0) :
    ∀ next ∈ (createNodesStep version rollback nodeIds nodes input w).2,
      Counted (next, counted) := by
  fun_cases createNodesStep version rollback nodeIds nodes input w
  all_goals intro next hnext
  all_goals first
    | cases hnext; done
    | (obtain rfl := Option.some.inj hnext; exact True.intro)
    | (obtain rfl := Option.some.inj hnext; exact h)

/-- The creation of a task keeps the count of the active targets. -/
theorem counted_dispatchTask {rollout : AgentUpdateRolloutEntity}
    {target : AgentUpdateRolloutTargetEntity} {node : UpdatableNode} {loop : Option ReconcileLoop}
    {input : UpdateInput} (h : counted = 0) :
    ∀ next ∈ (dispatchTaskStep rollout target node loop input w).2, Counted (next, counted) := by
  fun_cases dispatchTaskStep rollout target node loop input w
  all_goals intro next hnext
  all_goals first
    | cases hnext; done
    | (obtain rfl := Option.some.inj hnext; exact h)

/-- The other steps hand on nothing that was counted. -/
theorem counted_createTargets {rollout : AgentUpdateRolloutEntity} {nodes : List UpdatableNode}
    {input : UpdateInput} :
    ∀ next ∈ (createTargetsStep rollout nodes input w).2, Counted (next, counted) := by
  fun_cases createTargetsStep rollout nodes input w
  all_goals intro next hnext
  all_goals (obtain rfl := Option.some.inj hnext; exact True.intro)

theorem counted_progressEnd (target : AgentUpdateRolloutTargetEntity)
    (dto : ReportAgentUpdateProgressDto) :
    ∀ next ∈ progressEnd target dto, Counted (next, counted) := by
  unfold progressEnd
  intro next hnext
  split at hnext
  · obtain rfl := Option.some.inj hnext
    exact True.intro
  · cases hnext

theorem counted_progressSave {rollout : AgentUpdateRolloutEntity}
    {target : AgentUpdateRolloutTargetEntity} {dto : ReportAgentUpdateProgressDto}
    {input : UpdateInput} :
    ∀ next ∈ (progressSaveStep rollout target dto input w).2, Counted (next, counted) := by
  simp only [progressSaveStep]
  intro next hnext
  split at hnext
  · obtain rfl := Option.some.inj hnext
    exact True.intro
  · split at hnext
    · obtain rfl := Option.some.inj hnext
      exact True.intro
    · exact counted_progressEnd _ dto next hnext

theorem counted_reconcile {loop : ReconcileLoop} :
    ∀ next ∈ (reconcileStep loop w).2, Counted (next, counted) := by
  fun_cases reconcileStep loop w
  all_goals intro next hnext
  all_goals first
    | cases hnext; done
    | (obtain rfl := Option.some.inj hnext; exact True.intro)

theorem counted_reconcileRollout {target : AgentUpdateRolloutTargetEntity} {loop : ReconcileLoop}
    {input : UpdateInput} :
    ∀ next ∈ (reconcileRolloutStep target loop input w).2, Counted (next, counted) := by
  fun_cases reconcileRolloutStep target loop input w
  all_goals intro next hnext
  all_goals first
    | cases hnext; done
    | (obtain rfl := Option.some.inj hnext; exact True.intro)

/-- **The count of an operation after a step.** -/
theorem counted_resume {call : PendingUpdateCall} {input : UpdateInput}
    (h : Counted (call, counted)) :
    ∀ next ∈ (resumeUpdate call input w).2, Counted (next, countedLast counted call input w) := by
  fun_cases resumeUpdate call input w
  all_goals first
    | exact counted_createNodes h
    | exact counted_createTargets
    | exact counted_dispatchTask h
    | exact counted_progressEnd _ _
    | exact counted_progressSave
    | exact counted_reconcile
    | exact counted_reconcileRollout
    | exact counted_recorded _ _
    | skip
  all_goals intro next hnext
  all_goals first
    | exact counted_continueLoop _ next hnext
    | cases hnext; done
    | (obtain rfl := Option.some.inj hnext; exact True.intro)
    | (obtain rfl := Option.some.inj hnext; exact h)
    | skip
  · next hnone =>
      obtain rfl := Option.some.inj hnext
      exact Nat.eq_zero_of_not_pos hnone
  · simp only at hnext
    split at hnext
    · obtain rfl := Option.some.inj hnext
      exact True.intro
    · exact counted_recorded _ _ next hnext

/-! ## What a step writes -/

/-- No other target of the same rollout is active. -/
def OthersInactive (w : AgentUpdatesWorld) (targetId : Uuid) : Prop :=
  ∀ row ∈ w.targets.get targetId, ∀ other ∈ targetsOf row.rolloutId w, other.id ≠ targetId →
    other.status.isActive = false

/-- A step that creates no task and dispatches no target; an open rollout replaces an open
one. -/
inductive PlainMove (w : AgentUpdatesWorld) : AgentUpdatesWorld → Prop
  | nothing : PlainMove w w
  | rolloutInserted (rollout : AgentUpdateRolloutEntity) (hnone : openCount w = 0) :
      PlainMove w { w with rollouts := w.rollouts.insert rollout }
  | targetsInserted (targets : List AgentUpdateRolloutTargetEntity)
      (hpending : ∀ target ∈ targets, target.status = .pending) :
      PlainMove w { w with targets := targets.foldl Table.insert w.targets }
  | rolloutSaved (copy : AgentUpdateRolloutEntity)
      (hopen : copy.status.isOpen = true →
        ∀ row, w.rollouts.get copy.id = some row → row.status.isOpen = true) :
      PlainMove w (saveRollout copy w)
  | targetSaved (now : ℤ) (copy : AgentUpdateRolloutTargetEntity)
      (hactive : copy.status.isActive = true →
        w.targetStatus copy.id ≠ some .pending ∧ OthersInactive w copy.id) :
      PlainMove w (saveTarget now copy w)

/-- What a step of a call writes, with the task the call holds before and after it. -/
inductive UpdateMove (w : AgentUpdatesWorld) :
    Option (Uuid × Uuid) → AgentUpdatesWorld → Option (Uuid × Uuid) → Prop
  | plain {w' : AgentUpdatesWorld} (hmove : PlainMove w w') : UpdateMove w none w' none
  | taskCreated (targetId taskId : Uuid) (hfresh : taskId ∉ w.tasks.map Prod.snd)
      (hsaved : ∀ task ∈ w.tasks, task.1 = targetId → (task.1, some task.2) ∈ w.passages) :
      UpdateMove w none { w with tasks := (targetId, taskId) :: w.tasks } (some (targetId, taskId))
  | dispatched (now : ℤ) (copy : AgentUpdateRolloutTargetEntity) (taskId : Uuid)
      (htask : copy.taskId = some taskId) (hactive : copy.status.isActive = true)
      (hpending : w.targetStatus copy.id = some .pending) (hothers : OthersInactive w copy.id) :
      UpdateMove w (some (copy.id, taskId)) (saveTarget now copy w) none

/-- The result of a step as a move. -/
abbrev StepMoves (w : AgentUpdatesWorld) (held : Option (Uuid × Uuid)) (next : UpdateStep) : Prop :=
  UpdateMove w held next.1 (next.2.bind heldTask)

/-- A call without a task returns, or the loop it was made from goes on. -/
theorem stepMoves_continueLoop (loop : Option ReconcileLoop) (hmove : PlainMove w w') :
    StepMoves w none (w', continueLoop loop) := by
  cases loop with
  | none => exact .plain hmove
  | some l => exact .plain hmove

/-- The end of a call whose last record may throw. -/
theorem stepMoves_recorded (loop : Option ReconcileLoop) (recordError : Bool)
    (hmove : PlainMove w w') :
    StepMoves w none (w', if recordError then none else continueLoop loop) := by
  cases recordError with
  | true => exact .plain hmove
  | false => exact stepMoves_continueLoop loop hmove

/-- The save of a copy that is not active. -/
theorem plainMove_inactive (now : ℤ) {copy : AgentUpdateRolloutTargetEntity}
    (h : copy.status.isActive = false) : PlainMove w (saveTarget now copy w) :=
  .targetSaved now copy fun hactive => absurd hactive (by simp [h])

/-- The save of a rollout that ends it. -/
theorem plainMove_closed {copy : AgentUpdateRolloutEntity} (h : copy.status.isOpen = false) :
    PlainMove w (saveRollout copy w) :=
  .rolloutSaved copy fun hopen => absurd hopen (by simp [h])

/-- The save of an open copy that is current. -/
theorem plainMove_current {loaded copy : AgentUpdateRolloutEntity}
    (hcurrent : RolloutAsLoaded w loaded) (hopen : loaded.status.isOpen = true)
    (hid : copy.id = loaded.id) : PlainMove w (saveRollout copy w) := by
  refine .rolloutSaved copy fun _ row hrow => ?_
  rw [hid] at hrow
  exact hcurrent.isOpen hopen hrow

/-- The first step of an operation writes nothing. -/
theorem invoke_move (request : UpdateRequest) (input : UpdateInput) (w : AgentUpdatesWorld) :
    StepMoves w none (invokeUpdate request input w) := by
  cases request with
  | createRollout nodeIds rollback =>
      simp only [invokeUpdate]
      split
      · split
        · exact .plain .nothing
        · exact .plain .nothing
      · exact .plain .nothing
  | resumeRollout rolloutId | cancelRollout rolloutId | retryTarget rolloutId targetId
  | skipTarget rolloutId targetId =>
      simp only [invokeUpdate]
      split
      · exact .plain .nothing
      · split
        · exact .plain .nothing
        · exact .plain .nothing
  | handleAgentProgress targetId dto agentNodeId =>
      simp only [invokeUpdate]
      split
      · exact .plain .nothing
      · split
        · exact .plain .nothing
        · exact .plain .nothing
  | observeNodeVersion nodeId =>
      simp only [invokeUpdate]
      split
      · exact .plain .nothing
      · exact .plain .nothing
  | reconcileActiveTargets => exact .plain .nothing

/-- What is known of a step: what the operation has found out, that it is current, and that
the earlier tasks of a target are saved when it gets another one. -/
structure Ready (w : AgentUpdatesWorld) (call : PendingUpdateCall × ℕ) (input : UpdateInput) :
    Prop where
  oneAtATime : OneAtATime w
  checked : Checked w call.1
  counted : Counted call
  current : CopiesCurrent w call.1 input
  counts : CountsCurrent w call input
  saved : ∀ targetId ∈ createsTaskFor call.1 input, ∀ task ∈ w.tasks, task.1 = targetId →
    (task.1, some task.2) ∈ w.passages

/-- The steps of `createRollout`. -/
theorem createNodes_move {version : String} {rollback : Bool} {nodeIds : List Uuid}
    {nodes : List UpdatableNode} {input : UpdateInput}
    (hnone : nodeIds = [] → openCount w = 0) :
    StepMoves w none (createNodesStep version rollback nodeIds nodes input w) := by
  unfold createNodesStep
  cases nodeIds with
  | cons nodeId rest =>
      simp only
      split
      · exact .plain .nothing
      · exact .plain .nothing
  | nil =>
      simp only
      split
      · exact .plain (.rolloutInserted _ (hnone rfl))
      · exact .plain .nothing

theorem createTargets_move (rollout : AgentUpdateRolloutEntity) (nodes : List UpdatableNode)
    (input : UpdateInput) (w : AgentUpdatesWorld) :
    StepMoves w none (createTargetsStep rollout nodes input w) := by
  unfold createTargetsStep
  simp only
  split
  · refine .plain (.targetsInserted _ fun target htarget => ?_)
    obtain ⟨node, -, rfl⟩ := List.mem_map.mp htarget
    rfl
  · exact .plain .nothing

/-- The creation of an update task. -/
theorem dispatchTask_move {rollout : AgentUpdateRolloutEntity}
    {target : AgentUpdateRolloutTargetEntity} {node : UpdatableNode} {loop : Option ReconcileLoop}
    {input : UpdateInput} (h : Ready w (.dispatchTask rollout target node loop, counted) input) :
    StepMoves w none (dispatchTaskStep rollout target node loop input w) := by
  unfold dispatchTaskStep
  split
  · exact .plain .nothing
  · next hqueue =>
      have hok : CreationOk input.queue := h.counts
      rw [hqueue] at hok
      exact hok.elim
  · next taskId hqueue =>
      split
      · exact .plain .nothing
      · next hfresh =>
          have hcreates :
              target.id ∈ createsTaskFor (.dispatchTask rollout target node loop) input := by
            simp only [createsTaskFor, hqueue]
            rfl
          exact .taskCreated target.id taskId hfresh (h.saved target.id hcreates)

/-- A target that a dispatch saves is pending, and no other one of its rollout is active. -/
theorem dispatchSave_move {rollout : AgentUpdateRolloutEntity}
    {target : AgentUpdateRolloutTargetEntity} {node : UpdatableNode} {taskId : Uuid}
    {loop : Option ReconcileLoop} {input : UpdateInput}
    (h : Ready w (.dispatchSave rollout target node taskId loop, counted) input) :
    StepMoves w (some (target.id, taskId))
      (resumeUpdate (.dispatchSave rollout target node taskId loop) input w) := by
  obtain ⟨-, ⟨row, hrow, hof⟩, hpending⟩ := h.checked
  obtain ⟨hcount, htarget⟩ := h.counts
  have hzero : counted = 0 := h.counted
  rw [hzero] at hcount
  refine .dispatched input.now (dispatchedTarget input.now target node taskId) taskId rfl rfl ?_ ?_
  · show (w.targets.get target.id).map (·.status) = some .pending
    rw [hrow, Option.map_some, htarget row hrow, hpending]
  · intro row' hrow' other hother _
    have hsame : row' = row := Option.some.inj (hrow'.symm.trans hrow)
    rw [hsame, hof] at hother
    exact activeCount_eq_zero.mp hcount other hother

/-- A report is saved onto a target that is active, as when it was loaded. -/
theorem progressSave_move {rollout : AgentUpdateRolloutEntity}
    {target : AgentUpdateRolloutTargetEntity} {dto : ReportAgentUpdateProgressDto}
    {input : UpdateInput} (h : Ready w (.progressSave rollout target dto, counted) input) :
    StepMoves w none (progressSaveStep rollout target dto input w) := by
  have hcurrent : TargetAsLoaded w target := h.current
  have hactive : target.status.isActive = true :=
    (AgentUpdateTargetStatus.isActive_iff _).mpr ⟨h.counted, h.checked.1⟩
  have hmove : PlainMove w (saveTarget input.now (progressedTarget input.now target dto) w) := by
    refine .targetSaved input.now (progressedTarget input.now target dto) fun _ => ⟨?_, ?_⟩
    · intro hpending
      obtain ⟨row, hrow, hstatus⟩ := Option.map_eq_some_iff.mp hpending
      rw [hcurrent row hrow] at hstatus
      rw [hstatus] at hactive
      exact absurd hactive (by decide)
    · intro row hrow other hother hne
      obtain ⟨hmem, hof⟩ := mem_targetsOf.mp hother
      have hrowActive : row.status.isActive = true := by
        rw [hcurrent row hrow]
        exact hactive
      by_contra hotherActive
      rw [Bool.not_eq_false] at hotherActive
      have hid : other.id = row.id := h.oneAtATime.oneActive other hmem row (Table.mem_of_get hrow)
        hof hotherActive hrowActive
      exact hne (hid.trans (Table.key_of_get hrow))
  unfold progressSaveStep progressEnd
  simp only
  split
  · exact .plain hmove
  · split
    · exact .plain hmove
    · split
      · exact .plain hmove
      · exact .plain hmove

/-- The steps of the loop of `reconcileActiveTargets`. -/
theorem reconcile_move (loop : ReconcileLoop) (w : AgentUpdatesWorld) :
    StepMoves w none (reconcileStep loop w) := by
  unfold reconcileStep
  split
  · exact .plain .nothing
  · simp only
    split
    · exact .plain .nothing
    · split
      · exact .plain .nothing
      · exact .plain .nothing

theorem reconcileRollout_move (target : AgentUpdateRolloutTargetEntity) (loop : ReconcileLoop)
    (input : UpdateInput) (w : AgentUpdatesWorld) :
    StepMoves w none (reconcileRolloutStep target loop input w) := by
  unfold reconcileRolloutStep
  split
  · exact .plain .nothing
  · split
    · exact .plain .nothing
    · split
      · exact .plain .nothing
      · exact .plain .nothing

/-- A target that is cancelled is not active. -/
theorem cancelTargets_move (cancelledAt : ℤ) (remaining : List AgentUpdateRolloutTargetEntity)
    (input : UpdateInput) (w : AgentUpdatesWorld) :
    StepMoves w none (resumeUpdate (.cancelTargets cancelledAt remaining) input w) := by
  cases remaining with
  | nil => exact .plain .nothing
  | cons target rest =>
      simp only [resumeUpdate]
      split
      · exact .plain .nothing
      · next copy hcopy =>
          have hinactive : copy.status.isActive = false := by
            rw [(cancelledTarget_some hcopy).2]
            rfl
          exact .plain (plainMove_inactive input.now hinactive)

/-- **What a step writes** of an operation that is ready. -/
theorem resume_move {call : PendingUpdateCall} {input : UpdateInput}
    (h : Ready w (call, counted) input) :
    StepMoves w (heldTask call) (resumeUpdate call input w) := by
  have hchecked := h.checked
  have hcurrent := h.current
  cases call with
  | createNodes version rollback nodeIds nodes =>
      refine createNodes_move fun hlast => ?_
      have hzero : counted = 0 := h.counted
      have hcount := h.counts
      rw [hlast] at hcount
      exact hcount.trans hzero
  | createTargets rollout nodes => exact createTargets_move rollout nodes input w
  | createStart rollout count =>
      simp only [resumeUpdate]
      split
      · exact .plain .nothing
      · next hrecord =>
          have hasLoaded := hcurrent (Bool.eq_false_iff.mpr hrecord)
          exact .plain (plainMove_current hasLoaded hchecked rfl)
  | dispatch rolloutId loop =>
      simp only [resumeUpdate]
      split
      · exact .plain .nothing
      · split
        · exact stepMoves_continueLoop loop .nothing
        · exact .plain .nothing
  | dispatchCount rollout loop =>
      simp only [resumeUpdate]
      split
      · exact stepMoves_continueLoop loop .nothing
      · exact .plain .nothing
  | dispatchNext rollout loop =>
      simp only [resumeUpdate]
      split
      · exact .plain .nothing
      · exact .plain .nothing
  | dispatchComplete rollout loop => exact stepMoves_continueLoop loop (plainMove_closed rfl)
  | dispatchNode rollout target loop =>
      simp only [resumeUpdate]
      split
      · exact .plain .nothing
      · exact .plain .nothing
  | dispatchTask rollout target node loop => exact dispatchTask_move h
  | dispatchSave rollout target node taskId loop => exact dispatchSave_move h
  | dispatchRunning rollout node loop =>
      exact stepMoves_recorded loop input.recordError (plainMove_current hcurrent hchecked rfl)
  | pauseTarget rollout target message loop =>
      exact .plain (plainMove_inactive input.now rfl)
  | pauseRollout rollout message loop =>
      exact stepMoves_recorded loop input.recordError (plainMove_current hcurrent hchecked rfl)
  | resumeCount rollout =>
      simp only [resumeUpdate]
      split
      · exact .plain .nothing
      · exact .plain .nothing
  | startRollout rollout message => exact .plain (plainMove_current hcurrent hchecked rfl)
  | startDispatch rolloutId =>
      simp only [resumeUpdate]
      split
      · exact .plain .nothing
      · exact .plain .nothing
  | findFailed rollout targetId retry =>
      simp only [resumeUpdate]
      split
      · exact .plain .nothing
      · split
        · exact .plain .nothing
        · split
          · exact .plain .nothing
          · exact .plain .nothing
  | saveRetried rollout target => exact .plain (plainMove_inactive input.now rfl)
  | saveSkipped rollout target => exact .plain (plainMove_inactive input.now rfl)
  | cancelSave rollout cancelledAt => exact .plain (plainMove_closed rfl)
  | cancelFind rolloutId cancelledAt => exact .plain .nothing
  | cancelTargets cancelledAt remaining =>
      exact cancelTargets_move cancelledAt remaining input w
  | progressRollout target dto =>
      simp only [resumeUpdate]
      split
      · exact .plain .nothing
      · split
        · exact .plain .nothing
        · exact .plain .nothing
  | progressSave rollout target dto => exact progressSave_move h
  | progressMessage rollout target dto =>
      -- the message is saved with the status that was loaded
      have hmove : PlainMove w (saveRollout { rollout with
          statusMessage := some (dto.message.getD
            s!"{target.nodeNameSnapshot} is {dto.status.words}.") } w) :=
        .rolloutSaved _ fun hopen row hrow => hcurrent.isOpen hopen hrow
      simp only [resumeUpdate, progressEnd]
      split
      · exact .plain hmove
      · exact .plain hmove
  | progressNode target =>
      simp only [resumeUpdate]
      split
      · exact .plain .nothing
      · split
        · exact .plain .nothing
        · exact .plain .nothing
  | observe nodeId agentVersion loop =>
      simp only [resumeUpdate]
      split
      · split
        · exact .plain .nothing
        · exact stepMoves_continueLoop loop .nothing
      · exact stepMoves_continueLoop loop .nothing
  | observeRollout target agentVersion loop =>
      simp only [resumeUpdate]
      split
      · exact .plain .nothing
      · exact .plain .nothing
  | observeSave rollout target agentVersion loop =>
      have hmove : PlainMove w
          (saveTarget input.now (completedTarget input.now target agentVersion) w) :=
        plainMove_inactive input.now rfl
      simp only [resumeUpdate]
      split
      · exact .plain hmove
      · exact stepMoves_recorded loop input.recordError hmove
  | observeDispatch rolloutId loop =>
      simp only [resumeUpdate]
      split
      · exact .plain .nothing
      · exact .plain .nothing
  | reconcileTasks now targets => exact .plain .nothing
  | reconcile loop => exact reconcile_move loop w
  | reconcileRollout target loop => exact reconcileRollout_move target loop input w

/-! ## One rollout and one target at a time -/

/-- The save of a target, if no other target of its rollout is active. -/
theorem OneAtATime.saveTarget {now : ℤ} {copy : AgentUpdateRolloutTargetEntity}
    (h : OneAtATime w) (hothers : copy.status.isActive = true → OthersInactive w copy.id) :
    OneAtATime (saveTarget now copy w) := by
  refine ⟨h.oneRollout, ?_⟩
  -- an active row that is not the saved one excludes an active copy
  have hclash : ∀ other ∈ w.targets.rows, other.id ≠ copy.id → other.status.isActive = true →
      ∀ row ∈ w.targets.rows, row.id = copy.id → row.rolloutId = other.rolloutId →
        (copy.savedOver now row).status.isActive = false := by
    intro other hother hne hactive row hrow hid hrollout
    rw [AgentUpdateRolloutTargetEntity.savedOver_status]
    by_contra hcopy
    have hget : w.targets.get copy.id = some row := by
      rw [← hid]
      exact Table.get_of_mem hrow
    have hinactive := hothers (by simpa using hcopy) row hget other
      (mem_targetsOf.mpr ⟨hother, hrollout.symm⟩) hne
    exact absurd hactive (by simp [hinactive])
  intro a ha b hb hsame haActive hbActive
  simp only [AgentUpdatesService.saveTarget] at ha hb
  rcases Table.mem_update ha with ⟨haOld, haNe⟩ | ⟨row, hrow, hrowId, rfl⟩
  · rcases Table.mem_update hb with ⟨hbOld, -⟩ | ⟨row', hrow', hrowId', rfl⟩
    · exact h.oneActive a haOld b hbOld hsame haActive hbActive
    · rw [AgentUpdateRolloutTargetEntity.savedOver_rolloutId] at hsame
      have hinactive := hclash a haOld (of_decide_eq_false haNe) haActive row' hrow'
        (of_decide_eq_true hrowId') hsame.symm
      exact absurd hbActive (by simp [hinactive])
  · rcases Table.mem_update hb with ⟨hbOld, hbNe⟩ | ⟨row', hrow', hrowId', rfl⟩
    · rw [AgentUpdateRolloutTargetEntity.savedOver_rolloutId] at hsame
      have hinactive := hclash b hbOld (of_decide_eq_false hbNe) hbActive row hrow
        (of_decide_eq_true hrowId) hsame
      exact absurd haActive (by simp [hinactive])
    · rw [AgentUpdateRolloutTargetEntity.savedOver_id, AgentUpdateRolloutTargetEntity.savedOver_id]
      exact (of_decide_eq_true hrowId).trans (of_decide_eq_true hrowId').symm

/-- The insertion of a rollout while none is open. -/
theorem OneAtATime.insertRollout {rollout : AgentUpdateRolloutEntity} (h : OneAtATime w)
    (hnone : openCount w = 0) : OneAtATime { w with rollouts := w.rollouts.insert rollout } := by
  refine ⟨?_, h.oneActive⟩
  have hnew : ∀ a ∈ (w.rollouts.insert rollout).rows, a.status.isOpen = true → a = rollout := by
    intro a ha hopen
    rcases Table.mem_insert ha with hold | ⟨rfl, -⟩
    · exact absurd hopen (by simp [openCount_eq_zero.mp hnone a hold])
    · rfl
  intro a ha b hb haOpen hbOpen
  rw [hnew a ha haOpen, hnew b hb hbOpen]

/-- The save of a rollout that is open only if the row is. -/
theorem OneAtATime.saveRollout {copy : AgentUpdateRolloutEntity} (h : OneAtATime w)
    (hopen : copy.status.isOpen = true →
      ∀ row, w.rollouts.get copy.id = some row → row.status.isOpen = true) :
    OneAtATime (saveRollout copy w) := by
  refine ⟨?_, h.oneActive⟩
  have hback : ∀ rollout ∈ (AgentUpdatesService.saveRollout copy w).rollouts.rows,
      rollout.status.isOpen = true →
        ∃ old ∈ w.rollouts.rows, old.id = rollout.id ∧ old.status.isOpen = true := by
    intro rollout hrollout hrolloutOpen
    simp only [AgentUpdatesService.saveRollout] at hrollout
    rcases Table.mem_update hrollout with ⟨hold, -⟩ | ⟨row, hrow, hid, rfl⟩
    · exact ⟨rollout, hold, rfl, hrolloutOpen⟩
    · have hget : w.rollouts.get copy.id = some row := by
        rw [← of_decide_eq_true hid]
        exact Table.get_of_mem hrow
      exact ⟨row, hrow, rfl, hopen hrolloutOpen row hget⟩
  intro a ha b hb haOpen hbOpen
  obtain ⟨a', ha', haId, haOpen'⟩ := hback a ha haOpen
  obtain ⟨b', hb', hbId, hbOpen'⟩ := hback b hb hbOpen
  rw [← haId, ← hbId]
  exact h.oneRollout a' ha' b' hb' haOpen' hbOpen'

/-- The insertion of pending targets. -/
theorem OneAtATime.insertTargets {targets : List AgentUpdateRolloutTargetEntity}
    (h : OneAtATime w) (hpending : ∀ target ∈ targets, target.status = .pending) :
    OneAtATime { w with targets := targets.foldl Table.insert w.targets } := by
  refine ⟨h.oneRollout, ?_⟩
  have hold : ∀ a ∈ (targets.foldl Table.insert w.targets).rows, a.status.isActive = true →
      a ∈ w.targets.rows := by
    intro a ha hactive
    rcases Table.mem_foldl_insert ha with hmem | hmem
    · exact hmem
    · exact absurd hactive (by simp [hpending a hmem, AgentUpdateTargetStatus.isActive])
  intro a ha b hb hsame haActive hbActive
  exact h.oneActive a (hold a ha haActive) b (hold b hb hbActive) hsame haActive hbActive

theorem PlainMove.oneAtATime (hmove : PlainMove w w') (h : OneAtATime w) : OneAtATime w' := by
  cases hmove with
  | nothing => exact h
  | rolloutInserted rollout hnone => exact h.insertRollout hnone
  | targetsInserted targets hpending => exact h.insertTargets hpending
  | rolloutSaved copy hothers => exact h.saveRollout hothers
  | targetSaved now copy hactive => exact h.saveTarget fun hcopy => (hactive hcopy).2

/-! ## One task for each passage -/

/-- Plain moves leave the tasks and the passages alone. -/
theorem PlainMove.ledger (hmove : PlainMove w w') :
    w'.tasks = w.tasks ∧ w'.passages = w.passages := by
  cases hmove with
  | nothing => exact ⟨rfl, rfl⟩
  | rolloutInserted rollout hnone => exact ⟨rfl, rfl⟩
  | targetsInserted targets hpending => exact ⟨rfl, rfl⟩
  | rolloutSaved copy hothers => exact ⟨rfl, rfl⟩
  | targetSaved now copy hactive =>
      refine ⟨rfl, ?_⟩
      simp only [saveTarget]
      rw [if_neg]
      rintro ⟨hpending, hcopy⟩
      exact (hactive hcopy).1 hpending

variable {held : P → Option (Uuid × Uuid)} {p : P}

omit [DecidableEq P] in
/-- The tasks and the passages are all that matters. -/
theorem OneTaskEach.of_ledger (h : OneTaskEach w held) (htasks : w'.tasks = w.tasks)
    (hpassages : w'.passages = w.passages) : OneTaskEach w' held := by
  refine ⟨?_, ?_, ?_, ?_, ?_, h.oneDispatch⟩
  · rw [htasks, hpassages]
    exact h.passageTask
  · rw [hpassages]
    exact h.passageOnce
  · rw [htasks]
    exact h.taskOnce
  · rw [htasks, hpassages]
    exact h.taskPassage
  · rw [htasks, hpassages]
    exact h.heldUnsaved

omit [DecidableEq P] in
/-- Two created tasks with one id are one task. -/
theorem OneTaskEach.task_eq (h : OneTaskEach w held) {a b : Uuid × Uuid} (ha : a ∈ w.tasks)
    (hb : b ∈ w.tasks) (hid : a.2 = b.2) : a = b :=
  List.inj_on_of_nodup_map h.taskOnce ha hb hid

/-- A call creates a task. -/
theorem OneTaskEach.created {targetId taskId : Uuid} (h : OneTaskEach w held)
    (hp : held p = none) (hfresh : taskId ∉ w.tasks.map Prod.snd)
    (hsaved : ∀ task ∈ w.tasks, task.1 = targetId → (task.1, some task.2) ∈ w.passages) :
    OneTaskEach { w with tasks := (targetId, taskId) :: w.tasks }
      (Function.update held p (some (targetId, taskId))) := by
  have hother : ∀ {q : P}, q ≠ p →
      Function.update held p (some (targetId, taskId)) q = held q := fun hq =>
    Function.update_of_ne hq _ _
  have hself : Function.update held p (some (targetId, taskId)) p = some (targetId, taskId) :=
    Function.update_self p _ _
  -- no dispatch of the same target holds a task
  have hfree : ∀ q b, held q = some b → b.1 ≠ targetId := by
    intro q b hq hid
    obtain ⟨hmem, hunsaved⟩ := h.heldUnsaved q b hq
    exact hunsaved (hsaved b hmem hid)
  refine ⟨?_, h.passageOnce, ?_, ?_, ?_, ?_⟩
  · intro passage hpassage
    obtain ⟨id, hid, hmem⟩ := h.passageTask passage hpassage
    exact ⟨id, hid, List.mem_cons_of_mem _ hmem⟩
  · exact List.nodup_cons.mpr ⟨hfresh, h.taskOnce⟩
  · intro task htask
    rcases List.mem_cons.mp htask with rfl | hold
    · exact Or.inr ⟨p, hself⟩
    · rcases h.taskPassage task hold with hpassed | ⟨q, hq⟩
      · exact Or.inl hpassed
      · have hne : q ≠ p := fun heq => absurd (hq.symm.trans (heq ▸ hp)) (by simp)
        exact Or.inr ⟨q, (hother hne).trans hq⟩
  · intro q task hq
    by_cases heq : q = p
    · rw [heq, hself] at hq
      obtain rfl := Option.some.inj hq
      refine ⟨List.mem_cons_self, fun hpassage => ?_⟩
      obtain ⟨id, hid, hmem⟩ := h.passageTask _ hpassage
      have hsame : taskId = id := Option.some.inj hid
      exact hfresh (List.mem_map.mpr ⟨_, hmem, hsame.symm⟩)
    · rw [hother heq] at hq
      obtain ⟨hmem, hunsaved⟩ := h.heldUnsaved q task hq
      exact ⟨List.mem_cons_of_mem _ hmem, hunsaved⟩
  · intro q q' a b hq hq' hid
    by_cases heq : q = p
    · by_cases heq' : q' = p
      · exact heq.trans heq'.symm
      · rw [heq, hself] at hq
        obtain rfl := Option.some.inj hq
        rw [hother heq'] at hq'
        exact absurd hid.symm (hfree q' b hq')
    · rw [hother heq] at hq
      by_cases heq' : q' = p
      · rw [heq', hself] at hq'
        obtain rfl := Option.some.inj hq'
        exact absurd hid (hfree q a hq)
      · rw [hother heq'] at hq'
        exact h.oneDispatch q q' a b hq hq' hid

/-- A call saves the target its task was created for. -/
theorem OneTaskEach.dispatched {now : ℤ} {copy : AgentUpdateRolloutTargetEntity} {taskId : Uuid}
    (h : OneTaskEach w held) (hp : held p = some (copy.id, taskId))
    (htask : copy.taskId = some taskId) (hactive : copy.status.isActive = true)
    (hpending : w.targetStatus copy.id = some .pending) :
    OneTaskEach (saveTarget now copy w) (Function.update held p none) := by
  have hpassages : (saveTarget now copy w).passages = (copy.id, some taskId) :: w.passages := by
    simp only [saveTarget]
    rw [if_pos ⟨hpending, hactive⟩, htask]
  have htasks : (saveTarget now copy w).tasks = w.tasks := rfl
  have hother : ∀ {q : P} {task : Uuid × Uuid}, Function.update held p none q = some task →
      q ≠ p ∧ held q = some task := by
    intro q task hq
    by_cases heq : q = p
    · rw [heq, Function.update_self] at hq
      exact absurd hq (by simp)
    · rw [Function.update_of_ne heq] at hq
      exact ⟨heq, hq⟩
  obtain ⟨hmem, hunsaved⟩ := h.heldUnsaved p _ hp
  refine ⟨?_, ?_, ?_, ?_, ?_, ?_⟩
  · intro passage hpassage
    rw [hpassages] at hpassage
    rcases List.mem_cons.mp hpassage with rfl | hold
    · exact ⟨taskId, rfl, hmem⟩
    · exact h.passageTask passage hold
  · rw [hpassages]
    refine List.nodup_cons.mpr ⟨fun hin => ?_, h.passageOnce⟩
    obtain ⟨passage, hpassage, hid⟩ := List.mem_map.mp hin
    obtain ⟨id, hid', hcreated⟩ := h.passageTask passage hpassage
    have hsame : id = taskId := Option.some.inj (hid'.symm.trans hid)
    have heq : (passage.1, id) = (copy.id, taskId) := h.task_eq hcreated hmem hsame
    have hpassage' : passage = (copy.id, some taskId) :=
      Prod.ext (Prod.ext_iff.mp heq).1 hid
    exact hunsaved (hpassage' ▸ hpassage)
  · exact h.taskOnce
  · intro task htaskMem
    rw [hpassages]
    rcases h.taskPassage task htaskMem with hpassed | ⟨q, hq⟩
    · exact Or.inl (List.mem_cons_of_mem _ hpassed)
    · by_cases heq : q = p
      · rw [heq, hp] at hq
        obtain rfl := Option.some.inj hq
        exact Or.inl List.mem_cons_self
      · exact Or.inr ⟨q, (Function.update_of_ne heq _ _).trans hq⟩
  · intro q task hq
    obtain ⟨hne, hq⟩ := hother hq
    obtain ⟨hqMem, hqUnsaved⟩ := h.heldUnsaved q task hq
    refine ⟨hqMem, ?_⟩
    rw [hpassages]
    intro hin
    rcases List.mem_cons.mp hin with heq | hold
    · exact hne (h.oneDispatch q p task _ hq hp (Prod.ext_iff.mp heq).1)
    · exact hqUnsaved hold
  · intro q q' a b hq hq' hid
    exact h.oneDispatch q q' a b (hother hq).2 (hother hq').2 hid

/-- **One move.** -/
theorem UpdateMove.keeps {before after : Option (Uuid × Uuid)}
    (hmove : UpdateMove w before w' after) (hp : held p = before) (hone : OneAtATime w)
    (heach : OneTaskEach w held) :
    OneAtATime w' ∧ OneTaskEach w' (Function.update held p after) := by
  cases hmove with
  | plain hplain =>
      refine ⟨hplain.oneAtATime hone, ?_⟩
      obtain ⟨htasks, hpassages⟩ := hplain.ledger
      have hheld : Function.update held p none = held := by
        rw [← hp]
        exact Function.update_eq_self p held
      rw [hheld]
      exact heach.of_ledger htasks hpassages
  | taskCreated targetId taskId hfresh hsaved =>
      exact ⟨⟨hone.oneRollout, hone.oneActive⟩, heach.created hp hfresh hsaved⟩
  | dispatched now copy taskId htask hactive hpending hothers =>
      exact ⟨hone.saveTarget fun _ => hothers, heach.dispatched hp htask hactive hpending⟩

/-! ## Runs -/

/-- A call moves, or the nodes change. -/
abbrev UpdateEvent (P : Type) := Event P UpdateRequest UpdateInput UpdateEnv

/-- The rollouts and the pending calls after a run. -/
def updateRun (es : List (UpdateEvent P)) : UpdateConfig P :=
  run (step updateCalls updateEnv) (Config.idle {}) es

/-- What holds at every point of a run, of the calls with their counts. -/
structure SequentialInv (c : CountingConfig P) : Prop where
  sequential : Sequential c.forget
  found : Good (fun _ => True) (fun w call => Checked w call.1 ∧ Counted call) c

/-- The outline of the counts. -/
theorem counting_outline : Outline countingCalls updateEnv ReportsLater
    (fun w call input => CopiesCurrent w call.1 input ∧ CountsCurrent w call input)
    (fun _ _ => True) (fun _ => True) (fun w call => Checked w call.1 ∧ Counted call) := by
  refine outline_remembering ?_ ?_ ?_ ?_ ?_ ?_
  · intro w request input _ hreports
    refine ⟨trivial, fun call hcall => ⟨?_, counted_invoke hreports call hcall⟩⟩
    exact (checked_outline.invoke trivial trivial).2 call hcall
  · intro w call counted input _ hfound hcurrent
    refine ⟨trivial, fun next hnext => ⟨?_, counted_resume hfound.2 next hnext⟩⟩
    exact checked_resume hfound.1 hcurrent.1 next hnext
  · exact fun _ _ => trivial
  · exact fun _ _ hfound => ⟨checked_outline.invoke_stable trivial trivial hfound.1, hfound.2⟩
  · intro w call counted input other _ _ _ hfound
    exact ⟨hfound.1.stays (resume_targetsStay call input w), hfound.2⟩
  · exact fun _ _ hfound => ⟨checked_outline.environment_stable trivial trivial hfound.1, hfound.2⟩

/-- After a step of one call. -/
theorem sequential_moved {c : UpdateConfig P} {next : UpdateStep} (h : Sequential c)
    (hmove : StepMoves c.world (heldBy c p) next) :
    Sequential ⟨next.1, Function.update c.pending p next.2⟩ := by
  obtain ⟨hone, heach⟩ := hmove.keeps rfl h.oneAtATime h.oneTaskEach
  refine ⟨hone, ?_⟩
  have hheld : heldBy ⟨next.1, Function.update c.pending p next.2⟩
      = Function.update (heldBy c) p (next.2.bind heldTask) := by
    funext q
    unfold heldBy
    by_cases heq : q = p
    · rw [heq]
      simp
    · simp [Function.update_of_ne heq]
  rw [hheld]
  exact heach

omit [DecidableEq P] in
/-- What happens to the nodes does not matter. -/
theorem Sequential.of_tables {c : UpdateConfig P} (h : Sequential c)
    (hrollouts : w'.rollouts = c.world.rollouts) (htargets : w'.targets = c.world.targets)
    (htasks : w'.tasks = c.world.tasks) (hpassages : w'.passages = c.world.passages) :
    Sequential ⟨w', c.pending⟩ := by
  refine ⟨⟨?_, ?_⟩, h.oneTaskEach.of_ledger htasks hpassages⟩
  · rw [hrollouts]
    exact h.oneAtATime.oneRollout
  · rw [htargets]
    exact h.oneAtATime.oneActive

omit [DecidableEq P] in
/-- Where creations are apart, the earlier tasks of a target that gets another one are
saved on it. -/
theorem saved_of_apart {c : CountingConfig P} {call : PendingUpdateCall × ℕ} {input : UpdateInput}
    (h : Sequential c.forget) (hp : c.pending p = some call)
    (hapart : CreationsApart c (.resume p input)) :
    ∀ targetId ∈ createsTaskFor call.1 input, ∀ task ∈ c.world.tasks, task.1 = targetId →
      (task.1, some task.2) ∈ c.world.passages := by
  intro targetId hcreates task htask hof
  rcases h.oneTaskEach.taskPassage task htask with hsaved | ⟨q, hq⟩
  · exact hsaved
  · by_cases hself : q = p
    · -- the call itself holds no task before it has created one
      have hnone : heldTask call.1 = none := by
        obtain ⟨pending, counted⟩ := call
        cases pending with
        | dispatchTask => rfl
        | _ => cases hcreates
      have hheld : heldBy c.forget p = none := by
        simp only [heldBy, Config.forget, hp, Option.map_some, Option.bind_some, hnone]
      rw [hself, hheld] at hq
      cases hq
    · exact absurd hof (hapart call hp targetId hcreates q hself task hq)

/-- **One event.** -/
theorem sequential_step (c : CountingConfig P) (e : UpdateEvent P) (h : SequentialInv c)
    (hg : UpdateGuard c e) : SequentialInv (step countingCalls updateEnv c e) := by
  refine ⟨?_, counting_outline.step c e h.found hg.1⟩
  have hforget :
      (step countingCalls updateEnv c e).forget = step updateCalls updateEnv c.forget e :=
    forget_step c e
  rw [hforget]
  cases e with
  | invoke p request input =>
      cases hp : c.forget.pending p with
      | some call =>
          rw [step_invoke_busy hp]
          exact h.sequential
      | none =>
          have hfree : heldBy c.forget p = none := by rw [heldBy, hp]; rfl
          rw [step_invoke hp]
          refine sequential_moved h.sequential ?_
          rw [hfree]
          exact invoke_move request input c.world
  | resume p input =>
      cases hp : c.pending p with
      | none =>
          have hnone : c.forget.pending p = none := by simp only [Config.forget, hp]; rfl
          rw [step_resume_idle hnone]
          exact h.sequential
      | some call =>
          have hsome : c.forget.pending p = some call.1 := by simp only [Config.forget, hp]; rfl
          have hheld : heldBy c.forget p = heldTask call.1 := by rw [heldBy, hsome]; rfl
          obtain ⟨hchecked, hcounted⟩ := h.found.2 p call hp
          obtain ⟨hcurrent, hcounts⟩ := hg.1 call hp
          rw [step_resume hsome]
          refine sequential_moved h.sequential ?_
          rw [hheld]
          exact resume_move ⟨h.sequential.oneAtATime, hchecked, hcounted, hcurrent, hcounts,
            saved_of_apart h.sequential hp hg.2⟩
  | env e =>
      rw [step_env]
      cases e with
      | nodeReported nodeId agentVersion => exact h.sequential.of_tables rfl rfl rfl rfl
      | nodeCreated node => exact h.sequential.of_tables rfl rfl rfl rfl
      | nodeChanged node => exact h.sequential.of_tables rfl rfl rfl rfl

omit [DecidableEq P] in
/-- Nothing has happened yet. -/
theorem sequential_idle : Sequential (Config.idle {} : UpdateConfig P) := by
  refine ⟨⟨?_, ?_⟩, ⟨?_, List.nodup_nil, List.nodup_nil, ?_, ?_, ?_⟩⟩
  · intro a ha
    exact absurd ha (by simp [Table.empty])
  · intro a ha
    exact absurd ha (by simp [Table.empty])
  · intro passage hpassage
    exact absurd hpassage (by simp)
  · intro task htask
    exact absurd htask (by simp)
  · intro q task hq
    exact absurd hq (by simp [heldBy])
  · intro q q' a b hq
    exact absurd hq (by simp [heldBy])

/-- **Rollouts are sequential** in every interleaving of the operations in which what an
operation loaded and counted still holds when it writes. -/
theorem rollouts_sequential {es : List (UpdateEvent P)}
    (hes : Along (step countingCalls updateEnv) UpdateGuard (Config.idle {}) es) :
    Sequential (updateRun es) := by
  have hstart : SequentialInv (Config.idle {} : CountingConfig P) := by
    refine ⟨?_, good_idle trivial⟩
    rw [Config.forget_idle]
    exact sequential_idle
  have hinv := inv_run sequential_step hstart hes
  have hforget : (run (step countingCalls updateEnv) (Config.idle {} : CountingConfig P) es).forget
      = updateRun es := forget_run (Config.idle {} : CountingConfig P) es
  rw [← hforget]
  exact hinv.sequential

/-- A rollout to two nodes: while it starts, a second one is refused; the first node
reconnects, and its report and the cron job both go for the next target. -/
theorem rollouts_sequential_two_nodes :
    Sequential (updateRun (P := Fin 3)
      [.env (.nodeCreated { id := "n1", workspaceId := "w", name := "n1", hostname := "h1",
                            arch := "amd64" }),
       .env (.nodeCreated { id := "n2", workspaceId := "w", name := "n2", hostname := "h2",
                            arch := "arm64" }),
       .env (.nodeReported "n1" "1"), .env (.nodeReported "n2" "1"),
       .invoke 0 (.createRollout ["n1", "n2"] false) { release := some "2" },
       .resume 0 {}, .resume 0 {}, .resume 0 { rolloutId := "r" },
       .invoke 1 (.createRollout ["n2"] false) { release := some "2" },
       .resume 0 { targetId := fun i => if i = 0 then "t1" else "t2" },
       .resume 0 {}, .resume 0 {}, .resume 0 {}, .resume 0 {}, .resume 0 {},
       .resume 0 { queue := .queued "k1" }, .resume 0 {}, .resume 0 {},
       .env (.nodeReported "n1" "2"),
       .invoke 1 (.observeNodeVersion "n1") {}, .invoke 2 .reconcileActiveTargets {},
       .resume 1 {}, .resume 1 {}, .resume 2 {}, .resume 1 {}, .resume 2 {}, .resume 1 {},
       .resume 2 {}, .resume 1 {}, .resume 1 {}, .resume 1 {}, .resume 1 {},
       .resume 1 { queue := .queued "k2" }, .resume 1 {}, .resume 1 {}]) :=
  rollouts_sequential (by decide)

/-! ## Two requests at once -/

/-- Two operators create a rollout; both requests look for an open one before either has
inserted its own. -/
def simultaneousRollouts : List (UpdateEvent ℕ) :=
  [.env (.nodeCreated { id := "n", workspaceId := "w", name := "n", hostname := "h",
                        arch := "amd64" }),
   .env (.nodeReported "n" "1"),
   .invoke 0 (.createRollout ["n"] false) { release := some "2" },
   .invoke 1 (.createRollout ["n"] false) { release := some "2" },
   .resume 0 {}, .resume 0 { rolloutId := "r" },
   .resume 1 {}, .resume 1 { rolloutId := "s" }]

/-- **The two open rollouts.** -/
theorem simultaneous_rollouts_open : ¬ Sequential (updateRun simultaneousRollouts) := by
  intro h
  have hopen : ∃ a ∈ (updateRun simultaneousRollouts).world.rollouts.rows,
      ∃ b ∈ (updateRun simultaneousRollouts).world.rollouts.rows,
        a.status.isOpen = true ∧ b.status.isOpen = true ∧ a.id ≠ b.id := by decide
  obtain ⟨a, ha, b, hb, haOpen, hbOpen, hne⟩ := hopen
  exact hne (h.oneAtATime.oneRollout a ha b hb haOpen hbOpen)

end AgentUpdatesService
