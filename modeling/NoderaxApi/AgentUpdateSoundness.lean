/-
# Rollout soundness

Every operation taken as one atomic step keeps the phases of the rollouts, with one
exception.  A progress report may name a target that is still `pending`: it makes a second
target active, or fails a target while another one is active.  Along the runs without such
reports the rollouts are sound.

The proof follows an operation through its steps.  `CallOk` says what a pending call knows
of the tables; nothing else moves meanwhile, so the rows it loaded are the rows that are
there.
-/
import NoderaxApi.AgentUpdatePhases

namespace AgentUpdatesService

open Interleaving KeyedTable Runs

/-! ## What a pending call knows -/

/-- The loop of `reconcileActiveTargets` has nothing left to look at. -/
def LoopDone (loop : Option ReconcileLoop) : Prop := ∀ l ∈ loop, l.remaining = []

/-- A rollout is loaded as it is in the table. -/
def Loaded (w : AgentUpdatesWorld) (rollout : AgentUpdateRolloutEntity)
    (status : AgentUpdateRolloutStatus) : Prop :=
  w.rollouts.get rollout.id = some rollout ∧ rollout.status = status

/-- The rollout with an id has a status. -/
def HasStatus (w : AgentUpdatesWorld) (rolloutId : Uuid) (status : AgentUpdateRolloutStatus) :
    Prop :=
  ∃ rollout, w.rollouts.get rolloutId = some rollout ∧ rollout.status = status

/-- A target of a rollout is loaded as it is in the table. -/
def LoadedTarget (w : AgentUpdatesWorld) (rolloutId : Uuid)
    (target : AgentUpdateRolloutTargetEntity) : Prop :=
  w.targets.get target.id = some target ∧ target.rolloutId = rolloutId

/-- The targets of a reconciliation: at most one, active, of a running rollout. -/
def ReconcileOk (w : AgentUpdatesWorld) (targets : List AgentUpdateRolloutTargetEntity) : Prop :=
  targets.length ≤ 1 ∧ ∀ target ∈ targets, w.targets.get target.id = some target ∧
    target.status.isActive = true ∧ w.rolloutStatusOf target = some .running

/-- The other targets of a rollout allow to pause it on a target. -/
def OthersAllowPause (w : AgentUpdatesWorld) (rolloutId targetId : Uuid) : Prop :=
  ∀ other ∈ targetsOf rolloutId w, other.id ≠ targetId →
    other.status.isActive = false ∧ other.status ≠ .failed ∧ other.status ≠ .cancelled

/-- What holds before `dispatchNextTarget` takes a target. -/
def Dispatching (w : AgentUpdatesWorld) (rollout : AgentUpdateRolloutEntity)
    (loop : Option ReconcileLoop) : Prop :=
  RolloutInv none w ∧ LoopDone loop ∧ Loaded w rollout .running

/-- What holds after `dispatchNextTarget` took a target. -/
def Taken (w : AgentUpdatesWorld) (rollout : AgentUpdateRolloutEntity)
    (target : AgentUpdateRolloutTargetEntity) (loop : Option ReconcileLoop) : Prop :=
  Dispatching w rollout loop ∧ activeCount rollout.id w = 0 ∧
    LoadedTarget w rollout.id target ∧ target.status = .pending

/-- What holds while `observeNodeVersion` completes a target. -/
def Observed (w : AgentUpdatesWorld) (target : AgentUpdateRolloutTargetEntity)
    (agentVersion : String) (loop : Option ReconcileLoop) : Prop :=
  RolloutInv none w ∧ LoopDone loop ∧ w.targets.get target.id = some target ∧
    target.status.isTerminal = false ∧ (target.nodeId, target.targetVersion) ∈ w.reported ∧
    target.targetVersion = agentVersion ∧
    (HasStatus w target.rolloutId .running ∨ HasStatus w target.rolloutId .paused)

/-- **What a pending call knows.** -/
def CallOk (w : AgentUpdatesWorld) : PendingUpdateCall → Prop
  | .createNodes _ _ _ _ => RolloutInv none w ∧ openCount w = 0
  | .createTargets rollout _ | .createStart rollout _ =>
      RolloutInv none w ∧ Loaded w rollout .queued
  | .dispatch rolloutId loop | .observeDispatch rolloutId loop =>
      RolloutInv none w ∧ LoopDone loop ∧ HasStatus w rolloutId .running
  | .dispatchCount rollout loop | .dispatchRunning rollout _ loop => Dispatching w rollout loop
  | .dispatchNext rollout loop => Dispatching w rollout loop ∧ activeCount rollout.id w = 0
  | .dispatchComplete rollout loop =>
      Dispatching w rollout loop ∧ activeCount rollout.id w = 0 ∧
        ∀ target ∈ targetsOf rollout.id w, target.status ≠ .pending
  | .dispatchNode rollout target loop | .dispatchTask rollout target _ loop
  | .dispatchSave rollout target _ _ loop => Taken w rollout target loop
  | .pauseTarget rollout target _ loop =>
      RolloutInv (some rollout.id) w ∧ LoopDone loop ∧ Loaded w rollout .running ∧
        (∃ row, w.targets.get target.id = some row ∧ row.rolloutId = rollout.id) ∧
        OthersAllowPause w rollout.id target.id
  | .pauseRollout rollout _ loop =>
      RolloutInv (some rollout.id) w ∧ LoopDone loop ∧ Loaded w rollout .running ∧
        PhaseOk (targetsOf rollout.id w) .paused
  | .resumeCount rollout | .findFailed rollout _ _ => RolloutInv none w ∧ Loaded w rollout .paused
  | .startRollout rollout _ =>
      RolloutInv (some rollout.id) w ∧ Loaded w rollout .paused ∧
        PhaseOk (targetsOf rollout.id w) .running
  | .startDispatch rolloutId => RolloutInv none w ∧ HasStatus w rolloutId .running
  | .saveRetried rollout target | .saveSkipped rollout target =>
      RolloutInv none w ∧ Loaded w rollout .paused ∧ LoadedTarget w rollout.id target ∧
        target.status = .failed
  | .cancelSave rollout _ =>
      RolloutInv none w ∧ w.rollouts.get rollout.id = some rollout ∧ rollout.status.isOpen = true
  | .cancelFind rolloutId _ =>
      RolloutInv (some rolloutId) w ∧ HasStatus w rolloutId .cancelled
  | .cancelTargets _ remaining =>
      ∃ rolloutId, RolloutInv (some rolloutId) w ∧ HasStatus w rolloutId .cancelled ∧
        (∀ target ∈ targetsOf rolloutId w, target.status.isTerminal = true ∨ target ∈ remaining) ∧
        ∀ target ∈ remaining, ∃ row, w.targets.get target.id = some row ∧ row.rolloutId = rolloutId
  | .progressRollout target _ =>
      RolloutInv none w ∧ w.targets.get target.id = some target ∧ target.status ≠ .pending
  | .progressSave rollout target _ =>
      RolloutInv none w ∧ Loaded w rollout .running ∧ LoadedTarget w rollout.id target ∧
        target.status.isActive = true
  | .progressMessage rollout _ _ => RolloutInv none w ∧ Loaded w rollout .running
  | .progressNode _ => RolloutInv none w
  | .observe nodeId agentVersion loop =>
      RolloutInv none w ∧ LoopDone loop ∧ ∀ version ∈ agentVersion, (nodeId, version) ∈ w.reported
  | .observeRollout target agentVersion loop => Observed w target agentVersion loop
  | .observeSave rollout target agentVersion loop =>
      Observed w target agentVersion loop ∧ w.rollouts.get rollout.id = some rollout ∧
        target.rolloutId = rollout.id
  | .reconcileTasks _ targets => RolloutInv none w ∧ ReconcileOk w targets
  | .reconcile loop => RolloutInv none w ∧ ReconcileOk w loop.remaining
  | .reconcileRollout target loop =>
      RolloutInv none w ∧ loop.remaining = [] ∧ w.targets.get target.id = some target ∧
        target.status.isActive = true

/-- The calls that run alone keep the phases. -/
abbrev KeepsPhases (next : UpdateStep) : Prop := Next (RolloutInv none) CallOk next

variable {w : AgentUpdatesWorld} {rollout : AgentUpdateRolloutEntity}
  {target : AgentUpdateRolloutTargetEntity} {loop : Option ReconcileLoop}

/-- A call returns, or the loop it was made from goes on. -/
theorem keepsPhases_continueLoop (h : RolloutInv none w) (hloop : LoopDone loop) :
    KeepsPhases (w, continueLoop loop) := by
  cases loop with
  | none => exact h
  | some l =>
      have hdone : l.remaining = [] := hloop l rfl
      show RolloutInv none w ∧ ReconcileOk w l.remaining
      rw [hdone]
      exact ⟨h, by simp, by simp⟩

/-- The end of a call whose last record may throw. -/
theorem keepsPhases_recorded (h : RolloutInv none w) (hloop : LoopDone loop) (recordError : Bool) :
    KeepsPhases (w, if recordError then none else continueLoop loop) := by
  cases recordError with
  | true => exact h
  | false => exact keepsPhases_continueLoop h hloop

theorem Loaded.hasStatus {status : AgentUpdateRolloutStatus} (h : Loaded w rollout status) :
    HasStatus w rollout.id status := ⟨rollout, h⟩

/-- The phase of a rollout with a status. -/
theorem RolloutInv.phaseOf {rolloutId : Uuid} {status : AgentUpdateRolloutStatus}
    (h : RolloutInv none w) (hstatus : HasStatus w rolloutId status) :
    PhaseOk (targetsOf rolloutId w) status := by
  obtain ⟨rollout, hget, rfl⟩ := hstatus
  obtain rfl := Table.key_of_get hget
  exact h.phase hget

/-- The status of the rollout a target belongs to. -/
theorem hasStatus_of_rolloutStatusOf {status : AgentUpdateRolloutStatus}
    (h : w.rolloutStatusOf target = some status) : HasStatus w target.rolloutId status := by
  obtain ⟨rollout, hget, hstatus⟩ := Option.map_eq_some_iff.mp h
  exact ⟨rollout, hget, hstatus⟩

/-- A loaded target is one of its rollout's. -/
theorem LoadedTarget.mem {rolloutId : Uuid} (h : LoadedTarget w rolloutId target) :
    target ∈ targetsOf rolloutId w :=
  mem_targetsOf.mpr ⟨Table.mem_of_get h.1, h.2⟩

/-- **The save of a loaded rollout** restores its phase. -/
theorem keepsPhases_saveRollout {copy : AgentUpdateRolloutEntity} {next : Option PendingUpdateCall}
    (h : RolloutInv (some rollout.id) w) (hget : w.rollouts.get rollout.id = some rollout)
    (hid : copy.id = rollout.id) (hopen : copy.status.isOpen = true → rollout.status.isOpen = true)
    (hphase : PhaseOk (targetsOf rollout.id w) copy.status)
    (hnext : ∀ w', RolloutInv none w' → HasStatus w' rollout.id copy.status →
      KeepsPhases (w', next)) :
    KeepsPhases (saveRollout copy w, next) := by
  rw [← hid] at h hget hphase
  refine hnext _ (h.saveRollout hget hopen hphase) ⟨copy.savedOver rollout, ?_, rfl⟩
  rw [← hid]
  exact get_saveRollout hget

/-! ## `createRollout` -/

/-- The new rollout is queued, and it is the only open one. -/
theorem resume_createNodes {version : String} {rollback : Bool} {nodeIds : List Uuid}
    {nodes : List UpdatableNode} (input : UpdateInput) (h : RolloutInv none w)
    (hopen : openCount w = 0) :
    KeepsPhases (createNodesStep version rollback nodeIds nodes input w) := by
  unfold createNodesStep
  cases nodeIds with
  | cons nodeId rest =>
      simp only
      split
      · exact h
      · exact ⟨h, hopen⟩
  | nil =>
      simp only
      split
      · next hnew =>
          have hnone : w.rollouts.get
              (queuedRollout input.rolloutId version rollback nodes.length).id = none :=
            Option.isNone_iff_eq_none.mp hnew
          exact ⟨h.insertQueued hnone (openCount_eq_zero.mp hopen) rfl, by
            rw [Table.get_insert, if_pos ⟨rfl, hnone⟩], rfl⟩
      · exact ⟨h, hopen⟩

/-- The new targets are pending. -/
theorem resume_createTargets {nodes : List UpdatableNode} (input : UpdateInput)
    (h : RolloutInv none w) (hrollout : Loaded w rollout .queued) :
    KeepsPhases (createTargetsStep rollout nodes input w) := by
  unfold createTargetsStep
  simp only
  split
  · refine ⟨?_, hrollout⟩
    refine h.insertTargets hrollout.1 hrollout.2 fun target htarget => ?_
    obtain ⟨node, -, rfl⟩ := List.mem_map.mp htarget
    exact ⟨rfl, rfl, rfl⟩
  · exact ⟨h, hrollout⟩

/-- The rollout starts. -/
theorem resume_createStart {count : ℕ} (input : UpdateInput) (h : RolloutInv none w)
    (hrollout : Loaded w rollout .queued) :
    KeepsPhases (resumeUpdate (.createStart rollout count) input w) := by
  simp only [resumeUpdate]
  split
  · exact h
  · have hpending : ∀ target ∈ targetsOf rollout.id w, target.status = .pending :=
      h.phaseOf hrollout.hasStatus
    have hphase : PhaseOk (targetsOf rollout.id w) .running := by
      refine ⟨fun target htarget => ?_, fun a ha b hb hactive => ?_⟩
      · simp [hpending target htarget]
      · exact absurd hactive (by simp [hpending a ha, AgentUpdateTargetStatus.isActive])
    refine keepsPhases_saveRollout (h.except rollout.id) hrollout.1 rfl
      (fun _ => by rw [hrollout.2]; rfl) hphase ?_
    intro w' hinv hstatus
    exact ⟨hinv, fun l hl => by simp at hl, hstatus⟩

/-! ## `dispatchNextTarget` -/

/-- The rollout is loaded. -/
theorem resume_dispatch {rolloutId : Uuid} (input : UpdateInput) (h : RolloutInv none w)
    (hloop : LoopDone loop) (hstatus : HasStatus w rolloutId .running) :
    KeepsPhases (resumeUpdate (.dispatch rolloutId loop) input w) := by
  obtain ⟨rollout, hget, hrunning⟩ := hstatus
  have hid : rollout.id = rolloutId := Table.key_of_get hget
  simp only [resumeUpdate, hget]
  split
  · exact keepsPhases_continueLoop h hloop
  · exact ⟨h, hloop, by rw [hid]; exact hget, hrunning⟩

/-- The active targets are counted. -/
theorem resume_dispatchCount (input : UpdateInput) (h : Dispatching w rollout loop) :
    KeepsPhases (resumeUpdate (.dispatchCount rollout loop) input w) := by
  simp only [resumeUpdate]
  split
  · exact keepsPhases_continueLoop h.1 h.2.1
  · next hnone => exact ⟨h, Nat.eq_zero_of_not_pos hnone⟩

/-- The next target is looked up. -/
theorem resume_dispatchNext (input : UpdateInput) (h : Dispatching w rollout loop)
    (hnone : activeCount rollout.id w = 0) :
    KeepsPhases (resumeUpdate (.dispatchNext rollout loop) input w) := by
  simp only [resumeUpdate]
  cases hnext : nextPending input.rank rollout.id w with
  | none => exact ⟨h, hnone, nextPending_none hnext⟩
  | some target =>
      obtain ⟨hmem, hpending⟩ := nextPending_some hnext
      obtain ⟨hrow, hid⟩ := mem_targetsOf.mp hmem
      exact ⟨h, hnone, ⟨Table.get_of_mem hrow, hid⟩, hpending⟩

/-- A running rollout without active and pending targets is finished. -/
theorem phase_completed (h : RolloutInv none w) (hrunning : HasStatus w rollout.id .running)
    (hnone : activeCount rollout.id w = 0)
    (hpending : ∀ target ∈ targetsOf rollout.id w, target.status ≠ .pending) :
    PhaseOk (targetsOf rollout.id w) .completed := by
  intro target htarget
  have hinactive : target.status.isActive = false :=
    activeCount_eq_zero.mp hnone target htarget
  have hnotPending : target.status ≠ .pending := hpending target htarget
  obtain ⟨hnotFailed, hnotCancelled⟩ := (h.phaseOf hrunning).1 target htarget
  cases hstatus : target.status <;> simp_all [AgentUpdateTargetStatus.isActive]

/-- The rollout is finished. -/
theorem resume_dispatchComplete (input : UpdateInput) (h : Dispatching w rollout loop)
    (hnone : activeCount rollout.id w = 0)
    (hpending : ∀ target ∈ targetsOf rollout.id w, target.status ≠ .pending) :
    KeepsPhases (resumeUpdate (.dispatchComplete rollout loop) input w) := by
  obtain ⟨hinv, hloop, hrollout⟩ := h
  refine keepsPhases_saveRollout (hinv.except rollout.id) hrollout.1 rfl
    (fun hopen => absurd hopen (by simp [withStatus, AgentUpdateRolloutStatus.isOpen]))
    (phase_completed hinv hrollout.hasStatus hnone hpending) ?_
  intro w' hinv' _
  exact keepsPhases_continueLoop hinv' hloop

/-- The targets other than one taken target allow a pause on it. -/
theorem Taken.othersAllowPause (h : Taken w rollout target loop) :
    OthersAllowPause w rollout.id target.id := by
  obtain ⟨⟨hinv, -, hrollout⟩, hnone, -⟩ := h
  intro other hother _
  exact ⟨activeCount_eq_zero.mp hnone other hother,
    (hinv.phaseOf hrollout.hasStatus).1 other hother⟩

/-- The node of the taken target is checked. -/
theorem resume_dispatchNode (input : UpdateInput) (h : Taken w rollout target loop) :
    KeepsPhases (resumeUpdate (.dispatchNode rollout target loop) input w) := by
  simp only [resumeUpdate]
  split
  · have hothers := h.othersAllowPause
    obtain ⟨⟨hinv, hloop, hrollout⟩, -, htarget, -⟩ := h
    exact ⟨hinv.except rollout.id, hloop, hrollout, ⟨target, htarget⟩, hothers⟩
  · exact h

/-- The update task is created. -/
theorem resume_dispatchTask {node : UpdatableNode} (input : UpdateInput)
    (h : Taken w rollout target loop) :
    KeepsPhases (dispatchTaskStep rollout target node loop input w) := by
  unfold dispatchTaskStep
  have hinv : RolloutInv none w := h.1.1
  cases input.queue with
  | refused message => exact hinv
  | failedAfterInsert taskId message => exact hinv.withTasks _
  | queued taskId =>
      simp only
      split
      · exact h
      · obtain ⟨⟨-, hloop, hrollout⟩, hnone, htarget, hpending⟩ := h
        exact ⟨⟨hinv.withTasks _, hloop, hrollout⟩, hnone, htarget, hpending⟩

/-- The taken target becomes the active one. -/
theorem resume_dispatchSave {node : UpdatableNode} {taskId : Uuid} (input : UpdateInput)
    (h : Taken w rollout target loop) :
    KeepsPhases (resumeUpdate (.dispatchSave rollout target node taskId loop) input w) := by
  obtain ⟨⟨hinv, hloop, hrollout⟩, hnone, ⟨hget, hid⟩, -⟩ := h
  have hphase := hinv.phaseOf hrollout.hasStatus
  have hrow : w.targets.get (dispatchedTarget input.now target node taskId).id = some target := hget
  refine ⟨?_, hloop, hrollout⟩
  refine hinv.saveTargetPhase hrow hid hrollout.1 (by simp [dispatchedTarget]) ?_
  rw [hrollout.2]
  constructor
  · refine forall_targetsOf_saveTarget (Q := fun status => status ≠ .failed ∧ status ≠ .cancelled)
      hrow (fun other hother _ => hphase.1 other hother) ?_
    simp [dispatchedTarget]
  · refine AtMostOne.saveTarget hrow hphase.2 fun _ other hother _ => ?_
    exact activeCount_eq_zero.mp hnone other hother

/-- The rollout goes on running. -/
theorem resume_dispatchRunning {node : UpdatableNode} (input : UpdateInput)
    (h : Dispatching w rollout loop) :
    KeepsPhases (resumeUpdate (.dispatchRunning rollout node loop) input w) := by
  obtain ⟨hinv, hloop, hrollout⟩ := h
  refine keepsPhases_saveRollout (hinv.except rollout.id) hrollout.1 rfl
    (fun _ => by rw [hrollout.2]; rfl) (hinv.phaseOf hrollout.hasStatus) ?_
  intro w' hinv' _
  exact keepsPhases_recorded hinv' hloop input.recordError

/-! ## `pauseRolloutForTargetFailure` -/

/-- The target fails. -/
theorem resume_pauseTarget {message : String} (input : UpdateInput)
    (h : CallOk w (.pauseTarget rollout target message loop)) :
    KeepsPhases (resumeUpdate (.pauseTarget rollout target message loop) input w) := by
  obtain ⟨hinv, hloop, hrollout, ⟨row, hget, hid⟩, hothers⟩ := h
  have hrow : w.targets.get (failedTarget input.now target message).id = some row := hget
  refine ⟨?_, hloop, hrollout, ?_, ?_⟩
  · rw [← hid] at hinv ⊢
    exact hinv.saveTarget hrow fun heq => absurd heq (by simp [failedTarget])
  · refine forall_targetsOf_saveTarget
      (Q := fun status => status.isActive = false ∧ status ≠ .cancelled) hrow ?_ ?_
    · intro other hother hne
      obtain ⟨hinactive, -, hnotCancelled⟩ := hothers other hother hne
      exact ⟨hinactive, hnotCancelled⟩
    · simp [failedTarget, AgentUpdateTargetStatus.isActive]
  · -- no other target had failed
    intro a ha b hb hfailedA hfailedB
    have hnew : ∀ t ∈ targetsOf rollout.id
        (saveTarget input.now (failedTarget input.now target message) w),
        decide (t.status = .failed) = true → t.id = target.id := by
      intro t ht hfailed
      rcases (mem_targetsOf_saveTarget hrow).mp ht with ⟨hold, hne⟩ | ⟨rfl, -⟩
      · exact absurd (of_decide_eq_true hfailed) (hothers t hold hne).2.1
      · rw [AgentUpdateRolloutTargetEntity.savedOver_id]
        exact Table.key_of_get hget
    exact (hnew a ha hfailedA).trans (hnew b hb hfailedB).symm

/-- The rollout is paused. -/
theorem resume_pauseRollout {message : String} (input : UpdateInput)
    (h : CallOk w (.pauseRollout rollout message loop)) :
    KeepsPhases (resumeUpdate (.pauseRollout rollout message loop) input w) := by
  obtain ⟨hinv, hloop, hrollout, hphase⟩ := h
  refine keepsPhases_saveRollout hinv hrollout.1 rfl (fun _ => by rw [hrollout.2]; rfl) hphase ?_
  intro w' hinv' _
  exact keepsPhases_recorded hinv' hloop input.recordError

/-! ## `resumeRollout`, `retryTarget` and `skipTarget` -/

/-- A paused rollout without failed targets can run. -/
theorem phase_running (h : RolloutInv none w) (hpaused : HasStatus w rollout.id .paused)
    (hnone : ∀ target ∈ targetsOf rollout.id w, target.status ≠ .failed) :
    PhaseOk (targetsOf rollout.id w) .running := by
  have hphase := (h.phaseOf hpaused).1
  constructor
  · intro target htarget
    exact ⟨hnone target htarget, (hphase target htarget).2⟩
  · intro a ha b hb hactive
    exact absurd hactive (by simp [(hphase a ha).1])

/-- The failed targets are counted. -/
theorem resume_resumeCount (input : UpdateInput) (h : RolloutInv none w)
    (hrollout : Loaded w rollout .paused) :
    KeepsPhases (resumeUpdate (.resumeCount rollout) input w) := by
  simp only [resumeUpdate]
  split
  · exact h
  · next hnone =>
      have hcount : failedCount rollout.id w = 0 := Nat.eq_zero_of_not_pos hnone
      exact ⟨h.except rollout.id, hrollout,
        phase_running h hrollout.hasStatus (failedCount_eq_zero.mp hcount)⟩

/-- The rollout runs again. -/
theorem resume_startRollout {message : String} (input : UpdateInput)
    (h : RolloutInv (some rollout.id) w) (hrollout : Loaded w rollout .paused)
    (hphase : PhaseOk (targetsOf rollout.id w) .running) :
    KeepsPhases (resumeUpdate (.startRollout rollout message) input w) := by
  refine keepsPhases_saveRollout h hrollout.1 rfl (fun _ => by rw [hrollout.2]; rfl) hphase ?_
  intro w' hinv hstatus
  exact ⟨hinv, hstatus⟩

/-- The next target is dispatched, unless the audit record throws. -/
theorem resume_startDispatch {rolloutId : Uuid} (input : UpdateInput) (h : RolloutInv none w)
    (hstatus : HasStatus w rolloutId .running) :
    KeepsPhases (resumeUpdate (.startDispatch rolloutId) input w) := by
  simp only [resumeUpdate]
  split
  · exact h
  · exact ⟨h, fun l hl => by simp at hl, hstatus⟩

/-- The failed target is looked up. -/
theorem resume_findFailed {targetId : Uuid} {retry : Bool} (input : UpdateInput)
    (h : RolloutInv none w) (hrollout : Loaded w rollout .paused) :
    KeepsPhases (resumeUpdate (.findFailed rollout targetId retry) input w) := by
  simp only [resumeUpdate]
  cases hget : w.targets.get targetId with
  | none => exact h
  | some target =>
      have hid : target.id = targetId := Table.key_of_get hget
      rw [← hid] at hget
      simp only
      split
      · exact h
      · next hcheck =>
          push Not at hcheck
          have hfound : LoadedTarget w rollout.id target := ⟨hget, hcheck.1⟩
          cases retry with
          | true => exact ⟨h, hrollout, hfound, hcheck.2⟩
          | false => exact ⟨h, hrollout, hfound, hcheck.2⟩

/-- The one failed target is retried or skipped: the rollout can run again. -/
theorem keepsPhases_unfail {copy : AgentUpdateRolloutTargetEntity} {message : String} {now : ℤ}
    (h : RolloutInv none w) (hrollout : Loaded w rollout .paused)
    (htarget : LoadedTarget w rollout.id target) (hfailed : target.status = .failed)
    (hid : copy.id = target.id) (hcopy : copy.status = .pending ∨ copy.status = .skipped) :
    KeepsPhases (saveTarget now copy w, some (.startRollout rollout message)) := by
  obtain ⟨hget, howner⟩ := htarget
  have hmem : target ∈ targetsOf rollout.id w := LoadedTarget.mem ⟨hget, howner⟩
  have hrow : w.targets.get copy.id = some target := by rw [hid]; exact hget
  obtain ⟨hinactive, hone⟩ := h.phaseOf hrollout.hasStatus
  have hnotActive : copy.status.isActive = false := by
    rcases hcopy with heq | heq
    · rw [heq]; rfl
    · rw [heq]; rfl
  refine ⟨?_, hrollout, ?_, ?_⟩
  · have hinv : RolloutInv (some target.rolloutId) (saveTarget now copy w) :=
      (h.except target.rolloutId).saveTarget hrow fun heq => by
      rcases hcopy with heq' | heq'
      · exact absurd (heq.symm.trans heq') (by simp)
      · exact absurd (heq.symm.trans heq') (by simp)
    rw [howner] at hinv
    exact hinv
  · refine forall_targetsOf_saveTarget (Q := fun status => status ≠ .failed ∧ status ≠ .cancelled)
      hrow ?_ ?_
    · intro other hother hne
      refine ⟨fun hfailed' => hne ?_, (hinactive other hother).2⟩
      rw [hid]
      exact hone other hother target hmem (by simp [hfailed']) (by simp [hfailed])
    · rcases hcopy with heq | heq
      · simp [heq]
      · simp [heq]
  · refine AtMostOne.saveTarget hrow (fun a ha b hb hactive => ?_) fun hactive => ?_
    · exact absurd hactive (by simp [(hinactive a ha).1])
    · exact absurd hactive (by simp [hnotActive])

/-! ## `cancelRollout` -/

/-- The rollout is cancelled; its targets are still to follow. -/
theorem resume_cancelSave {cancelledAt : ℤ} (input : UpdateInput) (h : RolloutInv none w)
    (hget : w.rollouts.get rollout.id = some rollout) (hopen : rollout.status.isOpen = true) :
    KeepsPhases (resumeUpdate (.cancelSave rollout cancelledAt) input w) := by
  have hsave : ∀ copy : AgentUpdateRolloutEntity, copy.id = rollout.id →
      copy.status = .cancelled → RolloutInv (some rollout.id) (saveRollout copy w) ∧
        HasStatus (saveRollout copy w) rollout.id .cancelled := by
    intro copy hid hcancelled
    rw [← hid] at hget ⊢
    exact ⟨(h.except copy.id).saveRolloutExcept hget fun _ => hopen,
      _, get_saveRollout hget, hcancelled⟩
  exact hsave _ rfl rfl

/-- The targets to cancel are loaded. -/
theorem resume_cancelFind {rolloutId : Uuid} {cancelledAt : ℤ} (input : UpdateInput)
    (h : RolloutInv (some rolloutId) w) (hstatus : HasStatus w rolloutId .cancelled) :
    KeepsPhases (resumeUpdate (.cancelFind rolloutId cancelledAt) input w) := by
  refine ⟨rolloutId, h, hstatus, fun target htarget => Or.inr (mem_sortedBy.mpr htarget), ?_⟩
  intro target htarget
  obtain ⟨hrow, hid⟩ := mem_targetsOf.mp (mem_sortedBy.mp htarget)
  exact ⟨target, Table.get_of_mem hrow, hid⟩

/-- One target after the other is cancelled. -/
theorem resume_cancelTargets {cancelledAt : ℤ} {remaining : List AgentUpdateRolloutTargetEntity}
    (input : UpdateInput) (h : CallOk w (.cancelTargets cancelledAt remaining)) :
    KeepsPhases (resumeUpdate (.cancelTargets cancelledAt remaining) input w) := by
  obtain ⟨rolloutId, hinv, hstatus, hterminal, hrows⟩ := h
  cases remaining with
  | nil =>
      obtain ⟨rollout, hget, hcancelled⟩ := hstatus
      obtain rfl := Table.key_of_get hget
      refine hinv.restore hget ?_
      rw [hcancelled]
      exact fun target htarget => (hterminal target htarget).resolve_right (by simp)
  | cons target rest =>
      obtain ⟨row, hrow, howner⟩ := hrows target List.mem_cons_self
      have hrest : ∀ other ∈ rest, ∃ row, w.targets.get other.id = some row ∧
          row.rolloutId = rolloutId := fun other hother =>
        hrows other (List.mem_cons_of_mem target hother)
      simp only [resumeUpdate]
      cases hcopy : cancelledTarget cancelledAt target with
      | none =>
          refine ⟨rolloutId, hinv, hstatus, fun other hother => ?_, hrest⟩
          rcases hterminal other hother with hdone | hmem
          · exact Or.inl hdone
          · rcases List.mem_cons.mp hmem with rfl | hmem
            · exact Or.inl (isTerminal_of_cancelledTarget_none hcopy)
            · exact Or.inr hmem
      | some copy =>
          obtain ⟨hid, hcancelled⟩ := cancelledTarget_some hcopy
          rw [← hid] at hrow
          refine ⟨rolloutId, ?_, hstatus, ?_, ?_⟩
          · rw [← howner] at hinv ⊢
            exact hinv.saveTarget hrow fun heq => absurd (hcancelled.symm.trans heq) (by simp)
          · intro other hother
            rcases (mem_targetsOf_saveTarget hrow).mp hother with ⟨hold, hne⟩ | ⟨rfl, -⟩
            · rcases hterminal other hold with hdone | hmem
              · exact Or.inl hdone
              · rcases List.mem_cons.mp hmem with rfl | hmem
                · exact absurd hid.symm hne
                · exact Or.inr hmem
            · rw [AgentUpdateRolloutTargetEntity.savedOver_status, hcancelled]
              exact Or.inl rfl
          · intro other hother
            obtain ⟨row', hrow', howner'⟩ := hrest other hother
            obtain ⟨row'', hget, heq⟩ := exists_saveTarget hrow hrow'
            exact ⟨row'', hget, heq.trans howner'⟩

/-! ## `handleAgentProgress` -/

/-- An active target belongs to a running rollout. -/
theorem running_of_isActive (h : RolloutInv none w) (hget : w.targets.get target.id = some target)
    (hactive : target.status.isActive = true)
    (hrollout : w.rollouts.get target.rolloutId = some rollout) : rollout.status = .running := by
  have hmem : target ∈ targetsOf target.rolloutId w :=
    mem_targetsOf.mpr ⟨Table.mem_of_get hget, rfl⟩
  have hphase := h.phaseOf ⟨rollout, hrollout, rfl⟩
  have hnotTerminal : target.status.isTerminal = false :=
    ((AgentUpdateTargetStatus.isActive_iff _).mp hactive).2
  cases hstatus : rollout.status with
  | running => rfl
  | queued =>
      rw [hstatus] at hphase
      exact absurd hactive (by simp [hphase target hmem, AgentUpdateTargetStatus.isActive])
  | paused =>
      rw [hstatus] at hphase
      exact absurd hactive (by simp [(hphase.1 target hmem).1])
  | completed =>
      rw [hstatus] at hphase
      rcases hphase target hmem with heq | heq
      · exact absurd hactive (by simp [heq, AgentUpdateTargetStatus.isActive])
      · exact absurd hactive (by simp [heq, AgentUpdateTargetStatus.isActive])
  | cancelled =>
      rw [hstatus] at hphase
      exact absurd (hphase target hmem) (by simp [hnotTerminal])

/-- The rollout of the reported target is loaded. -/
theorem resume_progressRollout {dto : ReportAgentUpdateProgressDto} (input : UpdateInput)
    (h : RolloutInv none w) (hget : w.targets.get target.id = some target)
    (hpending : target.status ≠ .pending) :
    KeepsPhases (resumeUpdate (.progressRollout target dto) input w) := by
  simp only [resumeUpdate]
  cases hrollout : w.rollouts.get target.rolloutId with
  | none => exact h
  | some rollout =>
      have hid : rollout.id = target.rolloutId := Table.key_of_get hrollout
      simp only
      split
      · exact h
      · next hterminal =>
          have hactive : target.status.isActive = true :=
            (AgentUpdateTargetStatus.isActive_iff _).mpr
              ⟨hpending, Bool.eq_false_iff.mpr hterminal⟩
          refine ⟨h, ⟨?_, running_of_isActive h hget hactive hrollout⟩, ⟨hget, hid.symm⟩, hactive⟩
          rw [hid]
          exact hrollout

/-- The active target is the only one. -/
theorem others_inactive (h : RolloutInv none w) (hrollout : Loaded w rollout .running)
    (htarget : LoadedTarget w rollout.id target) (hactive : target.status.isActive = true) :
    ∀ other ∈ targetsOf rollout.id w, other.id ≠ target.id → other.status.isActive = false := by
  intro other hother hne
  by_contra hotherActive
  rw [Bool.not_eq_false] at hotherActive
  have hphase := h.phaseOf hrollout.hasStatus
  exact hne (hphase.2 other hother target htarget.mem hotherActive hactive)

/-- The report is saved. -/
theorem resume_progressSave {dto : ReportAgentUpdateProgressDto} (input : UpdateInput)
    (h : RolloutInv none w) (hrollout : Loaded w rollout .running)
    (htarget : LoadedTarget w rollout.id target) (hactive : target.status.isActive = true) :
    KeepsPhases (progressSaveStep rollout target dto input w) := by
  have hinactive := others_inactive h hrollout htarget hactive
  have hphase := h.phaseOf hrollout.hasStatus
  obtain ⟨hget, howner⟩ := htarget
  have hrow : w.targets.get (progressedTarget input.now target dto).id = some target := hget
  unfold progressSaveStep
  simp only
  by_cases hfailed : dto.status = .failed
  · rw [if_pos hfailed]
    refine ⟨?_, fun l hl => by simp at hl, hrollout, ?_, ?_⟩
    · have hinv := h.except target.rolloutId
      rw [← howner]
      exact hinv.saveTarget hrow fun heq => absurd (hfailed.symm.trans heq) (by simp)
    · refine ⟨_, get_saveTarget hrow, ?_⟩
      rw [AgentUpdateRolloutTargetEntity.savedOver_rolloutId]
      exact howner
    · intro other hother hne
      rcases (mem_targetsOf_saveTarget hrow).mp hother with ⟨hold, hne'⟩ | ⟨rfl, -⟩
      · exact ⟨hinactive other hold hne', hphase.1 other hold⟩
      · rw [AgentUpdateRolloutTargetEntity.savedOver_id] at hne
        exact absurd rfl hne
  · have hreported : dto.status.isActive = true := dto.allowed.resolve_right hfailed
    rw [if_neg hfailed, if_pos (by rw [hrollout.2]; simp)]
    refine ⟨?_, hrollout⟩
    refine h.saveTargetPhase hrow howner hrollout.1 ?_ ?_
    · intro heq
      have heq' : dto.status = .completed := heq
      exact absurd hreported (by simp [heq', AgentUpdateTargetStatus.isActive])
    · rw [hrollout.2]
      constructor
      · refine forall_targetsOf_saveTarget
          (Q := fun status => status ≠ .failed ∧ status ≠ .cancelled) hrow
          (fun other hother _ => hphase.1 other hother) ⟨hfailed, fun heq => ?_⟩
        have heq' : dto.status = .cancelled := heq
        exact absurd hreported (by simp [heq', AgentUpdateTargetStatus.isActive])
      · exact AtMostOne.saveTarget hrow hphase.2 fun _ => hinactive

/-- The message of the rollout is saved. -/
theorem resume_progressMessage {dto : ReportAgentUpdateProgressDto} (input : UpdateInput)
    (h : RolloutInv none w) (hrollout : Loaded w rollout .running) :
    KeepsPhases (resumeUpdate (.progressMessage rollout target dto) input w) := by
  refine keepsPhases_saveRollout (h.except rollout.id) hrollout.1 rfl (fun hopen => hopen)
    (h.phase hrollout.1) ?_
  intro w' hinv _
  unfold progressEnd
  split
  · exact hinv
  · exact hinv

/-- The agent may have reconnected before it reported. -/
theorem resume_progressNode (input : UpdateInput) (h : RolloutInv none w) :
    KeepsPhases (resumeUpdate (.progressNode target) input w) := by
  simp only [resumeUpdate]
  cases hnode : w.nodes.get target.nodeId with
  | none => exact h
  | some node =>
      simp only
      split
      · exact ⟨h, fun l hl => by simp at hl, h.versions node (Table.mem_of_get hnode)⟩
      · exact h

/-! ## `observeNodeVersion` -/

/-- The target of the reported version is looked up. -/
theorem resume_observe {nodeId : Uuid} {agentVersion : Option String} (input : UpdateInput)
    (h : RolloutInv none w) (hloop : LoopDone loop)
    (hreported : ∀ version ∈ agentVersion, (nodeId, version) ∈ w.reported) :
    KeepsPhases (resumeUpdate (.observe nodeId agentVersion loop) input w) := by
  simp only [resumeUpdate]
  split
  · next target version hfound =>
      obtain ⟨hrow, hnode, hterminal, hstatus⟩ := observedTarget_some hfound
      split
      · next hversion =>
          refine ⟨h, hloop, Table.get_of_mem hrow, hterminal, ?_, hversion.2, ?_⟩
          · rw [hnode, hversion.2]
            exact hreported version rfl
          · exact hstatus.imp hasStatus_of_rolloutStatusOf hasStatus_of_rolloutStatusOf
      · exact keepsPhases_continueLoop h hloop
  · exact keepsPhases_continueLoop h hloop

/-- The rollout of the target is loaded. -/
theorem resume_observeRollout {agentVersion : String} (input : UpdateInput)
    (h : Observed w target agentVersion loop) :
    KeepsPhases (resumeUpdate (.observeRollout target agentVersion loop) input w) := by
  simp only [resumeUpdate]
  cases hrollout : w.rollouts.get target.rolloutId with
  | none => exact h.1
  | some rollout =>
      have hid : rollout.id = target.rolloutId := Table.key_of_get hrollout
      refine ⟨h, ?_, hid.symm⟩
      rw [hid]
      exact hrollout

/-- A completed target leaves its rollout running or paused. -/
theorem phase_observed {now : ℤ} {copy : AgentUpdateRolloutTargetEntity}
    (hphase : PhaseOk (targetsOf rollout.id w) rollout.status)
    (hstatus : rollout.status = .running ∨ rollout.status = .paused)
    (hrow : w.targets.get copy.id = some target) (hcopy : copy.status = .completed) :
    PhaseOk (targetsOf rollout.id (saveTarget now copy w)) rollout.status := by
  rcases hstatus with hstatus | hstatus
  · rw [hstatus] at hphase ⊢
    constructor
    · exact forall_targetsOf_saveTarget (Q := fun status => status ≠ .failed ∧ status ≠ .cancelled)
        hrow (fun other hother _ => hphase.1 other hother) (by simp [hcopy])
    · exact AtMostOne.saveTarget hrow hphase.2 fun hactive =>
        absurd hactive (by simp [hcopy, AgentUpdateTargetStatus.isActive])
  · rw [hstatus] at hphase ⊢
    constructor
    · exact forall_targetsOf_saveTarget
        (Q := fun status => status.isActive = false ∧ status ≠ .cancelled) hrow
        (fun other hother _ => hphase.1 other hother)
        (by simp [hcopy, AgentUpdateTargetStatus.isActive])
    · exact AtMostOne.saveTarget hrow hphase.2 fun hfailed => absurd hfailed (by simp [hcopy])

/-- The target is completed. -/
theorem resume_observeSave {agentVersion : String} (input : UpdateInput)
    (h : Observed w target agentVersion loop) (hget : w.rollouts.get rollout.id = some rollout)
    (howner : target.rolloutId = rollout.id) :
    KeepsPhases (resumeUpdate (.observeSave rollout target agentVersion loop) input w) := by
  obtain ⟨hinv, hloop, hrowOf, -, hreported, -, hstatus⟩ := h
  have hrow : w.targets.get (completedTarget input.now target agentVersion).id = some target :=
    hrowOf
  have hrollout : rollout.status = .running ∨ rollout.status = .paused := by
    rw [howner] at hstatus
    rcases hstatus with ⟨rollout', hget', heq⟩ | ⟨rollout', hget', heq⟩
    · rw [hget] at hget'
      obtain rfl := Option.some.inj hget'
      exact Or.inl heq
    · rw [hget] at hget'
      obtain rfl := Option.some.inj hget'
      exact Or.inr heq
  have hinv' : RolloutInv none
      (saveTarget input.now (completedTarget input.now target agentVersion) w) :=
    hinv.saveTargetPhase hrow howner hget (fun _ => hreported)
      (phase_observed (hinv.phase hget) hrollout hrow rfl)
  simp only [resumeUpdate]
  split
  · next hrunning => exact ⟨hinv', hloop, rollout, hget, hrunning⟩
  · exact keepsPhases_recorded hinv' hloop input.recordError

/-- The next target is dispatched, unless the event record throws. -/
theorem resume_observeDispatch {rolloutId : Uuid} (input : UpdateInput) (h : RolloutInv none w)
    (hloop : LoopDone loop) (hstatus : HasStatus w rolloutId .running) :
    KeepsPhases (resumeUpdate (.observeDispatch rolloutId loop) input w) := by
  simp only [resumeUpdate]
  split
  · exact h
  · exact ⟨h, hloop, hstatus⟩

/-! ## `reconcileActiveTargets` -/

/-- There is at most one target to reconcile. -/
theorem reconcileOk_reconciledTargets (rank : Uuid → ℕ) (h : RolloutInv none w) :
    ReconcileOk w (reconciledTargets rank w) := by
  have hactive : ∀ target ∈ reconciledTargets rank w, w.targets.get target.id = some target ∧
      target.status.isActive = true ∧ w.rolloutStatusOf target = some .running := by
    intro target htarget
    obtain ⟨hrow, hstatus, hrollout⟩ := mem_reconciledTargets.mp htarget
    exact ⟨Table.get_of_mem hrow, hstatus, hrollout⟩
  refine ⟨?_, hactive⟩
  -- one open rollout, and one active target of it
  have hsame : ∀ a ∈ reconciledTargets rank w, ∀ b ∈ reconciledTargets rank w, a = b := by
    intro a ha b hb
    obtain ⟨hgetA, hactiveA, hrolloutA⟩ := hactive a ha
    obtain ⟨hgetB, hactiveB, hrolloutB⟩ := hactive b hb
    obtain ⟨ra, hra, hrunningA⟩ := hasStatus_of_rolloutStatusOf hrolloutA
    obtain ⟨rb, hrb, hrunningB⟩ := hasStatus_of_rolloutStatusOf hrolloutB
    have hid : ra.id = rb.id := h.oneOpen ra (Table.mem_of_get hra) rb (Table.mem_of_get hrb)
      (by rw [hrunningA]; rfl) (by rw [hrunningB]; rfl)
    have howner : b.rolloutId = a.rolloutId :=
      (Table.key_of_get hrb).symm.trans (hid.symm.trans (Table.key_of_get hra))
    have hphase := h.phaseOf (hasStatus_of_rolloutStatusOf hrolloutA)
    have hids : a.id = b.id := hphase.2 a (mem_targetsOf.mpr ⟨Table.mem_of_get hgetA, rfl⟩) b
      (mem_targetsOf.mpr ⟨Table.mem_of_get hgetB, howner⟩) hactiveA hactiveB
    rw [hids, hgetB] at hgetA
    exact (Option.some.inj hgetA).symm
  have hnodup : (reconciledTargets rank w).Nodup := by
    refine (List.perm_insertionSort _ _).nodup_iff.mpr ?_
    exact (List.Nodup.of_map _ w.targets.distinct).filter _
  rcases hlist : reconciledTargets rank w with - | ⟨a, - | ⟨b, rest⟩⟩
  · simp
  · simp
  · rw [hlist] at hsame hnodup
    have heq : a = b := hsame a (by simp) b (by simp)
    exact absurd hnodup (by simp [heq])

/-- One target of the loop. -/
theorem resume_reconcile {loop : ReconcileLoop} (h : RolloutInv none w)
    (hloop : ReconcileOk w loop.remaining) : KeepsPhases (reconcileStep loop w) := by
  obtain ⟨hlength, htargets⟩ := hloop
  unfold reconcileStep
  split
  · exact h
  · next target rest heq =>
      rw [heq] at hlength htargets
      have hrest : rest = [] := List.length_eq_zero_iff.mp (by simpa using hlength)
      obtain ⟨hget, hactive, -⟩ := htargets target List.mem_cons_self
      simp only
      split
      · exact ⟨h, hrest, hget, hactive⟩
      · next node hnode =>
          split
          · refine ⟨h, fun l hl => ?_, fun version hversion => ?_⟩
            · obtain rfl := Option.some.inj hl
              exact hrest
            · have hid : node.id = target.nodeId := Table.key_of_get hnode
              rw [← hid]
              exact h.versions node (Table.mem_of_get hnode) version hversion
          · exact ⟨h, hrest, hget, hactive⟩

/-- The rollout is paused on a target whose task failed or that timed out. -/
theorem resume_reconcileRollout {loop : ReconcileLoop} (input : UpdateInput)
    (h : RolloutInv none w) (hdone : loop.remaining = [])
    (hget : w.targets.get target.id = some target) (hactive : target.status.isActive = true) :
    KeepsPhases (reconcileRolloutStep target loop input w) := by
  have hloop : LoopDone (some loop) := by
    intro l hl
    obtain rfl := Option.some.inj hl
    exact hdone
  have hpause : ∀ rollout, w.rollouts.get target.rolloutId = some rollout →
      ∀ (copy : AgentUpdateRolloutTargetEntity) (message : String), copy.id = target.id →
        KeepsPhases (w, some (.pauseTarget rollout copy message (some loop))) := by
    intro rollout hrollout copy message hcopy
    have hid : rollout.id = target.rolloutId := Table.key_of_get hrollout
    have hloaded : Loaded w rollout .running := by
      refine ⟨by rw [hid]; exact hrollout, ?_⟩
      exact running_of_isActive h hget hactive hrollout
    refine ⟨h.except rollout.id, hloop, hloaded, ⟨target, by rw [hcopy]; exact hget, hid.symm⟩, ?_⟩
    intro other hother hne
    rw [hcopy] at hne
    exact ⟨others_inactive h hloaded ⟨hget, hid.symm⟩ hactive other hother hne,
      (h.phaseOf hloaded.hasStatus).1 other hother⟩
  unfold reconcileRolloutStep
  split
  · exact h
  · next rollout hrollout =>
      split
      · exact hpause rollout hrollout _ _ rfl
      · split
        · exact keepsPhases_continueLoop h hloop
        · exact hpause rollout hrollout _ _ rfl

/-! ## Runs -/

/-- **A progress report is for a target that was dispatched.** -/
def ReportsDispatched (w : AgentUpdatesWorld) : UpdateRequest → UpdateInput → Prop
  | .handleAgentProgress targetId _ agentNodeId, _ =>
      ∀ target ∈ w.targets.get targetId, target.nodeId = agentNodeId → target.status ≠ .pending
  | _, _ => True

instance (w : AgentUpdatesWorld) (request : UpdateRequest) (input : UpdateInput) :
    Decidable (ReportsDispatched w request input) := by
  cases request <;> unfold ReportsDispatched <;> infer_instance

/-- The first step of an operation. -/
theorem invoke_keepsPhases {request : UpdateRequest} {input : UpdateInput}
    (h : RolloutInv none w) (hreport : ReportsDispatched w request input) :
    KeepsPhases (invokeUpdate request input w) := by
  have hget : ∀ {rolloutId : Uuid} {rollout : AgentUpdateRolloutEntity},
      w.rollouts.get rolloutId = some rollout → w.rollouts.get rollout.id = some rollout := by
    intro rolloutId rollout hrollout
    rw [Table.key_of_get hrollout]
    exact hrollout
  cases request with
  | createRollout nodeIds rollback =>
      simp only [invokeUpdate]
      split
      · split
        · exact h
        · next hnone => exact ⟨h, Nat.eq_zero_of_not_pos hnone⟩
      · exact h
  | resumeRollout rolloutId =>
      simp only [invokeUpdate]
      split
      · exact h
      · next rollout hrollout =>
          split
          · next hpaused => exact ⟨h, hget hrollout, hpaused⟩
          · exact h
  | cancelRollout rolloutId =>
      simp only [invokeUpdate]
      split
      · exact h
      · next rollout hrollout =>
          split
          · next hopen => exact ⟨h, hget hrollout, hopen⟩
          · exact h
  | retryTarget rolloutId targetId =>
      simp only [invokeUpdate]
      split
      · exact h
      · next rollout hrollout =>
          split
          · next hpaused => exact ⟨h, hget hrollout, hpaused⟩
          · exact h
  | skipTarget rolloutId targetId =>
      simp only [invokeUpdate]
      split
      · exact h
      · next rollout hrollout =>
          split
          · next hpaused => exact ⟨h, hget hrollout, hpaused⟩
          · exact h
  | handleAgentProgress targetId dto agentNodeId =>
      simp only [invokeUpdate]
      split
      · exact h
      · next target htarget =>
          split
          · next hnode =>
              have hid : target.id = targetId := Table.key_of_get htarget
              refine ⟨h, ?_, hreport target htarget hnode⟩
              rw [hid]
              exact htarget
          · exact h
  | observeNodeVersion nodeId =>
      simp only [invokeUpdate]
      split
      · exact h
      · next node hnode =>
          have hid : node.id = nodeId := Table.key_of_get hnode
          -- the version that is observed is one that the node has reported
          refine ⟨h, fun l hl => by simp at hl, fun version hversion => ?_⟩
          rw [← hid]
          exact h.versions node (Table.mem_of_get hnode) version hversion
  | reconcileActiveTargets => exact ⟨h, reconcileOk_reconciledTargets input.rank h⟩

/-- **Every later step of an operation.** -/
theorem resume_keepsPhases {call : PendingUpdateCall} {input : UpdateInput} (h : CallOk w call) :
    KeepsPhases (resumeUpdate call input w) := by
  cases call with
  | createNodes version rollback nodeIds nodes => exact resume_createNodes input h.1 h.2
  | createTargets rollout nodes => exact resume_createTargets input h.1 h.2
  | createStart rollout count => exact resume_createStart input h.1 h.2
  | dispatch rolloutId loop => exact resume_dispatch input h.1 h.2.1 h.2.2
  | dispatchCount rollout loop => exact resume_dispatchCount input h
  | dispatchNext rollout loop => exact resume_dispatchNext input h.1 h.2
  | dispatchComplete rollout loop => exact resume_dispatchComplete input h.1 h.2.1 h.2.2
  | dispatchNode rollout target loop => exact resume_dispatchNode input h
  | dispatchTask rollout target node loop => exact resume_dispatchTask input h
  | dispatchSave rollout target node taskId loop => exact resume_dispatchSave input h
  | dispatchRunning rollout node loop => exact resume_dispatchRunning input h
  | pauseTarget rollout target message loop => exact resume_pauseTarget input h
  | pauseRollout rollout message loop => exact resume_pauseRollout input h
  | resumeCount rollout => exact resume_resumeCount input h.1 h.2
  | startRollout rollout message => exact resume_startRollout input h.1 h.2.1 h.2.2
  | startDispatch rolloutId => exact resume_startDispatch input h.1 h.2
  | findFailed rollout targetId retry => exact resume_findFailed input h.1 h.2
  | saveRetried rollout target =>
      exact keepsPhases_unfail h.1 h.2.1 h.2.2.1 h.2.2.2 rfl (Or.inl rfl)
  | saveSkipped rollout target =>
      exact keepsPhases_unfail h.1 h.2.1 h.2.2.1 h.2.2.2 rfl (Or.inr rfl)
  | cancelSave rollout cancelledAt => exact resume_cancelSave input h.1 h.2.1 h.2.2
  | cancelFind rolloutId cancelledAt => exact resume_cancelFind input h.1 h.2
  | cancelTargets cancelledAt remaining => exact resume_cancelTargets input h
  | progressRollout target dto => exact resume_progressRollout input h.1 h.2.1 h.2.2
  | progressSave rollout target dto => exact resume_progressSave input h.1 h.2.1 h.2.2.1 h.2.2.2
  | progressMessage rollout target dto => exact resume_progressMessage input h.1 h.2
  | progressNode target => exact resume_progressNode input h
  | observe nodeId agentVersion loop => exact resume_observe input h.1 h.2.1 h.2.2
  | observeRollout target agentVersion loop => exact resume_observeRollout input h
  | observeSave rollout target agentVersion loop => exact resume_observeSave input h.1 h.2.1 h.2.2
  | observeDispatch rolloutId loop => exact resume_observeDispatch input h.1 h.2.1 h.2.2
  | reconcileTasks now targets => exact h
  | reconcile loop => exact resume_reconcile h.1 h.2
  | reconcileRollout target loop =>
      exact resume_reconcileRollout input h.1 h.2.1 h.2.2.1 h.2.2.2

/-- The nodes change between two operations. -/
theorem env_keepsPhases (e : UpdateEnv) (h : RolloutInv none w) :
    RolloutInv none (updateEnv e w) := by
  cases e with
  | nodeReported nodeId agentVersion =>
      refine ⟨h.phases, h.owned, ?_, ?_, h.oneOpen⟩
      · intro node hnode version hversion
        simp only [updateEnv] at hnode
        rcases Table.mem_update hnode with ⟨hold, -⟩ | ⟨row, -, hid, rfl⟩
        · exact List.mem_cons_of_mem _ (h.versions node hold version hversion)
        · have hnodeId : row.id = nodeId := of_decide_eq_true hid
          have heq : agentVersion = version := Option.some.inj hversion
          rw [withVersion_id, hnodeId, heq]
          exact List.mem_cons_self
      · intro target htarget hcompleted
        exact List.mem_cons_of_mem _ (h.completed target htarget hcompleted)
  | nodeCreated node =>
      refine ⟨h.phases, h.owned, ?_, h.completed, h.oneOpen⟩
      intro row hrow version hversion
      rcases Table.mem_insert hrow with hold | ⟨rfl, -⟩
      · exact h.versions row hold version hversion
      · exact absurd hversion (by simp)
  | nodeChanged node =>
      refine ⟨h.phases, h.owned, ?_, h.completed, h.oneOpen⟩
      intro row hrow version hversion
      simp only [updateEnv] at hrow
      rcases Table.mem_update hrow with ⟨hold, -⟩ | ⟨old, hold, -, rfl⟩
      · exact h.versions row hold version hversion
      · exact h.versions old hold version hversion

/-- The operations keep the phases. -/
theorem updateOutline : AloneOutline updateCalls updateEnv ReportsDispatched
    (fun _ _ _ => True) (fun _ _ => True) (RolloutInv none) CallOk where
  invoke := fun h hreport => invoke_keepsPhases h hreport
  resume := fun h _ => resume_keepsPhases h
  environment := fun {_ e} h _ => env_keepsPhases e h

/-- The tables before the first rollout. -/
theorem rolloutInv_empty : RolloutInv none ({} : AgentUpdatesWorld) := by
  refine ⟨?_, ?_, ?_, ?_, ?_⟩
  · intro rollout hrollout
    exact absurd hrollout (by simp [Table.empty])
  · intro target htarget
    exact absurd htarget (by simp [Table.empty])
  · intro node hnode
    exact absurd hnode (by simp [Table.empty])
  · intro target htarget
    exact absurd htarget (by simp [Table.empty])
  · intro a ha
    exact absurd ha (by simp [Table.empty])

/-- A rollout operation begins or moves, or the nodes change. -/
abbrev AtomicUpdateEvent := Event Unit UpdateRequest UpdateInput UpdateEnv

/-- The rollouts after a run of operations, one after the other. -/
def atomicRun (es : List AtomicUpdateEvent) :
    Config Unit AgentUpdatesWorld PendingUpdateCall :=
  run (step updateCalls updateEnv) (Config.idle {}) es

/-- **Rollout soundness.**  Between any two operations the rollouts are sound, if no agent
has reported progress for a target that was still pending. -/
theorem rollouts_sound {es : List AtomicUpdateEvent}
    (hes : Along (step updateCalls updateEnv)
      (AloneGuard ReportsDispatched (fun _ _ _ => True) (fun _ _ => True)) (Config.idle {}) es)
    (hidle : (atomicRun es).pending () = none) : RolloutsSound (atomicRun es).world :=
  (updateOutline.run rolloutInv_empty hes hidle).sound

/-! ## A report for a target that was never dispatched -/

/-- A rollout to two nodes that has dispatched its first target. -/
def dispatchedRollout : List AtomicUpdateEvent :=
  [.env (.nodeCreated { id := "n1", workspaceId := "w", name := "n1", hostname := "h1",
                        arch := "amd64" }),
   .env (.nodeCreated { id := "n2", workspaceId := "w", name := "n2", hostname := "h2",
                        arch := "amd64" }),
   .env (.nodeReported "n1" "1"),
   .env (.nodeReported "n2" "1"),
   .invoke () (.createRollout ["n1", "n2"] false) { release := some "2" },
   .resume () {}, .resume () {}, .resume () { rolloutId := "r" },
   .resume () { targetId := fun i => if i = 0 then "t1" else "t2" },
   .resume () {}, .resume () {}, .resume () {}, .resume () {}, .resume () {},
   .resume () { queue := .queued "k1" },
   .resume () {}, .resume () {}]

/-- Both nodes of a rollout reconnect with the new version, one after the other. -/
theorem rollouts_sound_two_nodes :
    RolloutsSound (atomicRun (dispatchedRollout ++
      [.invoke ()
         (.handleAgentProgress "t1" { status := .installing, allowed := Or.inl rfl } "n1") {},
       .resume () {}, .resume () {}, .resume () {},
       .env (.nodeReported "n1" "2"),
       .invoke () (.observeNodeVersion "n1") {},
       .resume () {}, .resume () {}, .resume () {}, .resume () {}, .resume () {}, .resume () {},
       .resume () {}, .resume () {}, .resume () { queue := .queued "k2" }, .resume () {},
       .resume () {},
       .env (.nodeReported "n2" "2"),
       .invoke () .reconcileActiveTargets {},
       .resume () {}, .resume () {}, .resume () {}, .resume () {}, .resume () {}, .resume () {},
       .resume () {}, .resume () {}, .resume () {}, .resume () {}, .resume () {}])).world :=
  rollouts_sound (by decide) (by rfl)

/-- The agent of the second node reports a failure. -/
def pendingFailure : List AtomicUpdateEvent :=
  dispatchedRollout ++
    [.invoke () (.handleAgentProgress "t2" { status := .failed, allowed := Or.inr rfl } "n2") {},
     .resume () {}, .resume () {}, .resume () {}, .resume () {}]

/-- **The failed target beside an active one.** -/
theorem pending_failure_unsound :
    Along (step updateCalls updateEnv)
        (AloneGuard (fun _ _ _ => True) (fun _ _ _ => True) (fun _ _ => True)) (Config.idle {})
        pendingFailure ∧
      (atomicRun pendingFailure).pending () = none ∧
      ¬ RolloutsSound (atomicRun pendingFailure).world := by
  refine ⟨by decide, by rfl, fun h => ?_⟩
  have hbeside : ∃ rollout ∈ (atomicRun pendingFailure).world.rollouts.rows,
      ∃ target ∈ targetsOf rollout.id (atomicRun pendingFailure).world,
        ∃ other ∈ targetsOf rollout.id (atomicRun pendingFailure).world,
          target.status = .failed ∧ other.status = .dispatched := by decide
  obtain ⟨rollout, hrollout, target, htarget, other, hother, hfailed, hdispatched⟩ := hbeside
  have hinactive := (h.failed rollout hrollout target htarget hfailed).2 other hother
  rw [hdispatched] at hinactive
  exact absurd hinactive (by decide)

end AgentUpdatesService
