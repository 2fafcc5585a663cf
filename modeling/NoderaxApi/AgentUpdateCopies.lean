/-
# The copies that the operations on rollouts carry

An operation loads a rollout, looks at its status, and writes several queries later what it
computed from its copy.  `Checked` says what the looks of each operation tell about the copies
it carries.  `CopiesCurrent` is the condition that the rows have not moved on in between: a
write finds the status that the copy was loaded with.

Three places do not look.  A dispatch goes on with a completed rollout, and the two that pause
a rollout after a failure take it in any status; there the condition is on the row they load.
-/
import NoderaxApi.AgentUpdateCalls

namespace AgentUpdatesService

open KeyedTable Interleaving Runs

variable {w w' w'' : AgentUpdatesWorld} {rolloutId targetId : Uuid}

/-! ## The condition -/

/-- The stored rollout has the status of the copy. -/
def RolloutAsLoaded (w : AgentUpdatesWorld) (copy : AgentUpdateRolloutEntity) : Prop :=
  ∀ row ∈ w.rollouts.get copy.id, row.status = copy.status

/-- The stored target has the status of the copy. -/
def TargetAsLoaded (w : AgentUpdatesWorld) (copy : AgentUpdateRolloutTargetEntity) : Prop :=
  ∀ row ∈ w.targets.get copy.id, row.status = copy.status

/-- The rollout that a target names is open. -/
def OfOpenRollout (w : AgentUpdatesWorld) (target : AgentUpdateRolloutTargetEntity) : Prop :=
  ∀ rollout ∈ w.rollouts.get target.rolloutId, rollout.status.isOpen = true

/-- The cron job pauses the rollout of the target: its task failed, or it timed out. -/
def FoundFailed (loop : ReconcileLoop) (target : AgentUpdateRolloutTargetEntity) : Prop :=
  (target.taskId.bind loop.failedTasks).isSome = true ∨
    target.status.timeoutThresholdMs ≤ loop.now - target.updatedAt

instance (w : AgentUpdatesWorld) (copy : AgentUpdateRolloutEntity) :
    Decidable (RolloutAsLoaded w copy) := by
  unfold RolloutAsLoaded; infer_instance

instance (w : AgentUpdatesWorld) (copy : AgentUpdateRolloutTargetEntity) :
    Decidable (TargetAsLoaded w copy) := by
  unfold TargetAsLoaded; infer_instance

instance (w : AgentUpdatesWorld) (target : AgentUpdateRolloutTargetEntity) :
    Decidable (OfOpenRollout w target) := by
  unfold OfOpenRollout; infer_instance

instance (loop : ReconcileLoop) (target : AgentUpdateRolloutTargetEntity) :
    Decidable (FoundFailed loop target) := by
  unfold FoundFailed; infer_instance

/-- The creation of a task inserts one, whether or not it throws afterwards. -/
def insertsTask : QueueOutcome → Bool
  | .refused _ => false
  | .queued _ | .failedAfterInsert _ _ => true

/-- **The copies are current**: what a step writes on the strength of a row it has loaded, it
writes while the row has the status it was loaded with. -/
def CopiesCurrent (w : AgentUpdatesWorld) : PendingUpdateCall → UpdateInput → Prop
  | .createTargets rollout _, _ => RolloutAsLoaded w rollout
  | .createStart rollout _, input => input.recordError = false → RolloutAsLoaded w rollout
  | .startRollout rollout _, _ => RolloutAsLoaded w rollout
  | .saveRetried rollout _, _ => RolloutAsLoaded w rollout
  | .dispatchTask rollout _ _ _, input =>
      insertsTask input.queue = true → RolloutAsLoaded w rollout
  | .dispatchSave rollout _ _ _ _, _ => RolloutAsLoaded w rollout
  | .dispatchRunning rollout _ _, _ => RolloutAsLoaded w rollout
  | .dispatchComplete rollout _, _ => RolloutAsLoaded w rollout
  | .pauseRollout rollout _ _, _ => RolloutAsLoaded w rollout
  | .cancelSave rollout _, _ => RolloutAsLoaded w rollout
  | .progressMessage rollout _ _, _ => RolloutAsLoaded w rollout
  | .progressSave _ target _, _ => TargetAsLoaded w target
  -- `dispatchNextTarget` looks for `cancelled` only
  | .dispatchNext rollout _, _ => rollout.status = .completed →
      ∀ target ∈ targetsOf rollout.id w, target.status ≠ .pending
  -- `pauseRolloutForTargetFailure` looks at no status
  | .progressRollout target dto, _ => dto.status = .failed → OfOpenRollout w target
  | .reconcileRollout target loop, _ => FoundFailed loop target → OfOpenRollout w target
  | _, _ => True

instance CopiesCurrent.decidable (w : AgentUpdatesWorld) (call : PendingUpdateCall)
    (input : UpdateInput) : Decidable (CopiesCurrent w call input) := by
  unfold CopiesCurrent
  split <;> infer_instance

/-! ## What the operations have checked -/

/-- The row `targetId` is a target of the rollout. -/
def IsTargetOf (w : AgentUpdatesWorld) (rolloutId targetId : Uuid) : Prop :=
  ∃ target, w.targets.get targetId = some target ∧ target.rolloutId = rolloutId

theorem isTargetOf_of_mem {target : AgentUpdateRolloutTargetEntity}
    (h : target ∈ targetsOf rolloutId w) : IsTargetOf w rolloutId target.id :=
  ⟨target, Table.get_of_mem (mem_targetsOf.mp h).1, (mem_targetsOf.mp h).2⟩

/-- **What an operation has found out** about the copies it carries. -/
def Checked (w : AgentUpdatesWorld) : PendingUpdateCall → Prop
  | .createTargets rollout _ | .createStart rollout _ | .resumeCount rollout
  | .startRollout rollout _ | .findFailed rollout _ _ | .dispatchRunning rollout _ _
  | .pauseTarget rollout _ _ _ | .pauseRollout rollout _ _ | .cancelSave rollout _ =>
      rollout.status.isOpen = true
  | .dispatchCount rollout _ | .dispatchNext rollout _ | .dispatchComplete rollout _ =>
      rollout.status ≠ .cancelled
  | .dispatchNode rollout target _ | .dispatchTask rollout target _ _
  | .dispatchSave rollout target _ _ _ =>
      rollout.status.isOpen = true ∧ IsTargetOf w rollout.id target.id ∧ target.status = .pending
  | .saveRetried rollout target | .saveSkipped rollout target =>
      rollout.status.isOpen = true ∧ IsTargetOf w rollout.id target.id
  | .progressSave rollout target dto =>
      target.status.isTerminal = false ∧ (dto.status = .failed → rollout.status.isOpen = true)
  | _ => True

/-- A copy that is current has been open or not as the row is. -/
theorem RolloutAsLoaded.isOpen {copy row : AgentUpdateRolloutEntity} (h : RolloutAsLoaded w copy)
    (hopen : copy.status.isOpen = true) (hrow : w.rollouts.get copy.id = some row) :
    row.status.isOpen = true := by
  rw [h row hrow]
  exact hopen

/-! ## The steps that only read -/

/-- The calls whose next step writes nothing. -/
def onlyReads : PendingUpdateCall → Bool
  | .dispatch .. | .dispatchCount .. | .dispatchNext .. | .dispatchNode .. | .resumeCount ..
  | .startDispatch .. | .findFailed .. | .cancelFind .. | .progressRollout .. | .progressNode ..
  | .observe .. | .observeRollout .. | .observeDispatch .. | .reconcileTasks .. | .reconcile ..
  | .reconcileRollout .. => true
  | _ => false

theorem reconcileStep_world (loop : ReconcileLoop) (w : AgentUpdatesWorld) :
    (reconcileStep loop w).1 = w := by
  fun_cases reconcileStep loop w <;> rfl

theorem reconcileRolloutStep_world (target : AgentUpdateRolloutTargetEntity) (loop : ReconcileLoop)
    (input : UpdateInput) (w : AgentUpdatesWorld) :
    (reconcileRolloutStep target loop input w).1 = w := by
  fun_cases reconcileRolloutStep target loop input w <;> rfl

/-- A step that only reads leaves the world as it is. -/
theorem resume_onlyReads {call : PendingUpdateCall} {input : UpdateInput}
    (h : onlyReads call = true) : (resumeUpdate call input w).1 = w := by
  fun_cases resumeUpdate call input w
  all_goals first
    | rfl
    | exact reconcileStep_world _ w
    | exact reconcileRolloutStep_world _ _ input w
    | exact absurd h (by simp [onlyReads])

/-- The first step of a call only reads. -/
theorem invokeUpdate_world (request : UpdateRequest) (input : UpdateInput)
    (w : AgentUpdatesWorld) : (invokeUpdate request input w).1 = w := by
  fun_cases invokeUpdate request input w <;> rfl

/-! ## Targets stay -/

/-- The targets of each rollout stay its targets. -/
def TargetsStay (w w' : AgentUpdatesWorld) : Prop :=
  ∀ rolloutId targetId, IsTargetOf w rolloutId targetId → IsTargetOf w' rolloutId targetId

theorem targetsStay_of_eq (h : w'.targets = w.targets) : TargetsStay w w' := by
  intro rolloutId targetId htarget
  unfold IsTargetOf
  rw [h]
  exact htarget

theorem TargetsStay.refl (w : AgentUpdatesWorld) : TargetsStay w w := targetsStay_of_eq rfl

theorem TargetsStay.trans (h : TargetsStay w w') (h' : TargetsStay w' w'') : TargetsStay w w'' :=
  fun rolloutId targetId htarget => h' rolloutId targetId (h rolloutId targetId htarget)

theorem targetsStay_saveTarget (now : ℤ) (copy : AgentUpdateRolloutTargetEntity) :
    TargetsStay w (saveTarget now copy w) := by
  rintro rolloutId targetId ⟨target, hget, hof⟩
  simp only [IsTargetOf, saveTarget, Table.get_update, hget, Option.map_some, Option.some.injEq,
    exists_eq_left']
  split
  · rw [AgentUpdateRolloutTargetEntity.savedOver_rolloutId]
    exact hof
  · exact hof

theorem targetsStay_insert (targets : List AgentUpdateRolloutTargetEntity) :
    TargetsStay w { w with targets := targets.foldl Table.insert w.targets } := by
  rintro rolloutId targetId ⟨target, hget, hof⟩
  exact ⟨target, Table.get_foldl_insert hget, hof⟩

/-- **No step takes a target from its rollout.** -/
theorem resume_targetsStay (call : PendingUpdateCall) (input : UpdateInput)
    (w : AgentUpdatesWorld) : TargetsStay w (resumeUpdate call input w).1 := by
  by_cases hreads : onlyReads call = true
  · rw [resume_onlyReads hreads]
    exact .refl w
  cases call with
  | createNodes version rollback nodeIds nodes =>
      simp only [resumeUpdate]
      fun_cases createNodesStep version rollback nodeIds nodes input w
      · exact .refl w
      · exact .refl w
      · exact targetsStay_of_eq rfl
      · exact .refl w
  | createTargets rollout nodes =>
      simp only [resumeUpdate]
      fun_cases createTargetsStep rollout nodes input w
      · exact targetsStay_insert _
      · exact .refl w
  | createStart rollout count =>
      simp only [resumeUpdate]
      split
      · exact .refl w
      · exact targetsStay_of_eq rfl
  | dispatchTask rollout target node loop =>
      simp only [resumeUpdate]
      fun_cases dispatchTaskStep rollout target node loop input w
      · exact .refl w
      · exact targetsStay_of_eq rfl
      · exact .refl w
      · exact targetsStay_of_eq rfl
  | dispatchComplete rollout loop | dispatchRunning rollout node loop
  | pauseRollout rollout message loop | startRollout rollout message
  | cancelSave rollout cancelledAt | progressMessage rollout target dto =>
      exact targetsStay_of_eq rfl
  | dispatchSave rollout target node taskId loop | pauseTarget rollout target message loop
  | saveRetried rollout target | saveSkipped rollout target | progressSave rollout target dto
  | observeSave rollout target agentVersion loop =>
      exact targetsStay_saveTarget _ _
  | cancelTargets cancelledAt remaining =>
      cases remaining with
      | nil => exact .refl w
      | cons target rest =>
          simp only [resumeUpdate]
          split
          · exact .refl w
          · exact targetsStay_saveTarget _ _
  | _ => exact absurd rfl hreads

/-- What happens to the nodes does not matter. -/
theorem updateEnv_targets (e : UpdateEnv) (w : AgentUpdatesWorld) :
    (updateEnv e w).targets = w.targets := by
  cases e <;> rfl

/-- What a call has checked is not undone by the others. -/
theorem Checked.stays {call : PendingUpdateCall} (h : Checked w call) (hstay : TargetsStay w w') :
    Checked w' call := by
  cases call with
  | dispatchNode rollout target loop | dispatchTask rollout target node loop
  | dispatchSave rollout target node taskId loop =>
      exact ⟨h.1, hstay _ _ h.2.1, h.2.2⟩
  | saveRetried rollout target | saveSkipped rollout target => exact ⟨h.1, hstay _ _ h.2⟩
  | _ => exact h

/-! ## Every operation checks what it carries -/

/-- A loop that goes on carries no rollout. -/
theorem checked_continueLoop (loop : Option ReconcileLoop) :
    ∀ call ∈ continueLoop loop, Checked w call := by
  intro call hcall
  obtain ⟨rest, -, rfl⟩ := Option.map_eq_some_iff.mp hcall
  trivial

/-- What a request finds out before its first pause. -/
theorem checked_invoke {request : UpdateRequest} {input : UpdateInput} :
    ∀ call ∈ (invokeUpdate request input w).2, Checked w call := by
  intro call hcall
  cases request with
  | createRollout nodeIds rollback =>
      simp only [invokeUpdate] at hcall
      split at hcall
      · split at hcall
        · cases hcall
        · obtain rfl := Option.some.inj hcall
          trivial
      · cases hcall
  | resumeRollout rolloutId | retryTarget rolloutId targetId | skipTarget rolloutId targetId =>
      simp only [invokeUpdate] at hcall
      split at hcall
      · cases hcall
      · next rollout hget =>
          split at hcall
          · next hpaused =>
              obtain rfl := Option.some.inj hcall
              simp only [Checked, hpaused, AgentUpdateRolloutStatus.isOpen]
          · cases hcall
  | cancelRollout rolloutId =>
      simp only [invokeUpdate] at hcall
      split at hcall
      · cases hcall
      · next rollout hget =>
          split at hcall
          · next hopen =>
              obtain rfl := Option.some.inj hcall
              exact hopen
          · cases hcall
  | handleAgentProgress targetId dto agentNodeId =>
      simp only [invokeUpdate] at hcall
      split at hcall
      · cases hcall
      · split at hcall
        · obtain rfl := Option.some.inj hcall
          trivial
        · cases hcall
  | observeNodeVersion nodeId =>
      simp only [invokeUpdate] at hcall
      split at hcall
      · cases hcall
      · obtain rfl := Option.some.inj hcall
        trivial
  | reconcileActiveTargets =>
      obtain rfl := Option.some.inj hcall
      trivial

/-- A paused rollout of a failing target was open when it was loaded. -/
theorem checked_reconcileRollout {target : AgentUpdateRolloutTargetEntity} {loop : ReconcileLoop}
    {input : UpdateInput} (hcurrent : FoundFailed loop target → OfOpenRollout w target) :
    ∀ call ∈ (reconcileRolloutStep target loop input w).2, Checked w call := by
  intro call hcall
  unfold reconcileRolloutStep at hcall
  split at hcall
  · cases hcall
  · next rollout hget =>
      split at hcall
      · next task hfailed =>
          obtain rfl := Option.some.inj hcall
          exact hcurrent (Or.inl (by rw [hfailed]; rfl)) rollout hget
      · split at hcall
        · obtain rfl := Option.some.inj hcall
          trivial
        · next hlate =>
            obtain rfl := Option.some.inj hcall
            exact hcurrent (Or.inr (not_lt.mp hlate)) rollout hget

/-- **What a step finds out**, and what it hands on of what was found out before. -/
theorem checked_resume {call : PendingUpdateCall} {input : UpdateInput} (hchecked : Checked w call)
    (hcurrent : CopiesCurrent w call input) :
    ∀ next ∈ (resumeUpdate call input w).2, Checked (resumeUpdate call input w).1 next := by
  have hstay := resume_targetsStay call input w
  intro next hnext
  cases call with
  | createNodes version rollback nodeIds nodes =>
      simp only [resumeUpdate] at hnext
      unfold createNodesStep at hnext
      split at hnext
      · split at hnext
        · cases hnext
        · obtain rfl := Option.some.inj hnext
          trivial
      · simp only at hnext
        split at hnext
        · obtain rfl := Option.some.inj hnext
          rfl
        · obtain rfl := Option.some.inj hnext
          trivial
  | createTargets rollout nodes =>
      simp only [resumeUpdate] at hnext
      unfold createTargetsStep at hnext
      simp only at hnext
      split at hnext
      · obtain rfl := Option.some.inj hnext
        exact hchecked
      · obtain rfl := Option.some.inj hnext
        exact hchecked
  | createStart rollout count =>
      simp only [resumeUpdate] at hnext
      split at hnext
      · cases hnext
      · obtain rfl := Option.some.inj hnext
        trivial
  | dispatch rolloutId loop =>
      simp only [resumeUpdate] at hnext
      split at hnext
      · cases hnext
      · next rollout hget =>
          split at hnext
          · exact checked_continueLoop loop next hnext
          · next hnot =>
              obtain rfl := Option.some.inj hnext
              exact hnot
  | dispatchCount rollout loop =>
      simp only [resumeUpdate] at hnext
      split at hnext
      · exact checked_continueLoop loop next hnext
      · obtain rfl := Option.some.inj hnext
        exact hchecked
  | dispatchNext rollout loop =>
      simp only [resumeUpdate] at hnext
      split at hnext
      · obtain rfl := Option.some.inj hnext
        exact hchecked
      · next target htarget =>
          obtain rfl := Option.some.inj hnext
          obtain ⟨hmem, hpending⟩ := nextPending_some htarget
          rw [resume_onlyReads rfl]
          refine ⟨?_, isTargetOf_of_mem hmem, hpending⟩
          -- a rollout that is completed has nothing left to take
          cases hstatus : rollout.status with
          | completed => exact absurd hpending (hcurrent hstatus target hmem)
          | cancelled => exact absurd hstatus hchecked
          | queued | running | paused => rfl
  | dispatchComplete rollout loop => exact checked_continueLoop loop next hnext
  | dispatchNode rollout target loop =>
      simp only [resumeUpdate] at hnext
      split at hnext
      · obtain rfl := Option.some.inj hnext
        exact hchecked.1
      · obtain rfl := Option.some.inj hnext
        exact hchecked.stays hstay
  | dispatchTask rollout target node loop =>
      have hnow := hchecked.stays hstay
      simp only [resumeUpdate] at hnext
      unfold dispatchTaskStep at hnext
      split at hnext
      · cases hnext
      · cases hnext
      · split at hnext
        · obtain rfl := Option.some.inj hnext
          exact hnow
        · obtain rfl := Option.some.inj hnext
          exact hnow
  | dispatchSave rollout target node taskId loop =>
      obtain rfl := Option.some.inj hnext
      exact hchecked.1
  | dispatchRunning rollout node loop =>
      simp only [resumeUpdate] at hnext
      split at hnext
      · cases hnext
      · exact checked_continueLoop loop next hnext
  | pauseTarget rollout target message loop =>
      obtain rfl := Option.some.inj hnext
      exact hchecked
  | pauseRollout rollout message loop =>
      simp only [resumeUpdate] at hnext
      split at hnext
      · cases hnext
      · exact checked_continueLoop loop next hnext
  | resumeCount rollout =>
      simp only [resumeUpdate] at hnext
      split at hnext
      · cases hnext
      · obtain rfl := Option.some.inj hnext
        exact hchecked
  | startRollout rollout message =>
      obtain rfl := Option.some.inj hnext
      trivial
  | startDispatch rolloutId =>
      simp only [resumeUpdate] at hnext
      split at hnext
      · cases hnext
      · obtain rfl := Option.some.inj hnext
        trivial
  | findFailed rollout targetId retry =>
      simp only [resumeUpdate] at hnext
      split at hnext
      · cases hnext
      · next target hget =>
          split at hnext
          · cases hnext
          · next hfound =>
              have hof : IsTargetOf w rollout.id target.id := by
                refine isTargetOf_of_mem (mem_targetsOf.mpr ⟨Table.mem_of_get hget, ?_⟩)
                by_contra hother
                exact hfound (Or.inl hother)
              rw [resume_onlyReads rfl]
              split at hnext
              · obtain rfl := Option.some.inj hnext
                exact ⟨hchecked, hof⟩
              · obtain rfl := Option.some.inj hnext
                exact ⟨hchecked, hof⟩
  | saveRetried rollout target | saveSkipped rollout target =>
      obtain rfl := Option.some.inj hnext
      exact hchecked.1
  | cancelSave rollout cancelledAt =>
      obtain rfl := Option.some.inj hnext
      trivial
  | cancelFind rolloutId cancelledAt =>
      obtain rfl := Option.some.inj hnext
      trivial
  | cancelTargets cancelledAt remaining =>
      cases remaining with
      | nil => cases hnext
      | cons target rest =>
          simp only [resumeUpdate] at hnext
          split at hnext
          · obtain rfl := Option.some.inj hnext
            trivial
          · obtain rfl := Option.some.inj hnext
            trivial
  | progressRollout target dto =>
      simp only [resumeUpdate] at hnext
      split at hnext
      · cases hnext
      · next rollout hget =>
          split at hnext
          · cases hnext
          · next hlive =>
              obtain rfl := Option.some.inj hnext
              exact ⟨Bool.eq_false_iff.mpr hlive, fun hfailed => hcurrent hfailed rollout hget⟩
  | progressSave rollout target dto =>
      simp only [resumeUpdate, progressSaveStep, progressEnd] at hnext
      split at hnext
      · next hfailed =>
          obtain rfl := Option.some.inj hnext
          exact hchecked.2 hfailed
      · split at hnext
        · obtain rfl := Option.some.inj hnext
          trivial
        · split at hnext
          · obtain rfl := Option.some.inj hnext
            trivial
          · cases hnext
  | progressMessage rollout target dto =>
      simp only [resumeUpdate, progressEnd] at hnext
      split at hnext
      · obtain rfl := Option.some.inj hnext
        trivial
      · cases hnext
  | progressNode target =>
      simp only [resumeUpdate] at hnext
      split at hnext
      · cases hnext
      · split at hnext
        · obtain rfl := Option.some.inj hnext
          trivial
        · cases hnext
  | observe nodeId agentVersion loop =>
      simp only [resumeUpdate] at hnext
      split at hnext
      · split at hnext
        · obtain rfl := Option.some.inj hnext
          trivial
        · exact checked_continueLoop loop next hnext
      · exact checked_continueLoop loop next hnext
  | observeRollout target agentVersion loop =>
      simp only [resumeUpdate] at hnext
      split at hnext
      · cases hnext
      · obtain rfl := Option.some.inj hnext
        trivial
  | observeSave rollout target agentVersion loop =>
      simp only [resumeUpdate] at hnext
      split at hnext
      · obtain rfl := Option.some.inj hnext
        trivial
      · split at hnext
        · cases hnext
        · exact checked_continueLoop loop next hnext
  | observeDispatch rolloutId loop =>
      simp only [resumeUpdate] at hnext
      split at hnext
      · cases hnext
      · obtain rfl := Option.some.inj hnext
        trivial
  | reconcileTasks now targets =>
      obtain rfl := Option.some.inj hnext
      trivial
  | reconcile loop =>
      simp only [resumeUpdate] at hnext
      unfold reconcileStep at hnext
      split at hnext
      · cases hnext
      · simp only at hnext
        split at hnext
        · obtain rfl := Option.some.inj hnext
          trivial
        · split at hnext
          · obtain rfl := Option.some.inj hnext
            trivial
          · obtain rfl := Option.some.inj hnext
            trivial
  | reconcileRollout target loop =>
      rw [resume_onlyReads rfl]
      exact checked_reconcileRollout hcurrent next hnext

/-- **The outline of the checks.** -/
theorem checked_outline : Outline updateCalls updateEnv (fun _ _ _ => True) CopiesCurrent
    (fun _ _ => True) (fun _ => True) Checked where
  invoke {w request input} _ _ := by
    refine ⟨trivial, fun call hcall => ?_⟩
    have hworld : (updateCalls.invoke request input w).1 = w := invokeUpdate_world request input w
    rw [hworld]
    exact checked_invoke call hcall
  resume _ hchecked hcurrent := ⟨trivial, checked_resume hchecked hcurrent⟩
  environment _ _ := trivial
  invoke_stable {w request input l} _ _ hchecked := by
    have hworld : (updateCalls.invoke request input w).1 = w := invokeUpdate_world request input w
    rw [hworld]
    exact hchecked
  resume_stable {w l input l'} _ _ _ hchecked := hchecked.stays (resume_targetsStay l input w)
  environment_stable {w e l} _ _ hchecked :=
    hchecked.stays (targetsStay_of_eq (updateEnv_targets e w))

end AgentUpdatesService
