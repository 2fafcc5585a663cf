/-
# Rollouts that have ended

Every operation on a rollout saves a copy of its row that it loaded earlier, with another
status: a save that comes after the rollout was cancelled or completed brings it back.  In
the same way a dispatch that had passed its checks before a cancellation goes on after it.

The rollouts keep their end in every run in which the copies are current.
-/
import NoderaxApi.AgentUpdatePhases
import NoderaxApi.AgentUpdateRaces

open KeyedTable Runs Interleaving

namespace AgentUpdatesService

variable {w w' w'' : AgentUpdatesWorld} {rolloutId targetId : Uuid}

/-! ## What must not change -/

/-- The rollout is cancelled. -/
def IsCancelled (w : AgentUpdatesWorld) (rolloutId : Uuid) : Prop :=
  ∃ rollout, w.rollouts.get rolloutId = some rollout ∧ rollout.status = .cancelled

/-- A rollout that has ended keeps its status. -/
def EndKept (w w' : AgentUpdatesWorld) : Prop :=
  ∀ rollout ∈ w.rollouts.rows, rollout.status.isOpen = false →
    ∃ rollout', w'.rollouts.get rollout.id = some rollout' ∧ rollout'.status = rollout.status

/-- No target of the rollout is in a dispatched status. -/
def NoneActive (w : AgentUpdatesWorld) (rolloutId : Uuid) : Prop :=
  ∀ target ∈ targetsOf rolloutId w, target.status.isActive = false

/-- No update task was created for a target of the rollout. -/
def NoTaskCreated (rolloutId : Uuid) (w w' : AgentUpdatesWorld) : Prop :=
  ∀ targetId, IsTargetOf w rolloutId targetId → ∀ taskId, (targetId, taskId) ∈ w'.tasks →
    (targetId, taskId) ∈ w.tasks

/-! ## What one step keeps -/

/-- What a step does not do to the rollouts that have ended. -/
structure Careful (w w' : AgentUpdatesWorld) : Prop where
  ended : ∀ rollout ∈ w.rollouts.rows, ∃ rollout', w'.rollouts.get rollout.id = some rollout' ∧
    (rollout.status.isOpen = false → rollout'.status = rollout.status)
  targets : TargetsStay w w'
  live : ∀ rolloutId, IsCancelled w rolloutId → ∀ target' ∈ targetsOf rolloutId w',
    target'.status.isTerminal = false →
      ∃ target ∈ targetsOf rolloutId w, target.id = target'.id ∧ target.status.isTerminal = false
  tasks : ∀ rolloutId, IsCancelled w rolloutId → NoTaskCreated rolloutId w w'

/-- A step that leaves the rows and the tasks alone. -/
theorem Careful.of_tables (hrollouts : w'.rollouts = w.rollouts) (htargets : w'.targets = w.targets)
    (htasks : w'.tasks = w.tasks) : Careful w w' := by
  refine ⟨?_, targetsStay_of_eq htargets, ?_, ?_⟩
  · intro rollout hmem
    rw [hrollouts]
    exact ⟨rollout, Table.get_of_mem hmem, fun _ => rfl⟩
  · intro rolloutId _ target hmem hlive
    rw [mem_targetsOf, htargets] at hmem
    exact ⟨target, mem_targetsOf.mpr hmem, rfl, hlive⟩
  · intro rolloutId _ targetId _ taskId hmem
    rw [htasks] at hmem
    exact hmem

theorem Careful.refl (w : AgentUpdatesWorld) : Careful w w := .of_tables rfl rfl rfl

/-- The save of a copy onto a rollout that is open, or that has ended with the same status. -/
theorem careful_saveRollout {copy : AgentUpdateRolloutEntity}
    (h : ∀ row, w.rollouts.get copy.id = some row →
      row.status.isOpen = true ∨ row.status = copy.status) :
    Careful w (saveRollout copy w) := by
  have hsame : Careful w { w with rollouts := w.rollouts } := .refl w
  refine ⟨?_, hsame.targets, hsame.live, hsame.tasks⟩
  intro rollout hmem
  simp only [saveRollout, Table.get_update, Table.get_of_mem hmem, Option.map_some]
  refine ⟨_, rfl, fun hended => ?_⟩
  split
  · next hid =>
      have hget : w.rollouts.get copy.id = some rollout := by
        rw [← of_decide_eq_true hid]
        exact Table.get_of_mem hmem
      rcases h rollout hget with hopen | hstatus
      · rw [hended] at hopen
        exact absurd hopen (by simp)
      · exact hstatus.symm
  · rfl

/-- The save of an open copy that is current. -/
theorem careful_saveOpen {loaded copy : AgentUpdateRolloutEntity}
    (hcurrent : RolloutAsLoaded w loaded)
    (hopen : loaded.status.isOpen = true) (hid : copy.id = loaded.id) :
    Careful w (saveRollout copy w) := by
  refine careful_saveRollout fun row hrow => Or.inl ?_
  rw [hid] at hrow
  exact hcurrent.isOpen hopen hrow

/-- A rollout whose open copy is current is not cancelled. -/
theorem not_cancelled_of_current {loaded : AgentUpdateRolloutEntity}
    (hcurrent : RolloutAsLoaded w loaded) (hopen : loaded.status.isOpen = true) :
    ¬ IsCancelled w loaded.id := by
  rintro ⟨row, hrow, hcancelled⟩
  have hrowOpen := hcurrent.isOpen hopen hrow
  rw [hcancelled] at hrowOpen
  exact absurd hrowOpen (by decide)

/-- The rollouts of a target. -/
theorem IsTargetOf.eq {rolloutId' : Uuid} (h : IsTargetOf w rolloutId targetId)
    (h' : IsTargetOf w rolloutId' targetId) : rolloutId = rolloutId' := by
  obtain ⟨target, hget, rfl⟩ := h
  obtain ⟨target', hget', rfl⟩ := h'
  rw [hget] at hget'
  obtain rfl := Option.some.inj hget'
  rfl

/-- The save of a target of a rollout that is not cancelled, or of one that does not come
alive. -/
theorem careful_saveTarget {now : ℤ} {copy : AgentUpdateRolloutTargetEntity}
    (h : copy.status.isTerminal = false → ∀ row, w.targets.get copy.id = some row →
      ¬ IsCancelled w row.rolloutId ∨ row.status.isTerminal = false) :
    Careful w (saveTarget now copy w) := by
  have hsame : Careful w { w with passages := w.passages } := .refl w
  refine ⟨hsame.ended, targetsStay_saveTarget now copy, ?_, hsame.tasks⟩
  intro rolloutId hcancelled target' hmem hlive
  obtain ⟨hmem, hof⟩ := mem_targetsOf.mp hmem
  simp only [saveTarget] at hmem
  rcases Table.mem_update hmem with ⟨hold, -⟩ | ⟨row, hrow, hid, rfl⟩
  · exact ⟨target', mem_targetsOf.mpr ⟨hold, hof⟩, rfl, hlive⟩
  · have hget : w.targets.get copy.id = some row := by
      rw [← of_decide_eq_true hid]
      exact Table.get_of_mem hrow
    rw [AgentUpdateRolloutTargetEntity.savedOver_rolloutId] at hof
    rw [AgentUpdateRolloutTargetEntity.savedOver_status] at hlive
    rcases h hlive row hget with hnot | hrowLive
    · rw [hof] at hnot
      exact absurd hcancelled hnot
    · refine ⟨row, mem_targetsOf.mpr ⟨hrow, hof⟩, ?_, hrowLive⟩
      exact (AgentUpdateRolloutTargetEntity.savedOver_id now copy row).symm

/-- The save of a target that has ended. -/
theorem careful_saveEnded {now : ℤ} {copy : AgentUpdateRolloutTargetEntity}
    (h : copy.status.isTerminal = true) : Careful w (saveTarget now copy w) :=
  careful_saveTarget fun hlive => absurd hlive (by simp [h])

/-- The save of a target of a rollout that is not cancelled. -/
theorem careful_saveOf {now : ℤ} {copy : AgentUpdateRolloutTargetEntity}
    (hof : IsTargetOf w rolloutId copy.id) (hnot : ¬ IsCancelled w rolloutId) :
    Careful w (saveTarget now copy w) := by
  refine careful_saveTarget fun _ row hrow => Or.inl ?_
  rw [IsTargetOf.eq ⟨row, hrow, rfl⟩ hof]
  exact hnot

/-- A new rollout. -/
theorem careful_insertRollout (rollout : AgentUpdateRolloutEntity) :
    Careful w { w with rollouts := w.rollouts.insert rollout } := by
  have hsame : Careful w { w with rollouts := w.rollouts } := .refl w
  refine ⟨?_, hsame.targets, hsame.live, hsame.tasks⟩
  intro row hmem
  exact ⟨row, Table.get_insert_of_get (Table.get_of_mem hmem), fun _ => rfl⟩

/-- The targets of a new rollout that is not cancelled. -/
theorem careful_insertTargets {targets : List AgentUpdateRolloutTargetEntity}
    (hof : ∀ target ∈ targets, target.rolloutId = rolloutId) (hnot : ¬ IsCancelled w rolloutId) :
    Careful w { w with targets := targets.foldl Table.insert w.targets } := by
  have hsame : Careful w { w with targets := w.targets } := .refl w
  refine ⟨hsame.ended, targetsStay_insert targets, ?_, hsame.tasks⟩
  intro cancelledId hcancelled target' hmem hlive
  obtain ⟨hmem, hofTarget⟩ := mem_targetsOf.mp hmem
  rcases Table.mem_foldl_insert hmem with hold | hnew
  · exact ⟨target', mem_targetsOf.mpr ⟨hold, hofTarget⟩, rfl, hlive⟩
  · rw [← hofTarget, hof target' hnew] at hcancelled
    exact absurd hcancelled hnot

/-- A new task for a target of a rollout that is not cancelled. -/
theorem careful_addTask {taskId : Uuid} (hof : IsTargetOf w rolloutId targetId)
    (hnot : ¬ IsCancelled w rolloutId) :
    Careful w { w with tasks := (targetId, taskId) :: w.tasks } := by
  have hsame : Careful w { w with passages := w.passages } := .refl w
  refine ⟨hsame.ended, hsame.targets, hsame.live, ?_⟩
  intro cancelledId hcancelled targetId' hof' taskId' hmem
  rcases List.mem_cons.mp hmem with hnew | hold
  · obtain ⟨rfl, rfl⟩ := Prod.mk.inj hnew
    rw [hof'.eq hof] at hcancelled
    exact absurd hcancelled hnot
  · exact hold

/-! ## The steps of the calls -/

/-- The saves of `createRollout`. -/
theorem createNodes_careful (version : String) (rollback : Bool) (nodeIds : List Uuid)
    (nodes : List UpdatableNode) (input : UpdateInput) (w : AgentUpdatesWorld) :
    Careful w (createNodesStep version rollback nodeIds nodes input w).1 := by
  unfold createNodesStep
  cases nodeIds with
  | cons nodeId rest =>
      simp only
      split
      · exact .refl w
      · exact .refl w
  | nil =>
      simp only
      split
      · exact careful_insertRollout _
      · exact .refl w

theorem createTargets_careful {rollout : AgentUpdateRolloutEntity} {nodes : List UpdatableNode}
    {input : UpdateInput} (hnot : ¬ IsCancelled w rollout.id) :
    Careful w (createTargetsStep rollout nodes input w).1 := by
  unfold createTargetsStep
  simp only
  split
  · refine careful_insertTargets (fun target htarget => ?_) hnot
    obtain ⟨node, -, rfl⟩ := List.mem_map.mp htarget
    rfl
  · exact .refl w

/-- The creation of an update task. -/
theorem dispatchTask_careful {rollout : AgentUpdateRolloutEntity}
    {target : AgentUpdateRolloutTargetEntity} {node : UpdatableNode} {loop : Option ReconcileLoop}
    {input : UpdateInput} (hof : IsTargetOf w rollout.id target.id)
    (hnot : insertsTask input.queue = true → ¬ IsCancelled w rollout.id) :
    Careful w (dispatchTaskStep rollout target node loop input w).1 := by
  unfold dispatchTaskStep
  split
  · exact .refl w
  · next taskId message hqueue => exact careful_addTask hof (hnot (by rw [hqueue]; rfl))
  · next taskId hqueue =>
      split
      · exact .refl w
      · exact careful_addTask hof (hnot (by rw [hqueue]; rfl))

/-- One save of `cancelRollout`. -/
theorem cancelTargets_careful (cancelledAt : ℤ) (remaining : List AgentUpdateRolloutTargetEntity)
    (input : UpdateInput) (w : AgentUpdatesWorld) :
    Careful w (resumeUpdate (.cancelTargets cancelledAt remaining) input w).1 := by
  cases remaining with
  | nil => exact .refl w
  | cons target rest =>
      simp only [resumeUpdate]
      split
      · exact .refl w
      · next copy hcopy =>
          refine careful_saveEnded ?_
          rw [(cancelledTarget_some hcopy).2]
          rfl

/-- The save of a progress report: the target has not ended, as when it was loaded. -/
theorem progressSave_careful {rollout : AgentUpdateRolloutEntity}
    {target : AgentUpdateRolloutTargetEntity} {dto : ReportAgentUpdateProgressDto}
    {input : UpdateInput} (hlive : target.status.isTerminal = false)
    (hcurrent : TargetAsLoaded w target) :
    Careful w (progressSaveStep rollout target dto input w).1 := by
  refine careful_saveTarget fun _ row hrow => Or.inr ?_
  rw [hcurrent row hrow]
  exact hlive

/-- **One step of a call** whose copies are current: what the operation has checked of them
still holds of the rows. -/
theorem resume_careful {call : PendingUpdateCall} {input : UpdateInput} (hchecked : Checked w call)
    (hcurrent : CopiesCurrent w call input) : Careful w (resumeUpdate call input w).1 := by
  by_cases hreads : onlyReads call = true
  · rw [resume_onlyReads hreads]
    exact .refl w
  · cases call with
    | createNodes version rollback nodeIds nodes =>
        exact createNodes_careful version rollback nodeIds nodes input w
    | createTargets rollout nodes =>
        exact createTargets_careful (not_cancelled_of_current hcurrent hchecked)
    | createStart rollout count =>
        simp only [resumeUpdate]
        split
        · exact .refl w
        · next hrecord =>
            exact careful_saveOpen (hcurrent (Bool.eq_false_iff.mpr hrecord)) hchecked rfl
    | dispatchComplete rollout loop =>
        refine careful_saveRollout fun row hrow => ?_
        have hstatus : row.status = rollout.status := hcurrent row hrow
        have hnot : rollout.status ≠ .cancelled := hchecked
        rw [hstatus]
        cases hcopy : rollout.status with
        | cancelled => exact absurd hcopy hnot
        | completed => exact Or.inr rfl
        | queued | running | paused => exact Or.inl rfl
    | dispatchTask rollout target node loop =>
        exact dispatchTask_careful hchecked.2.1 fun hinserts =>
          not_cancelled_of_current (hcurrent hinserts) hchecked.1
    | dispatchSave rollout target node taskId loop =>
        exact careful_saveOf hchecked.2.1 (not_cancelled_of_current hcurrent hchecked.1)
    | dispatchRunning rollout node loop => exact careful_saveOpen hcurrent hchecked rfl
    | pauseTarget rollout target message loop => exact careful_saveEnded rfl
    | pauseRollout rollout message loop => exact careful_saveOpen hcurrent hchecked rfl
    | startRollout rollout message => exact careful_saveOpen hcurrent hchecked rfl
    | saveRetried rollout target =>
        exact careful_saveOf hchecked.2 (not_cancelled_of_current hcurrent hchecked.1)
    | saveSkipped rollout target => exact careful_saveEnded rfl
    | cancelSave rollout cancelledAt => exact careful_saveOpen hcurrent hchecked rfl
    | cancelTargets cancelledAt remaining =>
        exact cancelTargets_careful cancelledAt remaining input w
    | progressSave rollout target dto => exact progressSave_careful hchecked.1 hcurrent
    | progressMessage rollout target dto =>
        exact careful_saveRollout fun row hrow => Or.inr (hcurrent row hrow)
    | observeSave rollout target agentVersion loop => exact careful_saveEnded rfl
    | _ => exact absurd rfl hreads

/-- **One event.** -/
theorem event_careful {c : UpdateConfig ℕ} {e : UpdateEvent ℕ}
    (hchecked : Good (fun _ => True) Checked c) (hg : ResumeGuard CopiesCurrent c e) :
    Careful c.world (step updateCalls updateEnv c e).world := by
  cases e with
  | invoke p request input =>
      cases hp : c.pending p with
      | some call =>
          rw [step_invoke_busy hp]
          exact .refl c.world
      | none =>
          rw [step_invoke hp]
          show Careful c.world (invokeUpdate request input c.world).1
          rw [invokeUpdate_world]
          exact .refl c.world
  | resume p input =>
      cases hp : c.pending p with
      | none =>
          rw [step_resume_idle hp]
          exact .refl c.world
      | some call =>
          rw [step_resume hp]
          exact resume_careful (hchecked.2 p call hp) (hg call hp)
  | env e =>
      rw [step_env]
      cases e with
      | nodeReported nodeId agentVersion => exact .of_tables rfl rfl rfl
      | nodeCreated node => exact .of_tables rfl rfl rfl
      | nodeChanged node => exact .of_tables rfl rfl rfl

/-! ## Cancellations that have returned -/

/-- The rollouts, with the rollout of each pending `cancelRollout` and the rollouts whose
cancellation has returned. -/
structure CancelRun where
  config : UpdateConfig ℕ
  cancelling : ℕ → Option Uuid
  returned : List Uuid

/-- The rollout that a request cancels. -/
def cancelledBy : UpdateRequest → Option Uuid
  | .cancelRollout rolloutId => some rolloutId
  | _ => none

/-- One event, and what it says about the cancellations. -/
def CancelRun.step (s : CancelRun) (e : UpdateEvent ℕ) : CancelRun :=
  let config := Interleaving.step updateCalls updateEnv s.config e
  match e with
  | .invoke p request _ =>
      if (s.config.pending p).isNone && (config.pending p).isSome then
        ⟨config, Function.update s.cancelling p (cancelledBy request), s.returned⟩
      else ⟨config, s.cancelling, s.returned⟩
  | .resume p _ =>
      match s.cancelling p, config.pending p with
      | some rolloutId, none =>
          ⟨config, Function.update s.cancelling p none, rolloutId :: s.returned⟩
      | _, _ => ⟨config, s.cancelling, s.returned⟩
  | .env _ => ⟨config, s.cancelling, s.returned⟩

/-- No call has been made yet. -/
def CancelRun.start (w : AgentUpdatesWorld) : CancelRun := ⟨Config.idle w, fun _ => none, []⟩

theorem CancelRun.step_config (s : CancelRun) (e : UpdateEvent ℕ) :
    (s.step e).config = Interleaving.step updateCalls updateEnv s.config e := by
  fun_cases CancelRun.step s e <;> rfl

/-- A rollout whose cancellation is over: all its targets have ended. -/
def CancelDone (rolloutId : Uuid) (w : AgentUpdatesWorld) : Prop :=
  IsCancelled w rolloutId ∧ ∀ target ∈ targetsOf rolloutId w, target.status.isTerminal = true

/-- How far a pending `cancelRollout` has come: it has still to save each target that has not
ended. -/
def CancelStage (rolloutId : Uuid) (w : AgentUpdatesWorld) : PendingUpdateCall → Prop
  | .cancelSave rollout _ => rollout.id = rolloutId ∧ ∃ row, w.rollouts.get rolloutId = some row
  | .cancelFind rolloutId' _ => rolloutId' = rolloutId ∧ IsCancelled w rolloutId
  | .cancelTargets _ remaining => IsCancelled w rolloutId ∧
      ∀ target ∈ targetsOf rolloutId w, target.status.isTerminal = false →
        ∃ copy ∈ remaining, copy.id = target.id ∧ copy.status.isTerminal = false
  | _ => False

/-- What holds of the cancellations at every point of a run. -/
structure CancelInv (s : CancelRun) : Prop where
  returned : ∀ rolloutId ∈ s.returned, CancelDone rolloutId s.config.world
  running : ∀ p rolloutId, s.cancelling p = some rolloutId →
    ∃ call, s.config.pending p = some call ∧ CancelStage rolloutId s.config.world call

section Stable

variable (h : Careful w w')
include h

/-- A cancelled rollout stays cancelled. -/
theorem Careful.isCancelled (hcancelled : IsCancelled w rolloutId) : IsCancelled w' rolloutId := by
  obtain ⟨rollout, hget, hstatus⟩ := hcancelled
  obtain ⟨rollout', hget', hkept⟩ := h.ended rollout (Table.mem_of_get hget)
  have hid : rollout.id = rolloutId := Table.key_of_get hget
  rw [hid] at hget'
  refine ⟨rollout', hget', (hkept ?_).trans hstatus⟩
  rw [hstatus]
  rfl

/-- A cancellation that is over stays over. -/
theorem Careful.cancelDone (hdone : CancelDone rolloutId w) : CancelDone rolloutId w' := by
  obtain ⟨hcancelled, hnone⟩ := hdone
  refine ⟨h.isCancelled hcancelled, ?_⟩
  intro target' hmem
  by_contra hlive
  rw [Bool.not_eq_true] at hlive
  obtain ⟨target, htarget, -, hold⟩ := h.live rolloutId hcancelled target' hmem hlive
  rw [hnone target htarget] at hold
  exact absurd hold (by simp)

/-- The other calls do not bring a target back that a cancellation has passed. -/
theorem Careful.cancelStage {call : PendingUpdateCall} (hstage : CancelStage rolloutId w call) :
    CancelStage rolloutId w' call := by
  cases call with
  | cancelSave rollout cancelledAt =>
      obtain ⟨hid, row, hrow⟩ := hstage
      obtain ⟨row', hrow', -⟩ := h.ended row (Table.mem_of_get hrow)
      have hrowId : row.id = rolloutId := Table.key_of_get hrow
      rw [hrowId] at hrow'
      exact ⟨hid, row', hrow'⟩
  | cancelFind rolloutId' cancelledAt => exact ⟨hstage.1, h.isCancelled hstage.2⟩
  | cancelTargets cancelledAt remaining =>
      obtain ⟨hcancelled, hremaining⟩ := hstage
      refine ⟨h.isCancelled hcancelled, ?_⟩
      intro target' hmem hlive
      obtain ⟨target, htarget, hid, hold⟩ := h.live rolloutId hcancelled target' hmem hlive
      rw [← hid]
      exact hremaining target htarget hold
  | _ => exact hstage.elim

/-- What one stretch of a run keeps and the next one keeps, both keep. -/
theorem Careful.trans (h' : Careful w' w'') : Careful w w'' := by
  refine ⟨?_, h.targets.trans h'.targets, ?_, ?_⟩
  · intro rollout hmem
    obtain ⟨rollout', hget', hkept⟩ := h.ended rollout hmem
    have hid : rollout'.id = rollout.id := Table.key_of_get hget'
    obtain ⟨rollout'', hget'', hkept'⟩ := h'.ended rollout' (Table.mem_of_get hget')
    rw [hid] at hget''
    refine ⟨rollout'', hget'', fun hended => ?_⟩
    have hstatus := hkept hended
    rw [hkept' (by rw [hstatus]; exact hended), hstatus]
  · intro rolloutId hcancelled target'' hmem hlive
    obtain ⟨target', hmem', hid', hlive'⟩ :=
      h'.live rolloutId (h.isCancelled hcancelled) target'' hmem hlive
    obtain ⟨target, hmem, hid, hlive⟩ := h.live rolloutId hcancelled target' hmem' hlive'
    exact ⟨target, hmem, hid.trans hid', hlive⟩
  · intro rolloutId hcancelled targetId htarget taskId hmem
    refine h.tasks rolloutId hcancelled targetId htarget taskId ?_
    exact h'.tasks rolloutId (h.isCancelled hcancelled) targetId
      (h.targets rolloutId targetId htarget) taskId hmem

end Stable

/-- **One step of `cancelRollout`.** -/
theorem cancelStage_resume {call : PendingUpdateCall} {input : UpdateInput}
    (hstage : CancelStage rolloutId w call) :
    Next (CancelDone rolloutId) (CancelStage rolloutId) (resumeUpdate call input w) := by
  cases call with
  | cancelSave rollout cancelledAt =>
      obtain ⟨rfl, row, hrow⟩ := hstage
      refine ⟨rfl, _, get_saveRollout hrow, rfl⟩
  | cancelFind rolloutId' cancelledAt =>
      obtain ⟨rfl, hcancelled⟩ := hstage
      refine ⟨hcancelled, ?_⟩
      intro target hmem hlive
      exact ⟨target, mem_sortedBy.mpr hmem, rfl, hlive⟩
  | cancelTargets cancelledAt remaining =>
      obtain ⟨hcancelled, hremaining⟩ := hstage
      cases remaining with
      | nil =>
          refine ⟨hcancelled, ?_⟩
          intro target hmem
          by_contra hlive
          rw [Bool.not_eq_true] at hlive
          obtain ⟨copy, hcopy, -⟩ := hremaining target hmem hlive
          exact absurd hcopy (by simp)
      | cons head rest =>
          simp only [resumeUpdate]
          split
          · next hnone =>
              refine ⟨hcancelled, ?_⟩
              intro target hmem hlive
              obtain ⟨copy, hcopy, hid, hcopyLive⟩ := hremaining target hmem hlive
              rcases List.mem_cons.mp hcopy with rfl | hrest
              · rw [isTerminal_of_cancelledTarget_none hnone] at hcopyLive
                exact absurd hcopyLive (by simp)
              · exact ⟨copy, hrest, hid, hcopyLive⟩
          · next copy hcopy =>
              obtain ⟨hid, hstatus⟩ := cancelledTarget_some hcopy
              refine ⟨hcancelled, ?_⟩
              intro target hmem hlive
              obtain ⟨hmem, hof⟩ := mem_targetsOf.mp hmem
              simp only [saveTarget] at hmem
              rcases Table.mem_update hmem with ⟨hold, hother⟩ | ⟨row, -, -, rfl⟩
              · obtain ⟨other, hotherMem, hotherId, hotherLive⟩ :=
                  hremaining target (mem_targetsOf.mpr ⟨hold, hof⟩) hlive
                rcases List.mem_cons.mp hotherMem with rfl | hrest
                · exact absurd (hotherId.symm.trans hid.symm) (of_decide_eq_false hother)
                · exact ⟨other, hrest, hotherId, hotherLive⟩
              · rw [AgentUpdateRolloutTargetEntity.savedOver_status, hstatus] at hlive
                exact absurd hlive (by decide)
  | _ => exact hstage.elim

/-- `cancelRollout` has found a rollout to cancel. -/
theorem cancelStage_invoke {request : UpdateRequest} {input : UpdateInput}
    {call : PendingUpdateCall} (hrequest : cancelledBy request = some rolloutId)
    (hcall : (invokeUpdate request input w).2 = some call) : CancelStage rolloutId w call := by
  cases request with
  | cancelRollout rolloutId' =>
      obtain rfl := Option.some.inj hrequest
      simp only [invokeUpdate] at hcall
      split at hcall
      · exact absurd hcall (by simp)
      · next rollout hget =>
          split at hcall
          · obtain rfl := Option.some.inj hcall
            exact ⟨Table.key_of_get hget, rollout, hget⟩
          · exact absurd hcall (by simp)
  | _ => exact absurd hrequest (by simp [cancelledBy])

/-- The other cancellations, after a step of the call `p`. -/
theorem CancelInv.others {s : CancelRun} {p q : ℕ} {next : Option PendingUpdateCall}
    (h : CancelInv s) (hcareful : Careful s.config.world w) (hq : s.cancelling q = some rolloutId)
    (hne : q ≠ p) :
    ∃ call, Function.update s.config.pending p next q = some call ∧
      CancelStage rolloutId w call := by
  obtain ⟨call, hcall, hstage⟩ := h.running q rolloutId hq
  exact ⟨call, (Function.update_of_ne hne _ _).trans hcall, hcareful.cancelStage hstage⟩

/-- **One event** keeps track of the cancellations. -/
theorem CancelInv.invoke {s : CancelRun} {p : ℕ} {request : UpdateRequest} {input : UpdateInput}
    (h : CancelInv s) (hp : s.config.pending p = none) :
    CancelInv (s.step (.invoke p request input)) := by
  have hworld := invokeUpdate_world request input s.config.world
  have hcareful : Careful s.config.world (invokeUpdate request input s.config.world).1 := by
    rw [hworld]
    exact .refl _
  -- the identifier was free, so no cancellation runs under it
  have hfree : ∀ {q rolloutId}, s.cancelling q = some rolloutId → q ≠ p := by
    rintro q rolloutId hq rfl
    obtain ⟨call, hcall, -⟩ := h.running q rolloutId hq
    rw [hp] at hcall
    exact absurd hcall (by simp)
  have hconfig : Interleaving.step updateCalls updateEnv s.config (.invoke p request input) =
      ⟨(invokeUpdate request input s.config.world).1,
        Function.update s.config.pending p (invokeUpdate request input s.config.world).2⟩ :=
    step_invoke hp
  simp only [CancelRun.step, hconfig, hp, Option.isNone_none, Bool.true_and, Function.update_self]
  split
  · next hsome =>
      refine ⟨fun r hr => hcareful.cancelDone (h.returned r hr), ?_⟩
      intro q r hq
      simp only at hq
      by_cases heq : q = p
      · subst heq
        rw [Function.update_self] at hq
        obtain ⟨call, hcall⟩ := Option.isSome_iff_exists.mp hsome
        refine ⟨call, (Function.update_self _ _ _).trans hcall, ?_⟩
        exact hcareful.cancelStage (cancelStage_invoke hq hcall)
      · rw [Function.update_of_ne heq] at hq
        exact h.others hcareful hq heq
  · refine ⟨fun r hr => hcareful.cancelDone (h.returned r hr), ?_⟩
    intro q r hq
    exact h.others hcareful hq (hfree hq)

theorem CancelInv.resume {s : CancelRun} {p : ℕ} {call : PendingUpdateCall} {input : UpdateInput}
    (h : CancelInv s) (hp : s.config.pending p = some call)
    (hcareful : Careful s.config.world (resumeUpdate call input s.config.world).1) :
    CancelInv (s.step (.resume p input)) := by
  have hreturned := fun r hr => hcareful.cancelDone (h.returned r hr)
  have hconfig : Interleaving.step updateCalls updateEnv s.config (.resume p input) =
      ⟨(resumeUpdate call input s.config.world).1,
        Function.update s.config.pending p (resumeUpdate call input s.config.world).2⟩ :=
    step_resume hp
  simp only [CancelRun.step, hconfig, Function.update_self]
  cases hcancelling : s.cancelling p with
  | none =>
      refine ⟨hreturned, ?_⟩
      intro q r hq
      refine h.others hcareful hq ?_
      rintro rfl
      rw [hcancelling] at hq
      exact absurd hq (by simp)
  | some rolloutId =>
      obtain ⟨call', hcall', hstage⟩ := h.running p rolloutId hcancelling
      rw [hp] at hcall'
      obtain rfl := Option.some.inj hcall'
      have hnext : Next (CancelDone rolloutId) (CancelStage rolloutId)
          (resumeUpdate call input s.config.world) := cancelStage_resume hstage
      unfold Next at hnext
      cases hresult : (resumeUpdate call input s.config.world).2 with
      | none =>
          rw [hresult] at hnext
          refine ⟨List.forall_mem_cons.mpr ⟨hnext, hreturned⟩, ?_⟩
          intro q r hq
          simp only at hq
          by_cases heq : q = p
          · rw [heq, Function.update_self] at hq
            exact absurd hq (by simp)
          · rw [Function.update_of_ne heq] at hq
            exact h.others hcareful hq heq
      | some next =>
          rw [hresult] at hnext
          refine ⟨hreturned, ?_⟩
          intro q r hq
          by_cases heq : q = p
          · subst heq
            rw [hcancelling] at hq
            obtain rfl := Option.some.inj hq
            exact ⟨next, Function.update_self _ _ _, hnext⟩
          · exact h.others hcareful hq heq

theorem CancelInv.step {s : CancelRun} {e : UpdateEvent ℕ} (h : CancelInv s)
    (hcareful : Careful s.config.world (Interleaving.step updateCalls updateEnv s.config e).world) :
    CancelInv (s.step e) := by
  cases e with
  | invoke p request input =>
      cases hp : s.config.pending p with
      | none => exact h.invoke hp
      | some call =>
          have hstep : s.step (.invoke p request input) = s := by
            simp [CancelRun.step, step_invoke_busy hp, hp]
          rw [hstep]
          exact h
  | resume p input =>
      cases hp : s.config.pending p with
      | some call =>
          rw [step_resume hp] at hcareful
          exact h.resume hp hcareful
      | none =>
          have hnone : s.cancelling p = none := by
            cases hcancelling : s.cancelling p with
            | none => rfl
            | some r =>
                obtain ⟨call, hcall, -⟩ := h.running p r hcancelling
                rw [hp] at hcall
                exact absurd hcall (by simp)
          have hstep : s.step (.resume p input) = s := by
            simp [CancelRun.step, step_resume_idle hp, hnone]
          rw [hstep]
          exact h
  | env e =>
      refine ⟨fun r hr => hcareful.cancelDone (h.returned r hr), ?_⟩
      intro q r hq
      obtain ⟨call, hcall, hstage⟩ := h.running q r hq
      exact ⟨call, hcall, hcareful.cancelStage hstage⟩

/-! ## Whole runs -/

/-- The rollouts and the cancellations after a run. -/
def cancelRun (w : AgentUpdatesWorld) (es : List (UpdateEvent ℕ)) : CancelRun :=
  run CancelRun.step (CancelRun.start w) es

/-- **The end of a rollout is final.**  Between any two points of a run a rollout that has
ended keeps its status; once a cancellation has returned no target of the rollout is in a
dispatched status, and no update task is created for one. -/
def EndIsFinal (w : AgentUpdatesWorld) (es : List (UpdateEvent ℕ)) : Prop :=
  ∀ es₁ es₂ es₃, es = es₁ ++ es₂ ++ es₃ →
    EndKept (cancelRun w es₁).config.world (cancelRun w (es₁ ++ es₂)).config.world ∧
      ∀ rolloutId ∈ (cancelRun w es₁).returned,
        NoneActive (cancelRun w (es₁ ++ es₂)).config.world rolloutId ∧
          NoTaskCreated rolloutId (cancelRun w es₁).config.world
            (cancelRun w (es₁ ++ es₂)).config.world

theorem cancelInv_start (w : AgentUpdatesWorld) : CancelInv (CancelRun.start w) :=
  ⟨fun r hr => absurd hr (by simp [CancelRun.start]),
    fun q r hq => absurd hq (by simp [CancelRun.start])⟩

/-- What the operations have checked and how far the cancellations are, after one event. -/
theorem checkedCancel_step (s : CancelRun) (e : UpdateEvent ℕ)
    (h : CancelInv s ∧ Good (fun _ => True) Checked s.config)
    (hg : ResumeGuard CopiesCurrent s.config e) :
    CancelInv (s.step e) ∧ Good (fun _ => True) Checked (s.step e).config := by
  refine ⟨h.1.step (event_careful h.2 hg), ?_⟩
  rw [CancelRun.step_config]
  exact checked_outline.step s.config e h.2 hg

/-- **The end of a rollout is final** in every interleaving of the operations, from any
rows, in which the copies are current. -/
theorem end_is_final {w : AgentUpdatesWorld} {es : List (UpdateEvent ℕ)}
    (hes : Along (step updateCalls updateEnv) (ResumeGuard CopiesCurrent) (Config.idle w) es) :
    EndIsFinal w es := by
  have hguard : Along CancelRun.step (fun s e => ResumeGuard CopiesCurrent s.config e)
      (CancelRun.start w) es := (along_map CancelRun.step_config).mpr hes
  intro es₁ es₂ es₃ hsplit
  rw [hsplit] at hguard
  obtain ⟨hguard, -⟩ := along_append.mp hguard
  obtain ⟨hguard₁, hguard₂⟩ := along_append.mp hguard
  have hinv := inv_run checkedCancel_step ⟨cancelInv_start w, good_idle trivial⟩ hguard₁
  have hcareful : Careful (cancelRun w es₁).config.world
      (cancelRun w (es₁ ++ es₂)).config.world := by
    rw [cancelRun, cancelRun, run_append]
    have htrans : ∀ {a b c : CancelRun}, Careful a.config.world b.config.world →
        Careful b.config.world c.config.world → Careful a.config.world c.config.world :=
      fun hab hbc => hab.trans hbc
    refine rel_run (R := fun s s' => Careful s.config.world s'.config.world)
      (fun s => .refl s.config.world) htrans checkedCancel_step ?_ hinv hguard₂
    intro s e h hg
    rw [CancelRun.step_config]
    exact event_careful h.2 hg
  refine ⟨?_, ?_⟩
  · intro rollout hmem hended
    obtain ⟨rollout', hget, hkept⟩ := hcareful.ended rollout hmem
    exact ⟨rollout', hget, hkept hended⟩
  · intro rolloutId hreturned
    have hdone := hinv.1.returned rolloutId hreturned
    refine ⟨fun target hmem => ?_, hcareful.tasks rolloutId hdone.1⟩
    have hterminal := (hcareful.cancelDone hdone).2 target hmem
    by_contra hactive
    rw [Bool.not_eq_false, AgentUpdateTargetStatus.isActive_iff, hterminal] at hactive
    exact absurd hactive.2 (by simp)

/-- A paused rollout to one node, which is online. -/
def pausedRollout : AgentUpdatesWorld where
  rollouts := Table.empty.insert { id := "r", targetVersion := "2", status := .paused }
  targets := Table.empty.insert
    { id := "t", rolloutId := "r", nodeId := "n", workspaceId := "w", nodeNameSnapshot := "n",
      targetVersion := "2", updatedAt := 0 }
  nodes := Table.empty.insert
    { id := "n", workspaceId := "w", name := "n", hostname := "h", arch := "amd64",
      status := .online, agentVersion := some "1" }

/-- The rollout is resumed and its node reports progress; it is cancelled while a second
report arrives, and an operator tries to resume it again. -/
theorem end_is_final_cancelled :
    EndIsFinal pausedRollout
      [.invoke 0 (.resumeRollout "r") {}, .resume 0 {}, .resume 0 {}, .resume 0 {}, .resume 0 {},
       .resume 0 {}, .resume 0 {}, .resume 0 {}, .resume 0 { queue := .queued "k" }, .resume 0 {},
       .resume 0 {},
       .invoke 1 (.handleAgentProgress "t" { status := .downloading, allowed := by decide } "n") {},
       .resume 1 {}, .resume 1 {}, .resume 1 {},
       .invoke 2 (.handleAgentProgress "t" { status := .verifying, allowed := by decide } "n") {},
       .invoke 3 (.cancelRollout "r") {}, .resume 3 {}, .resume 2 {}, .resume 2 {}, .resume 3 {},
       .resume 3 {}, .resume 3 {}, .invoke 4 (.resumeRollout "r") {}, .resume 4 {}] :=
  end_is_final (by decide)

/-! ## A dispatch across a cancellation -/

/-- An operator resumes a rollout; before the update task is created, another one cancels
the rollout. -/
def cancelledMeanwhile : List (UpdateEvent ℕ) :=
  [.invoke 0 (.resumeRollout "r") {}, .resume 0 {}, .resume 0 {}, .resume 0 {}, .resume 0 {},
   .resume 0 {}, .resume 0 {}, .resume 0 {}, .invoke 1 (.cancelRollout "r") {}, .resume 1 {},
   .resume 1 {}, .resume 1 {}, .resume 1 {}]

/-- The dispatch goes on. -/
def dispatchGoesOn : List (UpdateEvent ℕ) :=
  [.resume 0 { queue := .queued "k" }, .resume 0 {}, .resume 0 {}]

/-- **The cancelled rollout** runs again, and its target was dispatched. -/
theorem end_not_final : ¬ EndIsFinal pausedRollout (cancelledMeanwhile ++ dispatchGoesOn) := by
  intro h
  obtain ⟨-, hquiet⟩ := h cancelledMeanwhile dispatchGoesOn [] (by simp)
  have hreturned : "r" ∈ (cancelRun pausedRollout cancelledMeanwhile).returned := by decide
  have hdispatched : ∃ target ∈ targetsOf "r"
      (cancelRun pausedRollout (cancelledMeanwhile ++ dispatchGoesOn)).config.world,
        target.status = .dispatched := by decide
  obtain ⟨target, hmem, hstatus⟩ := hdispatched
  have hinactive := (hquiet "r" hreturned).1 target hmem
  rw [hstatus] at hinactive
  exact absurd hinactive (by decide)

end AgentUpdatesService
