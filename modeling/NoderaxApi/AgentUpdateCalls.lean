/-
# The operations on rollouts, step by step

Every operation of `AgentUpdatesService`, cut at its database accesses.  A pending call
carries the rows it has loaded, as the JavaScript closures do: what it saves is computed
from them and not from the rows as they are then.

`dispatchNextTarget`, `observeNodeVersion` and `pauseRolloutForTargetFailure` are entered
from several operations; called from the loop of `reconcileActiveTargets` they carry the
rest of the loop.
-/
import NoderaxApi.AgentUpdates
import NoderaxApi.Interleaving

namespace AgentUpdatesService

open KeyedTable

/-! ## Calls -/

/-- An operator's request, an agent's report, or the cron job. -/
inductive UpdateRequest
  | createRollout (nodeIds : List String) (rollback : Bool)
  | resumeRollout (rolloutId : Uuid)
  | cancelRollout (rolloutId : Uuid)
  | retryTarget (rolloutId targetId : Uuid)
  | skipTarget (rolloutId targetId : Uuid)
  | handleAgentProgress (targetId : Uuid) (dto : ReportAgentUpdateProgressDto) (agentNodeId : Uuid)
  | observeNodeVersion (nodeId : Uuid)
  | reconcileActiveTargets

/-- The loop of `reconcileActiveTargets`: when it started, the linked tasks that failed or
were cancelled, and the targets still to look at. -/
structure ReconcileLoop where
  now : ℤ
  failedTasks : Uuid → Option TaskEntity
  remaining : List AgentUpdateRolloutTargetEntity

/-- What is left of a call after a step. -/
inductive PendingUpdateCall
  /-- `createRollout`: the node lookups, and the save of the rollout after the last. -/
  | createNodes (version : String) (rollback : Bool) (nodeIds : List Uuid)
      (nodes : List UpdatableNode)
  | createTargets (rollout : AgentUpdateRolloutEntity) (nodes : List UpdatableNode)
  | createStart (rollout : AgentUpdateRolloutEntity) (count : ℕ)
  /-- `dispatchNextTarget`. -/
  | dispatch (rolloutId : Uuid) (loop : Option ReconcileLoop)
  | dispatchCount (rollout : AgentUpdateRolloutEntity) (loop : Option ReconcileLoop)
  | dispatchNext (rollout : AgentUpdateRolloutEntity) (loop : Option ReconcileLoop)
  | dispatchComplete (rollout : AgentUpdateRolloutEntity) (loop : Option ReconcileLoop)
  | dispatchNode (rollout : AgentUpdateRolloutEntity) (target : AgentUpdateRolloutTargetEntity)
      (loop : Option ReconcileLoop)
  | dispatchTask (rollout : AgentUpdateRolloutEntity) (target : AgentUpdateRolloutTargetEntity)
      (node : UpdatableNode) (loop : Option ReconcileLoop)
  | dispatchSave (rollout : AgentUpdateRolloutEntity) (target : AgentUpdateRolloutTargetEntity)
      (node : UpdatableNode) (taskId : Uuid) (loop : Option ReconcileLoop)
  | dispatchRunning (rollout : AgentUpdateRolloutEntity) (node : UpdatableNode)
      (loop : Option ReconcileLoop)
  /-- `pauseRolloutForTargetFailure`. -/
  | pauseTarget (rollout : AgentUpdateRolloutEntity) (target : AgentUpdateRolloutTargetEntity)
      (message : String) (loop : Option ReconcileLoop)
  | pauseRollout (rollout : AgentUpdateRolloutEntity) (message : String)
      (loop : Option ReconcileLoop)
  /-- `resumeRollout`, and the end of `retryTarget` and `skipTarget`. -/
  | resumeCount (rollout : AgentUpdateRolloutEntity)
  | startRollout (rollout : AgentUpdateRolloutEntity) (message : String)
  | startDispatch (rolloutId : Uuid)
  /-- `retryTarget` and `skipTarget`. -/
  | findFailed (rollout : AgentUpdateRolloutEntity) (targetId : Uuid) (retry : Bool)
  | saveRetried (rollout : AgentUpdateRolloutEntity) (target : AgentUpdateRolloutTargetEntity)
  | saveSkipped (rollout : AgentUpdateRolloutEntity) (target : AgentUpdateRolloutTargetEntity)
  /-- `cancelRollout`. -/
  | cancelSave (rollout : AgentUpdateRolloutEntity) (cancelledAt : ℤ)
  | cancelFind (rolloutId : Uuid) (cancelledAt : ℤ)
  | cancelTargets (cancelledAt : ℤ) (remaining : List AgentUpdateRolloutTargetEntity)
  /-- `handleAgentProgress`. -/
  | progressRollout (target : AgentUpdateRolloutTargetEntity) (dto : ReportAgentUpdateProgressDto)
  | progressSave (rollout : AgentUpdateRolloutEntity) (target : AgentUpdateRolloutTargetEntity)
      (dto : ReportAgentUpdateProgressDto)
  | progressMessage (rollout : AgentUpdateRolloutEntity) (target : AgentUpdateRolloutTargetEntity)
      (dto : ReportAgentUpdateProgressDto)
  | progressNode (target : AgentUpdateRolloutTargetEntity)
  /-- `observeNodeVersion`. -/
  | observe (nodeId : Uuid) (agentVersion : Option String) (loop : Option ReconcileLoop)
  | observeRollout (target : AgentUpdateRolloutTargetEntity) (agentVersion : String)
      (loop : Option ReconcileLoop)
  | observeSave (rollout : AgentUpdateRolloutEntity) (target : AgentUpdateRolloutTargetEntity)
      (agentVersion : String) (loop : Option ReconcileLoop)
  | observeDispatch (rolloutId : Uuid) (loop : Option ReconcileLoop)
  /-- `reconcileActiveTargets`. -/
  | reconcileTasks (now : ℤ) (targets : List AgentUpdateRolloutTargetEntity)
  | reconcile (loop : ReconcileLoop)
  | reconcileRollout (target : AgentUpdateRolloutTargetEntity) (loop : ReconcileLoop)

/-- What a step receives from outside: the clock, the database's choice among ties and its
new ids, how a task creation ends, the failed tasks, the release catalog's answer, whether
a platform update is in progress, and whether an audit or event record throws. -/
structure UpdateInput where
  now : ℤ := 0
  rank : Uuid → ℕ := fun _ => 0
  rolloutId : Uuid := ""
  targetId : ℕ → Uuid := fun _ => ""
  queue : QueueOutcome := .refused ""
  failedTasks : Uuid → Option TaskEntity := fun _ => none
  release : Option String := none
  controlPlaneBusy : Bool := false
  recordError : Bool := false

/-- The result of a step. -/
abbrev UpdateStep := AgentUpdatesWorld × Option PendingUpdateCall

/-- Go on with the loop the call was made from, if there was one. -/
def continueLoop (loop : Option ReconcileLoop) : Option PendingUpdateCall :=
  loop.map .reconcile

/-! ## Steps -/

/-- Whether new rows with these ids can be inserted; the database draws ids that are
new. -/
def freshTargets (ids : List Uuid) (w : AgentUpdatesWorld) : Bool :=
  decide ids.Nodup && ids.all fun id => (w.targets.get id).isNone

/-- One node lookup of `createRollout`, or the save of the rollout. -/
def createNodesStep (version : String) (rollback : Bool) (nodeIds : List Uuid)
    (nodes : List UpdatableNode) (input : UpdateInput) (w : AgentUpdatesWorld) : UpdateStep :=
  match nodeIds with
  | nodeId :: rest =>
      match findEligibleNode nodeId version w with
      | .error _ => (w, none)
      | .ok node => (w, some (.createNodes version rollback rest (nodes ++ [node])))
  | [] =>
      let rollout := queuedRollout input.rolloutId version rollback nodes.length
      if (w.rollouts.get rollout.id).isNone then
        ({ w with rollouts := w.rollouts.insert rollout }, some (.createTargets rollout nodes))
      else (w, some (.createNodes version rollback [] nodes))

/-- The targets of a new rollout. -/
def newTargets (rollout : AgentUpdateRolloutEntity) (nodes : List UpdatableNode)
    (input : UpdateInput) : List AgentUpdateRolloutTargetEntity :=
  nodes.zipIdx.map fun node =>
    pendingTarget (input.targetId node.2) rollout input.now node.2 node.1

/-- The save of the targets. -/
def createTargetsStep (rollout : AgentUpdateRolloutEntity) (nodes : List UpdatableNode)
    (input : UpdateInput) (w : AgentUpdatesWorld) : UpdateStep :=
  let targets := newTargets rollout nodes input
  if freshTargets (targets.map (·.id)) w then
    ({ w with targets := targets.foldl Table.insert w.targets },
      some (.createStart rollout nodes.length))
  else (w, some (.createTargets rollout nodes))

/-- The creation of the update task. -/
def dispatchTaskStep (rollout : AgentUpdateRolloutEntity) (target : AgentUpdateRolloutTargetEntity)
    (node : UpdatableNode) (loop : Option ReconcileLoop) (input : UpdateInput)
    (w : AgentUpdatesWorld) : UpdateStep :=
  match input.queue with
  | .refused _ => (w, none)
  | .failedAfterInsert taskId _ => ({ w with tasks := (target.id, taskId) :: w.tasks }, none)
  | .queued taskId =>
      if taskId ∈ w.tasks.map Prod.snd then (w, some (.dispatchTask rollout target node loop))
      else
        ({ w with tasks := (target.id, taskId) :: w.tasks },
          some (.dispatchSave rollout target node taskId loop))

/-- The copy of a target that `dispatchNextTarget` saves. -/
def dispatchedTarget (now : ℤ) (target : AgentUpdateRolloutTargetEntity) (node : UpdatableNode)
    (taskId : Uuid) : AgentUpdateRolloutTargetEntity :=
  { target with
    status := .dispatched
    progressPercent := 5
    statusMessage := some s!"Queued update task {taskId} for {node.label}."
    taskId := some taskId
    dispatchedAt := some now
    completedAt := none }

/-- The copy of a target that `pauseRolloutForTargetFailure` saves. -/
def failedTarget (now : ℤ) (target : AgentUpdateRolloutTargetEntity) (message : String) :
    AgentUpdateRolloutTargetEntity :=
  { target with
    status := .failed
    completedAt := some (target.completedAt.getD now)
    statusMessage := some message }

/-- The copy of a rollout with another status and message. -/
def withStatus (rollout : AgentUpdateRolloutEntity) (status : AgentUpdateRolloutStatus)
    (message : String) : AgentUpdateRolloutEntity :=
  { rollout with status := status, statusMessage := some message }

/-- The copy of a target that `retryTarget` saves. -/
def retriedTarget (target : AgentUpdateRolloutTargetEntity) : AgentUpdateRolloutTargetEntity :=
  { target with
    status := .pending
    progressPercent := 0
    statusMessage := some "Retry queued by an operator."
    taskId := none
    dispatchedAt := none
    completedAt := none }

/-- The copy of a target that `skipTarget` saves. -/
def skippedTarget (now : ℤ) (target : AgentUpdateRolloutTargetEntity) :
    AgentUpdateRolloutTargetEntity :=
  { target with
    status := .skipped
    statusMessage := some (target.statusMessage.getD "Skipped after operator review.")
    completedAt := some (target.completedAt.getD now) }

/-- The copy of a target that `cancelRollout` saves, if it saves one. -/
def cancelledTarget (cancelledAt : ℤ) (target : AgentUpdateRolloutTargetEntity) :
    Option AgentUpdateRolloutTargetEntity :=
  if target.status = .pending then
    some { target with
      status := .cancelled
      statusMessage := some "Cancelled before dispatch."
      completedAt := some cancelledAt
      progressPercent := 0 }
  else if target.status.isActive then
    some { target with
      status := .cancelled
      statusMessage := some ("Cancelled by operator. In-flight updater was asked to stop; " ++
        "local update may still complete if it already passed handoff.")
      completedAt := some cancelledAt }
  else none

/-- The copies that `cancelRollout` saves are cancelled. -/
theorem cancelledTarget_some {cancelledAt : ℤ} {target copy : AgentUpdateRolloutTargetEntity}
    (h : cancelledTarget cancelledAt target = some copy) :
    copy.id = target.id ∧ copy.status = .cancelled := by
  unfold cancelledTarget at h
  split at h
  · obtain rfl := Option.some.inj h
    exact ⟨rfl, rfl⟩
  · split at h
    · obtain rfl := Option.some.inj h
      exact ⟨rfl, rfl⟩
    · exact absurd h (by simp)

/-- A target that is not cancelled is terminal already. -/
theorem isTerminal_of_cancelledTarget_none {cancelledAt : ℤ}
    {target : AgentUpdateRolloutTargetEntity}
    (h : cancelledTarget cancelledAt target = none) : target.status.isTerminal = true := by
  unfold cancelledTarget at h
  split at h
  · exact absurd h (by simp)
  · next hpending =>
      split at h
      · exact absurd h (by simp)
      · next hactive =>
          cases hterminal : target.status.isTerminal with
          | true => rfl
          | false =>
              have hactive' : target.status.isActive = true :=
                (AgentUpdateTargetStatus.isActive_iff _).mpr ⟨hpending, hterminal⟩
              exact absurd hactive' hactive

/-- The copy of a target that `handleAgentProgress` saves. -/
def progressedTarget (now : ℤ) (target : AgentUpdateRolloutTargetEntity)
    (dto : ReportAgentUpdateProgressDto) : AgentUpdateRolloutTargetEntity :=
  { target with
    status := dto.status
    progressPercent := dto.progressPercent
    statusMessage := dto.message.or target.statusMessage
    completedAt := if dto.status = .failed then some now else target.completedAt }

/-- The copy of a target that `observeNodeVersion` saves. -/
def completedTarget (now : ℤ) (target : AgentUpdateRolloutTargetEntity) (agentVersion : String) :
    AgentUpdateRolloutTargetEntity :=
  { target with
    status := .completed
    progressPercent := 100
    statusMessage := some s!"Agent reconnect confirmed {agentVersion}."
    completedAt := some now }

/-- The end of a progress report: an agent that waits for its reconnect may have
reconnected already. -/
def progressEnd (target : AgentUpdateRolloutTargetEntity) (dto : ReportAgentUpdateProgressDto) :
    Option PendingUpdateCall :=
  if dto.status = .waitingForReconnect then some (.progressNode target) else none

/-- The save of a progress report. -/
def progressSaveStep (rollout : AgentUpdateRolloutEntity) (target : AgentUpdateRolloutTargetEntity)
    (dto : ReportAgentUpdateProgressDto) (input : UpdateInput) (w : AgentUpdatesWorld) :
    UpdateStep :=
  let nextTarget := progressedTarget input.now target dto
  (saveTarget input.now nextTarget w,
    if dto.status = .failed then
      some (.pauseTarget rollout nextTarget
        (dto.message.getD s!"{target.nodeNameSnapshot} reported an update failure.") none)
    else if rollout.status ≠ .cancelled then some (.progressMessage rollout nextTarget dto)
    else progressEnd nextTarget dto)

/-- One target of the loop of `reconcileActiveTargets`. -/
def reconcileStep (loop : ReconcileLoop) (w : AgentUpdatesWorld) : UpdateStep :=
  match loop.remaining with
  | [] => (w, none)
  | target :: rest =>
      let loop' := { loop with remaining := rest }
      match w.nodes.get target.nodeId with
      | none => (w, some (.reconcileRollout target loop'))
      | some node =>
          if node.status = .online ∧ node.agentVersion = some target.targetVersion then
            (w, some (.observe target.nodeId node.agentVersion (some loop')))
          else (w, some (.reconcileRollout target loop'))

/-- The failure checks on one target of the loop. -/
def reconcileRolloutStep (target : AgentUpdateRolloutTargetEntity) (loop : ReconcileLoop)
    (input : UpdateInput) (w : AgentUpdatesWorld) : UpdateStep :=
  match w.rollouts.get target.rolloutId with
  | none => (w, none)
  | some rollout =>
      match target.taskId.bind loop.failedTasks with
      | some task =>
          (w, some (.pauseTarget rollout { target with completedAt := some input.now }
            (buildTaskFailureMessage target task) (some loop)))
      | none =>
          if loop.now - target.updatedAt < target.status.timeoutThresholdMs then
            (w, some (.reconcile loop))
          else
            (w, some (.pauseTarget rollout
              { target with status := .failed, completedAt := some input.now }
              (s!"{target.nodeNameSnapshot} timed out while waiting for " ++
                s!"{target.status.words}.") (some loop)))

/-- The first step of a call. -/
def invokeUpdate (request : UpdateRequest) (input : UpdateInput) (w : AgentUpdatesWorld) :
    UpdateStep :=
  match request with
  | .createRollout nodeIds rollback =>
      match input.controlPlaneBusy, input.release, normalizedNodeIds nodeIds with
      | false, some version, nodeId :: rest =>
          if 0 < openCount w then (w, none)
          else (w, some (.createNodes version rollback (nodeId :: rest) []))
      | _, _, _ => (w, none)
  | .resumeRollout rolloutId =>
      match w.rollouts.get rolloutId with
      | none => (w, none)
      | some rollout =>
          if rollout.status = .paused then (w, some (.resumeCount rollout)) else (w, none)
  | .cancelRollout rolloutId =>
      match w.rollouts.get rolloutId with
      | none => (w, none)
      | some rollout =>
          if rollout.status.isOpen then (w, some (.cancelSave rollout input.now)) else (w, none)
  | .retryTarget rolloutId targetId =>
      match w.rollouts.get rolloutId with
      | none => (w, none)
      | some rollout =>
          if rollout.status = .paused then (w, some (.findFailed rollout targetId true))
          else (w, none)
  | .skipTarget rolloutId targetId =>
      match w.rollouts.get rolloutId with
      | none => (w, none)
      | some rollout =>
          if rollout.status = .paused then (w, some (.findFailed rollout targetId false))
          else (w, none)
  | .handleAgentProgress targetId dto agentNodeId =>
      match w.targets.get targetId with
      | none => (w, none)
      | some target =>
          if target.nodeId = agentNodeId then (w, some (.progressRollout target dto))
          else (w, none)
  | .observeNodeVersion nodeId =>
      match w.nodes.get nodeId with
      | none => (w, none)
      | some node => (w, some (.observe nodeId node.agentVersion none))
  | .reconcileActiveTargets =>
      (w, some (.reconcileTasks input.now (reconciledTargets input.rank w)))

/-- The next step of a pending call. -/
def resumeUpdate (call : PendingUpdateCall) (input : UpdateInput) (w : AgentUpdatesWorld) :
    UpdateStep :=
  match call with
  | .createNodes version rollback nodeIds nodes =>
      createNodesStep version rollback nodeIds nodes input w
  | .createTargets rollout nodes => createTargetsStep rollout nodes input w
  | .createStart rollout count =>
      if input.recordError then (w, none)
      else
        (saveRollout { withStatus rollout .running s!"Dispatching node 1 of {count}." with
            startedAt := some input.now } w,
          some (.dispatch rollout.id none))
  | .dispatch rolloutId loop =>
      match w.rollouts.get rolloutId with
      | none => (w, none)
      | some rollout =>
          if rollout.status = .cancelled then (w, continueLoop loop)
          else (w, some (.dispatchCount rollout loop))
  | .dispatchCount rollout loop =>
      if 0 < activeCount rollout.id w then (w, continueLoop loop)
      else (w, some (.dispatchNext rollout loop))
  | .dispatchNext rollout loop =>
      match nextPending input.rank rollout.id w with
      | none => (w, some (.dispatchComplete rollout loop))
      | some target => (w, some (.dispatchNode rollout target loop))
  | .dispatchComplete rollout loop =>
      (saveRollout { withStatus rollout .completed
            "Rollout finished. No pending targets remain." with
          completedAt := some (rollout.completedAt.getD input.now) } w,
        continueLoop loop)
  | .dispatchNode rollout target loop =>
      match findEligibleNode target.nodeId rollout.targetVersion w with
      | .error message => (w, some (.pauseTarget rollout target message loop))
      | .ok node => (w, some (.dispatchTask rollout target node loop))
  | .dispatchTask rollout target node loop => dispatchTaskStep rollout target node loop input w
  | .dispatchSave rollout target node taskId loop =>
      (saveTarget input.now (dispatchedTarget input.now target node taskId) w,
        some (.dispatchRunning rollout node loop))
  | .dispatchRunning rollout node loop =>
      (saveRollout { withStatus rollout .running
            s!"Dispatched {node.label}. Waiting for agent update progress." with
          startedAt := some (rollout.startedAt.getD input.now) } w,
        if input.recordError then none else continueLoop loop)
  | .pauseTarget rollout target message loop =>
      (saveTarget input.now (failedTarget input.now target message) w,
        some (.pauseRollout rollout message loop))
  | .pauseRollout rollout message loop =>
      (saveRollout (withStatus rollout .paused message) w,
        if input.recordError then none else continueLoop loop)
  | .resumeCount rollout =>
      if 0 < failedCount rollout.id w then (w, none)
      else (w, some (.startRollout rollout "Rollout resumed by an operator."))
  | .startRollout rollout message =>
      (saveRollout (withStatus rollout .running message) w, some (.startDispatch rollout.id))
  | .startDispatch rolloutId =>
      if input.recordError then (w, none) else (w, some (.dispatch rolloutId none))
  | .findFailed rollout targetId retry =>
      match w.targets.get targetId with
      | none => (w, none)
      | some target =>
          if target.rolloutId ≠ rollout.id ∨ target.status ≠ .failed then (w, none)
          else if retry then (w, some (.saveRetried rollout target))
          else (w, some (.saveSkipped rollout target))
  | .saveRetried rollout target =>
      (saveTarget input.now (retriedTarget target) w,
        some (.startRollout rollout s!"Retrying {target.nodeNameSnapshot}."))
  | .saveSkipped rollout target =>
      (saveTarget input.now (skippedTarget input.now target) w,
        some (.startRollout rollout
          s!"Skipping {target.nodeNameSnapshot} and continuing the rollout."))
  | .cancelSave rollout cancelledAt =>
      (saveRollout { withStatus rollout .cancelled
            ("Rollout cancelled by an operator. Pending targets were cancelled and active " ++
              "targets received cancellation requests.") with
          cancelledAt := some cancelledAt } w,
        some (.cancelFind rollout.id cancelledAt))
  | .cancelFind rolloutId cancelledAt =>
      (w, some (.cancelTargets cancelledAt
        (sortedBy bySequence input.rank (targetsOf rolloutId w))))
  | .cancelTargets _ [] => (w, none)
  | .cancelTargets cancelledAt (target :: remaining) =>
      match cancelledTarget cancelledAt target with
      | none => (w, some (.cancelTargets cancelledAt remaining))
      | some copy => (saveTarget input.now copy w, some (.cancelTargets cancelledAt remaining))
  | .progressRollout target dto =>
      match w.rollouts.get target.rolloutId with
      | none => (w, none)
      | some rollout =>
          if target.status.isTerminal then (w, none)
          else (w, some (.progressSave rollout target dto))
  | .progressSave rollout target dto => progressSaveStep rollout target dto input w
  | .progressMessage rollout target dto =>
      (saveRollout { rollout with
          statusMessage := some (dto.message.getD
            s!"{target.nodeNameSnapshot} is {dto.status.words}.") } w,
        progressEnd target dto)
  | .progressNode target =>
      match w.nodes.get target.nodeId with
      | none => (w, none)
      | some node =>
          if node.agentVersion = some target.targetVersion then
            (w, some (.observe node.id node.agentVersion none))
          else (w, none)
  | .observe nodeId agentVersion loop =>
      match observedTarget input.rank nodeId w, agentVersion with
      | some target, some version =>
          if version ≠ "" ∧ target.targetVersion = version then
            (w, some (.observeRollout target version loop))
          else (w, continueLoop loop)
      | _, _ => (w, continueLoop loop)
  | .observeRollout target agentVersion loop =>
      match w.rollouts.get target.rolloutId with
      | none => (w, none)
      | some rollout => (w, some (.observeSave rollout target agentVersion loop))
  | .observeSave rollout target agentVersion loop =>
      (saveTarget input.now (completedTarget input.now target agentVersion) w,
        if rollout.status = .running then some (.observeDispatch rollout.id loop)
        else if input.recordError then none
        else continueLoop loop)
  | .observeDispatch rolloutId loop =>
      if input.recordError then (w, none) else (w, some (.dispatch rolloutId loop))
  | .reconcileTasks now targets =>
      (w, some (.reconcile ⟨now, input.failedTasks, targets⟩))
  | .reconcile loop => reconcileStep loop w
  | .reconcileRollout target loop => reconcileRolloutStep target loop input w

/-- The rollouts as interleaved calls. -/
def updateCalls :
    Interleaving.Calls AgentUpdatesWorld UpdateRequest PendingUpdateCall UpdateInput :=
  ⟨invokeUpdate, resumeUpdate⟩

/-! ## The environment -/

/-- What happens to the nodes outside this service: an agent reports its version, and any
other change of a row. -/
inductive UpdateEnv
  | nodeReported (nodeId : Uuid) (agentVersion : String)
  | nodeCreated (node : UpdatableNode)
  | nodeChanged (node : UpdatableNode)

/-- The row after a report. -/
def withVersion (agentVersion : String) (node : UpdatableNode) : UpdatableNode :=
  { node with status := .online, agentVersion := some agentVersion }

theorem withVersion_id (agentVersion : String) (node : UpdatableNode) :
    (withVersion agentVersion node).id = node.id := rfl

/-- The row after another change; the version is written by reports only. -/
def changedTo (node row : UpdatableNode) : UpdatableNode :=
  { node with id := row.id, agentVersion := row.agentVersion }

theorem changedTo_id (node row : UpdatableNode) : (changedTo node row).id = row.id := rfl

/-- A move of the environment. -/
def updateEnv (e : UpdateEnv) (w : AgentUpdatesWorld) : AgentUpdatesWorld :=
  match e with
  | .nodeReported nodeId agentVersion =>
      { w with
        nodes := w.nodes.update (fun row => decide (row.id = nodeId)) (withVersion agentVersion)
          (withVersion_id agentVersion)
        reported := (nodeId, agentVersion) :: w.reported }
  | .nodeCreated node =>
      { w with nodes := w.nodes.insert { node with agentVersion := none } }
  | .nodeChanged node =>
      { w with
        nodes := w.nodes.update (fun row => decide (row.id = node.id)) (changedTo node)
          (changedTo_id node) }

end AgentUpdatesService
