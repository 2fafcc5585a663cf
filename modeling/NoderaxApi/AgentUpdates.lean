/-
# Agent update rollouts

The rows of `agent_update_rollouts` and `agent_update_rollout_targets`, and the
queries and statements of `AgentUpdatesService` on them.

A save spreads a loaded row and overrides some of its columns, so it writes back every
mutable column of the copy it was given, however old the copy is.
-/
import NoderaxApi.TaskEntity
import Mathlib.Data.List.Sort

open KeyedTable

/-! ## Statuses -/

/-- `AGENT_UPDATE_ROLLOUT_STATUSES`. -/
inductive AgentUpdateRolloutStatus
  | queued
  | running
  | paused
  | completed
  | cancelled
  deriving DecidableEq, Repr

/-- A rollout that `assertNoActiveRolloutExists` counts. -/
def AgentUpdateRolloutStatus.isOpen : AgentUpdateRolloutStatus → Bool
  | .queued | .running | .paused => true
  | .completed | .cancelled => false

/-- `AGENT_UPDATE_TARGET_STATUSES`. -/
inductive AgentUpdateTargetStatus
  | pending
  | dispatched
  | downloading
  | verifying
  | installing
  | restarting
  | waitingForReconnect
  | completed
  | failed
  | skipped
  | cancelled
  deriving DecidableEq, Repr

namespace AgentUpdateTargetStatus

/-- `AGENT_UPDATE_TARGET_ACTIVE_STATUSES`. -/
def isActive : AgentUpdateTargetStatus → Bool
  | .dispatched | .downloading | .verifying | .installing | .restarting
  | .waitingForReconnect => true
  | .pending | .completed | .failed | .skipped | .cancelled => false

/-- `AGENT_UPDATE_TARGET_TERMINAL_STATUSES`. -/
def isTerminal : AgentUpdateTargetStatus → Bool
  | .completed | .failed | .skipped | .cancelled => true
  | .pending | .dispatched | .downloading | .verifying | .installing | .restarting
  | .waitingForReconnect => false

/-- The stored text with its underscores replaced by blanks. -/
def words : AgentUpdateTargetStatus → String
  | .pending => "pending"
  | .dispatched => "dispatched"
  | .downloading => "downloading"
  | .verifying => "verifying"
  | .installing => "installing"
  | .restarting => "restarting"
  | .waitingForReconnect => "waiting for reconnect"
  | .completed => "completed"
  | .failed => "failed"
  | .skipped => "skipped"
  | .cancelled => "cancelled"

/-- `resolveTargetTimeoutThresholdMs`. -/
def timeoutThresholdMs : AgentUpdateTargetStatus → ℤ
  | .dispatched => 2 * 60 * 1000
  | .waitingForReconnect => 5 * 60 * 1000
  | _ => 15 * 60 * 1000

/-- Every status is pending, active or terminal, and only one of them. -/
theorem isActive_iff (status : AgentUpdateTargetStatus) :
    status.isActive = true ↔ status ≠ .pending ∧ status.isTerminal = false := by
  cases status <;> decide

end AgentUpdateTargetStatus

/-! ## Rows -/

/-- A row of `agent_update_rollouts`. -/
structure AgentUpdateRolloutEntity where
  id : Uuid
  targetVersion : String
  status : AgentUpdateRolloutStatus := .queued
  rollback : Bool := false
  statusMessage : Option String := none
  startedAt : Option ℤ := none
  completedAt : Option ℤ := none
  cancelledAt : Option ℤ := none
  deriving DecidableEq, Repr

/-- A row of `agent_update_rollout_targets`. -/
structure AgentUpdateRolloutTargetEntity where
  id : Uuid
  rolloutId : Uuid
  nodeId : Uuid
  workspaceId : Uuid
  nodeNameSnapshot : String
  targetVersion : String
  status : AgentUpdateTargetStatus := .pending
  progressPercent : ℕ := 0
  statusMessage : Option String := none
  taskId : Option Uuid := none
  sequence : ℕ := 0
  dispatchedAt : Option ℤ := none
  completedAt : Option ℤ := none
  updatedAt : ℤ
  deriving DecidableEq, Repr

/-- The columns of `nodes` that agent updates read. -/
structure UpdatableNode where
  id : Uuid
  workspaceId : Uuid
  name : String
  hostname : String
  arch : String
  status : NodeStatus := .offline
  maintenanceMode : Bool := false
  agentVersion : Option String := none
  deriving DecidableEq, Repr

/-- `node.name || node.hostname`. -/
def UpdatableNode.label (node : UpdatableNode) : String :=
  if node.name = "" then node.hostname else node.name

/-- A rollout's row after the save of a copy.  Its id, version and rollback flag never
change, so a copy agrees with the row in them. -/
def AgentUpdateRolloutEntity.savedOver (copy row : AgentUpdateRolloutEntity) :
    AgentUpdateRolloutEntity :=
  { row with
    status := copy.status
    statusMessage := copy.statusMessage
    startedAt := copy.startedAt
    completedAt := copy.completedAt
    cancelledAt := copy.cancelledAt }

theorem AgentUpdateRolloutEntity.savedOver_id (copy row : AgentUpdateRolloutEntity) :
    (copy.savedOver row).id = row.id := rfl

/-- A target's row after the save of a copy; `updatedAt` moves when a column differs. -/
def AgentUpdateRolloutTargetEntity.savedOver (now : ℤ) (copy row : AgentUpdateRolloutTargetEntity) :
    AgentUpdateRolloutTargetEntity :=
  let saved := { row with
    status := copy.status
    progressPercent := copy.progressPercent
    statusMessage := copy.statusMessage
    taskId := copy.taskId
    dispatchedAt := copy.dispatchedAt
    completedAt := copy.completedAt }
  if saved = row then row else { saved with updatedAt := now }

namespace AgentUpdateRolloutTargetEntity

/-- **What a save does to a target.** -/
theorem savedOver_eq (now : ℤ) (copy row : AgentUpdateRolloutTargetEntity) :
    ∃ updatedAt, savedOver now copy row = { row with
      status := copy.status
      progressPercent := copy.progressPercent
      statusMessage := copy.statusMessage
      taskId := copy.taskId
      dispatchedAt := copy.dispatchedAt
      completedAt := copy.completedAt
      updatedAt := updatedAt } := by
  unfold savedOver
  simp only
  split
  · next hsame =>
      refine ⟨row.updatedAt, ?_⟩
      exact hsame.symm
  · exact ⟨now, rfl⟩

theorem savedOver_id (now : ℤ) (copy row : AgentUpdateRolloutTargetEntity) :
    (savedOver now copy row).id = row.id := by
  obtain ⟨updatedAt, heq⟩ := savedOver_eq now copy row
  rw [heq]

theorem savedOver_status (now : ℤ) (copy row : AgentUpdateRolloutTargetEntity) :
    (savedOver now copy row).status = copy.status := by
  obtain ⟨updatedAt, heq⟩ := savedOver_eq now copy row
  rw [heq]

theorem savedOver_rolloutId (now : ℤ) (copy row : AgentUpdateRolloutTargetEntity) :
    (savedOver now copy row).rolloutId = row.rolloutId := by
  obtain ⟨updatedAt, heq⟩ := savedOver_eq now copy row
  rw [heq]

end AgentUpdateRolloutTargetEntity

namespace AgentUpdatesService

/-! ## The world -/

/-- The tables and what has happened: the versions the agents reported, the update
tasks created for each target, and the passages of targets from `pending` to an active
status, each with the task the row then names; latest first. -/
structure AgentUpdatesWorld where
  rollouts : Table AgentUpdateRolloutEntity.id := Table.empty
  targets : Table AgentUpdateRolloutTargetEntity.id := Table.empty
  nodes : Table UpdatableNode.id := Table.empty
  reported : List (Uuid × String) := []
  tasks : List (Uuid × Uuid) := []
  passages : List (Uuid × Option Uuid) := []

/-- `rolloutsRepository.save(copy)`. -/
def saveRollout (copy : AgentUpdateRolloutEntity) (w : AgentUpdatesWorld) : AgentUpdatesWorld :=
  { w with
    rollouts := w.rollouts.update (fun row => decide (row.id = copy.id)) copy.savedOver
      copy.savedOver_id }

/-- The status column of a target. -/
def AgentUpdatesWorld.targetStatus (w : AgentUpdatesWorld) (id : Uuid) :
    Option AgentUpdateTargetStatus :=
  (w.targets.get id).map (·.status)

/-- `targetsRepository.save(copy)`. -/
def saveTarget (now : ℤ) (copy : AgentUpdateRolloutTargetEntity) (w : AgentUpdatesWorld) :
    AgentUpdatesWorld :=
  { w with
    targets := w.targets.update (fun row => decide (row.id = copy.id)) (copy.savedOver now)
      (copy.savedOver_id now)
    passages :=
      if w.targetStatus copy.id = some .pending ∧ copy.status.isActive = true then
        (copy.id, copy.taskId) :: w.passages
      else w.passages }

/-! ## Queries -/

/-- The targets of a rollout. -/
def targetsOf (rolloutId : Uuid) (w : AgentUpdatesWorld) : List AgentUpdateRolloutTargetEntity :=
  w.targets.rows.filter fun target => target.rolloutId = rolloutId

/-- `targetsRepository.count` of the active targets of a rollout. -/
def activeCount (rolloutId : Uuid) (w : AgentUpdatesWorld) : ℕ :=
  ((targetsOf rolloutId w).filter fun target => target.status.isActive).length

/-- `targetsRepository.count` of the failed targets of a rollout. -/
def failedCount (rolloutId : Uuid) (w : AgentUpdatesWorld) : ℕ :=
  ((targetsOf rolloutId w).filter fun target => target.status = .failed).length

/-- `rolloutsRepository.count` of `assertNoActiveRolloutExists`. -/
def openCount (w : AgentUpdatesWorld) : ℕ :=
  (w.rollouts.rows.filter fun rollout => rollout.status.isOpen).length

/-- The order of a query that sorts targets by `key`; the database decides among equal
keys. -/
def SortedBefore (key : AgentUpdateRolloutTargetEntity → ℤ) (rank : Uuid → ℕ)
    (a b : AgentUpdateRolloutTargetEntity) : Prop :=
  key a < key b ∨ (key a = key b ∧ rank a.id ≤ rank b.id)

instance (key : AgentUpdateRolloutTargetEntity → ℤ) (rank : Uuid → ℕ) :
    DecidableRel (SortedBefore key rank) := fun a b =>
  inferInstanceAs (Decidable (key a < key b ∨ (key a = key b ∧ rank a.id ≤ rank b.id)))

/-- `ORDER BY key ASC`. -/
def sortedBy (key : AgentUpdateRolloutTargetEntity → ℤ) (rank : Uuid → ℕ)
    (targets : List AgentUpdateRolloutTargetEntity) : List AgentUpdateRolloutTargetEntity :=
  targets.insertionSort (SortedBefore key rank)

/-- The `sequence` of a target as a sort key. -/
def bySequence (target : AgentUpdateRolloutTargetEntity) : ℤ := target.sequence

/-- The pending target of a rollout with the lowest sequence. -/
def nextPending (rank : Uuid → ℕ) (rolloutId : Uuid) (w : AgentUpdatesWorld) :
    Option AgentUpdateRolloutTargetEntity :=
  (sortedBy bySequence rank
    ((targetsOf rolloutId w).filter fun target => target.status = .pending)).head?

/-- The status of the rollout a target belongs to. -/
def AgentUpdatesWorld.rolloutStatusOf (w : AgentUpdatesWorld)
    (target : AgentUpdateRolloutTargetEntity) : Option AgentUpdateRolloutStatus :=
  (w.rollouts.get target.rolloutId).map (·.status)

/-- The target `observeNodeVersion` finds for a node. -/
def observedTarget (rank : Uuid → ℕ) (nodeId : Uuid) (w : AgentUpdatesWorld) :
    Option AgentUpdateRolloutTargetEntity :=
  (sortedBy bySequence rank (w.targets.rows.filter fun target =>
    decide (target.nodeId = nodeId) && !target.status.isTerminal &&
      decide (w.rolloutStatusOf target = some .running ∨
        w.rolloutStatusOf target = some .paused))).head?

/-- The targets `reconcileActiveTargets` walks through. -/
def reconciledTargets (rank : Uuid → ℕ) (w : AgentUpdatesWorld) :
    List AgentUpdateRolloutTargetEntity :=
  sortedBy (·.updatedAt) rank (w.targets.rows.filter fun target =>
    target.status.isActive && decide (w.rolloutStatusOf target = some .running))

/-! ## What the queries find -/

section Queries

variable {w : AgentUpdatesWorld} {rank : Uuid → ℕ} {rolloutId nodeId : Uuid}
  {target : AgentUpdateRolloutTargetEntity}

theorem mem_targetsOf :
    target ∈ targetsOf rolloutId w ↔ target ∈ w.targets.rows ∧ target.rolloutId = rolloutId := by
  simp [targetsOf]

/-- No target is active. -/
theorem activeCount_eq_zero :
    activeCount rolloutId w = 0 ↔
      ∀ target ∈ targetsOf rolloutId w, target.status.isActive = false := by
  simp [activeCount, List.filter_eq_nil_iff]

/-- No target has failed. -/
theorem failedCount_eq_zero :
    failedCount rolloutId w = 0 ↔ ∀ target ∈ targetsOf rolloutId w, target.status ≠ .failed := by
  simp [failedCount, List.filter_eq_nil_iff]

/-- No rollout is open. -/
theorem openCount_eq_zero :
    openCount w = 0 ↔ ∀ rollout ∈ w.rollouts.rows, rollout.status.isOpen = false := by
  simp [openCount, List.filter_eq_nil_iff]

theorem mem_sortedBy {key : AgentUpdateRolloutTargetEntity → ℤ}
    {targets : List AgentUpdateRolloutTargetEntity} :
    target ∈ sortedBy key rank targets ↔ target ∈ targets := by
  simp [sortedBy]

/-- The first of the sorted targets is one of them. -/
theorem mem_of_head_sortedBy {key : AgentUpdateRolloutTargetEntity → ℤ}
    {targets : List AgentUpdateRolloutTargetEntity}
    (h : (sortedBy key rank targets).head? = some target) : target ∈ targets :=
  mem_sortedBy.mp (List.mem_of_head? h)

/-- The target `dispatchNextTarget` takes. -/
theorem nextPending_some (h : nextPending rank rolloutId w = some target) :
    target ∈ targetsOf rolloutId w ∧ target.status = .pending := by
  have hmem := mem_of_head_sortedBy h
  simpa using hmem

/-- There is nothing left to dispatch. -/
theorem nextPending_none (h : nextPending rank rolloutId w = none) :
    ∀ target ∈ targetsOf rolloutId w, target.status ≠ .pending := by
  intro target htarget hpending
  rw [nextPending, List.head?_eq_none_iff] at h
  have hmem : target ∈ sortedBy bySequence rank
      ((targetsOf rolloutId w).filter fun target => target.status = .pending) :=
    mem_sortedBy.mpr (by simp [htarget, hpending])
  rw [h] at hmem
  exact absurd hmem (by simp)

/-- The target `observeNodeVersion` takes. -/
theorem observedTarget_some (h : observedTarget rank nodeId w = some target) :
    target ∈ w.targets.rows ∧ target.nodeId = nodeId ∧ target.status.isTerminal = false ∧
      (w.rolloutStatusOf target = some .running ∨ w.rolloutStatusOf target = some .paused) := by
  have hmem := mem_of_head_sortedBy h
  simp only [List.mem_filter, Bool.and_eq_true, decide_eq_true_eq, Bool.not_eq_true'] at hmem
  exact ⟨hmem.1, hmem.2.1.1, hmem.2.1.2, hmem.2.2⟩

/-- The targets `reconcileActiveTargets` takes. -/
theorem mem_reconciledTargets :
    target ∈ reconciledTargets rank w ↔ target ∈ w.targets.rows ∧ target.status.isActive = true ∧
      w.rolloutStatusOf target = some .running := by
  rw [reconciledTargets, mem_sortedBy]
  simp

end Queries

/-! ## Checks and messages -/

/-- `SUPPORTED_ARCHES`. -/
def supportedArches : List String := ["amd64", "arm64"]

/-- `assertNodeEligibleForRollout`. -/
def assertNodeEligibleForRollout (node : UpdatableNode) (targetVersion : String) :
    Except String Unit :=
  if node.status ≠ .online then
    .error s!"Node {node.hostname} must be online before it can be updated."
  else if node.maintenanceMode then
    .error s!"Node {node.hostname} is in maintenance mode and cannot accept new work."
  else if node.arch ∉ supportedArches then
    .error s!"Node {node.hostname} uses unsupported architecture {node.arch}."
  else if node.agentVersion = some targetVersion then
    .error s!"Node {node.hostname} is already running agent {targetVersion}."
  else .ok ()

/-- `ensureExists` and the eligibility check of one node. -/
def findEligibleNode (nodeId : Uuid) (targetVersion : String) (w : AgentUpdatesWorld) :
    Except String UpdatableNode :=
  match w.nodes.get nodeId with
  | none => .error s!"Node {nodeId} was not found"
  | some node => (assertNodeEligibleForRollout node targetVersion).map fun _ => node

/-- `value.replace(/\s+/g, ' ')`: the first character of a run of white space becomes a
blank, the others go. -/
def collapseWhitespace : Bool → List Char → List Char
  | _, [] => []
  | inRun, c :: cs =>
      if isJsWhitespace c then
        if inRun then collapseWhitespace true cs else ' ' :: collapseWhitespace true cs
      else c :: collapseWhitespace false cs

/-- `truncateTaskFailureDetail`. -/
def truncateTaskFailureDetail (value : String) : String :=
  let normalized := jsTrim (String.ofList (collapseWhitespace false value.toList))
  if jsLength normalized ≤ 240 then normalized else jsSliceTo 237 normalized ++ "..."

/-- A field of the task result, if it is a string that is not blank. -/
def resultText (task : TaskEntity) (key : String) : Option String :=
  trimToNull (task.result.bind fun result => result.string? key)

/-- `extractTaskFailureDetail`. -/
def extractTaskFailureDetail (task : TaskEntity) : Option String :=
  match trimToNull task.output, resultText task "error", resultText task "message" with
  | some output, _, _ => some s!"Last task output: {truncateTaskFailureDetail output}."
  | none, some error, _ => some s!"Reported error: {truncateTaskFailureDetail error}."
  | none, none, some message => some s!"Reported message: {truncateTaskFailureDetail message}."
  | none, none, none => none

/-- `buildTaskFailureMessage`. -/
def buildTaskFailureMessage (target : AgentUpdateRolloutTargetEntity) (task : TaskEntity) :
    String :=
  let baseMessage := s!"{target.nodeNameSnapshot} update task {task.id} {task.status.text} " ++
    "before detached updater progress was received."
  match extractTaskFailureDetail task with
  | none => baseMessage
  | some detail => s!"{baseMessage} {detail}"

/-- `1 node`, `2 nodes`. -/
def nodesText (n : ℕ) : String := if n = 1 then "1 node" else s!"{n} nodes"

/-- The `nodeIds` of a request: trimmed, not blank, each once. -/
def normalizedNodeIds (nodeIds : List String) : List Uuid :=
  ((nodeIds.map jsTrim).filter (· ≠ "")).eraseDups

/-- The row `createRollout` saves first. -/
def queuedRollout (id : Uuid) (version : String) (rollback : Bool) (count : ℕ) :
    AgentUpdateRolloutEntity where
  id := id
  targetVersion := version
  status := .queued
  rollback := rollback
  statusMessage :=
    let kind := if rollback then "rollback" else "update"
    some s!"Queued {nodesText count} for agent {kind} to {version}."

/-- The target `createRollout` saves for the node at position `sequence`. -/
def pendingTarget (id : Uuid) (rollout : AgentUpdateRolloutEntity) (now : ℤ) (sequence : ℕ)
    (node : UpdatableNode) : AgentUpdateRolloutTargetEntity where
  id := id
  rolloutId := rollout.id
  nodeId := node.id
  workspaceId := node.workspaceId
  nodeNameSnapshot := node.label
  targetVersion := rollout.targetVersion
  status := .pending
  progressPercent := 0
  statusMessage := some "Waiting for rollout dispatch."
  taskId := none
  sequence := sequence
  updatedAt := now

/-- `ReportAgentUpdateProgressDto`; its statuses are the active ones and `failed`. -/
structure ReportAgentUpdateProgressDto where
  status : AgentUpdateTargetStatus
  progressPercent : ℕ := 0
  message : Option String := none
  allowed : status.isActive = true ∨ status = .failed

end AgentUpdatesService
