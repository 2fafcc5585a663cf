/-
# The task operations on the tables

`tasks.service.ts`, with each operation taken as one step on the tables: it
throws and leaves them alone, or returns the new tables and its answer.  Clock
readings, fresh uuids and the outcomes of the checks that other services make
(`authenticateAgent`, `assertWorkspaceWritable`) are arguments.
-/
import NoderaxApi.TaskTransitions
import NoderaxApi.RootAccess

namespace TasksService

/-! ## Lookups -/

/-- `findOneOrFail`. -/
def findOneOrFail (db : TaskTables) (id : Uuid) (workspaceId : Option Uuid) :
    Except HttpError TaskEntity :=
  match db.findTask id with
  | some task =>
      if workspaceId.all (task.workspaceId = ·) then .ok task
      else .error (.notFound s!"Task {id} was not found")
  | none => .error (.notFound s!"Task {id} was not found")

/-- `findTaskForNodeOrFail`. -/
def findTaskForNodeOrFail (db : TaskTables) (taskId nodeId : Uuid) : Except HttpError TaskEntity :=
  match db.findTask taskId with
  | some task =>
      if task.nodeId = nodeId then .ok task
      else .error (.notFound s!"Task {taskId} was not found for node {nodeId}")
  | none => .error (.notFound s!"Task {taskId} was not found for node {nodeId}")

theorem findOneOrFail_ok {db : TaskTables} {id : Uuid} {workspaceId : Option Uuid}
    {task : TaskEntity} (h : findOneOrFail db id workspaceId = .ok task) :
    db.findTask id = some task := by
  unfold findOneOrFail at h
  split at h
  · next task' hfind =>
      split at h
      · cases h; exact hfind
      · cases h
  · cases h

theorem findTaskForNodeOrFail_ok {db : TaskTables} {taskId nodeId : Uuid} {task : TaskEntity}
    (h : findTaskForNodeOrFail db taskId nodeId = .ok task) :
    db.findTask taskId = some task ∧ task.nodeId = nodeId := by
  unfold findTaskForNodeOrFail at h
  split at h
  · next task' hfind =>
      split at h
      · next hnode => cases h; exact ⟨hfind, hnode⟩
      · cases h
  · cases h

/-! ## Queueing -/

/-- `readShellExecRootRequest`. -/
structure ShellExecRootRequest where
  command : Option String
  runAsRoot : Bool
  rootScope : Option String

/-- `readShellExecRootRequest`. -/
def readShellExecRootRequest (payload : JsonObject) : Except HttpError ShellExecRootRequest :=
  let command := (payload.string? "command").map jsTrim
  if !payload.isTrue "runAsRoot" then .ok ⟨command, false, none⟩
  else
    match (payload.string? "rootScope").map jsTrim with
    | some "task" => .ok ⟨command, true, some "task"⟩
    | some "operational" => .ok ⟨command, true, some "operational"⟩
    | _ => .error (.badRequest
        "rootScope must be \"task\" or \"operational\" when runAsRoot is enabled.")

/-- `value.replace(/\s+/g, ' ')`. -/
def collapseWhitespace : List Char → List Char
  | [] => []
  | c :: cs =>
      if isJsWhitespace c then
        match collapseWhitespace cs with
        | ' ' :: rest => ' ' :: rest
        | rest => ' ' :: rest
      else c :: collapseWhitespace cs

/-- `assertOperationalRootShellPayloadAllowed`. -/
def assertOperationalRootShellPayloadAllowed (command : Option String) : Except HttpError Unit :=
  let normalizedCommand :=
    (command.map fun text => jsTrim (String.ofList (collapseWhitespace text.toList))).getD ""
  if normalizedCommand ∈ ["reboot", "systemctl restart noderax-agent", "apt-get update"] then .ok ()
  else .error (.badRequest ("Operational root access is limited to reboot, restarting " ++
    "noderax-agent, and apt-get update."))

/-- `isPackageMutationTaskType`. -/
def isPackageMutationTaskType (taskType : String) : Bool :=
  taskType ∈ ["packageInstall", "packageRemove", "packagePurge"]

/-- `assertRequestedRootAccessAllowed`. -/
def assertRequestedRootAccessAllowed (now : ℤ) (node : NodeEntity) (taskType : String)
    (payload : JsonObject) : Except HttpError Unit :=
  if isPackageMutationTaskType taskType then
    NodesService.assertNodeAllowsOperationalRoot now node
  else if taskType = "log.scan" then
    if !payload.isTrue "runAsRoot" then .ok ()
    else if (payload.string? "rootScope").map jsTrim = some "operational" then
      NodesService.assertNodeAllowsOperationalRoot now node
    else
      .error (.badRequest "log.scan root execution requires rootScope to be \"operational\".")
  else if taskType ≠ "shell.exec" then .ok ()
  else do
    let rootRequest ← readShellExecRootRequest payload
    if !rootRequest.runAsRoot then return ()
    else if rootRequest.rootScope = some "task" then
      NodesService.assertNodeAllowsTaskRoot now node
    else
      assertOperationalRootShellPayloadAllowed rootRequest.command
      NodesService.assertNodeAllowsOperationalRoot now node

/-- `resolveTemplateOrFail`. -/
def resolveTemplateOrFail (templates : List TaskTemplateEntity) (templateId workspaceId : Uuid) :
    Except HttpError TaskTemplateEntity :=
  match templates.find? fun template =>
      template.id = templateId ∧ template.workspaceId = workspaceId with
  | some template => .ok template
  | none => .error (.notFound s!"Task template {templateId} was not found")

/-- The input of `queueTask`. -/
structure QueueTaskInput where
  nodeId : Uuid
  type : String
  payload : JsonObject
  workspaceId : Option Uuid := none
  targetTeamId : Option Uuid := none
  templateId : Option Uuid := none
  templateName : Option String := none
  isInternal : Bool := false

/-- The node of a new task: given by the caller, or looked up. -/
def taskNode (db : TaskTables) (input : QueueTaskInput) :
    Option NodeEntity → Except HttpError NodeEntity
  | some node => .ok node
  | none => NodesService.findOneOrFail db.nodes input.nodeId input.workspaceId

/-- The template of a new task, when its name is still to be read:
`input.templateId && !input.templateName`. -/
def taskTemplate (templates : List TaskTemplateEntity) (input : QueueTaskInput)
    (workspaceId : Uuid) : Except HttpError (Option TaskTemplateEntity) :=
  match input.templateId with
  | none => .ok none
  | some templateId =>
      if templateId ≠ "" ∧ input.templateName.getD "" = "" then
        some <$> resolveTemplateOrFail templates templateId workspaceId
      else .ok none

/-- The row that `queueTask` inserts, after its checks. -/
def queuedTask (db : TaskTables) (now : ℤ) (id : Uuid) (templates : List TaskTemplateEntity)
    (writable : Except HttpError Unit) (input : QueueTaskInput) (nodeOverride : Option NodeEntity) :
    Except HttpError TaskEntity := do
  let node ← taskNode db input nodeOverride
  writable
  NodesService.assertNodeAcceptingNewWork node
  assertRequestedRootAccessAllowed now node input.type input.payload
  let template ← taskTemplate templates input node.workspaceId
  return {
    id := id
    workspaceId := node.workspaceId
    nodeId := input.nodeId
    type := input.type
    isInternal := input.isInternal
    payload := input.payload
    targetTeamId := input.targetTeamId
    templateId := input.templateId.or (template.map (·.id))
    templateName := input.templateName.or (template.map (·.name))
    status := .queued
    createdAt := now }

/-- `queueTask`; the generated id is one that no row has. -/
def queueTask (db : TaskTables) (now : ℤ) (id : Uuid) (templates : List TaskTemplateEntity)
    (writable : Except HttpError Unit) (input : QueueTaskInput) (nodeOverride : Option NodeEntity) :
    Except HttpError (TaskTables × TaskEntity) := do
  let task ← queuedTask db now id templates writable input nodeOverride
  if (db.findTask id).isSome then throw (.conflict "duplicate key value violates unique constraint")
  return ({ db with tasks := db.tasks ++ [task] }, task)

/-- The checks that a queued row has passed, and the row. -/
theorem queuedTask_ok {db : TaskTables} {now : ℤ} {id : Uuid} {templates : List TaskTemplateEntity}
    {writable : Except HttpError Unit} {input : QueueTaskInput} {nodeOverride : Option NodeEntity}
    {task : TaskEntity}
    (h : queuedTask db now id templates writable input nodeOverride = .ok task) :
    ∃ node template, taskNode db input nodeOverride = .ok node ∧ writable = .ok () ∧
      NodesService.assertNodeAcceptingNewWork node = .ok () ∧
      assertRequestedRootAccessAllowed now node input.type input.payload = .ok () ∧
      taskTemplate templates input node.workspaceId = .ok template ∧
      task = {
        id := id
        workspaceId := node.workspaceId
        nodeId := input.nodeId
        type := input.type
        isInternal := input.isInternal
        payload := input.payload
        targetTeamId := input.targetTeamId
        templateId := input.templateId.or (template.map (·.id))
        templateName := input.templateName.or (template.map (·.name))
        createdAt := now } := by
  unfold queuedTask at h
  obtain ⟨node, hnode, h⟩ := bind_eq_ok.mp h
  obtain ⟨_, hwritable, h⟩ := bind_eq_ok.mp h
  obtain ⟨_, haccepting, h⟩ := bind_eq_ok.mp h
  obtain ⟨_, hroot, h⟩ := bind_eq_ok.mp h
  obtain ⟨template, htemplate, h⟩ := bind_eq_ok.mp h
  exact ⟨node, template, hnode, hwritable, haccepting, hroot, htemplate, (Except.ok.inj h).symm⟩

/-- The row of `queueTask` has a new id, and is the only change. -/
theorem queueTask_ok {db db' : TaskTables} {now : ℤ} {id : Uuid}
    {templates : List TaskTemplateEntity} {writable : Except HttpError Unit}
    {input : QueueTaskInput} {nodeOverride : Option NodeEntity} {task : TaskEntity}
    (h : queueTask db now id templates writable input nodeOverride = .ok (db', task)) :
    queuedTask db now id templates writable input nodeOverride = .ok task ∧
      db.findTask id = none ∧ db' = { db with tasks := db.tasks ++ [task] } := by
  unfold queueTask at h
  obtain ⟨queued, hqueued, h⟩ := bind_eq_ok.mp h
  split at h
  · cases h
  · next hfresh =>
      cases h
      exact ⟨hqueued, by simpa using hfresh, rfl⟩

/-! ## Claiming -/

/-- The `INNER JOIN nodes` with `maintenanceMode = false`. -/
def nodeInService (nodes : List NodeEntity) (nodeId : Uuid) : Bool :=
  nodes.any fun node => node.id = nodeId && !node.maintenanceMode

/-- `status IN (ACCEPTED, CLAIMED) AND leaseUntil IS NOT NULL AND leaseUntil <= now`. -/
def leaseExpired (now : ℤ) (task : TaskEntity) : Bool :=
  task.status.isLeased &&
    match task.leaseUntil with
    | some leaseUntil => leaseUntil ≤ now
    | none => false

/-- The WHERE clause of the subquery in `claimNextTaskOnce`. -/
def isClaimable (now : ℤ) (nodes : List NodeEntity) (nodeId : Uuid) (task : TaskEntity) : Bool :=
  task.nodeId = nodeId && task.cancelRequestedAt.isNone && nodeInService nodes nodeId &&
    (task.status = .queued || leaseExpired now task)

/-- `ORDER BY createdAt ASC LIMIT 1`: the subquery may answer the id of any
claimable row that no other claimable row precedes. -/
def isOldestClaimable (db : TaskTables) (now : ℤ) (nodeId id : Uuid) : Bool :=
  match db.findTask id with
  | none => false
  | some task =>
      isClaimable now db.nodes nodeId task &&
        db.tasks.all fun other =>
          !isClaimable now db.nodes nodeId other || task.createdAt ≤ other.createdAt

theorem isClaimable_of_isOldestClaimable {db : TaskTables} {now : ℤ} {nodeId id : Uuid}
    {task : TaskEntity} (h : isOldestClaimable db now nodeId id = true)
    (hfind : db.findTask id = some task) : isClaimable now db.nodes nodeId task = true := by
  unfold isOldestClaimable at h
  rw [hfind] at h
  exact (Bool.and_eq_true_iff.mp h).1

/-- `getClaimLeaseSeconds`. -/
def getClaimLeaseSeconds (configured : ℤ) : ℤ := max configured 15

/-- The SET clause of `claimNextTaskOnce`. -/
def claimedBy (now : ℤ) (configured : ℤ) (nodeId claimToken : Uuid) (task : TaskEntity) :
    TaskEntity :=
  { task with
    status := .accepted
    claimedBy := some nodeId
    claimToken := some claimToken
    leaseUntil := some (now + getClaimLeaseSeconds configured * 1000) }

/-- `claimNextTaskOnce`, where the subquery answers `chosen`. -/
def claimNextTaskOnce (db : TaskTables) (now : ℤ) (configured : ℤ)
    (nodeId claimToken chosen : Uuid) : TaskTables × Option TaskEntity :=
  if isOldestClaimable db now nodeId chosen then
    let updated := db.updateTasks (fun task => task.id = chosen)
      (claimedBy now configured nodeId claimToken)
    (updated, updated.findTask chosen)
  else (db, none)

/-- The SET clause of `requeueExpiredLeases`. -/
def requeued (task : TaskEntity) : TaskEntity := { task.clearLease with status := .queued }

/-- `requeueExpiredLeases`. -/
def requeueExpiredLeases (db : TaskTables) (now : ℤ) : TaskTables :=
  db.updateTasks (fun task => leaseExpired now task && nodeInService db.nodes task.nodeId) requeued

/-! ## The claimed HTTP path -/

/-- `acceptClaimedTaskForAgent`; the answer says whether it was a duplicate. -/
def acceptClaimedTaskForAgent (db : TaskTables) (now : ℤ) (taskId nodeId : Uuid)
    (dto : AgentTaskHttpDto) : Except HttpError (TaskTables × Bool) := do
  assertTaskIdMatchesRoute taskId dto.taskId
  let task ← findTaskForNodeOrFail db taskId nodeId
  if task.status.isTerminal then return (db, true)
  else if task.status ≠ .accepted ∧ task.status ≠ .claimed ∧ task.status ≠ .running then
    throw (.conflict s!"Task {task.id} is in {task.status.text} state and cannot be accepted")
  else if task.status = .accepted ∨ task.status = .running then return (db, true)
  else
    assertClaimOwnership now task nodeId "accepted"
    return (db.saveLogs [{
      taskId := taskId
      level := .info
      message := "Task accepted by agent"
      timestamp := timestampOr now dto.timestamp }], false)

/-- The WHERE clause of the UPDATE in `startClaimedTaskForAgent`. -/
def isStartableClaim (taskId nodeId : Uuid) (task : TaskEntity) : Bool :=
  task.id = taskId && task.nodeId = nodeId && task.status.isLeased && task.claimedBy = some nodeId

/-- The SET clause of the UPDATE in `startClaimedTaskForAgent`. -/
def startedClaim (startedAt : ℤ) (task : TaskEntity) : TaskEntity :=
  { task.clearLease with status := .running, startedAt := some startedAt }

/-- `startClaimedTaskForAgent`. -/
def startClaimedTaskForAgent (db : TaskTables) (now : ℤ) (taskId nodeId : Uuid)
    (dto : AgentTaskHttpDto) : Except HttpError (TaskTables × TaskEntity) := do
  assertTaskIdMatchesRoute taskId dto.taskId
  let task ← findTaskForNodeOrFail db taskId nodeId
  match ← Loaded.startClaimedTaskForAgent now nodeId task with
  | none => return (db, task)
  | some () =>
      if (db.findTask taskId).any (isStartableClaim taskId nodeId) then
        let updated := db.updateTasks (isStartableClaim taskId nodeId)
          (startedClaim (timestampOr now dto.timestamp))
        return (updated, ← findOneOrFail updated taskId none)
      else throw (.conflict s!"Task {task.id} claim ownership was lost before start")

/-- `appendClaimedTaskLogForAgent`. -/
def appendClaimedTaskLogForAgent (db : TaskTables) (now : ℤ) (taskId nodeId : Uuid)
    (dto : AgentTaskLogHttpDto) : Except HttpError TaskTables := do
  assertTaskIdMatchesRoute taskId dto.taskId
  let task ← findTaskForNodeOrFail db taskId nodeId
  match ← Loaded.appendClaimedTaskLogForAgent dto task with
  | none => return db
  | some saved =>
      return (db.saveTask saved).saveLogs [{
        taskId := taskId
        level := resolveTaskLogLevel dto.stream
        message := dto.line
        timestamp := timestampOr now dto.timestamp }]

/-- `completeClaimedTaskForAgent`. -/
def completeClaimedTaskForAgent (db : TaskTables) (now : ℤ) (taskId nodeId : Uuid)
    (dto : CompleteAgentTaskDto) : Except HttpError (TaskTables × TaskEntity) := do
  assertTaskIdMatchesRoute taskId dto.taskId
  let normalizedStatus ← normalizeCompletionStatus dto.status
  let task ← findTaskForNodeOrFail db taskId nodeId
  match ← Loaded.completeClaimedTaskForAgent now nodeId normalizedStatus dto task with
  | none => return (db, task)
  | some saved => return (db.saveTask saved, saved)

/-! ## The realtime path -/

/-- `acknowledgeForAgent`. -/
def acknowledgeForAgent (db : TaskTables) (now : ℤ) (taskId nodeId : Uuid)
    (authenticated : Except HttpError Unit) (timestamp : Option DateString) :
    Except HttpError TaskTables := do
  authenticated
  let _ ← findTaskForNodeOrFail db taskId nodeId
  return db.saveLogs [{
    taskId := taskId
    level := .info
    message := "Task accepted by agent"
    timestamp := timestampOr now timestamp }]

/-- The WHERE clause of the UPDATE in `startForAgent`. -/
def isStartable (taskId nodeId : Uuid) (task : TaskEntity) : Bool :=
  task.id = taskId && task.nodeId = nodeId && task.status = .queued

/-- The SET clause of the UPDATE in `startForAgent`. -/
def started (startedAt : ℤ) (task : TaskEntity) : TaskEntity :=
  { task with status := .running, startedAt := some startedAt, finishedAt := none }

/-- `startForAgent`. -/
def startForAgent (db : TaskTables) (now : ℤ) (taskId nodeId : Uuid)
    (authenticated : Except HttpError Unit) (dto : StartAgentTaskDto) :
    Except HttpError (TaskTables × TaskEntity) := do
  assertTaskIdMatchesRoute taskId dto.taskId
  authenticated
  if (db.findTask taskId).any (isStartable taskId nodeId) then
    let updated := db.updateTasks (isStartable taskId nodeId)
      (started (timestampOr now dto.startedAt))
    return (updated, ← findOneOrFail updated taskId none)
  else
    match db.findTask taskId with
    | none => throw (.notFound s!"Task {taskId} was not found for this node")
    | some task =>
        if task.nodeId ≠ nodeId then
          throw (.notFound s!"Task {taskId} was not found for this node")
        else if task.status = .running then return (db, task)
        else throw (.conflict
          s!"Task {taskId} is in {task.status.text} state and cannot be started")

/-- `appendLogForAgent`. -/
def appendLogForAgent (db : TaskTables) (now : ℤ) (taskId nodeId : Uuid)
    (authenticated : Except HttpError Unit) (dto : AppendTaskLogDto) :
    Except HttpError TaskTables := do
  assertTaskIdMatchesRoute taskId dto.taskId
  authenticated
  let task ← findTaskForNodeOrFail db taskId nodeId
  match ← Loaded.appendLogForAgent dto task with
  | none => return db
  | some saved => return (db.saveTask saved).saveLogs (Loaded.appendedLogs now taskId dto)

/-- `completeForAgent`. -/
def completeForAgent (db : TaskTables) (now : ℤ) (taskId nodeId : Uuid)
    (authenticated : Except HttpError Unit) (dto : CompleteAgentTaskDto) :
    Except HttpError (TaskTables × TaskEntity) := do
  assertTaskIdMatchesRoute taskId dto.taskId
  let normalizedStatus ← normalizeCompletionStatus dto.status
  authenticated
  let task ← findTaskForNodeOrFail db taskId nodeId
  match ← Loaded.completeForAgent now normalizedStatus dto task with
  | none => return (db, task)
  | some saved =>
      return ((db.saveTask saved).saveLogs (Loaded.completionLogs now dto saved), saved)

/-! ## Operators and background jobs -/

/-- The `task_logs` row of `requestTaskCancellation`. -/
def cancellationLogs (now : ℤ) (dto : RequestTaskCancelDto) (saved : TaskEntity) :
    List TaskLogEntity :=
  if saved.status = .cancelled ∨ saved.status = .running then
    [{ taskId := saved.id
       level := .info
       message :=
        match trimToNull dto.reason with
        | some reason => s!"Cancellation requested: {reason}"
        | none => "Cancellation requested by operator"
       timestamp := now }]
  else []

/-- `requestTaskCancellation`. -/
def requestTaskCancellation (db : TaskTables) (now : ℤ) (taskId : Uuid) (workspaceId : Option Uuid)
    (writable : Except HttpError Unit) (dto : RequestTaskCancelDto) :
    Except HttpError (TaskTables × TaskEntity) := do
  let task ← findOneOrFail db taskId workspaceId
  writable
  match Loaded.requestTaskCancellation now dto task with
  | none => return (db, task)
  | some saved => return ((db.saveTask saved).saveLogs (cancellationLogs now dto saved), saved)

/-- The answer of `getTaskControlForAgent`. -/
structure TaskControl where
  taskId : Uuid
  status : TaskStatus
  cancelRequested : Bool
  cancelRequestedAt : Option String
  cancelReason : Option String
  deriving DecidableEq, Repr

/-- The answer of `getTaskControlForAgent` about a row. -/
def taskControl (task : TaskEntity) : TaskControl where
  taskId := task.id
  status := task.status
  cancelRequested := task.status = .running && task.cancelRequestedAt.isSome
  cancelRequestedAt := task.cancelRequestedAt.map toISOString
  cancelReason := task.cancelReason

/-- `getTaskControlForAgent`. -/
def getTaskControlForAgent (db : TaskTables) (taskId nodeId : Uuid) :
    Except HttpError TaskControl := do
  let task ← findTaskForNodeOrFail db taskId nodeId
  return taskControl task

theorem getTaskControlForAgent_eq {db : TaskTables} {taskId : Uuid} {task : TaskEntity}
    (h : db.findTask taskId = some task) :
    getTaskControlForAgent db taskId task.nodeId = .ok (taskControl task) := by
  have hloaded : findTaskForNodeOrFail db taskId task.nodeId = .ok task := by
    unfold findTaskForNodeOrFail
    rw [h]
    exact if_pos rfl
  unfold getTaskControlForAgent
  rw [hloaded]
  rfl

/-- The rows `failStaleTasks` selects: queued too long on a node in service, or
running too long. -/
def isStale (now : ℤ) (nodes : List NodeEntity) (queuedTimeoutSeconds runningTimeoutSeconds : ℤ)
    (task : TaskEntity) : Bool :=
  (task.status = .queued && nodeInService nodes task.nodeId &&
      task.createdAt ≤ now - max queuedTimeoutSeconds 5 * 1000) ||
    (task.status = .running && nodes.any (·.id = task.nodeId) &&
      match task.startedAt with
      | some startedAt => startedAt ≤ now - max runningTimeoutSeconds 10 * 1000
      | none => false)

/-- `failStaleTasks`. -/
def failStaleTasks (db : TaskTables) (now : ℤ) (queuedTimeoutSeconds runningTimeoutSeconds : ℤ) :
    TaskTables :=
  let db := requeueExpiredLeases db now
  db.updateTasks (isStale now db.nodes queuedTimeoutSeconds runningTimeoutSeconds)
    (Loaded.failStaleTask now)

/-- `syncLinkedTaskTerminalState` of the rollout monitor. -/
def syncLinkedTaskTerminalState (db : TaskTables) (now : ℤ) (taskId : Uuid) (succeeded : Bool)
    (detail : String) : TaskTables :=
  match db.findTask taskId with
  | none => db
  | some linkedTask =>
      match Loaded.syncLinkedTaskTerminalState now succeeded detail linkedTask with
      | none => db
      | some saved => db.saveTask saved

end TasksService
