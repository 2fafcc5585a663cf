/-
# Tasks for many nodes

`createBatch` and `createForTeam` of `tasks.service.ts`.  Both make sure that they know the nodes,
and then queue one task after the other, each with its own checks, its own row and its own
notifications.  No transaction is around the loop: when a task is refused, the tasks before it
have been created, and when a notification throws, its own task as well.

Other requests may run between any two steps, so every answer that comes from outside
`tasks.service.ts` is an argument.
-/
import NoderaxApi.Journals
import NoderaxApi.TaskMachine
import NoderaxApi.TeamMembers

namespace TasksService

open Journals Journals.Journal

/-! ## One task -/

/-- What `queueTask` and its callers do to the outside: the insertion of a row, and the calls of
other services. -/
inductive TaskEffect where
  | inserted (task : TaskEntity)
  | eventRecorded (nodeId : Uuid) (type message : String) (taskId : Uuid) (taskType : String)
  | outboxEnqueued (type : String) (task : TaskEntity)
  | taskCreatedEmitted (task : TaskEntity)
  | published (channel : String) (task : TaskEntity)
  | dispatchedToNode (task : TaskEntity)
  | audited (workspaceId : Uuid) (action targetType : String) (targetId : Uuid)
      (targetLabel : String)

/-- The row that an effect inserts. -/
def TaskEffect.row? : TaskEffect → Option TaskEntity
  | .inserted task => some task
  | _ => none

/-- A computation of the service. -/
abbrev TaskCall (A : Type) := Journal TaskEffect HttpError A

/-- How the service is set up: whether an outbox is injected, and whether tasks are dispatched
to connected agents. -/
structure TaskServiceSetup where
  outbox : Bool := true
  realtimeTaskDispatch : Bool := true

/-- What one `queueTask` meets: the clock, the id of the new row, and the answers to its awaits.
A duplicate id is among the errors of `save`. -/
structure QueueAnswers where
  now : ℤ
  id : Uuid
  assertWorkspaceWritable : Except HttpError Unit := .ok ()
  templates : Except HttpError (List TaskTemplateEntity) := .ok []
  save : Except HttpError Unit := .ok ()
  recordEvent : Except HttpError Unit := .ok ()
  enqueue : Except HttpError Unit := .ok ()
  publish : Except HttpError Unit := .ok ()
  dispatchTaskToNode : Except HttpError Unit := .ok ()
  recordAudit : Except HttpError Unit := .ok ()

/-- The template whose name `queueTask` reads: `input.templateId && !input.templateName`. -/
def readTemplate (answers : QueueAnswers) (input : QueueTaskInput) (workspaceId : Uuid) :
    Except HttpError (Option TaskTemplateEntity) :=
  match input.templateId with
  | none => .ok none
  | some templateId =>
      if templateId ≠ "" ∧ input.templateName.getD "" = "" then do
        let templates ← answers.templates
        some <$> resolveTemplateOrFail templates templateId workspaceId
      else .ok none

/-- The row of `queueTask`. -/
def newTask (answers : QueueAnswers) (input : QueueTaskInput) (node : NodeEntity)
    (template : Option TaskTemplateEntity) : TaskEntity where
  id := answers.id
  workspaceId := node.workspaceId
  nodeId := input.nodeId
  type := input.type
  isInternal := input.isInternal
  payload := input.payload
  targetTeamId := input.targetTeamId
  templateId := input.templateId.or (template.map (·.id))
  templateName := input.templateName.or (template.map (·.name))
  status := .queued
  createdAt := answers.now

/-- The checks of `queueTask`, and the row it is about to save. -/
def checkedTask (answers : QueueAnswers) (input : QueueTaskInput) (node : NodeEntity) :
    Except HttpError TaskEntity := do
  answers.assertWorkspaceWritable
  NodesService.assertNodeAcceptingNewWork node
  assertRequestedRootAccessAllowed answers.now node input.type input.payload
  let template ← readTemplate answers input node.workspaceId
  return newTask answers input node template

/-- `shouldBroadcastTask`. -/
def shouldBroadcastTask (task : TaskEntity) : Bool := !task.isInternal

/-- The event of a new task, and its way to the browsers: through the outbox if there is one. -/
def broadcastCreated (setup : TaskServiceSetup) (answers : QueueAnswers) (task : TaskEntity)
    (node : NodeEntity) : TaskCall Unit :=
  if shouldBroadcastTask task then do
    perform (.eventRecorded task.nodeId "task.queued"
      s!"Task {task.type} queued for node {node.hostname}" task.id task.type) answers.recordEvent
    if setup.outbox then
      perform (.outboxEnqueued "task.created" task) answers.enqueue
    else do
      perform (.taskCreatedEmitted task) (.ok ())
      perform (.published "tasks.created" task) answers.publish
  else pure ()

/-- The dispatch of a new task to its agent. -/
def dispatchCreated (setup : TaskServiceSetup) (answers : QueueAnswers) (task : TaskEntity) :
    TaskCall Unit :=
  if setup.realtimeTaskDispatch then
    perform (.dispatchedToNode task) answers.dispatchTaskToNode
  else pure ()

/-- The audit record of a new task. -/
def auditCreated (answers : QueueAnswers) (task : TaskEntity) (node : NodeEntity)
    (hasContext : Bool) : TaskCall Unit :=
  if hasContext && shouldBroadcastTask task then
    perform (.audited node.workspaceId "task.created" "task" task.id task.type) answers.recordAudit
  else pure ()

/-- `queueTask` for a node that the caller has read. -/
def queueTaskFor (setup : TaskServiceSetup) (answers : QueueAnswers) (input : QueueTaskInput)
    (node : NodeEntity) (hasContext : Bool) : TaskCall TaskEntity := do
  let task ← check (checkedTask answers input node)
  commit (.inserted task) answers.save
  broadcastCreated setup answers task node
  dispatchCreated setup answers task
  auditCreated answers task node hasContext
  return task

/-- The checks of `queueTask` pass, and the database inserts the row. -/
structure Admitted (answers : QueueAnswers) (input : QueueTaskInput) (node : NodeEntity) :
    Prop where
  writable : answers.assertWorkspaceWritable = .ok ()
  accepting : NodesService.assertNodeAcceptingNewWork node = .ok ()
  rootAccess : assertRequestedRootAccessAllowed answers.now node input.type input.payload = .ok ()
  template : ∃ template, readTemplate answers input node.workspaceId = .ok template
  saved : answers.save = .ok ()

/-- The services that `queueTask` calls after the insertion return. -/
structure Announced (setup : TaskServiceSetup) (answers : QueueAnswers) (isInternal : Bool)
    (hasContext : Bool) : Prop where
  event : isInternal = false → answers.recordEvent = .ok ()
  outbox : isInternal = false → setup.outbox = true → answers.enqueue = .ok ()
  channel : isInternal = false → setup.outbox = false → answers.publish = .ok ()
  dispatch : setup.realtimeTaskDispatch = true → answers.dispatchTaskToNode = .ok ()
  audit : hasContext = true → isInternal = false → answers.recordAudit = .ok ()

/-- The rows that a computation inserts, in order. -/
def created {A : Type} (x : TaskCall A) : List TaskEntity := x.picked TaskEffect.row?

/-- The effect is the insertion of a task. -/
def IsInsertion (effect : TaskEffect) : Prop := effect.row?.isSome

theorem created_eq_nil_iff {A : Type} {x : TaskCall A} : created x = [] ↔ x.Quiet IsInsertion :=
  picked_eq_nil_iff

@[simp] theorem isInsertion_iff (effect : TaskEffect) :
    IsInsertion effect ↔ ∃ task, effect = .inserted task := by
  cases effect <;> simp [IsInsertion, TaskEffect.row?]

section QueueTask

variable {setup : TaskServiceSetup} {answers : QueueAnswers} {input : QueueTaskInput}
  {node : NodeEntity} {hasContext : Bool} {task : TaskEntity}

theorem checkedTask_eq_ok :
    checkedTask answers input node = .ok task ↔
      answers.assertWorkspaceWritable = .ok () ∧
      NodesService.assertNodeAcceptingNewWork node = .ok () ∧
      assertRequestedRootAccessAllowed answers.now node input.type input.payload = .ok () ∧
      ∃ template, readTemplate answers input node.workspaceId = .ok template ∧
        newTask answers input node template = task := by
  unfold checkedTask
  simp only [bind_eq_ok, Unique.exists_iff, PUnit.default_eq_unit, pure, Except.pure,
    Except.ok.injEq]

theorem isInternal_checkedTask (h : checkedTask answers input node = .ok task) :
    task.isInternal = input.isInternal := by
  obtain ⟨-, -, -, template, -, rfl⟩ := checkedTask_eq_ok.mp h
  rfl

theorem admitted_iff :
    Admitted answers input node ↔
      (∃ task, checkedTask answers input node = .ok task) ∧ answers.save = .ok () := by
  simp only [checkedTask_eq_ok]
  constructor
  · intro h
    obtain ⟨template, htemplate⟩ := h.template
    exact ⟨⟨_, h.writable, h.accepting, h.rootAccess, template, htemplate, rfl⟩, h.saved⟩
  · rintro ⟨⟨task, hwritable, haccepting, hroot, template, htemplate, -⟩, hsaved⟩
    exact ⟨hwritable, haccepting, hroot, ⟨template, htemplate⟩, hsaved⟩

/-! Nothing after the insertion inserts a row. -/

theorem quiet_broadcastCreated : (broadcastCreated setup answers task node).Quiet IsInsertion := by
  unfold broadcastCreated
  split
  · simp only [quiet_bind, quiet_perform, isInsertion_iff]
    split <;> simp [quiet_bind]
  · exact quiet_pure ()

theorem quiet_dispatchCreated : (dispatchCreated setup answers task).Quiet IsInsertion := by
  unfold dispatchCreated
  split <;> simp

theorem quiet_auditCreated : (auditCreated answers task node hasContext).Quiet IsInsertion := by
  unfold auditCreated
  split <;> simp

theorem returns_broadcastCreated :
    (broadcastCreated setup answers task node).Returns ↔ task.isInternal = false →
      answers.recordEvent = .ok () ∧ (setup.outbox = true → answers.enqueue = .ok ()) ∧
        (setup.outbox = false → answers.publish = .ok ()) := by
  unfold broadcastCreated shouldBroadcastTask
  cases task.isInternal with
  | true => simp
  | false => cases setup.outbox <;> simp [returns_bind_unit]

theorem returns_dispatchCreated :
    (dispatchCreated setup answers task).Returns ↔
      (setup.realtimeTaskDispatch = true → answers.dispatchTaskToNode = .ok ()) := by
  unfold dispatchCreated
  cases setup.realtimeTaskDispatch <;> simp

theorem returns_auditCreated :
    (auditCreated answers task node hasContext).Returns ↔
      (hasContext = true → task.isInternal = false → answers.recordAudit = .ok ()) := by
  unfold auditCreated shouldBroadcastTask
  cases hasContext <;> cases task.isInternal <;> simp

theorem announced_iff : Announced setup answers task.isInternal hasContext ↔
    (broadcastCreated setup answers task node).Returns ∧
      (dispatchCreated setup answers task).Returns ∧
      (auditCreated answers task node hasContext).Returns := by
  rw [returns_broadcastCreated, returns_dispatchCreated, returns_auditCreated]
  constructor
  · intro h
    exact ⟨fun hi => ⟨h.event hi, h.outbox hi, h.channel hi⟩, h.dispatch, h.audit⟩
  · rintro ⟨hbroadcast, hdispatch, haudit⟩
    exact ⟨fun hi => (hbroadcast hi).1, fun hi => (hbroadcast hi).2.1,
      fun hi => (hbroadcast hi).2.2, hdispatch, haudit⟩

theorem returns_queueTaskFor :
    (queueTaskFor setup answers input node hasContext).Returns ↔
      Admitted answers input node ∧ Announced setup answers input.isInternal hasContext := by
  unfold queueTaskFor
  rw [returns_bind, admitted_iff]
  simp only [outcome_check, returns_bind_unit, returns_commit, returns_pure, and_true]
  constructor
  · rintro ⟨task, hchecked, hsaved, hfollow⟩
    rw [← announced_iff, isInternal_checkedTask hchecked] at hfollow
    exact ⟨⟨⟨task, hchecked⟩, hsaved⟩, hfollow⟩
  · rintro ⟨⟨⟨task, hchecked⟩, hsaved⟩, hannounced⟩
    rw [← isInternal_checkedTask hchecked, announced_iff] at hannounced
    exact ⟨task, hchecked, hsaved, hannounced⟩

theorem quiet_queueTaskFor :
    (queueTaskFor setup answers input node hasContext).Quiet IsInsertion ↔
      ¬ Admitted answers input node := by
  unfold queueTaskFor
  rw [quiet_bind, admitted_iff, not_and]
  simp only [quiet_check, true_and, outcome_check, forall_exists_index]
  refine forall_congr' fun task => imp_congr_right fun _ => ?_
  rw [quiet_bind, quiet_commit_iff ((isInsertion_iff _).mpr ⟨task, rfl⟩)]
  refine and_iff_left fun _ hcommitted => ?_
  rw [outcome_commit] at hcommitted
  simp [quiet_bind, quiet_broadcastCreated, quiet_dispatchCreated, quiet_auditCreated]

theorem created_queueTaskFor_of_admitted (hchecked : checkedTask answers input node = .ok task)
    (hsaved : answers.save = .ok ()) :
    created (queueTaskFor setup answers input node hasContext) = [task] := by
  have hrest : created (do
      broadcastCreated setup answers task node
      dispatchCreated setup answers task
      auditCreated answers task node hasContext
      return task) = [] := by
    rw [created_eq_nil_iff]
    simp [quiet_bind, quiet_broadcastCreated, quiet_dispatchCreated, quiet_auditCreated]
  unfold queueTaskFor
  rw [created, picked_bind_of_ok (a := task) hchecked, picked_check, List.nil_append, hsaved,
    picked_bind_of_ok (a := ()) rfl]
  exact congrArg ([task] ++ ·) hrest

theorem readTemplate_eq_taskTemplate {templates : List TaskTemplateEntity}
    (htemplates : answers.templates = .ok templates) (workspaceId : Uuid) :
    readTemplate answers input workspaceId = taskTemplate templates input workspaceId := by
  unfold readTemplate taskTemplate
  rw [htemplates]
  rfl

/-- With the templates at hand and a new id, the row inserted is the row of the event
`queueTask`. -/
theorem settle_queueTask {db : TaskTables} {templates : List TaskTemplateEntity}
    (htemplates : answers.templates = .ok templates) (hfresh : db.findTask answers.id = none)
    (hsaved : answers.save = .ok ()) :
    settle db (queueTask db answers.now answers.id templates answers.assertWorkspaceWritable input
        (some node))
      = { db with tasks := db.tasks ++
            created (queueTaskFor setup answers input node hasContext) } := by
  have hqueued : queuedTask db answers.now answers.id templates answers.assertWorkspaceWritable
      input (some node) = checkedTask answers input node := by
    unfold queuedTask checkedTask
    simp only [readTemplate_eq_taskTemplate htemplates]
    rfl
  unfold queueTask
  rw [hqueued]
  cases hchecked : checkedTask answers input node with
  | error error =>
      have hnone : created (queueTaskFor setup answers input node hasContext) = [] := by
        rw [created_eq_nil_iff, quiet_queueTaskFor, admitted_iff, hchecked]
        simp
      rw [hnone, List.append_nil]
      rfl
  | ok task =>
      rw [created_queueTaskFor_of_admitted hchecked hsaved]
      simp [hfresh, settle, bind, Except.bind, pure, Except.pure]

end QueueTask

/-! ## A batch -/

/-- `CreateBatchTaskDto`. -/
structure CreateBatchTaskDto where
  nodeIds : List String
  type : String
  payload : Option JsonObject := none
  templateId : Option Uuid := none

/-- A row of the `task_templates` table, as far as `createForTeam` reads it. -/
structure TeamTaskTemplate extends TaskTemplateEntity where
  taskType : String
  payloadTemplate : JsonObject

/-- What a request for many nodes meets outside `tasks.service.ts`.  `queueTask` answers each node
of the batch for itself. -/
structure BatchAnswers where
  queueTask : Uuid → QueueAnswers
  ensureExists : Uuid → Option Uuid → Except HttpError NodeEntity
  assertWorkspaceWritable : Uuid → Except HttpError Uuid
  findTeamOrFail : Uuid → Uuid → Except HttpError WorkspacesService.Team
  templates : Except HttpError (List TeamTaskTemplate)
  listTeamOwnedNodes : Uuid → Uuid → Except HttpError (List NodeEntity)
  recordAudit : Except HttpError Unit

/-- `normalizeNodeIds`. -/
def normalizeNodeIds (nodeIds : List String) : Except HttpError (List Uuid) :=
  let normalizedNodeIds := ((nodeIds.map jsTrim).filter (· ≠ "")).eraseDups
  if normalizedNodeIds = [] then .error (.badRequest "Select at least one node.")
  else .ok normalizedNodeIds

/-- `loadNodeLookup`.  When several reads fail, the request answers one of their errors; here it is
that of the first node. -/
def loadNodeLookup (answers : BatchAnswers) (nodeIds : List Uuid) (workspaceId : Option Uuid) :
    Except HttpError (List NodeEntity) :=
  nodeIds.mapM fun nodeId => answers.ensureExists nodeId workspaceId

/-- `nodeLookup.get`: the last node of an id is the one in the map. -/
def getNode (nodeLookup : List NodeEntity) (nodeId : Uuid) : Option NodeEntity :=
  nodeLookup.reverse.find? fun node => node.id = nodeId

/-- The input of `queueTask` for a node of a batch. -/
def batchInput (dto : CreateBatchTaskDto) (workspaceId : Option Uuid) (nodeId : Uuid) :
    QueueTaskInput where
  nodeId := nodeId
  type := dto.type
  payload := dto.payload.getD []
  workspaceId := workspaceId
  templateId := dto.templateId

/-- One turn of the loop of `createBatch`. -/
def batchTurn (setup : TaskServiceSetup) (answers : BatchAnswers) (dto : CreateBatchTaskDto)
    (workspaceId : Option Uuid) (hasContext : Bool) (nodeLookup : List NodeEntity)
    (nodeId : Uuid) : TaskCall TaskEntity :=
  match getNode nodeLookup nodeId with
  | none => check (.error (.notFound s!"Node {nodeId} was not found"))
  | some node =>
      queueTaskFor setup (answers.queueTask nodeId) (batchInput dto workspaceId nodeId) node
        hasContext

/-- `createBatch`. -/
def createBatch (setup : TaskServiceSetup) (answers : BatchAnswers) (dto : CreateBatchTaskDto)
    (workspaceId : Option Uuid) (hasContext : Bool) : TaskCall (List TaskEntity) := do
  let nodeIds ← check (normalizeNodeIds dto.nodeIds)
  let nodeLookup ← check (loadNodeLookup answers nodeIds workspaceId)
  forEach (batchTurn setup answers dto workspaceId hasContext nodeLookup) nodeIds

/-- The input of `createForTeam`. -/
structure CreateForTeamInput where
  workspaceId : Uuid
  teamId : Uuid
  type : String
  payload : JsonObject
  templateId : Option Uuid := none

/-- What `createForTeam` has found out before its loop. -/
structure TeamRun where
  workspaceId : Uuid
  team : WorkspacesService.Team
  template : Option TeamTaskTemplate
  nodes : List NodeEntity
  payload : JsonObject
  type : String

/-- The template of `createForTeam`; an empty id counts as absent. -/
def teamTemplate (answers : BatchAnswers) (templateId : Option Uuid) (workspaceId : Uuid) :
    Except HttpError (Option TeamTaskTemplate) :=
  match templateId with
  | none | some "" => .ok none
  | some templateId => do
      let templates ← answers.templates
      match templates.find? fun row => row.id = templateId ∧ row.workspaceId = workspaceId with
      | some template => return some template
      | none => throw (.notFound s!"Task template {templateId} was not found")

/-- The payload of the tasks: that of the request, or else of the template. -/
def teamPayload (input : CreateForTeamInput) (template : Option TeamTaskTemplate) : JsonObject :=
  if input.payload.length > 0 then input.payload
  else (template.map (·.payloadTemplate)).getD []

/-- The type of the tasks: that of the request, or else of the template. -/
def teamType (input : CreateForTeamInput) (template : Option TeamTaskTemplate) : String :=
  if jsTrim input.type ≠ "" then jsTrim input.type
  else (template.map (·.taskType)).getD ""

/-- `createForTeam` up to its loop. -/
def teamRun (answers : BatchAnswers) (input : CreateForTeamInput) : Except HttpError TeamRun := do
  let workspaceId ← answers.assertWorkspaceWritable input.workspaceId
  let team ← answers.findTeamOrFail workspaceId input.teamId
  let template ← teamTemplate answers input.templateId workspaceId
  let owned ← answers.listTeamOwnedNodes workspaceId team.id
  let nodes := owned.filter fun node => !node.maintenanceMode
  if nodes = [] then
    throw (.badRequest s!"Team {team.name} does not currently have any eligible nodes.")
  else if teamType input template = "" then throw (.badRequest "Task type is required.")
  else return {
    workspaceId, team, template, nodes
    payload := teamPayload input template
    type := teamType input template }

/-- The input of `queueTask` for a node of a team. -/
def teamInput (run : TeamRun) (node : NodeEntity) : QueueTaskInput where
  nodeId := node.id
  type := run.type
  payload := run.payload
  workspaceId := some run.workspaceId
  targetTeamId := some run.team.id
  templateId := run.template.map (·.id)
  templateName := run.template.map (·.name)

/-- One turn of the loop of `createForTeam`. -/
def teamTurn (setup : TaskServiceSetup) (answers : BatchAnswers) (hasContext : Bool)
    (run : TeamRun) (node : NodeEntity) : TaskCall TaskEntity :=
  queueTaskFor setup (answers.queueTask node.id) (teamInput run node) node hasContext

/-- `createForTeam`. -/
def createForTeam (setup : TaskServiceSetup) (answers : BatchAnswers) (input : CreateForTeamInput)
    (hasContext : Bool) : TaskCall (List TaskEntity) := do
  let run ← check (teamRun answers input)
  let tasks ← forEach (teamTurn setup answers hasContext run) run.nodes
  perform (.audited run.workspaceId "task.team-run.created" "team" run.team.id run.team.name)
    answers.recordAudit
  return tasks

/-! ## What an error leaves behind -/

/-- If the call ends in an error, none of its tasks has been created. -/
def ErrorLeavesNoTask {A : Type} (x : TaskCall A) : Prop :=
  ∀ error, x.outcome = .error error → created x = []

/-- The node of a batch is in the lookup, and its task is created. -/
def BatchAdmits (answers : BatchAnswers) (dto : CreateBatchTaskDto) (workspaceId : Option Uuid)
    (nodeLookup : List NodeEntity) (nodeId : Uuid) : Prop :=
  ∃ node, getNode nodeLookup nodeId = some node ∧
    Admitted (answers.queueTask nodeId) (batchInput dto workspaceId nodeId) node

section Batch

variable {setup : TaskServiceSetup} {answers : BatchAnswers} {dto : CreateBatchTaskDto}
  {workspaceId : Option Uuid} {hasContext : Bool} {nodeLookup : List NodeEntity} {nodeId : Uuid}
  {input : CreateForTeamInput} {run : TeamRun} {node : NodeEntity}

theorem errorLeavesNoTask_iff_atomic {A : Type} {x : TaskCall A} :
    ErrorLeavesNoTask x ↔ x.Atomic IsInsertion :=
  forall₂_congr fun _ _ => created_eq_nil_iff

theorem returns_batchTurn :
    (batchTurn setup answers dto workspaceId hasContext nodeLookup nodeId).Returns ↔
      BatchAdmits answers dto workspaceId nodeLookup nodeId ∧
        Announced setup (answers.queueTask nodeId) false hasContext := by
  unfold batchTurn BatchAdmits
  cases getNode nodeLookup nodeId with
  | none => simp [Returns]
  | some node =>
      rw [returns_queueTaskFor]
      simp [batchInput]

theorem quiet_batchTurn :
    (batchTurn setup answers dto workspaceId hasContext nodeLookup nodeId).Quiet IsInsertion ↔
      ¬ BatchAdmits answers dto workspaceId nodeLookup nodeId := by
  unfold batchTurn BatchAdmits
  cases getNode nodeLookup nodeId with
  | none => simp
  | some node =>
      rw [quiet_queueTaskFor]
      simp

theorem normalizeNodeIds_ne_nil {nodeIds : List String} {normalized : List Uuid}
    (h : normalizeNodeIds nodeIds = .ok normalized) : normalized ≠ [] := by
  unfold normalizeNodeIds at h
  simp only at h
  split at h
  · cases h
  · next hne =>
      cases h
      exact hne

theorem teamRun_nodes_ne_nil (h : teamRun answers input = .ok run) : run.nodes ≠ [] := by
  unfold teamRun at h
  obtain ⟨workspaceId, -, h⟩ := bind_eq_ok.mp h
  obtain ⟨team, -, h⟩ := bind_eq_ok.mp h
  obtain ⟨template, -, h⟩ := bind_eq_ok.mp h
  obtain ⟨owned, -, h⟩ := bind_eq_ok.mp h
  simp only at h
  split at h
  · cases h
  · next hne =>
      split at h
      · cases h
      · cases h
        exact hne

theorem createBatch_errorLeavesNoTask :
    ErrorLeavesNoTask (createBatch setup answers dto workspaceId hasContext) ↔
      ∀ nodeIds, normalizeNodeIds dto.nodeIds = .ok nodeIds →
      ∀ nodeLookup, loadNodeLookup answers nodeIds workspaceId = .ok nodeLookup →
        (∃ nodeId ∈ nodeIds.head?, ¬ BatchAdmits answers dto workspaceId nodeLookup nodeId) ∨
          ∀ nodeId ∈ nodeIds, BatchAdmits answers dto workspaceId nodeLookup nodeId ∧
            Announced setup (answers.queueTask nodeId) false hasContext := by
  rw [errorLeavesNoTask_iff_atomic, createBatch, atomic_check_bind]
  refine forall₂_congr fun nodeIds hnodeIds => ?_
  rw [atomic_check_bind]
  refine forall₂_congr fun nodeLookup _ => ?_
  -- a turn that returns has inserted its row
  have hloud : ∀ nodeId ∈ nodeIds,
      (batchTurn setup answers dto workspaceId hasContext nodeLookup nodeId).Returns →
        ¬ (batchTurn setup answers dto workspaceId hasContext nodeLookup nodeId).Quiet
          IsInsertion := by
    intro nodeId _ hreturns
    rw [quiet_batchTurn, not_not]
    exact (returns_batchTurn.mp hreturns).1
  rw [← bind_pure (forEach _ nodeIds), atomic_forEach_bind (normalizeNodeIds_ne_nil hnodeIds) hloud,
    bind_pure, returns_forEach]
  simp only [returns_batchTurn, quiet_batchTurn]

theorem createForTeam_errorLeavesNoTask :
    ErrorLeavesNoTask (createForTeam setup answers input hasContext) ↔
      ∀ run, teamRun answers input = .ok run →
        (∃ node ∈ run.nodes.head?,
          ¬ Admitted (answers.queueTask node.id) (teamInput run node) node) ∨
          (∀ node ∈ run.nodes, Admitted (answers.queueTask node.id) (teamInput run node) node ∧
            Announced setup (answers.queueTask node.id) false hasContext) ∧
          answers.recordAudit = .ok () := by
  rw [errorLeavesNoTask_iff_atomic, createForTeam, atomic_check_bind]
  refine forall₂_congr fun run hrun => ?_
  have hloud : ∀ node ∈ run.nodes, (teamTurn setup answers hasContext run node).Returns →
      ¬ (teamTurn setup answers hasContext run node).Quiet IsInsertion := by
    intro node _ hreturns
    rw [teamTurn, quiet_queueTaskFor, not_not]
    exact (returns_queueTaskFor.mp hreturns).1
  have haudit : ∀ tasks : List TaskEntity, (do
      perform (.audited run.workspaceId "task.team-run.created" "team" run.team.id run.team.name)
        answers.recordAudit
      return tasks : TaskCall (List TaskEntity)).Returns ↔ answers.recordAudit = .ok () := by
    intro tasks
    rw [returns_bind_unit, returns_perform, and_iff_left (returns_pure tasks)]
  rw [atomic_forEach_bind (teamRun_nodes_ne_nil hrun) hloud, returns_bind_iff_and haudit,
    returns_forEach]
  simp only [teamTurn, returns_queueTaskFor, quiet_queueTaskFor, teamInput]

end Batch

/-- A batch leaves no task behind an error if and only if it is refused before its first row is
inserted, or nothing in it fails.  The first is so when the request itself is refused (no node, an
unknown node, workspace, team or template, no eligible node, no type), or the first task. -/
theorem errorLeavesNoTask_iff (setup : TaskServiceSetup) (answers : BatchAnswers)
    (hasContext : Bool) :
    (∀ dto workspaceId, ErrorLeavesNoTask (createBatch setup answers dto workspaceId hasContext) ↔
      ∀ nodeIds, normalizeNodeIds dto.nodeIds = .ok nodeIds →
      ∀ nodeLookup, loadNodeLookup answers nodeIds workspaceId = .ok nodeLookup →
        (∃ nodeId ∈ nodeIds.head?, ¬ BatchAdmits answers dto workspaceId nodeLookup nodeId) ∨
          ∀ nodeId ∈ nodeIds, BatchAdmits answers dto workspaceId nodeLookup nodeId ∧
            Announced setup (answers.queueTask nodeId) false hasContext) ∧
    (∀ input, ErrorLeavesNoTask (createForTeam setup answers input hasContext) ↔
      ∀ run, teamRun answers input = .ok run →
        (∃ node ∈ run.nodes.head?,
          ¬ Admitted (answers.queueTask node.id) (teamInput run node) node) ∨
          (∀ node ∈ run.nodes, Admitted (answers.queueTask node.id) (teamInput run node) node ∧
            Announced setup (answers.queueTask node.id) false hasContext) ∧
          answers.recordAudit = .ok ()) := by
  constructor
  · intro dto workspaceId
    exact createBatch_errorLeavesNoTask
  · intro input
    exact createForTeam_errorLeavesNoTask

/-! ## A batch with a node in maintenance -/

/-- Two nodes of a workspace, the second in maintenance mode. -/
def pairedNodes : List NodeEntity := [
  { id := "b7f88611-b63e-4c95-9f37-4afb5c0cf275", workspaceId := "w1", hostname := "web-1" },
  { id := "8fbf6842-7436-4cf3-9de7-8f04ca93e3f7", workspaceId := "w1", hostname := "web-2",
    maintenanceMode := true }]

/-- Everything works. -/
def pairedAnswers : BatchAnswers where
  queueTask nodeId := { now := 0, id := "task of " ++ nodeId }
  ensureExists nodeId workspaceId := NodesService.findOneOrFail pairedNodes nodeId workspaceId
  assertWorkspaceWritable workspaceId := .ok workspaceId
  findTeamOrFail workspaceId teamId := .ok ⟨teamId, workspaceId, "ops", none⟩
  templates := .ok []
  listTeamOwnedNodes _ _ := .ok pairedNodes
  recordAudit := .ok ()

/-- A command for both. -/
def pairedBatch : CreateBatchTaskDto where
  nodeIds := pairedNodes.map (·.id)
  type := "shell.exec"
  payload := some [("command", .str "hostname")]

/-- The request is refused, and the command waits for the first node. -/
theorem pairedBatch_leaves_task :
    (createBatch {} pairedAnswers pairedBatch (some "w1") true).outcome
        = .error (.badRequest "Node web-2 is in maintenance mode and cannot accept new work.") ∧
      (created (createBatch {} pairedAnswers pairedBatch (some "w1") true)).map (·.nodeId)
        = ["b7f88611-b63e-4c95-9f37-4afb5c0cf275"] ∧
      ¬ ErrorLeavesNoTask (createBatch {} pairedAnswers pairedBatch (some "w1") true) := by
  have herror : (createBatch {} pairedAnswers pairedBatch (some "w1") true).outcome
      = .error (.badRequest "Node web-2 is in maintenance mode and cannot accept new work.") := rfl
  have hcreated : (created (createBatch {} pairedAnswers pairedBatch (some "w1") true)).map
      (·.nodeId) = ["b7f88611-b63e-4c95-9f37-4afb5c0cf275"] := by
    decide +kernel
  refine ⟨herror, hcreated, fun h => ?_⟩
  rw [h _ herror] at hcreated
  cases hcreated

end TasksService
