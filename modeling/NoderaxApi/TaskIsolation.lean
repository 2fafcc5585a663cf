/-
# Tasks of other nodes

`SameElsewhere agent` relates two states of the tables that may differ in the
tasks of one node only.  An operation on behalf of that node keeps its result
related to the tables it started from; every other operation, taken on both
sides, gives related tables and equal answers.
-/
import NoderaxApi.TaskMachine

namespace TasksService

/-! ## The relation -/

/-- Two rows of one task: of the same node, and equal unless it is `agent`. -/
structure SameRow (agent : Uuid) (row row' : TaskEntity) : Prop where
  sameNode : row.nodeId = row'.nodeId
  eq_of_ne : row.nodeId ≠ agent → row = row'

/-- The log rows of a task. -/
def logsOf (db : TaskTables) (taskId : Uuid) : List TaskLogEntity :=
  db.taskLogs.filter fun log => log.taskId = taskId

/-- The task is one of the node's. -/
def Owned (agent : Uuid) (db : TaskTables) (taskId : Uuid) : Prop :=
  ∃ row, db.findTask taskId = some row ∧ row.nodeId = agent

/-- The tables have the same tasks, and differ in those of `agent` only. -/
structure SameElsewhere (agent : Uuid) (db db' : TaskTables) : Prop where
  nodes : db.nodes = db'.nodes
  ids : db.tasks.map TaskEntity.id = db'.tasks.map TaskEntity.id
  rows : ∀ id, Option.Rel (SameRow agent) (db.findTask id) (db'.findTask id)
  logs : ∀ id, ¬ Owned agent db id → logsOf db id = logsOf db' id

variable {agent : Uuid} {db db' db'' : TaskTables}

theorem SameRow.refl (row : TaskEntity) : SameRow agent row row := ⟨rfl, fun _ => rfl⟩

theorem SameRow.of_owned {row row' : TaskEntity} (hrow : row.nodeId = agent)
    (hrow' : row'.nodeId = agent) : SameRow agent row row' :=
  ⟨by rw [hrow, hrow'], fun hne => absurd hrow hne⟩

/-- A lookup on both sides. -/
theorem SameElsewhere.find (h : SameElsewhere agent db db') (id : Uuid) :
    (db.findTask id = none ∧ db'.findTask id = none) ∨
      ∃ row row', db.findTask id = some row ∧ db'.findTask id = some row' ∧
        SameRow agent row row' := by
  have hrel := h.rows id
  cases hfind : db.findTask id with
  | none =>
      cases hfind' : db'.findTask id with
      | none => exact Or.inl ⟨rfl, rfl⟩
      | some row' =>
          rw [hfind, hfind'] at hrel
          cases hrel
  | some row =>
      cases hfind' : db'.findTask id with
      | none =>
          rw [hfind, hfind'] at hrel
          cases hrel
      | some row' =>
          rw [hfind, hfind'] at hrel
          cases hrel with
          | some hrow => exact Or.inr ⟨row, row', rfl, rfl, hrow⟩

/-- A task is the agent's on both sides, or its row is the same on both. -/
theorem SameElsewhere.owned_or_eq (h : SameElsewhere agent db db') (id : Uuid) :
    (Owned agent db id ∧ Owned agent db' id) ∨
      (¬ Owned agent db id ∧ ¬ Owned agent db' id ∧ db.findTask id = db'.findTask id) := by
  rcases h.find id with ⟨hfind, hfind'⟩ | ⟨row, row', hfind, hfind', hrow⟩
  · refine Or.inr ⟨?_, ?_, by rw [hfind, hfind']⟩
    · rintro ⟨row, hsome, -⟩
      rw [hfind] at hsome
      cases hsome
    · rintro ⟨row, hsome, -⟩
      rw [hfind'] at hsome
      cases hsome
  · by_cases hnode : row.nodeId = agent
    · exact Or.inl ⟨⟨row, hfind, hnode⟩, ⟨row', hfind', hrow.sameNode.symm.trans hnode⟩⟩
    · refine Or.inr ⟨?_, ?_, by rw [hfind, hfind', hrow.eq_of_ne hnode]⟩
      · rintro ⟨other, hsome, hother⟩
        rw [hfind] at hsome
        cases hsome
        exact hnode hother
      · rintro ⟨other, hsome, hother⟩
        rw [hfind'] at hsome
        cases hsome
        exact hnode (hrow.sameNode.trans hother)

theorem SameElsewhere.owned_iff (h : SameElsewhere agent db db') (id : Uuid) :
    Owned agent db id ↔ Owned agent db' id := by
  rcases h.owned_or_eq id with ⟨howned, howned'⟩ | ⟨hother, hother', -⟩
  · exact iff_of_true howned howned'
  · exact iff_of_false hother hother'

theorem SameElsewhere.refl (db : TaskTables) : SameElsewhere agent db db where
  nodes := rfl
  ids := rfl
  rows id := by
    cases db.findTask id with
    | none => exact .none
    | some row => exact .some (.refl row)
  logs _ _ := rfl

theorem SameElsewhere.symm (h : SameElsewhere agent db db') : SameElsewhere agent db' db where
  nodes := h.nodes.symm
  ids := h.ids.symm
  rows id := by
    rcases h.find id with ⟨hfind, hfind'⟩ | ⟨row, row', hfind, hfind', hrow⟩
    · rw [hfind, hfind']
      exact .none
    · rw [hfind, hfind']
      refine .some ⟨hrow.sameNode.symm, ?_⟩
      intro hne
      exact (hrow.eq_of_ne (by rw [hrow.sameNode]; exact hne)).symm
  logs id howned := (h.logs id (fun hdb => howned ((h.owned_iff id).mp hdb))).symm

theorem SameElsewhere.trans (h : SameElsewhere agent db db') (h' : SameElsewhere agent db' db'') :
    SameElsewhere agent db db'' where
  nodes := h.nodes.trans h'.nodes
  ids := h.ids.trans h'.ids
  rows id := by
    rcases h.find id with ⟨hfind, hfind'⟩ | ⟨row, row', hfind, hfind', hrow⟩
    · have hrel := h'.rows id
      rw [hfind'] at hrel
      rw [hfind]
      exact hrel
    · rcases h'.find id with ⟨hnone, -⟩ | ⟨row₁, row'', hfind₁, hfind'', hrow'⟩
      · rw [hfind'] at hnone
        cases hnone
      · rw [hfind'] at hfind₁
        cases hfind₁
        rw [hfind, hfind'']
        refine .some ⟨hrow.sameNode.trans hrow'.sameNode, ?_⟩
        intro hne
        exact (hrow.eq_of_ne hne).trans (hrow'.eq_of_ne (by rw [← hrow.sameNode]; exact hne))
  logs id howned := by
    refine (h.logs id howned).trans (h'.logs id ?_)
    rw [← h.owned_iff id]
    exact howned

/-! ## Writes on both sides -/

/-- A save keeps the primary keys. -/
theorem ids_saveTask (db : TaskTables) (saved : TaskEntity) :
    (db.saveTask saved).tasks.map TaskEntity.id = db.tasks.map TaskEntity.id := by
  refine KeyedTable.map_key_map ?_ db.tasks
  intro row
  split
  · next hid => exact hid.symm
  · rfl

/-- So does an UPDATE of other columns. -/
theorem ids_updateTasks (db : TaskTables) {p : TaskEntity → Bool} {f : TaskEntity → TaskEntity}
    (hid : ∀ task, (f task).id = task.id) :
    (db.updateTasks p f).tasks.map TaskEntity.id = db.tasks.map TaskEntity.id := by
  refine KeyedTable.map_key_map ?_ db.tasks
  intro row
  split
  · exact hid row
  · rfl

/-- An UPDATE that keeps ids and nodes keeps who owns a task. -/
theorem owned_updateTasks {p : TaskEntity → Bool} {f : TaskEntity → TaskEntity} {taskId : Uuid}
    (hid : ∀ task, (f task).id = task.id) (hnode : ∀ task, (f task).nodeId = task.nodeId) :
    Owned agent (db.updateTasks p f) taskId ↔ Owned agent db taskId := by
  have hkeeps : ∀ task, (if p task then f task else task).nodeId = task.nodeId := by
    intro task
    split
    · exact hnode task
    · rfl
  unfold Owned
  rw [TaskTables.findTask_updateTasks hid]
  constructor
  · rintro ⟨row, hrow, howned⟩
    obtain ⟨before, hbefore, rfl⟩ := Option.map_eq_some_iff.mp hrow
    exact ⟨before, hbefore, (hkeeps before).symm.trans howned⟩
  · rintro ⟨row, hrow, howned⟩
    exact ⟨_, by rw [hrow, Option.map_some], (hkeeps row).trans howned⟩

/-- One entity saved on both sides. -/
theorem SameElsewhere.saveTask (h : SameElsewhere agent db db') (saved : TaskEntity)
    (hsaved : ∀ row, db.findTask saved.id = some row → saved.nodeId = row.nodeId) :
    SameElsewhere agent (db.saveTask saved) (db'.saveTask saved) where
  nodes := h.nodes
  ids := by
    rw [ids_saveTask, ids_saveTask]
    exact h.ids
  rows id := by
    rw [TaskTables.findTask_saveTask, TaskTables.findTask_saveTask]
    by_cases hid : id = saved.id
    · rw [if_pos hid, if_pos hid]
      rcases h.find id with ⟨hfind, hfind'⟩ | ⟨row, row', hfind, hfind', -⟩
      · rw [hfind, hfind']
        exact .none
      · rw [hfind, hfind']
        exact .some (.refl saved)
    · rw [if_neg hid, if_neg hid]
      exact h.rows id
  logs id howned := by
    refine h.logs id ?_
    rintro ⟨row, hfind, hrow⟩
    refine howned ?_
    unfold Owned
    rw [TaskTables.findTask_saveTask, hfind]
    by_cases hid : id = saved.id
    · rw [if_pos hid]
      refine ⟨saved, rfl, ?_⟩
      rw [hsaved row (hid ▸ hfind)]
      exact hrow
    · rw [if_neg hid]
      exact ⟨row, rfl, hrow⟩

/-- One UPDATE on both sides, which keeps every row with its node. -/
theorem SameElsewhere.updateTasks (h : SameElsewhere agent db db') {p : TaskEntity → Bool}
    {f : TaskEntity → TaskEntity} (hid : ∀ task, (f task).id = task.id)
    (hnode : ∀ task, (f task).nodeId = task.nodeId) :
    SameElsewhere agent (db.updateTasks p f) (db'.updateTasks p f) := by
  have hkeeps : ∀ task, (if p task then f task else task).nodeId = task.nodeId := by
    intro task
    split
    · exact hnode task
    · rfl
  refine ⟨h.nodes, ?_, ?_, ?_⟩
  · rw [ids_updateTasks db hid, ids_updateTasks db' hid]
    exact h.ids
  · intro id
    rw [TaskTables.findTask_updateTasks hid, TaskTables.findTask_updateTasks hid]
    rcases h.find id with ⟨hfind, hfind'⟩ | ⟨row, row', hfind, hfind', hrow⟩
    · rw [hfind, hfind']
      exact .none
    · rw [hfind, hfind']
      refine .some ⟨?_, ?_⟩
      · rw [hkeeps, hkeeps]
        exact hrow.sameNode
      · intro hne
        rw [hkeeps] at hne
        rw [hrow.eq_of_ne hne]
  · intro id howned
    exact h.logs id fun hdb => howned ((owned_updateTasks hid hnode).mpr hdb)

/-- The same log rows on both sides. -/
theorem SameElsewhere.saveLogs (h : SameElsewhere agent db db') (logs : List TaskLogEntity) :
    SameElsewhere agent (db.saveLogs logs) (db'.saveLogs logs) where
  nodes := h.nodes
  ids := h.ids
  rows := h.rows
  logs id howned := by
    show (db.taskLogs ++ logs).filter _ = (db'.taskLogs ++ logs).filter _
    rw [List.filter_append, List.filter_append]
    congr 1
    exact h.logs id howned

/-! ## Writes of the node itself -/

/-- A save of one of the node's tasks. -/
theorem sameElsewhere_saveTask {row saved : TaskEntity} (hfind : db.findTask saved.id = some row)
    (hrow : row.nodeId = agent) (hsaved : saved.nodeId = agent) :
    SameElsewhere agent db (db.saveTask saved) where
  nodes := rfl
  ids := (ids_saveTask db saved).symm
  rows id := by
    rw [TaskTables.findTask_saveTask]
    by_cases hid : id = saved.id
    · rw [if_pos hid, hid, hfind]
      exact .some (.of_owned hrow hsaved)
    · rw [if_neg hid]
      exact (SameElsewhere.refl db).rows id
  logs _ _ := rfl

/-- An UPDATE of the node's tasks. -/
theorem sameElsewhere_updateTasks {p : TaskEntity → Bool} {f : TaskEntity → TaskEntity}
    (hid : ∀ task, (f task).id = task.id) (hnode : ∀ task, (f task).nodeId = task.nodeId)
    (hp : ∀ id task, db.findTask id = some task → p task = true → task.nodeId = agent) :
    SameElsewhere agent db (db.updateTasks p f) where
  nodes := rfl
  ids := (ids_updateTasks db hid).symm
  rows id := by
    rw [TaskTables.findTask_updateTasks hid]
    cases hfind : db.findTask id with
    | none => exact .none
    | some task =>
        refine .some ?_
        show SameRow agent task (if p task = true then f task else task)
        by_cases htask : p task = true
        · rw [if_pos htask]
          have howned : task.nodeId = agent := hp id task hfind htask
          exact .of_owned howned ((hnode task).trans howned)
        · rw [if_neg htask]
          exact .refl task
  logs _ _ := rfl

/-- Log rows of one of the node's tasks. -/
theorem sameElsewhere_saveLogs {taskId : Uuid} {logs : List TaskLogEntity}
    (howned : Owned agent db taskId) (hlogs : ∀ log ∈ logs, log.taskId = taskId) :
    SameElsewhere agent db (db.saveLogs logs) where
  nodes := rfl
  ids := rfl
  rows id := (SameElsewhere.refl db).rows id
  logs id hother := by
    show _ = (db.taskLogs ++ logs).filter _
    rw [List.filter_append]
    have hnone : logs.filter (fun log => decide (log.taskId = id)) = [] := by
      rw [List.filter_eq_nil_iff]
      intro log hlog heq
      refine hother ?_
      rw [← of_decide_eq_true heq, hlogs log hlog]
      exact howned
    rw [hnone, List.append_nil]
    rfl

/-! ## Two outcomes of one operation -/

/-- The same exception, or related results. -/
def SameOutcome {α : Type} (R : α → α → Prop) : Except HttpError α → Except HttpError α → Prop
  | .ok a, .ok b => R a b
  | .error e, .error e' => e = e'
  | _, _ => False

/-- Related tables, and the same answer. -/
def SameResult {α : Type} (agent : Uuid) (result result' : TaskTables × α) : Prop :=
  SameElsewhere agent result.1 result'.1 ∧ result.2 = result'.2

theorem SameOutcome.bind {α β : Type} {R : α → α → Prop} {x y : Except HttpError β}
    {f g : β → Except HttpError α} (hxy : x = y)
    (hfg : ∀ b, y = .ok b → SameOutcome R (f b) (g b)) : SameOutcome R (x >>= f) (y >>= g) := by
  subst hxy
  cases x with
  | error e => rfl
  | ok b => exact hfg b rfl

/-- After a first part with related results. -/
theorem SameOutcome.bind_related {α β : Type} {R : α → α → Prop} {S : β → β → Prop}
    {x y : Except HttpError β} {f g : β → Except HttpError α} (hxy : SameOutcome S x y)
    (hfg : ∀ a b, S a b → SameOutcome R (f a) (g b)) : SameOutcome R (x >>= f) (y >>= g) := by
  cases x with
  | error e =>
      cases y with
      | error e' => exact hxy
      | ok b => exact hxy.elim
  | ok a =>
      cases y with
      | error e' => exact hxy.elim
      | ok b => exact hfg a b hxy

theorem SameOutcome.throw {α : Type} {R : α → α → Prop} (e : HttpError) :
    SameOutcome R (throw e) (throw e) := rfl

/-- The tables after an operation with an answer. -/
theorem SameOutcome.settle {α : Type} {result result' : Except HttpError (TaskTables × α)}
    (h : SameElsewhere agent db db') (hresult : SameOutcome (SameResult agent) result result') :
    SameElsewhere agent (settle db result) (settle db' result') := by
  cases result with
  | error e =>
      cases result' with
      | error e' => exact h
      | ok r' => exact hresult.elim
  | ok r =>
      cases result' with
      | error e' => exact hresult.elim
      | ok r' => exact hresult.1

/-- The tables after an operation without an answer. -/
theorem SameOutcome.settle' {result result' : Except HttpError TaskTables}
    (h : SameElsewhere agent db db') (hresult : SameOutcome (SameElsewhere agent) result result') :
    SameElsewhere agent (settle' db result) (settle' db' result') := by
  cases result with
  | error e =>
      cases result' with
      | error e' => exact h
      | ok r' => exact hresult.elim
  | ok r =>
      cases result' with
      | error e' => exact hresult.elim
      | ok r' => exact hresult

/-- The tables after an operation of the agent itself. -/
theorem sameElsewhere_settle {α : Type} {result : Except HttpError (TaskTables × α)}
    (h : ∀ db' answer, result = .ok (db', answer) → SameElsewhere agent db db') :
    SameElsewhere agent db (settle db result) := by
  cases result with
  | error e => exact .refl db
  | ok r => exact h r.1 r.2 rfl

theorem sameElsewhere_settle' {result : Except HttpError TaskTables}
    (h : ∀ db', result = .ok db' → SameElsewhere agent db db') :
    SameElsewhere agent db (settle' db result) := by
  cases result with
  | error e => exact .refl db
  | ok r => exact h r rfl

/-! ## Loads and saves -/

/-- A load on behalf of another node. -/
theorem SameElsewhere.findTaskForNodeOrFail (h : SameElsewhere agent db db') {taskId nodeId : Uuid}
    (hnode : nodeId ≠ agent) :
    TasksService.findTaskForNodeOrFail db taskId nodeId
      = TasksService.findTaskForNodeOrFail db' taskId nodeId := by
  unfold TasksService.findTaskForNodeOrFail
  rcases h.owned_or_eq taskId with ⟨⟨row, hfind, hrow⟩, row', hfind', hrow'⟩ | ⟨-, -, heq⟩
  · rw [hfind, hfind']
    dsimp only
    rw [hrow, hrow', if_neg hnode.symm, if_neg hnode.symm]
  · rw [heq]

/-- A lookup of a task that is not the agent's. -/
theorem SameElsewhere.findTask_eq (h : SameElsewhere agent db db') {taskId : Uuid}
    (hother : ¬ Owned agent db taskId) : db.findTask taskId = db'.findTask taskId := by
  rcases h.owned_or_eq taskId with ⟨howned, -⟩ | ⟨-, -, heq⟩
  · exact absurd howned hother
  · exact heq

/-- A load of a task that is not the agent's. -/
theorem SameElsewhere.findOneOrFail (h : SameElsewhere agent db db') {taskId : Uuid}
    (hother : ¬ Owned agent db taskId) (workspaceId : Option Uuid) :
    TasksService.findOneOrFail db taskId workspaceId
      = TasksService.findOneOrFail db' taskId workspaceId := by
  unfold TasksService.findOneOrFail
  rw [h.findTask_eq hother]

variable {taskId nodeId : Uuid} {loaded saved : TaskEntity}

/-- What another node loaded is not the agent's. -/
theorem not_owned_of_loaded (hloaded : findTaskForNodeOrFail db taskId nodeId = .ok loaded)
    (hnode : nodeId ≠ agent) : ¬ Owned agent db taskId := by
  rintro ⟨row, hrow, hagent⟩
  obtain ⟨hfind, hloadedNode⟩ := findTaskForNodeOrFail_ok hloaded
  rw [hfind] at hrow
  cases hrow
  exact hnode (hloadedNode.symm.trans hagent)

/-- The agent saves an entity that it loaded. -/
theorem sameElsewhere_save (hloaded : findTaskForNodeOrFail db taskId agent = .ok loaded)
    (hid : saved.id = loaded.id) (hsaved : saved.nodeId = loaded.nodeId) :
    SameElsewhere agent db (db.saveTask saved) := by
  obtain ⟨hfind, hnode⟩ := findTaskForNodeOrFail_ok hloaded
  refine sameElsewhere_saveTask ?_ hnode (hsaved.trans hnode)
  rw [hid, TaskTables.id_of_findTask hfind]
  exact hfind

/-- The agent saves an entity that it loaded, and log rows of the task. -/
theorem sameElsewhere_save_logs {logs : List TaskLogEntity}
    (hloaded : findTaskForNodeOrFail db taskId agent = .ok loaded)
    (hid : saved.id = loaded.id) (hsaved : saved.nodeId = loaded.nodeId)
    (hlogs : ∀ log ∈ logs, log.taskId = taskId) :
    SameElsewhere agent db ((db.saveTask saved).saveLogs logs) := by
  have hsave := sameElsewhere_save hloaded hid hsaved
  obtain ⟨hfind, hnode⟩ := findTaskForNodeOrFail_ok hloaded
  refine hsave.trans (sameElsewhere_saveLogs ?_ hlogs)
  exact (hsave.owned_iff taskId).mp ⟨loaded, hfind, hnode⟩

/-- Both sides save the entity they loaded. -/
theorem SameElsewhere.save (h : SameElsewhere agent db db')
    (hfind : db.findTask taskId = some loaded) (hid : saved.id = loaded.id)
    (hsaved : saved.nodeId = loaded.nodeId) :
    SameElsewhere agent (db.saveTask saved) (db'.saveTask saved) := by
  refine h.saveTask saved ?_
  intro row hrow
  rw [hid, TaskTables.id_of_findTask hfind, hfind] at hrow
  cases hrow
  exact hsaved

/-! ## The realtime path -/

theorem acknowledgeForAgent_own {now : ℤ} {authenticated : Except HttpError Unit}
    {timestamp : Option DateString}
    (h : acknowledgeForAgent db now taskId agent authenticated timestamp = .ok db') :
    SameElsewhere agent db db' := by
  unfold acknowledgeForAgent at h
  obtain ⟨_, _, h⟩ := bind_eq_ok.mp h
  obtain ⟨loaded, hloaded, h⟩ := bind_eq_ok.mp h
  cases h
  obtain ⟨hfind, hnode⟩ := findTaskForNodeOrFail_ok hloaded
  refine sameElsewhere_saveLogs ⟨loaded, hfind, hnode⟩ ?_
  intro log hlog
  rw [List.mem_singleton] at hlog
  rw [hlog]

theorem acknowledgeForAgent_other (h : SameElsewhere agent db db') (hnode : nodeId ≠ agent)
    (now : ℤ) (authenticated : Except HttpError Unit) (timestamp : Option DateString) :
    SameOutcome (SameElsewhere agent)
      (acknowledgeForAgent db now taskId nodeId authenticated timestamp)
      (acknowledgeForAgent db' now taskId nodeId authenticated timestamp) := by
  unfold acknowledgeForAgent
  refine .bind rfl fun _ _ => .bind (h.findTaskForNodeOrFail hnode) fun _ _ => ?_
  exact h.saveLogs _

theorem started_id (startedAt : ℤ) (task : TaskEntity) :
    (started startedAt task).id = task.id :=
  rfl

theorem started_nodeId (startedAt : ℤ) (task : TaskEntity) :
    (started startedAt task).nodeId = task.nodeId := rfl

theorem startForAgent_own {now : ℤ} {authenticated : Except HttpError Unit}
    {dto : StartAgentTaskDto} {task : TaskEntity}
    (h : startForAgent db now taskId agent authenticated dto = .ok (db', task)) :
    SameElsewhere agent db db' := by
  unfold startForAgent at h
  obtain ⟨_, _, hroute⟩ := bind_eq_ok.mp h
  obtain ⟨_, _, hstart⟩ := bind_eq_ok.mp hroute
  split at hstart
  · obtain ⟨_, _, hfound⟩ := bind_eq_ok.mp hstart
    cases hfound
    refine sameElsewhere_updateTasks (fun _ => rfl) (fun _ => rfl) ?_
    intro id row _ hstartable
    simp only [isStartable, Bool.and_eq_true, decide_eq_true_eq] at hstartable
    exact hstartable.1.2
  · split at hstart
    · cases hstart
    · split at hstart
      · cases hstart
      · split at hstart
        · cases hstart
          exact .refl _
        · cases hstart

/-- A start by another node: it is refused on both sides if the task is the
agent's, and else meets the same row. -/
theorem startForAgent_other (h : SameElsewhere agent db db') (hnode : nodeId ≠ agent)
    (now : ℤ) (authenticated : Except HttpError Unit) (dto : StartAgentTaskDto) :
    SameOutcome (SameResult agent) (startForAgent db now taskId nodeId authenticated dto)
      (startForAgent db' now taskId nodeId authenticated dto) := by
  unfold startForAgent
  refine .bind rfl fun _ _ => .bind rfl fun _ _ => ?_
  have hupdated := h.updateTasks (p := isStartable taskId nodeId)
    (started_id (timestampOr now dto.startedAt)) (started_nodeId _)
  rcases h.owned_or_eq taskId with ⟨⟨row, hfind, hrow⟩, row', hfind', hrow'⟩ | ⟨hother, -, heq⟩
  · -- the task is the agent's: both sides refuse
    have hrefuses : ∀ task : TaskEntity, task.nodeId = agent →
        isStartable taskId nodeId task = false := by
      intro task htask
      have hne : ¬ agent = nodeId := hnode.symm
      simp [isStartable, htask, hne]
    rw [hfind, hfind']
    simp only [Option.any_some, hrefuses row hrow, hrefuses row' hrow', hrow, hrow',
      Bool.false_eq_true, if_false]
    rw [if_pos hnode.symm, if_pos hnode.symm]
    exact .throw _
  · rw [heq]
    split
    · refine .bind (hupdated.findOneOrFail ?_ none) fun task _ => ⟨hupdated, rfl⟩
      rw [owned_updateTasks (started_id _) (started_nodeId _)]
      exact hother
    · cases db'.findTask taskId with
      | none => exact .throw _
      | some task =>
          dsimp only
          split
          · exact .throw _
          · split
            · exact ⟨h, rfl⟩
            · exact .throw _

theorem appendedLogs_taskId {now : ℤ} {dto : AppendTaskLogDto} :
    ∀ log ∈ Loaded.appendedLogs now taskId dto, log.taskId = taskId := by
  intro log hlog
  unfold Loaded.appendedLogs at hlog
  split at hlog
  · obtain ⟨entry, -, rfl⟩ := List.mem_map.mp hlog
    rfl
  · obtain ⟨message, -, rfl⟩ := List.mem_map.mp hlog
    rfl

theorem appendLogForAgent_own {now : ℤ} {authenticated : Except HttpError Unit}
    {dto : AppendTaskLogDto}
    (h : appendLogForAgent db now taskId agent authenticated dto = .ok db') :
    SameElsewhere agent db db' := by
  unfold appendLogForAgent at h
  obtain ⟨_, _, h⟩ := bind_eq_ok.mp h
  obtain ⟨_, _, h⟩ := bind_eq_ok.mp h
  obtain ⟨loaded, hloaded, h⟩ := bind_eq_ok.mp h
  obtain ⟨decision, hdecision, h⟩ := bind_eq_ok.mp h
  cases decision with
  | none =>
      cases h
      exact .refl _
  | some saved =>
      cases h
      obtain ⟨-, -, output, rfl⟩ := Loaded.appendLogForAgent_ok hdecision
      exact sameElsewhere_save_logs hloaded rfl rfl appendedLogs_taskId

theorem appendLogForAgent_other (h : SameElsewhere agent db db') (hnode : nodeId ≠ agent)
    (now : ℤ) (authenticated : Except HttpError Unit) (dto : AppendTaskLogDto) :
    SameOutcome (SameElsewhere agent) (appendLogForAgent db now taskId nodeId authenticated dto)
      (appendLogForAgent db' now taskId nodeId authenticated dto) := by
  unfold appendLogForAgent
  refine .bind rfl fun _ _ => .bind rfl fun _ _ => ?_
  refine .bind (h.findTaskForNodeOrFail hnode) fun loaded hloaded => ?_
  refine .bind rfl fun decision hdecision => ?_
  cases decision with
  | none => exact h
  | some saved =>
      obtain ⟨-, -, output, hsaved⟩ := Loaded.appendLogForAgent_ok hdecision
      rw [← h.findTaskForNodeOrFail hnode] at hloaded
      have hfind := (findTaskForNodeOrFail_ok hloaded).1
      exact (h.save hfind (by rw [hsaved]) (by rw [hsaved])).saveLogs _

theorem completionLogs_taskId {now : ℤ} {dto : CompleteAgentTaskDto} :
    ∀ log ∈ Loaded.completionLogs now dto saved, log.taskId = saved.id := by
  intro log hlog
  unfold Loaded.completionLogs at hlog
  split at hlog
  · cases hlog
  · cases hlog
  · rw [List.mem_singleton] at hlog
    rw [hlog]

theorem completeForAgent_own {now : ℤ} {authenticated : Except HttpError Unit}
    {dto : CompleteAgentTaskDto} {task : TaskEntity}
    (h : completeForAgent db now taskId agent authenticated dto = .ok (db', task)) :
    SameElsewhere agent db db' := by
  unfold completeForAgent at h
  obtain ⟨_, _, h⟩ := bind_eq_ok.mp h
  obtain ⟨status, hstatus, h⟩ := bind_eq_ok.mp h
  obtain ⟨_, _, h⟩ := bind_eq_ok.mp h
  obtain ⟨loaded, hloaded, h⟩ := bind_eq_ok.mp h
  obtain ⟨decision, hdecision, h⟩ := bind_eq_ok.mp h
  cases decision with
  | none =>
      cases h
      exact .refl _
  | some saved =>
      cases h
      obtain ⟨-, -, -, -, hfinishes⟩ := Loaded.completeForAgent_ok
        (normalizeCompletionStatus_isTerminal hstatus) hdecision
      refine sameElsewhere_save_logs hloaded hfinishes.id hfinishes.nodeId ?_
      intro log hlog
      rw [completionLogs_taskId log hlog, hfinishes.id]
      exact TaskTables.id_of_findTask (findTaskForNodeOrFail_ok hloaded).1

theorem completeForAgent_other (h : SameElsewhere agent db db') (hnode : nodeId ≠ agent)
    (now : ℤ) (authenticated : Except HttpError Unit) (dto : CompleteAgentTaskDto) :
    SameOutcome (SameResult agent) (completeForAgent db now taskId nodeId authenticated dto)
      (completeForAgent db' now taskId nodeId authenticated dto) := by
  unfold completeForAgent
  refine .bind rfl fun _ _ => .bind rfl fun status hstatus => .bind rfl fun _ _ => ?_
  refine .bind (h.findTaskForNodeOrFail hnode) fun loaded hloaded => ?_
  refine .bind rfl fun decision hdecision => ?_
  cases decision with
  | none => exact ⟨h, rfl⟩
  | some saved =>
      obtain ⟨-, -, -, -, hfinishes⟩ := Loaded.completeForAgent_ok
        (normalizeCompletionStatus_isTerminal hstatus) hdecision
      rw [← h.findTaskForNodeOrFail hnode] at hloaded
      have hfind := (findTaskForNodeOrFail_ok hloaded).1
      exact ⟨(h.save hfind hfinishes.id hfinishes.nodeId).saveLogs _, rfl⟩

end TasksService
