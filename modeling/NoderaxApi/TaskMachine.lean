/-
# The task operations as a machine

Every operation is one atomic event on the tables, in any order, with any clock
readings and any number of agents and operators.  An event carries what its
caller and its environment choose; an operation that throws leaves the tables
alone.  `nodesChanged` stands for whatever other services do to the `nodes`
table.

`TaskStep` says once what an event can do to a row; every invariant is derived
from it.
-/
import NoderaxApi.TasksService
import NoderaxApi.Runs

namespace TasksService

open Runs

/-! ## Events and steps -/

/-- One atomic task operation. -/
inductive TaskEvent
  | queueTask (now : ℤ) (id : Uuid) (templates : List TaskTemplateEntity)
      (writable : Except HttpError Unit) (input : QueueTaskInput)
      (nodeOverride : Option NodeEntity)
  | claimNextTaskOnce (now configured : ℤ) (nodeId claimToken chosen : Uuid)
  | acceptClaimedTaskForAgent (now : ℤ) (taskId nodeId : Uuid) (dto : AgentTaskHttpDto)
  | startClaimedTaskForAgent (now : ℤ) (taskId nodeId : Uuid) (dto : AgentTaskHttpDto)
  | appendClaimedTaskLogForAgent (now : ℤ) (taskId nodeId : Uuid) (dto : AgentTaskLogHttpDto)
  | completeClaimedTaskForAgent (now : ℤ) (taskId nodeId : Uuid) (dto : CompleteAgentTaskDto)
  | acknowledgeForAgent (now : ℤ) (taskId nodeId : Uuid) (authenticated : Except HttpError Unit)
      (timestamp : Option DateString)
  | startForAgent (now : ℤ) (taskId nodeId : Uuid) (authenticated : Except HttpError Unit)
      (dto : StartAgentTaskDto)
  | appendLogForAgent (now : ℤ) (taskId nodeId : Uuid) (authenticated : Except HttpError Unit)
      (dto : AppendTaskLogDto)
  | completeForAgent (now : ℤ) (taskId nodeId : Uuid) (authenticated : Except HttpError Unit)
      (dto : CompleteAgentTaskDto)
  | requestTaskCancellation (now : ℤ) (taskId : Uuid) (workspaceId : Option Uuid)
      (writable : Except HttpError Unit) (dto : RequestTaskCancelDto)
  | requeueExpiredLeases (now : ℤ)
  | failStaleTasks (now queuedTimeoutSeconds runningTimeoutSeconds : ℤ)
  | syncLinkedTaskTerminalState (now : ℤ) (taskId : Uuid) (succeeded : Bool) (detail : String)
  | nodesChanged (nodes : List NodeEntity)

/-- The events that only move tasks through the queue: creation, claims, expired
leases, and what they read of the nodes. -/
def TaskEvent.isQueueEvent : TaskEvent → Bool
  | .queueTask .. | .claimNextTaskOnce .. | .acceptClaimedTaskForAgent ..
  | .acknowledgeForAgent .. | .requeueExpiredLeases .. | .nodesChanged .. => true
  | _ => false

/-- The tables after an operation: unchanged if it threw. -/
def settle {α : Type} (db : TaskTables) : Except HttpError (TaskTables × α) → TaskTables
  | .ok (db', _) => db'
  | .error _ => db

/-- The tables after an operation without an answer. -/
def settle' (db : TaskTables) : Except HttpError TaskTables → TaskTables
  | .ok db' => db'
  | .error _ => db

/-- One event. -/
def taskStep (db : TaskTables) : TaskEvent → TaskTables
  | .queueTask now id templates writable input nodeOverride =>
      settle db (queueTask db now id templates writable input nodeOverride)
  | .claimNextTaskOnce now configured nodeId claimToken chosen =>
      (claimNextTaskOnce db now configured nodeId claimToken chosen).1
  | .acceptClaimedTaskForAgent now taskId nodeId dto =>
      settle db (acceptClaimedTaskForAgent db now taskId nodeId dto)
  | .startClaimedTaskForAgent now taskId nodeId dto =>
      settle db (startClaimedTaskForAgent db now taskId nodeId dto)
  | .appendClaimedTaskLogForAgent now taskId nodeId dto =>
      settle' db (appendClaimedTaskLogForAgent db now taskId nodeId dto)
  | .completeClaimedTaskForAgent now taskId nodeId dto =>
      settle db (completeClaimedTaskForAgent db now taskId nodeId dto)
  | .acknowledgeForAgent now taskId nodeId authenticated timestamp =>
      settle' db (acknowledgeForAgent db now taskId nodeId authenticated timestamp)
  | .startForAgent now taskId nodeId authenticated dto =>
      settle db (startForAgent db now taskId nodeId authenticated dto)
  | .appendLogForAgent now taskId nodeId authenticated dto =>
      settle' db (appendLogForAgent db now taskId nodeId authenticated dto)
  | .completeForAgent now taskId nodeId authenticated dto =>
      settle db (completeForAgent db now taskId nodeId authenticated dto)
  | .requestTaskCancellation now taskId workspaceId writable dto =>
      settle db (requestTaskCancellation db now taskId workspaceId writable dto)
  | .requeueExpiredLeases now => requeueExpiredLeases db now
  | .failStaleTasks now queuedTimeoutSeconds runningTimeoutSeconds =>
      failStaleTasks db now queuedTimeoutSeconds runningTimeoutSeconds
  | .syncLinkedTaskTerminalState now taskId succeeded detail =>
      syncLinkedTaskTerminalState db now taskId succeeded detail
  | .nodesChanged nodes => { db with nodes := nodes }

/-- The tables before anything happened. -/
def emptyTables : TaskTables := {}

/-! ## What an event does to a row -/

/-- The change of one row under one event. -/
inductive TaskStep : TaskEvent → TaskEntity → TaskEntity → Prop
  | unchanged {e : TaskEvent} {task : TaskEntity} : TaskStep e task task
  | claimed {now configured : ℤ} {nodeId claimToken chosen : Uuid} {nodes : List NodeEntity}
      {task : TaskEntity} (hid : task.id = chosen)
      (hclaimable : isClaimable now nodes nodeId task = true) :
      TaskStep (.claimNextTaskOnce now configured nodeId claimToken chosen) task
        (claimedBy now configured nodeId claimToken task)
  | startedClaim {now startedAt : ℤ} {taskId nodeId : Uuid} {dto : AgentTaskHttpDto}
      {task : TaskEntity} (hstartable : isStartableClaim taskId nodeId task = true) :
      TaskStep (.startClaimedTaskForAgent now taskId nodeId dto) task (startedClaim startedAt task)
  | started {now startedAt : ℤ} {taskId nodeId : Uuid} {dto : StartAgentTaskDto}
      {task : TaskEntity} (hstartable : isStartable taskId nodeId task = true) :
      TaskStep (.startForAgent now taskId nodeId (.ok ()) dto) task (started startedAt task)
  | logged {e : TaskEvent} {task saved : TaskEntity} (he : e.isQueueEvent = false)
      (hqueued : task.status ≠ .queued) (hopen : task.status.isTerminal = false)
      (hsaved : Loaded.OutputOnly task saved) : TaskStep e task saved
  | finished {e : TaskEvent} {task saved : TaskEntity} (he : e.isQueueEvent = false)
      (hcleared : saved.LeaseCleared) (hsaved : Loaded.Finishes task saved) : TaskStep e task saved
  | completed {now : ℤ} {taskId nodeId : Uuid} {dto : CompleteAgentTaskDto}
      {task saved : TaskEntity} (hroute : assertTaskIdMatchesRoute taskId dto.taskId = .ok ())
      (hstatus : ∃ status, normalizeCompletionStatus dto.status = .ok status)
      (hid : task.id = taskId) (hnode : task.nodeId = nodeId)
      (hlease : saved.leaseUntil = task.leaseUntil) (hclaimedBy : saved.claimedBy = task.claimedBy)
      (htoken : saved.claimToken = task.claimToken) (hsaved : Loaded.Finishes task saved) :
      TaskStep (.completeForAgent now taskId nodeId (.ok ()) dto) task saved
  | cancelRequested {e : TaskEvent} {now : ℤ} {reason : Option String} {task : TaskEntity}
      (he : e.isQueueEvent = false) (hrunning : task.status = .running) :
      TaskStep e task { task with cancelRequestedAt := some now, cancelReason := reason }
  | requeued {now : ℤ} {task : TaskEntity} (hexpired : leaseExpired now task = true) :
      TaskStep (.requeueExpiredLeases now) task (requeued task)
  | requeuedStale {now queuedTimeoutSeconds runningTimeoutSeconds : ℤ} {task : TaskEntity}
      (hexpired : leaseExpired now task = true) :
      TaskStep (.failStaleTasks now queuedTimeoutSeconds runningTimeoutSeconds) task (requeued task)

/-- A row that `queueTask` inserts. -/
structure Fresh (task : TaskEntity) : Prop where
  status : task.status = .queued
  lease : task.LeaseCleared
  startedAt : task.startedAt = none
  cancelRequestedAt : task.cancelRequestedAt = none

/-! ### One lemma for each kind of write -/

/-- What one event makes of the row with a given id. -/
def RowStep (e : TaskEvent) (db db' : TaskTables) : Prop :=
  ∀ id, match db.findTask id with
    | some task => ∃ task', db'.findTask id = some task' ∧ TaskStep e task task'
    | none => ∀ task', db'.findTask id = some task' → Fresh task'

theorem RowStep.of_same_tasks {e : TaskEvent} {db db' : TaskTables} (h : db'.tasks = db.tasks) :
    RowStep e db db' := by
  intro id
  have hfind : db'.findTask id = db.findTask id := by
    unfold TaskTables.findTask
    rw [h]
  rw [hfind]
  cases db.findTask id with
  | none => intro task' h; cases h
  | some task => exact ⟨task, rfl, .unchanged⟩

/-- The save of an entity that was loaded before. -/
theorem RowStep.of_save {e : TaskEvent} {db : TaskTables} {task saved : TaskEntity}
    (hfind : db.findTask task.id = some task) (hid : saved.id = task.id)
    (hstep : TaskStep e task saved) : RowStep e db (db.saveTask saved) := by
  intro id
  rw [TaskTables.findTask_saveTask, hid]
  by_cases h : id = task.id
  · subst h
    rw [if_pos rfl, hfind]
    exact ⟨saved, rfl, hstep⟩
  · rw [if_neg h]
    cases hold : db.findTask id with
    | none => intro task' h'; cases h'
    | some other => exact ⟨other, rfl, .unchanged⟩

/-- Log rows are another table. -/
theorem RowStep.saveLogs {e : TaskEvent} {db db' : TaskTables} (h : RowStep e db db')
    (logs : List TaskLogEntity) : RowStep e db (db'.saveLogs logs) := h

/-- An UPDATE statement. -/
theorem RowStep.of_update {e : TaskEvent} {db : TaskTables} {p : TaskEntity → Bool}
    {f : TaskEntity → TaskEntity} (hf : ∀ task, (f task).id = task.id)
    (hstep : ∀ id task, db.findTask id = some task → p task = true → TaskStep e task (f task)) :
    RowStep e db (db.updateTasks p f) := by
  intro id
  rw [TaskTables.findTask_updateTasks hf]
  cases hfind : db.findTask id with
  | none => intro task' h; cases h
  | some task =>
      refine ⟨_, rfl, ?_⟩
      show TaskStep e task (if p task = true then f task else task)
      by_cases hp : p task = true
      · rw [if_pos hp]; exact hstep id task hfind hp
      · rw [if_neg hp]; exact .unchanged

/-- The tables that an operation which threw leaves alone. -/
theorem RowStep.of_settle {α : Type} {e : TaskEvent} {db : TaskTables}
    {r : Except HttpError (TaskTables × α)}
    (h : ∀ db' a, r = .ok (db', a) → RowStep e db db') : RowStep e db (settle db r) := by
  cases r with
  | error _ => exact .of_same_tasks rfl
  | ok p => exact h p.1 p.2 rfl

theorem RowStep.of_settle' {e : TaskEvent} {db : TaskTables} {r : Except HttpError TaskTables}
    (h : ∀ db', r = .ok db' → RowStep e db db') : RowStep e db (settle' db r) := by
  cases r with
  | error _ => exact .of_same_tasks rfl
  | ok db' => exact h db' rfl

/-! ### One lemma for each operation -/

theorem queueTask_row {db db' : TaskTables} {now : ℤ} {id : Uuid}
    {templates : List TaskTemplateEntity} {writable : Except HttpError Unit}
    {input : QueueTaskInput} {nodeOverride : Option NodeEntity} {task : TaskEntity}
    (h : queueTask db now id templates writable input nodeOverride = .ok (db', task)) :
    task.id = id ∧ Fresh task ∧ db.findTask id = none ∧
      db' = { db with tasks := db.tasks ++ [task] } := by
  obtain ⟨hqueued, hnew, hdb⟩ := queueTask_ok h
  obtain ⟨node, template, -, -, -, -, -, rfl⟩ := queuedTask_ok hqueued
  exact ⟨rfl, ⟨rfl, ⟨rfl, rfl, rfl⟩, rfl, rfl⟩, hnew, hdb⟩

/-- An INSERT under a new id. -/
theorem RowStep.of_insert {e : TaskEvent} {db : TaskTables} {task : TaskEntity}
    (hnew : db.findTask task.id = none) (hfresh : Fresh task) :
    RowStep e db { db with tasks := db.tasks ++ [task] } := by
  intro id
  have hfind : ({ db with tasks := db.tasks ++ [task] } : TaskTables).findTask id
      = if id = task.id then some task else db.findTask id :=
    KeyedTable.find_append_new hnew id
  rw [hfind]
  by_cases h : id = task.id
  · rw [if_pos h, h, hnew]
    intro task' h'
    cases h'
    exact hfresh
  · rw [if_neg h]
    cases db.findTask id with
    | none => intro task' h'; cases h'
    | some other => exact ⟨other, rfl, .unchanged⟩

theorem claimNextTaskOnce_row (db : TaskTables) (now configured : ℤ)
    (nodeId claimToken chosen : Uuid) :
    RowStep (.claimNextTaskOnce now configured nodeId claimToken chosen) db
      (claimNextTaskOnce db now configured nodeId claimToken chosen).1 := by
  unfold claimNextTaskOnce
  split
  · next holdest =>
      refine .of_update (fun _ => rfl) ?_
      intro id task hfind hp
      have hid : task.id = chosen := by simpa using hp
      rw [← TaskTables.id_of_findTask hfind, hid] at hfind
      exact .claimed hid (isClaimable_of_isOldestClaimable holdest hfind)
  · exact .of_same_tasks rfl

theorem startClaimedTaskForAgent_row {db db' : TaskTables} {now : ℤ} {taskId nodeId : Uuid}
    {dto : AgentTaskHttpDto} {task : TaskEntity}
    (h : startClaimedTaskForAgent db now taskId nodeId dto = .ok (db', task)) :
    RowStep (.startClaimedTaskForAgent now taskId nodeId dto) db db' := by
  unfold startClaimedTaskForAgent at h
  obtain ⟨_, _, h⟩ := bind_eq_ok.mp h
  obtain ⟨loaded, _, h⟩ := bind_eq_ok.mp h
  obtain ⟨decision, _, h⟩ := bind_eq_ok.mp h
  cases decision with
  | none => cases h; exact .of_same_tasks rfl
  | some _ =>
      dsimp only at h
      split at h
      · obtain ⟨_, _, h⟩ := bind_eq_ok.mp h
        cases h
        exact .of_update (fun _ => rfl) fun id task _ hp => .startedClaim hp
      · cases h

theorem appendClaimedTaskLogForAgent_row {e : TaskEvent} {db db' : TaskTables} {now : ℤ}
    {taskId nodeId : Uuid} {dto : AgentTaskLogHttpDto}
    (he : e.isQueueEvent = false)
    (h : appendClaimedTaskLogForAgent db now taskId nodeId dto = .ok db') : RowStep e db db' := by
  unfold appendClaimedTaskLogForAgent at h
  obtain ⟨_, _, h⟩ := bind_eq_ok.mp h
  obtain ⟨loaded, hloaded, h⟩ := bind_eq_ok.mp h
  obtain ⟨decision, hdecision, h⟩ := bind_eq_ok.mp h
  have hfind := (findTaskForNodeOrFail_ok hloaded).1
  rw [← TaskTables.id_of_findTask hfind] at hfind
  cases decision with
  | none => cases h; exact .of_same_tasks rfl
  | some saved =>
      cases h
      obtain ⟨hrunning, hsaved⟩ := Loaded.appendClaimedTaskLogForAgent_ok hdecision
      have hid : saved.id = loaded.id := by obtain ⟨_, rfl⟩ := hsaved; rfl
      refine (RowStep.of_save hfind hid (.logged he ?_ ?_ hsaved)).saveLogs _
      · rw [hrunning]; decide
      · rw [hrunning]; rfl

theorem completeClaimedTaskForAgent_row {e : TaskEvent} {db db' : TaskTables} {now : ℤ}
    {taskId nodeId : Uuid} {dto : CompleteAgentTaskDto} {task : TaskEntity}
    (he : e.isQueueEvent = false)
    (h : completeClaimedTaskForAgent db now taskId nodeId dto = .ok (db', task)) :
    RowStep e db db' := by
  unfold completeClaimedTaskForAgent at h
  obtain ⟨_, _, h⟩ := bind_eq_ok.mp h
  obtain ⟨status, hstatus, h⟩ := bind_eq_ok.mp h
  obtain ⟨loaded, hloaded, h⟩ := bind_eq_ok.mp h
  obtain ⟨decision, hdecision, h⟩ := bind_eq_ok.mp h
  have hfind := (findTaskForNodeOrFail_ok hloaded).1
  rw [← TaskTables.id_of_findTask hfind] at hfind
  cases decision with
  | none => cases h; exact .of_same_tasks rfl
  | some saved =>
      cases h
      obtain ⟨_, _, hcleared, hsaved⟩ := Loaded.completeClaimedTaskForAgent_ok
        (normalizeCompletionStatus_isTerminal hstatus) hdecision
      exact .of_save hfind hsaved.id (.finished he hcleared hsaved)

theorem startForAgent_row {db db' : TaskTables} {now : ℤ} {taskId nodeId : Uuid}
    {authenticated : Except HttpError Unit} {dto : StartAgentTaskDto} {task : TaskEntity}
    (h : startForAgent db now taskId nodeId authenticated dto = .ok (db', task)) :
    RowStep (.startForAgent now taskId nodeId authenticated dto) db db' := by
  unfold startForAgent at h
  obtain ⟨_, _, hchecked⟩ := bind_eq_ok.mp h
  obtain ⟨_, hauth, hbody⟩ := bind_eq_ok.mp hchecked
  rw [hauth]
  split at hbody
  · obtain ⟨_, _, hbody⟩ := bind_eq_ok.mp hbody
    cases hbody
    exact .of_update (fun _ => rfl) fun id task _ hp => .started hp
  · split at hbody
    · cases hbody
    · split at hbody
      · cases hbody
      · split at hbody
        · cases hbody; exact .of_same_tasks rfl
        · cases hbody

theorem appendLogForAgent_row {e : TaskEvent} {db db' : TaskTables} {now : ℤ}
    {taskId nodeId : Uuid} {authenticated : Except HttpError Unit} {dto : AppendTaskLogDto}
    (he : e.isQueueEvent = false)
    (h : appendLogForAgent db now taskId nodeId authenticated dto = .ok db') :
    RowStep e db db' := by
  unfold appendLogForAgent at h
  obtain ⟨_, _, h⟩ := bind_eq_ok.mp h
  obtain ⟨_, _, h⟩ := bind_eq_ok.mp h
  obtain ⟨loaded, hloaded, h⟩ := bind_eq_ok.mp h
  obtain ⟨decision, hdecision, h⟩ := bind_eq_ok.mp h
  have hfind := (findTaskForNodeOrFail_ok hloaded).1
  rw [← TaskTables.id_of_findTask hfind] at hfind
  cases decision with
  | none => cases h; exact .of_same_tasks rfl
  | some saved =>
      cases h
      obtain ⟨hqueued, hopen, hsaved⟩ := Loaded.appendLogForAgent_ok hdecision
      have hid : saved.id = loaded.id := by obtain ⟨_, rfl⟩ := hsaved; rfl
      exact (RowStep.of_save hfind hid (.logged he hqueued hopen hsaved)).saveLogs _

theorem completeForAgent_row {db db' : TaskTables} {now : ℤ} {taskId nodeId : Uuid}
    {authenticated : Except HttpError Unit} {dto : CompleteAgentTaskDto} {task : TaskEntity}
    (h : completeForAgent db now taskId nodeId authenticated dto = .ok (db', task)) :
    RowStep (.completeForAgent now taskId nodeId authenticated dto) db db' := by
  unfold completeForAgent at h
  obtain ⟨_, hroute, h⟩ := bind_eq_ok.mp h
  obtain ⟨status, hstatus, h⟩ := bind_eq_ok.mp h
  obtain ⟨_, hauth, h⟩ := bind_eq_ok.mp h
  rw [hauth]
  obtain ⟨loaded, hloaded, h⟩ := bind_eq_ok.mp h
  obtain ⟨decision, hdecision, h⟩ := bind_eq_ok.mp h
  obtain ⟨hfind, hnode⟩ := findTaskForNodeOrFail_ok hloaded
  have hid : loaded.id = taskId := TaskTables.id_of_findTask hfind
  rw [← hid] at hfind
  cases decision with
  | none => cases h; exact .of_same_tasks rfl
  | some saved =>
      cases h
      obtain ⟨_, hlease, hclaimedBy, htoken, hsaved⟩ := Loaded.completeForAgent_ok
        (normalizeCompletionStatus_isTerminal hstatus) hdecision
      exact (RowStep.of_save hfind hsaved.id
        (.completed hroute ⟨status, hstatus⟩ hid hnode hlease hclaimedBy htoken hsaved)).saveLogs _

theorem requestTaskCancellation_row {e : TaskEvent} {db db' : TaskTables} {now : ℤ}
    {taskId : Uuid} {workspaceId : Option Uuid} {writable : Except HttpError Unit}
    {dto : RequestTaskCancelDto} {task : TaskEntity}
    (he : e.isQueueEvent = false)
    (h : requestTaskCancellation db now taskId workspaceId writable dto = .ok (db', task)) :
    RowStep e db db' := by
  unfold requestTaskCancellation at h
  obtain ⟨loaded, hloaded, h⟩ := bind_eq_ok.mp h
  obtain ⟨_, _, h⟩ := bind_eq_ok.mp h
  have hfind := findOneOrFail_ok hloaded
  rw [← TaskTables.id_of_findTask hfind] at hfind
  split at h
  · cases h; exact .of_same_tasks rfl
  · next saved hsaved =>
      cases h
      rcases (Loaded.requestTaskCancellation_some hsaved).2 with
        ⟨_, _, hcleared, hfinishes⟩ | ⟨hrunning, reason, rfl⟩
      · exact (RowStep.of_save hfind hfinishes.id (.finished he hcleared hfinishes)).saveLogs _
      · have hstep : TaskStep e loaded
            { loaded with cancelRequestedAt := some now, cancelReason := reason } :=
          .cancelRequested he hrunning
        refine (RowStep.of_save hfind ?_ hstep).saveLogs _
        rfl

/-- A stale task is not over. -/
theorem not_isTerminal_of_isStale {now queuedTimeoutSeconds runningTimeoutSeconds : ℤ}
    {nodes : List NodeEntity} {task : TaskEntity}
    (h : isStale now nodes queuedTimeoutSeconds runningTimeoutSeconds task = true) :
    task.status.isTerminal = false := by
  unfold isStale at h
  cases hs : task.status <;> simp [hs] at h <;> rfl

theorem leaseExpired_isLeased {now : ℤ} {task : TaskEntity} (h : leaseExpired now task = true) :
    task.status.isLeased = true := by
  unfold leaseExpired at h
  exact (Bool.and_eq_true_iff.mp h).1

theorem requeueExpiredLeases_row (db : TaskTables) (now : ℤ) :
    RowStep (.requeueExpiredLeases now) db (requeueExpiredLeases db now) := by
  refine .of_update (fun _ => rfl) ?_
  intro id task _ hp
  exact .requeued (Bool.and_eq_true_iff.mp hp).1

/-- The two statements of `failStaleTasks`, one after the other on a row. -/
theorem failStaleTasks_row (db : TaskTables) (now queuedTimeoutSeconds runningTimeoutSeconds : ℤ) :
    RowStep (.failStaleTasks now queuedTimeoutSeconds runningTimeoutSeconds) db
      (failStaleTasks db now queuedTimeoutSeconds runningTimeoutSeconds) := by
  intro id
  have hrequeue : ∀ task, (requeued task).id = task.id := fun _ => rfl
  have hfail : ∀ task, (Loaded.failStaleTask now task).id = task.id := fun _ => rfl
  unfold failStaleTasks requeueExpiredLeases
  dsimp only
  rw [TaskTables.findTask_updateTasks hfail, TaskTables.findTask_updateTasks hrequeue]
  cases db.findTask id with
  | none => intro task' h; cases h
  | some task =>
      refine ⟨_, rfl, ?_⟩
      dsimp only
      by_cases hrequeued : (leaseExpired now task && nodeInService db.nodes task.nodeId) = true
      · have hexpired : leaseExpired now task = true := (Bool.and_eq_true_iff.mp hrequeued).1
        rw [if_pos hrequeued]
        split
        · next hstale =>
            -- requeued and failed at once: the row was leased, so it was not over
            obtain ⟨hcleared, hf⟩ :=
              Loaded.failStaleTask_finishes now (not_isTerminal_of_isStale hstale)
            refine .finished rfl hcleared ?_
            exact
              { id := hf.id
                nodeId := hf.nodeId
                open_before :=
                  TaskStatus.not_isTerminal_of_isLeased (leaseExpired_isLeased hexpired)
                terminal := hf.terminal
                finishedAt := hf.finishedAt
                startedAt := hf.startedAt
                cancelRequestedAt := hf.cancelRequestedAt }
        · exact .requeuedStale hexpired
      · rw [if_neg hrequeued]
        split
        · next hstale =>
            obtain ⟨hcleared, hf⟩ :=
              Loaded.failStaleTask_finishes now (not_isTerminal_of_isStale hstale)
            exact .finished rfl hcleared hf
        · exact .unchanged

theorem syncLinkedTaskTerminalState_row {e : TaskEvent} (he : e.isQueueEvent = false)
    (db : TaskTables) (now : ℤ) (taskId : Uuid) (succeeded : Bool) (detail : String) :
    RowStep e db (syncLinkedTaskTerminalState db now taskId succeeded detail) := by
  unfold syncLinkedTaskTerminalState
  split
  · exact .of_same_tasks rfl
  · next linkedTask hfind =>
      rw [← TaskTables.id_of_findTask hfind] at hfind
      split
      · exact .of_same_tasks rfl
      · next saved hsaved =>
          obtain ⟨hcleared, hfinishes⟩ := Loaded.syncLinkedTaskTerminalState_some hsaved
          exact .of_save hfind hfinishes.id (.finished he hcleared hfinishes)

/-- **What one event does to each row.** -/
theorem taskStep_row (db : TaskTables) (e : TaskEvent) :
    RowStep e db (taskStep db e) := by
  cases e with
  | queueTask now id templates writable input nodeOverride =>
      refine .of_settle fun db' task h => ?_
      obtain ⟨hid, hfresh, hnew, rfl⟩ := queueTask_row h
      exact .of_insert (hid ▸ hnew) hfresh
  | claimNextTaskOnce now configured nodeId claimToken chosen =>
      exact claimNextTaskOnce_row db now configured nodeId claimToken chosen
  | acceptClaimedTaskForAgent now taskId nodeId dto =>
      refine .of_settle fun db' duplicate h => ?_
      unfold acceptClaimedTaskForAgent at h
      obtain ⟨_, _, h⟩ := bind_eq_ok.mp h
      obtain ⟨task, _, h⟩ := bind_eq_ok.mp h
      refine .of_same_tasks ?_
      split at h
      · cases h; rfl
      · split at h
        · cases h
        · split at h
          · cases h; rfl
          · obtain ⟨_, _, h⟩ := bind_eq_ok.mp h
            cases h; rfl
  | startClaimedTaskForAgent now taskId nodeId dto =>
      exact .of_settle fun db' task h => startClaimedTaskForAgent_row h
  | appendClaimedTaskLogForAgent now taskId nodeId dto =>
      exact .of_settle' fun db' h => appendClaimedTaskLogForAgent_row rfl h
  | completeClaimedTaskForAgent now taskId nodeId dto =>
      exact .of_settle fun db' task h => completeClaimedTaskForAgent_row rfl h
  | acknowledgeForAgent now taskId nodeId authenticated timestamp =>
      refine .of_settle' fun db' h => ?_
      unfold acknowledgeForAgent at h
      obtain ⟨_, _, h⟩ := bind_eq_ok.mp h
      obtain ⟨_, _, h⟩ := bind_eq_ok.mp h
      cases h
      exact .of_same_tasks rfl
  | startForAgent now taskId nodeId authenticated dto =>
      exact .of_settle fun db' task h => startForAgent_row h
  | appendLogForAgent now taskId nodeId authenticated dto =>
      exact .of_settle' fun db' h => appendLogForAgent_row rfl h
  | completeForAgent now taskId nodeId authenticated dto =>
      exact .of_settle fun db' task h => completeForAgent_row h
  | requestTaskCancellation now taskId workspaceId writable dto =>
      exact .of_settle fun db' task h => requestTaskCancellation_row rfl h
  | requeueExpiredLeases now => exact requeueExpiredLeases_row db now
  | failStaleTasks now queuedTimeoutSeconds runningTimeoutSeconds =>
      exact failStaleTasks_row db now queuedTimeoutSeconds runningTimeoutSeconds
  | syncLinkedTaskTerminalState now taskId succeeded detail =>
      exact syncLinkedTaskTerminalState_row rfl db now taskId succeeded detail
  | nodesChanged nodes => exact .of_same_tasks rfl

end TasksService
