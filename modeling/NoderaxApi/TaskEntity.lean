/-
# The `tasks` and `task_logs` rows

The columns of `TaskEntity` and `TaskLogEntity`.  A task is always loaded with
all its columns, so saving an entity makes the row equal to it
(`KeyedTable.put`); `updatedAt` is written by every statement and read by none,
and is left out.

Statuses are ordered by `rank`: a task waits, then runs, then is over.
-/
import NoderaxApi.NodeEntity

/-! ## Statuses -/

/-- `TaskStatus`. -/
inductive TaskStatus
  | queued
  | accepted
  | claimed
  | running
  | success
  | failed
  | cancelled
  deriving DecidableEq, Repr

namespace TaskStatus

/-- The stored text of a status. -/
def text : TaskStatus → String
  | .queued => "queued"
  | .accepted => "accepted"
  | .claimed => "claimed"
  | .running => "running"
  | .success => "success"
  | .failed => "failed"
  | .cancelled => "cancelled"

/-- `TERMINAL_TASK_STATUSES`. -/
def terminal : List TaskStatus := [.success, .failed, .cancelled]

/-- `isTerminalStatus`. -/
def isTerminal (status : TaskStatus) : Bool := status ∈ terminal

/-- The statuses under a lease, as the claim and requeue statements list them. -/
def leased : List TaskStatus := [.accepted, .claimed]

/-- `status IN (ACCEPTED, CLAIMED)`. -/
def isLeased (status : TaskStatus) : Bool := status ∈ leased

/-- Waiting, running, over. -/
def rank : TaskStatus → ℕ
  | .queued | .accepted | .claimed => 0
  | .running => 1
  | .success | .failed | .cancelled => 2

theorem isTerminal_iff_rank (status : TaskStatus) : status.isTerminal = true ↔ status.rank = 2 := by
  cases status <;> decide

theorem rank_eq_one_iff (status : TaskStatus) : status.rank = 1 ↔ status = .running := by
  cases status <;> decide

theorem rank_of_isLeased {status : TaskStatus} (h : status.isLeased = true) : status.rank = 0 := by
  cases status <;> first | rfl | cases h

theorem not_isTerminal_of_isLeased {status : TaskStatus} (h : status.isLeased = true) :
    status.isTerminal = false := by
  cases status <;> first | rfl | cases h

theorem not_isLeased_of_isTerminal {status : TaskStatus} (h : status.isTerminal = true) :
    status.isLeased = false := by
  cases status <;> first | rfl | cases h

end TaskStatus

/-- `TaskLogLevel`. -/
inductive TaskLogLevel
  | info
  | stdout
  | stderr
  | error
  deriving DecidableEq, Repr

/-- The stored text of a log level. -/
def TaskLogLevel.text : TaskLogLevel → String
  | .info => "info"
  | .stdout => "stdout"
  | .stderr => "stderr"
  | .error => "error"

/-! ## Rows -/

/-- A row of the `tasks` table. -/
structure TaskEntity where
  id : Uuid
  workspaceId : Uuid
  nodeId : Uuid
  type : String
  isInternal : Bool := false
  payload : JsonObject := []
  targetTeamId : Option Uuid := none
  templateId : Option Uuid := none
  templateName : Option String := none
  status : TaskStatus := .queued
  result : Option JsonObject := none
  output : Option String := none
  outputTruncated : Bool := false
  leaseUntil : Option ℤ := none
  claimedBy : Option Uuid := none
  claimToken : Option Uuid := none
  startedAt : Option ℤ := none
  finishedAt : Option ℤ := none
  cancelRequestedAt : Option ℤ := none
  cancelReason : Option String := none
  createdAt : ℤ

/-- How `queueTask` ends for its caller.  It inserts the task before it records events
and notifies the agent, and those may throw. -/
inductive QueueOutcome
  | queued (taskId : Uuid)
  | refused (message : String)
  | failedAfterInsert (taskId : Uuid) (message : String)
  deriving DecidableEq

/-- A row of the `task_logs` table. -/
structure TaskLogEntity where
  taskId : Uuid
  level : TaskLogLevel
  message : String
  timestamp : ℤ
  deriving DecidableEq, Repr

/-- A row of the `task_templates` table, as far as `queueTask` reads it. -/
structure TaskTemplateEntity where
  id : Uuid
  workspaceId : Uuid
  name : String
  deriving DecidableEq, Repr

namespace TaskEntity

/-- The row without lease, claim holder and claim token. -/
def clearLease (task : TaskEntity) : TaskEntity :=
  { task with leaseUntil := none, claimedBy := none, claimToken := none }

/-- The lease columns are all null. -/
def LeaseCleared (task : TaskEntity) : Prop :=
  task.leaseUntil = none ∧ task.claimedBy = none ∧ task.claimToken = none

/-- The lease columns are all set. -/
def LeaseHeld (task : TaskEntity) : Prop :=
  task.leaseUntil ≠ none ∧ task.claimedBy ≠ none ∧ task.claimToken ≠ none

instance (task : TaskEntity) : Decidable task.LeaseCleared := by
  unfold LeaseCleared; infer_instance

instance (task : TaskEntity) : Decidable task.LeaseHeld := by
  unfold LeaseHeld; infer_instance

@[simp] theorem leaseCleared_clearLease (task : TaskEntity) : task.clearLease.LeaseCleared :=
  ⟨rfl, rfl, rfl⟩

end TaskEntity

/-- The tables that the task operations read and write. -/
structure TaskTables where
  tasks : List TaskEntity := []
  taskLogs : List TaskLogEntity := []
  nodes : List NodeEntity := []

namespace TaskTables

/-- `tasksRepository.findOne({ where: { id } })`. -/
def findTask (db : TaskTables) (id : Uuid) : Option TaskEntity :=
  KeyedTable.find TaskEntity.id db.tasks id

/-- `tasksRepository.save(task)`. -/
def saveTask (db : TaskTables) (task : TaskEntity) : TaskTables :=
  { db with tasks := KeyedTable.put TaskEntity.id task db.tasks }

/-- `UPDATE tasks SET … WHERE …`. -/
def updateTasks (db : TaskTables) (p : TaskEntity → Bool) (f : TaskEntity → TaskEntity) :
    TaskTables :=
  { db with tasks := KeyedTable.updateWhere p f db.tasks }

/-- `taskLogsRepository.save(logs)`. -/
def saveLogs (db : TaskTables) (logs : List TaskLogEntity) : TaskTables :=
  { db with taskLogs := db.taskLogs ++ logs }

@[simp] theorem findTask_saveLogs (db : TaskTables) (logs : List TaskLogEntity) (id : Uuid) :
    (db.saveLogs logs).findTask id = db.findTask id := rfl

theorem id_of_findTask {db : TaskTables} {id : Uuid} {task : TaskEntity}
    (h : db.findTask id = some task) : task.id = id :=
  KeyedTable.key_of_find h

/-- What a lookup sees after the save of an entity that was found. -/
theorem findTask_saveTask {db : TaskTables} {task : TaskEntity} (id : Uuid) :
    (db.saveTask task).findTask id
      = if id = task.id then (db.findTask id).map fun _ => task else db.findTask id :=
  KeyedTable.find_put task db.tasks id

/-- What a lookup sees after an UPDATE that keeps the primary key. -/
theorem findTask_updateTasks {db : TaskTables} {p : TaskEntity → Bool}
    {f : TaskEntity → TaskEntity} (hf : ∀ task, (f task).id = task.id) (id : Uuid) :
    (db.updateTasks p f).findTask id
      = (db.findTask id).map fun task => if p task then f task else task :=
  KeyedTable.find_updateWhere hf db.tasks id

end TaskTables
