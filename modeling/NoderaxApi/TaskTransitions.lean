/-
# What a task operation does with the row it loaded

Most task operations load a row, check it, change the loaded entity and save it.
This file holds the part between the load and the save, as pure functions of the
loaded entity and the clock reading: an exception, nothing to save, or the entity
to save.  The operations on the tables (`TasksService`) and the interleaved calls
share these functions.

Each function comes with one lemma saying what a saved entity looks like.
-/
import NoderaxApi.TaskEntity

/-! ## Request bodies -/

/-- `StartAgentTaskDto`; node id and token are checked before. -/
structure StartAgentTaskDto where
  taskId : Option Uuid := none
  startedAt : Option DateString := none

/-- `AgentTaskAcceptedHttpDto` and `AgentTaskStartedHttpDto`. -/
structure AgentTaskHttpDto where
  taskId : Option Uuid := none
  timestamp : Option DateString := none

/-- `AgentTaskLogHttpDto`. -/
structure AgentTaskLogHttpDto where
  taskId : Option Uuid := none
  stream : String
  line : String
  timestamp : Option DateString := none

/-- `AgentTaskLogEntryDto`. -/
structure AgentTaskLogEntryDto where
  timestamp : Option DateString := none
  stream : String
  line : String

/-- `AppendTaskLogDto`. -/
structure AppendTaskLogDto where
  taskId : Option Uuid := none
  message : Option String := none
  level : Option TaskLogLevel := none
  entries : Option (List AgentTaskLogEntryDto) := none

/-- `AgentTaskCompletedHttpDto` and `CompleteAgentTaskDto`; the first calls the
completion time `timestamp`. -/
structure CompleteAgentTaskDto where
  taskId : Option Uuid := none
  status : String
  result : Option JsonObject := none
  output : Option String := none
  exitCode : Option ℤ := none
  error : Option String := none
  completedAt : Option DateString := none
  durationMs : Option ℤ := none

/-- `RequestTaskCancelDto`. -/
structure RequestTaskCancelDto where
  reason : Option String := none

namespace TasksService

/-! ## Helpers of the source -/

/-- `timestamp ? new Date(timestamp) : new Date()`. -/
def timestampOr (now : ℤ) (timestamp : Option DateString) : ℤ := (timestamp.map (·.time)).getD now

/-- `assertTaskIdMatchesRoute`; an empty id in the body counts as absent. -/
def assertTaskIdMatchesRoute (routeTaskId : Uuid) (bodyTaskId : Option Uuid) :
    Except HttpError Unit :=
  if bodyTaskId.all fun id => id = "" ∨ id = routeTaskId then .ok ()
  else .error (.badRequest "taskId in request body must match route parameter")

/-- `resolveTaskLogLevel`. -/
def resolveTaskLogLevel (stream : String) : TaskLogLevel :=
  if stream = TaskLogLevel.stdout.text then .stdout
  else if stream = TaskLogLevel.stderr.text then .stderr
  else .info

/-- `normalizeCompletionStatus`. -/
def normalizeCompletionStatus (status : String) : Except HttpError TaskStatus :=
  if status = TaskStatus.success.text then .ok .success
  else if status = TaskStatus.cancelled.text ∨ status = "canceled" then .ok .cancelled
  else if status = "timeout" ∨ status = TaskStatus.failed.text then .ok .failed
  else .error (.conflict s!"Task status {status} is not terminal")

theorem normalizeCompletionStatus_isTerminal {text : String} {status : TaskStatus}
    (h : normalizeCompletionStatus text = .ok status) : status.isTerminal = true := by
  unfold normalizeCompletionStatus at h
  split at h
  · cases h; rfl
  · split at h
    · cases h; rfl
    · split at h
      · cases h; rfl
      · cases h

/-- `buildCompletionResult`. -/
def buildCompletionResult (dto : CompleteAgentTaskDto) : Option JsonObject :=
  let result : JsonObject :=
    (dto.exitCode.map fun code => ("exitCode", Json.num code)).toList ++
      (dto.durationMs.map fun ms => ("durationMs", Json.num ms)).toList ++
      (dto.completedAt.map fun date => ("completedAt", Json.str date.text)).toList ++
      (dto.error.map fun error => ("error", Json.str error)).toList ++
      (if dto.status = "timeout" then [("reason", Json.str "timeout")] else [])
  if result.isEmpty then none else some result

/-- `HTTP_TASK_OUTPUT_MAX_LENGTH`. -/
def httpTaskOutputMaxLength : ℕ := 8000

/-- `normalizeCompletionOutput`: the output and whether it was truncated. -/
def normalizeCompletionOutput (output : Option String) : Option String × Bool :=
  match output with
  | none => (none, false)
  | some text =>
      if jsLength text ≤ httpTaskOutputMaxLength then (some text, false)
      else (some (jsSliceTo httpTaskOutputMaxLength text), true)

/-- `assertClaimOwnership`. -/
def assertClaimOwnership (now : ℤ) (task : TaskEntity) (nodeId : Uuid) (transition : String) :
    Except HttpError Unit :=
  if task.claimedBy ≠ some nodeId then
    .error (.conflict (s!"Task {task.id} is claimed by a different node and cannot transition " ++
      s!"to {transition}"))
  else if task.leaseUntil.all (· ≤ now) then
    .error (.conflict s!"Task {task.id} lease expired before {transition} transition")
  else .ok ()

/-- What an operation does with the loaded row: throw, save nothing, or save. -/
abbrev Decision := Except HttpError (Option TaskEntity)

namespace Loaded

/-! ## The claimed HTTP path -/

/-- The checks of `startClaimedTaskForAgent` before its UPDATE: `none` when the
task already runs. -/
def startClaimedTaskForAgent (now : ℤ) (nodeId : Uuid) (task : TaskEntity) :
    Except HttpError (Option Unit) :=
  if task.status = .running then .ok none
  else if task.status.isTerminal then
    .error (.conflict s!"Task {task.id} is already {task.status.text} and cannot be started")
  else if task.status ≠ .accepted ∧ task.status ≠ .claimed then
    .error (.conflict s!"Task {task.id} must be accepted before it can be started")
  else do
    assertClaimOwnership now task nodeId "started"
    return some ()

/-- `appendClaimedTaskLogForAgent`. -/
def appendClaimedTaskLogForAgent (dto : AgentTaskLogHttpDto) (task : TaskEntity) : Decision :=
  if task.status ≠ .running then
    .error (.conflict s!"Task {task.id} is in {task.status.text} state and cannot accept logs")
  else .ok (some { task with output := some dto.line })

/-- `completeClaimedTaskForAgent`. -/
def completeClaimedTaskForAgent (now : ℤ) (nodeId : Uuid) (normalizedStatus : TaskStatus)
    (dto : CompleteAgentTaskDto) (task : TaskEntity) : Decision := do
  if task.status.isTerminal then
    if task.status = normalizedStatus then return none
    else throw (.conflict
      s!"Task {task.id} is already {task.status.text} and cannot transition to {dto.status}")
  else if task.status ≠ .claimed ∧ task.status ≠ .running then
    throw (.conflict s!"Task {task.id} is in {task.status.text} state and cannot be completed")
  else
    if task.status = .claimed then assertClaimOwnership now task nodeId "completed"
    let completionOutput := normalizeCompletionOutput (dto.output.or dto.error)
    return some { task with
      status := normalizedStatus
      startedAt := some (task.startedAt.getD now)
      finishedAt := some (timestampOr now dto.completedAt)
      result := dto.result.or (buildCompletionResult dto)
      output := completionOutput.1.or task.output
      outputTruncated := completionOutput.2
      leaseUntil := none
      claimedBy := none
      claimToken := none }

/-! ## The realtime path -/

/-- The log lines of a batched `AppendTaskLogDto`. -/
def logEntries (dto : AppendTaskLogDto) : List AgentTaskLogEntryDto :=
  (dto.entries.getD []).filter fun entry => 0 < (jsTrim entry.line).length

/-- The text that `appendLogForAgent` stores as output. -/
def appendedOutput (dto : AppendTaskLogDto) : Except HttpError String :=
  if 0 < (dto.entries.getD []).length then
    match (logEntries dto).getLast? with
    | none => .error (.badRequest "entries must contain at least one log line")
    | some entry => .ok entry.line
  else
    match dto.message with
    | none | some "" => .error (.badRequest "message is required")
    | some message => .ok message

/-- `appendLogForAgent`. -/
def appendLogForAgent (dto : AppendTaskLogDto) (task : TaskEntity) : Decision :=
  if task.status = .queued then
    .error (.conflict "Task must be started before logs can be appended")
  else if task.status.isTerminal then
    .error (.conflict s!"Task {task.id} is already {task.status.text} and cannot accept more logs")
  else do
    let output ← appendedOutput dto
    return some { task with output := some output }

/-- The `task_logs` rows that `appendLogForAgent` stores. -/
def appendedLogs (now : ℤ) (taskId : Uuid) (dto : AppendTaskLogDto) : List TaskLogEntity :=
  if 0 < (dto.entries.getD []).length then
    (logEntries dto).map fun entry =>
      { taskId := taskId
        level := resolveTaskLogLevel entry.stream
        message := entry.line
        timestamp := timestampOr now entry.timestamp }
  else
    dto.message.toList.map fun message =>
      { taskId := taskId, level := dto.level.getD .info, message := message, timestamp := now }

/-- `completeForAgent`.  The lease columns are not among those it writes. -/
def completeForAgent (now : ℤ) (normalizedStatus : TaskStatus) (dto : CompleteAgentTaskDto)
    (task : TaskEntity) : Decision :=
  if task.status.isTerminal then
    if task.status = normalizedStatus then .ok none
    else .error (.conflict
      s!"Task {task.id} is already {task.status.text} and cannot transition to {dto.status}")
  else
    .ok (some { task with
      status := normalizedStatus
      startedAt := some (task.startedAt.getD now)
      finishedAt := some (timestampOr now dto.completedAt)
      result := dto.result.or (buildCompletionResult dto)
      output := (dto.output.or dto.error).or task.output })

/-- The `task_logs` row that `completeForAgent` stores for a non-empty output. -/
def completionLogs (now : ℤ) (dto : CompleteAgentTaskDto) (saved : TaskEntity) :
    List TaskLogEntity :=
  match dto.output.or dto.error with
  | none | some "" => []
  | some output =>
      [{ taskId := saved.id
         level := if saved.status = .failed then .error else .info
         message := output
         timestamp := now }]

/-! ## Operators and background jobs -/

/-- `requestTaskCancellation`. -/
def requestTaskCancellation (now : ℤ) (dto : RequestTaskCancelDto) (task : TaskEntity) :
    Option TaskEntity :=
  let normalizedReason := trimToNull dto.reason
  if task.status.isTerminal then none
  else
    let requested : TaskEntity :=
      { task with cancelRequestedAt := some now, cancelReason := normalizedReason }
    if task.status = .queued ∨ task.status = .accepted ∨ task.status = .claimed then
      some { requested with
        status := .cancelled
        finishedAt := some now
        leaseUntil := none
        claimToken := none
        claimedBy := none
        result := some ((((task.result.getD []).set
          "reason" (.str "cancel-requested-before-run")).set
          "cancelledAt" (.str (toISOString now))).set "cancelReason" (.ofString? normalizedReason))
        output :=
          match task.output with
          | none | some "" =>
              match normalizedReason with
              | some reason => some s!"Task cancelled before running: {reason}"
              | none => some "Task cancelled before running by operator"
          | some output => some output }
    else some requested

/-- What `failStaleTasks` makes of a task it selected. -/
def failStaleTask (now : ℤ) (task : TaskEntity) : TaskEntity :=
  { task with
    status := .failed
    finishedAt := some now
    leaseUntil := none
    claimedBy := none
    claimToken := none
    result := some (((task.result.getD []).set "reason" (.str "stale-timeout")).set
      "previousStatus" (.str task.status.text))
    output :=
      match trimToNull task.output with
      | some _ => task.output
      | none =>
          if task.status = .queued then
            some "Task timed out in queue before being started by an agent."
          else some "Task timed out while running on agent." }

/-- `syncLinkedTaskTerminalState` of the rollout monitor; `status` is SUCCESS or
FAILED. -/
def syncLinkedTaskTerminalState (now : ℤ) (succeeded : Bool) (detail : String)
    (linkedTask : TaskEntity) : Option TaskEntity :=
  if linkedTask.status.isTerminal then none
  else
    some { linkedTask with
      status := if succeeded then .success else .failed
      finishedAt := linkedTask.finishedAt.or (some now)
      leaseUntil := none
      claimedBy := none
      claimToken := none
      output := linkedTask.output.or (some detail)
      result := some (((linkedTask.result.getD []).set "source"
        (.str "agent-update-rollout-monitor")).set "detail" (.str detail)) }

/-! ## What a saved entity looks like -/

/-- `saved` is `task`, finished: the task was not over before, and is over now. -/
structure Finishes (task saved : TaskEntity) : Prop where
  id : saved.id = task.id
  nodeId : saved.nodeId = task.nodeId
  open_before : task.status.isTerminal = false
  terminal : saved.status.isTerminal = true
  finishedAt : saved.finishedAt ≠ none
  startedAt : ∀ t, task.startedAt = some t → saved.startedAt = some t
  cancelRequestedAt : task.cancelRequestedAt ≠ none → saved.cancelRequestedAt ≠ none

/-- The row keeps everything but its output. -/
def OutputOnly (task saved : TaskEntity) : Prop := ∃ output, saved = { task with output := output }

/-- A claimed start that has nothing to do met a running task. -/
theorem startClaimedTaskForAgent_none {now : ℤ} {nodeId : Uuid} {task : TaskEntity}
    (h : startClaimedTaskForAgent now nodeId task = .ok none) : task.status = .running := by
  unfold startClaimedTaskForAgent at h
  split at h
  · next hrunning => exact hrunning
  · split at h
    · cases h
    · split at h
      · cases h
      · obtain ⟨_, _, h⟩ := bind_eq_ok.mp h
        cases h

theorem appendClaimedTaskLogForAgent_ok {dto : AgentTaskLogHttpDto} {task saved : TaskEntity}
    (h : appendClaimedTaskLogForAgent dto task = .ok (some saved)) :
    task.status = .running ∧ OutputOnly task saved := by
  unfold appendClaimedTaskLogForAgent at h
  split at h
  · cases h
  · next hrunning =>
      cases h
      exact ⟨not_not.mp hrunning, _, rfl⟩

theorem appendLogForAgent_ok {dto : AppendTaskLogDto} {task saved : TaskEntity}
    (h : appendLogForAgent dto task = .ok (some saved)) :
    task.status ≠ .queued ∧ task.status.isTerminal = false ∧ OutputOnly task saved := by
  unfold appendLogForAgent at h
  split at h
  · cases h
  · next hqueued =>
      split at h
      · cases h
      · next hopen =>
          cases hout : appendedOutput dto with
          | error e => rw [hout] at h; cases h
          | ok output =>
              rw [hout] at h
              cases h
              exact ⟨hqueued, by simpa using hopen, _, rfl⟩

theorem completeClaimedTaskForAgent_ok {now : ℤ} {nodeId : Uuid} {normalizedStatus : TaskStatus}
    {dto : CompleteAgentTaskDto} {task saved : TaskEntity}
    (hstatus : normalizedStatus.isTerminal = true)
    (h : completeClaimedTaskForAgent now nodeId normalizedStatus dto task = .ok (some saved)) :
    (task.status = .claimed ∨ task.status = .running) ∧ saved.status = normalizedStatus ∧
      saved.LeaseCleared ∧ Finishes task saved := by
  unfold completeClaimedTaskForAgent at h
  split at h
  · split at h <;> cases h
  · next hopen =>
      split at h
      · cases h
      · next hleased =>
          have hfrom : task.status = .claimed ∨ task.status = .running := by
            by_cases hc : task.status = .claimed
            · exact Or.inl hc
            · by_cases hr : task.status = .running
              · exact Or.inr hr
              · exact absurd ⟨hc, hr⟩ hleased
          -- the ownership check, when there is one, changes nothing
          have hsaved : ∃ started output truncated result,
              saved = { task with
                status := normalizedStatus, startedAt := some (task.startedAt.getD now),
                finishedAt := started, result := result, output := output,
                outputTruncated := truncated, leaseUntil := none, claimedBy := none,
                claimToken := none } ∧ started ≠ none := by
            split at h
            · cases howner : assertClaimOwnership now task nodeId "completed" with
              | error e => rw [howner] at h; cases h
              | ok _ =>
                  rw [howner] at h
                  cases h
                  exact ⟨_, _, _, _, rfl, by simp⟩
            · cases h
              exact ⟨_, _, _, _, rfl, by simp⟩
          obtain ⟨finished, output, truncated, result, rfl, hfinished⟩ := hsaved
          refine ⟨hfrom, rfl, ⟨rfl, rfl, rfl⟩, ?_⟩
          exact
            { id := rfl
              nodeId := rfl
              open_before := by simpa using hopen
              terminal := hstatus
              finishedAt := hfinished
              startedAt := by intro t ht; simp [ht]
              cancelRequestedAt := id }

theorem completeForAgent_ok {now : ℤ} {normalizedStatus : TaskStatus} {dto : CompleteAgentTaskDto}
    {task saved : TaskEntity} (hstatus : normalizedStatus.isTerminal = true)
    (h : completeForAgent now normalizedStatus dto task = .ok (some saved)) :
    saved.status = normalizedStatus ∧ saved.leaseUntil = task.leaseUntil ∧
      saved.claimedBy = task.claimedBy ∧ saved.claimToken = task.claimToken ∧
      Finishes task saved := by
  unfold completeForAgent at h
  split at h
  · split at h <;> cases h
  · next hopen =>
      cases h
      refine ⟨rfl, rfl, rfl, rfl, ?_⟩
      exact
        { id := rfl
          nodeId := rfl
          open_before := by simpa using hopen
          terminal := hstatus
          finishedAt := by simp
          startedAt := by intro t ht; simp [ht]
          cancelRequestedAt := id }

/-- A cancellation either finishes a task that does not run yet, or marks the
running one. -/
theorem requestTaskCancellation_some {now : ℤ} {dto : RequestTaskCancelDto}
    {task saved : TaskEntity} (h : requestTaskCancellation now dto task = some saved) :
    saved.cancelRequestedAt = some now ∧
      ((task.status.rank = 0 ∧ saved.status = .cancelled ∧ saved.LeaseCleared ∧
          Finishes task saved) ∨
        (task.status = .running ∧
          ∃ reason,
            saved = { task with cancelRequestedAt := some now, cancelReason := reason })) := by
  unfold requestTaskCancellation at h
  dsimp only at h
  split at h
  · cases h
  · next hopen =>
      split at h
      · next hwaiting =>
          cases h
          refine ⟨rfl, Or.inl ⟨?_, rfl, ⟨rfl, rfl, rfl⟩, ?_⟩⟩
          · rcases hwaiting with hs | hs | hs <;> rw [hs] <;> rfl
          · exact
              { id := rfl
                nodeId := rfl
                open_before := by simpa using hopen
                terminal := rfl
                finishedAt := by simp
                startedAt := fun _ ht => ht
                cancelRequestedAt := by simp }
      · next hwaiting =>
          cases h
          refine ⟨rfl, Or.inr ⟨?_, _, rfl⟩⟩
          cases hs : task.status <;> simp [hs, TaskStatus.isTerminal, TaskStatus.terminal]
            at hopen hwaiting ⊢

theorem requestTaskCancellation_id {now : ℤ} {dto : RequestTaskCancelDto}
    {task saved : TaskEntity} (h : requestTaskCancellation now dto task = some saved) :
    saved.id = task.id := by
  rcases (requestTaskCancellation_some h).2 with ⟨_, _, _, hfinishes⟩ | ⟨_, _, rfl⟩
  · exact hfinishes.id
  · rfl

/-- A cancellation saves nothing exactly when the task is over. -/
theorem requestTaskCancellation_eq_none_iff {now : ℤ} {dto : RequestTaskCancelDto}
    {task : TaskEntity} :
    requestTaskCancellation now dto task = none ↔ task.status.isTerminal = true := by
  unfold requestTaskCancellation
  dsimp only
  by_cases hterminal : task.status.isTerminal = true
  · rw [if_pos hterminal]
    exact iff_of_true rfl hterminal
  · rw [if_neg hterminal]
    refine iff_of_false ?_ hterminal
    split <;> simp

theorem failStaleTask_finishes (now : ℤ) {task : TaskEntity}
    (hopen : task.status.isTerminal = false) :
    (failStaleTask now task).LeaseCleared ∧ Finishes task (failStaleTask now task) := by
  refine ⟨⟨rfl, rfl, rfl⟩, ?_⟩
  exact
    { id := rfl
      nodeId := rfl
      open_before := hopen
      terminal := rfl
      finishedAt := by simp [failStaleTask]
      startedAt := fun _ ht => ht
      cancelRequestedAt := id }

theorem syncLinkedTaskTerminalState_some {now : ℤ} {succeeded : Bool} {detail : String}
    {task saved : TaskEntity}
    (h : syncLinkedTaskTerminalState now succeeded detail task = some saved) :
    saved.LeaseCleared ∧ Finishes task saved := by
  unfold syncLinkedTaskTerminalState at h
  split at h
  · cases h
  · next hopen =>
      cases h
      refine ⟨⟨rfl, rfl, rfl⟩, ?_⟩
      exact
        { id := rfl
          nodeId := rfl
          open_before := by simpa using hopen
          terminal := by cases succeeded <;> rfl
          finishedAt := by cases task.finishedAt <;> simp
          startedAt := fun _ ht => ht
          cancelRequestedAt := id }

end Loaded

end TasksService
