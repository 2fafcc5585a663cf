/-
# Lifecycle messages over the realtime socket

`agent-realtime.gateway.ts` (`handleTaskAccepted`, `handleTaskStarted`,
`handleTaskLog`, `handleTaskCompleted`) and `registerLifecycleEvent` of
`agent-realtime.service.ts`.  A handler queries the largest sequence number,
inserts a row into `agent_task_lifecycle_events`, and calls the task service;
these are three steps, and any number of handlers run at a time.  A body has
passed the validation pipe.

The events of each agent are numbered, and `message` answers the message under
a number, so that a retransmission carries the number of the event it repeats.
-/
import NoderaxApi.TaskMachine
import NoderaxApi.Interleaving

namespace AgentRealtime

open Interleaving Runs TasksService

/-! ## Messages -/

/-- What the four message types carry besides their common fields. -/
inductive LifecycleBody
  | accepted
  | started
  | log (stream line : String)
  | completed (status : String) (result : Option JsonObject) (output : Option String)
      (exitCode : Option ℤ) (error : Option String) (durationMs : Option ℤ)

/-- `AGENT_REALTIME_CLIENT_EVENTS`. -/
def LifecycleBody.eventType : LifecycleBody → String
  | .accepted => "task.accepted"
  | .started => "task.started"
  | .log _ _ => "task.log"
  | .completed _ _ _ _ _ _ => "task.completed"

/-- The body of a lifecycle message. -/
structure AgentTaskMessage where
  taskId : Uuid
  timestamp : Option DateString := none
  eventId : Option Uuid := none
  eventSeq : Option ℕ := none
  body : LifecycleBody

/-- What a handler answers. -/
inductive LifecycleAnswer
  /-- `{ ok: false, message: 'Socket is not authenticated' }` -/
  | unauthenticated
  /-- `{ ok: true, duplicate: true, taskId }` -/
  | duplicate (taskId : Uuid)
  /-- `{ ok: true, taskId }`, with the status after a start or a completion. -/
  | done (taskId : Uuid) (status : Option TaskStatus)
  /-- `{ ok: false, eventType, message }` -/
  | rejected (eventType message : String)
  deriving DecidableEq, Repr

/-- The field `ok`. -/
def LifecycleAnswer.ok : LifecycleAnswer → Bool
  | .duplicate _ | .done _ _ => true
  | .unauthenticated | .rejected _ _ => false

/-- `getSafeErrorMessage`. -/
def getSafeErrorMessage (error fallback : String) : String :=
  let message := jsTrim error
  if message = "" then fallback
  else if "cannot read properties of undefined".toList <:+: message.toList.map Char.toLower then
    fallback
  else jsSliceTo 300 message

/-- `emitLifecycleValidationError`. -/
def emitLifecycleValidationError (eventType : String) (error : HttpError) : LifecycleAnswer :=
  .rejected eventType (getSafeErrorMessage error.message "Invalid payload")

/-! ## Registration -/

/-- A row of `agent_task_lifecycle_events`; the stored payload is represented by
the number of its event. -/
structure LifecycleEventEntity where
  nodeId : Uuid
  taskId : Uuid
  eventType : String
  eventId : Option Uuid
  eventSeq : Option ℕ
  eventTimestamp : ℤ
  payload : ℕ
  deriving DecidableEq, Repr

/-- `UQ_agent_task_lifecycle_node_event_id`; null ids are distinct. -/
def sameEventId (row event : LifecycleEventEntity) : Bool :=
  row.nodeId = event.nodeId && event.eventId.isSome && row.eventId = event.eventId

/-- `UQ_agent_task_lifecycle_node_event_seq`; null numbers are distinct. -/
def sameEventSeq (row event : LifecycleEventEntity) : Bool :=
  row.nodeId = event.nodeId && event.eventSeq.isSome && row.eventSeq = event.eventSeq

/-- `UQ_agent_task_lifecycle_idempotency`. -/
def sameIdempotencyKey (row event : LifecycleEventEntity) : Bool :=
  row.taskId = event.taskId && row.eventType = event.eventType &&
    row.eventTimestamp = event.eventTimestamp

/-- A row that an INSERT of the event violates a unique index with. -/
def conflicts (row event : LifecycleEventEntity) : Bool :=
  sameEventId row event || sameEventSeq row event || sameIdempotencyKey row event

/-- `MAX(event.eventSeq)` of a node. -/
def maxEventSeq (rows : List LifecycleEventEntity) (nodeId : Uuid) : Option ℕ :=
  ((rows.filter fun row => row.nodeId = nodeId).filterMap (·.eventSeq)).max?

/-- The sequence check of `registerLifecycleEvent`. -/
def isStaleSeq (rows : List LifecycleEventEntity) (nodeId : Uuid) (eventSeq : Option ℕ) : Bool :=
  match eventSeq with
  | none => false
  | some seq => (maxEventSeq rows nodeId).any (seq ≤ ·)

/-- `lifecycleEventsRepository.create`, with the time read at the start. -/
def createLifecycleEvent (now : ℤ) (nodeId : Uuid) (payload : ℕ) (message : AgentTaskMessage) :
    LifecycleEventEntity where
  nodeId := nodeId
  taskId := message.taskId
  eventType := message.body.eventType
  eventId := message.eventId
  eventSeq := message.eventSeq
  eventTimestamp := timestampOr now message.timestamp
  payload := payload

/-- `lifecycleEventsRepository.save(event)`: nothing to return on a unique
violation (23505), an exception for a number that is no `bigint`. -/
def saveLifecycleEvent (rows : List LifecycleEventEntity) (event : LifecycleEventEntity) :
    Except HttpError (Option (List LifecycleEventEntity)) :=
  match event.eventSeq.filter (2 ^ 63 ≤ ·) with
  | some seq => .error (.badRequest s!"value \"{seq}\" is out of range for type bigint")
  | none => if rows.any (conflicts · event) then .ok none else .ok (some (rows ++ [event]))

/-- A stored event is the last row, and conflicts with none before it. -/
theorem saveLifecycleEvent_some {rows rows' : List LifecycleEventEntity}
    {event : LifecycleEventEntity} (h : saveLifecycleEvent rows event = .ok (some rows')) :
    rows' = rows ++ [event] ∧ rows.any (conflicts · event) = false := by
  unfold saveLifecycleEvent at h
  split at h
  · cases h
  · split at h
    · cases h
    · next hfree =>
        cases h
        exact ⟨rfl, by simpa using hfree⟩

/-- A refused event conflicts with a row. -/
theorem saveLifecycleEvent_none {rows : List LifecycleEventEntity} {event : LifecycleEventEntity}
    (h : saveLifecycleEvent rows event = .ok none) : rows.any (conflicts · event) = true := by
  unfold saveLifecycleEvent at h
  split at h
  · cases h
  · split at h
    · next hconflict => exact hconflict
    · cases h

/-! ## The call of the task service -/

/-- The service call of each handler, and the answer made from its result. -/
def callTasksService (db : TaskTables) (now : ℤ) (nodeId : Uuid)
    (authenticated : Except HttpError Unit) (message : AgentTaskMessage) :
    Except HttpError (TaskTables × LifecycleAnswer) :=
  match message.body with
  | .accepted => do
      let db' ← acknowledgeForAgent db now message.taskId nodeId authenticated message.timestamp
      return (db', .done message.taskId none)
  | .started => do
      let (db', task) ← startForAgent db now message.taskId nodeId authenticated
        { taskId := some message.taskId, startedAt := message.timestamp }
      return (db', .done task.id (some task.status))
  | .log stream line => do
      let db' ← appendLogForAgent db now message.taskId nodeId authenticated
        { taskId := some message.taskId
          entries := some [{ stream := stream, line := line, timestamp := message.timestamp }] }
      return (db', .done message.taskId none)
  | .completed status result output exitCode error durationMs => do
      let (db', task) ← completeForAgent db now message.taskId nodeId authenticated
        { taskId := some message.taskId, status := status, result := result, output := output
          exitCode := exitCode, error := error, completedAt := message.timestamp
          durationMs := durationMs }
      return (db', .done task.id (some task.status))

/-- What the message of a node is to leave in the tables: its line of the log, or the
status of its task. -/
def AgentTaskMessage.isStored (message : AgentTaskMessage) (now : ℤ) (nodeId : Uuid)
    (db db' : TaskTables) : Bool :=
  match message.body with
  | .accepted =>
      db'.taskLogs = db.taskLogs ++ [{
        taskId := message.taskId
        level := .info
        message := "Task accepted by agent"
        timestamp := timestampOr now message.timestamp }]
  | .started =>
      (db'.findTask message.taskId).any fun task => task.nodeId = nodeId && task.status = .running
  | .log stream line =>
      db'.taskLogs = db.taskLogs ++ [{
        taskId := message.taskId
        level := resolveTaskLogLevel stream
        message := line
        timestamp := timestampOr now message.timestamp }] &&
      (db'.findTask message.taskId).any fun task => task.nodeId = nodeId && task.output = some line
  | .completed status _ _ _ _ _ =>
      match normalizeCompletionStatus status with
      | .error _ => false
      | .ok normalizedStatus =>
          (db'.findTask message.taskId).any fun task =>
            task.nodeId = nodeId && task.status = normalizedStatus

/-- The task that an operation has just saved. -/
theorem findTask_saved {db : TaskTables} {taskId : Uuid} {loaded saved : TaskEntity}
    {logs : List TaskLogEntity} (hfind : db.findTask taskId = some loaded)
    (hid : saved.id = loaded.id) :
    ((db.saveTask saved).saveLogs logs).findTask taskId = some saved := by
  have hloaded : loaded.id = taskId := TaskTables.id_of_findTask hfind
  show (db.saveTask saved).findTask taskId = some saved
  rw [TaskTables.findTask_saveTask, if_pos (by rw [hid, hloaded]), hfind, Option.map_some]

theorem startForAgent_stored {db db' : TaskTables} {now : ℤ} {taskId nodeId : Uuid}
    {authenticated : Except HttpError Unit} {dto : StartAgentTaskDto} {task : TaskEntity}
    (h : startForAgent db now taskId nodeId authenticated dto = .ok (db', task)) :
    ∃ task, db'.findTask taskId = some task ∧ task.nodeId = nodeId ∧ task.status = .running := by
  unfold startForAgent at h
  obtain ⟨_, _, hchecked⟩ := bind_eq_ok.mp h
  obtain ⟨_, _, hbody⟩ := bind_eq_ok.mp hchecked
  split at hbody
  next hstartable =>
      obtain ⟨_, _, hbody⟩ := bind_eq_ok.mp hbody
      cases hbody
      obtain ⟨queued, hfind, hstarts⟩ := (Option.any_eq_true _ _).mp hstartable
      refine ⟨started (timestampOr now dto.startedAt) queued, ?_, ?_, rfl⟩
      · have hid : ∀ task, (started (timestampOr now dto.startedAt) task).id = task.id :=
          fun _ => rfl
        rw [TaskTables.findTask_updateTasks hid, hfind, Option.map_some, if_pos hstarts]
      · simp only [isStartable, Bool.and_eq_true, decide_eq_true_eq] at hstarts
        exact hstarts.1.2
  next =>
      split at hbody
      · cases hbody
      next found hfind =>
          split at hbody
          · cases hbody
          next hnode =>
              split at hbody
              next hrunning =>
                  cases hbody
                  exact ⟨_, hfind, not_not.mp hnode, hrunning⟩
              · cases hbody

theorem appendLogForAgent_stored {db db' : TaskTables} {now : ℤ} {taskId nodeId : Uuid}
    {authenticated : Except HttpError Unit} {stream line : String} {timestamp : Option DateString}
    (h : appendLogForAgent db now taskId nodeId authenticated
      { taskId := some taskId
        entries := some [{ stream := stream, line := line, timestamp := timestamp }] } = .ok db') :
    db'.taskLogs = db.taskLogs ++ [{ taskId := taskId, level := resolveTaskLogLevel stream
                                     message := line, timestamp := timestampOr now timestamp }] ∧
      ∃ task, db'.findTask taskId = some task ∧ task.nodeId = nodeId ∧
        task.output = some line := by
  unfold appendLogForAgent at h
  obtain ⟨_, _, h⟩ := bind_eq_ok.mp h
  obtain ⟨_, _, h⟩ := bind_eq_ok.mp h
  obtain ⟨loaded, hloaded, h⟩ := bind_eq_ok.mp h
  obtain ⟨decision, hdecision, h⟩ := bind_eq_ok.mp h
  obtain ⟨hfind, hnode⟩ := findTaskForNodeOrFail_ok hloaded
  unfold Loaded.appendLogForAgent at hdecision
  split at hdecision
  · cases hdecision
  split at hdecision
  · cases hdecision
  obtain ⟨output, houtput, hsaved⟩ := bind_eq_ok.mp hdecision
  cases hsaved
  cases h
  by_cases hline : 0 < (jsTrim line).length
  · have hentries : Loaded.logEntries { taskId := some taskId
                                        entries := some [{ stream := stream, line := line
                                                           timestamp := timestamp }] }
        = [{ stream := stream, line := line, timestamp := timestamp }] := by
      simp [Loaded.logEntries, hline]
    have hsame : output = line := by
      simpa [Loaded.appendedOutput, hentries] using houtput.symm
    refine ⟨?_, { loaded with output := some output }, findTask_saved hfind rfl, hnode, ?_⟩
    · simp [TaskTables.saveLogs, TaskTables.saveTask, Loaded.appendedLogs, hentries]
    · rw [hsame]
  · -- a blank line is refused
    simp [Loaded.appendedOutput, Loaded.logEntries, hline] at houtput

theorem completeForAgent_stored {db db' : TaskTables} {now : ℤ} {taskId nodeId : Uuid}
    {authenticated : Except HttpError Unit} {dto : CompleteAgentTaskDto} {task : TaskEntity}
    (h : completeForAgent db now taskId nodeId authenticated dto = .ok (db', task)) :
    ∃ status task, normalizeCompletionStatus dto.status = .ok status ∧
      db'.findTask taskId = some task ∧ task.nodeId = nodeId ∧ task.status = status := by
  unfold completeForAgent at h
  obtain ⟨_, _, h⟩ := bind_eq_ok.mp h
  obtain ⟨status, hstatus, h⟩ := bind_eq_ok.mp h
  obtain ⟨_, _, h⟩ := bind_eq_ok.mp h
  obtain ⟨loaded, hloaded, h⟩ := bind_eq_ok.mp h
  obtain ⟨decision, hdecision, h⟩ := bind_eq_ok.mp h
  obtain ⟨hfind, hnode⟩ := findTaskForNodeOrFail_ok hloaded
  unfold Loaded.completeForAgent at hdecision
  split at hdecision
  next =>
      split at hdecision
      next hsame =>
          cases hdecision
          cases h
          exact ⟨status, _, hstatus, hfind, hnode, hsame⟩
      · cases hdecision
  next =>
      cases hdecision
      cases h
      exact ⟨status, _, hstatus, findTask_saved hfind rfl, hnode, rfl⟩

/-- **A service call that returns has stored its message.** -/
theorem callTasksService_stored {db db' : TaskTables} {now : ℤ} {nodeId : Uuid}
    {authenticated : Except HttpError Unit} {message : AgentTaskMessage} {answer : LifecycleAnswer}
    (h : callTasksService db now nodeId authenticated message = .ok (db', answer)) :
    message.isStored now nodeId db db' = true := by
  unfold callTasksService at h
  unfold AgentTaskMessage.isStored
  cases hbody : message.body with
  | accepted =>
      rw [hbody] at h
      obtain ⟨db₁, hcall, h⟩ := bind_eq_ok.mp h
      cases h
      unfold acknowledgeForAgent at hcall
      obtain ⟨_, _, hcall⟩ := bind_eq_ok.mp hcall
      obtain ⟨_, _, hcall⟩ := bind_eq_ok.mp hcall
      cases hcall
      exact decide_eq_true rfl
  | started =>
      rw [hbody] at h
      obtain ⟨⟨db₁, task⟩, hcall, h⟩ := bind_eq_ok.mp h
      cases h
      obtain ⟨found, hfind, hnode, hstatus⟩ := startForAgent_stored hcall
      dsimp only
      rw [hfind, Option.any_some, decide_eq_true hnode, decide_eq_true hstatus, Bool.and_self]
  | log stream line =>
      rw [hbody] at h
      obtain ⟨db₁, hcall, h⟩ := bind_eq_ok.mp h
      cases h
      obtain ⟨hlogs, found, hfind, hnode, houtput⟩ := appendLogForAgent_stored hcall
      dsimp only
      rw [decide_eq_true hlogs, hfind, Option.any_some, decide_eq_true hnode,
        decide_eq_true houtput, Bool.and_self, Bool.and_self]
  | completed status result output exitCode error durationMs =>
      rw [hbody] at h
      obtain ⟨⟨db₁, task⟩, hcall, h⟩ := bind_eq_ok.mp h
      cases h
      obtain ⟨normalized, found, hstatus, hfind, hnode, hsame⟩ := completeForAgent_stored hcall
      dsimp only at hstatus ⊢
      rw [hstatus]
      dsimp only
      rw [hfind, Option.any_some, decide_eq_true hnode, decide_eq_true hsame, Bool.and_self]

/-- A failure of the service call that the code does not cause: it throws before
its effect, or after it. -/
inductive ServiceFault
  | none
  | before (error : HttpError)
  | after (error : HttpError)
  deriving DecidableEq, Repr

/-- The tables the call left behind, if it had its effect, and its result. -/
def ServiceFault.outcome (fault : ServiceFault)
    (result : Except HttpError (TaskTables × LifecycleAnswer)) :
    Option TaskTables × Except HttpError LifecycleAnswer :=
  match fault, result with
  | .before error, _ => (.none, .error error)
  | _, .error error => (.none, .error error)
  | .none, .ok (db, answer) => (some db, .ok answer)
  | .after error, .ok (db, _) => (some db, .error error)

/-! ## The handlers -/

/-- What happened to an event. -/
inductive LifecycleFact
  /-- The service call of the event left it in the tables. -/
  | applied (nodeId : Uuid) (event : ℕ)
  /-- The service call of the event ended and left nothing. -/
  | failed (nodeId : Uuid) (event : ℕ)
  /-- A handler of the event answered. -/
  | answered (nodeId : Uuid) (event : ℕ) (answer : LifecycleAnswer)
  deriving DecidableEq, Repr

/-- The node whose socket sent the event. -/
def LifecycleFact.nodeId : LifecycleFact → Uuid
  | .applied nodeId _ | .failed nodeId _ | .answered nodeId _ _ => nodeId

/-- The tables, the history, and the events whose message is being handled.  No step
reads the last two. -/
structure LifecycleWorld where
  db : TaskTables
  lifecycleEvents : List LifecycleEventEntity := []
  history : List LifecycleFact := []
  handling : List (Uuid × ℕ) := []

/-- A message: the node of the socket's session, whether the socket still has
that session, and the number of the event. -/
structure LifecycleRequest where
  nodeId : Uuid
  event : ℕ
  hasSession : Bool := true

/-- What a step receives: the time, the answer of `authenticateAgent`, and a
failure of the service call. -/
structure LifecycleInput where
  now : ℤ
  authenticated : Except HttpError Unit := .ok ()
  fault : ServiceFault := .none

/-- What is left of a handler. -/
inductive PendingHandler
  /-- The INSERT is next. -/
  | register (row : LifecycleEventEntity)
  /-- The service call is next. -/
  | apply (nodeId : Uuid) (event : ℕ)
  deriving DecidableEq, Repr

/-- The node whose socket sent the message. -/
def PendingHandler.nodeId : PendingHandler → Uuid
  | .register row => row.nodeId
  | .apply nodeId _ => nodeId

/-- An answer, as the last entry. -/
def LifecycleWorld.answer (w : LifecycleWorld) (nodeId : Uuid) (event : ℕ)
    (answer : LifecycleAnswer) : LifecycleWorld :=
  { w with history := w.history ++ [.answered nodeId event answer] }

/-- The message of an event is handled. -/
def LifecycleWorld.handled (w : LifecycleWorld) (nodeId : Uuid) (event : ℕ) : LifecycleWorld :=
  { w with handling := w.handling.filter (· ≠ (nodeId, event)) }

section Handlers

variable (message : ℕ → AgentTaskMessage)

/-- A handler up to the INSERT: the session and the sequence check. -/
def invokeHandler (request : LifecycleRequest) (input : LifecycleInput) (w : LifecycleWorld) :
    LifecycleWorld × Option PendingHandler :=
  if !request.hasSession then (w.answer request.nodeId request.event .unauthenticated, none)
  else if isStaleSeq w.lifecycleEvents request.nodeId (message request.event).eventSeq then
    (w.answer request.nodeId request.event (.duplicate (message request.event).taskId), none)
  else
    ({ w with handling := (request.nodeId, request.event) :: w.handling },
      some (.register (createLifecycleEvent input.now request.nodeId request.event
        (message request.event))))

/-- What a service call did, by the tables before and after it. -/
def effectOf (now : ℤ) (nodeId : Uuid) (event : ℕ) (db : TaskTables)
    (after : Option TaskTables) : LifecycleFact :=
  if after.any ((message event).isStored now nodeId db) then .applied nodeId event
  else .failed nodeId event

/-- The service call leaves its event in the tables, or leaves the tables alone. -/
theorem effectOf_outcome (db : TaskTables) (now : ℤ) (nodeId : Uuid) (event : ℕ)
    (authenticated : Except HttpError Unit) (fault : ServiceFault) :
    let after := (fault.outcome (callTasksService db now nodeId authenticated (message event))).1
    effectOf message now nodeId event db after
      = if after.isSome then .applied nodeId event else .failed nodeId event := by
  have hstored : ∀ db', (fault.outcome
      (callTasksService db now nodeId authenticated (message event))).1 = some db' →
      (message event).isStored now nodeId db db' = true := by
    intro db' hafter
    cases hcall : callTasksService db now nodeId authenticated (message event) with
    | error error => rw [hcall] at hafter; cases fault <;> cases hafter
    | ok result =>
        rw [hcall] at hafter
        have hok : callTasksService db now nodeId authenticated (message event)
            = .ok (db', result.2) := by
          cases fault <;> cases hafter <;> exact hcall
        exact callTasksService_stored hok
  dsimp only
  unfold effectOf
  cases hafter : (fault.outcome
      (callTasksService db now nodeId authenticated (message event))).1 with
  | none => rfl
  | some db' => rw [Option.any_some, hstored db' hafter, Option.isSome_some]

/-- The end of the service call. -/
def LifecycleWorld.finish (w : LifecycleWorld) (now : ℤ) (nodeId : Uuid) (event : ℕ)
    (outcome : Option TaskTables × Except HttpError LifecycleAnswer) : LifecycleWorld :=
  { w.handled nodeId event with
    db := outcome.1.getD w.db
    history := w.history ++ [effectOf message now nodeId event w.db outcome.1] ++
      [.answered nodeId event
        (match outcome.2 with
        | .ok answer => answer
        | .error error =>
            emitLifecycleValidationError (message event).body.eventType error)] }

/-- The INSERT, and the service call. -/
def resumeHandler (handler : PendingHandler) (input : LifecycleInput) (w : LifecycleWorld) :
    LifecycleWorld × Option PendingHandler :=
  match handler with
  | .register row =>
      match saveLifecycleEvent w.lifecycleEvents row with
      | .error error =>
          ((w.handled row.nodeId row.payload).answer row.nodeId row.payload
            (emitLifecycleValidationError row.eventType error), none)
      | .ok none =>
          ((w.handled row.nodeId row.payload).answer row.nodeId row.payload
            (.duplicate row.taskId), none)
      | .ok (some rows) =>
          ({ w with lifecycleEvents := rows }, some (.apply row.nodeId row.payload))
  | .apply nodeId event =>
      (w.finish message input.now nodeId event
        (input.fault.outcome
          (callTasksService w.db input.now nodeId input.authenticated (message event))), none)

/-- The family of the four handlers. -/
def lifecycleCalls : Calls LifecycleWorld LifecycleRequest PendingHandler LifecycleInput :=
  ⟨invokeHandler message, resumeHandler message⟩

/-- Everything else that happens to the tasks. -/
def lifecycleEnv (e : TaskEvent) (w : LifecycleWorld) : LifecycleWorld :=
  { w with db := taskStep w.db e }

/-- A state of the handlers; each is numbered within the node of its socket. -/
abbrev LifecycleConfig := Config (Uuid × ℕ) LifecycleWorld PendingHandler

/-- What happens next: a message on a socket of a node, a step of one of its
handlers, or anything else. -/
inductive LifecycleStep
  | message (nodeId : Uuid) (handler event : ℕ) (hasSession : Bool) (input : LifecycleInput)
  | resume (nodeId : Uuid) (handler : ℕ) (input : LifecycleInput)
  | tasks (e : TaskEvent)

/-- The event of the handlers that a step is. -/
def LifecycleStep.toEvent :
    LifecycleStep → Event (Uuid × ℕ) LifecycleRequest LifecycleInput TaskEvent
  | .message nodeId handler event hasSession input =>
      .invoke (nodeId, handler) { nodeId := nodeId, event := event, hasSession := hasSession } input
  | .resume nodeId handler input => .resume (nodeId, handler) input
  | .tasks e => .env e

/-- One step. -/
def lifecycleStep (c : LifecycleConfig) (e : LifecycleStep) : LifecycleConfig :=
  Interleaving.step (lifecycleCalls message) lifecycleEnv c e.toEvent

end Handlers

end AgentRealtime
