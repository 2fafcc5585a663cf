/-
# The calls of `TerminalSessionsService`

Every handler of `TerminalSessionsService` that acts on a live session, as a program whose
awaits are the statements on the database, the commands on Redis and the messages to the
agent.  The timers, the typed lines and the attachments are memory of the process.

An await that rejects ends the call: no handler catches what its awaits throw, except for the
missing session of a timeout.  The statements on the session row do not reject.
-/
import NoderaxApi.AsyncPrograms
import NoderaxApi.TerminalCommandAudit
import NoderaxApi.TerminalSanitizer
import NoderaxApi.TerminalSessions

open Runs Interleaving AsyncPrograms

namespace TerminalSessionsService

/-! ## Shared data and memory -/

/-- The id of a socket. -/
abbrev SocketId := String

/-- The messages of `AgentRealtimeService` to the agent of a session. -/
inductive AgentMessage
  | startTerminalSession (cols rows : ℕ)
  | sendTerminalInput (payload : List UInt8)
  | resizeTerminalSession (cols rows : ℕ)
  | stopTerminalSession (reason : Option String)
  deriving DecidableEq, Repr

/-- What a chunk of a transcript is. -/
inductive ChunkOrigin
  | agentOutput
  | controllerInput
  | capacityNotice
  | other
  deriving DecidableEq, Repr

/-- The database, the counters in Redis, the audited commands, and the messages that were
handed to `AgentRealtimeService`.  `stored` records what each stored chunk is; no step reads
it. -/
structure TerminalData where
  sessions : Uuid → Option TerminalRows
  stored : Uuid → List (ChunkOrigin × TerminalSessionChunkEntity) := fun _ => []
  controllerCounts : Uuid → Option ℤ := fun _ => none
  commands : List (Uuid × AuditedCommand) := []
  messages : List (Uuid × AgentMessage) := []

/-- The clock and the maps of the process.  A timer is in its map as long as it has not fired;
an attachment is a socket with its session. -/
structure TerminalMemory where
  now : ℤ := 0
  redisEnabled : Bool := true
  pendingOpenTimers : Uuid → Bool := fun _ => false
  detachTimers : Uuid → Bool := fun _ => false
  terminationTimers : Uuid → Bool := fun _ => false
  commandBuffers : Uuid → Option JsString := fun _ => none
  socketToAttachment : List (SocketId × Uuid) := []
  localControllerCounts : Uuid → ℤ := fun _ => 0
  connected : List SocketId := []

/-! ## Operations -/

/-- What the handlers await.  `other` is an await that neither reads nor writes anything
modelled here: an access check, the record of an audit event, a publication, or a promise that
is resolved already.  `attachCheck` is the last access check of `attachController`. -/
inductive TerminalOp
  | findSession (id : Uuid)
  | updateSessionMetadata (id : Uuid) (patch : TerminalSessionMetadataPatch)
  | appendChunkOnce (id : Uuid) (origin : ChunkOrigin) (input : ChunkInput)
  | readTranscriptState (id : Uuid)
  | writeTranscriptState (id : Uuid) (state : TranscriptState)
  | recordCommand (id : Uuid) (command : AuditedCommand)
  | send (id : Uuid) (message : AgentMessage)
  | incrementCount (id : Uuid)
  | decrementCount (id : Uuid)
  | expireCount (id : Uuid)
  | resetCount (id : Uuid)
  | getCount (id : Uuid)
  | attachCheck (id : Uuid) (socketId : SocketId)
  | other

/-- The answer of an operation; `appendChunkOnce` answers nothing when the sequence number is
taken. -/
abbrev TerminalAnswer : TerminalOp → Type
  | .findSession _ => TerminalSessionEntity
  | .appendChunkOnce _ _ _ => Option TerminalSessionChunkEntity
  | .readTranscriptState _ => TranscriptState
  | .send _ _ => Bool
  | .incrementCount _ | .decrementCount _ | .getCount _ => ℤ
  | .updateSessionMetadata _ _ | .writeTranscriptState _ _ | .recordCommand _ _
  | .expireCount _ | .resetCount _ | .attachCheck _ _ | .other => Unit

/-- What the environment decides of a step: whether the awaited operation rejects, whether the
Redis client is ready, and whether the agent was reached. -/
structure TerminalInput where
  rejects : Bool := false
  redisReady : Bool := true
  dispatched : Bool := true
  deriving DecidableEq, Repr

/-- A change of the rows of one session. -/
def TerminalData.updateRows (d : TerminalData) (id : Uuid) (f : TerminalRows → TerminalRows) :
    TerminalData :=
  { d with sessions := Function.update d.sessions id ((d.sessions id).map f) }

@[simp] theorem TerminalData.updateRows_self (d : TerminalData) (id : Uuid)
    (f : TerminalRows → TerminalRows) : (d.updateRows id f).sessions id = (d.sessions id).map f :=
  Function.update_self id _ d.sessions

theorem TerminalData.updateRows_of_ne (d : TerminalData) {id id' : Uuid} (h : id ≠ id')
    (f : TerminalRows → TerminalRows) : (d.updateRows id' f).sessions id = d.sessions id :=
  Function.update_of_ne h _ d.sessions

/-- A chunk of the session was stored. -/
def TerminalData.recordChunk (d : TerminalData) (id : Uuid) (origin : ChunkOrigin)
    (chunk : TerminalSessionChunkEntity) : TerminalData :=
  { d with stored := Function.update d.stored id (d.stored id ++ [(origin, chunk)]) }

@[simp] theorem TerminalData.recordChunk_sessions (d : TerminalData) (id : Uuid)
    (origin : ChunkOrigin) (chunk : TerminalSessionChunkEntity) :
    (d.recordChunk id origin chunk).sessions = d.sessions := rfl

/-- The counter of a session in Redis gets a value. -/
def TerminalData.setCount (d : TerminalData) (id : Uuid) (n : ℤ) : TerminalData :=
  { d with controllerCounts := Function.update d.controllerCounts id (some n) }

/-- `RedisService.increment` and `RedisService.decrement`, up to the expiry of the key. -/
def TerminalData.addToCount (d : TerminalData) (inp : TerminalInput) (id : Uuid) (n : ℤ) :
    TerminalData × Option ℤ :=
  if inp.rejects then (d, none)
  else if ¬ inp.redisReady then (d, some 0)
  else
    let nextValue := (d.controllerCounts id).getD 0 + n
    (d.setCount id nextValue, some nextValue)

@[simp] theorem TerminalData.addToCount_sessions (d : TerminalData) (inp : TerminalInput)
    (id : Uuid) (n : ℤ) : (d.addToCount inp id n).1.sessions = d.sessions := by
  unfold addToCount
  split
  · rfl
  · split <;> rfl

@[simp] theorem TerminalData.addToCount_messages (d : TerminalData) (inp : TerminalInput)
    (id : Uuid) (n : ℤ) : (d.addToCount inp id n).1.messages = d.messages := by
  unfold addToCount
  split
  · rfl
  · split <;> rfl

/-- The operations.  The expiry of a counter is not timed: it is an event of its own. -/
def execTerminal : Exec TerminalOp TerminalAnswer TerminalData TerminalInput
  | .findSession id, _, d => (d, (d.sessions id).map (·.session))
  | .updateSessionMetadata id patch, _, d =>
      (d.updateRows id fun rows => { rows with session := patch.apply rows.session }, some ())
  | .appendChunkOnce id origin input, inp, d =>
      if inp.rejects then (d, none)
      else
        match d.sessions id with
        | none => (d, none)
        | some rows =>
            match TerminalSessionsService.appendChunkOnce input rows with
            | some (chunk, rows') =>
                ((d.updateRows id fun _ => rows').recordChunk id origin chunk, some (some chunk))
            | none => (d, some none)
  | .readTranscriptState id, inp, d =>
      if inp.rejects then (d, none)
      else
        (d, (d.sessions id).map
          fun rows => TerminalSessionsService.readTranscriptState rows.chunks)
  | .writeTranscriptState id state, inp, d =>
      if inp.rejects then (d, none)
      else
        (d.updateRows id fun rows =>
          { rows with session := TerminalSessionsService.writeTranscriptState state rows.session },
          some ())
  | .recordCommand id command, inp, d =>
      if inp.rejects then (d, none)
      else ({ d with commands := d.commands ++ [(id, command)] }, some ())
  | .send id message, inp, d =>
      let d := { d with messages := d.messages ++ [(id, message)] }
      if inp.rejects then (d, none) else (d, some inp.dispatched)
  | .incrementCount id, inp, d => d.addToCount inp id 1
  | .decrementCount id, inp, d => d.addToCount inp id (-1)
  | .expireCount _, inp, d => (d, if inp.rejects then none else some ())
  | .resetCount id, inp, d =>
      if inp.rejects then (d, none)
      else (if inp.redisReady then d.setCount id 0 else d, some ())
  | .getCount id, inp, d =>
      (d,
        if inp.rejects then none
        else some (if inp.redisReady then max 0 ((d.controllerCounts id).getD 0) else 0))
  | .attachCheck _ _, inp, d => (d, if inp.rejects then none else some ())
  | .other, inp, d => (d, if inp.rejects then none else some ())

/-- **Only `send` hands messages over.** -/
theorem execTerminal_messages (op : TerminalOp) (inp : TerminalInput) (d : TerminalData) :
    (execTerminal op inp d).1.messages =
      match op with
      | .send id message => d.messages ++ [(id, message)]
      | _ => d.messages := by
  cases op with
  | appendChunkOnce id origin input =>
      simp only [execTerminal]
      split
      · rfl
      · split
        · rfl
        · split <;> rfl
  | resetCount id =>
      simp only [execTerminal]
      split
      · rfl
      · split <;> rfl
  | incrementCount id => exact TerminalData.addToCount_messages d inp id 1
  | decrementCount id => exact TerminalData.addToCount_messages d inp id (-1)
  | readTranscriptState id | writeTranscriptState id state | recordCommand id command
  | send id message =>
      simp only [execTerminal]
      split <;> rfl
  | findSession id | updateSessionMetadata id patch | expireCount id | getCount id
  | attachCheck id socketId | other => rfl

/-- What is left of a handler. -/
abbrev TerminalProgram := Program TerminalOp TerminalAnswer TerminalMemory

/-! ## Timers -/

/-- `clearPendingOpenTimer`. -/
def clearPendingOpenTimer (id : Uuid) (m : TerminalMemory) : TerminalMemory :=
  { m with pendingOpenTimers := Function.update m.pendingOpenTimers id false }

/-- `schedulePendingOpenTimeout`. -/
def schedulePendingOpenTimeout (id : Uuid) (m : TerminalMemory) : TerminalMemory :=
  { m with pendingOpenTimers := Function.update m.pendingOpenTimers id true }

/-- `clearDetachTimer`. -/
def clearDetachTimer (id : Uuid) (m : TerminalMemory) : TerminalMemory :=
  { m with detachTimers := Function.update m.detachTimers id false }

/-- `scheduleDetachTermination`. -/
def scheduleDetachTermination (id : Uuid) (m : TerminalMemory) : TerminalMemory :=
  { m with detachTimers := Function.update m.detachTimers id true }

/-- `clearTerminationTimer`. -/
def clearTerminationTimer (id : Uuid) (m : TerminalMemory) : TerminalMemory :=
  { m with terminationTimers := Function.update m.terminationTimers id false }

/-- `scheduleTerminationTimeout`. -/
def scheduleTerminationTimeout (id : Uuid) (m : TerminalMemory) : TerminalMemory :=
  { m with terminationTimers := Function.update m.terminationTimers id true }

/-! ## Helpers of the handlers -/

/-- The bytes of a text. -/
def utf8 (s : String) : List UInt8 := Utf8.encode s.toList

/-- `appendChunk`, with what follows it.  `origin` only says what the chunk is. -/
def appendChunk (id : Uuid) (origin : ChunkOrigin) (input : ChunkInput)
    (k : TerminalSessionChunkEntity → TerminalProgram) : TerminalProgram :=
  .await (.appendChunkOnce id origin input) fun
    | some chunk => k chunk
    | none =>
        .await (.readTranscriptState id) fun state =>
        .await (.writeTranscriptState id state) fun _ =>
        .await (.appendChunkOnce id origin input) fun
          | some chunk => k chunk
          | none => .done

/-- The input of `closeSession`. -/
structure CloseInput where
  failed : Bool
  reason : String
  exitCode : Option ℤ := none
  closedAt : Option ℤ := none

/-- The status that `closeSession` writes. -/
def CloseInput.status (input : CloseInput) : TerminalSessionStatus :=
  if input.failed then .failed else .closed

/-- What `closeSession` writes to the session. -/
def CloseInput.patch (input : CloseInput) (now : ℤ) : TerminalSessionMetadataPatch where
  status := some input.status
  closedAt := some (some (input.closedAt.getD now))
  closedReason := some (some input.reason)
  exitCode := some input.exitCode

/-- What `closeSession` takes from the maps at its start. -/
def forgetSession (id : Uuid) (m : TerminalMemory) : TerminalMemory :=
  let m := clearTerminationTimer id (clearDetachTimer id (clearPendingOpenTimer id m))
  { m with commandBuffers := Function.update m.commandBuffers id none }

/-- `closeSession`. -/
def closeSession (id : Uuid) (input : CloseInput) : TerminalProgram :=
  .write (forgetSession id) <| .read fun m =>
  .await (.updateSessionMetadata id (input.patch m.now)) fun _ =>
  appendChunk id .other
    { direction := if input.failed then .stderr else .system
      payload := utf8 input.reason
      sourceTimestamp := some (input.closedAt.getD m.now) } fun _ =>
  .await .other fun _ =>
  .await .other fun _ =>
  if input.failed then .await .other fun _ => .await .other fun _ => .done
  else .await .other fun _ => .done

/-- `markFailed`; `timestamp` is the date it parses, if there is one. -/
def markFailed (id : Uuid) (workspaceId : Option Uuid := none) (message : String)
    (nodeId : Option Uuid := none) (timestamp : Option ℤ := none) : TerminalProgram :=
  .await (.findSession id) fun session =>
  if workspaceId.any (· ≠ session.workspaceId) then .done
  else if nodeId.any fun nodeId => nodeId ≠ "" ∧ session.nodeId ≠ nodeId then .done
  else if isTerminal session.status then .done
  else
    closeSession id
      { failed := true
        reason :=
          if jsTrim message = "" then "Terminal session failed." else jsTrim message
        closedAt := timestamp }

/-- `findSessionOrFail`. -/
def findSessionOrFail (id : Uuid) (workspaceId : Option Uuid)
    (k : TerminalSessionEntity → TerminalProgram) : TerminalProgram :=
  .await (.findSession id) fun session =>
  if workspaceId.any fun w => w ≠ "" ∧ w ≠ session.workspaceId then .done else k session

/-- `incrementControllerCount`. -/
def incrementControllerCount (id : Uuid) (k : ℤ → TerminalProgram) : TerminalProgram :=
  .read fun m =>
  if m.redisEnabled then
    .await (.incrementCount id) fun nextValue => .await (.expireCount id) fun _ => k nextValue
  else
    let nextValue := m.localControllerCounts id + 1
    .write (fun m => { m with
      localControllerCounts := Function.update m.localControllerCounts id nextValue }) <|
    .await .other fun _ => k nextValue

/-- `decrementControllerCount`. -/
def decrementControllerCount (id : Uuid) (k : ℤ → TerminalProgram) : TerminalProgram :=
  .read fun m =>
  if m.redisEnabled then
    .await (.decrementCount id) fun nextValue =>
    .await (.expireCount id) fun _ =>
    if nextValue < 0 then .await (.resetCount id) fun _ => k 0 else k nextValue
  else
    let nextValue := max 0 (m.localControllerCounts id - 1)
    .write (fun m => { m with
      localControllerCounts := Function.update m.localControllerCounts id nextValue }) <|
    .await .other fun _ => k nextValue

/-- `getControllerCount`. -/
def getControllerCount (id : Uuid) (k : ℤ → TerminalProgram) : TerminalProgram :=
  .read fun m =>
  if m.redisEnabled then .await (.getCount id) k
  else .await .other fun _ => k (m.localControllerCounts id)

/-- The loop of `auditSubmittedTerminalCommands`. -/
def auditCharacters (id : Uuid) (k : TerminalProgram) :
    List Char → JsString → TerminalProgram
  | [], buffer =>
      .write (fun m => { m with
        commandBuffers := Function.update m.commandBuffers id (some buffer) }) k
  | char :: rest, buffer =>
      if char = '\r' ∨ char = '\n' then
        let command := trimUnits buffer
        if command = [] then auditCharacters id k rest []
        else
          .await (.recordCommand id (recordSubmittedTerminalCommand command)) fun _ =>
          auditCharacters id k rest []
      else if char = Char.ofNat 0x08 ∨ char = Char.ofNat 0x7F then
        auditCharacters id k rest buffer.dropLast
      else if char = '\t' ∨ ' ' ≤ char then auditCharacters id k rest (buffer ++ codeUnits char)
      else auditCharacters id k rest buffer

/-- The loop goes on up to the next command, as one step of an audit does. -/
theorem auditCharacters_eq (id : Uuid) (k : TerminalProgram) (buffer : JsString)
    (text : List Char) :
    auditCharacters id k text buffer =
      match nextCommand buffer text with
      | (line, none) =>
          .write (fun m => { m with
            commandBuffers := Function.update m.commandBuffers id (some line) }) k
      | (_, some (command, rest)) =>
          .await (.recordCommand id (recordSubmittedTerminalCommand command)) fun _ =>
          auditCharacters id k rest [] := by
  fun_induction nextCommand buffer text with
  | case1 buffer => rfl
  | case2 buffer char rest hnewline command hempty ih =>
      rw [← ih, auditCharacters, if_pos hnewline]
      exact if_pos hempty
  | case3 buffer char rest hnewline command hcommand =>
      rw [auditCharacters, if_pos hnewline]
      exact if_neg hcommand
  | case4 buffer char rest hnewline hback ih =>
      rw [← ih, auditCharacters, if_neg hnewline, if_pos hback]
  | case5 buffer char rest hnewline hback hprint ih =>
      rw [← ih, auditCharacters, if_neg hnewline, if_neg hback, if_pos hprint]
  | case6 buffer char rest hnewline hback hprint ih =>
      rw [← ih, auditCharacters, if_neg hnewline, if_neg hback, if_neg hprint]

/-- `auditSubmittedTerminalCommands`. -/
def auditSubmittedTerminalCommands (id : Uuid) (payload : List UInt8) (k : TerminalProgram) :
    TerminalProgram :=
  let decoded := Utf8.decode payload
  if decoded = [] then k
  else .read fun m => auditCharacters id k decoded ((m.commandBuffers id).getD [])

/-! ## Handlers of the agent's messages -/

/-- The body of a message `opened`. -/
structure OpenedInput where
  nodeId : Uuid
  cols : Option ℕ := none
  rows : Option ℕ := none
  timestamp : Option ℤ := none

/-- What `handleAgentOpened` writes to the session it has loaded. -/
def OpenedInput.patch (input : OpenedInput) (session : TerminalSessionEntity) (now : ℤ) :
    TerminalSessionMetadataPatch where
  status := some .opened
  openedAt := some (some (input.timestamp.getD now))
  closedAt := some none
  closedReason := some none
  exitCode := some none
  cols := some ((input.cols.filter (· ≠ 0)).getD session.cols)
  rows := some ((input.rows.filter (· ≠ 0)).getD session.rows)

/-- `handleAgentOpened`. -/
def handleAgentOpened (id : Uuid) (input : OpenedInput) : TerminalProgram :=
  .await (.findSession id) fun session =>
  if session.nodeId ≠ input.nodeId ∨ isTerminal session.status then .done
  else
    .write (clearPendingOpenTimer id) <| .read fun m =>
    .await (.updateSessionMetadata id (input.patch session m.now)) fun _ =>
    appendChunk id .other
      { direction := .system
        payload := utf8 "Terminal session opened"
        sourceTimestamp := some (input.timestamp.getD m.now) } fun _ =>
    .await .other fun _ => .await .other fun _ => .done

/-- `TERMINAL_MAX_TRANSCRIPT_BYTES`. -/
def maxTranscriptBytes : ℕ := 10 * 1024 * 1024

/-- The notice of `handleAgentOutput`. -/
def capacityNotice : ChunkInput where
  direction := .system
  payload := utf8 "Transcript capacity exceeded; terminating session."

/-- The body of a message with output. -/
structure OutputInput where
  nodeId : Uuid
  direction : TerminalTranscriptDirection
  payload : List UInt8
  timestamp : Option ℤ := none

/-- `handleAgentOutput` once the notice is stored. -/
def stopNoticed (id : Uuid) : TerminalProgram :=
  .await (.updateSessionMetadata id
    { status := some .terminating, closedReason := some (some "transcript-overflow") }) fun _ =>
  .await .other fun _ =>
  .write (scheduleTerminationTimeout id) <|
  .await (.send id (.stopTerminalSession (some "transcript-overflow"))) fun dispatched =>
  if dispatched then .done
  else
    closeSession id
      { failed := true
        reason := "Transcript capacity exceeded and the terminal could not be stopped cleanly." }

/-- `handleAgentOutput` when the transcript is full. -/
def stopOverflowing (id : Uuid) : TerminalProgram :=
  appendChunk id .capacityNotice capacityNotice fun _ => stopNoticed id

/-- `handleAgentOutput`. -/
def handleAgentOutput (id : Uuid) (input : OutputInput) : TerminalProgram :=
  .await (.findSession id) fun session =>
  if session.nodeId ≠ input.nodeId ∨ isTerminal session.status then .done
  else
    let sanitizedPayload := sanitizeTerminalOutputPayload input.payload
    if maxTranscriptBytes < session.transcriptBytes + sanitizedPayload.length then
      stopOverflowing id
    else
      appendChunk id .agentOutput ⟨input.direction, sanitizedPayload, input.timestamp⟩ fun _ =>
      .await .other fun _ => .done

/-- The body of a message `exited`; the exit code is truncated already. -/
structure ExitedInput where
  nodeId : Uuid
  exitCode : Option ℤ := none
  reason : Option String := none
  timestamp : Option ℤ := none

/-- `handleAgentExited`. -/
def handleAgentExited (id : Uuid) (input : ExitedInput) : TerminalProgram :=
  .await (.findSession id) fun session =>
  if session.nodeId ≠ input.nodeId ∨ isTerminal session.status then .done
  else
    closeSession id
      { failed := false
        reason := (trimToNull input.reason).getD "Terminal session exited."
        exitCode := input.exitCode
        closedAt := input.timestamp }

/-- `handleAgentError`. -/
def handleAgentError (id : Uuid) (nodeId : Uuid) (message : String) (timestamp : Option ℤ) :
    TerminalProgram :=
  markFailed id none message (some nodeId) timestamp

/-! ## Handlers of the controllers -/

/-- The user of a request. -/
structure TerminalUser where
  id : Uuid
  email : String

/-- `assertCanControlSession`; it throws if this does not hold. -/
def canControlSession (user : TerminalUser) (session : TerminalSessionEntity) : Bool :=
  session.createdByUserId = some user.id ∧ ¬ isTerminal session.status

/-- `detachController`. -/
def detachController (socketId : SocketId) (k : TerminalProgram) : TerminalProgram :=
  .read fun m =>
  match m.socketToAttachment.lookup socketId with
  | none => k
  | some id =>
      .write (fun m => { m with
        socketToAttachment := m.socketToAttachment.filter (·.1 ≠ socketId) }) <|
      decrementControllerCount id fun count =>
      if count ≤ 0 then .write (scheduleDetachTermination id) k else k

/-- `attachController` once its checks have passed. -/
def registerController (id : Uuid) (socketId : SocketId) : TerminalProgram :=
  .write (clearDetachTimer id) <|
  .write (fun m => { m with
    socketToAttachment := m.socketToAttachment.filter (·.1 ≠ socketId) ++ [(socketId, id)] }) <|
  incrementControllerCount id fun _ => .done

/-- `attachController` once the socket is detached. -/
def attachDetached (id : Uuid) (user : TerminalUser) (socketId : SocketId) : TerminalProgram :=
  .await (.findSession id) fun session =>
  .await .other fun _ =>
  if ¬ canControlSession user session then .done
  else .await (.attachCheck id socketId) fun _ => registerController id socketId

/-- `attachController`. -/
def attachController (id : Uuid) (user : TerminalUser) (socketId : SocketId) :
    TerminalProgram :=
  .read fun m =>
  if (m.socketToAttachment.lookup socketId).isSome then
    detachController socketId (attachDetached id user socketId)
  else attachDetached id user socketId

/-- `handleControllerInput`. -/
def handleControllerInput (id : Uuid) (payload : List UInt8) (user : TerminalUser) :
    TerminalProgram :=
  .await (.findSession id) fun session =>
  .await .other fun _ =>
  if ¬ canControlSession user session then .done
  else
    .await .other fun _ =>
    if session.status ≠ .opened then .done
    else
      appendChunk id .controllerInput { direction := .stdin, payload := payload } fun _ =>
      auditSubmittedTerminalCommands id payload <|
      .await (.send id (.sendTerminalInput payload)) fun dispatched =>
      if dispatched then .done
      else
        markFailed id (some session.workspaceId)
          "Agent route was unavailable while sending terminal input."

/-- `handleControllerResize`. -/
def handleControllerResize (id : Uuid) (cols rows : ℕ) (user : TerminalUser) :
    TerminalProgram :=
  .await (.findSession id) fun session =>
  .await .other fun _ =>
  if ¬ canControlSession user session then .done
  else
    .await .other fun _ =>
    if session.status = .pending then
      .await (.updateSessionMetadata id { cols := some cols, rows := some rows }) fun _ =>
      .await .other fun _ => .done
    else if session.status ≠ .opened then .done
    else
      .await (.updateSessionMetadata id { cols := some cols, rows := some rows }) fun _ =>
      .await .other fun _ =>
      .await (.send id (.resizeTerminalSession cols rows)) fun dispatched =>
      if dispatched then .done
      else
        markFailed id (some session.workspaceId)
          "Agent route was unavailable while resizing the terminal."

/-- `terminateSession`. -/
def terminateSession (workspaceId : Option Uuid) (id : Uuid) (dtoReason : Option String)
    (user : TerminalUser) : TerminalProgram :=
  let reason := trimToNull dtoReason
  findSessionOrFail id workspaceId fun session =>
  .await .other fun _ =>
  .await .other fun _ =>
  if isTerminal session.status then .done
  else
    appendChunk id .other
      { direction := .system
        payload := utf8 (match reason with
          | some reason => "Termination requested: " ++ reason
          | none => "Termination requested by " ++ user.email) } fun _ =>
    .await (.updateSessionMetadata id { status := some .terminating }) fun _ =>
    .await .other fun _ =>
    .write (scheduleTerminationTimeout id) <|
    .await .other fun _ =>
    .await (.send id (.stopTerminalSession reason)) fun dispatched =>
    if dispatched then .await (.findSession id) fun _ => .done
    else
      closeSession id
        { failed := false
          reason :=
            reason.getD "Terminal route was unavailable while terminating the session." }

/-- `createSession` once the row is inserted. -/
def createSession (session : TerminalSessionEntity) (hostname : String) (user : TerminalUser) :
    TerminalProgram :=
  appendChunk session.id .other
    { direction := .system
      payload := utf8 ("Session created by " ++ user.email ++ " on node " ++ hostname) } fun _ =>
  .await .other fun _ =>
  .await .other fun _ =>
  .write (schedulePendingOpenTimeout session.id) <|
  .await (.send session.id (.startTerminalSession session.cols session.rows)) fun dispatched =>
  if dispatched then .await .other fun _ => .done
  else
    markFailed session.id (some session.workspaceId)
      "Agent route was not available to start the terminal session."

/-! ## Timeouts -/

/-- The callback of `schedulePendingOpenTimeout`. -/
def handlePendingOpenTimeout (id : Uuid) : TerminalProgram :=
  .read fun m =>
  if m.pendingOpenTimers id then
    .write (clearPendingOpenTimer id) <|
    markFailed id none "Terminal session did not open before the startup timeout elapsed."
  else .done

/-- What `handleDetachTimeout` writes to the session. -/
def detachedPatch : TerminalSessionMetadataPatch where
  status := some .terminating
  closedReason := some (some "controller-detached-timeout")

/-- `handleDetachTimeout`, once no controller is counted. -/
def terminateDetached (id : Uuid) : TerminalProgram :=
  .await (.findSession id) fun session =>
  if isTerminal session.status then .done
  else
    appendChunk id .other
      { direction := .system
        payload :=
          utf8 "No controller reattached within the grace window; terminating session." } fun _ =>
    .await (.updateSessionMetadata id detachedPatch) fun _ =>
    .await .other fun _ =>
    .write (scheduleTerminationTimeout id) <|
    .await (.send id (.stopTerminalSession (some "controller-detached-timeout")))
      fun dispatched =>
    if dispatched then .done
    else
      closeSession id
        { failed := false
          reason := "Session closed after the controller did not reattach within 5 minutes." }

/-- `handleDetachTimeout`. -/
def handleDetachTimeout (id : Uuid) : TerminalProgram :=
  .read fun m =>
  if m.detachTimers id then
    .write (clearDetachTimer id) <|
    getControllerCount id fun activeCount =>
    if 0 < activeCount then .done else terminateDetached id
  else .done

/-- What `handleTerminationTimeout` does with the session it has loaded. -/
def closeUnconfirmed (id : Uuid) (session : TerminalSessionEntity) : TerminalProgram :=
  if session.status ≠ .terminating then .done
  else
    closeSession id
      { failed := false
        reason := (trimToNull session.closedReason).getD
          ("Termination completed after the remote shell stopped responding to exit " ++
            "confirmation.") }

/-- `handleTerminationTimeout`. -/
def handleTerminationTimeout (id : Uuid) : TerminalProgram :=
  .read fun m =>
  if m.terminationTimers id then
    .write (clearTerminationTimer id) <| .await (.findSession id) (closeUnconfirmed id)
  else .done

/-! ## Requests -/

/-- The events of the sessions.  A timeout is the callback of a timer: it does something only
when the timer is armed. -/
inductive TerminalRequest
  | createSession (session : TerminalSessionEntity) (hostname : String) (user : TerminalUser)
  | agentOpened (id : Uuid) (input : OpenedInput)
  | agentOutput (id : Uuid) (input : OutputInput)
  | agentExited (id : Uuid) (input : ExitedInput)
  | agentError (id nodeId : Uuid) (message : String) (timestamp : Option ℤ)
  | connect (socketId : SocketId)
  | disconnect (socketId : SocketId)
  | attach (id : Uuid) (user : TerminalUser) (socketId : SocketId)
  | detach (socketId : SocketId)
  | input (id : Uuid) (payload : List UInt8) (user : TerminalUser)
  | resize (id : Uuid) (cols rows : ℕ) (user : TerminalUser)
  | terminate (workspaceId : Option Uuid) (id : Uuid) (reason : Option String)
      (user : TerminalUser)
  | pendingOpenTimeout (id : Uuid)
  | detachTimeout (id : Uuid)
  | terminationTimeout (id : Uuid)

/-- The program of an event. -/
def terminalBody : TerminalRequest → TerminalProgram
  | .createSession session hostname user => createSession session hostname user
  | .agentOpened id input => handleAgentOpened id input
  | .agentOutput id input => handleAgentOutput id input
  | .agentExited id input => handleAgentExited id input
  | .agentError id nodeId message timestamp => handleAgentError id nodeId message timestamp
  | .connect socketId =>
      .write (fun m => { m with connected := m.connected ++ [socketId] }) .done
  | .disconnect socketId =>
      .write (fun m => { m with connected := m.connected.filter (· ≠ socketId) }) <|
      detachController socketId .done
  | .attach id user socketId => attachController id user socketId
  | .detach socketId => detachController socketId .done
  | .input id payload user => handleControllerInput id payload user
  | .resize id cols rows user => handleControllerResize id cols rows user
  | .terminate workspaceId id reason user => terminateSession workspaceId id reason user
  | .pendingOpenTimeout id => handlePendingOpenTimeout id
  | .detachTimeout id => handleDetachTimeout id
  | .terminationTimeout id => handleTerminationTimeout id

/-- What happens outside of the calls: the clock is set, or the counter of a session expires in
Redis. -/
inductive TerminalEnv
  | setClock (now : ℤ)
  | expireCounter (id : Uuid)

/-- The database, Redis and the memory of the process. -/
abbrev TerminalStore := Store TerminalData TerminalMemory

/-- A step of the environment. -/
def terminalEnv : TerminalEnv → TerminalStore → TerminalStore
  | .setClock now, s => { s with memory := { s.memory with now := now } }
  | .expireCounter id, s =>
      { s with data := { s.data with
          controllerCounts := Function.update s.data.controllerCounts id none } }

/-- A call that awaits an operation. -/
abbrev TerminalCall := Awaiting TerminalOp TerminalAnswer TerminalMemory

/-- The calls of the service. -/
abbrev terminalCalls : Calls TerminalStore TerminalRequest TerminalCall TerminalInput :=
  programCalls execTerminal terminalBody

/-- The store and the pending calls. -/
abbrev TerminalConfig := Config ℕ TerminalStore TerminalCall

/-- An event of a session, a step of a pending call, or a step of the environment. -/
abbrev TerminalEvent := Event ℕ TerminalRequest TerminalInput TerminalEnv

/-- One event. -/
abbrev terminalStep : TerminalConfig → TerminalEvent → TerminalConfig :=
  step terminalCalls terminalEnv

end TerminalSessionsService
