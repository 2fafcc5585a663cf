/-
# The task operations as interleaved calls

Every operation is cut at its database accesses: a call loads a row, is resumed
later to save it, later again to store its log rows, and any other call may move
in between.  A save writes the whole entity over the row, whatever the row has
become since the load; an UPDATE statement checks its WHERE clause on the row it
finds.

The world is the tables and a history that no call reads: the tasks whose
cancellation returned, whose start succeeded, and whose completion was stored.
The environment takes whole operations as single steps (`taskStep`).
-/
import NoderaxApi.TaskStatusMachine
import NoderaxApi.Interleaving

namespace TasksService

open Interleaving Runs

/-! ## The world and the calls -/

/-- The tables, and what the calls have answered so far. -/
structure TaskWorld where
  db : TaskTables := {}
  cancelReturned : List Uuid := []
  startSucceeded : List Uuid := []
  terminalReported : List Uuid := []

/-- A request to one of the operations. -/
inductive TaskRequest
  | startClaimedTaskForAgent (taskId nodeId : Uuid) (dto : AgentTaskHttpDto)
  | startForAgent (taskId nodeId : Uuid) (authenticated : Except HttpError Unit)
      (dto : StartAgentTaskDto)
  | appendClaimedTaskLogForAgent (taskId nodeId : Uuid) (dto : AgentTaskLogHttpDto)
  | appendLogForAgent (taskId nodeId : Uuid) (authenticated : Except HttpError Unit)
      (dto : AppendTaskLogDto)
  | completeClaimedTaskForAgent (taskId nodeId : Uuid) (dto : CompleteAgentTaskDto)
  | completeForAgent (taskId nodeId : Uuid) (authenticated : Except HttpError Unit)
      (dto : CompleteAgentTaskDto)
  | requestTaskCancellation (taskId : Uuid) (workspaceId : Option Uuid)
      (writable : Except HttpError Unit) (dto : RequestTaskCancelDto)
  | failStaleTasks (queuedTimeoutSeconds runningTimeoutSeconds : ℤ)
  | syncLinkedTaskTerminalState (taskId : Uuid) (succeeded : Bool) (detail : String)

/-- What a pending save is for. -/
inductive SaveKind
  | log
  | completion
  | rollout
  deriving DecidableEq

/-- What is left of a call after a database access. -/
inductive PendingCall
  /-- The UPDATE of `startClaimedTaskForAgent`. -/
  | claimedStart (taskId nodeId : Uuid) (startedAt : ℤ)
  /-- The lookup of `startForAgent` after its UPDATE matched no row. -/
  | startLookup (taskId nodeId : Uuid)
  /-- The save of a changed entity. -/
  | save (kind : SaveKind) (loaded entity : TaskEntity) (logs : List TaskLogEntity)
  /-- The rest of `requestTaskCancellation` after its load. -/
  | cancel (loaded : TaskEntity) (writable : Except HttpError Unit) (dto : RequestTaskCancelDto)
  /-- The selection of `failStaleTasks`. -/
  | staleSelect (now queuedTimeoutSeconds runningTimeoutSeconds : ℤ)
  /-- The saves of `failStaleTasks`. -/
  | staleSave (now : ℤ) (stale : List TaskEntity)
  /-- The log rows of an operation. -/
  | logs (logs : List TaskLogEntity)

/-- The save that follows a load and its checks, or the end of the call. -/
def saveNext (kind : SaveKind) (loaded : Except HttpError TaskEntity)
    (check : TaskEntity → Decision) (logs : TaskEntity → List TaskLogEntity) : Option PendingCall :=
  match loaded with
  | .error _ => none
  | .ok task =>
      match check task with
      | .ok (some entity) => some (.save kind task entity (logs entity))
      | _ => none

/-- The first step of a call: everything up to and including its first database
access, and the checks on what that access answered. -/
def invokeTask (request : TaskRequest) (now : ℤ) (w : TaskWorld) :
    TaskWorld × Option PendingCall :=
  match request with
  | .startClaimedTaskForAgent taskId nodeId dto =>
      match assertTaskIdMatchesRoute taskId dto.taskId,
          findTaskForNodeOrFail w.db taskId nodeId with
      | .ok (), .ok task =>
          match Loaded.startClaimedTaskForAgent now nodeId task with
          | .ok none => ({ w with startSucceeded := taskId :: w.startSucceeded }, none)
          | .ok (some ()) => (w, some (.claimedStart taskId nodeId (timestampOr now dto.timestamp)))
          | .error _ => (w, none)
      | _, _ => (w, none)
  | .startForAgent taskId nodeId authenticated dto =>
      match assertTaskIdMatchesRoute taskId dto.taskId, authenticated with
      | .ok (), .ok () =>
          if (w.db.findTask taskId).any (isStartable taskId nodeId) then
            ({ w with
                db := w.db.updateTasks (isStartable taskId nodeId)
                  (started (timestampOr now dto.startedAt))
                startSucceeded := taskId :: w.startSucceeded }, none)
          else (w, some (.startLookup taskId nodeId))
      | _, _ => (w, none)
  | .appendClaimedTaskLogForAgent taskId nodeId dto =>
      (w, saveNext .log
        (do assertTaskIdMatchesRoute taskId dto.taskId; findTaskForNodeOrFail w.db taskId nodeId)
        (Loaded.appendClaimedTaskLogForAgent dto) fun _ =>
          [{ taskId := taskId
             level := resolveTaskLogLevel dto.stream
             message := dto.line
             timestamp := timestampOr now dto.timestamp }])
  | .appendLogForAgent taskId nodeId authenticated dto =>
      (w, saveNext .log
        (do
          assertTaskIdMatchesRoute taskId dto.taskId
          authenticated
          findTaskForNodeOrFail w.db taskId nodeId)
        (Loaded.appendLogForAgent dto) fun _ => Loaded.appendedLogs now taskId dto)
  | .completeClaimedTaskForAgent taskId nodeId dto =>
      match normalizeCompletionStatus dto.status with
      | .error _ => (w, none)
      | .ok status =>
          (w, saveNext .completion
            (do
              assertTaskIdMatchesRoute taskId dto.taskId
              findTaskForNodeOrFail w.db taskId nodeId)
            (Loaded.completeClaimedTaskForAgent now nodeId status dto) fun _ => [])
  | .completeForAgent taskId nodeId authenticated dto =>
      match normalizeCompletionStatus dto.status with
      | .error _ => (w, none)
      | .ok status =>
          (w, saveNext .completion
            (do
              assertTaskIdMatchesRoute taskId dto.taskId
              authenticated
              findTaskForNodeOrFail w.db taskId nodeId)
            (Loaded.completeForAgent now status dto) (Loaded.completionLogs now dto))
  | .requestTaskCancellation taskId workspaceId writable dto =>
      match findOneOrFail w.db taskId workspaceId with
      | .ok task => (w, some (.cancel task writable dto))
      | .error _ => (w, none)
  | .failStaleTasks queuedTimeoutSeconds runningTimeoutSeconds =>
      ({ w with db := requeueExpiredLeases w.db now },
        some (.staleSelect now queuedTimeoutSeconds runningTimeoutSeconds))
  | .syncLinkedTaskTerminalState taskId succeeded detail =>
      match w.db.findTask taskId with
      | none => (w, none)
      | some linkedTask =>
          (w, (Loaded.syncLinkedTaskTerminalState now succeeded detail linkedTask).map
            fun entity => .save .rollout linkedTask entity [])

/-- A later step of a call. -/
def resumeTask (call : PendingCall) (now : ℤ) (w : TaskWorld) : TaskWorld × Option PendingCall :=
  match call with
  | .claimedStart taskId nodeId startedAt =>
      if (w.db.findTask taskId).any (isStartableClaim taskId nodeId) then
        ({ w with
            db := w.db.updateTasks (isStartableClaim taskId nodeId) (startedClaim startedAt)
            startSucceeded := taskId :: w.startSucceeded }, none)
      else (w, none)
  | .startLookup taskId nodeId =>
      match w.db.findTask taskId with
      | none => (w, none)
      | some task =>
          if task.nodeId = nodeId ∧ task.status = .running then
            ({ w with startSucceeded := taskId :: w.startSucceeded }, none)
          else (w, none)
  | .save kind _ entity logs =>
      ({ w with
          db := w.db.saveTask entity
          terminalReported :=
            if kind = .completion then entity.id :: w.terminalReported
            else w.terminalReported },
        some (.logs logs))
  | .cancel loaded writable dto =>
      match writable with
      | .error _ => (w, none)
      | .ok () =>
          match Loaded.requestTaskCancellation now dto loaded with
          | none => ({ w with cancelReturned := loaded.id :: w.cancelReturned }, none)
          | some entity =>
              ({ w with
                  db := w.db.saveTask entity
                  cancelReturned := loaded.id :: w.cancelReturned },
                some (.logs (cancellationLogs now dto entity)))
  | .staleSelect now queuedTimeoutSeconds runningTimeoutSeconds =>
      (w, some (.staleSave now (w.db.tasks.filter
        (isStale now w.db.nodes queuedTimeoutSeconds runningTimeoutSeconds))))
  | .staleSave _ [] => (w, none)
  | .staleSave staleNow (task :: stale) =>
      ({ w with db := w.db.saveTask (Loaded.failStaleTask staleNow task) },
        some (.staleSave staleNow stale))
  | .logs logs => ({ w with db := w.db.saveLogs logs }, none)

/-- The family of task calls; the input of a step is its clock reading. -/
def taskCalls : Calls TaskWorld TaskRequest PendingCall ℤ := ⟨invokeTask, resumeTask⟩

/-- A whole operation as one step of the environment. -/
def taskEnv (e : TaskEvent) (w : TaskWorld) : TaskWorld := { w with db := taskStep w.db e }

/-- A state of the interleaved system; calls are numbered. -/
abbrev TaskConfig := Config ℕ TaskWorld PendingCall

/-- An event of the interleaved system. -/
abbrev TaskCallEvent := Event ℕ TaskRequest ℤ TaskEvent

/-- The state after the events `es`, from the world `w` with no call pending. -/
abbrev interleave (w : TaskWorld) (es : List TaskCallEvent) : TaskConfig :=
  run (Interleaving.step taskCalls taskEnv) (Config.idle w) es

/-! ## The row a step is about to overwrite -/

/-- The row, as it was loaded, over which the next step of the call saves an
entity. -/
def PendingCall.savesNext : PendingCall → Option TaskEntity
  | .save _ loaded _ _ => some loaded
  | .cancel loaded (.ok ()) _ => if loaded.status.isTerminal then none else some loaded
  | .staleSave _ (task :: _) => some task
  | _ => none

/-- The row that the step is about to overwrite, as it is now, satisfies `P`
together with the row as it was loaded. -/
def SavesOver (P : TaskEntity → TaskEntity → Prop) (w : TaskWorld) (call : PendingCall) (_ : ℤ) :
    Prop :=
  ∀ loaded ∈ call.savesNext, ∀ row ∈ w.db.findTask loaded.id, P loaded row

instance (P : TaskEntity → TaskEntity → Prop) [∀ a b, Decidable (P a b)] (w : TaskWorld)
    (call : PendingCall) (now : ℤ) : Decidable (SavesOver P w call now) := by
  unfold SavesOver; infer_instance

/-- The call is `failStaleTasks`. -/
def PendingCall.isStale : PendingCall → Bool
  | .staleSelect .. | .staleSave .. => true
  | _ => false

/-! ## What a step does -/

/-- What a pending save holds: the loaded row was open, and the entity is that
row with another output, or finished. -/
def PendingCall.Faithful : PendingCall → Prop
  | .save .log loaded entity _ =>
      loaded.status.isTerminal = false ∧ Loaded.OutputOnly loaded entity
  | .save .completion loaded entity _ => Loaded.Finishes loaded entity
  | .save .rollout loaded entity _ => Loaded.Finishes loaded entity
  | _ => True

/-- A task that its own id is found under. -/
def Stored (db : TaskTables) (task : TaskEntity) : Prop := db.findTask task.id = some task

theorem stored_of_findTask {db : TaskTables} {id : Uuid} {task : TaskEntity}
    (h : db.findTask id = some task) : Stored db task := by
  unfold Stored
  rw [TaskTables.id_of_findTask h, h]

/-- The ways the first step of a call ends. -/
inductive Invoked (request : TaskRequest) (now : ℤ) (w : TaskWorld) :
    TaskWorld × Option PendingCall → Prop
  | returned : Invoked request now w (w, none)
  | alreadyRunning (taskId : Uuid) (task : TaskEntity) (hfind : w.db.findTask taskId = some task)
      (hrunning : task.status = .running) :
      Invoked request now w ({ w with startSucceeded := taskId :: w.startSucceeded }, none)
  | startNext (taskId nodeId : Uuid) (startedAt : ℤ) :
      Invoked request now w (w, some (.claimedStart taskId nodeId startedAt))
  | started (taskId nodeId : Uuid) (startedAt : ℤ)
      (hmatch : (w.db.findTask taskId).any (isStartable taskId nodeId) = true) :
      Invoked request now w
        ({ w with
            db := w.db.updateTasks (isStartable taskId nodeId) (started startedAt)
            startSucceeded := taskId :: w.startSucceeded }, none)
  | lookupNext (taskId nodeId : Uuid) : Invoked request now w (w, some (.startLookup taskId nodeId))
  | saveNext (kind : SaveKind) (loaded entity : TaskEntity) (logs : List TaskLogEntity)
      (hstored : Stored w.db loaded)
      (hfaithful : (PendingCall.save kind loaded entity logs).Faithful)
      (hkind : kind = .rollout → ∃ taskId succeeded detail,
        request = .syncLinkedTaskTerminalState taskId succeeded detail) :
      Invoked request now w (w, some (.save kind loaded entity logs))
  | cancelNext (loaded : TaskEntity) (writable : Except HttpError Unit) (dto : RequestTaskCancelDto)
      (hstored : Stored w.db loaded) : Invoked request now w (w, some (.cancel loaded writable dto))
  | requeued (queuedTimeoutSeconds runningTimeoutSeconds : ℤ)
      (hrequest : request = .failStaleTasks queuedTimeoutSeconds runningTimeoutSeconds) :
      Invoked request now w
        ({ w with db := requeueExpiredLeases w.db now },
          some (.staleSelect now queuedTimeoutSeconds runningTimeoutSeconds))

/-- A load, its checks, and the save they lead to. -/
theorem Invoked.of_saveNext {request : TaskRequest} {now : ℤ} {w : TaskWorld} {kind : SaveKind}
    {loaded : Except HttpError TaskEntity} {check : TaskEntity → Decision}
    {logs : TaskEntity → List TaskLogEntity} (hkind : kind ≠ .rollout)
    (hloaded : ∀ task, loaded = .ok task → Stored w.db task)
    (hcheck : ∀ task entity, check task = .ok (some entity) →
      (PendingCall.save kind task entity (logs entity)).Faithful) :
    Invoked request now w (w, TasksService.saveNext kind loaded check logs) := by
  unfold TasksService.saveNext
  cases hl : loaded with
  | error _ => exact .returned
  | ok task =>
      dsimp only
      split
      · next entity hentity =>
          exact .saveNext kind task entity (logs entity) (hloaded task hl)
            (hcheck task entity hentity) fun h => absurd h hkind
      · exact .returned

/-- **What the first step of a call does.** -/
theorem invokeTask_invoked (request : TaskRequest) (now : ℤ) (w : TaskWorld) :
    Invoked request now w (invokeTask request now w) := by
  cases request with
  | startClaimedTaskForAgent taskId nodeId dto =>
      simp only [invokeTask]
      split
      · next task _ hloaded =>
          split
          · next hrunning =>
              refine .alreadyRunning taskId task (findTaskForNodeOrFail_ok hloaded).1 ?_
              exact Loaded.startClaimedTaskForAgent_none hrunning
          · exact .startNext taskId nodeId _
          · exact .returned
      · exact .returned
  | startForAgent taskId nodeId authenticated dto =>
      simp only [invokeTask]
      split
      · split
        · next hmatch => exact .started taskId nodeId _ hmatch
        · exact .lookupNext taskId nodeId
      · exact .returned
  | appendClaimedTaskLogForAgent taskId nodeId dto =>
      refine .of_saveNext (by decide) ?_ ?_
      · intro task h
        obtain ⟨_, _, h⟩ := bind_eq_ok.mp h
        exact stored_of_findTask (findTaskForNodeOrFail_ok h).1
      · intro task entity h
        obtain ⟨hrunning, hentity⟩ := Loaded.appendClaimedTaskLogForAgent_ok h
        exact ⟨by rw [hrunning]; rfl, hentity⟩
  | appendLogForAgent taskId nodeId authenticated dto =>
      refine .of_saveNext (by decide) ?_ ?_
      · intro task h
        obtain ⟨_, _, h⟩ := bind_eq_ok.mp h
        obtain ⟨_, _, h⟩ := bind_eq_ok.mp h
        exact stored_of_findTask (findTaskForNodeOrFail_ok h).1
      · intro task entity h
        obtain ⟨_, hopen, hentity⟩ := Loaded.appendLogForAgent_ok h
        exact ⟨hopen, hentity⟩
  | completeClaimedTaskForAgent taskId nodeId dto =>
      simp only [invokeTask]
      split
      · exact .returned
      · next status hstatus =>
          refine .of_saveNext (by decide) ?_ ?_
          · intro task h
            obtain ⟨_, _, h⟩ := bind_eq_ok.mp h
            exact stored_of_findTask (findTaskForNodeOrFail_ok h).1
          · intro task entity h
            exact (Loaded.completeClaimedTaskForAgent_ok
              (normalizeCompletionStatus_isTerminal hstatus) h).2.2.2
  | completeForAgent taskId nodeId authenticated dto =>
      simp only [invokeTask]
      split
      · exact .returned
      · next status hstatus =>
          refine .of_saveNext (by decide) ?_ ?_
          · intro task h
            obtain ⟨_, _, h⟩ := bind_eq_ok.mp h
            obtain ⟨_, _, h⟩ := bind_eq_ok.mp h
            exact stored_of_findTask (findTaskForNodeOrFail_ok h).1
          · intro task entity h
            exact (Loaded.completeForAgent_ok
              (normalizeCompletionStatus_isTerminal hstatus) h).2.2.2.2
  | requestTaskCancellation taskId workspaceId writable dto =>
      simp only [invokeTask]
      split
      · next task hloaded =>
          exact .cancelNext task writable dto (stored_of_findTask (findOneOrFail_ok hloaded))
      · exact .returned
  | failStaleTasks queuedTimeoutSeconds runningTimeoutSeconds =>
      exact .requeued queuedTimeoutSeconds runningTimeoutSeconds rfl
  | syncLinkedTaskTerminalState taskId succeeded detail =>
      simp only [invokeTask]
      split
      · exact .returned
      · next linkedTask hfind =>
          cases hentity : Loaded.syncLinkedTaskTerminalState now succeeded detail linkedTask with
          | none => exact .returned
          | some entity =>
              exact .saveNext .rollout linkedTask entity [] (stored_of_findTask hfind)
                (Loaded.syncLinkedTaskTerminalState_some hentity).2
                fun _ => ⟨taskId, succeeded, detail, rfl⟩

/-- What is left of a call after a later step: log rows, or the saves of
`failStaleTasks`. -/
theorem resumeTask_next {call next : PendingCall} {now : ℤ} {w : TaskWorld}
    (h : (resumeTask call now w).2 = some next) :
    (∃ logs, next = .logs logs) ∨
      ∃ staleNow stale, next = .staleSave staleNow stale ∧ call.isStale = true := by
  cases call with
  | claimedStart taskId nodeId startedAt =>
      simp only [resumeTask] at h
      split at h <;> cases h
  | startLookup taskId nodeId =>
      simp only [resumeTask] at h
      split at h
      · cases h
      · split at h <;> cases h
  | save kind loaded entity logs =>
      cases h
      exact Or.inl ⟨_, rfl⟩
  | cancel loaded writable dto =>
      cases writable with
      | error _ => cases h
      | ok _ =>
          simp only [resumeTask] at h
          split at h
          · cases h
          · cases h
            exact Or.inl ⟨_, rfl⟩
  | staleSelect staleNow queuedTimeoutSeconds runningTimeoutSeconds =>
      cases h
      exact Or.inr ⟨_, _, rfl, rfl⟩
  | staleSave staleNow stale =>
      cases stale with
      | nil => cases h
      | cons task stale =>
          cases h
          exact Or.inr ⟨_, _, rfl, rfl⟩
  | logs logs => cases h

/-- A save writes the entity over the row it was loaded from. -/
theorem PendingCall.Faithful.entity_id {kind : SaveKind} {loaded entity : TaskEntity}
    {logs : List TaskLogEntity} (h : (PendingCall.save kind loaded entity logs).Faithful) :
    entity.id = loaded.id := by
  cases kind with
  | log => obtain ⟨_, _, rfl⟩ := h; rfl
  | completion => exact Loaded.Finishes.id h
  | rollout => exact Loaded.Finishes.id h

/-- The row was open when the entity was loaded. -/
theorem PendingCall.Faithful.loaded_open {kind : SaveKind} {loaded entity : TaskEntity}
    {logs : List TaskLogEntity} (h : (PendingCall.save kind loaded entity logs).Faithful) :
    loaded.status.isTerminal = false := by
  cases kind with
  | log => exact h.1
  | completion => exact Loaded.Finishes.open_before h
  | rollout => exact Loaded.Finishes.open_before h

end TasksService
