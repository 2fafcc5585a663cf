/-
# Races between task operations

Two properties of the interleaved calls, each with the race that breaks it.

* A finished task stays as it is, in every interleaving in which no save meets a
  task that another call has finished since the load.
* A cancellation that returned reaches the agent, in every interleaving in which
  each save finds the status and the cancellation it had loaded.

Both follow from what a step does to the rows that are over: `FinishedKept`.
-/
import NoderaxApi.TaskCalls

namespace TasksService

open Interleaving Runs

/-! ## Finished rows -/

/-- Every row is still there, and the finished ones are unchanged. -/
def FinishedKept (db db' : TaskTables) : Prop :=
  ∀ id row, db.findTask id = some row →
    ∃ row', db'.findTask id = some row' ∧ (row.status.isTerminal = true → row' = row)

theorem FinishedKept.refl (db : TaskTables) : FinishedKept db db :=
  fun _ row hfind => ⟨row, hfind, fun _ => rfl⟩

theorem FinishedKept.trans {a b c : TaskTables} (hab : FinishedKept a b) (hbc : FinishedKept b c) :
    FinishedKept a c := by
  intro id row hfind
  obtain ⟨row', hfind', hkept⟩ := hab id row hfind
  obtain ⟨row'', hfind'', hkept'⟩ := hbc id row' hfind'
  refine ⟨row'', hfind'', ?_⟩
  intro hterminal
  have hsame : row' = row := hkept hterminal
  subst hsame
  exact hkept' hterminal

/-- Whole operations keep finished rows. -/
theorem LaterTables.finishedKept {db db' : TaskTables} (h : LaterTables db db') :
    FinishedKept db db' := by
  intro id row hfind
  obtain ⟨row', hfind', hlater⟩ := h id row hfind
  exact ⟨row', hfind', hlater.terminal⟩

/-- An UPDATE whose WHERE clause excludes finished rows. -/
theorem finishedKept_updateTasks {db : TaskTables} {p : TaskEntity → Bool}
    {f : TaskEntity → TaskEntity} (hf : ∀ task, (f task).id = task.id)
    (hp : ∀ task, p task = true → task.status.isTerminal = false) :
    FinishedKept db (db.updateTasks p f) := by
  intro id row hfind
  refine ⟨if p row then f row else row, ?_, ?_⟩
  · rw [TaskTables.findTask_updateTasks hf, hfind, Option.map_some]
  · intro hterminal
    refine if_neg ?_
    intro hrow
    rw [hp row hrow] at hterminal
    cases hterminal

/-- A save over a row that is open. -/
theorem finishedKept_saveTask {db : TaskTables} {entity : TaskEntity}
    (hopen : ∀ row ∈ db.findTask entity.id, row.status.isTerminal = false) :
    FinishedKept db (db.saveTask entity) := by
  intro id row hfind
  by_cases hid : id = entity.id
  · refine ⟨entity, ?_, ?_⟩
    · rw [TaskTables.findTask_saveTask, if_pos hid, hfind, Option.map_some]
    · intro hterminal
      rw [hopen row (hid ▸ hfind)] at hterminal
      cases hterminal
  · refine ⟨row, ?_, fun _ => rfl⟩
    rw [TaskTables.findTask_saveTask, if_neg hid, hfind]

/-! ## Steps of calls -/

theorem isStartable_open {taskId nodeId : Uuid} {task : TaskEntity}
    (h : isStartable taskId nodeId task = true) : task.status.isTerminal = false := by
  rw [(isStartable_spec h).2.2]; rfl

theorem isStartableClaim_open {taskId nodeId : Uuid} {task : TaskEntity}
    (h : isStartableClaim taskId nodeId task = true) : task.status.isTerminal = false :=
  TaskStatus.not_isTerminal_of_isLeased (isStartableClaim_spec h).2.2.1

theorem finishedKept_requeue (db : TaskTables) (now : ℤ) :
    FinishedKept db (requeueExpiredLeases db now) := by
  refine finishedKept_updateTasks (fun _ => rfl) ?_
  intro task hp
  exact TaskStatus.not_isTerminal_of_isLeased
    (leaseExpired_isLeased (Bool.and_eq_true_iff.mp hp).1)

/-- The first step of a call keeps finished rows. -/
theorem finishedKept_invoke (request : TaskRequest) (now : ℤ) (w : TaskWorld) :
    FinishedKept w.db (invokeTask request now w).1.db := by
  have h := invokeTask_invoked request now w
  generalize invokeTask request now w = result at h
  cases h with
  | returned => exact .refl w.db
  | alreadyRunning _ _ _ _ => exact .refl w.db
  | startNext _ _ _ => exact .refl w.db
  | started taskId nodeId startedAt _ =>
      exact finishedKept_updateTasks (fun _ => rfl) fun _ => isStartable_open
  | lookupNext _ _ => exact .refl w.db
  | saveNext _ _ _ _ _ _ _ => exact .refl w.db
  | cancelNext _ _ _ _ => exact .refl w.db
  | requeued _ _ _ => exact finishedKept_requeue w.db now

/-- A later step keeps finished rows when the row it saves over is open. -/
theorem finishedKept_resume {call : PendingCall} {now : ℤ} {w : TaskWorld}
    (hfaithful : call.Faithful)
    (hopen : SavesOver (fun _ row => row.status.isTerminal = false) w call now) :
    FinishedKept w.db (resumeTask call now w).1.db := by
  cases call with
  | claimedStart taskId nodeId startedAt =>
      simp only [resumeTask]
      split
      · exact finishedKept_updateTasks (fun _ => rfl) fun _ => isStartableClaim_open
      · exact .refl w.db
  | startLookup taskId nodeId =>
      simp only [resumeTask]
      split
      · exact .refl w.db
      · split <;> exact .refl w.db
  | save kind loaded entity logs =>
      have hid : entity.id = loaded.id := hfaithful.entity_id
      refine finishedKept_saveTask ?_
      rw [hid]
      exact hopen loaded rfl
  | cancel loaded writable dto =>
      cases writable with
      | error _ => exact .refl w.db
      | ok _ =>
          simp only [resumeTask]
          split
          · exact .refl w.db
          · next entity hentity =>
              have hid := Loaded.requestTaskCancellation_id hentity
              have hloaded : ¬ loaded.status.isTerminal = true := by
                rw [← Loaded.requestTaskCancellation_eq_none_iff, hentity]
                exact Option.some_ne_none entity
              refine finishedKept_saveTask ?_
              rw [hid]
              refine hopen loaded ?_
              simp [PendingCall.savesNext, hloaded]
  | staleSelect _ _ _ => exact .refl w.db
  | staleSave staleNow stale =>
      cases stale with
      | nil => exact .refl w.db
      | cons task stale => exact finishedKept_saveTask (hopen task rfl)
  | logs logs => exact .refl w.db

/-! ## Finished tasks stay finished -/

/-- No step saves over a task that is finished by then. -/
def SavesOverOpen : TaskConfig → TaskCallEvent → Prop :=
  ResumeGuard (SavesOver fun _ row => row.status.isTerminal = false)

instance (c : TaskConfig) (e : TaskCallEvent) : Decidable (SavesOverOpen c e) := by
  unfold SavesOverOpen ResumeGuard; infer_instance

/-- A call that has just been started saves over the row it has loaded, which its checks
found open. -/
theorem savesNext_of_invokeTask {request : TaskRequest} {now : ℤ} {w : TaskWorld}
    {call : PendingCall} {loaded : TaskEntity} (hcall : (invokeTask request now w).2 = some call)
    (hsaves : call.savesNext = some loaded) :
    (invokeTask request now w).1.db.findTask loaded.id = some loaded ∧
      loaded.status.isTerminal = false := by
  have hinvoked := invokeTask_invoked request now w
  generalize invokeTask request now w = result at hinvoked hcall
  cases hinvoked <;> cases hcall
  case saveNext kind loaded' entity logs hstored hfaithful hkind =>
    cases hsaves
    exact ⟨hstored, hfaithful.loaded_open⟩
  case cancelNext loaded' writable dto hstored =>
    cases writable with
    | error _ => cases hsaves
    | ok _ =>
        simp only [PendingCall.savesNext] at hsaves
        split at hsaves
        · cases hsaves
        · next hopen =>
            cases hsaves
            exact ⟨hstored, by simpa using hopen⟩
  all_goals cases hsaves

/-- **A row that nobody writes** between its load and its save is saved over while it is
open: the checks after the load have seen to it. -/
theorem savesOverOpen_of_keeps {c : TaskConfig} {es : List TaskCallEvent} {p : ℕ}
    {request : TaskRequest} {call : PendingCall} {now now' : ℤ} (hp : c.pending p = none)
    (hcall : (invokeTask request now c.world).2 = some call)
    (hkeeps : Keeps taskCalls taskEnv
      (fun w => call.savesNext.bind fun loaded => w.db.findTask loaded.id)
      (Interleaving.step taskCalls taskEnv c (.invoke p request now)) es)
    (hes : ∀ e ∈ es, e.caller? ≠ some p) :
    SavesOverOpen (run (Interleaving.step taskCalls taskEnv)
      (Interleaving.step taskCalls taskEnv c (.invoke p request now)) es) (.resume p now') := by
  refine hkeeps.resumeGuard hes fun l hl w hw => ?_
  rw [step_invoke hp] at hl hw
  dsimp only at hl
  rw [Function.update_self] at hl
  obtain rfl : l = call := Option.some.inj (hl.symm.trans hcall)
  intro loaded hloaded row hrow
  obtain ⟨hfind, hopen⟩ := savesNext_of_invokeTask hcall hloaded
  have hsaves : l.savesNext = some loaded := hloaded
  have hsame : w.db.findTask loaded.id = some loaded := by
    rw [hsaves] at hw
    exact hw.trans hfind
  rw [hsame] at hrow
  cases hrow
  exact hopen

/-- A row that `failStaleTasks` has selected and that nobody writes until its turn comes is
saved over while it is open. -/
theorem savesOverOpen_of_keeps_stale {c : TaskConfig} {es : List TaskCallEvent} {p : ℕ}
    {staleNow queuedTimeoutSeconds runningTimeoutSeconds now now' : ℤ} {task : TaskEntity}
    {stale : List TaskEntity} (hkeys : (c.world.db.tasks.map TaskEntity.id).Nodup)
    (hp : c.pending p = some (.staleSelect staleNow queuedTimeoutSeconds runningTimeoutSeconds))
    (htask : task ∈ c.world.db.tasks)
    (hselected :
      isStale staleNow c.world.db.nodes queuedTimeoutSeconds runningTimeoutSeconds task = true)
    (hkeeps : Keeps taskCalls taskEnv (fun w => w.db.findTask task.id)
      (Interleaving.step taskCalls taskEnv c (.resume p now)) es)
    (hturn : (run (Interleaving.step taskCalls taskEnv)
      (Interleaving.step taskCalls taskEnv c (.resume p now)) es).pending p
        = some (.staleSave staleNow (task :: stale))) :
    SavesOverOpen (run (Interleaving.step taskCalls taskEnv)
      (Interleaving.step taskCalls taskEnv c (.resume p now)) es) (.resume p now') := by
  have hself : c.world.db.findTask task.id = some task := KeyedTable.find_of_mem hkeys htask
  have hworld : (Interleaving.step taskCalls taskEnv c (.resume p now)).world = c.world := by
    rw [step_resume hp]
    rfl
  have hsame := hkeeps.world_eq
  rw [hworld, hself] at hsame
  refine (ResumeGuard.resume_iff hturn now').mpr fun loaded hloaded row hrow => ?_
  cases hloaded
  rw [hsame] at hrow
  cases hrow
  exact not_isTerminal_of_isStale hselected

/-- The pending saves hold what their loads and checks led to. -/
theorem faithful_outline :
    Outline taskCalls taskEnv (fun _ _ _ => True)
      (SavesOver fun _ row => row.status.isTerminal = false) (fun _ _ => True)
      (fun _ => True) (fun _ call => call.Faithful) where
  invoke := by
    intro w request now _ _
    refine ⟨trivial, ?_⟩
    have h := invokeTask_invoked request now w
    show ∀ call, (invokeTask request now w).2 = some call → call.Faithful
    generalize invokeTask request now w = result at h
    intro call hcall
    cases h <;> cases hcall
    case saveNext hstored hfaithful hkind => exact hfaithful
    all_goals trivial
  resume := by
    intro w call now _ _ _
    refine ⟨trivial, ?_⟩
    show ∀ next, (resumeTask call now w).2 = some next → next.Faithful
    intro next hnext
    rcases resumeTask_next hnext with ⟨logs, rfl⟩ | ⟨staleNow, stale, rfl, _⟩ <;> trivial
  environment := fun _ _ => trivial
  invoke_stable := fun _ _ h => h
  resume_stable := fun _ _ _ h => h
  environment_stable := fun _ _ h => h

/-- **Finished tasks stay finished.**  In every interleaving in which no save
meets a task that has been finished since it was loaded, the status of a finished
task and its finish time never change again. -/
theorem finished_task_absorbing (w : TaskWorld) (es es' : List TaskCallEvent)
    (hes : Along (Interleaving.step taskCalls taskEnv) SavesOverOpen (Config.idle w) (es ++ es'))
    (id : Uuid) (row : TaskEntity) (hfind : (interleave w es).world.db.findTask id = some row)
    (hterminal : row.status.isTerminal = true) :
    ∃ row', (interleave w (es ++ es')).world.db.findTask id = some row' ∧
      row'.status = row.status ∧ row'.finishedAt = row.finishedAt := by
  obtain ⟨hbefore, hsuffix⟩ := along_append.mp hes
  have hmid := faithful_outline.run (good_idle trivial) hbefore
  have hkept : FinishedKept (interleave w es).world.db (interleave w (es ++ es')).world.db := by
    unfold interleave
    rw [run_append]
    refine faithful_outline.rel_run (R := fun w w' => FinishedKept w.db w'.db)
      (fun w => .refl w.db) ?_ ?_ ?_ ?_ hmid hsuffix
    · intro a b c hab hbc
      exact FinishedKept.trans hab hbc
    · intro w request now _ _
      exact finishedKept_invoke request now w
    · intro w call now _ hfaithful hopen
      exact finishedKept_resume hfaithful hopen
    · intro w e _ _
      exact (taskStep_later w.db e).finishedKept
  obtain ⟨row', hfind', hsame⟩ := hkept id row hfind
  have hrow : row' = row := hsame hterminal
  exact ⟨row', hfind', by rw [hrow], by rw [hrow]⟩

/-- A task row for the runs below. -/
def sampleTask (status : TaskStatus) : TaskEntity :=
  { id := "t1", workspaceId := "w1", nodeId := "n1", type := "shell.exec", status := status,
    createdAt := 0 }

/-- A queued task, cancelled, and a log line that comes too late. -/
theorem finished_task_absorbing_cancelled :
    ∃ row row',
      (interleave { db := { tasks := [sampleTask .queued] } }
        [.invoke 0 (.requestTaskCancellation "t1" none (.ok ()) {}) 10,
          .resume 0 20]).world.db.findTask "t1" = some row ∧
      (interleave { db := { tasks := [sampleTask .queued] } }
        ([.invoke 0 (.requestTaskCancellation "t1" none (.ok ()) {}) 10, .resume 0 20] ++
          [.invoke 1 (.appendLogForAgent "t1" "n1" (.ok ()) { message := some "line" }) 30,
            .resume 1 40])).world.db.findTask "t1" = some row' ∧
      row'.status = row.status ∧ row'.finishedAt = row.finishedAt := by
  have hrow : ((interleave { db := { tasks := [sampleTask .queued] } }
      [.invoke 0 (.requestTaskCancellation "t1" none (.ok ()) {}) 10,
        .resume 0 20]).world.db.findTask "t1").map (·.status) = some .cancelled := by
    decide
  obtain ⟨row, hfind, hstatus⟩ := Option.map_eq_some_iff.mp hrow
  obtain ⟨row', hfind', hsame⟩ := finished_task_absorbing _ _
    [.invoke 1 (.appendLogForAgent "t1" "n1" (.ok ()) { message := some "line" }) 30, .resume 1 40]
    (by decide) "t1" row hfind (by rw [hstatus]; rfl)
  exact ⟨row, row', hfind, hfind', hsame⟩

/-- A log line, loaded while the task runs and saved after its completion, puts
the finished task back to RUNNING. -/
theorem finished_task_resurrected :
    ¬ ∀ (w : TaskWorld) (es es' : List TaskCallEvent) (id : Uuid) (row : TaskEntity),
      (interleave w es).world.db.findTask id = some row → row.status.isTerminal = true →
        ∃ row', (interleave w (es ++ es')).world.db.findTask id = some row' ∧
          row'.status = row.status ∧ (row.finishedAt ≠ none → row'.finishedAt ≠ none) := by
  intro hall
  have hbefore : ((interleave { db := { tasks := [sampleTask .running] } }
      [.invoke 0 (.appendClaimedTaskLogForAgent "t1" "n1" { stream := "stdout", line := "x" }) 10,
        .invoke 1 (.completeClaimedTaskForAgent "t1" "n1" { status := "success" }) 20,
        .resume 1 30]).world.db.findTask "t1").map (·.status) = some .success := by
    decide
  have hafter : ((interleave { db := { tasks := [sampleTask .running] } }
      ([.invoke 0 (.appendClaimedTaskLogForAgent "t1" "n1" { stream := "stdout", line := "x" }) 10,
        .invoke 1 (.completeClaimedTaskForAgent "t1" "n1" { status := "success" }) 20,
        .resume 1 30] ++ [.resume 0 40])).world.db.findTask "t1").map (·.status)
          = some .running := by
    decide
  obtain ⟨row, hfind, hstatus⟩ := Option.map_eq_some_iff.mp hbefore
  obtain ⟨row', hfind', hsame, _⟩ := hall _ _ [.resume 0 40] "t1" row hfind (by rw [hstatus]; rfl)
  rw [hfind', Option.map_some, hsame, hstatus] at hafter
  cases hafter

/-! ## A cancellation reaches the agent -/

/-- A request of the operator or of the agent, as opposed to the background
jobs. -/
def TaskRequest.isForeground : TaskRequest → Bool
  | .failStaleTasks .. | .syncLinkedTaskTerminalState .. => false
  | _ => true

/-- Every save finds the status and the cancellation time that it had loaded;
apart from the calls of the operator and the agents, only the queue moves. -/
def SavesOverLoaded : TaskConfig → TaskCallEvent → Prop :=
  Guard (fun _ request _ => request.isForeground = true)
    (SavesOver fun loaded row =>
      row.status = loaded.status ∧ row.cancelRequestedAt = loaded.cancelRequestedAt)
    (fun _ e => e.isQueueEvent = true)

instance (c : TaskConfig) (e : TaskCallEvent) : Decidable (SavesOverLoaded c e) := by
  unfold SavesOverLoaded; infer_instance

/-- The history and the rows agree: a started task runs until its completion is
stored, and a cancelled one is over or carries the cancellation. -/
structure CancelInv (w : TaskWorld) : Prop where
  started : ∀ id ∈ w.startSucceeded, ∃ row, w.db.findTask id = some row ∧ row.status.rank ≠ 0
  running : ∀ id ∈ w.startSucceeded, id ∉ w.terminalReported →
    ∀ row, w.db.findTask id = some row → row.status = .running
  cancelled : ∀ id ∈ w.cancelReturned, ∃ row, w.db.findTask id = some row ∧ row.status.rank ≠ 0 ∧
    (row.status = .running → row.cancelRequestedAt ≠ none)

/-- The row that was loaded is still there, and still finished if it was. -/
def StillThere (db : TaskTables) (loaded : TaskEntity) : Prop :=
  ∃ row, db.findTask loaded.id = some row ∧
    (loaded.status.isTerminal = true → row.status.isTerminal = true)

theorem Stored.stillThere {db : TaskTables} {loaded : TaskEntity} (h : Stored db loaded) :
    StillThere db loaded :=
  ⟨loaded, h, fun hterminal => hterminal⟩

theorem StillThere.stable {db db' : TaskTables} {loaded : TaskEntity} (hkept : FinishedKept db db')
    (h : StillThere db loaded) : StillThere db' loaded := by
  obtain ⟨row, hfind, hterminal⟩ := h
  obtain ⟨row', hfind', hsame⟩ := hkept loaded.id row hfind
  refine ⟨row', hfind', ?_⟩
  intro hloaded
  have hrow : row' = row := hsame (hterminal hloaded)
  rw [hrow]
  exact hterminal hloaded

/-- What is known of a pending call: it is not one of the background jobs, and
the row it loaded is still there. -/
def CallInv (w : TaskWorld) (call : PendingCall) : Prop :=
  call.Faithful ∧
    match call with
    | .save kind loaded _ _ => kind ≠ .rollout ∧ StillThere w.db loaded
    | .cancel loaded _ _ => StillThere w.db loaded
    | .staleSelect .. | .staleSave .. => False
    | _ => True

/-- A pending call's assertion survives whatever keeps finished rows. -/
theorem CallInv.stable {w w' : TaskWorld} {call : PendingCall} (hkept : FinishedKept w.db w'.db)
    (h : CallInv w call) : CallInv w' call := by
  obtain ⟨hfaithful, hcall⟩ := h
  refine ⟨hfaithful, ?_⟩
  cases call with
  | save kind loaded entity logs => exact ⟨hcall.1, hcall.2.stable hkept⟩
  | cancel loaded writable dto => exact hcall.stable hkept
  | staleSelect _ _ _ => exact hcall
  | staleSave _ _ => exact hcall
  | _ => trivial

/-- Rows that wait may change at will. -/
def WaitingOnly (db db' : TaskTables) : Prop :=
  ∀ id row, db.findTask id = some row → row.status.rank ≠ 0 → db'.findTask id = some row

/-- The history agrees with the rows when only waiting rows changed. -/
theorem CancelInv.of_waitingOnly {w w' : TaskWorld} (hrows : WaitingOnly w.db w'.db)
    (hstart : w'.startSucceeded = w.startSucceeded)
    (hcancel : w'.cancelReturned = w.cancelReturned)
    (hreport : w'.terminalReported = w.terminalReported) (h : CancelInv w) : CancelInv w' := by
  refine ⟨?_, ?_, ?_⟩
  · intro id hid
    rw [hstart] at hid
    obtain ⟨row, hfind, hrank⟩ := h.started id hid
    exact ⟨row, hrows id row hfind hrank, hrank⟩
  · intro id hid hopen row' hfind'
    rw [hstart] at hid
    rw [hreport] at hopen
    obtain ⟨row, hfind, hrank⟩ := h.started id hid
    rw [hrows id row hfind hrank] at hfind'
    cases hfind'
    exact h.running id hid hopen _ hfind
  · intro id hid
    rw [hcancel] at hid
    obtain ⟨row, hfind, hrank, hflag⟩ := h.cancelled id hid
    exact ⟨row, hrows id row hfind hrank, hrank, hflag⟩

/-- A start that succeeded made its task RUNNING. -/
theorem CancelInv.start {w : TaskWorld} {id : Uuid} {row : TaskEntity} (h : CancelInv w)
    (hfind : w.db.findTask id = some row) (hrunning : row.status = .running) :
    CancelInv { w with startSucceeded := id :: w.startSucceeded } := by
  refine ⟨?_, ?_, h.cancelled⟩
  · intro id' hid'
    rcases List.mem_cons.mp hid' with rfl | hold
    · exact ⟨row, hfind, by rw [hrunning]; decide⟩
    · exact h.started id' hold
  · intro id' hid' hopen row' hfind'
    rcases List.mem_cons.mp hid' with rfl | hold
    · change w.db.findTask id' = some row' at hfind'
      rw [hfind] at hfind'
      cases hfind'
      exact hrunning
    · exact h.running id' hold hopen row' hfind'

/-- An UPDATE that only meets waiting rows. -/
theorem waitingOnly_updateTasks {db : TaskTables} {p : TaskEntity → Bool}
    {f : TaskEntity → TaskEntity} (hf : ∀ task, (f task).id = task.id)
    (hp : ∀ task, p task = true → task.status.rank = 0) : WaitingOnly db (db.updateTasks p f) := by
  intro id row hfind hrank
  rw [TaskTables.findTask_updateTasks hf, hfind, Option.map_some]
  congr 1
  refine if_neg ?_
  intro hrow
  exact hrank (hp row hrow)

/-- A conditional start, on either path: it makes waiting rows RUNNING. -/
theorem CancelInv.startUpdate {w : TaskWorld} {taskId : Uuid} {p : TaskEntity → Bool}
    {f : TaskEntity → TaskEntity} (hf : ∀ task, (f task).id = task.id)
    (hp : ∀ task, p task = true → task.status.rank = 0) (hfr : ∀ task, (f task).status = .running)
    (hmatch : (w.db.findTask taskId).any p = true) (h : CancelInv w) :
    CancelInv { w with
      db := w.db.updateTasks p f
      startSucceeded := taskId :: w.startSucceeded } := by
  obtain ⟨row, hfind, hrow⟩ := (Option.any_eq_true _ _).mp hmatch
  have hmoved : CancelInv { w with db := w.db.updateTasks p f } :=
    h.of_waitingOnly (waitingOnly_updateTasks hf hp) rfl rfl rfl
  have hafter : (w.db.updateTasks p f).findTask taskId = some (f row) := by
    rw [TaskTables.findTask_updateTasks hf, hfind, Option.map_some, if_pos hrow]
  exact hmoved.start hafter (hfr row)

/-- A save over a row: what is known of the row and of the saved entity, for the
task that is saved, and nothing new for the others. -/
theorem CancelInv.save {w w' : TaskWorld} {entity row : TaskEntity} (h : CancelInv w)
    (hdb : w'.db = w.db.saveTask entity) (hfind : w.db.findTask entity.id = some row)
    (hstart : w'.startSucceeded = w.startSucceeded)
    (hrank : row.status.rank ≠ 0 → entity.status.rank ≠ 0)
    (hrunning : entity.id ∈ w.startSucceeded → entity.id ∉ w'.terminalReported →
      entity.status = .running)
    (hreport : ∀ id ∈ w.terminalReported, id ∈ w'.terminalReported)
    (hcancel : ∀ id ∈ w'.cancelReturned, id ∈ w.cancelReturned ∨ id = entity.id)
    (hentity : entity.id ∈ w'.cancelReturned → entity.status.rank ≠ 0 ∧
      (entity.status = .running → entity.cancelRequestedAt ≠ none)) : CancelInv w' := by
  have hself : w'.db.findTask entity.id = some entity := by
    rw [hdb, TaskTables.findTask_saveTask, if_pos rfl, hfind, Option.map_some]
  have hother : ∀ id, id ≠ entity.id → w'.db.findTask id = w.db.findTask id := by
    intro id hne
    rw [hdb, TaskTables.findTask_saveTask, if_neg hne]
  refine ⟨?_, ?_, ?_⟩
  · intro id hid
    rw [hstart] at hid
    obtain ⟨old, hold, holdRank⟩ := h.started id hid
    by_cases hsame : id = entity.id
    · rw [hsame] at hold ⊢
      rw [hfind] at hold
      cases hold
      exact ⟨entity, hself, hrank holdRank⟩
    · exact ⟨old, by rw [hother id hsame]; exact hold, holdRank⟩
  · intro id hid hopen row' hfind'
    rw [hstart] at hid
    by_cases hsame : id = entity.id
    · rw [hsame] at hid hopen hfind'
      rw [hself] at hfind'
      cases hfind'
      exact hrunning hid hopen
    · rw [hother id hsame] at hfind'
      exact h.running id hid (fun hrep => hopen (hreport id hrep)) row' hfind'
  · intro id hid
    by_cases hsame : id = entity.id
    · rw [hsame] at hid ⊢
      exact ⟨entity, hself, hentity hid⟩
    · obtain ⟨old, hold, hrest⟩ := h.cancelled id ((hcancel id hid).resolve_right hsame)
      exact ⟨old, by rw [hother id hsame]; exact hold, hrest⟩

/-! ### The saves of the three operations -/

/-- A log line keeps the status and the cancellation that the row has. -/
theorem CancelInv.saveLog {w : TaskWorld} {loaded entity row : TaskEntity} (h : CancelInv w)
    (houtput : Loaded.OutputOnly loaded entity) (hfind : w.db.findTask entity.id = some row)
    (hstatus : row.status = loaded.status)
    (hcancelAt : row.cancelRequestedAt = loaded.cancelRequestedAt) :
    CancelInv { w with db := w.db.saveTask entity } := by
  obtain ⟨output, rfl⟩ := houtput
  refine h.save rfl hfind rfl ?_ ?_ (fun _ hid => hid) (fun _ hid => Or.inl hid) ?_
  · rw [hstatus]
    exact id
  · intro hid hopen
    rw [← hstatus]
    exact h.running _ hid hopen row hfind
  · intro hid
    obtain ⟨row', hfind', hrank, hflag⟩ := h.cancelled _ hid
    rw [hfind] at hfind'
    cases hfind'
    rw [hstatus] at hrank hflag
    rw [hcancelAt] at hflag
    exact ⟨hrank, hflag⟩

/-- A completion stores a terminal status, and reports it. -/
theorem CancelInv.saveCompletion {w : TaskWorld} {loaded entity row : TaskEntity} (h : CancelInv w)
    (hfinishes : Loaded.Finishes loaded entity) (hfind : w.db.findTask entity.id = some row) :
    CancelInv { w with
      db := w.db.saveTask entity
      terminalReported := entity.id :: w.terminalReported } := by
  have hover : entity.status.rank = 2 :=
    entity.status.isTerminal_iff_rank.mp (Loaded.Finishes.terminal hfinishes)
  refine h.save rfl hfind rfl ?_ ?_ ?_ (fun _ hid => Or.inl hid) ?_
  · intro _
    omega
  · intro _ hopen
    exact absurd List.mem_cons_self hopen
  · intro id hid
    exact List.mem_cons_of_mem _ hid
  · intro _
    refine ⟨by omega, ?_⟩
    intro hrunning
    rw [hrunning] at hover
    cases hover

/-- A cancellation that finds its task over only returns. -/
theorem CancelInv.cancelOver {w : TaskWorld} {id : Uuid} {row : TaskEntity} (h : CancelInv w)
    (hfind : w.db.findTask id = some row) (hterminal : row.status.isTerminal = true) :
    CancelInv { w with cancelReturned := id :: w.cancelReturned } := by
  rw [TaskStatus.isTerminal_iff_rank] at hterminal
  refine ⟨h.started, h.running, ?_⟩
  intro id' hid'
  rcases List.mem_cons.mp hid' with rfl | hold
  · refine ⟨row, hfind, by omega, ?_⟩
    intro hrunning
    rw [hrunning] at hterminal
    cases hterminal
  · exact h.cancelled id' hold

/-- A cancellation ends a waiting task and marks a running one. -/
theorem CancelInv.saveCancellation {w : TaskWorld} {now : ℤ} {dto : RequestTaskCancelDto}
    {loaded entity row : TaskEntity} (h : CancelInv w)
    (hentity : Loaded.requestTaskCancellation now dto loaded = some entity)
    (hfind : w.db.findTask entity.id = some row) (hstatus : row.status = loaded.status) :
    CancelInv { w with
      db := w.db.saveTask entity
      cancelReturned := entity.id :: w.cancelReturned } := by
  obtain ⟨-, hcase⟩ := Loaded.requestTaskCancellation_some hentity
  refine h.save rfl hfind rfl ?_ ?_ (fun _ hid => hid) ?_ ?_
  · rcases hcase with ⟨hwaiting, _⟩ | ⟨_, reason, rfl⟩
    · rw [hstatus, hwaiting]
      exact fun hne => absurd rfl hne
    · rw [hstatus]
      exact fun hne => hne
  · intro hstarted hreported
    rcases hcase with ⟨hwaiting, _⟩ | ⟨hrunning, reason, rfl⟩
    · -- a started task does not wait
      obtain ⟨row', hfind', hrank⟩ := h.started _ hstarted
      rw [hfind] at hfind'
      cases hfind'
      rw [hstatus, hwaiting] at hrank
      exact absurd rfl hrank
    · exact hrunning
  · intro id hmem
    rcases List.mem_cons.mp hmem with rfl | hold
    · exact Or.inr rfl
    · exact Or.inl hold
  · intro _
    rcases hcase with ⟨_, hcancelled, _⟩ | ⟨hrunning, reason, rfl⟩
    · rw [hcancelled]
      exact ⟨by decide, fun hr => by cases hr⟩
    · refine ⟨?_, fun _ => Option.some_ne_none now⟩
      show loaded.status.rank ≠ 0
      rw [hrunning]
      decide

/-! ### The proof outline -/

/-- The first step of a foreground call. -/
theorem cancelInv_invoke {w : TaskWorld} {request : TaskRequest} {now : ℤ} (h : CancelInv w)
    (hforeground : request.isForeground = true) :
    CancelInv (invokeTask request now w).1 ∧
      ∀ call, (invokeTask request now w).2 = some call →
        CallInv (invokeTask request now w).1 call := by
  have hstep := invokeTask_invoked request now w
  generalize invokeTask request now w = result at hstep
  cases hstep with
  | returned => exact ⟨h, fun _ hcall => by cases hcall⟩
  | alreadyRunning taskId task hfind hrunning =>
      exact ⟨h.start hfind hrunning, fun _ hcall => by cases hcall⟩
  | startNext _ _ _ => exact ⟨h, fun _ hcall => by cases hcall; exact ⟨trivial, trivial⟩⟩
  | started taskId nodeId startedAt hmatch =>
      refine ⟨h.startUpdate (fun _ => rfl) ?_ (fun _ => rfl) hmatch, fun _ hcall => by cases hcall⟩
      intro task hp
      rw [(isStartable_spec hp).2.2]
      rfl
  | lookupNext _ _ => exact ⟨h, fun _ hcall => by cases hcall; exact ⟨trivial, trivial⟩⟩
  | saveNext kind loaded entity logs hstored hfaithful hkind =>
      refine ⟨h, ?_⟩
      rintro _ ⟨⟩
      refine ⟨hfaithful, ?_, hstored.stillThere⟩
      intro hrollout
      obtain ⟨_, _, _, hrequest⟩ := hkind hrollout
      rw [hrequest] at hforeground
      cases hforeground
  | cancelNext loaded writable dto hstored =>
      refine ⟨h, ?_⟩
      rintro _ ⟨⟩
      exact ⟨trivial, hstored.stillThere⟩
  | requeued _ _ hrequest =>
      rw [hrequest] at hforeground
      cases hforeground

/-- A later step of a foreground call whose save finds what it had loaded. -/
theorem cancelInv_resume {w : TaskWorld} {call : PendingCall} {now : ℤ} (h : CancelInv w)
    (hcall : CallInv w call)
    (hfresh : SavesOver (fun loaded row =>
      row.status = loaded.status ∧ row.cancelRequestedAt = loaded.cancelRequestedAt) w call now) :
    CancelInv (resumeTask call now w).1 := by
  obtain ⟨hfaithful, hcall⟩ := hcall
  cases call with
  | claimedStart taskId nodeId startedAt =>
      simp only [resumeTask]
      split
      · next hmatch =>
          refine h.startUpdate (fun _ => rfl) ?_ (fun _ => rfl) hmatch
          intro task hp
          exact TaskStatus.rank_of_isLeased (isStartableClaim_spec hp).2.2.1
      · exact h
  | startLookup taskId nodeId =>
      simp only [resumeTask]
      split
      · exact h
      · next task hfind =>
          split
          · next hrunning => exact h.start hfind hrunning.2
          · exact h
  | save kind loaded entity logs =>
      obtain ⟨hkind, row, hfind, _⟩ := hcall
      obtain ⟨hstatus, hcancelAt⟩ := hfresh loaded rfl row hfind
      rw [← hfaithful.entity_id] at hfind
      cases kind with
      | log => exact h.saveLog hfaithful.2 hfind hstatus hcancelAt
      | completion => exact h.saveCompletion hfaithful hfind
      | rollout => exact absurd rfl hkind
  | cancel loaded writable dto =>
      cases writable with
      | error _ => exact h
      | ok _ =>
          simp only [resumeTask]
          obtain ⟨row, hfind, hterminal⟩ := hcall
          split
          · next hnone =>
              -- the task was over when it was loaded, so it still is
              exact h.cancelOver hfind
                (hterminal (Loaded.requestTaskCancellation_eq_none_iff.mp hnone))
          · next entity hentity =>
              have hopen : ¬ loaded.status.isTerminal = true := by
                rw [← Loaded.requestTaskCancellation_eq_none_iff, hentity]
                exact Option.some_ne_none entity
              have hsaves : (PendingCall.cancel loaded (.ok ()) dto).savesNext = some loaded := by
                simp [PendingCall.savesNext, hopen]
              obtain ⟨hstatus, -⟩ := hfresh loaded hsaves row hfind
              rw [← Loaded.requestTaskCancellation_id hentity] at hfind ⊢
              exact h.saveCancellation hentity hfind hstatus
  | staleSelect _ _ _ => exact hcall.elim
  | staleSave _ _ => exact hcall.elim
  | logs logs => exact ⟨h.started, h.running, h.cancelled⟩

/-- A save that finds what it had loaded is a save over an open row. -/
theorem savesOverOpen_of_loaded {w : TaskWorld} {call : PendingCall} {now : ℤ}
    (hfaithful : call.Faithful) (hstale : call.isStale = false)
    (hfresh : SavesOver (fun loaded row =>
      row.status = loaded.status ∧ row.cancelRequestedAt = loaded.cancelRequestedAt) w call now) :
    SavesOver (fun _ row => row.status.isTerminal = false) w call now := by
  intro loaded hloaded row hfind
  rw [(hfresh loaded hloaded row hfind).1]
  cases call with
  | save kind _ entity logs => cases hloaded; exact hfaithful.loaded_open
  | cancel _ writable dto =>
      cases writable with
      | error _ => cases hloaded
      | ok _ =>
          simp only [PendingCall.savesNext] at hloaded
          split at hloaded
          · cases hloaded
          · next hopen => cases hloaded; simpa using hopen
  | staleSelect _ _ _ => cases hstale
  | staleSave _ _ => cases hstale
  | _ => cases hloaded

theorem CallInv.not_stale {w : TaskWorld} {call : PendingCall} (h : CallInv w call) :
    call.isStale = false := by
  obtain ⟨_, hcall⟩ := h
  cases call with
  | staleSelect _ _ _ => exact hcall.elim
  | staleSave _ _ => exact hcall.elim
  | _ => rfl

/-- The proof outline behind the cancellation. -/
theorem cancel_outline :
    Outline taskCalls taskEnv (fun _ request _ => request.isForeground = true)
      (SavesOver fun loaded row =>
        row.status = loaded.status ∧ row.cancelRequestedAt = loaded.cancelRequestedAt)
      (fun _ e => e.isQueueEvent = true) CancelInv CallInv where
  invoke := fun h hforeground => cancelInv_invoke h hforeground
  resume := by
    intro w call now h hcall hfresh
    refine ⟨cancelInv_resume h hcall hfresh, ?_⟩
    intro next hnext
    rcases resumeTask_next hnext with ⟨logs, rfl⟩ | ⟨_, _, _, hstale⟩
    · exact ⟨trivial, trivial⟩
    · rw [hcall.not_stale] at hstale
      cases hstale
  environment := by
    intro w e h he
    have hrows : WaitingOnly w.db (taskEnv e w).db := by
      intro id row hfind hrank
      have hrow := taskStep_row w.db e id
      rw [hfind] at hrow
      obtain ⟨row', hfind', hstep⟩ := hrow
      rw [hstep.eq_of_isQueueEvent he hrank] at hfind'
      exact hfind'
    exact h.of_waitingOnly hrows rfl rfl rfl
  invoke_stable := fun _ _ hcall => hcall.stable (finishedKept_invoke _ _ _)
  resume_stable := by
    intro w call now other _ hcall hfresh hother
    exact hother.stable (finishedKept_resume hcall.1
      (savesOverOpen_of_loaded hcall.1 hcall.not_stale hfresh))
  environment_stable := fun _ _ hcall => hcall.stable (taskStep_later _ _).finishedKept

/-- **A cancellation reaches the agent.**  In every interleaving in which each
save finds the status and the cancellation that it had loaded: if a cancellation
of a task has returned and its start has succeeded, every control poll of its
node before the completion is stored answers that the cancellation is
requested. -/
theorem cancellation_reaches_agent (db : TaskTables) (es : List TaskCallEvent)
    (hes : Along (Interleaving.step taskCalls taskEnv) SavesOverLoaded
      (Config.idle { db := db }) es)
    (id : Uuid) (hcancel : id ∈ (interleave { db := db } es).world.cancelReturned)
    (hstart : id ∈ (interleave { db := db } es).world.startSucceeded)
    (hreport : id ∉ (interleave { db := db } es).world.terminalReported) :
    ∃ row control, (interleave { db := db } es).world.db.findTask id = some row ∧
      getTaskControlForAgent (interleave { db := db } es).world.db id row.nodeId = .ok control ∧
      control.cancelRequested = true := by
  have hinit : CancelInv { db := db } := by
    refine ⟨?_, ?_, ?_⟩ <;> intro id hid <;> cases hid
  have hinv : CancelInv (interleave { db := db } es).world :=
    (cancel_outline.run (good_idle hinit) hes).1
  obtain ⟨row, hfind, _, hflag⟩ := hinv.cancelled id hcancel
  have hrunning : row.status = .running := hinv.running id hstart hreport row hfind
  have hsome : row.cancelRequestedAt.isSome = true :=
    Option.isSome_iff_ne_none.mpr (hflag hrunning)
  refine ⟨row, taskControl row, hfind, getTaskControlForAgent_eq hfind, ?_⟩
  simp [taskControl, hrunning, hsome]

/-- A running task, started and cancelled: the next poll says so. -/
theorem cancellation_reaches_agent_running :
    ∃ row control,
      (interleave { db := { tasks := [sampleTask .queued] } }
        [.invoke 0 (.startForAgent "t1" "n1" (.ok ()) {}) 10,
          .invoke 1 (.requestTaskCancellation "t1" none (.ok ()) {}) 20,
          .resume 1 30]).world.db.findTask "t1" = some row ∧
      getTaskControlForAgent (interleave { db := { tasks := [sampleTask .queued] } }
        [.invoke 0 (.startForAgent "t1" "n1" (.ok ()) {}) 10,
          .invoke 1 (.requestTaskCancellation "t1" none (.ok ()) {}) 20,
          .resume 1 30]).world.db "t1" row.nodeId = .ok control ∧
      control.cancelRequested = true :=
  cancellation_reaches_agent { tasks := [sampleTask .queued] }
    [.invoke 0 (.startForAgent "t1" "n1" (.ok ()) {}) 10,
      .invoke 1 (.requestTaskCancellation "t1" none (.ok ()) {}) 20, .resume 1 30]
    (by decide) "t1" (by decide) (by decide) (by decide)

/-- A cancellation that loads the task before its start and saves it after
turns the running task into CANCELLED, and the agent is not told to stop. -/
theorem cancellation_lost :
    ¬ ∀ (db : TaskTables) (es : List TaskCallEvent) (id : Uuid),
      id ∈ (interleave { db := db } es).world.cancelReturned →
      id ∈ (interleave { db := db } es).world.startSucceeded →
      id ∉ (interleave { db := db } es).world.terminalReported →
      ∀ row control, (interleave { db := db } es).world.db.findTask id = some row →
        getTaskControlForAgent (interleave { db := db } es).world.db id row.nodeId = .ok control →
        control.cancelRequested = true := by
  intro hall
  have hrow : ((interleave { db := { tasks := [sampleTask .queued] } }
      [.invoke 1 (.requestTaskCancellation "t1" none (.ok ()) {}) 10,
        .invoke 0 (.startForAgent "t1" "n1" (.ok ()) {}) 20,
        .resume 1 30]).world.db.findTask "t1").map (·.nodeId) = some "n1" := by
    decide
  have hanswer : (getTaskControlForAgent (interleave { db := { tasks := [sampleTask .queued] } }
      [.invoke 1 (.requestTaskCancellation "t1" none (.ok ()) {}) 10,
        .invoke 0 (.startForAgent "t1" "n1" (.ok ()) {}) 20,
        .resume 1 30]).world.db "t1" "n1").map (·.cancelRequested) = .ok false := by
    decide
  obtain ⟨row, hfind, hnode⟩ := Option.map_eq_some_iff.mp hrow
  cases hcontrol : getTaskControlForAgent (interleave { db := { tasks := [sampleTask .queued] } }
      [.invoke 1 (.requestTaskCancellation "t1" none (.ok ()) {}) 10,
        .invoke 0 (.startForAgent "t1" "n1" (.ok ()) {}) 20,
        .resume 1 30]).world.db "t1" "n1" with
  | error _ => rw [hcontrol] at hanswer; cases hanswer
  | ok control =>
      rw [hcontrol] at hanswer
      have hfalse : control.cancelRequested = false := Except.ok.inj hanswer
      have htrue := hall { tasks := [sampleTask .queued] }
        [.invoke 1 (.requestTaskCancellation "t1" none (.ok ()) {}) 10,
          .invoke 0 (.startForAgent "t1" "n1" (.ok ()) {}) 20, .resume 1 30]
        "t1" (by decide) (by decide) (by decide) row control hfind (by rw [hnode]; exact hcontrol)
      rw [hfalse] at htrue
      cases htrue

end TasksService
