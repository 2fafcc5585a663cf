/-
# Requeued tasks and the stale detection

`failStaleTasks` first returns the tasks with an expired lease to the queue and then fails the
tasks that are too old.  The age of a queued task is counted from its creation, not from its
return to the queue: a task that is requeued at that age is failed in the same pass.
-/
import NoderaxApi.TaskMachine

namespace TasksService

/-! ## One pass -/

/-- The first statement of the pass returns the task to the queue. -/
def isRequeued (db : TaskTables) (now : ℤ) (task : TaskEntity) : Bool :=
  leaseExpired now task && nodeInService db.nodes task.nodeId

/-- The task was created before the deadline of the queue. -/
def queuedTooLong (now queuedTimeoutSeconds : ℤ) (task : TaskEntity) : Bool :=
  task.createdAt ≤ now - max queuedTimeoutSeconds 5 * 1000

/-- The task is queued or running, and longer than a task may be. -/
def DeadlinePassed (now queuedTimeoutSeconds runningTimeoutSeconds : ℤ) (task : TaskEntity) :
    Prop :=
  (task.status = .queued ∧ queuedTooLong now queuedTimeoutSeconds task = true) ∨
    (task.status = .running ∧ ∃ startedAt, task.startedAt = some startedAt ∧
      startedAt ≤ now - max runningTimeoutSeconds 10 * 1000)

/-- **What a pass should do**: a task that it requeues is queued at its end, and a task that it
fails had passed its deadline before. -/
structure PassSound (db : TaskTables) (now queuedTimeoutSeconds runningTimeoutSeconds : ℤ) :
    Prop where
  requeued : ∀ id task, db.findTask id = some task → isRequeued db now task = true →
    ∃ after, (failStaleTasks db now queuedTimeoutSeconds runningTimeoutSeconds).findTask id
      = some after ∧ after.status = .queued
  failed : ∀ id task after, db.findTask id = some task →
    (failStaleTasks db now queuedTimeoutSeconds runningTimeoutSeconds).findTask id = some after →
    after.status = .failed → task.status ≠ .failed →
      DeadlinePassed now queuedTimeoutSeconds runningTimeoutSeconds task

/-! ## The two statements on a row -/

variable {db : TaskTables} {now queuedTimeoutSeconds runningTimeoutSeconds : ℤ}
  {id : Uuid} {task : TaskEntity}

/-- The row of a task after both statements. -/
theorem findTask_failStaleTasks (hfind : db.findTask id = some task) :
    (failStaleTasks db now queuedTimeoutSeconds runningTimeoutSeconds).findTask id =
      let queued := if isRequeued db now task then TasksService.requeued task else task
      some (if isStale now db.nodes queuedTimeoutSeconds runningTimeoutSeconds queued then
        Loaded.failStaleTask now queued else queued) := by
  have hrequeue : ∀ task, (TasksService.requeued task).id = task.id := fun _ => rfl
  have hfail : ∀ task, (Loaded.failStaleTask now task).id = task.id := fun _ => rfl
  unfold failStaleTasks requeueExpiredLeases
  dsimp only
  rw [TaskTables.findTask_updateTasks hfail, TaskTables.findTask_updateTasks hrequeue, hfind]
  rfl

/-- A task that was just requeued is stale by the age of its creation. -/
theorem isStale_requeued (h : isRequeued db now task = true) :
    isStale now db.nodes queuedTimeoutSeconds runningTimeoutSeconds (TasksService.requeued task)
      = queuedTooLong now queuedTimeoutSeconds task := by
  have hservice : nodeInService db.nodes task.nodeId = true := (Bool.and_eq_true_iff.mp h).2
  simp only [isStale, TasksService.requeued, TaskEntity.clearLease, hservice, queuedTooLong,
    decide_true, Bool.true_and, reduceCtorEq, decide_false, Bool.false_and, Bool.or_false]
  exact decide_eq_decide.mpr Iff.rfl

/-- A stale task has passed its deadline. -/
theorem deadlinePassed_of_isStale
    (h : isStale now db.nodes queuedTimeoutSeconds runningTimeoutSeconds task = true) :
    DeadlinePassed now queuedTimeoutSeconds runningTimeoutSeconds task := by
  unfold isStale at h
  rcases Bool.or_eq_true_iff.mp h with hqueued | hrunning
  · simp only [Bool.and_eq_true, decide_eq_true_eq] at hqueued
    exact Or.inl ⟨hqueued.1.1, decide_eq_true hqueued.2⟩
  · simp only [Bool.and_eq_true, decide_eq_true_eq] at hrunning
    obtain ⟨⟨hstatus, -⟩, hage⟩ := hrunning
    refine Or.inr ⟨hstatus, ?_⟩
    cases hstarted : task.startedAt with
    | none => simp [hstarted] at hage
    | some startedAt =>
        rw [hstarted] at hage
        exact ⟨startedAt, rfl, of_decide_eq_true hage⟩

/-! ## When a pass keeps what it requeues -/

/-- **The pass is sound exactly if no task that it requeues was created before the deadline of the
queue.** -/
theorem failStaleTasks_sound_iff (db : TaskTables)
    (now queuedTimeoutSeconds runningTimeoutSeconds : ℤ) :
    PassSound db now queuedTimeoutSeconds runningTimeoutSeconds ↔
      ∀ id task, db.findTask id = some task → isRequeued db now task = true →
        queuedTooLong now queuedTimeoutSeconds task = false := by
  constructor
  · intro h id task hfind hrequeued
    obtain ⟨after, hafter, hstatus⟩ := h.requeued id task hfind hrequeued
    rw [findTask_failStaleTasks hfind, if_pos hrequeued] at hafter
    dsimp only at hafter
    rw [isStale_requeued hrequeued] at hafter
    by_contra hlong
    rw [Bool.not_eq_false] at hlong
    rw [if_pos hlong] at hafter
    -- the second statement has failed the task
    rw [← Option.some.inj hafter] at hstatus
    exact absurd hstatus (by simp [Loaded.failStaleTask])
  · intro h
    constructor
    · intro id task hfind hrequeued
      refine ⟨_, findTask_failStaleTasks hfind, ?_⟩
      rw [if_pos hrequeued, isStale_requeued hrequeued, h id task hfind hrequeued,
        if_neg Bool.false_ne_true]
      rfl
    · intro id task after hfind hafter hfailed hopen
      rw [findTask_failStaleTasks hfind] at hafter
      obtain rfl := Option.some.inj hafter
      by_cases hrequeued : isRequeued db now task = true
      · -- a requeued task is young enough, so it is queued at the end
        rw [if_pos hrequeued, isStale_requeued hrequeued, h id task hfind hrequeued,
          if_neg Bool.false_ne_true] at hfailed
        cases hfailed
      · rw [if_neg hrequeued] at hfailed
        by_cases hstale :
            isStale now db.nodes queuedTimeoutSeconds runningTimeoutSeconds task = true
        · exact deadlinePassed_of_isStale hstale
        · rw [if_neg hstale] at hfailed
          exact absurd hfailed hopen

/-- A task that the agent of a node in service has accepted, and whose lease has run out. -/
def lateTask : TaskEntity where
  id := "t1"
  workspaceId := "w1"
  nodeId := "n1"
  type := "shell.exec"
  status := .accepted
  claimedBy := some "n1"
  claimToken := some "c1"
  leaseUntil := some 595000
  createdAt := 0

def lateTables : TaskTables where
  nodes := [{ id := "n1", workspaceId := "w1", hostname := "host-1" }]
  tasks := [lateTask]

/-- **Requeued and failed at once.**  The task is ten minutes old, and a task may be queued for
one. -/
theorem lateTask_failed :
    isRequeued lateTables 600000 lateTask = true ∧
    ((failStaleTasks lateTables 600000 60 1800).findTask "t1").map (·.status) = some .failed ∧
    ¬ PassSound lateTables 600000 60 1800 := by
  have hfailed :
      ((failStaleTasks lateTables 600000 60 1800).findTask "t1").map (·.status) = some .failed := by
    decide
  refine ⟨by decide, hfailed, fun h => ?_⟩
  obtain ⟨after, hafter, hqueued⟩ := h.requeued "t1" lateTask rfl (by decide)
  rw [hafter, Option.map_some, hqueued] at hfailed
  exact absurd hfailed (by decide)

end TasksService
