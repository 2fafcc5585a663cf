/-
# The lease columns of a task

`leaseUntil`, `claimedBy` and `claimToken` belong to the statuses ACCEPTED and
CLAIMED.  Every operation that leaves these statuses clears them, except
`completeForAgent`: it finishes a task in any open status and does not touch the
lease.  So the lease columns follow the status exactly in the runs in which no
completion over the realtime path meets a leased task.
-/
import NoderaxApi.TaskStatusMachine

namespace TasksService

open Runs

/-! ## The invariant and the condition -/

/-- The lease columns are set under a lease and null otherwise, and a finished
task has a finish time. -/
structure LeaseInv (task : TaskEntity) : Prop where
  held : task.status.isLeased = true → task.LeaseHeld
  cleared : task.status.isLeased = false → task.LeaseCleared
  finishedAt : task.status.isTerminal = true → task.finishedAt ≠ none

/-- A completion over the realtime path passes its checks and meets a task that
is ACCEPTED or CLAIMED. -/
def CompletesLeased (db : TaskTables) (e : TaskEvent) : Prop :=
  ∃ now taskId nodeId dto status task,
    e = .completeForAgent now taskId nodeId (.ok ()) dto ∧
      assertTaskIdMatchesRoute taskId dto.taskId = .ok () ∧
      normalizeCompletionStatus dto.status = .ok status ∧
      db.findTask taskId = some task ∧ task.nodeId = nodeId ∧ task.status.isLeased = true

/-! ## One event -/

/-- An open task outside the leased statuses, without a lease. -/
theorem LeaseInv.of_unleased {task : TaskEntity} (hleased : task.status.isLeased = false)
    (hopen : task.status.isTerminal = false) (hcleared : task.LeaseCleared) : LeaseInv task where
  held := by rw [hleased]; intro hs; cases hs
  cleared := fun _ => hcleared
  finishedAt := by rw [hopen]; intro hs; cases hs

theorem LeaseInv.of_fresh {task : TaskEntity} (h : Fresh task) : LeaseInv task :=
  .of_unleased (by rw [h.status]; rfl) (by rw [h.status]; rfl) h.lease

/-- A finished task without a lease. -/
theorem LeaseInv.of_finishes {task saved : TaskEntity} (hcleared : saved.LeaseCleared)
    (h : Loaded.Finishes task saved) : LeaseInv saved where
  held := by
    rw [TaskStatus.not_isLeased_of_isTerminal h.terminal]
    intro hs
    cases hs
  cleared := fun _ => hcleared
  finishedAt := fun _ => h.finishedAt

/-- A row that changes nothing the invariant reads. -/
theorem LeaseInv.of_columns_eq {task task' : TaskEntity} (h : LeaseInv task)
    (hstatus : task'.status = task.status) (hlease : task'.leaseUntil = task.leaseUntil)
    (hclaimedBy : task'.claimedBy = task.claimedBy) (htoken : task'.claimToken = task.claimToken)
    (hfinished : task'.finishedAt = task.finishedAt) : LeaseInv task' := by
  obtain ⟨hheld, hcleared, hover⟩ := h
  unfold TaskEntity.LeaseHeld at hheld
  unfold TaskEntity.LeaseCleared at hcleared
  refine ⟨?_, ?_, ?_⟩
  · unfold TaskEntity.LeaseHeld
    rw [hstatus, hlease, hclaimedBy, htoken]
    exact hheld
  · unfold TaskEntity.LeaseCleared
    rw [hstatus, hlease, hclaimedBy, htoken]
    exact hcleared
  · rw [hstatus, hfinished]
    exact hover

/-- Every event but the completion of a leased task keeps the invariant. -/
theorem LeaseInv.step {db : TaskTables} {e : TaskEvent} {id : Uuid} {task task' : TaskEntity}
    (hguard : ¬ CompletesLeased db e) (hfind : db.findTask id = some task)
    (h : TaskStep e task task') (hinv : LeaseInv task) : LeaseInv task' := by
  cases h with
  | unchanged => exact hinv
  | claimed _ _ =>
      refine ⟨fun _ => ?_, ?_, ?_⟩
      · simp [claimedBy, TaskEntity.LeaseHeld]
      · intro hs; cases hs
      · intro hs; cases hs
  | startedClaim _ => exact .of_unleased rfl rfl ⟨rfl, rfl, rfl⟩
  | started hstartable =>
      have hqueued := (isStartable_spec hstartable).2.2
      have hcleared : task.LeaseCleared := hinv.cleared (by rw [hqueued]; rfl)
      exact .of_unleased rfl rfl hcleared
  | logged _ _ _ hsaved =>
      obtain ⟨output, rfl⟩ := hsaved
      exact hinv.of_columns_eq rfl rfl rfl rfl rfl
  | finished _ hcleared hsaved => exact .of_finishes hcleared hsaved
  | @completed now taskId nodeId dto _ _ hroute hstatus hid hnode hlease hclaimedBy htoken hsaved =>
      obtain ⟨status, hstatus⟩ := hstatus
      -- the guard says the task was not leased, so its lease columns were null
      have hnot : task.status.isLeased = false := by
        rw [← Bool.not_eq_true]
        intro hleased
        rw [← TaskTables.id_of_findTask hfind, hid] at hfind
        exact hguard ⟨now, taskId, nodeId, dto, status, task, rfl, hroute, hstatus, hfind, hnode,
          hleased⟩
      obtain ⟨hl, hc, ht⟩ := hinv.cleared hnot
      refine .of_finishes ⟨?_, ?_, ?_⟩ hsaved
      · rw [hlease, hl]
      · rw [hclaimedBy, hc]
      · rw [htoken, ht]
  | cancelRequested _ _ => exact hinv.of_columns_eq rfl rfl rfl rfl rfl
  | requeued _ => exact .of_unleased rfl rfl ⟨rfl, rfl, rfl⟩
  | requeuedStale _ => exact .of_unleased rfl rfl ⟨rfl, rfl, rfl⟩

/-- The completion of a leased task leaves a finished task with a lease. -/
theorem CompletesLeased.violates {db : TaskTables} {e : TaskEvent} (h : CompletesLeased db e)
    (hinv : AllRows LeaseInv db) : ¬ AllRows LeaseInv (taskStep db e) := by
  obtain ⟨now, taskId, nodeId, dto, status, task, rfl, hroute, hstatus, hfind, hnode, hleased⟩ := h
  have hterminal : status.isTerminal = true := normalizeCompletionStatus_isTerminal hstatus
  have hloaded : findTaskForNodeOrFail db taskId nodeId = .ok task := by
    unfold findTaskForNodeOrFail
    rw [hfind]
    exact if_pos hnode
  obtain ⟨saved, hsaved⟩ :
      ∃ saved, Loaded.completeForAgent now status dto task = .ok (some saved) := by
    unfold Loaded.completeForAgent
    rw [if_neg (by rw [TaskStatus.not_isTerminal_of_isLeased hleased]; decide)]
    exact ⟨_, rfl⟩
  obtain ⟨hnewStatus, hlease, _, _, hfinishes⟩ := Loaded.completeForAgent_ok hterminal hsaved
  have hafter : (taskStep db (.completeForAgent now taskId nodeId (.ok ()) dto)).findTask taskId
      = some saved := by
    have hid : saved.id = taskId := hfinishes.id.trans (TaskTables.id_of_findTask hfind)
    have hop : completeForAgent db now taskId nodeId (.ok ()) dto
        = .ok ((db.saveTask saved).saveLogs (Loaded.completionLogs now dto saved), saved) := by
      unfold completeForAgent
      simp only [hroute, hstatus, hloaded, hsaved, bind, Except.bind, pure, Except.pure]
    simp only [taskStep, hop, settle]
    rw [TaskTables.findTask_saveLogs, TaskTables.findTask_saveTask, if_pos hid.symm, hfind,
      Option.map_some]
  intro hall
  have hnull : saved.leaseUntil = none := by
    refine ((hall taskId saved hafter).cleared ?_).1
    rw [hnewStatus]
    exact TaskStatus.not_isLeased_of_isTerminal hterminal
  have hset : task.leaseUntil ≠ none := ((hinv taskId task hfind).held hleased).1
  exact hset (hlease ▸ hnull)

/-! ## Whole runs -/

/-- **When the lease columns follow the status.**  Every state of a run
satisfies the lease invariant exactly when no completion over the realtime path
meets a task that is ACCEPTED or CLAIMED. -/
theorem task_lease_invariant_iff (es : List TaskEvent) :
    (∀ es₁ es₂, es = es₁ ++ es₂ → AllRows LeaseInv (reach es₁)) ↔
      Along taskStep (fun db e => ¬ CompletesLeased db e) emptyTables es := by
  refine inv_prefixes_iff ?_ ?_ (allRows_empty LeaseInv)
  · intro db e hdb hguard
    exact hdb.step (fun _ => .of_fresh) fun _ _ _ hfind hstep => LeaseInv.step hguard hfind hstep
  · intro db e hdb hafter hcompletes
    exact hcompletes.violates hdb hafter

/-- A claimed task, completed over the realtime path without being started. -/
def completedWhileAccepted : List TaskEvent :=
  [.nodesChanged [{ id := "n1", workspaceId := "w1", hostname := "host-1" }],
    .queueTask 0 "t1" [] (.ok ()) { nodeId := "n1", type := "shell.exec", payload := [] } none,
    .claimNextTaskOnce 1000 30 "n1" "c1" "t1",
    .completeForAgent 2000 "t1" "n1" (.ok ()) { status := "success" }]

/-- A finished task can keep its lease. -/
theorem task_lease_violated : ¬ ∀ es : List TaskEvent, AllRows LeaseInv (reach es) := by
  intro hall
  have hrow : ((reach completedWhileAccepted).findTask "t1").map
      (fun task => (task.status, task.leaseUntil, task.claimedBy, task.claimToken))
        = some (.success, some 31000, some "n1", some "c1") := by
    decide
  obtain ⟨task, hfind, hcolumns⟩ := Option.map_eq_some_iff.mp hrow
  simp only [Prod.mk.injEq] at hcolumns
  obtain ⟨hstatus, hlease, _, _⟩ := hcolumns
  have hcleared := (hall completedWhileAccepted "t1" task hfind).cleared (by rw [hstatus]; rfl)
  rw [hcleared.1] at hlease
  cases hlease

end TasksService
