/-
# The status machine of a task

Two execution protocols (claims with leases over HTTP, pushes over the realtime
socket), the operator and the background jobs write one status column.  What
survives every order of them is a rank: a task waits, runs, and is over, and it
never moves back.  Inside the lowest rank it may go round, from QUEUED to
ACCEPTED and back, each time because a lease expired.

`Later` is the preorder on rows that every event respects, `RowInv` the invariant
of every row; the clauses of `task_status_machine` follow from the two.
-/
import NoderaxApi.TaskMachine

namespace TasksService

open Runs

/-- The tables after the events `es`. -/
abbrev reach (es : List TaskEvent) : TaskTables := run taskStep emptyTables es

/-! ## A row and its future -/

/-- What no later event takes back. -/
structure Later (task task' : TaskEntity) : Prop where
  rank : task.status.rank ≤ task'.status.rank
  terminal : task.status.isTerminal = true → task' = task
  startedAt : task.status.rank ≠ 0 → ∀ t, task.startedAt = some t → task'.startedAt = some t
  cancelRequestedAt : task.cancelRequestedAt ≠ none → task'.cancelRequestedAt ≠ none

theorem Later.refl (task : TaskEntity) : Later task task where
  rank := Nat.le_refl _
  terminal := fun _ => rfl
  startedAt := fun _ _ h => h
  cancelRequestedAt := fun h => h

theorem Later.trans {a b c : TaskEntity} (hab : Later a b) (hbc : Later b c) : Later a c where
  rank := Nat.le_trans hab.rank hbc.rank
  terminal := by
    intro h
    have hb : b = a := hab.terminal h
    rw [← hb] at h
    rw [hbc.terminal h, hb]
  startedAt := by
    intro h t ht
    have hrank : b.status.rank ≠ 0 := by
      have := hab.rank
      omega
    exact hbc.startedAt hrank t (hab.startedAt h t ht)
  cancelRequestedAt := fun h => hbc.cancelRequestedAt (hab.cancelRequestedAt h)

/-- A row of rank 0 puts no obligation on its future except on cancellation. -/
theorem Later.of_waiting {task task' : TaskEntity} (hwaiting : task.status.rank = 0)
    (hcancel : task'.cancelRequestedAt = task.cancelRequestedAt) : Later task task' where
  rank := by omega
  terminal := by
    intro h
    rw [TaskStatus.isTerminal_iff_rank] at h
    omega
  startedAt := fun h => absurd hwaiting h
  cancelRequestedAt := by rw [hcancel]; exact id

theorem Later.of_finishes {task saved : TaskEntity} (h : Loaded.Finishes task saved) :
    Later task saved where
  rank := by
    have hover : saved.status.rank = 2 := saved.status.isTerminal_iff_rank.mp h.terminal
    rw [hover]
    cases task.status <;> decide
  terminal := by
    intro hterminal
    rw [h.open_before] at hterminal
    cases hterminal
  startedAt := fun _ => h.startedAt
  cancelRequestedAt := h.cancelRequestedAt

/-- A claimable row waits. -/
theorem rank_of_isClaimable {now : ℤ} {nodes : List NodeEntity} {nodeId : Uuid} {task : TaskEntity}
    (h : isClaimable now nodes nodeId task = true) : task.status.rank = 0 := by
  unfold isClaimable at h
  rw [Bool.and_eq_true, Bool.or_eq_true, decide_eq_true_eq] at h
  rcases h.2 with hqueued | hexpired
  · rw [hqueued]; rfl
  · exact TaskStatus.rank_of_isLeased (leaseExpired_isLeased hexpired)

theorem isStartableClaim_spec {taskId nodeId : Uuid} {task : TaskEntity}
    (h : isStartableClaim taskId nodeId task = true) :
    task.id = taskId ∧ task.nodeId = nodeId ∧ task.status.isLeased = true ∧
      task.claimedBy = some nodeId := by
  unfold isStartableClaim at h
  simp only [Bool.and_eq_true, decide_eq_true_eq] at h
  exact ⟨h.1.1.1, h.1.1.2, h.1.2, h.2⟩

theorem isStartable_spec {taskId nodeId : Uuid} {task : TaskEntity}
    (h : isStartable taskId nodeId task = true) :
    task.id = taskId ∧ task.nodeId = nodeId ∧ task.status = .queued := by
  unfold isStartable at h
  simp only [Bool.and_eq_true, decide_eq_true_eq] at h
  exact ⟨h.1.1, h.1.2, h.2⟩

/-- **Every event moves every row later.** -/
theorem TaskStep.later {e : TaskEvent} {task task' : TaskEntity} (h : TaskStep e task task') :
    Later task task' := by
  cases h with
  | unchanged => exact .refl task
  | claimed _ hclaimable => exact .of_waiting (rank_of_isClaimable hclaimable) rfl
  | startedClaim hstartable =>
      have hleased := (isStartableClaim_spec hstartable).2.2.1
      exact .of_waiting (TaskStatus.rank_of_isLeased hleased) rfl
  | started hstartable =>
      have hqueued := (isStartable_spec hstartable).2.2
      exact .of_waiting (by rw [hqueued]; rfl) rfl
  | logged _ hqueued hopen hsaved =>
      obtain ⟨output, rfl⟩ := hsaved
      exact
        { rank := Nat.le_refl _
          terminal := by intro h; rw [hopen] at h; cases h
          startedAt := fun _ _ h => h
          cancelRequestedAt := fun h => h }
  | finished _ _ hsaved => exact .of_finishes hsaved
  | completed _ _ _ _ _ _ _ hsaved => exact .of_finishes hsaved
  | cancelRequested _ hrunning =>
      exact
        { rank := Nat.le_refl _
          terminal := by intro h; rw [hrunning] at h; cases h
          startedAt := fun _ _ h => h
          cancelRequestedAt := by simp }
  | requeued hexpired =>
      exact .of_waiting (TaskStatus.rank_of_isLeased (leaseExpired_isLeased hexpired)) rfl
  | requeuedStale hexpired =>
      exact .of_waiting (TaskStatus.rank_of_isLeased (leaseExpired_isLeased hexpired)) rfl

/-- An event of the queue leaves the rows that run or are over alone. -/
theorem TaskStep.eq_of_isQueueEvent {e : TaskEvent} {task task' : TaskEntity}
    (h : TaskStep e task task') (he : e.isQueueEvent = true) (hrank : task.status.rank ≠ 0) :
    task' = task := by
  cases h with
  | unchanged => rfl
  | claimed _ hclaimable => exact absurd (rank_of_isClaimable hclaimable) hrank
  | startedClaim _ => cases he
  | started _ => cases he
  | logged hkind _ _ _ => rw [hkind] at he; cases he
  | finished hkind _ _ => rw [hkind] at he; cases he
  | completed _ _ _ _ _ _ _ _ => cases he
  | cancelRequested hkind _ => rw [hkind] at he; cases he
  | requeued hexpired =>
      exact absurd (TaskStatus.rank_of_isLeased (leaseExpired_isLeased hexpired)) hrank
  | requeuedStale hexpired =>
      exact absurd (TaskStatus.rank_of_isLeased (leaseExpired_isLeased hexpired)) hrank

/-- Every row of the first tables has a later version in the second. -/
def LaterTables (db db' : TaskTables) : Prop :=
  ∀ id task, db.findTask id = some task → ∃ task', db'.findTask id = some task' ∧ Later task task'

theorem taskStep_later (db : TaskTables) (e : TaskEvent) : LaterTables db (taskStep db e) := by
  intro id task hfind
  have hrow := taskStep_row db e id
  rw [hfind] at hrow
  obtain ⟨task', hfind', hstep⟩ := hrow
  exact ⟨task', hfind', hstep.later⟩

/-- **A run moves every row later.** -/
theorem run_later (db : TaskTables) (es : List TaskEvent) :
    LaterTables db (run taskStep db es) := by
  have hstep : ∀ s e, LaterTables db s → LaterTables db (taskStep s e) := by
    intro s e h id task hfind
    obtain ⟨task', hfind', hlater⟩ := h id task hfind
    obtain ⟨task'', hfind'', hlater'⟩ := taskStep_later s e id task' hfind'
    exact ⟨task'', hfind'', hlater.trans hlater'⟩
  exact inv_run' hstep fun id task hfind => ⟨task, hfind, .refl task⟩

/-- The later version of a row, in the tables reached by a longer run. -/
theorem later_reach {es : List TaskEvent} (es' : List TaskEvent) {id : Uuid} {task : TaskEntity}
    (hfind : (reach es).findTask id = some task) :
    ∃ task', (reach (es ++ es')).findTask id = some task' ∧ Later task task' := by
  unfold reach at *
  rw [run_append]
  exact run_later _ es' id task hfind

/-! ## The invariant of a row -/

/-- A property of every row. -/
def AllRows (I : TaskEntity → Prop) (db : TaskTables) : Prop :=
  ∀ id task, db.findTask id = some task → I task

/-- An event keeps a property of every row if new rows have it and the change of
each old row keeps it. -/
theorem AllRows.step {I : TaskEntity → Prop} {db : TaskTables} {e : TaskEvent}
    (hfresh : ∀ task, Fresh task → I task)
    (hstep : ∀ id task task', db.findTask id = some task → TaskStep e task task' → I task → I task')
    (hdb : AllRows I db) : AllRows I (taskStep db e) := by
  intro id task' hfind'
  have hrow := taskStep_row db e id
  cases hfind : db.findTask id with
  | none =>
      rw [hfind] at hrow
      exact hfresh task' (hrow task' hfind')
  | some task =>
      rw [hfind] at hrow
      obtain ⟨task'', hfind'', htask⟩ := hrow
      rw [hfind'] at hfind''
      cases hfind''
      exact hstep id task task' hfind htask (hdb id task hfind)

theorem allRows_empty (I : TaskEntity → Prop) : AllRows I emptyTables := by
  intro id task hfind
  cases hfind

/-- What holds of every row. -/
structure RowInv (task : TaskEntity) : Prop where
  not_claimed : task.status ≠ .claimed
  startedAt : task.status = .running → task.startedAt ≠ none
  cancelRequestedAt : task.cancelRequestedAt ≠ none → task.status.rank ≠ 0

theorem RowInv.of_fresh {task : TaskEntity} (h : Fresh task) : RowInv task where
  not_claimed := by rw [h.status]; decide
  startedAt := by rw [h.status]; intro hs; cases hs
  cancelRequestedAt := fun hc => absurd h.cancelRequestedAt hc

theorem RowInv.of_finishes {task saved : TaskEntity} (h : Loaded.Finishes task saved) :
    RowInv saved := by
  have hterminal := h.terminal
  refine ⟨?_, ?_, ?_⟩
  · intro hs; rw [hs] at hterminal; cases hterminal
  · intro hs; rw [hs] at hterminal; cases hterminal
  · intro _ hrank
    rw [TaskStatus.isTerminal_iff_rank] at hterminal
    omega

/-- Every event keeps the invariant of a row. -/
theorem RowInv.step {e : TaskEvent} {task task' : TaskEntity} (h : TaskStep e task task')
    (hinv : RowInv task) : RowInv task' := by
  cases h with
  | unchanged => exact hinv
  | claimed _ hclaimable =>
      have hwaiting := rank_of_isClaimable hclaimable
      exact ⟨by simp [claimedBy], by simp [claimedBy],
        fun hc => absurd hwaiting (hinv.cancelRequestedAt hc)⟩
  | startedClaim _ => 
      exact ⟨by simp [startedClaim], by simp [startedClaim], fun _ => Nat.one_ne_zero⟩
  | started _ => exact ⟨by simp [started], by simp [started], fun _ => Nat.one_ne_zero⟩
  | logged _ _ _ hsaved =>
      obtain ⟨output, rfl⟩ := hsaved
      exact ⟨hinv.not_claimed, hinv.startedAt, hinv.cancelRequestedAt⟩
  | finished _ _ hsaved => exact .of_finishes hsaved
  | completed _ _ _ _ _ _ _ hsaved => exact .of_finishes hsaved
  | cancelRequested _ hrunning =>
      refine ⟨hinv.not_claimed, hinv.startedAt, fun _ => ?_⟩
      show task.status.rank ≠ 0
      rw [hrunning]; decide
  | requeued hexpired =>
      have hwaiting := TaskStatus.rank_of_isLeased (leaseExpired_isLeased hexpired)
      exact ⟨by simp [requeued], by simp [requeued],
        fun hc => absurd hwaiting (hinv.cancelRequestedAt hc)⟩
  | requeuedStale hexpired =>
      have hwaiting := TaskStatus.rank_of_isLeased (leaseExpired_isLeased hexpired)
      exact ⟨by simp [requeued], by simp [requeued],
        fun hc => absurd hwaiting (hinv.cancelRequestedAt hc)⟩

theorem rowInv_reach (es : List TaskEvent) : AllRows RowInv (reach es) := by
  have hkeep : ∀ db e, AllRows RowInv db → AllRows RowInv (taskStep db e) :=
    fun _ _ hdb => hdb.step (fun _ => .of_fresh) fun _ _ _ _ hstep => RowInv.step hstep
  exact inv_run' hkeep (allRows_empty RowInv)

/-! ## Entering RUNNING -/

/-- The status of a task, if there is one. -/
def statusOf (db : TaskTables) (id : Uuid) : Option TaskStatus := (db.findTask id).map (·.status)

theorem statusOf_eq_some {db : TaskTables} {id : Uuid} {status : TaskStatus}
    (h : statusOf db id = some status) :
    ∃ task, db.findTask id = some task ∧ task.status = status :=
  Option.map_eq_some_iff.mp h

/-- The event makes the task RUNNING. -/
def EntersRunning (db : TaskTables) (e : TaskEvent) (id : Uuid) : Prop :=
  statusOf db id ≠ some .running ∧ statusOf (taskStep db e) id = some .running

/-- The event is the task's own node starting it when it is QUEUED, or the
holder of its claim starting it when it is ACCEPTED or CLAIMED. -/
def StartedByOwner (db : TaskTables) (e : TaskEvent) (id : Uuid) : Prop :=
  ∃ task ∈ db.findTask id,
    (∃ now dto, e = .startForAgent now id task.nodeId (.ok ()) dto ∧ task.status = .queued) ∨
    (∃ now nodeId dto, e = .startClaimedTaskForAgent now id nodeId dto ∧
      task.status.isLeased = true ∧ task.claimedBy = some nodeId)

/-- A row that turns RUNNING was started by its owner. -/
theorem TaskStep.startedByOwner {db : TaskTables} {e : TaskEvent} {id : Uuid}
    {task task' : TaskEntity} (hfind : db.findTask id = some task) (h : TaskStep e task task')
    (hbefore : task.status ≠ .running) (hafter : task'.status = .running) :
    StartedByOwner db e id := by
  have hid : task.id = id := TaskTables.id_of_findTask hfind
  refine ⟨task, hfind, ?_⟩
  cases h with
  | unchanged => exact absurd hafter hbefore
  | claimed _ _ => cases hafter
  | @startedClaim now startedAt taskId nodeId dto _ hstartable =>
      obtain ⟨htask, _, hleased, hclaimedBy⟩ := isStartableClaim_spec hstartable
      rw [htask] at hid
      subst hid
      exact Or.inr ⟨now, nodeId, dto, rfl, hleased, hclaimedBy⟩
  | @started now startedAt taskId nodeId dto _ hstartable =>
      obtain ⟨htask, hnode, hqueued⟩ := isStartable_spec hstartable
      rw [htask] at hid
      subst hid hnode
      exact Or.inl ⟨now, dto, rfl, hqueued⟩
  | logged _ _ _ hsaved =>
      obtain ⟨output, rfl⟩ := hsaved
      exact absurd hafter hbefore
  | finished _ _ hsaved =>
      have hterminal := hsaved.terminal
      rw [hafter] at hterminal
      cases hterminal
  | completed _ _ _ _ _ _ _ hsaved =>
      have hterminal := hsaved.terminal
      rw [hafter] at hterminal
      cases hterminal
  | cancelRequested _ hrunning => exact absurd hrunning hbefore
  | requeued _ => cases hafter
  | requeuedStale _ => cases hafter

/-- An event that makes the task RUNNING found it waiting. -/
theorem EntersRunning.waiting {db : TaskTables} {e : TaskEvent} {id : Uuid}
    (h : EntersRunning db e id) :
    ∃ task task', db.findTask id = some task ∧ (taskStep db e).findTask id = some task' ∧
      TaskStep e task task' ∧ task.status ≠ .running ∧ task'.status = .running := by
  obtain ⟨hbefore, hafter⟩ := h
  obtain ⟨task', hfind', hstatus'⟩ := statusOf_eq_some hafter
  have hrow := taskStep_row db e id
  cases hfind : db.findTask id with
  | none =>
      -- a row that an event inserts is QUEUED
      rw [hfind] at hrow
      have hqueued := (hrow task' hfind').status
      rw [hqueued] at hstatus'
      cases hstatus'
  | some task =>
      rw [hfind] at hrow
      obtain ⟨task'', hfind'', hstep⟩ := hrow
      rw [hfind'] at hfind''
      cases hfind''
      refine ⟨task, task', rfl, hfind', hstep, ?_, hstatus'⟩
      intro hrunning
      apply hbefore
      rw [statusOf, hfind, Option.map_some, hrunning]

/-- A task that became RUNNING does not become RUNNING again. -/
theorem not_entersRunning_again {es₁ es₂ : List TaskEvent} {e e' : TaskEvent} {id : Uuid}
    (h : EntersRunning (reach es₁) e id) : ¬ EntersRunning (reach (es₁ ++ e :: es₂)) e' id := by
  intro h'
  obtain ⟨_, task₁, _, hfind₁, _, _, hrunning₁⟩ := h.waiting
  obtain ⟨task₂, task₃, hfind₂, _, hstep, hbefore, hafter⟩ := h'.waiting
  have hfirst : (reach (es₁ ++ [e])).findTask id = some task₁ := by
    unfold reach
    rw [run_concat]
    exact hfind₁
  obtain ⟨task₂', hfind₂', hlater⟩ := later_reach es₂ hfirst
  rw [List.append_assoc, List.singleton_append, hfind₂] at hfind₂'
  cases hfind₂'
  have hup : 1 ≤ task₂.status.rank := by
    have hrank := hlater.rank
    rw [hrunning₁] at hrank
    exact hrank
  have hdown : task₂.status.rank ≤ 1 := by
    have hrank := hstep.later.rank
    rw [hafter] at hrank
    exact hrank
  have hone : task₂.status.rank = 1 := by omega
  exact hbefore (task₂.status.rank_eq_one_iff.mp hone)

/-! ## Going round -/

/-- A task that leaves a status and comes back to it moves between QUEUED and
ACCEPTED. -/
theorem cycle_within_waiting {es₁ es₂ es₃ : List TaskEvent} {id : Uuid} {status other : TaskStatus}
    (h₁ : statusOf (reach es₁) id = some status)
    (h₂ : statusOf (reach (es₁ ++ es₂)) id = some other)
    (h₃ : statusOf (reach (es₁ ++ es₂ ++ es₃)) id = some status) (hne : other ≠ status) :
    (status = .queued ∧ other = .accepted) ∨ (status = .accepted ∧ other = .queued) := by
  obtain ⟨task₁, hfind₁, hs₁⟩ := statusOf_eq_some h₁
  obtain ⟨task₂, hfind₂, hs₂⟩ := statusOf_eq_some h₂
  obtain ⟨task₃, hfind₃, hs₃⟩ := statusOf_eq_some h₃
  have h12 : Later task₁ task₂ := by
    obtain ⟨task, hfind, hlater⟩ := later_reach es₂ hfind₁
    rw [hfind₂] at hfind
    cases hfind
    exact hlater
  have h23 : Later task₂ task₃ := by
    obtain ⟨task, hfind, hlater⟩ := later_reach es₃ hfind₂
    rw [hfind₃] at hfind
    cases hfind
    exact hlater
  have hn₁ := (rowInv_reach es₁ id task₁ hfind₁).not_claimed
  have hn₂ := (rowInv_reach _ id task₂ hfind₂).not_claimed
  have hup := h12.rank
  have hdown := h23.rank
  have hfrozen : task₁.status.isTerminal = true → task₂.status = task₁.status := by
    intro hterminal
    rw [h12.terminal hterminal]
  rw [hs₁, hs₂] at hup hfrozen
  rw [hs₂, hs₃] at hdown
  rw [hs₁] at hn₁
  rw [hs₂] at hn₂
  cases status <;> cases other <;>
    simp [TaskStatus.rank, TaskStatus.isTerminal, TaskStatus.terminal]
      at hup hdown hfrozen hn₁ hn₂ hne ⊢

/-- The event acts on a lease that has expired. -/
def LeaseRanOut (e : TaskEvent) (task : TaskEntity) : Prop :=
  ∃ now leaseUntil, task.leaseUntil = some leaseUntil ∧ leaseUntil ≤ now ∧
    (e = .requeueExpiredLeases now ∨ (∃ queued running, e = .failStaleTasks now queued running) ∨
      ∃ configured nodeId claimToken chosen,
        e = .claimNextTaskOnce now configured nodeId claimToken chosen)

theorem leaseUntil_of_leaseExpired {now : ℤ} {task : TaskEntity}
    (h : leaseExpired now task = true) :
    ∃ leaseUntil, task.leaseUntil = some leaseUntil ∧ leaseUntil ≤ now := by
  unfold leaseExpired at h
  cases hlease : task.leaseUntil with
  | none => simp [hlease] at h
  | some leaseUntil =>
      refine ⟨leaseUntil, rfl, ?_⟩
      simpa [hlease] using (Bool.and_eq_true_iff.mp h).2

/-- An ACCEPTED task goes back to QUEUED, or to a new claim, by lease expiry
only. -/
theorem TaskStep.leaseRanOut {e : TaskEvent} {task task' : TaskEntity} (h : TaskStep e task task')
    (haccepted : task.status = .accepted)
    (hback : task'.status = .queued ∨
      (task'.status = .accepted ∧ (task'.claimToken ≠ task.claimToken ∨
        task'.claimedBy ≠ task.claimedBy ∨ task'.leaseUntil ≠ task.leaseUntil))) :
    LeaseRanOut e task := by
  cases h with
  | unchanged => simp [haccepted] at hback
  | claimed _ hclaimable =>
      unfold isClaimable at hclaimable
      rw [Bool.and_eq_true, Bool.or_eq_true, decide_eq_true_eq, haccepted] at hclaimable
      obtain ⟨leaseUntil, hlease, hle⟩ := leaseUntil_of_leaseExpired
        (hclaimable.2.resolve_left (by decide))
      exact ⟨_, leaseUntil, hlease, hle, Or.inr (Or.inr ⟨_, _, _, _, rfl⟩)⟩
  | startedClaim _ => rcases hback with hs | ⟨hs, _⟩ <;> cases hs
  | started _ => rcases hback with hs | ⟨hs, _⟩ <;> cases hs
  | logged _ _ _ hsaved =>
      obtain ⟨output, rfl⟩ := hsaved
      simp [haccepted] at hback
  | finished _ _ hsaved =>
      have hterminal := hsaved.terminal
      rcases hback with hs | ⟨hs, _⟩ <;> rw [hs] at hterminal <;> cases hterminal
  | completed _ _ _ _ _ _ _ hsaved =>
      have hterminal := hsaved.terminal
      rcases hback with hs | ⟨hs, _⟩ <;> rw [hs] at hterminal <;> cases hterminal
  | cancelRequested _ hrunning => rw [haccepted] at hrunning; cases hrunning
  | requeued hexpired =>
      obtain ⟨leaseUntil, hlease, hle⟩ := leaseUntil_of_leaseExpired hexpired
      exact ⟨_, leaseUntil, hlease, hle, Or.inl rfl⟩
  | requeuedStale hexpired =>
      obtain ⟨leaseUntil, hlease, hle⟩ := leaseUntil_of_leaseExpired hexpired
      exact ⟨_, leaseUntil, hlease, hle, Or.inr (Or.inl ⟨_, _, rfl⟩)⟩

/-! ## Claims after a cancellation -/

/-- A claim hands out only a row that waits and whose cancellation was not
requested. -/
theorem claimNextTaskOnce_some {db : TaskTables} {now configured : ℤ}
    {nodeId claimToken chosen : Uuid} {task : TaskEntity}
    (h : (claimNextTaskOnce db now configured nodeId claimToken chosen).2 = some task) :
    ∃ row, db.findTask task.id = some row ∧ isClaimable now db.nodes nodeId row = true ∧
      task = claimedBy now configured nodeId claimToken row := by
  unfold claimNextTaskOnce at h
  split at h
  · next holdest =>
      have hkeeps : ∀ row, (claimedBy now configured nodeId claimToken row).id = row.id :=
        fun _ => rfl
      dsimp only at h
      rw [TaskTables.findTask_updateTasks hkeeps] at h
      obtain ⟨row, hfind, htask⟩ := Option.map_eq_some_iff.mp h
      have hid : row.id = chosen := TaskTables.id_of_findTask hfind
      rw [if_pos (by simpa using hid)] at htask
      subst htask
      refine ⟨row, ?_, isClaimable_of_isOldestClaimable holdest hfind, rfl⟩
      show db.findTask row.id = some row
      rw [hid, hfind]
  · cases h

/-- A task that runs or is over is never handed out by a later claim. -/
theorem not_claimed_of_rank {es : List TaskEvent} (es' : List TaskEvent) {id : Uuid}
    {row : TaskEntity} (hfind : (reach es).findTask id = some row) (hrank : row.status.rank ≠ 0)
    (now configured : ℤ) (nodeId claimToken chosen : Uuid) (task : TaskEntity)
    (hclaim : (claimNextTaskOnce (reach (es ++ es')) now configured nodeId claimToken chosen).2
      = some task) : task.id ≠ id := by
  intro hid
  obtain ⟨row', hfind', hclaimable, _⟩ := claimNextTaskOnce_some hclaim
  rw [hid] at hfind'
  obtain ⟨later, hfind'', hlater⟩ := later_reach es' hfind
  rw [hfind'] at hfind''
  cases hfind''
  have hzero := rank_of_isClaimable hclaimable
  have hup := hlater.rank
  omega

/-- After a cancellation that returned, the task runs or is over. -/
theorem rank_of_requestTaskCancellation {db db' : TaskTables} {now : ℤ} {id : Uuid}
    {workspaceId : Option Uuid} {writable : Except HttpError Unit} {dto : RequestTaskCancelDto}
    {saved : TaskEntity}
    (h : requestTaskCancellation db now id workspaceId writable dto = .ok (db', saved)) :
    ∃ row, db'.findTask id = some row ∧ row.status.rank ≠ 0 := by
  unfold requestTaskCancellation at h
  obtain ⟨loaded, hloaded, h⟩ := bind_eq_ok.mp h
  obtain ⟨_, _, h⟩ := bind_eq_ok.mp h
  have hfind := findOneOrFail_ok hloaded
  have hid := TaskTables.id_of_findTask hfind
  split at h
  · next hnone =>
      obtain ⟨rfl, rfl⟩ := Prod.mk.inj (Except.ok.inj h)
      refine ⟨loaded, hfind, ?_⟩
      have hterminal : loaded.status.isTerminal = true :=
        Loaded.requestTaskCancellation_eq_none_iff.mp hnone
      rw [TaskStatus.isTerminal_iff_rank] at hterminal
      omega
  · next entity hsaved =>
      obtain ⟨rfl, rfl⟩ := Prod.mk.inj (Except.ok.inj h)
      have hentity : entity.id = loaded.id ∧ entity.status.rank ≠ 0 := by
        rcases (Loaded.requestTaskCancellation_some hsaved).2 with
          ⟨_, hcancelled, _, hfinishes⟩ | ⟨hrunning, reason, rfl⟩
        · refine ⟨hfinishes.id, ?_⟩
          rw [hcancelled]; decide
        · refine ⟨rfl, ?_⟩
          show loaded.status.rank ≠ 0
          rw [hrunning]; decide
      refine ⟨entity, ?_, hentity.2⟩
      rw [TaskTables.findTask_saveLogs, TaskTables.findTask_saveTask,
        if_pos (by rw [hentity.1, hid]), hfind, Option.map_some]

/-! ## The status machine -/

/-- **The status machine of a task.**  In every run a task becomes RUNNING at
most once, started by its own node or by the holder of its claim; it returns to
a status it left only inside QUEUED and ACCEPTED, by lease expiry; once it is
RUNNING its `startedAt` is set and stays; and a task whose cancellation was
requested runs or is over, so that no later claim hands it out. -/
theorem task_status_machine (id : Uuid) :
    (∀ es₁ es₂ e e', EntersRunning (reach es₁) e id →
      ¬ EntersRunning (reach (es₁ ++ e :: es₂)) e' id) ∧
    (∀ es e, EntersRunning (reach es) e id → StartedByOwner (reach es) e id) ∧
    (∀ es₁ es₂ es₃ status other, statusOf (reach es₁) id = some status →
      statusOf (reach (es₁ ++ es₂)) id = some other →
      statusOf (reach (es₁ ++ es₂ ++ es₃)) id = some status → other ≠ status →
      (status = .queued ∧ other = .accepted) ∨ (status = .accepted ∧ other = .queued)) ∧
    (∀ es e task task', (reach es).findTask id = some task →
      (reach (es ++ [e])).findTask id = some task' → task.status = .accepted →
      (task'.status = .queued ∨ (task'.status = .accepted ∧
        (task'.claimToken ≠ task.claimToken ∨ task'.claimedBy ≠ task.claimedBy ∨
          task'.leaseUntil ≠ task.leaseUntil))) → LeaseRanOut e task) ∧
    (∀ es es' task, (reach es).findTask id = some task → task.status = .running →
      ∃ startedAt task', task.startedAt = some startedAt ∧
        (reach (es ++ es')).findTask id = some task' ∧ task'.startedAt = some startedAt) ∧
    (∀ es task, (reach es).findTask id = some task → task.cancelRequestedAt ≠ none →
      task.status = .running ∨ task.status.isTerminal = true) ∧
    (∀ es es' now workspaceId writable dto saved db',
      requestTaskCancellation (reach es) now id workspaceId writable dto = .ok (db', saved) →
      ∀ now' configured nodeId claimToken chosen handed,
        (claimNextTaskOnce
          (reach (es ++ .requestTaskCancellation now id workspaceId writable dto :: es'))
          now' configured nodeId claimToken chosen).2 = some handed → handed.id ≠ id) := by
  refine ⟨?_, ?_, ?_, ?_, ?_, ?_, ?_⟩
  · intro es₁ es₂ e e' h
    exact not_entersRunning_again h
  · intro es e h
    obtain ⟨task, task', hfind, _, hstep, hbefore, hafter⟩ := h.waiting
    exact hstep.startedByOwner hfind hbefore hafter
  · intro es₁ es₂ es₃ status other h₁ h₂ h₃ hne
    exact cycle_within_waiting h₁ h₂ h₃ hne
  · intro es e task task' hfind hfind' haccepted hback
    have hrow := taskStep_row (reach es) e id
    rw [hfind] at hrow
    obtain ⟨task'', hfind'', hstep⟩ := hrow
    unfold reach at hfind'
    rw [run_concat, hfind''] at hfind'
    cases hfind'
    exact hstep.leaseRanOut haccepted hback
  · intro es es' task hfind hrunning
    have hset := (rowInv_reach es id task hfind).startedAt hrunning
    obtain ⟨startedAt, hstarted⟩ := Option.ne_none_iff_exists'.mp hset
    obtain ⟨task', hfind', hlater⟩ := later_reach es' hfind
    have hrank : task.status.rank ≠ 0 := by rw [hrunning]; decide
    exact ⟨startedAt, task', hstarted, hfind', hlater.startedAt hrank startedAt hstarted⟩
  · intro es task hfind hcancel
    have hrank := (rowInv_reach es id task hfind).cancelRequestedAt hcancel
    cases hs : task.status <;> rw [hs] at hrank <;>
      simp [TaskStatus.rank, TaskStatus.isTerminal, TaskStatus.terminal] at hrank ⊢
  · intro es es' now workspaceId writable dto saved db' hcancel now' configured nodeId claimToken
      chosen handed hclaim
    obtain ⟨row, hfind, hrank⟩ := rank_of_requestTaskCancellation hcancel
    have hafter :
        (reach (es ++ [.requestTaskCancellation now id workspaceId writable dto])).findTask id
          = some row := by
      unfold reach
      rw [run_concat]
      simp only [taskStep, hcancel, settle]
      exact hfind
    refine not_claimed_of_rank es' hafter hrank now' configured nodeId claimToken chosen handed
      ?_
    rw [List.append_assoc, List.singleton_append]
    exact hclaim

end TasksService
