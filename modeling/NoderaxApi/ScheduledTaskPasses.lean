/-
# Passes of the scheduled-task runner

`runDueSchedules` claims the due schedule with the earliest `nextRunAt`, triggers
it, and goes on until none is due or a trigger fails.  A schedule that is late by
several periods is triggered once for each of them.  A trigger that fails before its
UPDATE leaves `nextRunAt` where it was, so the schedule stays at the head of the
queue, and the next pass stops at it again.

The file says for which due schedules the passes get to every healthy one.
-/
import NoderaxApi.ScheduledTasks
import Mathlib.Algebra.BigOperators.Group.Finset.Piecewise
import Mathlib.Logic.Function.Iterate

namespace ScheduledTasksService

open KeyedTable

/-! ## The passes -/

/-- The schedules, and those whose trigger answered `ok`, latest first. -/
structure RunnerWorld where
  schedules : Table ScheduledTaskEntity.id
  triggered : List Uuid := []

/-- The runner between two rounds of the loop of `runDueSchedules`: the passes that
returned, and the rounds of the current one. -/
structure RunnerState where
  world : RunnerWorld
  passes : ℕ := 0
  round : ℕ := 0

section

variable (computeNextScheduledRun : ScheduledTaskTiming → ℤ → Except String ℤ)
  (triggers : Uuid → TriggerInput)

/-- One round of the loop: nothing when no schedule is due, otherwise the world
after the trigger and its answer. -/
def runOnce (input : ClaimInput) (w : RunnerWorld) : Option (RunnerWorld × Bool) :=
  match claimNextDueSchedule input w.schedules with
  | (none, _) => none
  | (some schedule, schedules) =>
      let result := triggerClaimedSchedule computeNextScheduledRun schedule (triggers schedule.id)
        schedules
      some (⟨result.1, if result.2.2 then schedule.id :: w.triggered else w.triggered⟩, result.2.2)

/-- One step of `n` calls of `runDueSchedules`: a round of the call under way.  The
loop returns when no schedule is due and when a trigger fails, and then the next
call begins. -/
def runDueSchedules (inputs : ℕ → ℕ → ClaimInput) (n : ℕ) (s : RunnerState) : RunnerState :=
  if s.passes < n then
    match runOnce computeNextScheduledRun triggers (inputs s.passes s.round) s.world with
    | none => { s with passes := s.passes + 1, round := 0 }
    | some (w, true) => { s with world := w, round := s.round + 1 }
    | some (w, false) => { world := w, passes := s.passes + 1, round := 0 }
  else s

/-! ## Healthy and failing schedules -/

/-- The trigger of the schedule would answer `ok`. -/
def isHealthy (schedule : ScheduledTaskEntity) : Bool :=
  triggerOk (triggerBody computeNextScheduledRun schedule (triggers schedule.id)).2
    (triggers schedule.id).eventError

/-- The trigger of the schedule would fail before it writes `nextRunAt`. -/
def isStuck (schedule : ScheduledTaskEntity) : Bool :=
  !(triggerBody computeNextScheduledRun schedule (triggers schedule.id)).2.advances

/-- The row a trigger of the schedule leaves. -/
def afterTrigger (schedule : ScheduledTaskEntity) : ScheduledTaskEntity :=
  (triggerBody computeNextScheduledRun schedule (triggers schedule.id)).2.set
    (triggers schedule.id).now schedule

/-- The schedules that are due when the passes begin. -/
def isDueAt (input : ClaimInput) (schedule : ScheduledTaskEntity) : Bool :=
  isCandidate input.now input.archived schedule

/-- The ids of the due schedules. -/
def dueSchedules (input : ClaimInput) (rows : List ScheduledTaskEntity) : List Uuid :=
  (rows.filter (isDueAt input)).map (·.id)

/-- No new schedule becomes due during the passes: neither for a row nor for those
its triggers leave does it matter when the runner looks. -/
def NoNewDue (clock : ℕ → ℕ → ClaimInput) (rows : List ScheduledTaskEntity) : Prop :=
  ∀ row ∈ rows, ∀ k i j,
    isDueAt (clock i j) ((afterTrigger computeNextScheduledRun triggers)^[k] row)
      = isDueAt (clock 0 0) ((afterTrigger computeNextScheduledRun triggers)^[k] row)

/-- Every schedule that was due and healthy has been triggered. -/
def AllTriggered (input : ClaimInput) (rows : List ScheduledTaskEntity) (w : RunnerWorld) : Prop :=
  ∀ healthy ∈ rows, isDueAt input healthy = true →
    isHealthy computeNextScheduledRun triggers healthy = true → healthy.id ∈ w.triggered

/-! ## The condition -/

/-- What a trigger costs: the rest of its pass, unless it answers `ok`. -/
def cost (schedule : ScheduledTaskEntity) : ℕ :=
  if isHealthy computeNextScheduledRun triggers schedule then 0 else 1

/-- After `turns` triggers the schedule stands behind `healthy`: each of them wrote
`nextRunAt`, and `failures` of them ended their pass all the same, since the event
could not be recorded. -/
inductive GivesWay (healthy : ScheduledTaskEntity) : ScheduledTaskEntity → ℕ → ℕ → Prop
  | behind {schedule : ScheduledTaskEntity} (h : RunsBefore healthy schedule) :
      GivesWay healthy schedule 0 0
  | moved {schedule : ScheduledTaskEntity} {turns failures : ℕ}
      (hahead : ¬ RunsBefore healthy schedule)
      (hmoves : isStuck computeNextScheduledRun triggers schedule = false)
      (hrest : GivesWay healthy (afterTrigger computeNextScheduledRun triggers schedule)
        turns failures) :
      GivesWay healthy schedule (turns + 1)
        (failures + cost computeNextScheduledRun triggers schedule)

/-- Each of the schedules gives way to `healthy`. -/
def WayCleared (healthy : ScheduledTaskEntity) (ids : Finset Uuid)
    (rows : List ScheduledTaskEntity) (turns failures : Uuid → ℕ) : Prop :=
  ∀ row ∈ rows, row.id ∈ ids →
    GivesWay computeNextScheduledRun triggers healthy row (turns row.id) (failures row.id)

/-- The due schedules other than `healthy`. -/
def otherDue (input : ClaimInput) (rows : List ScheduledTaskEntity)
    (healthy : ScheduledTaskEntity) : Finset Uuid :=
  (dueSchedules input rows).toFinset.erase healthy.id

/-- Every other due schedule gives way to a healthy one, and the failures on the way
end fewer passes than there are due schedules. -/
def NoneInTheWay (input : ClaimInput) (rows : List ScheduledTaskEntity) : Prop :=
  ∀ healthy ∈ rows, isDueAt input healthy = true →
    isHealthy computeNextScheduledRun triggers healthy = true →
    ∃ turns failures : Uuid → ℕ,
      WayCleared computeNextScheduledRun triggers healthy (otherDue input rows healthy) rows
        turns failures ∧
      ∑ id ∈ otherDue input rows healthy, failures id < (dueSchedules input rows).length

end

/-- The inputs of the passes with the database's choices among ties. -/
def withRanks (clock : ℕ → ℕ → ClaimInput) (ranks : ℕ → ℕ → Uuid → ℕ) (i j : ℕ) : ClaimInput :=
  { clock i j with rank := ranks i j }

/-! ## One round -/

variable {computeNextScheduledRun : ScheduledTaskTiming → ℤ → Except String ℤ}
  {triggers : Uuid → TriggerInput}

theorem afterTrigger_id (schedule : ScheduledTaskEntity) :
    (afterTrigger computeNextScheduledRun triggers schedule).id = schedule.id :=
  TriggerOutcome.set_id _ _ _

/-- What one round does: it takes a due schedule with none before it, and rewrites
that row alone. -/
structure TakesDue (computeNextScheduledRun : ScheduledTaskTiming → ℤ → Except String ℤ)
    (triggers : Uuid → TriggerInput) (input : ClaimInput) (w : RunnerWorld)
    (due : ScheduledTaskEntity) (w' : RunnerWorld) : Prop where
  mem : due ∈ w.schedules.rows
  isDue : isDueAt input due = true
  first : ∀ row ∈ w.schedules.rows, isDueAt input row = true → DueBefore input.rank due row
  rows : ∀ row, row ∈ w'.schedules.rows ↔ (row ∈ w.schedules.rows ∧ row.id ≠ due.id) ∨
    row = afterTrigger computeNextScheduledRun triggers due
  triggered : w'.triggered = if isHealthy computeNextScheduledRun triggers due
    then due.id :: w.triggered else w.triggered

/-- **One round.**  Either no schedule is due, or the first due one is triggered. -/
theorem runOnce_cases (computeNextScheduledRun : ScheduledTaskTiming → ℤ → Except String ℤ)
    (triggers : Uuid → TriggerInput) (input : ClaimInput) (w : RunnerWorld) :
    (runOnce computeNextScheduledRun triggers input w = none ∧
      ∀ row ∈ w.schedules.rows, isDueAt input row = false) ∨
    ∃ due w', runOnce computeNextScheduledRun triggers input w
        = some (w', isHealthy computeNextScheduledRun triggers due) ∧
      TakesDue computeNextScheduledRun triggers input w due w' := by
  cases hcand : candidate input w.schedules.rows with
  | none =>
      left
      refine ⟨?_, candidate_eq_none.mp hcand⟩
      simp only [runOnce, claimNextDueSchedule, hcand]
  | some due =>
      right
      obtain ⟨hmem, hdue, hfirst⟩ := candidate_eq_some hcand
      have hok : (triggerClaimedSchedule computeNextScheduledRun (claimedWith input due)
          (triggers due.id) (claimById input due.id w.schedules)).2.2
          = isHealthy computeNextScheduledRun triggers due := by
        -- a trigger does not look at the claim columns
        simp only [triggerClaimedSchedule, triggerBody_claimedWith, isHealthy]
      have hget : ∀ id, (triggerClaimedSchedule computeNextScheduledRun (claimedWith input due)
          (triggers due.id) (claimById input due.id w.schedules)).1.get id
          = (w.schedules.get id).map fun row =>
              if row.id = due.id then afterTrigger computeNextScheduledRun triggers due
              else row := by
        intro id
        rw [get_trigger_claimed hcand]
        rfl
      refine ⟨due, ⟨(triggerClaimedSchedule computeNextScheduledRun (claimedWith input due)
        (triggers due.id) (claimById input due.id w.schedules)).1,
        if isHealthy computeNextScheduledRun triggers due then due.id :: w.triggered
        else w.triggered⟩, ?_, hmem, hdue, hfirst, ?_, rfl⟩
      · simp only [runOnce, claimNextDueSchedule_eq hcand, claimedWith_id, hok]
      · intro row
        rw [Table.mem_rows_iff, hget]
        constructor
        · intro hrow
          obtain ⟨old, hold, hnew⟩ := Option.map_eq_some_iff.mp hrow
          by_cases hsame : old.id = due.id
          · rw [if_pos hsame] at hnew
            exact Or.inr hnew.symm
          · rw [if_neg hsame] at hnew
            subst hnew
            exact Or.inl ⟨Table.mem_of_get hold, hsame⟩
        · rintro (⟨hold, hne⟩ | rfl)
          · rw [Table.get_of_mem hold, Option.map_some, if_neg hne]
          · rw [afterTrigger_id, Table.get_of_mem hmem, Option.map_some, if_pos rfl]

/-- The row a round took is the only one with its id. -/
theorem TakesDue.eq_of_id {input : ClaimInput} {w w' : RunnerWorld} {due row : ScheduledTaskEntity}
    (h : TakesDue computeNextScheduledRun triggers input w due w') (hrow : row ∈ w.schedules.rows)
    (hid : row.id = due.id) : row = due := by
  have hget := Table.get_of_mem hrow
  rw [hid, Table.get_of_mem h.mem] at hget
  exact (Option.some.inj hget).symm

/-! ### The row after its trigger -/

/-- A trigger that fails before its UPDATE leaves all but the claim and the error. -/
theorem afterTrigger_stuck {schedule : ScheduledTaskEntity}
    (h : isStuck computeNextScheduledRun triggers schedule = true) :
    ∃ message, afterTrigger computeNextScheduledRun triggers schedule
      = { schedule with lastError := some message, leaseUntil := none, claimedBy := none,
                        claimToken := none } := by
  unfold isStuck at h
  unfold afterTrigger
  cases hout : (triggerBody computeNextScheduledRun schedule (triggers schedule.id)).2 with
  | failed message => exact ⟨message, rfl⟩
  | noTargets nextRunAt => simp [hout, TriggerOutcome.advances] at h
  | succeeded taskId nextRunAt => simp [hout, TriggerOutcome.advances] at h

/-- A healthy schedule is not stuck. -/
theorem not_stuck_of_healthy {schedule : ScheduledTaskEntity}
    (h : isHealthy computeNextScheduledRun triggers schedule = true) :
    isStuck computeNextScheduledRun triggers schedule = false := by
  unfold isHealthy at h
  unfold isStuck
  cases hout : (triggerBody computeNextScheduledRun schedule (triggers schedule.id)).2 with
  | failed message => simp [hout, triggerOk] at h
  | noTargets nextRunAt => rfl
  | succeeded taskId nextRunAt => rfl

/-- A failed trigger leaves the schedule as stuck as it was. -/
theorem isStuck_claimColumns (schedule : ScheduledTaskEntity) (lastError : Option String)
    (leaseUntil : Option ℤ) (claimedBy : Option String) (claimToken : Option Uuid) :
    isStuck computeNextScheduledRun triggers
      { schedule with lastError, leaseUntil, claimedBy, claimToken }
      = isStuck computeNextScheduledRun triggers schedule := by
  simp only [isStuck, triggerBody_claimColumns]

/-- A schedule that stands before `healthy` gives way only by a trigger that writes
`nextRunAt`: a stuck one stays where it is. -/
theorem GivesWay.not_stuck {healthy schedule : ScheduledTaskEntity} {turns failures : ℕ}
    (h : GivesWay computeNextScheduledRun triggers healthy
      (afterTrigger computeNextScheduledRun triggers schedule) turns failures)
    (hahead : ¬ RunsBefore healthy schedule) :
    isStuck computeNextScheduledRun triggers schedule = false := by
  by_contra hstuck
  rw [Bool.not_eq_false] at hstuck
  obtain ⟨message, hafter⟩ := afterTrigger_stuck hstuck
  rw [hafter] at h
  cases h with
  | behind hbehind => exact hahead hbehind
  | moved _ hmoves _ =>
      rw [isStuck_claimColumns, hstuck] at hmoves
      exact Bool.false_ne_true hmoves.symm

/-- A schedule that stands before `healthy` takes its first turn. -/
theorem GivesWay.turn {healthy schedule : ScheduledTaskEntity} {turns failures : ℕ}
    (h : GivesWay computeNextScheduledRun triggers healthy schedule turns failures)
    (hahead : ¬ RunsBefore healthy schedule) :
    ∃ turns' failures', turns = turns' + 1 ∧
      failures = failures' + cost computeNextScheduledRun triggers schedule ∧
      GivesWay computeNextScheduledRun triggers healthy
        (afterTrigger computeNextScheduledRun triggers schedule) turns' failures' := by
  cases h with
  | behind hbehind => exact absurd hbehind hahead
  | moved _ _ hrest => exact ⟨_, _, rfl, rfl, hrest⟩

/-- A due schedule that was triggered is due again, or its next run is later. -/
theorem due_or_later (input : ClaimInput) {schedule : ScheduledTaskEntity}
    (h : isDueAt input schedule = true) :
    isDueAt input (afterTrigger computeNextScheduledRun triggers schedule) = true ∨
      input.now < dueAt (afterTrigger computeNextScheduledRun triggers schedule) := by
  obtain ⟨hclaim, hworkspace⟩ := isCandidate_iff.mp h
  obtain ⟨henabled, ⟨nextRunAt, hnext, hle⟩, -⟩ := isClaimable_iff.mp hclaim
  have hreleased := TriggerOutcome.set_released (triggers schedule.id).now
    (triggerBody computeNextScheduledRun schedule (triggers schedule.id)).2 schedule
  -- whatever the outcome, the row is enabled, unclaimed and has a next run
  have hkept : ∃ run,
      (afterTrigger computeNextScheduledRun triggers schedule).nextRunAt = some run ∧
      (afterTrigger computeNextScheduledRun triggers schedule).enabled = true ∧
      (afterTrigger computeNextScheduledRun triggers schedule).workspaceId
        = schedule.workspaceId := by
    unfold afterTrigger
    cases (triggerBody computeNextScheduledRun schedule (triggers schedule.id)).2 with
    | failed message => exact ⟨nextRunAt, hnext, henabled, rfl⟩
    | noTargets run => exact ⟨run, rfl, henabled, rfl⟩
    | succeeded taskId run => exact ⟨run, rfl, henabled, rfl⟩
  obtain ⟨run, hrun, henabled', hworkspace'⟩ := hkept
  by_cases hlate : run ≤ input.now
  · left
    refine isCandidate_iff.mpr ⟨isClaimable_iff.mpr ⟨henabled', ⟨run, hrun, hlate⟩, ?_⟩, ?_⟩
    · intro leaseUntil hlease
      rw [afterTrigger, hreleased.2] at hlease
      cases hlease
    · rw [hworkspace']
      exact hworkspace
  · right
    simp only [dueAt, hrun, Option.getD_some]
    omega

/-! ## What a round preserves -/

section

variable {clock : ℕ → ℕ → ClaimInput} {ids : Finset Uuid} {healthy : ScheduledTaskEntity}

/-- A healthy schedule waits for its trigger; `ids` are the other schedules that were
due when the passes began. -/
structure Waits (computeNextScheduledRun : ScheduledTaskTiming → ℤ → Except String ℤ)
    (triggers : Uuid → TriggerInput) (clock : ℕ → ℕ → ClaimInput) (ids : Finset Uuid)
    (healthy : ScheduledTaskEntity) (w : RunnerWorld) : Prop where
  noNewDue : NoNewDue computeNextScheduledRun triggers clock w.schedules.rows
  waiting : healthy ∈ w.schedules.rows
  isDue : isDueAt (clock 0 0) healthy = true
  other : healthy.id ∉ ids
  covered : ∀ row ∈ w.schedules.rows, isDueAt (clock 0 0) row = true →
    row.id = healthy.id ∨ row.id ∈ ids
  late : ∀ row ∈ w.schedules.rows, row.id ∈ ids →
    isDueAt (clock 0 0) row = true ∨ (clock 0 0).now < dueAt row

variable {w w' : RunnerWorld} {due : ScheduledTaskEntity} {i j : ℕ} {rank : Uuid → ℕ}

/-- What is due does not depend on when the runner looks. -/
theorem Waits.isDueAt_eq (h : Waits computeNextScheduledRun triggers clock ids healthy w)
    {row : ScheduledTaskEntity} (hrow : row ∈ w.schedules.rows) (i j : ℕ) :
    isDueAt (clock i j) row = isDueAt (clock 0 0) row :=
  h.noNewDue row hrow 0 i j

/-- A round of a waiting schedule takes some schedule. -/
theorem Waits.takes (h : Waits computeNextScheduledRun triggers clock ids healthy w)
    (ranks : ℕ → ℕ → Uuid → ℕ) (i j : ℕ) :
    ∃ due w', runOnce computeNextScheduledRun triggers (withRanks clock ranks i j) w
        = some (w', isHealthy computeNextScheduledRun triggers due) ∧
      TakesDue computeNextScheduledRun triggers { clock i j with rank := ranks i j } w due w' := by
  rcases runOnce_cases computeNextScheduledRun triggers (withRanks clock ranks i j) w with
    ⟨-, hnone⟩ | htakes
  · have hdue := h.isDue
    rw [← h.isDueAt_eq h.waiting i j] at hdue
    exact absurd (hdue.symm.trans (hnone healthy h.waiting)) Bool.noConfusion
  · exact htakes

/-- A round that takes another schedule takes one of `ids`, which does not stand
behind the waiting one. -/
theorem Waits.taken (h : Waits computeNextScheduledRun triggers clock ids healthy w)
    (htakes : TakesDue computeNextScheduledRun triggers { clock i j with rank := rank } w due w')
    (hne : due.id ≠ healthy.id) : due.id ∈ ids ∧ ¬ RunsBefore healthy due := by
  have hdue : isDueAt (clock i j) due = true := htakes.isDue
  have hchosen := htakes.first healthy h.waiting ((h.isDueAt_eq h.waiting i j).trans h.isDue)
  rw [h.isDueAt_eq htakes.mem] at hdue
  refine ⟨(h.covered due htakes.mem hdue).resolve_left hne, fun hbehind => ?_⟩
  unfold RunsBefore at hbehind
  unfold DueBefore at hchosen
  omega

/-- **One round** that takes another schedule leaves the healthy one waiting. -/
theorem Waits.round (h : Waits computeNextScheduledRun triggers clock ids healthy w)
    (htakes : TakesDue computeNextScheduledRun triggers { clock i j with rank := rank } w due w')
    (hne : due.id ≠ healthy.id) :
    Waits computeNextScheduledRun triggers clock ids healthy w' := by
  have hid : (afterTrigger computeNextScheduledRun triggers due).id = due.id := afterTrigger_id due
  have hdue : isDueAt (clock 0 0) due = true := by
    rw [← h.isDueAt_eq htakes.mem i j]
    exact htakes.isDue
  constructor
  · intro row hrow k i' j'
    rcases (htakes.rows row).mp hrow with ⟨hold, -⟩ | rfl
    · exact h.noNewDue row hold k i' j'
    · exact h.noNewDue due htakes.mem (k + 1) i' j'
  · exact (htakes.rows healthy).mpr (Or.inl ⟨h.waiting, hne.symm⟩)
  · exact h.isDue
  · exact h.other
  · intro row hrow hrowDue
    rcases (htakes.rows row).mp hrow with ⟨hold, -⟩ | rfl
    · exact h.covered row hold hrowDue
    · rw [hid]
      exact Or.inr (h.taken htakes hne).1
  · intro row hrow hmem
    rcases (htakes.rows row).mp hrow with ⟨hold, -⟩ | rfl
    · exact h.late row hold hmem
    · exact due_or_later (clock 0 0) hdue

/-! ### The way to the healthy schedule -/

variable {turns failures : Uuid → ℕ}

/-- A round that takes another schedule leaves it one turn fewer. -/
theorem WayCleared.round
    (hway : WayCleared computeNextScheduledRun triggers healthy ids w.schedules.rows turns failures)
    (h : Waits computeNextScheduledRun triggers clock ids healthy w)
    (htakes : TakesDue computeNextScheduledRun triggers { clock i j with rank := rank } w due w')
    (hne : due.id ≠ healthy.id) :
    ∃ turns' failures' : Uuid → ℕ,
      WayCleared computeNextScheduledRun triggers healthy ids w'.schedules.rows turns' failures' ∧
      ∑ id ∈ ids, turns' id < ∑ id ∈ ids, turns id ∧
      ∑ id ∈ ids, failures' id + cost computeNextScheduledRun triggers due
        = ∑ id ∈ ids, failures id := by
  obtain ⟨hmem, hahead⟩ := h.taken htakes hne
  obtain ⟨left, fewer, hturns, hcount, hrest⟩ := (hway due htakes.mem hmem).turn hahead
  refine ⟨Function.update turns due.id left, Function.update failures due.id fewer, ?_, ?_, ?_⟩
  · intro row hrow hrowMem
    rcases (htakes.rows row).mp hrow with ⟨hold, hother⟩ | rfl
    · rw [Function.update_of_ne hother, Function.update_of_ne hother]
      exact hway row hold hrowMem
    · rw [afterTrigger_id, Function.update_self, Function.update_self]
      exact hrest
  · rw [Finset.sum_update_of_mem hmem, Finset.sdiff_singleton_eq_erase,
      ← Finset.add_sum_erase ids turns hmem]
    omega
  · rw [Finset.sum_update_of_mem hmem, Finset.sdiff_singleton_eq_erase,
      ← Finset.add_sum_erase ids failures hmem]
    omega

/-- The way there was before a round, when there is one after it. -/
theorem WayCleared.before
    (hway : WayCleared computeNextScheduledRun triggers healthy ids w'.schedules.rows turns
      failures)
    (h : Waits computeNextScheduledRun triggers clock ids healthy w)
    (htakes : TakesDue computeNextScheduledRun triggers { clock i j with rank := rank } w due w')
    (hne : due.id ≠ healthy.id) :
    ∃ turns' failures' : Uuid → ℕ,
      WayCleared computeNextScheduledRun triggers healthy ids w.schedules.rows turns' failures' ∧
      ∑ id ∈ ids, failures' id
        = ∑ id ∈ ids, failures id + cost computeNextScheduledRun triggers due := by
  obtain ⟨hmem, hahead⟩ := h.taken htakes hne
  have hid : (afterTrigger computeNextScheduledRun triggers due).id = due.id := afterTrigger_id due
  have hrest := hway _ ((htakes.rows _).mpr (Or.inr rfl)) (by rw [hid]; exact hmem)
  rw [hid] at hrest
  refine ⟨Function.update turns due.id (turns due.id + 1),
    Function.update failures due.id
      (failures due.id + cost computeNextScheduledRun triggers due), ?_, ?_⟩
  · intro row hrow hrowMem
    by_cases hsame : row.id = due.id
    · obtain rfl := htakes.eq_of_id hrow hsame
      rw [Function.update_self, Function.update_self]
      exact .moved hahead (hrest.not_stuck hahead) hrest
    · rw [Function.update_of_ne hsame, Function.update_of_ne hsame]
      exact hway row ((htakes.rows row).mpr (Or.inl ⟨hrow, hsame⟩)) hrowMem
  · rw [Finset.sum_update_of_mem hmem, Finset.sdiff_singleton_eq_erase,
      ← Finset.add_sum_erase ids failures hmem]
    omega

/-! ## The steps of the passes -/

section

variable (inputs : ℕ → ℕ → ClaimInput) (n : ℕ)

/-- A step of a pass under way, whose round takes a schedule. -/
theorem runDueSchedules_of_takes {s : RunnerState} (hpass : s.passes < n)
    (hround : runOnce computeNextScheduledRun triggers (inputs s.passes s.round) s.world
      = some (w', isHealthy computeNextScheduledRun triggers due)) :
    (runDueSchedules computeNextScheduledRun triggers inputs n s).world = w' ∧
      (runDueSchedules computeNextScheduledRun triggers inputs n s).passes
        = s.passes + cost computeNextScheduledRun triggers due := by
  cases hhealthy : isHealthy computeNextScheduledRun triggers due with
  | false =>
      rw [hhealthy] at hround
      simp [runDueSchedules, hpass, hround, cost, hhealthy]
  | true =>
      rw [hhealthy] at hround
      simp [runDueSchedules, hpass, hround, cost, hhealthy]

/-- After the last pass nothing moves. -/
theorem runDueSchedules_of_done {s : RunnerState} (hdone : ¬ s.passes < n) :
    runDueSchedules computeNextScheduledRun triggers inputs n s = s := by
  rw [runDueSchedules, if_neg hdone]

/-- A step keeps what was triggered. -/
theorem triggered_step {s : RunnerState} {id : Uuid} (h : id ∈ s.world.triggered) :
    id ∈ (runDueSchedules computeNextScheduledRun triggers inputs n s).world.triggered := by
  by_cases hpass : s.passes < n
  · rcases runOnce_cases computeNextScheduledRun triggers (inputs s.passes s.round) s.world with
      ⟨hround, -⟩ | ⟨due, w', hround, htakes⟩
    · simp only [runDueSchedules, hpass, if_true, hround]
      exact h
    · rw [(runDueSchedules_of_takes inputs n hpass hround).1, htakes.triggered]
      split
      · exact List.mem_cons_of_mem _ h
      · exact h
  · rw [runDueSchedules_of_done inputs n hpass]
    exact h

/-- Later steps keep what was triggered. -/
theorem triggered_later {s : RunnerState} {id : Uuid} {t t' : ℕ} (hle : t ≤ t')
    (h : id ∈ ((runDueSchedules computeNextScheduledRun triggers inputs n)^[t] s).world.triggered) :
    id ∈ ((runDueSchedules computeNextScheduledRun triggers inputs n)^[t'] s).world.triggered := by
  induction hle with
  | refl => exact h
  | step _ ih =>
      rw [Function.iterate_succ_apply']
      exact triggered_step inputs n ih

/-- Schedules that are triggered one by one are all triggered at one time. -/
theorem exists_step_all {s : RunnerState} (ids : List Uuid)
    (h : ∀ id ∈ ids, ∃ t,
      id ∈ ((runDueSchedules computeNextScheduledRun triggers inputs n)^[t] s).world.triggered) :
    ∃ t, ∀ id ∈ ids,
      id ∈ ((runDueSchedules computeNextScheduledRun triggers inputs n)^[t] s).world.triggered := by
  induction ids with
  | nil => exact ⟨0, fun id hid => absurd hid List.not_mem_nil⟩
  | cons first rest ih =>
      obtain ⟨t, ht⟩ := h first List.mem_cons_self
      obtain ⟨t', ht'⟩ := ih fun id hid => h id (List.mem_cons_of_mem _ hid)
      refine ⟨max t t', fun id hid => ?_⟩
      rcases List.mem_cons.mp hid with rfl | hrest
      · exact triggered_later inputs n (le_max_left t t') ht
      · exact triggered_later inputs n (le_max_right t t') (ht' id hrest)

end

/-- **The way is enough**: whatever the database does with ties, a schedule that all
others give way to within the passes is triggered. -/
theorem Waits.served (ranks : ℕ → ℕ → Uuid → ℕ) {n : ℕ} {s : RunnerState}
    (hwaits : Waits computeNextScheduledRun triggers clock ids healthy s.world)
    (hhealthy : isHealthy computeNextScheduledRun triggers healthy = true)
    (hway : WayCleared computeNextScheduledRun triggers healthy ids s.world.schedules.rows
      turns failures)
    (hpasses : s.passes + ∑ id ∈ ids, failures id < n) :
    ∃ t, healthy.id ∈ ((runDueSchedules computeNextScheduledRun triggers
      (withRanks clock ranks) n)^[t] s).world.triggered := by
  -- every round takes the healthy schedule, or leaves one turn fewer
  induction hleft : ∑ id ∈ ids, turns id using Nat.strong_induction_on
    generalizing s turns failures with
  | _ left ih =>
      obtain ⟨due, w', hround, htakes⟩ := hwaits.takes ranks s.passes s.round
      obtain ⟨hworld, hpass⟩ := runDueSchedules_of_takes (withRanks clock ranks) n
        (by omega) hround
      by_cases hsame : healthy.id = due.id
      · obtain rfl := htakes.eq_of_id hwaits.waiting hsame
        refine ⟨1, ?_⟩
        rw [Function.iterate_one, hworld, htakes.triggered, if_pos hhealthy]
        exact List.mem_cons_self
      · have hne : due.id ≠ healthy.id := fun heq => hsame heq.symm
        obtain ⟨turns', failures', hway', hfewer, hcost⟩ := hway.round hwaits htakes hne
        have hwaits' := hwaits.round htakes hne
        rw [← hworld] at hwaits' hway'
        obtain ⟨t, ht⟩ := ih _ (by omega) hwaits' hway' (by omega) rfl
        refine ⟨t + 1, ?_⟩
        rw [Function.iterate_succ_apply]
        exact ht

/-- The choice among ties that puts one schedule last. -/
def lastOf (id other : Uuid) : ℕ := if other = id then 1 else 0

/-- A healthy schedule that is put last among ties is taken only when all others
stand behind it. -/
theorem Waits.wayCleared_of_taken
    (h : Waits computeNextScheduledRun triggers clock ids healthy w)
    (htakes : TakesDue computeNextScheduledRun triggers
      { clock i j with rank := lastOf healthy.id } w healthy w') :
    WayCleared computeNextScheduledRun triggers healthy ids w.schedules.rows
      (fun _ => 0) fun _ => 0 := by
  intro row hrow hmem
  have hne : row.id ≠ healthy.id := fun heq => h.other (heq ▸ hmem)
  refine .behind ?_
  rcases h.late row hrow hmem with hdue | hlater
  · have hchosen := htakes.first row hrow ((h.isDueAt_eq hrow i j).trans hdue)
    have hrank : lastOf healthy.id healthy.id = 1 := if_pos rfl
    have hrank' : lastOf healthy.id row.id = 0 := if_neg hne
    unfold DueBefore at hchosen
    unfold RunsBefore
    simp only [hrank, hrank'] at hchosen
    omega
  · obtain ⟨nextRunAt, hnext, hle⟩ :=
      (isClaimable_iff.mp (isCandidate_iff.mp h.isDue).1).2.1
    have hdueAt : dueAt healthy = nextRunAt := by rw [dueAt, hnext, Option.getD_some]
    unfold RunsBefore
    omega

/-- **The way is needed**: a schedule that is triggered although it comes last among
ties had every other one give way to it within the passes. -/
theorem Waits.wayCleared_of_served {n t : ℕ} {s : RunnerState}
    (hwaits : Waits computeNextScheduledRun triggers clock ids healthy s.world)
    (hnot : healthy.id ∉ s.world.triggered)
    (hserved : healthy.id ∈ ((runDueSchedules computeNextScheduledRun triggers
      (withRanks clock fun _ _ => lastOf healthy.id) n)^[t] s).world.triggered) :
    ∃ turns failures : Uuid → ℕ,
      WayCleared computeNextScheduledRun triggers healthy ids s.world.schedules.rows
        turns failures ∧
      s.passes + ∑ id ∈ ids, failures id < n := by
  induction t generalizing s with
  | zero => exact absurd hserved hnot
  | succ t ih =>
      rw [Function.iterate_succ_apply] at hserved
      by_cases hpasses : s.passes < n
      · obtain ⟨due, w', hround, htakes⟩ :=
          hwaits.takes (fun _ _ => lastOf healthy.id) s.passes s.round
        obtain ⟨hworld, hpass⟩ := runDueSchedules_of_takes
          (withRanks clock fun _ _ => lastOf healthy.id) n hpasses hround
        by_cases hsame : healthy.id = due.id
        · obtain rfl := htakes.eq_of_id hwaits.waiting hsame
          exact ⟨_, _, hwaits.wayCleared_of_taken htakes, by simpa using hpasses⟩
        · have hne : due.id ≠ healthy.id := fun heq => hsame heq.symm
          have hwaits' := hwaits.round htakes hne
          have hnot' : healthy.id ∉ w'.triggered := by
            rw [htakes.triggered]
            split
            · rw [List.mem_cons, not_or]
              exact ⟨hsame, hnot⟩
            · exact hnot
          rw [← hworld] at hwaits' hnot'
          obtain ⟨turns, failures, hway, hfew⟩ := ih hwaits' hnot' hserved
          rw [hworld] at hway
          obtain ⟨turns', failures', hway', hcost⟩ := hway.before hwaits htakes hne
          exact ⟨turns', failures', hway', by omega⟩
      · rw [runDueSchedules_of_done _ n hpasses] at hserved
        exact ih hwaits hnot hserved

end

/-! ## The condition of the passes -/

theorem mem_dueSchedules {input : ClaimInput} {rows : List ScheduledTaskEntity} {id : Uuid} :
    id ∈ dueSchedules input rows ↔ ∃ row ∈ rows, isDueAt input row = true ∧ row.id = id := by
  simp [dueSchedules, and_assoc]

/-- Every due schedule waits when the passes begin. -/
theorem waits_at_start {clock : ℕ → ℕ → ClaimInput} {schedules : Table ScheduledTaskEntity.id}
    (hno : NoNewDue computeNextScheduledRun triggers clock schedules.rows)
    {healthy : ScheduledTaskEntity} (hmem : healthy ∈ schedules.rows)
    (hdue : isDueAt (clock 0 0) healthy = true) :
    Waits computeNextScheduledRun triggers clock (otherDue (clock 0 0) schedules.rows healthy)
      healthy { schedules := schedules } := by
  have hother : ∀ id, id ∈ otherDue (clock 0 0) schedules.rows healthy ↔
      id ≠ healthy.id ∧ ∃ row ∈ schedules.rows, isDueAt (clock 0 0) row = true ∧ row.id = id := by
    intro id
    rw [otherDue, Finset.mem_erase, List.mem_toFinset, mem_dueSchedules]
  refine ⟨hno, hmem, hdue, fun h => ((hother _).mp h).1 rfl, ?_, ?_⟩
  · intro row hrow hrowDue
    rw [hother]
    by_cases hsame : row.id = healthy.id
    · exact Or.inl hsame
    · exact Or.inr ⟨hsame, row, hrow, hrowDue, rfl⟩
  · intro row hrow hid
    obtain ⟨-, found, hfound, hfoundDue, hfoundId⟩ := (hother _).mp hid
    have hget := Table.get_of_mem hfound
    rw [hfoundId, Table.get_of_mem hrow] at hget
    obtain rfl := Option.some.inj hget
    exact Or.inl hfoundDue

/-- A turn whose trigger answers `ok` costs no pass. -/
theorem GivesWay.succeeded {healthy schedule : ScheduledTaskEntity} {turns failures : ℕ}
    (hahead : ¬ RunsBefore healthy schedule)
    (hok : isHealthy computeNextScheduledRun triggers schedule = true)
    (hrest : GivesWay computeNextScheduledRun triggers healthy
      (afterTrigger computeNextScheduledRun triggers schedule) turns failures) :
    GivesWay computeNextScheduledRun triggers healthy schedule (turns + 1) failures := by
  have hmoved := GivesWay.moved hahead (not_stuck_of_healthy hok) hrest
  rw [cost, if_pos hok] at hmoved
  exact hmoved

/-- A minutely schedule on one node. -/
def nodeSchedule (id : Uuid) (nextRunAt : ℤ) : ScheduledTaskEntity where
  id := id
  workspaceId := "w"
  nodeId := some "n"
  timing := { cadence := .minutely }
  nextRunAt := some nextRunAt
  createdAt := 0

/-- The node of every schedule but one is found. -/
def allButFailing (id : Uuid) : TriggerInput where
  node := if id = "failing" then .error "Node n was not found"
    else .ok { id := "n", workspaceId := "w", hostname := "n" }
  queue := fun nodeId => .queued nodeId

/-- The runner looks at one instant, later than all the schedules. -/
def oneInstant (_ _ : ℕ) : ClaimInput := { now := 200000 }

/-- Three due schedules, of which the first one is late by three runs. -/
def lateFirst : Table ScheduledTaskEntity.id :=
  ((Table.empty.insert (nodeSchedule "late" 0)).insert (nodeSchedule "healthy" 150000)).insert
    (nodeSchedule "failing" 160000)

/-- Two due schedules. -/
def failingFirst : Table ScheduledTaskEntity.id :=
  (Table.empty.insert (nodeSchedule "healthy" 500)).insert (nodeSchedule "failing" 0)

/-- The late schedule comes to a run behind the healthy one, and the failing one
stands behind it. -/
theorem lateFirst_noneInTheWay :
    NoneInTheWay everyMinute allButFailing (oneInstant 0 0) lateFirst.rows := by
  intro healthy hmem hdue hhealthy
  have hrows : lateFirst.rows = [nodeSchedule "late" 0, nodeSchedule "healthy" 150000,
    nodeSchedule "failing" 160000] := by decide
  refine ⟨fun id => if id = "late" ∧ healthy.id ≠ id then 3 else 0, fun _ => 0, ?_, by simp; decide⟩
  intro row hrow hother
  have hne : row.id ≠ healthy.id := (Finset.mem_erase.mp hother).1
  rw [hrows] at hmem hrow
  simp only [List.mem_cons, List.not_mem_nil, or_false] at hmem hrow
  rcases hmem with rfl | rfl | rfl
  · rcases hrow with rfl | rfl | rfl
    · exact absurd rfl hne
    · exact .behind (by decide)
    · exact .behind (by decide)
  · rcases hrow with rfl | rfl | rfl
    · exact .succeeded (by decide) (by decide) (.succeeded (by decide) (by decide)
        (.succeeded (by decide) (by decide) (.behind (by decide))))
    · exact absurd rfl hne
    · exact .behind (by decide)
  · exact absurd hhealthy (by decide)

end ScheduledTasksService
