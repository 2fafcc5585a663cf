/-
# Scheduled tasks

The rows of `scheduled_tasks`, the statements of `ScheduledTasksService` on them,
and the body of `triggerClaimedSchedule`: what it queues for each target, and
which UPDATE it ends with.

The next run of a schedule is computed by `computeNextScheduledRun`, a function of
its timing and an instant; what follows holds for every function in its place.
-/
import NoderaxApi.Common
import NoderaxApi.KeyedTable
import NoderaxApi.RootAccess
import NoderaxApi.TaskEntity
import Mathlib.Data.List.Sort

open KeyedTable

/-! ## The row -/

/-- `ScheduledTaskCadence`. -/
inductive ScheduledTaskCadence
  | minutely
  | custom
  | hourly
  | daily
  | weekly
  deriving DecidableEq, Repr

/-- `ScheduledTaskTiming`: the columns that say when a schedule runs. -/
structure ScheduledTaskTiming where
  cadence : ScheduledTaskCadence
  minute : ℕ := 0
  hour : Option ℕ := none
  dayOfWeek : Option ℕ := none
  intervalMinutes : Option ℕ := none
  timezone : String := "UTC"
  deriving DecidableEq, Repr

/-- The values of the `timezoneSource` column. -/
inductive ScheduledTaskTimezoneSource
  | workspace
  | legacyFixed
  deriving DecidableEq, Repr

/-- A row of `scheduled_tasks`. -/
structure ScheduledTaskEntity where
  id : Uuid
  workspaceId : Uuid
  nodeId : Option Uuid := none
  targetTeamId : Option Uuid := none
  runAsRoot : Bool := false
  timing : ScheduledTaskTiming
  timezoneSource : ScheduledTaskTimezoneSource := .legacyFixed
  enabled : Bool := true
  nextRunAt : Option ℤ := none
  lastRunAt : Option ℤ := none
  lastRunTaskId : Option Uuid := none
  lastError : Option String := none
  leaseUntil : Option ℤ := none
  claimedBy : Option String := none
  claimToken : Option Uuid := none
  createdAt : ℤ
  deriving DecidableEq, Repr

namespace ScheduledTasksService

/-- `SCHEDULED_TASK_RUNNER_LEASE_MS`. -/
def scheduledTaskRunnerLeaseMs : ℤ := 30000

/-! ## Claiming -/

/-- The conditions on the row in the UPDATE of `claimNextDueSchedule`. -/
def isClaimable (now : ℤ) (schedule : ScheduledTaskEntity) : Bool :=
  schedule.enabled && schedule.nextRunAt.any (fun nextRunAt => decide (nextRunAt ≤ now)) &&
    schedule.leaseUntil.all fun leaseUntil => decide (leaseUntil ≤ now)

/-- The WHERE clause of the SELECT: it also asks that the workspace is not archived. -/
def isCandidate (now : ℤ) (archived : List Uuid) (schedule : ScheduledTaskEntity) : Bool :=
  isClaimable now schedule && decide (schedule.workspaceId ∉ archived)

/-- The value `nextRunAt` is sorted by; the WHERE clause leaves no NULL. -/
def dueAt (schedule : ScheduledTaskEntity) : ℤ := schedule.nextRunAt.getD 0

/-- `a` stands before `b` whatever the database does with ties. -/
def RunsBefore (a b : ScheduledTaskEntity) : Prop :=
  dueAt a < dueAt b ∨ (dueAt a = dueAt b ∧ a.createdAt < b.createdAt)

instance : DecidableRel RunsBefore := fun a b =>
  inferInstanceAs (Decidable (dueAt a < dueAt b ∨ (dueAt a = dueAt b ∧ a.createdAt < b.createdAt)))

/-- `ORDER BY "nextRunAt" ASC, "createdAt" ASC`.  The order of rows that agree in
both is the database's choice: `rank`. -/
def DueBefore (rank : Uuid → ℕ) (a b : ScheduledTaskEntity) : Prop :=
  dueAt a < dueAt b ∨ (dueAt a = dueAt b ∧
    (a.createdAt < b.createdAt ∨ (a.createdAt = b.createdAt ∧ rank a.id ≤ rank b.id)))

instance (rank : Uuid → ℕ) : DecidableRel (DueBefore rank) := fun a b =>
  inferInstanceAs (Decidable (dueAt a < dueAt b ∨ (dueAt a = dueAt b ∧
    (a.createdAt < b.createdAt ∨ (a.createdAt = b.createdAt ∧ rank a.id ≤ rank b.id)))))

/-- What a claim receives from outside. -/
structure ClaimInput where
  now : ℤ
  archived : List Uuid := []
  rank : Uuid → ℕ := fun _ => 0
  claimedBy : String := ""
  claimToken : Uuid := ""

/-- The row the SELECT of `claimNextDueSchedule` answers. -/
def candidate (input : ClaimInput) (rows : List ScheduledTaskEntity) :
    Option ScheduledTaskEntity :=
  ((rows.filter (isCandidate input.now input.archived)).insertionSort
    (DueBefore input.rank)).head?

/-- The SET clause of the UPDATE. -/
def claimedWith (input : ClaimInput) (schedule : ScheduledTaskEntity) : ScheduledTaskEntity :=
  { schedule with
    claimedBy := some input.claimedBy
    claimToken := some input.claimToken
    leaseUntil := some (input.now + scheduledTaskRunnerLeaseMs) }

theorem claimedWith_id (input : ClaimInput) (schedule : ScheduledTaskEntity) :
    (claimedWith input schedule).id = schedule.id := rfl

/-- The UPDATE of `claimNextDueSchedule` for the row the SELECT answered. -/
def claimById (input : ClaimInput) (id : Uuid) (schedules : Table ScheduledTaskEntity.id) :
    Table ScheduledTaskEntity.id :=
  schedules.update (fun row => decide (row.id = id) && isClaimable input.now row)
    (claimedWith input) (claimedWith_id input)

/-- `claimNextDueSchedule` when nothing moves between its statements. -/
def claimNextDueSchedule (input : ClaimInput) (schedules : Table ScheduledTaskEntity.id) :
    Option ScheduledTaskEntity × Table ScheduledTaskEntity.id :=
  match candidate input schedules.rows with
  | none => (none, schedules)
  | some due =>
      let claimed := claimById input due.id schedules
      (claimed.get due.id, claimed)

/-! ## Triggering -/

/-- What one trigger receives from outside. -/
structure TriggerInput where
  now : ℤ := 0
  /-- The answer of `listTeamOwnedNodes` for the team of the schedule. -/
  teamNodes : Except String (Table NodeEntity.id) := .ok Table.empty
  /-- The answer of `findOneOrFail` for the node of the schedule. -/
  node : Except String NodeEntity := .error ""
  /-- The outcome of `createScheduledShellTask` for each node. -/
  queue : Uuid → QueueOutcome
  /-- Whether recording the event that follows the UPDATE throws. -/
  eventError : Option String := none

/-- The nodes a schedule is triggered for. -/
def scheduleTargets (schedule : ScheduledTaskEntity) (input : TriggerInput) :
    Except String (List NodeEntity) :=
  match schedule.targetTeamId, schedule.nodeId with
  | some _, _ =>
      input.teamNodes.map fun nodes => nodes.rows.filter fun node => !node.maintenanceMode
  | none, some _ => input.node.map fun node => [node]
  | none, none => .ok []

/-- The root check and the task of one target. -/
def queueTarget (schedule : ScheduledTaskEntity) (input : TriggerInput) (target : NodeEntity) :
    QueueOutcome :=
  match schedule.runAsRoot, NodesService.assertNodeAllowsTaskRoot input.now target with
  | true, .error error => .refused error.message
  | _, _ => input.queue target.id

/-- The loop over the targets: the tasks inserted, each with its node, and the ids
of the tasks if no call threw. -/
def queueTargets (schedule : ScheduledTaskEntity) (input : TriggerInput) :
    List NodeEntity → List (Uuid × Uuid) × Except String (List Uuid)
  | [] => ([], .ok [])
  | target :: rest =>
      match queueTarget schedule input target with
      | .refused message => ([], .error message)
      | .failedAfterInsert taskId message => ([(target.id, taskId)], .error message)
      | .queued taskId =>
          let run := queueTargets schedule input rest
          ((target.id, taskId) :: run.1, run.2.map fun taskIds => taskId :: taskIds)

/-- Where the body of `triggerClaimedSchedule` ends up. -/
inductive TriggerOutcome
  | noTargets (nextRunAt : ℤ)
  | succeeded (lastRunTaskId : Option Uuid) (nextRunAt : ℤ)
  | failed (message : String)
  deriving DecidableEq

/-- Whether an outcome writes `nextRunAt`. -/
def TriggerOutcome.advances : TriggerOutcome → Bool
  | .noTargets _ | .succeeded _ _ => true
  | .failed _ => false

/-- `lastError` when a team has no eligible node. -/
def noEligibleNodes : String :=
  "No eligible nodes matched the scheduled task target at execution time."

/-- The SET clause an outcome is recorded with. -/
def TriggerOutcome.set (now : ℤ) (outcome : TriggerOutcome) (schedule : ScheduledTaskEntity) :
    ScheduledTaskEntity :=
  match outcome with
  | .noTargets nextRunAt =>
      { schedule with
        lastError := some noEligibleNodes
        nextRunAt := some nextRunAt
        claimToken := none
        claimedBy := none
        leaseUntil := none }
  | .succeeded lastRunTaskId nextRunAt =>
      { schedule with
        lastRunAt := some now
        lastRunTaskId := lastRunTaskId
        lastError := none
        nextRunAt := some nextRunAt
        claimToken := none
        claimedBy := none
        leaseUntil := none }
  | .failed message =>
      { schedule with
        lastError := some message
        claimToken := none
        claimedBy := none
        leaseUntil := none }

theorem TriggerOutcome.set_id (now : ℤ) (outcome : TriggerOutcome)
    (schedule : ScheduledTaskEntity) : (outcome.set now schedule).id = schedule.id := by
  cases outcome <;> rfl

/-- `computeMinutelyRun`: the next full minute. -/
def computeMinutelyRun (reference : ℤ) : ℤ :=
  let candidate := reference - reference % 60000
  if candidate ≤ reference then candidate + 60000 else candidate

/-- `computeNextScheduledRun` on minutely schedules in a valid time zone. -/
def everyMinute (_ : ScheduledTaskTiming) (reference : ℤ) : Except String ℤ :=
  .ok (computeMinutelyRun reference)

section

variable (computeNextScheduledRun : ScheduledTaskTiming → ℤ → Except String ℤ)

/-- The run after the one that was due. -/
def advancedRun (schedule : ScheduledTaskEntity) (now : ℤ) : Except String ℤ :=
  computeNextScheduledRun schedule.timing (schedule.nextRunAt.getD now)

/-- The body of `triggerClaimedSchedule` up to its UPDATE: the tasks inserted, and
how it ends. -/
def triggerBody (schedule : ScheduledTaskEntity) (input : TriggerInput) :
    List (Uuid × Uuid) × TriggerOutcome :=
  match scheduleTargets schedule input with
  | .error message => ([], .failed message)
  | .ok [] =>
      match advancedRun computeNextScheduledRun schedule input.now with
      | .error message => ([], .failed message)
      | .ok nextRunAt => ([], .noTargets nextRunAt)
  | .ok targets =>
      let run := queueTargets schedule input targets
      match run.2, advancedRun computeNextScheduledRun schedule input.now with
      | .error message, _ => (run.1, .failed message)
      | .ok _, .error message => (run.1, .failed message)
      | .ok taskIds, .ok nextRunAt => (run.1, .succeeded taskIds.head? nextRunAt)

/-- The UPDATE of an outcome: it asks for the claim token of the trigger. -/
def recordOutcome (schedule : ScheduledTaskEntity) (now : ℤ) (outcome : TriggerOutcome)
    (schedules : Table ScheduledTaskEntity.id) : Table ScheduledTaskEntity.id :=
  schedules.update
    (fun row => decide (row.id = schedule.id) && decide (row.claimToken = schedule.claimToken))
    (outcome.set now) (outcome.set_id now)

/-- What is recorded after the first UPDATE: an event that cannot be recorded makes
the trigger record a failure as well. -/
def afterOutcome (outcome : TriggerOutcome) (eventError : Option String) : Option TriggerOutcome :=
  match outcome, eventError with
  | .succeeded _ _, some message => some (.failed message)
  | _, _ => none

/-- Whether `triggerClaimedSchedule` answers `ok: true`. -/
def triggerOk (outcome : TriggerOutcome) (eventError : Option String) : Bool :=
  match outcome, eventError with
  | .noTargets _, _ => true
  | .succeeded _ _, none => true
  | .succeeded _ _, some _ => false
  | .failed _, _ => false

/-- `triggerClaimedSchedule` when nothing moves between its statements: the table,
the tasks inserted, and whether it answers `ok`. -/
def triggerClaimedSchedule (schedule : ScheduledTaskEntity) (input : TriggerInput)
    (schedules : Table ScheduledTaskEntity.id) :
    Table ScheduledTaskEntity.id × List (Uuid × Uuid) × Bool :=
  let body := triggerBody computeNextScheduledRun schedule input
  let recorded := recordOutcome schedule input.now body.2 schedules
  let final := match afterOutcome body.2 input.eventError with
    | none => recorded
    | some outcome => recordOutcome schedule input.now outcome recorded
  (final, body.1, triggerOk body.2 input.eventError)

/-! ## Operator writes -/

/-- `enabled ? computeNextScheduledRun(timing, now) : null`. -/
def runIfEnabled (enabled : Bool) (timing : ScheduledTaskTiming) (now : ℤ) :
    Except String (Option ℤ) :=
  if enabled then (computeNextScheduledRun timing now).map some else .ok none

/-- What `updateEnabled` makes of the row it loaded. -/
def withEnabled (enabled : Bool) (now : ℤ) (schedule : ScheduledTaskEntity) :
    Except String ScheduledTaskEntity := do
  let nextRunAt ← runIfEnabled computeNextScheduledRun enabled schedule.timing now
  return { schedule with
    enabled := enabled
    claimToken := none
    claimedBy := none
    leaseUntil := none
    nextRunAt := nextRunAt }

/-- What `recomputeWorkspaceSchedules` makes of a row it loaded. -/
def recomputed (timezone : String) (now : ℤ) (schedule : ScheduledTaskEntity) :
    Except String ScheduledTaskEntity := do
  let nextRunAt ← runIfEnabled computeNextScheduledRun schedule.enabled
    { schedule.timing with timezone := timezone } now
  return { schedule with
    timing := { schedule.timing with timezone := timezone }
    claimToken := none
    claimedBy := none
    leaseUntil := none
    nextRunAt := nextRunAt }

end

/-- The copy of a row among the entities that are saved. -/
def savedCopy (copies : List ScheduledTaskEntity) (id : Uuid) : Option ScheduledTaskEntity :=
  copies.find? fun copy => copy.id = id

/-- A row after `save` of the entities: every column was loaded, so a copy of the row
replaces all of it. -/
def savedOver (copies : List ScheduledTaskEntity) (row : ScheduledTaskEntity) :
    ScheduledTaskEntity :=
  match savedCopy copies row.id with
  | none => row
  | some copy => { copy with id := row.id }

theorem savedOver_id (copies : List ScheduledTaskEntity) (row : ScheduledTaskEntity) :
    (savedOver copies row).id = row.id := by
  unfold savedOver
  split <;> rfl

/-- `scheduledTasksRepository.save(entities)`. -/
def save (copies : List ScheduledTaskEntity) (schedules : Table ScheduledTaskEntity.id) :
    Table ScheduledTaskEntity.id :=
  schedules.update (fun row => (savedCopy copies row.id).isSome) (savedOver copies)
    (savedOver_id copies)

/-! ## What the statements do to a row -/

theorem isClaimable_iff {now : ℤ} {schedule : ScheduledTaskEntity} :
    isClaimable now schedule = true ↔
      schedule.enabled = true ∧
        (∃ nextRunAt, schedule.nextRunAt = some nextRunAt ∧ nextRunAt ≤ now) ∧
        ∀ leaseUntil, schedule.leaseUntil = some leaseUntil → leaseUntil ≤ now := by
  cases hnext : schedule.nextRunAt with
  | none => simp [isClaimable, hnext]
  | some nextRunAt => simp [isClaimable, hnext, and_assoc, Option.all_eq_true]

theorem isCandidate_iff {now : ℤ} {archived : List Uuid} {schedule : ScheduledTaskEntity} :
    isCandidate now archived schedule = true ↔
      isClaimable now schedule = true ∧ schedule.workspaceId ∉ archived := by
  simp [isCandidate]

/-! ### The order of the candidates -/

instance dueBefore_total (rank : Uuid → ℕ) : Std.Total (DueBefore rank) :=
  ⟨fun a b => by unfold DueBefore; omega⟩

instance dueBefore_trans (rank : Uuid → ℕ) : IsTrans ScheduledTaskEntity (DueBefore rank) :=
  ⟨fun a b c hab hbc => by unfold DueBefore at *; omega⟩

/-- **The candidate.**  The SELECT answers a due row with none before it. -/
theorem candidate_eq_some {input : ClaimInput} {rows : List ScheduledTaskEntity}
    {due : ScheduledTaskEntity} (h : candidate input rows = some due) :
    due ∈ rows ∧ isCandidate input.now input.archived due = true ∧
      ∀ row ∈ rows, isCandidate input.now input.archived row = true →
        DueBefore input.rank due row := by
  have hsorted := List.pairwise_insertionSort (DueBefore input.rank)
    (rows.filter (isCandidate input.now input.archived))
  have hmem : ∀ row, row ∈ (rows.filter (isCandidate input.now input.archived)).insertionSort
      (DueBefore input.rank) ↔ row ∈ rows ∧ isCandidate input.now input.archived row = true := by
    intro row
    rw [List.mem_insertionSort, List.mem_filter]
  rw [candidate, List.head?_eq_some_iff] at h
  obtain ⟨rest, hrest⟩ := h
  rw [hrest] at hsorted hmem
  have hdue := (hmem due).mp List.mem_cons_self
  refine ⟨hdue.1, hdue.2, fun row hrow hcand => ?_⟩
  rcases List.mem_cons.mp ((hmem row).mpr ⟨hrow, hcand⟩) with rfl | hlater
  · unfold DueBefore
    omega
  · exact (List.pairwise_cons.mp hsorted).1 row hlater

theorem candidate_eq_none {input : ClaimInput} {rows : List ScheduledTaskEntity} :
    candidate input rows = none ↔
      ∀ row ∈ rows, isCandidate input.now input.archived row = false := by
  have hlength := List.length_insertionSort (DueBefore input.rank)
    (rows.filter (isCandidate input.now input.archived))
  rw [candidate, List.head?_eq_none_iff, ← List.length_eq_zero_iff, hlength,
    List.length_eq_zero_iff, List.filter_eq_nil_iff]
  simp

/-! ### The claim -/

theorem get_claimById {input : ClaimInput} {id : Uuid} {schedules : Table ScheduledTaskEntity.id}
    (id' : Uuid) : (claimById input id schedules).get id'
      = (schedules.get id').map fun row =>
          if row.id = id ∧ isClaimable input.now row = true then claimedWith input row
          else row := by
  rw [claimById, Table.get_update]
  congr
  funext row
  simp

/-- **The claim.**  When nothing moves in between, the UPDATE takes the row the
SELECT answered. -/
theorem claimNextDueSchedule_eq {input : ClaimInput} {schedules : Table ScheduledTaskEntity.id}
    {due : ScheduledTaskEntity} (h : candidate input schedules.rows = some due) :
    claimNextDueSchedule input schedules
      = (some (claimedWith input due), claimById input due.id schedules) := by
  obtain ⟨hmem, hcand, -⟩ := candidate_eq_some h
  have hclaim := (isCandidate_iff.mp hcand).1
  have hget : (claimById input due.id schedules).get due.id = some (claimedWith input due) := by
    rw [get_claimById, Table.get_of_mem hmem, Option.map_some, if_pos ⟨rfl, hclaim⟩]
  simp only [claimNextDueSchedule, h, hget]

/-! ### Saved copies -/

/-- The next run of a disabled schedule is NULL, that of an enabled one is not. -/
theorem runIfEnabled_eq_ok {computeNextScheduledRun : ScheduledTaskTiming → ℤ → Except String ℤ}
    {enabled : Bool} {timing : ScheduledTaskTiming} {now : ℤ} {nextRunAt : Option ℤ}
    (h : runIfEnabled computeNextScheduledRun enabled timing now = .ok nextRunAt) :
    nextRunAt.isSome = enabled := by
  unfold runIfEnabled at h
  cases enabled with
  | false =>
      obtain rfl := Except.ok.inj h
      rfl
  | true =>
      rw [if_pos rfl] at h
      cases hcompute : computeNextScheduledRun timing now with
      | error message =>
          rw [hcompute] at h
          exact absurd h (by simp [Except.map])
      | ok next =>
          rw [hcompute] at h
          obtain rfl := Except.ok.inj h
          rfl

theorem id_of_savedCopy {copies : List ScheduledTaskEntity} {id : Uuid}
    {copy : ScheduledTaskEntity} (h : savedCopy copies id = some copy) :
    copy ∈ copies ∧ copy.id = id := by
  refine ⟨List.mem_of_find?_eq_some h, ?_⟩
  simpa using List.find?_some h

theorem savedCopy_eq_none {copies : List ScheduledTaskEntity} {id : Uuid} :
    savedCopy copies id = none ↔ ∀ copy ∈ copies, copy.id ≠ id := by
  simp [savedCopy, List.find?_eq_none]

/-- A row after a save: its copy, or itself when none was saved. -/
theorem get_save (copies : List ScheduledTaskEntity) (schedules : Table ScheduledTaskEntity.id)
    (id : Uuid) : (save copies schedules).get id
      = (schedules.get id).map fun row => (savedCopy copies id).getD row := by
  rw [save, Table.get_update]
  cases hrow : schedules.get id with
  | none => rfl
  | some row =>
      have hid : row.id = id := Table.key_of_get hrow
      cases hcopy : savedCopy copies id with
      | none => simp [hid, hcopy]
      | some copy =>
          obtain ⟨-, rfl⟩ := id_of_savedCopy hcopy
          simp only [Option.map_some, hid, hcopy, Option.isSome_some, if_true, savedOver,
            Option.getD_some]

/-! ### The record of a trigger -/

theorem get_recordOutcome {schedule : ScheduledTaskEntity} {now : ℤ} {outcome : TriggerOutcome}
    {schedules : Table ScheduledTaskEntity.id} (id : Uuid) :
    (recordOutcome schedule now outcome schedules).get id
      = (schedules.get id).map fun row =>
          if row.id = schedule.id ∧ row.claimToken = schedule.claimToken then outcome.set now row
          else row := by
  rw [recordOutcome, Table.get_update]
  congr
  funext row
  simp

/-- How a trigger can end. -/
theorem triggerBody_cases (computeNextScheduledRun : ScheduledTaskTiming → ℤ → Except String ℤ)
    (schedule : ScheduledTaskEntity) (input : TriggerInput) :
    (∃ message, (triggerBody computeNextScheduledRun schedule input).2 = .failed message) ∨
    ∃ nextRunAt, advancedRun computeNextScheduledRun schedule input.now = .ok nextRunAt ∧
      ((triggerBody computeNextScheduledRun schedule input).2 = .noTargets nextRunAt ∨
        ∃ taskId, (triggerBody computeNextScheduledRun schedule input).2
          = .succeeded taskId nextRunAt) := by
  unfold triggerBody
  rcases scheduleTargets schedule input with message | (_ | ⟨first, rest⟩)
  · exact Or.inl ⟨message, rfl⟩
  · rcases advancedRun computeNextScheduledRun schedule input.now with message | nextRunAt
    · exact Or.inl ⟨message, rfl⟩
    · exact Or.inr ⟨nextRunAt, rfl, Or.inl rfl⟩
  · simp only
    rcases (queueTargets schedule input (first :: rest)).2 with message | taskIds
    · exact Or.inl ⟨message, rfl⟩
    · rcases advancedRun computeNextScheduledRun schedule input.now with message | nextRunAt
      · exact Or.inl ⟨message, rfl⟩
      · exact Or.inr ⟨nextRunAt, rfl, Or.inr ⟨taskIds.head?, rfl⟩⟩

/-- Every outcome gives the claim back. -/
theorem TriggerOutcome.set_released (now : ℤ) (outcome : TriggerOutcome)
    (schedule : ScheduledTaskEntity) :
    (outcome.set now schedule).claimToken = none ∧
      (outcome.set now schedule).leaseUntil = none := by
  cases outcome <;> exact ⟨rfl, rfl⟩

section

variable {computeNextScheduledRun : ScheduledTaskTiming → ℤ → Except String ℤ}

/-- A trigger that writes `nextRunAt` writes the run after the one that was due. -/
theorem triggerBody_advances {schedule : ScheduledTaskEntity} {input : TriggerInput}
    (h : (triggerBody computeNextScheduledRun schedule input).2.advances = true) :
    ∃ nextRunAt, advancedRun computeNextScheduledRun schedule input.now = .ok nextRunAt ∧
      ∀ now row, ((triggerBody computeNextScheduledRun schedule input).2.set now row).nextRunAt
        = some nextRunAt := by
  rcases triggerBody_cases computeNextScheduledRun schedule input with
    ⟨message, hout⟩ | ⟨nextRunAt, hadvanced, hout | ⟨taskId, hout⟩⟩
  · rw [hout] at h
    exact absurd h Bool.false_ne_true
  · exact ⟨nextRunAt, hadvanced, fun now row => by rw [hout]; rfl⟩
  · exact ⟨nextRunAt, hadvanced, fun now row => by rw [hout]; rfl⟩

/-- The UPDATE of a trigger finds the row it claimed; a second one finds no row with
the token. -/
theorem get_triggerClaimedSchedule {schedule : ScheduledTaskEntity} {input : TriggerInput}
    {schedules : Table ScheduledTaskEntity.id} (hself : schedules.get schedule.id = some schedule)
    (htoken : schedule.claimToken ≠ none) (id : Uuid) :
    (triggerClaimedSchedule computeNextScheduledRun schedule input schedules).1.get id
      = (schedules.get id).map fun row =>
          if row.id = schedule.id then
            (triggerBody computeNextScheduledRun schedule input).2.set input.now schedule
          else row := by
  have hfirst : (recordOutcome schedule input.now
      (triggerBody computeNextScheduledRun schedule input).2 schedules).get id
      = (schedules.get id).map fun row =>
          if row.id = schedule.id then
            (triggerBody computeNextScheduledRun schedule input).2.set input.now schedule
          else row := by
    rw [get_recordOutcome]
    cases hrow : schedules.get id with
    | none => rfl
    | some row =>
        have hid : row.id = id := Table.key_of_get hrow
        by_cases hsame : row.id = schedule.id
        · obtain rfl : row = schedule := by
            rw [← hid, hsame, hself] at hrow
            exact (Option.some.inj hrow).symm
          simp
        · simp [hsame]
  simp only [triggerClaimedSchedule]
  split
  · exact hfirst
  · -- the first UPDATE cleared the token the second one asks for
    rw [get_recordOutcome, hfirst, Option.map_map]
    congr
    funext row
    simp only [Function.comp_apply]
    by_cases hsame : row.id = schedule.id
    · rw [if_pos hsame, if_neg]
      rintro ⟨-, hcleared⟩
      rw [(TriggerOutcome.set_released _ _ _).1] at hcleared
      exact htoken hcleared.symm
    · rw [if_neg hsame, if_neg fun h => hsame h.1]

/-- A trigger reads neither the claim of a row nor its last error. -/
theorem queueTargets_claimColumns (schedule : ScheduledTaskEntity) (lastError : Option String)
    (leaseUntil : Option ℤ) (claimedBy : Option String) (claimToken : Option Uuid)
    (input : TriggerInput) (targets : List NodeEntity) :
    queueTargets
      { schedule with lastError, leaseUntil, claimedBy, claimToken } input targets
      = queueTargets schedule input targets := by
  induction targets with
  | nil => rfl
  | cons target rest ih =>
      simp only [queueTargets, ih]
      rfl

theorem triggerBody_claimColumns (schedule : ScheduledTaskEntity) (lastError : Option String)
    (leaseUntil : Option ℤ) (claimedBy : Option String) (claimToken : Option Uuid)
    (input : TriggerInput) :
    triggerBody computeNextScheduledRun
      { schedule with lastError, leaseUntil, claimedBy, claimToken } input
      = triggerBody computeNextScheduledRun schedule input := by
  simp only [triggerBody, queueTargets_claimColumns]
  rfl

theorem triggerBody_claimedWith (input : ClaimInput) (schedule : ScheduledTaskEntity)
    (trigger : TriggerInput) :
    triggerBody computeNextScheduledRun (claimedWith input schedule) trigger
      = triggerBody computeNextScheduledRun schedule trigger :=
  triggerBody_claimColumns schedule schedule.lastError _ _ _ _

/-- Every outcome overwrites the claim. -/
theorem TriggerOutcome.set_claimedWith (now : ℤ) (outcome : TriggerOutcome) (input : ClaimInput)
    (schedule : ScheduledTaskEntity) :
    outcome.set now (claimedWith input schedule) = outcome.set now schedule := by
  cases outcome <;> rfl

/-- **Claim and trigger.**  When nothing moves in between, the row the SELECT answered
is rewritten, and no other. -/
theorem get_trigger_claimed {input : ClaimInput} {trigger : TriggerInput}
    {schedules : Table ScheduledTaskEntity.id} {due : ScheduledTaskEntity}
    (h : candidate input schedules.rows = some due) (id : Uuid) :
    (triggerClaimedSchedule computeNextScheduledRun (claimedWith input due) trigger
      (claimById input due.id schedules)).1.get id
      = (schedules.get id).map fun row =>
          if row.id = due.id then
            (triggerBody computeNextScheduledRun due trigger).2.set trigger.now due
          else row := by
  obtain ⟨hmem, hcand, -⟩ := candidate_eq_some h
  have hclaim := (isCandidate_iff.mp hcand).1
  have hself : (claimById input due.id schedules).get (claimedWith input due).id
      = some (claimedWith input due) := by
    rw [claimedWith_id, get_claimById, Table.get_of_mem hmem, Option.map_some,
      if_pos ⟨rfl, hclaim⟩]
  rw [get_triggerClaimedSchedule hself (by simp [claimedWith]), get_claimById, Option.map_map,
    triggerBody_claimedWith]
  cases hrow : schedules.get id with
  | none => rfl
  | some row =>
      have hid : row.id = id := Table.key_of_get hrow
      simp only [Option.map_some, Function.comp_apply, claimedWith_id]
      by_cases hsame : row.id = due.id
      · obtain rfl : row = due := by
          rw [← hid, hsame, Table.get_of_mem hmem] at hrow
          exact (Option.some.inj hrow).symm
        simp only [hclaim, and_self, if_true, claimedWith_id, TriggerOutcome.set_claimedWith]
      · simp only [hsame, false_and, if_false]

end

end ScheduledTasksService
