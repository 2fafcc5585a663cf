/-
# One task per target and occurrence

A trigger inserts the tasks of its targets one after the other, and advances
`nextRunAt` only after the last one.  A call that throws in the middle of the
targets leaves the earlier tasks queued and the schedule due, and the runner's next
attempt starts again from the first target.

An occurrence is a value of `nextRunAt`.  A run that `computeNextScheduledRun` does not
put later than the one that was due is the same occurrence again, or one from before.
-/
import NoderaxApi.FutureRuns
import NoderaxApi.ScheduledTasks
import NoderaxApi.Runs

namespace ScheduledTasksService

open KeyedTable Runs
open UsersService (AccountPlatform)

/-! ## Attempts of the runner -/

/-- A task inserted for a target when `nextRunAt` of its schedule was `occurrence`. -/
structure QueuedTask where
  scheduleId : Uuid
  nodeId : Uuid
  occurrence : ℤ
  taskId : Uuid
  deriving DecidableEq

/-- The schedules, and the tasks inserted so far, latest first. -/
structure OccurrenceWorld where
  schedules : Table ScheduledTaskEntity.id
  queued : List QueuedTask := []

/-- What one iteration of `runDueSchedules` receives from outside. -/
structure Attempt where
  claim : ClaimInput
  trigger : TriggerInput

/-- **One task per target and occurrence.** -/
def OneTaskPerOccurrence (w : OccurrenceWorld) : Prop :=
  (w.queued.map fun task => (task.scheduleId, task.nodeId, task.occurrence)).Nodup

instance (w : OccurrenceWorld) : Decidable (OneTaskPerOccurrence w) := by
  unfold OneTaskPerOccurrence; infer_instance

/-! ## The condition -/

/-- The task of a target is inserted, and nothing throws after it. -/
def isQueued (schedule : ScheduledTaskEntity) (input : TriggerInput) (target : NodeEntity) : Bool :=
  match queueTarget schedule input target with
  | .queued _ => true
  | .refused _ | .failedAfterInsert _ _ => false

/-- The target is refused before a task is inserted. -/
def isRefused (schedule : ScheduledTaskEntity) (input : TriggerInput)
    (target : NodeEntity) : Bool :=
  match queueTarget schedule input target with
  | .refused _ => true
  | .queued _ | .failedAfterInsert _ _ => false

section

variable (computeNextScheduledRun : ScheduledTaskTiming → ℤ → Except String ℤ)

/-- One iteration of `runDueSchedules`: claim the next due schedule and trigger it. -/
def attempt (w : OccurrenceWorld) (a : Attempt) : OccurrenceWorld :=
  match claimNextDueSchedule a.claim w.schedules with
  | (none, schedules) => { w with schedules := schedules }
  | (some schedule, schedules) =>
      let result := triggerClaimedSchedule computeNextScheduledRun schedule a.trigger schedules
      { schedules := result.1
        queued := (result.2.1.map fun task => ⟨schedule.id, task.1, dueAt schedule, task.2⟩)
          ++ w.queued }

/-- No call throws after a task was inserted: either the first target is refused,
or every target's task is queued and the next run can be computed. -/
def QueuesNoneOrAll (schedule : ScheduledTaskEntity) (input : TriggerInput) : Prop :=
  match scheduleTargets schedule input with
  | .error _ => True
  | .ok targets =>
      (∀ first ∈ targets.head?, isRefused schedule input first = true) ∨
        ((∀ target ∈ targets, isQueued schedule input target = true) ∧
          (advancedRun computeNextScheduledRun schedule input.now).toBool = true)

instance (schedule : ScheduledTaskEntity) (input : TriggerInput) :
    Decidable (QueuesNoneOrAll computeNextScheduledRun schedule input) := by
  unfold QueuesNoneOrAll
  split <;> infer_instance

end

section

variable {Token : Type} (platform : AccountPlatform Token)
  (zones : String → ScheduledTaskUtils.Zone)

/-- The guard on an attempt: the schedule it claims is triggered for none or for all
of its targets, and its next run lies ahead of the one that is due. -/
def TriggersNoneOrAll (w : OccurrenceWorld) (a : Attempt) : Prop :=
  ∀ schedule ∈ candidate a.claim w.schedules.rows,
    QueuesNoneOrAll (computeRowRun platform zones) schedule a.trigger ∧
      RowRunAhead platform zones schedule.timing (dueAt schedule)

end

/-! ## One trigger -/

/-- The targets of a schedule are distinct nodes. -/
theorem nodup_scheduleTargets {schedule : ScheduledTaskEntity} {input : TriggerInput}
    {targets : List NodeEntity} (h : scheduleTargets schedule input = .ok targets) :
    (targets.map (·.id)).Nodup := by
  unfold scheduleTargets at h
  split at h
  · cases hnodes : input.teamNodes with
    | error message =>
        rw [hnodes] at h
        exact absurd h (by simp [Except.map])
    | ok nodes =>
        rw [hnodes] at h
        obtain rfl : nodes.rows.filter (fun node => !node.maintenanceMode) = targets := by
          simpa [Except.map] using h
        have hsub : List.Sublist (nodes.rows.filter fun node => !node.maintenanceMode) nodes.rows :=
          List.filter_sublist
        exact (hsub.map NodeEntity.id).nodup nodes.distinct
  · cases hnode : input.node with
    | error message =>
        rw [hnode] at h
        exact absurd h (by simp [Except.map])
    | ok node =>
        rw [hnode] at h
        obtain rfl : [node] = targets := by simpa [Except.map] using h
        exact List.nodup_singleton _
  · obtain rfl : [] = targets := by simpa using h
    exact List.nodup_nil

/-- A refused first target ends the loop before anything is inserted. -/
theorem queueTargets_refused {schedule : ScheduledTaskEntity} {input : TriggerInput}
    {first : NodeEntity} (rest : List NodeEntity) (h : isRefused schedule input first = true) :
    ∃ message, queueTargets schedule input (first :: rest) = ([], .error message) := by
  unfold isRefused at h
  cases hqueue : queueTarget schedule input first with
  | refused message => exact ⟨message, by simp only [queueTargets, hqueue]⟩
  | queued taskId => simp [hqueue] at h
  | failedAfterInsert taskId message => simp [hqueue] at h

/-- When every target's task is queued, each target got one and the loop ends. -/
theorem queueTargets_queued {schedule : ScheduledTaskEntity} {input : TriggerInput}
    {targets : List NodeEntity} (h : ∀ target ∈ targets, isQueued schedule input target = true) :
    (queueTargets schedule input targets).1.map Prod.fst = targets.map (·.id) ∧
      ∃ taskIds, (queueTargets schedule input targets).2 = .ok taskIds := by
  induction targets with
  | nil => exact ⟨rfl, [], rfl⟩
  | cons first rest ih =>
      obtain ⟨hnodes, taskIds, hids⟩ := ih fun target ht => h target (List.mem_cons_of_mem _ ht)
      have hfirst := h first List.mem_cons_self
      unfold isQueued at hfirst
      cases hqueue : queueTarget schedule input first with
      | refused message => simp [hqueue] at hfirst
      | failedAfterInsert taskId message => simp [hqueue] at hfirst
      | queued taskId =>
          simp only [queueTargets, hqueue, hids]
          exact ⟨by rw [List.map_cons, List.map_cons, hnodes], taskId :: taskIds, rfl⟩

variable {computeNextScheduledRun : ScheduledTaskTiming → ℤ → Except String ℤ}

/-- **None or all.**  Under the condition a trigger inserts nothing, or one task for
each of its targets and then writes `nextRunAt`. -/
theorem triggerBody_noneOrAll {schedule : ScheduledTaskEntity} {input : TriggerInput}
    (h : QueuesNoneOrAll computeNextScheduledRun schedule input) :
    (triggerBody computeNextScheduledRun schedule input).1 = [] ∨
      ((triggerBody computeNextScheduledRun schedule input).2.advances = true ∧
        ((triggerBody computeNextScheduledRun schedule input).1.map Prod.fst).Nodup) := by
  unfold QueuesNoneOrAll at h
  cases htargets : scheduleTargets schedule input with
  | error message =>
      left
      simp only [triggerBody, htargets]
  | ok targets =>
      rw [htargets] at h
      have hnodup := nodup_scheduleTargets htargets
      cases targets with
      | nil =>
          left
          simp only [triggerBody, htargets]
          split <;> rfl
      | cons first rest =>
          rcases h with hrefused | ⟨hall, hnext⟩
          · obtain ⟨message, hqueue⟩ := queueTargets_refused rest (hrefused first rfl)
            left
            simp only [triggerBody, htargets, hqueue]
          · obtain ⟨hnodes, taskIds, hids⟩ := queueTargets_queued hall
            right
            cases hadvanced : advancedRun computeNextScheduledRun schedule input.now with
            | error message => simp [hadvanced, Except.toBool] at hnext
            | ok nextRunAt =>
                simp only [triggerBody, htargets, hids, hadvanced]
                exact ⟨rfl, by rw [hnodes]; exact hnodup⟩

/-! ## Runs -/

/-- No target got two tasks for one occurrence, and every task is for one before the
`nextRunAt` of its schedule. -/
structure OccurrenceInv (w : OccurrenceWorld) : Prop where
  once : OneTaskPerOccurrence w
  past : ∀ task ∈ w.queued, ∀ row, w.schedules.get task.scheduleId = some row →
    task.occurrence < dueAt row

/-- An attempt without a candidate leaves everything as it is. -/
theorem attempt_none {w : OccurrenceWorld} {a : Attempt}
    (h : candidate a.claim w.schedules.rows = none) :
    attempt computeNextScheduledRun w a = w := by
  simp only [attempt, claimNextDueSchedule, h]

/-- What an attempt does with the candidate of its SELECT. -/
theorem attempt_some {w : OccurrenceWorld} {a : Attempt} {due : ScheduledTaskEntity}
    (h : candidate a.claim w.schedules.rows = some due) :
    (attempt computeNextScheduledRun w a).queued
        = ((triggerBody computeNextScheduledRun due a.trigger).1.map fun task =>
            ⟨due.id, task.1, dueAt due, task.2⟩) ++ w.queued ∧
      ∀ id, (attempt computeNextScheduledRun w a).schedules.get id
        = (w.schedules.get id).map fun row =>
            if row.id = due.id then
              (triggerBody computeNextScheduledRun due a.trigger).2.set a.trigger.now due
            else row := by
  constructor
  · simp only [attempt, claimNextDueSchedule_eq h, triggerClaimedSchedule,
      triggerBody_claimedWith]
    rfl
  · intro id
    simp only [attempt, claimNextDueSchedule_eq h]
    exact get_trigger_claimed h id

section

variable {Token : Type} {platform : AccountPlatform Token}
  {zones : String → ScheduledTaskUtils.Zone}

/-- **A trigger never puts the schedule back**: its next run lies ahead of the one that
was due, and a trigger that fails leaves that one due. -/
theorem dueAt_afterTrigger {due : ScheduledTaskEntity} (input : TriggerInput)
    (hnext : due.nextRunAt = some (dueAt due))
    (hahead : RowRunAhead platform zones due.timing (dueAt due)) :
    dueAt due ≤ dueAt ((triggerBody (computeRowRun platform zones) due input).2.set input.now due) ∧
      ((triggerBody (computeRowRun platform zones) due input).2.advances = true →
        dueAt due < dueAt
          ((triggerBody (computeRowRun platform zones) due input).2.set input.now due)) := by
  cases hadvances : (triggerBody (computeRowRun platform zones) due input).2.advances with
  | true =>
      obtain ⟨nextRunAt, hadvanced, hset⟩ := triggerBody_advances hadvances
      rw [advancedRun, hnext, Option.getD_some] at hadvanced
      have hlater := hahead.lt hadvanced
      rw [dueAt, dueAt, hset, Option.getD_some]
      exact ⟨hlater.le, fun _ => hlater⟩
  | false =>
      refine ⟨?_, fun h => absurd h Bool.false_ne_true⟩
      cases hout : (triggerBody (computeRowRun platform zones) due input).2 with
      | failed message => exact le_refl _
      | noTargets nextRunAt => rw [hout] at hadvances; cases hadvances
      | succeeded taskId nextRunAt => rw [hout] at hadvances; cases hadvances

/-- **One attempt.** -/
theorem OccurrenceInv.attempt {w : OccurrenceWorld} (h : OccurrenceInv w) (a : Attempt)
    (hguard : TriggersNoneOrAll platform zones w a) :
    OccurrenceInv (attempt (computeRowRun platform zones) w a) := by
  cases hcand : candidate a.claim w.schedules.rows with
  | none =>
      rw [attempt_none hcand]
      exact h
  | some due =>
      obtain ⟨hqueued, hrows⟩ := @attempt_some (computeRowRun platform zones) w a due hcand
      obtain ⟨hwhole, hahead⟩ := hguard due hcand
      obtain ⟨hmem, hdue, -⟩ := candidate_eq_some hcand
      obtain ⟨nextRunAt, hnext, -⟩ := (isClaimable_iff.mp (isCandidate_iff.mp hdue).1).2.1
      have hget := Table.get_of_mem hmem
      have hdueAt : due.nextRunAt = some (dueAt due) := by rw [dueAt, hnext, Option.getD_some]
      obtain ⟨hkept, hmoved⟩ := dueAt_afterTrigger a.trigger hdueAt hahead
      -- the tasks of before stay behind the run of their schedule
      have hpast : ∀ task ∈ w.queued, ∀ row,
          (ScheduledTasksService.attempt (computeRowRun platform zones) w a).schedules.get
            task.scheduleId = some row → task.occurrence < dueAt row := by
        intro task htask row hrow
        rw [hrows] at hrow
        obtain ⟨old, hold, rfl⟩ := Option.map_eq_some_iff.mp hrow
        have hbefore := h.past task htask old hold
        split
        case isTrue hsame =>
            obtain rfl : old = due := by
              rw [← Table.key_of_get hold, hsame, hget] at hold
              exact (Option.some.inj hold).symm
            omega
        case isFalse => exact hbefore
      rcases triggerBody_noneOrAll hwhole with hnone | ⟨hadvances, hnodup⟩
      · rw [hnone] at hqueued
        constructor
        · unfold OneTaskPerOccurrence
          rw [hqueued]
          exact h.once
        · intro task htask
          rw [hqueued] at htask
          exact hpast task htask
      · constructor
        · unfold OneTaskPerOccurrence
          rw [hqueued, List.map_append, List.map_map, List.nodup_append]
          refine ⟨?_, h.once, ?_⟩
          · have hinj : Function.Injective
                (fun nodeId : Uuid => (due.id, nodeId, dueAt due)) := by
              intro a b hab
              simpa using hab
            have hmapped := hnodup.map hinj
            rw [List.map_map] at hmapped
            exact hmapped
          · -- an older task of the schedule is for an earlier occurrence
            intro key hkey key' hkey' heq
            obtain ⟨task, -, rfl⟩ := List.mem_map.mp hkey
            obtain ⟨old, hold, rfl⟩ := List.mem_map.mp hkey'
            simp only [Function.comp_apply, Prod.mk.injEq] at heq
            obtain ⟨hid, -, hoccurrence⟩ := heq
            have hbefore := h.past old hold due (hid ▸ hget)
            omega
        · intro task htask row hrow
          rw [hqueued] at htask
          rcases List.mem_append.mp htask with hnew | hold
          · obtain ⟨inserted, -, rfl⟩ := List.mem_map.mp hnew
            rw [hrows, hget, Option.map_some, if_pos rfl] at hrow
            obtain rfl := Option.some.inj hrow
            exact hmoved hadvances
          · exact hpast task hold row hrow

/-- **One task per target and occurrence.**  Whatever schedules there are, whichever
of them the runner claims and however creating the tasks goes: as long as no trigger
throws between its first and its last task, and every next run lies ahead, no target
gets a second task for an occurrence. -/
theorem one_task_per_occurrence (platform : AccountPlatform Token)
    (zones : String → ScheduledTaskUtils.Zone) (schedules : Table ScheduledTaskEntity.id)
    (es : List Attempt)
    (hes : Along (ScheduledTasksService.attempt (computeRowRun platform zones))
      (TriggersNoneOrAll platform zones) { schedules := schedules } es) :
    OneTaskPerOccurrence (run (ScheduledTasksService.attempt (computeRowRun platform zones))
      { schedules := schedules } es) := by
  have hinit : OccurrenceInv { schedules := schedules } :=
    ⟨List.nodup_nil, fun task htask => absurd htask List.not_mem_nil⟩
  exact (inv_run (fun _ a h hg => h.attempt a hg) hinit hes).once

end

/-! ## A team of two nodes -/

/-- A schedule that runs every minute on the nodes of a team. -/
def teamSchedule : ScheduledTaskEntity where
  id := "s"
  workspaceId := "w"
  targetTeamId := some "team"
  timing := { cadence := .minutely }
  nextRunAt := some 0
  createdAt := 0

/-- A node of the team. -/
def teamNode (id : Uuid) : NodeEntity where
  id := id
  workspaceId := "w"
  hostname := id

/-- The nodes `a` and `b`. -/
def teamNodes : Table NodeEntity.id := (Table.empty.insert (teamNode "a")).insert (teamNode "b")

/-- An attempt at an instant at which the tasks of both nodes are queued. -/
def attemptBoth (now : ℤ) (claimToken : Uuid) : Attempt where
  claim := { now := now, claimToken := claimToken }
  trigger := { now := now
               teamNodes := .ok teamNodes
               queue := fun nodeId => .queued (nodeId ++ claimToken) }

/-- The attempt in which the second node refuses its task. -/
def attemptHalf : Attempt where
  claim := { now := 0, claimToken := "1" }
  trigger := { teamNodes := .ok teamNodes
               queue := fun nodeId =>
                 if nodeId = "b" then .refused "Node b was not found" else .queued (nodeId ++ "1") }

/-- The zone without an offset. -/
def utc (_ : String) : ScheduledTaskUtils.Zone where
  offset _ := 0

/-- Two occurrences, each with a task for both nodes. -/
theorem one_task_per_occurrence_two_minutes :
    OneTaskPerOccurrence (run (attempt (computeRowRun UsersService.sampleAccountPlatform utc))
      { schedules := Table.empty.insert teamSchedule }
      [attemptBoth 0 "1", attemptBoth 60000 "2"]) := by
  have hguard : Along (attempt (computeRowRun UsersService.sampleAccountPlatform utc))
      (fun w a => ∀ schedule ∈ candidate a.claim w.schedules.rows,
        QueuesNoneOrAll (computeRowRun UsersService.sampleAccountPlatform utc) schedule a.trigger ∧
          schedule.timing.cadence = .minutely)
      { schedules := Table.empty.insert teamSchedule }
      [attemptBoth 0 "1", attemptBoth 60000 "2"] := by
    decide +kernel
  obtain ⟨hfirst, hsecond, -⟩ := hguard
  exact one_task_per_occurrence UsersService.sampleAccountPlatform utc _ _
    ⟨fun schedule hcand =>
        ⟨(hfirst schedule hcand).1, rowRunAhead_minutely (hfirst schedule hcand).2⟩,
      fun schedule hcand =>
        ⟨(hsecond schedule hcand).1, rowRunAhead_minutely (hsecond schedule hcand).2⟩, trivial⟩

/-- **The retried trigger.**  The second node refuses its task, the occurrence stays
due, and the next attempt queues a second task for the first node. -/
theorem retried_trigger_duplicates :
    ¬ OneTaskPerOccurrence (run (attempt (computeRowRun UsersService.sampleAccountPlatform utc))
      { schedules := Table.empty.insert teamSchedule } [attemptHalf, attemptBoth 1000 "2"]) := by
  decide +kernel

end ScheduledTasksService
