/-
# Runners and operators on the same schedules

The steps of `runDueSchedules`, `updateEnabled` and `recomputeWorkspaceSchedules`,
cut at their database accesses: between the SELECT of a claim and its UPDATE, between
a claim and the UPDATE of its trigger, and between the load of a row and its save,
any other runner or operator may move.  A runner that crashes is never resumed.
-/
import NoderaxApi.ScheduledTasks
import NoderaxApi.Interleaving

namespace ScheduledTasksService

open KeyedTable

/-! ## The world -/

/-- What has happened to the claims and the `enabled` flags; no code reads it. -/
inductive ScheduleRecord
  | created (id : Uuid)
  /-- The UPDATE of a claim, with the lease it wrote and the instant it ran at. -/
  | claimed (id token : Uuid) (leaseUntil now : ℤ)
  /-- An UPDATE of a trigger that found its token. -/
  | released (id token : Uuid)
  | enabled (id : Uuid)
  | disabled (id : Uuid)
  | recomputed (id : Uuid)
  deriving DecidableEq

/-- The schedule a record is about. -/
def ScheduleRecord.scheduleId : ScheduleRecord → Uuid
  | .created id | .claimed id _ _ _ | .released id _ | .enabled id | .disabled id
  | .recomputed id => id

/-- The table, the clock of the instances, and the history, latest record last. -/
structure ScheduleWorld where
  schedules : Table ScheduledTaskEntity.id := Table.empty
  clock : ℤ := 0
  history : List ScheduleRecord := []

/-! ## The calls -/

/-- A pass of a runner, or a request of an operator. -/
inductive ScheduleRequest
  | create (schedule : ScheduledTaskEntity)
  | runDueSchedules (claimedBy : String)
  | updateEnabled (id : Uuid) (workspaceId : Option Uuid) (enabled : Bool)
  | recomputeWorkspaceSchedules (workspaceId : Uuid) (timezone : String)

/-- What is left of a call after a step. -/
inductive PendingScheduleCall
  /-- The head of the runner's loop. -/
  | claim (claimedBy : String)
  /-- The SELECT of `claimNextDueSchedule` after an UPDATE that found nothing. -/
  | select (claimedBy : String) (now : ℤ)
  /-- The UPDATE of `claimNextDueSchedule`. -/
  | update (claimedBy : String) (now : ℤ) (id : Uuid)
  /-- `triggerClaimedSchedule` up to its UPDATE. -/
  | trigger (claimedBy : String) (schedule : ScheduledTaskEntity)
  /-- The event after a successful UPDATE, and the UPDATE of the catch block. -/
  | recordEvent (claimedBy : String) (schedule : ScheduledTaskEntity)
  /-- The save of `updateEnabled`. -/
  | saveEnabled (schedule : ScheduledTaskEntity) (enabled : Bool)
  /-- The save of `recomputeWorkspaceSchedules`. -/
  | saveRecomputed (schedules : List ScheduledTaskEntity) (timezone : String)

/-- What a step receives from outside. -/
structure ScheduleInput where
  archived : List Uuid := []
  rank : Uuid → ℕ := fun _ => 0
  claimToken : Uuid := ""
  trigger : TriggerInput := { queue := fun _ => .refused "" }
  /-- Whether `assertWorkspaceWritable` returns. -/
  writable : Bool := true

/-- The claim input of a runner that read the clock at `now`. -/
def ScheduleInput.claimInput (input : ScheduleInput) (claimedBy : String) (now : ℤ) :
    ClaimInput where
  now := now
  archived := input.archived
  rank := input.rank
  claimedBy := claimedBy
  claimToken := input.claimToken

/-- The SELECT of a claim. -/
def selectStep (claimedBy : String) (now : ℤ) (input : ScheduleInput) (w : ScheduleWorld) :
    ScheduleWorld × Option PendingScheduleCall :=
  match candidate (input.claimInput claimedBy now) w.schedules.rows with
  | none => (w, none)
  | some due => (w, some (.update claimedBy now due.id))

/-- The tokens of all claims so far. -/
def usedTokens (history : List ScheduleRecord) : List Uuid :=
  history.filterMap fun record =>
    match record with
    | .claimed _ token _ _ => some token
    | _ => none

/-- The UPDATE of a claim.  `randomUUID` answers no token twice: a step with a used
one does nothing. -/
def updateStep (claimedBy : String) (now : ℤ) (id : Uuid) (input : ScheduleInput)
    (w : ScheduleWorld) : ScheduleWorld × Option PendingScheduleCall :=
  let claim := input.claimInput claimedBy now
  if input.claimToken ∈ usedTokens w.history then (w, some (.update claimedBy now id))
  else
    match (w.schedules.get id).filter (isClaimable now) with
    | none => (w, some (.select claimedBy now))
    | some row =>
        ({ w with
            schedules := claimById claim id w.schedules
            history := w.history ++
              [.claimed id input.claimToken (now + scheduledTaskRunnerLeaseMs) w.clock] },
          some (.trigger claimedBy (claimedWith claim row)))

/-- An UPDATE of a trigger. -/
def recordStep (schedule : ScheduledTaskEntity) (outcome : TriggerOutcome) (w : ScheduleWorld) :
    ScheduleWorld :=
  { w with
    schedules := recordOutcome schedule w.clock outcome w.schedules
    history :=
      match (w.schedules.get schedule.id).filter
          (fun row => decide (row.claimToken = schedule.claimToken)), schedule.claimToken with
      | some _, some token => w.history ++ [.released schedule.id token]
      | _, _ => w.history }

section

variable (computeNextScheduledRun : ScheduledTaskTiming → ℤ → Except String ℤ)

/-- The row `createSchedulesForNodes` and `createSchedulesForTeam` save. -/
def createdSchedule (now : ℤ) (schedule : ScheduledTaskEntity) :
    Except String ScheduledTaskEntity := do
  let nextRunAt ← computeNextScheduledRun schedule.timing now
  return { schedule with
    timezoneSource := .workspace
    enabled := true
    nextRunAt := some nextRunAt
    lastRunAt := none
    lastRunTaskId := none
    lastError := none
    leaseUntil := none
    claimedBy := none
    claimToken := none }

/-- The body of a trigger and its UPDATE.  Only a success is followed by another
await that may throw into the catch block. -/
def triggerStep (claimedBy : String) (schedule : ScheduledTaskEntity) (input : ScheduleInput)
    (w : ScheduleWorld) : ScheduleWorld × Option PendingScheduleCall :=
  let body := triggerBody computeNextScheduledRun schedule { input.trigger with now := w.clock }
  (recordStep schedule body.2 w,
    match body.2 with
    | .noTargets _ => some (.claim claimedBy)
    | .succeeded _ _ => some (.recordEvent claimedBy schedule)
    | .failed _ => none)

/-- The first step of a call. -/
def invokeSchedule (request : ScheduleRequest) (input : ScheduleInput) (w : ScheduleWorld) :
    ScheduleWorld × Option PendingScheduleCall :=
  match request with
  | .create schedule =>
      match w.schedules.get schedule.id,
        createdSchedule computeNextScheduledRun w.clock schedule with
      | none, .ok row =>
          ({ w with
              schedules := w.schedules.insert row
              history := w.history ++ [.created row.id] }, none)
      | _, _ => (w, none)
  | .runDueSchedules claimedBy => selectStep claimedBy w.clock input w
  | .updateEnabled id workspaceId enabled =>
      match (w.schedules.get id).filter fun row =>
          workspaceId.all fun workspaceId => decide (row.workspaceId = workspaceId) with
      | none => (w, none)
      | some schedule => (w, some (.saveEnabled schedule enabled))
  | .recomputeWorkspaceSchedules workspaceId timezone =>
      match w.schedules.rows.filter fun row =>
          decide (row.workspaceId = workspaceId) && decide (row.timezoneSource = .workspace) with
      | [] => (w, none)
      | schedules => (w, some (.saveRecomputed schedules timezone))

/-- The next step of a pending call. -/
def resumeSchedule (call : PendingScheduleCall) (input : ScheduleInput) (w : ScheduleWorld) :
    ScheduleWorld × Option PendingScheduleCall :=
  match call with
  | .claim claimedBy => selectStep claimedBy w.clock input w
  | .select claimedBy now => selectStep claimedBy now input w
  | .update claimedBy now id => updateStep claimedBy now id input w
  | .trigger claimedBy schedule => triggerStep computeNextScheduledRun claimedBy schedule input w
  | .recordEvent claimedBy schedule =>
      match input.trigger.eventError with
      | none => (w, some (.claim claimedBy))
      | some message => (recordStep schedule (.failed message) w, none)
  | .saveEnabled schedule enabled =>
      match input.writable, withEnabled computeNextScheduledRun enabled w.clock schedule with
      | true, .ok copy =>
          ({ w with
              schedules := save [copy] w.schedules
              history := w.history ++
                [if enabled then .enabled schedule.id else .disabled schedule.id] }, none)
      | _, _ => (w, none)
  | .saveRecomputed schedules timezone =>
      match schedules.mapM (recomputed computeNextScheduledRun timezone w.clock) with
      | .error _ => (w, none)
      | .ok copies =>
          ({ w with
              schedules := save copies w.schedules
              history := w.history ++ copies.map fun copy => .recomputed copy.id }, none)

/-- The schedules as interleaved calls. -/
def scheduleCalls :
    Interleaving.Calls ScheduleWorld ScheduleRequest PendingScheduleCall ScheduleInput :=
  ⟨invokeSchedule computeNextScheduledRun, resumeSchedule computeNextScheduledRun⟩

end

/-- The clock of the instances advances. -/
def advanceClock (ms : ℕ) (w : ScheduleWorld) : ScheduleWorld := { w with clock := w.clock + ms }

/-- The runners and requests of all API instances. -/
abbrev ScheduleConfig := Interleaving.Config ℕ ScheduleWorld PendingScheduleCall

/-- What moves next. -/
abbrev ScheduleEvent := Interleaving.Event ℕ ScheduleRequest ScheduleInput ℕ

/-- The state after the events `es`, from an empty table. -/
abbrev scheduleRun (computeNextScheduledRun : ScheduledTaskTiming → ℤ → Except String ℤ)
    (es : List ScheduleEvent) : ScheduleConfig :=
  Runs.run (Interleaving.step (scheduleCalls computeNextScheduledRun) advanceClock)
    (Interleaving.Config.idle {}) es

/-! ## The moves -/

/-- **Everything a step can do to the world**, except for the save of a recomputation. -/
inductive ScheduleMove (w : ScheduleWorld) : ScheduleWorld → Prop
  | stay : ScheduleMove w w
  | created (row : ScheduledTaskEntity) (hnew : w.schedules.get row.id = none)
      (hclaim : row.claimToken = none) :
      ScheduleMove w { w with
        schedules := w.schedules.insert row
        history := w.history ++ [.created row.id] }
  | claimed (input : ClaimInput) (row : ScheduledTaskEntity)
      (hrow : w.schedules.get row.id = some row) (hclaim : isClaimable input.now row = true)
      (hnow : input.now ≤ w.clock) :
      ScheduleMove w { w with
        schedules := claimById input row.id w.schedules
        history := w.history ++ [.claimed row.id input.claimToken
          (input.now + scheduledTaskRunnerLeaseMs) w.clock] }
  | released (schedule row : ScheduledTaskEntity) (outcome : TriggerOutcome) (token : Uuid)
      (hrow : w.schedules.get schedule.id = some row) (htoken : row.claimToken = some token)
      (hsame : schedule.claimToken = some token) :
      ScheduleMove w { w with
        schedules := recordOutcome schedule w.clock outcome w.schedules
        history := w.history ++ [.released schedule.id token] }
  | enabled (copy : ScheduledTaskEntity) (hclaim : copy.claimToken = none) :
      ScheduleMove w { w with
        schedules := save [copy] w.schedules
        history := w.history ++ [.enabled copy.id] }
  | disabled (copy : ScheduledTaskEntity) (hclaim : copy.claimToken = none)
      (hnext : copy.nextRunAt = none) :
      ScheduleMove w { w with
        schedules := save [copy] w.schedules
        history := w.history ++ [.disabled copy.id] }
  | advanced (ms : ℕ) : ScheduleMove w { w with clock := w.clock + ms }

/-- What a pending call knows: the instant it read has passed, and its trigger has a
claim token. -/
def PendingScheduleCall.Sound (w : ScheduleWorld) : PendingScheduleCall → Prop
  | .select _ now | .update _ now _ => now ≤ w.clock
  | .trigger _ schedule | .recordEvent _ schedule => schedule.claimToken ≠ none
  | .claim _ | .saveEnabled _ _ | .saveRecomputed _ _ => True

variable {computeNextScheduledRun : ScheduledTaskTiming → ℤ → Except String ℤ} {w : ScheduleWorld}

theorem recordOutcome_of_stale {schedule : ScheduledTaskEntity} {now : ℤ} {outcome : TriggerOutcome}
    {schedules : Table ScheduledTaskEntity.id}
    (h : ∀ row, schedules.get schedule.id = some row → row.claimToken ≠ schedule.claimToken) :
    recordOutcome schedule now outcome schedules = schedules := by
  refine Table.update_of_none fun row hrow => ?_
  by_cases hid : row.id = schedule.id
  · have hget := Table.get_of_mem hrow
    rw [hid] at hget
    simp [h row hget]
  · simp [hid]

/-- An UPDATE of a trigger releases the claim, or finds no row with its token. -/
theorem recordStep_cases {schedule : ScheduledTaskEntity} (outcome : TriggerOutcome)
    (hclaim : schedule.claimToken ≠ none) :
    (∃ row token, w.schedules.get schedule.id = some row ∧ row.claimToken = some token ∧
      schedule.claimToken = some token ∧
      recordStep schedule outcome w = { w with
        schedules := recordOutcome schedule w.clock outcome w.schedules
        history := w.history ++ [.released schedule.id token] }) ∨
    ((∀ row, w.schedules.get schedule.id = some row → row.claimToken ≠ schedule.claimToken) ∧
      recordStep schedule outcome w = w) := by
  obtain ⟨token, htoken⟩ := Option.ne_none_iff_exists'.mp hclaim
  cases hfound : (w.schedules.get schedule.id).filter
      (fun row => decide (row.claimToken = schedule.claimToken)) with
  | some row =>
      left
      obtain ⟨hrow, hsame⟩ := Option.filter_eq_some_iff.mp hfound
      have hrowToken : row.claimToken = some token := (of_decide_eq_true hsame).trans htoken
      refine ⟨row, token, hrow, hrowToken, htoken, ?_⟩
      rw [htoken] at hfound
      simp only [recordStep, htoken, hfound]
  | none =>
      right
      have hstale : ∀ row, w.schedules.get schedule.id = some row →
          row.claimToken ≠ schedule.claimToken := by
        intro row hrow hsame
        rw [hrow] at hfound
        simp [Option.filter, hsame] at hfound
      refine ⟨hstale, ?_⟩
      simp only [recordStep, hfound, recordOutcome_of_stale hstale]

theorem move_recordStep {schedule : ScheduledTaskEntity} (outcome : TriggerOutcome)
    (hclaim : schedule.claimToken ≠ none) : ScheduleMove w (recordStep schedule outcome w) := by
  rcases recordStep_cases (w := w) outcome hclaim with
    ⟨row, token, hrow, htoken, hsame, heq⟩ | ⟨-, heq⟩
  · rw [heq]
    exact .released schedule row outcome token hrow htoken hsame
  · rw [heq]
    exact .stay

/-- The clock never goes back. -/
theorem ScheduleMove.clock_le {w' : ScheduleWorld} (h : ScheduleMove w w') :
    w.clock ≤ w'.clock := by
  cases h with
  | advanced ms =>
      show w.clock ≤ w.clock + ms
      omega
  | _ => exact le_refl _

/-- What a call knows stays true. -/
theorem PendingScheduleCall.Sound.mono {w' : ScheduleWorld} {call : PendingScheduleCall}
    (h : call.Sound w) (hclock : w.clock ≤ w'.clock) : call.Sound w' := by
  cases call with
  | select claimedBy now => exact le_trans h hclock
  | update claimedBy now id => exact le_trans h hclock
  | trigger claimedBy schedule => exact h
  | recordEvent claimedBy schedule => exact h
  | claim claimedBy => trivial
  | saveEnabled schedule enabled => trivial
  | saveRecomputed schedules timezone => trivial

/-- A step of a call: one move, and a sound rest of the call. -/
def SoundStep (w : ScheduleWorld) (next : ScheduleWorld × Option PendingScheduleCall) : Prop :=
  ScheduleMove w next.1 ∧ ∀ call, next.2 = some call → call.Sound next.1

/-- A call that ends without a write. -/
theorem soundStep_end : SoundStep w (w, none) :=
  ⟨.stay, fun _ h => absurd h (by simp)⟩

theorem soundStep_select (claimedBy : String) {now : ℤ} (input : ScheduleInput)
    (hnow : now ≤ w.clock) : SoundStep w (selectStep claimedBy now input w) := by
  unfold selectStep
  split
  · exact soundStep_end
  · refine ⟨.stay, fun call h => ?_⟩
    obtain rfl := Option.some.inj h
    exact hnow

theorem soundStep_update (claimedBy : String) {now : ℤ} (id : Uuid) (input : ScheduleInput)
    (hnow : now ≤ w.clock) : SoundStep w (updateStep claimedBy now id input w) := by
  simp only [updateStep]
  split
  · refine ⟨.stay, fun call h => ?_⟩
    obtain rfl := Option.some.inj h
    exact hnow
  · split
    · refine ⟨.stay, fun call h => ?_⟩
      obtain rfl := Option.some.inj h
      exact hnow
    · next row hfound =>
        obtain ⟨hrow, hclaim⟩ := Option.filter_eq_some_iff.mp hfound
        obtain rfl : row.id = id := Table.key_of_get hrow
        refine ⟨.claimed (input.claimInput claimedBy now) row hrow hclaim hnow, fun call h => ?_⟩
        obtain rfl := Option.some.inj h
        simp [PendingScheduleCall.Sound, claimedWith]

theorem soundStep_trigger (claimedBy : String) {schedule : ScheduledTaskEntity}
    (input : ScheduleInput) (hclaim : schedule.claimToken ≠ none) :
    SoundStep w (triggerStep computeNextScheduledRun claimedBy schedule input w) := by
  refine ⟨move_recordStep _ hclaim, fun call h => ?_⟩
  simp only [triggerStep] at h
  split at h
  · obtain rfl := Option.some.inj h
    trivial
  · obtain rfl := Option.some.inj h
    exact hclaim
  · exact absurd h (by simp)

/-! ### The saves -/

theorem withEnabled_eq_ok {enabled : Bool} {now : ℤ} {schedule copy : ScheduledTaskEntity}
    (h : withEnabled computeNextScheduledRun enabled now schedule = .ok copy) :
    copy.id = schedule.id ∧ copy.claimToken = none ∧ (enabled = false → copy.nextRunAt = none) := by
  obtain ⟨nextRunAt, hnext, hcopy⟩ := bind_eq_ok.mp h
  obtain rfl := Except.ok.inj hcopy
  refine ⟨rfl, rfl, fun hdisabled => ?_⟩
  have hsome := runIfEnabled_eq_ok hnext
  rw [hdisabled] at hsome
  simpa using hsome

/-- A recomputed copy is released, and has a next run exactly when it is enabled. -/
theorem recomputed_eq_ok {timezone : String} {now : ℤ} {schedule copy : ScheduledTaskEntity}
    (h : recomputed computeNextScheduledRun timezone now schedule = .ok copy) :
    copy.claimToken = none ∧ copy.nextRunAt.isSome = copy.enabled := by
  obtain ⟨nextRunAt, hnext, hcopy⟩ := bind_eq_ok.mp h
  obtain rfl := Except.ok.inj hcopy
  exact ⟨rfl, runIfEnabled_eq_ok hnext⟩

/-- Every copy of a list comes from one of the loaded rows. -/
theorem mem_of_mapM_eq_ok {f : ScheduledTaskEntity → Except String ScheduledTaskEntity}
    {schedules copies : List ScheduledTaskEntity} (h : schedules.mapM f = .ok copies)
    {copy : ScheduledTaskEntity} (hcopy : copy ∈ copies) :
    ∃ schedule ∈ schedules, f schedule = .ok copy := by
  induction schedules generalizing copies with
  | nil =>
      obtain rfl : [] = copies := by simpa [pure, Except.pure] using h
      exact absurd hcopy List.not_mem_nil
  | cons schedule schedules ih =>
      rw [List.mapM_cons] at h
      obtain ⟨first, hfirst, hrest⟩ := bind_eq_ok.mp h
      obtain ⟨rest, hmap, hcopies⟩ := bind_eq_ok.mp hrest
      obtain rfl := Except.ok.inj hcopies
      rcases List.mem_cons.mp hcopy with rfl | hlater
      · exact ⟨schedule, List.mem_cons_self, hfirst⟩
      · obtain ⟨old, hold, hf⟩ := ih hmap hlater
        exact ⟨old, List.mem_cons_of_mem _ hold, hf⟩

/-! ### All steps -/

/-- **The first step of a call is a move.** -/
theorem soundStep_invoke (computeNextScheduledRun : ScheduledTaskTiming → ℤ → Except String ℤ)
    (request : ScheduleRequest) (input : ScheduleInput) (w : ScheduleWorld) :
    SoundStep w (invokeSchedule computeNextScheduledRun request input w) := by
  cases request with
  | create schedule =>
      simp only [invokeSchedule]
      split
      · next row hnew hcreated =>
          obtain ⟨nextRunAt, -, hrow⟩ := bind_eq_ok.mp hcreated
          obtain rfl := Except.ok.inj hrow
          exact ⟨.created _ hnew rfl, fun _ h => absurd h (by simp)⟩
      · exact soundStep_end
  | runDueSchedules claimedBy => exact soundStep_select claimedBy input (le_refl _)
  | updateEnabled id workspaceId enabled =>
      simp only [invokeSchedule]
      split
      · exact soundStep_end
      · refine ⟨.stay, fun call h => ?_⟩
        obtain rfl := Option.some.inj h
        trivial
  | recomputeWorkspaceSchedules workspaceId timezone =>
      simp only [invokeSchedule]
      split
      · exact soundStep_end
      · refine ⟨.stay, fun call h => ?_⟩
        obtain rfl := Option.some.inj h
        trivial

/-- **Every later step is a move**, but for the save of a recomputation. -/
theorem soundStep_resume {call : PendingScheduleCall} (input : ScheduleInput) {w : ScheduleWorld}
    (hcall : call.Sound w)
    (hother : ∀ schedules timezone, call ≠ .saveRecomputed schedules timezone) :
    SoundStep w (resumeSchedule computeNextScheduledRun call input w) := by
  cases call with
  | claim claimedBy => exact soundStep_select claimedBy input (le_refl _)
  | select claimedBy now => exact soundStep_select claimedBy input hcall
  | update claimedBy now id => exact soundStep_update claimedBy id input hcall
  | trigger claimedBy schedule => exact soundStep_trigger claimedBy input hcall
  | recordEvent claimedBy schedule =>
      simp only [resumeSchedule]
      split
      · refine ⟨.stay, fun call h => ?_⟩
        obtain rfl := Option.some.inj h
        trivial
      · exact ⟨move_recordStep _ hcall, fun _ h => absurd h (by simp)⟩
  | saveEnabled schedule enabled =>
      simp only [resumeSchedule]
      split
      · next copy _ hcopy =>
          obtain ⟨hid, hclaim, hnext⟩ := withEnabled_eq_ok hcopy
          refine ⟨?_, fun _ h => absurd h (by simp)⟩
          rw [← hid]
          cases enabled with
          | true => exact .enabled copy hclaim
          | false => exact .disabled copy hclaim (hnext rfl)
      · exact soundStep_end
  | saveRecomputed schedules timezone => exact absurd rfl (hother schedules timezone)

/-- The save of a recomputation: its copies are released, and have a next run exactly
when they are enabled. -/
theorem resume_saveRecomputed
    (computeNextScheduledRun : ScheduledTaskTiming → ℤ → Except String ℤ)
    (schedules : List ScheduledTaskEntity) (timezone : String) (input : ScheduleInput)
    (w : ScheduleWorld) :
    (∃ message, schedules.mapM (recomputed computeNextScheduledRun timezone w.clock)
        = .error message ∧
      resumeSchedule computeNextScheduledRun (.saveRecomputed schedules timezone) input w
        = (w, none)) ∨
    ∃ copies, schedules.mapM (recomputed computeNextScheduledRun timezone w.clock) = .ok copies ∧
      resumeSchedule computeNextScheduledRun (.saveRecomputed schedules timezone) input w
        = ({ w with
              schedules := save copies w.schedules
              history := w.history ++ copies.map fun copy => .recomputed copy.id }, none) ∧
      ∀ copy ∈ copies, copy.claimToken = none ∧ copy.nextRunAt.isSome = copy.enabled := by
  cases hcopies : schedules.mapM (recomputed computeNextScheduledRun timezone w.clock) with
  | error message => exact Or.inl ⟨message, rfl, by simp only [resumeSchedule, hcopies]⟩
  | ok copies =>
      refine Or.inr ⟨copies, rfl, by simp only [resumeSchedule, hcopies], fun copy hcopy => ?_⟩
      obtain ⟨schedule, -, hf⟩ := mem_of_mapM_eq_ok hcopies hcopy
      exact recomputed_eq_ok hf

end ScheduledTasksService
