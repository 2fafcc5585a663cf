/-
# Exclusive and fenced schedule claims

A claim is an UPDATE that asks for a free or expired lease, and a trigger's UPDATEs
ask for the token of its claim, so two claims only follow each other when the first
one ended, and a runner that lost its claim writes nothing.

`updateEnabled` and `recomputeWorkspaceSchedules` save the rows they loaded, with the
claim columns cleared.  A recomputation that loaded a row while it was enabled writes
`enabled` and a next run back over an operator's disabling.
-/
import NoderaxApi.ScheduledTaskCalls
import NoderaxApi.Histories

namespace ScheduledTasksService

open Histories Interleaving KeyedTable Runs

/-! ## What the history says -/

/-- The claim of `id` with this token was released by its trigger, or cleared by an
operator. -/
def Ended (id token : Uuid) (records : List ScheduleRecord) : Prop :=
  ∃ record ∈ records, record = .released id token ∨ record = .enabled id ∨ record = .disabled id ∨
    record = .recomputed id

theorem Ended.append_left {id token : Uuid} {records : List ScheduleRecord}
    (h : Ended id token records) (later : List ScheduleRecord) :
    Ended id token (records ++ later) := by
  obtain ⟨record, hmem, hrecord⟩ := h
  exact ⟨record, List.mem_append_left _ hmem, hrecord⟩

theorem Ended.append_right {id token : Uuid} {records : List ScheduleRecord}
    (h : Ended id token records) (earlier : List ScheduleRecord) :
    Ended id token (earlier ++ records) := by
  obtain ⟨record, hmem, hrecord⟩ := h
  exact ⟨record, List.mem_append_right _ hmem, hrecord⟩

/-- A claim is allowed after others of its schedule whose leases expired before it, or
which ended before it. -/
def ClaimAllowed (past : List ScheduleRecord) : ScheduleRecord → Prop
  | .claimed id _ _ now => ∀ before rest token leaseUntil claimedAt,
      past = before ++ .claimed id token leaseUntil claimedAt :: rest →
        Ended id token rest ∨ leaseUntil ≤ now
  | _ => True

/-- The latest record about a schedule. -/
def lastOn (id : Uuid) : List ScheduleRecord → Option ScheduleRecord :=
  lastWith fun record => decide (record.scheduleId = id)

/-- A record of the creation of a schedule or of `updateEnabled`. -/
def ScheduleRecord.isSwitch : ScheduleRecord → Bool
  | .created _ | .enabled _ | .disabled _ => true
  | .claimed _ _ _ _ | .released _ _ | .recomputed _ => false

/-- The latest `updateEnabled` of the schedule disabled it. -/
def Disabled (id : Uuid) (history : List ScheduleRecord) : Prop :=
  lastWith (fun record => decide (record.scheduleId = id) && record.isSwitch) history
    = some (.disabled id)

instance (id : Uuid) (history : List ScheduleRecord) : Decidable (Disabled id history) := by
  unfold Disabled; infer_instance

/-- The claim the schedule was returned with is the latest thing that happened to it:
it was neither taken over nor released nor cleared. -/
def HoldsClaim (schedule : ScheduledTaskEntity) (history : List ScheduleRecord) : Prop :=
  ∃ token leaseUntil now, schedule.claimToken = some token ∧
    lastOn schedule.id history = some (.claimed schedule.id token leaseUntil now)

/-- The claimed schedule a runner is about to write. -/
def PendingScheduleCall.claimed? : PendingScheduleCall → Option ScheduledTaskEntity
  | .trigger _ schedule | .recordEvent _ schedule => some schedule
  | .claim _ | .select _ _ | .update _ _ _ | .saveEnabled _ _ | .saveRecomputed _ _ => none

/-- A disabled schedule has no next run until it is enabled again. -/
def NextRunKept (w : ScheduleWorld) : Prop :=
  ∀ id row, w.schedules.get id = some row → Disabled id w.history → row.nextRunAt = none

/-- **Exclusive and fenced claims.** -/
structure ClaimsFenced (computeNextScheduledRun : ScheduledTaskTiming → ℤ → Except String ℤ)
    (c : ScheduleConfig) : Prop where
  exclusive : Justified ClaimAllowed c.world.history
  fenced : ∀ p call, c.pending p = some call → ∀ schedule ∈ call.claimed?,
    ¬ HoldsClaim schedule c.world.history → ∀ input,
      (resumeSchedule computeNextScheduledRun call input c.world).1.schedules = c.world.schedules
  disabled : NextRunKept c.world

/-! ## The invariant -/

/-- Every claim has ended or expired, or its token and lease are still in the row. -/
def ClaimsTracked (w : ScheduleWorld) : Prop :=
  ∀ past rest id token leaseUntil now,
    w.history = past ++ .claimed id token leaseUntil now :: rest →
      Ended id token rest ∨ leaseUntil ≤ w.clock ∨
        ∃ row, w.schedules.get id = some row ∧ row.claimToken = some token ∧
          row.leaseUntil = some leaseUntil

/-- The invariant of the claims. -/
structure ClaimInv (w : ScheduleWorld) : Prop where
  exclusive : Justified ClaimAllowed w.history
  tracked : ClaimsTracked w
  /-- A token in a row is that of the latest record about it. -/
  holder : ∀ id row token, w.schedules.get id = some row → row.claimToken = some token →
    ∃ leaseUntil now, lastOn id w.history = some (.claimed id token leaseUntil now)
  /-- No runner holds a disabled schedule. -/
  quiet : ∀ id row, w.schedules.get id = some row → Disabled id w.history → row.claimToken = none

variable {w w' : ScheduleWorld}

/-! ### Records of other schedules -/

theorem lastOn_append {id : Uuid} {records : List ScheduleRecord}
    (h : ∀ record ∈ records, record.scheduleId ≠ id) (history : List ScheduleRecord) :
    lastOn id (history ++ records) = lastOn id history :=
  lastWith_append_of_none (fun record hrecord => decide_eq_false (h record hrecord)) history

theorem lastOn_concat (record : ScheduleRecord) (history : List ScheduleRecord) :
    lastOn record.scheduleId (history ++ [record]) = some record :=
  lastWith_concat (x := record) (by simp) history

theorem disabled_append {id : Uuid} {records : List ScheduleRecord}
    (h : ∀ record ∈ records, record.scheduleId = id → record.isSwitch = false)
    (history : List ScheduleRecord) :
    Disabled id (history ++ records) ↔ Disabled id history := by
  unfold Disabled
  rw [lastWith_append_of_none]
  intro record hrecord
  by_cases hid : record.scheduleId = id
  · rw [h record hrecord hid, Bool.and_false]
  · rw [decide_eq_false hid, Bool.false_and]

/-- What the latest switch of a schedule is after one more. -/
theorem disabled_concat_switch {record : ScheduleRecord} (hswitch : record.isSwitch = true)
    (history : List ScheduleRecord) :
    Disabled record.scheduleId (history ++ [record]) ↔ record = .disabled record.scheduleId := by
  unfold Disabled
  rw [lastWith_concat (by simp [hswitch]), Option.some_inj]

/-- The records of a move name the schedule. -/
def Touched (new : List ScheduleRecord) (id : Uuid) : Prop :=
  ∃ record ∈ new, record.scheduleId = id

theorem touched_singleton {record : ScheduleRecord} {id : Uuid} :
    Touched [record] id ↔ record.scheduleId = id := by
  simp [Touched]

/-- What a move has to do for the rows its records name. -/
structure KeepsClaims (w w' : ScheduleWorld) (new : List ScheduleRecord) : Prop where
  history : w'.history = w.history ++ new
  clock : w.clock ≤ w'.clock
  /-- The other rows stay. -/
  others : ∀ id, ¬ Touched new id → w'.schedules.get id = w.schedules.get id
  allowed : Justified ClaimAllowed (w.history ++ new)
  /-- An earlier claim ends, has expired, or stays in its row. -/
  earlier : ∀ id row token leaseUntil, Touched new id → w.schedules.get id = some row →
    row.claimToken = some token → row.leaseUntil = some leaseUntil →
      Ended id token new ∨ leaseUntil ≤ w'.clock
  /-- A new claim is in its row. -/
  newer : ∀ id token leaseUntil now, .claimed id token leaseUntil now ∈ new →
    ∃ row, w'.schedules.get id = some row ∧ row.claimToken = some token ∧
      row.leaseUntil = some leaseUntil
  /-- A token in a row named is that of a new claim. -/
  holder : ∀ id row token, Touched new id → w'.schedules.get id = some row →
    row.claimToken = some token →
      ∃ leaseUntil now, lastOn id w'.history = some (.claimed id token leaseUntil now)
  quiet : ∀ id row, Touched new id → w'.schedules.get id = some row →
    Disabled id w'.history → row.claimToken = none

/-- **One move keeps the invariant**, if it does so for the rows it names. -/
theorem ClaimInv.append {new : List ScheduleRecord} (h : ClaimInv w)
    (hmove : KeepsClaims w w' new) : ClaimInv w' := by
  have huntouched : ∀ id, ¬ Touched new id → ∀ record ∈ new, record.scheduleId ≠ id :=
    fun id hid record hrecord heq => hid ⟨record, hrecord, heq⟩
  refine ⟨hmove.history ▸ hmove.allowed, ?_, ?_, ?_⟩
  · intro past rest id token leaseUntil now hsplit
    rw [hmove.history] at hsplit
    rcases append_eq_split hsplit with ⟨rest', rfl, hold⟩ | ⟨past', -, hnew⟩
    · rcases h.tracked past rest' id token leaseUntil now hold with
        hended | hexpired | ⟨row, hrow, htoken, hlease⟩
      · exact Or.inl (hended.append_left new)
      · exact Or.inr (Or.inl (le_trans hexpired hmove.clock))
      · by_cases hid : Touched new id
        · rcases hmove.earlier id row token leaseUntil hid hrow htoken hlease with hended | hpast
          · exact Or.inl (hended.append_right rest')
          · exact Or.inr (Or.inl hpast)
        · exact Or.inr (Or.inr ⟨row, (hmove.others id hid).trans hrow, htoken, hlease⟩)
    · refine Or.inr (Or.inr (hmove.newer id token leaseUntil now ?_))
      rw [hnew]
      exact List.mem_append_right past' List.mem_cons_self
  · intro id row token hrow htoken
    by_cases hid : Touched new id
    · exact hmove.holder id row token hid hrow htoken
    · rw [hmove.others id hid] at hrow
      rw [hmove.history, lastOn_append (huntouched id hid)]
      exact h.holder id row token hrow htoken
  · intro id row hrow hdisabled
    by_cases hid : Touched new id
    · exact hmove.quiet id row hid hrow hdisabled
    · rw [hmove.others id hid] at hrow
      rw [hmove.history, disabled_append fun record hrecord heq =>
        absurd heq (huntouched id hid record hrecord)] at hdisabled
      exact h.quiet id row hrow hdisabled

/-! ### The moves -/

theorem keepsClaims_created {row : ScheduledTaskEntity} (h : ClaimInv w)
    (hnew : w.schedules.get row.id = none) (hclaim : row.claimToken = none) :
    KeepsClaims w { w with
      schedules := w.schedules.insert row
      history := w.history ++ [.created row.id] } [.created row.id] := by
  have hself : (w.schedules.insert row).get row.id = some row := by
    rw [Table.get_insert, if_pos ⟨rfl, hnew⟩]
  have hrows : ∀ id row', Touched [.created row.id] id →
      (w.schedules.insert row).get id = some row' → row'.claimToken = none := by
    intro id row' hid hrow'
    obtain rfl := touched_singleton.mp hid
    rw [ScheduleRecord.scheduleId, hself] at hrow'
    obtain rfl := Option.some.inj hrow'
    exact hclaim
  refine ⟨rfl, le_refl _, ?_, ?_, ?_, ?_, ?_, ?_⟩
  · intro id hid
    rw [touched_singleton] at hid
    simp only
    rw [Table.get_insert, if_neg fun hboth => hid hboth.1.symm]
  · exact h.exclusive.append fun record hrecord past => by
      rw [List.mem_singleton.mp hrecord]
      trivial
  · intro id old token leaseUntil hid hold
    obtain rfl := touched_singleton.mp hid
    rw [ScheduleRecord.scheduleId, hnew] at hold
    exact absurd hold (by simp)
  · intro id token leaseUntil now hmem
    exact absurd (List.mem_singleton.mp hmem) (by simp)
  · intro id row' token hid hrow' htoken
    rw [hrows id row' hid hrow'] at htoken
    exact absurd htoken (by simp)
  · intro id row' hid hrow' _
    exact hrows id row' hid hrow'

/-- An UPDATE of one row leaves the others alone. -/
theorem map_get_elsewhere {schedules : Table ScheduledTaskEntity.id} {id id' : Uuid}
    (hid : id' ≠ id) {p : ScheduledTaskEntity → Prop} [DecidablePred p]
    (set : ScheduledTaskEntity → ScheduledTaskEntity) :
    (schedules.get id').map (fun row => if row.id = id ∧ p row then set row else row) =
      schedules.get id' := by
  cases hold : schedules.get id' with
  | none => rfl
  | some old =>
      have hold' : old.id = id' := Table.key_of_get hold
      rw [Option.map_some, if_neg fun hboth => hid (hold'.symm.trans hboth.1)]

/-- The UPDATE of a claim on every row. -/
theorem get_claimById_of_claimable {input : ClaimInput} {row : ScheduledTaskEntity}
    (hrow : w.schedules.get row.id = some row) (hclaim : isClaimable input.now row = true)
    (id : Uuid) : (claimById input row.id w.schedules).get id
      = if id = row.id then some (claimedWith input row) else w.schedules.get id := by
  rw [get_claimById]
  by_cases hid : id = row.id
  · rw [if_pos hid, hid, hrow, Option.map_some, if_pos ⟨rfl, hclaim⟩]
  · rw [if_neg hid, map_get_elsewhere hid]

theorem keepsClaims_claimed {input : ClaimInput} {row : ScheduledTaskEntity} (h : ClaimInv w)
    (hkept : NextRunKept w) (hrow : w.schedules.get row.id = some row)
    (hclaim : isClaimable input.now row = true) (hnow : input.now ≤ w.clock) :
    KeepsClaims w { w with
      schedules := claimById input row.id w.schedules
      history := w.history ++ [.claimed row.id input.claimToken
        (input.now + scheduledTaskRunnerLeaseMs) w.clock] }
      [.claimed row.id input.claimToken (input.now + scheduledTaskRunnerLeaseMs) w.clock] := by
  obtain ⟨-, ⟨nextRunAt, hnext, -⟩, hfree⟩ := isClaimable_iff.mp hclaim
  have hget := get_claimById_of_claimable hrow hclaim
  refine ⟨rfl, le_refl _, ?_, ?_, ?_, ?_, ?_, ?_⟩
  · intro id hid
    rw [touched_singleton] at hid
    simp only
    rw [hget, if_neg fun heq => hid heq.symm]
  · refine justified_concat.mpr ⟨h.exclusive, ?_⟩
    intro before rest token leaseUntil claimedAt hsplit
    -- the UPDATE asked for a free or expired lease
    rcases h.tracked before rest row.id token leaseUntil claimedAt hsplit with
      hended | hpast | ⟨old, hold, -, hlease⟩
    · exact Or.inl hended
    · exact Or.inr hpast
    · rw [hrow] at hold
      obtain rfl := Option.some.inj hold
      exact Or.inr (le_trans (hfree leaseUntil hlease) hnow)
  · intro id old token leaseUntil hid hold _ hlease
    obtain rfl := touched_singleton.mp hid
    rw [ScheduleRecord.scheduleId, hrow] at hold
    obtain rfl := Option.some.inj hold
    exact Or.inr (le_trans (hfree leaseUntil hlease) hnow)
  · intro id token leaseUntil now hmem
    obtain ⟨rfl, rfl, rfl, rfl⟩ := ScheduleRecord.claimed.inj (List.mem_singleton.mp hmem)
    exact ⟨claimedWith input row, by rw [hget, if_pos rfl], rfl, rfl⟩
  · intro id row' token hid hrow' htoken
    obtain rfl := touched_singleton.mp hid
    simp only at hrow'
    rw [ScheduleRecord.scheduleId, hget, if_pos rfl] at hrow'
    obtain rfl := Option.some.inj hrow'
    obtain rfl : input.claimToken = token := Option.some.inj htoken
    exact ⟨_, _, lastOn_concat _ w.history⟩
  · intro id row' hid _ hdisabled
    obtain rfl := touched_singleton.mp hid
    -- a disabled schedule has no next run, so it was not claimable
    have hbefore := (disabled_append (fun record hrecord _ => by
      rw [List.mem_singleton.mp hrecord]
      rfl) w.history).mp hdisabled
    rw [hkept row.id row hrow hbefore] at hnext
    exact absurd hnext (by simp)

/-- The UPDATE of a trigger on every row. -/
theorem get_recordOutcome_of_token {schedule row : ScheduledTaskEntity} (outcome : TriggerOutcome)
    (now : ℤ) (hrow : w.schedules.get schedule.id = some row)
    (hsame : row.claimToken = schedule.claimToken) (id : Uuid) :
    (recordOutcome schedule now outcome w.schedules).get id
      = if id = schedule.id then some (outcome.set now row) else w.schedules.get id := by
  rw [get_recordOutcome]
  by_cases hid : id = schedule.id
  · rw [if_pos hid, hid, hrow, Option.map_some, if_pos ⟨Table.key_of_get hrow, hsame⟩]
  · rw [if_neg hid, map_get_elsewhere hid]

theorem keepsClaims_released {schedule row : ScheduledTaskEntity} {outcome : TriggerOutcome}
    {token : Uuid} (h : ClaimInv w) (hrow : w.schedules.get schedule.id = some row)
    (htoken : row.claimToken = some token) (hsame : schedule.claimToken = some token) :
    KeepsClaims w { w with
      schedules := recordOutcome schedule w.clock outcome w.schedules
      history := w.history ++ [.released schedule.id token] } [.released schedule.id token] := by
  have hget := get_recordOutcome_of_token outcome w.clock hrow (htoken.trans hsame.symm)
  have hrows : ∀ id row', Touched [.released schedule.id token] id →
      (recordOutcome schedule w.clock outcome w.schedules).get id = some row' →
        row'.claimToken = none := by
    intro id row' hid hrow'
    obtain rfl := touched_singleton.mp hid
    rw [ScheduleRecord.scheduleId, hget, if_pos rfl] at hrow'
    obtain rfl := Option.some.inj hrow'
    exact (TriggerOutcome.set_released _ _ _).1
  refine ⟨rfl, le_refl _, ?_, ?_, ?_, ?_, ?_, ?_⟩
  · intro id hid
    rw [touched_singleton] at hid
    simp only
    rw [hget, if_neg fun heq => hid heq.symm]
  · exact h.exclusive.append fun record hrecord past => by
      rw [List.mem_singleton.mp hrecord]
      trivial
  · intro id old token' leaseUntil hid hold htoken' _
    obtain rfl := touched_singleton.mp hid
    rw [ScheduleRecord.scheduleId, hrow] at hold
    obtain rfl := Option.some.inj hold
    obtain rfl : token = token' := Option.some.inj (htoken.symm.trans htoken')
    exact Or.inl ⟨_, List.mem_singleton.mpr rfl, Or.inl rfl⟩
  · intro id token' leaseUntil now hmem
    exact absurd (List.mem_singleton.mp hmem) (by simp)
  · intro id row' token' hid hrow' htoken'
    rw [hrows id row' hid hrow'] at htoken'
    exact absurd htoken' (by simp)
  · intro id row' hid hrow' _
    exact hrows id row' hid hrow'

/-- A record that an operator's save of a schedule leaves. -/
def IsSave (record : ScheduleRecord) : Prop :=
  record = .enabled record.scheduleId ∨ record = .disabled record.scheduleId ∨
    record = .recomputed record.scheduleId

/-- A save clears the claims of the rows it has copies of. -/
theorem keepsClaims_saved {copies : List ScheduledTaskEntity} {new : List ScheduleRecord}
    (h : ClaimInv w) (hclaim : ∀ copy ∈ copies, copy.claimToken = none)
    (hsave : ∀ record ∈ new, IsSave record)
    (hids : new.map ScheduleRecord.scheduleId = copies.map ScheduledTaskEntity.id) :
    KeepsClaims w { w with
      schedules := save copies w.schedules
      history := w.history ++ new } new := by
  have htouched : ∀ id, Touched new id ↔ ∃ copy ∈ copies, copy.id = id := by
    intro id
    rw [Touched, ← List.mem_map, hids, List.mem_map]
  have hclaimed : ∀ id token leaseUntil now,
      ScheduleRecord.claimed id token leaseUntil now ∉ new := by
    intro id token leaseUntil now hmem
    rcases hsave _ hmem with heq | heq | heq
    · exact absurd heq (by simp)
    · exact absurd heq (by simp)
    · exact absurd heq (by simp)
  have hrows : ∀ id row', Touched new id → (save copies w.schedules).get id = some row' →
      row'.claimToken = none := by
    intro id row' hid hrow'
    rw [get_save] at hrow'
    obtain ⟨row, -, rfl⟩ := Option.map_eq_some_iff.mp hrow'
    cases hcopy : savedCopy copies id with
    | some copy => exact hclaim copy (id_of_savedCopy hcopy).1
    | none =>
        obtain ⟨copy, hmem, heq⟩ := (htouched id).mp hid
        exact absurd heq (savedCopy_eq_none.mp hcopy copy hmem)
  refine ⟨rfl, le_refl _, ?_, ?_, ?_, ?_, ?_, ?_⟩
  · intro id hid
    have hnone : savedCopy copies id = none := savedCopy_eq_none.mpr fun copy hmem heq =>
      hid ((htouched id).mpr ⟨copy, hmem, heq⟩)
    simp only
    rw [get_save, hnone]
    exact Option.map_id'
  · refine h.exclusive.append fun record hrecord past => ?_
    cases record with
    | claimed id token leaseUntil now => exact absurd hrecord (hclaimed id token leaseUntil now)
    | _ => trivial
  · intro id old token leaseUntil hid _ _ _
    obtain ⟨record, hmem, rfl⟩ := hid
    exact Or.inl ⟨record, hmem, Or.inr (hsave record hmem)⟩
  · intro id token leaseUntil now hmem
    exact absurd hmem (hclaimed id token leaseUntil now)
  · intro id row' token hid hrow' htoken
    rw [hrows id row' hid hrow'] at htoken
    exact absurd htoken (by simp)
  · intro id row' hid hrow' _
    exact hrows id row' hid hrow'

/-- **Every move keeps the invariant of the claims.** -/
theorem ClaimInv.move (h : ClaimInv w) (hkept : NextRunKept w) (hmove : ScheduleMove w w') :
    ClaimInv w' := by
  cases hmove with
  | stay => exact h
  | created row hnew hclaim => exact h.append (keepsClaims_created h hnew hclaim)
  | claimed input row hrow hclaim hnow =>
      exact h.append (keepsClaims_claimed h hkept hrow hclaim hnow)
  | released schedule row outcome token hrow htoken hsame =>
      exact h.append (keepsClaims_released h hrow htoken hsame)
  | enabled copy hclaim =>
      refine h.append (keepsClaims_saved h ?_ ?_ rfl)
      · intro copy' hcopy
        rw [List.mem_singleton.mp hcopy]
        exact hclaim
      · intro record hrecord
        rw [List.mem_singleton.mp hrecord]
        exact Or.inl rfl
  | disabled copy hclaim hnext =>
      refine h.append (keepsClaims_saved h ?_ ?_ rfl)
      · intro copy' hcopy
        rw [List.mem_singleton.mp hcopy]
        exact hclaim
      · intro record hrecord
        rw [List.mem_singleton.mp hrecord]
        exact Or.inr (Or.inl rfl)
  | advanced ms =>
      refine ⟨h.exclusive, ?_, h.holder, h.quiet⟩
      intro past rest id token leaseUntil now hsplit
      rcases h.tracked past rest id token leaseUntil now hsplit with hended | hpast | hrow
      · exact Or.inl hended
      · refine Or.inr (Or.inl ?_)
        show leaseUntil ≤ w.clock + ms
        omega
      · exact Or.inr (Or.inr hrow)

/-- The save of a recomputation keeps it too. -/
theorem ClaimInv.recomputed {copies : List ScheduledTaskEntity} (h : ClaimInv w)
    (hclaim : ∀ copy ∈ copies, copy.claimToken = none) :
    ClaimInv { w with
      schedules := save copies w.schedules
      history := w.history ++ copies.map fun copy => .recomputed copy.id } := by
  refine h.append (keepsClaims_saved h hclaim ?_ ?_)
  · intro record hrecord
    obtain ⟨copy, -, rfl⟩ := List.mem_map.mp hrecord
    exact Or.inr (Or.inr rfl)
  · rw [List.map_map]
    rfl

/-! ## Disabled schedules -/

/-- A row keeps its next run when nothing is recorded that switches it. -/
theorem NextRunKept.unswitched {new : List ScheduleRecord} (hkept : NextRunKept w)
    (hhistory : w'.history = w.history ++ new) (hnew : ∀ record ∈ new, record.isSwitch = false)
    (hrows : ∀ id row', w'.schedules.get id = some row' → Disabled id w.history →
      ∃ row, w.schedules.get id = some row ∧ row'.nextRunAt = row.nextRunAt) : NextRunKept w' := by
  intro id row' hrow' hdisabled
  rw [hhistory, disabled_append fun record hrecord _ => hnew record hrecord] at hdisabled
  obtain ⟨row, hrow, hsame⟩ := hrows id row' hrow' hdisabled
  rw [hsame]
  exact hkept id row hrow hdisabled

/-- A row switched by the one record of a move, the others as they were. -/
theorem NextRunKept.switched {record : ScheduleRecord} (hkept : NextRunKept w)
    (hhistory : w'.history = w.history ++ [record]) (hswitch : record.isSwitch = true)
    (hothers : ∀ id, id ≠ record.scheduleId → w'.schedules.get id = w.schedules.get id)
    (hself : ∀ row', w'.schedules.get record.scheduleId = some row' →
      record = .disabled record.scheduleId → row'.nextRunAt = none) : NextRunKept w' := by
  intro id row' hrow' hdisabled
  rw [hhistory] at hdisabled
  by_cases hid : id = record.scheduleId
  · subst hid
    exact hself row' hrow' ((disabled_concat_switch hswitch w.history).mp hdisabled)
  · rw [hothers id hid] at hrow'
    rw [disabled_append fun record' hrecord' heq => by
      rw [List.mem_singleton.mp hrecord'] at heq
      exact absurd heq.symm hid] at hdisabled
    exact hkept id row' hrow' hdisabled

/-- The rows without a copy stay. -/
theorem get_save_singleton_of_ne {copy : ScheduledTaskEntity} {id : Uuid} (hid : id ≠ copy.id) :
    (save [copy] w.schedules).get id = w.schedules.get id := by
  have hnone : savedCopy [copy] id = none := savedCopy_eq_none.mpr fun copy' hcopy heq => by
    rw [List.mem_singleton.mp hcopy] at heq
    exact hid heq.symm
  rw [get_save, hnone]
  exact Option.map_id'

theorem savedCopy_singleton (copy : ScheduledTaskEntity) :
    savedCopy [copy] copy.id = some copy := by
  simp [savedCopy]

/-- **Every move leaves a disabled schedule without a next run.** -/
theorem NextRunKept.move (h : ClaimInv w) (hkept : NextRunKept w) (hmove : ScheduleMove w w') :
    NextRunKept w' := by
  cases hmove with
  | stay => exact hkept
  | created row hnew hclaim =>
      refine hkept.switched rfl rfl ?_ ?_
      · intro id hid
        simp only
        rw [Table.get_insert, if_neg fun hboth => hid hboth.1]
      · intro row' _ heq
        exact absurd heq (by simp)
  | claimed input row hrow hclaim hnow =>
      refine hkept.unswitched rfl (fun record hrecord => by
        rw [List.mem_singleton.mp hrecord]
        rfl) ?_
      intro id row' hrow' _
      simp only at hrow'
      rw [get_claimById_of_claimable hrow hclaim] at hrow'
      split at hrow'
      · next hid =>
          subst hid
          obtain rfl := Option.some.inj hrow'
          exact ⟨row, hrow, rfl⟩
      · exact ⟨row', hrow', rfl⟩
  | released schedule row outcome token hrow htoken hsame =>
      refine hkept.unswitched rfl (fun record hrecord => by
        rw [List.mem_singleton.mp hrecord]
        rfl) ?_
      intro id row' hrow' hdisabled
      simp only at hrow'
      rw [get_recordOutcome_of_token outcome w.clock hrow (htoken.trans hsame.symm)] at hrow'
      split at hrow'
      · next hid =>
          -- the trigger holds a token, and no runner holds a disabled schedule
          subst hid
          rw [h.quiet _ row hrow hdisabled] at htoken
          exact absurd htoken (by simp)
      · exact ⟨row', hrow', rfl⟩
  | enabled copy hclaim =>
      refine hkept.switched rfl rfl (fun id hid => get_save_singleton_of_ne hid) ?_
      intro row' _ heq
      exact absurd heq (by simp)
  | disabled copy hclaim hnext =>
      refine hkept.switched rfl rfl (fun id hid => get_save_singleton_of_ne hid) ?_
      intro row' hrow' _
      simp only [ScheduleRecord.scheduleId] at hrow'
      rw [get_save, savedCopy_singleton] at hrow'
      obtain ⟨row, -, rfl⟩ := Option.map_eq_some_iff.mp hrow'
      exact hnext
  | advanced ms => exact hkept

/-! ## The condition -/

/-- No copy about to be saved is enabled while its schedule is disabled. -/
def CopiesCurrent (copies : List ScheduledTaskEntity) (w : ScheduleWorld) : Prop :=
  ∀ row ∈ w.schedules.rows, ∀ copy ∈ savedCopy copies row.id, copy.enabled = true →
    ¬ Disabled row.id w.history

instance (copies : List ScheduledTaskEntity) (w : ScheduleWorld) :
    Decidable (CopiesCurrent copies w) := by
  unfold CopiesCurrent; infer_instance

/-- The save of a recomputation leaves disabled schedules without a next run exactly
when none of its enabled copies is out of date. -/
theorem nextRunKept_recomputed {copies : List ScheduledTaskEntity} (hkept : NextRunKept w)
    (hcopies : ∀ copy ∈ copies, copy.nextRunAt.isSome = copy.enabled) :
    NextRunKept { w with
      schedules := save copies w.schedules
      history := w.history ++ copies.map fun copy => .recomputed copy.id } ↔
    CopiesCurrent copies w := by
  have hdisabled : ∀ id, Disabled id (w.history ++ copies.map fun copy => .recomputed copy.id) ↔
      Disabled id w.history := by
    intro id
    refine disabled_append (fun record hrecord _ => ?_) w.history
    obtain ⟨copy, -, rfl⟩ := List.mem_map.mp hrecord
    rfl
  constructor
  · intro hafter row hrow copy hcopy henabled hrowDisabled
    have hget : (save copies w.schedules).get row.id = some copy := by
      rw [get_save, Table.get_of_mem hrow, Option.map_some, hcopy, Option.getD_some]
    have hnone := hafter row.id copy hget ((hdisabled row.id).mpr hrowDisabled)
    have hsome := hcopies copy (id_of_savedCopy hcopy).1
    rw [hnone, henabled] at hsome
    exact Bool.false_ne_true hsome
  · intro hcurrent id row' hrow' hrowDisabled
    have hbefore := (hdisabled id).mp hrowDisabled
    simp only at hrow'
    rw [get_save] at hrow'
    obtain ⟨row, hrow, rfl⟩ := Option.map_eq_some_iff.mp hrow'
    obtain rfl : row.id = id := Table.key_of_get hrow
    cases hcopy : savedCopy copies row.id with
    | none => exact hkept row.id row hrow hbefore
    | some copy =>
        have hsome := hcopies copy (id_of_savedCopy hcopy).1
        cases henabled : copy.enabled with
        | true => exact absurd hbefore (hcurrent row (Table.mem_of_get hrow) copy hcopy henabled)
        | false =>
            rw [henabled] at hsome
            simpa using hsome

section

variable (computeNextScheduledRun : ScheduledTaskTiming → ℤ → Except String ℤ)

/-- The guard: a recomputation that saves finds its enabled copies up to date. -/
def SavesCurrent (w : ScheduleWorld) (call : PendingScheduleCall) (_ : ScheduleInput) : Prop :=
  match call with
  | .saveRecomputed schedules timezone =>
      match schedules.mapM (recomputed computeNextScheduledRun timezone w.clock) with
      | .ok copies => CopiesCurrent copies w
      | .error _ => True
  | _ => True

instance : ∀ w call input, Decidable (SavesCurrent computeNextScheduledRun w call input) := by
  intro w call input
  cases call <;> unfold SavesCurrent
  case saveRecomputed schedules timezone => simp only; split <;> infer_instance
  all_goals infer_instance

/-- No recomputation of the run saves an enabled copy over a disabled schedule. -/
abbrev RecomputesCurrent : ScheduleConfig → ScheduleEvent → Prop :=
  ResumeGuard (SavesCurrent computeNextScheduledRun)

end

/-! ## Runs -/

variable {computeNextScheduledRun : ScheduledTaskTiming → ℤ → Except String ℤ}

/-- The claims are in order, and the pending calls are sound. -/
abbrev ClaimsGood (c : ScheduleConfig) : Prop :=
  Good ClaimInv (fun w call => PendingScheduleCall.Sound w call) c

/-- **A runner that lost its claim writes nothing.** -/
theorem resume_of_lostClaim {call : PendingScheduleCall} {schedule : ScheduledTaskEntity}
    (h : ClaimInv w) (hsound : call.Sound w) (hcall : schedule ∈ call.claimed?)
    (hlost : ¬ HoldsClaim schedule w.history) (input : ScheduleInput) :
    (resumeSchedule computeNextScheduledRun call input w).1.schedules = w.schedules := by
  have hstale : schedule.claimToken ≠ none → ∀ outcome,
      recordOutcome schedule w.clock outcome w.schedules = w.schedules := by
    intro hclaim outcome
    obtain ⟨token, htoken⟩ := Option.ne_none_iff_exists'.mp hclaim
    refine recordOutcome_of_stale fun row hrow hsame => hlost ?_
    obtain ⟨leaseUntil, now, hlast⟩ := h.holder schedule.id row token hrow (hsame.trans htoken)
    exact ⟨token, leaseUntil, now, htoken, hlast⟩
  cases call with
  | trigger claimedBy schedule' =>
      obtain rfl : schedule' = schedule := Option.some.inj hcall
      exact hstale hsound _
  | recordEvent claimedBy schedule' =>
      obtain rfl : schedule' = schedule := Option.some.inj hcall
      simp only [resumeSchedule]
      split
      · rfl
      · exact hstale hsound _
  | _ => exact absurd hcall (by simp [PendingScheduleCall.claimed?])

/-- What one step of a call does to the invariant, the calls and the disabled
schedules. -/
structure StepKeeps (w : ScheduleWorld) (next : ScheduleWorld × Option PendingScheduleCall)
    (guard : Prop) : Prop where
  inv : ClaimInv next.1
  clock : w.clock ≤ next.1.clock
  rest : ∀ call, next.2 = some call → call.Sound next.1
  kept : NextRunKept next.1 ↔ guard

theorem SoundStep.keeps {next : ScheduleWorld × Option PendingScheduleCall} (h : ClaimInv w)
    (hkept : NextRunKept w) (hstep : SoundStep w next) {guard : Prop} (hguard : guard) :
    StepKeeps w next guard :=
  ⟨h.move hkept hstep.1, hstep.1.clock_le, hstep.2,
    ⟨fun _ => hguard, fun _ => hkept.move h hstep.1⟩⟩

/-- **Every step of a call.** -/
theorem stepKeeps_resume
    (computeNextScheduledRun : ScheduledTaskTiming → ℤ → Except String ℤ)
    {call : PendingScheduleCall} (h : ClaimInv w) (hkept : NextRunKept w)
    (hsound : call.Sound w) (input : ScheduleInput) :
    StepKeeps w (resumeSchedule computeNextScheduledRun call input w)
      (SavesCurrent computeNextScheduledRun w call input) := by
  cases call with
  | saveRecomputed schedules timezone =>
      rcases resume_saveRecomputed computeNextScheduledRun schedules timezone input w with
        ⟨message, hmap, hstep⟩ | ⟨copies, hmap, hstep, hcopies⟩
      · rw [hstep]
        exact soundStep_end.keeps h hkept (by simp only [SavesCurrent, hmap])
      · rw [hstep]
        refine ⟨h.recomputed fun copy hcopy => (hcopies copy hcopy).1, le_refl _,
          fun _ hnone => absurd hnone (by simp), ?_⟩
        simp only [SavesCurrent, hmap]
        exact nextRunKept_recomputed hkept fun copy hcopy => (hcopies copy hcopy).2
  | _ => exact (soundStep_resume input hsound (by simp)).keeps h hkept trivial

/-- **One event** keeps the claims in order, and the disabled schedules without a next
run exactly when its save is up to date. -/
theorem claims_step (computeNextScheduledRun : ScheduledTaskTiming → ℤ → Except String ℤ)
    {c : ScheduleConfig} (e : ScheduleEvent) (hgood : ClaimsGood c)
    (hkept : NextRunKept c.world) :
    ClaimsGood (step (scheduleCalls computeNextScheduledRun) advanceClock c e) ∧
      (NextRunKept (step (scheduleCalls computeNextScheduledRun) advanceClock c e).world ↔
        RecomputesCurrent computeNextScheduledRun c e) := by
  obtain ⟨hinv, hsound⟩ := hgood
  cases e with
  | invoke p request input =>
      cases hp : c.pending p with
      | some call =>
          rw [step_invoke_busy hp]
          exact ⟨⟨hinv, hsound⟩, fun _ _ => trivial, fun _ => hkept⟩
      | none =>
          rw [step_invoke hp]
          have hstep := soundStep_invoke computeNextScheduledRun request input c.world
          have hkeeps := hstep.keeps hinv hkept trivial
          exact ⟨⟨hkeeps.inv, pending_update hkeeps.rest fun q call hq =>
            (hsound q call hq).mono hkeeps.clock⟩, fun _ _ => trivial,
            fun _ => hkeeps.kept.mpr trivial⟩
  | resume p input =>
      cases hp : c.pending p with
      | none =>
          rw [step_resume_idle hp]
          refine ⟨⟨hinv, hsound⟩, fun _ call hcall => ?_, fun _ => hkept⟩
          rw [hp] at hcall
          exact absurd hcall (by simp)
      | some call =>
          rw [step_resume hp]
          have hkeeps := stepKeeps_resume computeNextScheduledRun hinv hkept (hsound p call hp)
            input
          refine ⟨⟨hkeeps.inv, pending_update hkeeps.rest fun q call' hq =>
            (hsound q call' hq).mono hkeeps.clock⟩, fun hafter call' hcall => ?_, fun hguard => ?_⟩
          · rw [hp] at hcall
            obtain rfl := Option.some.inj hcall
            exact hkeeps.kept.mp hafter
          · exact hkeeps.kept.mpr (hguard call (by rw [hp]; rfl))
  | env ms =>
      rw [step_env]
      have hmove : ScheduleMove c.world (advanceClock ms c.world) := .advanced ms
      exact ⟨⟨hinv.move hkept hmove, fun q call hq => (hsound q call hq).mono hmove.clock_le⟩,
        fun _ => trivial, fun _ => hkept.move hinv hmove⟩

/-- What is left of exclusive and fenced claims, once they are in order. -/
theorem claimsFenced_iff {c : ScheduleConfig} (hgood : ClaimsGood c) :
    ClaimsFenced computeNextScheduledRun c ↔ NextRunKept c.world := by
  constructor
  · intro h
    exact h.disabled
  · intro hkept
    refine ⟨hgood.1.exclusive, ?_, hkept⟩
    intro p call hp schedule hschedule hlost input
    exact resume_of_lostClaim hgood.1 (hgood.2 p call hp) hschedule hlost input

/-- Nothing is claimed in the empty table. -/
theorem claimsGood_idle : ClaimsGood (Config.idle {} : ScheduleConfig) := by
  refine good_idle ⟨justified_nil, ?_, ?_, ?_⟩
  · intro past rest id token leaseUntil now hsplit
    exact absurd hsplit (by simp)
  · intro id row token hrow
    exact absurd hrow (by simp [Table.get_empty])
  · intro id row hrow
    exact absurd hrow (by simp [Table.get_empty])

/-- **Schedule claims are exclusive and fenced**, in every interleaving of runners and
operators and for every function that computes the next run, exactly when no
recomputation saves an enabled copy of a schedule that has been disabled since it was
loaded. -/
theorem schedule_claims_fenced_iff (es : List ScheduleEvent) :
    (∀ es₁ es₂, es = es₁ ++ es₂ →
      ClaimsFenced computeNextScheduledRun (scheduleRun computeNextScheduledRun es₁)) ↔
    Along (step (scheduleCalls computeNextScheduledRun) advanceClock)
      (RecomputesCurrent computeNextScheduledRun) (Config.idle {}) es := by
  refine prefixes_iff_along (A := ClaimsGood) ?_ ?_ claimsGood_idle
    ((claimsFenced_iff claimsGood_idle).mpr ?_)
  · intro c e hgood hfenced _
    exact (claims_step computeNextScheduledRun e hgood hfenced.disabled).1
  · intro c e hgood hfenced
    have hstep := claims_step computeNextScheduledRun e hgood hfenced.disabled
    rw [claimsFenced_iff hstep.1]
    exact hstep.2
  · intro id row hrow
    exact absurd hrow (by simp [Table.get_empty])

/-! ## A recomputation around an `updateEnabled` -/

/-- A schedule is created and a change of the workspace's time zone loads it; the
operator disables it; then the recomputation saves what it loaded. -/
def staleRecomputation : List ScheduleEvent :=
  [.invoke 0 (.create { id := "s", workspaceId := "w", timing := { cadence := .minutely },
                        createdAt := 0 }) {},
   .invoke 1 (.recomputeWorkspaceSchedules "w" "Europe/Istanbul") {},
   .invoke 2 (.updateEnabled "s" none false) {},
   .resume 2 {},
   .resume 1 {}]

/-- **The disabled schedule that runs again.**  The recomputation writes `enabled` and
a next run over the operator's disabling. -/
theorem disabled_schedule_revived :
    ¬ ClaimsFenced everyMinute (scheduleRun everyMinute staleRecomputation) := by
  intro h
  have hnext : ((scheduleRun everyMinute staleRecomputation).world.schedules.get "s").map
      (·.nextRunAt) = some (some 60000) := by decide
  obtain ⟨row, hrow, hrowNext⟩ := Option.map_eq_some_iff.mp hnext
  have hnone := h.disabled "s" row hrow (by decide)
  rw [hnone] at hrowNext
  exact absurd hrowNext (by simp)

end ScheduledTasksService
