/-
# The audit of finished updates

`reconcileTerminalAuditState` reads the state file of an operation that is over, waits for its
audit entry, and writes the whole file back with `auditLoggedAt`.  It disturbs nothing in
exactly the runs in which the state file is, at each of these writes, still the one that was
read.
-/
import NoderaxApi.ControlPlaneCalls

open Runs Interleaving

namespace ControlPlaneUpdatesService

/-! ## What is claimed -/

/-- The state file with the stamps of a write: `updatedAt`, which every write sets, and
`auditLoggedAt`. -/
def PlatformUpdateState.stamped (state : PlatformUpdateState) (updatedAt : String)
    (auditLoggedAt : Option String) : PlatformUpdateState :=
  { state with updatedAt, auditLoggedAt }

/-- The state file without its stamps. -/
def PlatformUpdateState.unstamped (state : PlatformUpdateState) : PlatformUpdateState :=
  state.stamped "" none

/-- **Nothing is lost**: apart from its stamps, the state file is the one that the requests,
the repairs and the supervisor have left. -/
def NothingLost (w : ControlPlaneWorld) : Prop :=
  w.state.map (·.unstamped) = w.unaudited.map (·.unstamped)

/-- **The stamps only**: writing an audited state back changes nothing but the stamps of the
operation that was audited. -/
def StampsOnly (parseDate : String → Option ℤ) (c : ControlPlaneConfig) :
    ControlPlaneEvent → Prop
  | .resume p input => ∀ state, c.pending p = some (.auditing state) →
      input.recordError = false →
      ∃ row, c.world.state = some row ∧ row.unstamped = state.unstamped ∧
        (controlPlaneStep parseDate c (.resume p input)).world
          = { c.world with
              state := some (row.stamped (toISOString input.now) (some (toISOString input.now)))
              auditLog := terminalAudit state :: c.world.auditLog }
  | _ => True

/-- A state file is written back only while it is, apart from its stamps, the one that was
read. -/
def WritesBackUnchanged (c : ControlPlaneConfig) : ControlPlaneEvent → Prop
  | .resume p input => ∀ state, c.pending p = some (.auditing state) →
      input.recordError = false →
      c.world.state.map (·.unstamped) = some state.unstamped
  | _ => True

/-! ## One step -/

@[simp] theorem PlatformUpdateState.unstamped_stamped (state : PlatformUpdateState)
    (updatedAt : String) (auditLoggedAt : Option String) :
    (state.stamped updatedAt auditLoggedAt).unstamped = state.unstamped := rfl

/-- States that differ in their stamps are equal once they are stamped alike. -/
theorem PlatformUpdateState.stamped_eq {row state : PlatformUpdateState}
    (h : row.unstamped = state.unstamped) (updatedAt : String) (auditLoggedAt : Option String) :
    row.stamped updatedAt auditLoggedAt = state.stamped updatedAt auditLoggedAt :=
  congrArg (·.stamped updatedAt auditLoggedAt) h

variable {parseDate : String → Option ℤ} {c : ControlPlaneConfig}

/-- The step that writes an audited state back. -/
theorem step_auditing {p : ℕ} {state : PlatformUpdateState} {input : ControlPlaneInput}
    (hp : c.pending p = some (.auditing state)) (hrecord : input.recordError = false) :
    (controlPlaneStep parseDate c (.resume p input)).world
      = { c.world with
          state := some (state.stamped (toISOString input.now) (some (toISOString input.now)))
          auditLog := terminalAudit state :: c.world.auditLog } := by
  rw [controlPlaneStep, step_resume hp]
  simp only [controlPlaneCalls, resumeControlPlane, hrecord, Bool.false_eq_true, if_false]
  rfl

/-- **One event** changes the stamps only exactly when what it writes back is unchanged. -/
theorem stampsOnly_iff (c : ControlPlaneConfig) (e : ControlPlaneEvent) :
    StampsOnly parseDate c e ↔ WritesBackUnchanged c e := by
  cases e with
  | resume p input =>
      refine forall_congr' fun state => imp_congr_right fun hp => imp_congr_right fun hrecord => ?_
      rw [step_auditing hp hrecord]
      constructor
      · rintro ⟨row, hrow, hsame, -⟩
        rw [hrow, Option.map_some, hsame]
      · intro hmap
        obtain ⟨row, hrow, hsame⟩ := Option.map_eq_some_iff.mp hmap
        exact ⟨row, hrow, hsame, by rw [row.stamped_eq hsame]⟩
  | invoke p request input => exact Iff.rfl
  | env e => exact Iff.rfl

/-- Every write but the audit's is what the requests, the repairs and the supervisor leave. -/
theorem NothingLost.move {w : ControlPlaneWorld} {call : Option ControlPlaneCall}
    {kind : StepKind} {next : ControlPlaneStep} (h : NothingLost w) (hkind : kind ≠ .audits)
    (hmove : ControlPlaneMove parseDate w call kind next) : NothingLost next.1 := by
  cases hmove with
  | waits | requests => exact h
  | accepts => exact rfl
  | repairs hcall use input auditLog =>
      simp only [NothingLost, startSummary, repaired]
      split
      next hsame => rw [hsame]; exact h
      next => rfl
  | audits => exact absurd rfl hkind

/-- **One event** loses nothing exactly when what it writes back is unchanged. -/
theorem nothingLost_step_iff (h : NothingLost c.world) (e : ControlPlaneEvent) :
    NothingLost (controlPlaneStep parseDate c e).world ↔ WritesBackUnchanged c e := by
  cases e with
  | invoke p request input =>
      refine iff_of_true ?_ trivial
      unfold controlPlaneStep
      cases hp : c.pending p with
      | some call => rw [step_invoke_busy hp]; exact h
      | none =>
          rw [step_invoke hp]
          obtain ⟨kind, hkind, hmove⟩ := invoke_move parseDate c.world request input
          refine h.move ?_ hmove
          rcases hkind with rfl | rfl <;> simp
  | resume p input =>
      cases hp : c.pending p with
      | none =>
          rw [controlPlaneStep, step_resume_idle hp]
          exact iff_of_true h fun state hstate => absurd (hp.symm.trans hstate) (by simp)
      | some call =>
          by_cases haudits : call.kind input = .audits
          · -- only the write of an audited state is of this kind
            obtain ⟨state, rfl, hrecord⟩ : ∃ state, call = .auditing state ∧
                input.recordError = false := by
              cases call with
              | auditing state => simpa [ControlPlaneCall.kind] using haudits
              | hydrating use summary =>
                  cases use <;> simp [ControlPlaneCall.kind] at haudits
                  split at haudits <;> simp at haudits
              | findingRollout | recording =>
                  simp only [ControlPlaneCall.kind] at haudits
                  split at haudits <;> simp at haudits
              | lookingUp | accepted => simp [ControlPlaneCall.kind] at haudits
            rw [step_auditing hp hrecord]
            unfold NothingLost at h ⊢
            simp only [Option.map_some, PlatformUpdateState.unstamped_stamped, ← h]
            refine ⟨fun hsame state' hstate' _ => ?_, fun hkept => (hkept state hp hrecord).symm⟩
            cases hp.symm.trans hstate'
            exact hsame.symm
          · refine iff_of_true ?_ fun state hstate hrecord => ?_
            · rw [controlPlaneStep, step_resume hp]
              exact h.move haudits (resume_move parseDate c.world call input)
            · cases hp.symm.trans hstate
              simp [ControlPlaneCall.kind, hrecord] at haudits
  | env e =>
      refine iff_of_true ?_ trivial
      rw [controlPlaneStep, step_env]
      simp only [supervise]
      split
      · exact h
      · split
        · rfl
        · exact h
      · exact h

/-! ## Every run -/

/-- Files that no audit has touched yet. -/
def unauditedWorld (state : Option PlatformUpdateState)
    (request supervisor : Option PlatformUpdateRequestState) : ControlPlaneWorld :=
  { state, request, supervisor, unaudited := state }

/-- **The audit of finished updates disturbs nothing**, in an interleaving with requests,
repairs and the supervisor, exactly if each state file is written back while it is, apart from
its stamps, the one that was read. -/
theorem audit_frame_iff (state : Option PlatformUpdateState)
    (request supervisor : Option PlatformUpdateRequestState) (es : List ControlPlaneEvent) :
    ((∀ es₁ es₂, es = es₁ ++ es₂ → NothingLost (run (controlPlaneStep parseDate)
          (Config.idle (unauditedWorld state request supervisor)) es₁).world) ∧
        ∀ es₁ e es₂, es = es₁ ++ e :: es₂ → StampsOnly parseDate (run (controlPlaneStep parseDate)
          (Config.idle (unauditedWorld state request supervisor)) es₁) e) ↔
      Along (controlPlaneStep parseDate) WritesBackUnchanged
        (Config.idle (unauditedWorld state request supervisor)) es := by
  have hlost : (∀ es₁ es₂, es = es₁ ++ es₂ → NothingLost (run (controlPlaneStep parseDate)
        (Config.idle (unauditedWorld state request supervisor)) es₁).world) ↔
      Along (controlPlaneStep parseDate) WritesBackUnchanged
        (Config.idle (unauditedWorld state request supervisor)) es :=
    prefixes_iff_along (A := fun _ => True) (I := fun c : ControlPlaneConfig => NothingLost c.world)
      (fun _ _ _ _ _ => trivial) (fun c e _ h => nothingLost_step_iff h e) trivial rfl
  rw [hlost, and_iff_left_iff_imp, along_iff]
  intro hall es₁ e es₂ hsplit
  exact (stampsOnly_iff _ e).mpr (hall es₁ e es₂ hsplit)

/-! ## A request while the audit entry is written -/

/-- The state file of a download that is over. -/
def downloadedState : PlatformUpdateState where
  operation := .download
  status := .completed
  requestedAt := "2026-04-12T12:00:00.000Z"
  updatedAt := "2026-04-12T12:05:00.000Z"
  startedAt := some "2026-04-12T12:01:00.000Z"
  completedAt := some "2026-04-12T12:05:00.000Z"
  requestedByUserId := none
  requestedByEmailSnapshot := none
  currentRelease := some { version := "1.0.0", releaseId := "release-current" }
  targetRelease := some { version := "1.0.1", releaseId := "release-next" }
  preparedRelease := some { version := "1.0.1", releaseId := "release-next" }
  previousRelease := some { version := "1.0.0", releaseId := "release-current" }
  message := none
  error := none
  rollbackStatus := none
  auditLoggedAt := none

/-- What the calls find in the meantime. -/
def foundPrepared : ControlPlaneInput where
  deploymentMode := some "installer_managed"
  currentRelease := some { version := "1.0.0", releaseId := "release-current" }
  requestId := "a"

/-- The audit reads the finished download; an operator queues the apply; then the audit writes
the download back. -/
def applyDuringAudit : List ControlPlaneEvent :=
  [.invoke 0 .reconcileTerminalAuditState {}, .invoke 1 (.queueApply {}) foundPrepared,
    .resume 1 foundPrepared, .resume 1 foundPrepared, .resume 1 foundPrepared,
    .resume 1 foundPrepared, .resume 0 {}]

/-- **The queued apply is lost** from the state file. -/
theorem applyDuringAudit_lost :
    ¬ ((∀ es₁ es₂, applyDuringAudit = es₁ ++ es₂ →
        NothingLost (run (controlPlaneStep fun _ => none)
          (Config.idle (unauditedWorld (some downloadedState) none none)) es₁).world) ∧
      ∀ es₁ e es₂, applyDuringAudit = es₁ ++ e :: es₂ →
        StampsOnly (fun _ => none) (run (controlPlaneStep fun _ => none)
          (Config.idle (unauditedWorld (some downloadedState) none none)) es₁) e) := by
  rintro ⟨hlost, -⟩
  have hlast := hlost applyDuringAudit [] (List.append_nil _).symm
  have hstatus := congrArg (Option.map (·.status)) hlast
  exact absurd hstatus (by decide +kernel)

end ControlPlaneUpdatesService
