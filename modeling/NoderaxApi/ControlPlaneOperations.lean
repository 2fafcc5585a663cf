/-
# One control-plane operation at a time

An operation is in flight from the moment its state file is written: its call has still to
write the request file, then the request waits for the supervisor, then the supervisor is at
work.  A call checks the summary it has computed, and writes later.

Each call remembers here the two files as it has last read or written them.  One operation is
in flight at a time, and both files name it while it is queued, in every run in which a call
writes while the files are as it remembers them, and the repairs of a summary touch only
requests that wait.
-/
import NoderaxApi.ControlPlaneCalls

open Runs Interleaving

namespace ControlPlaneUpdatesService

/-! ## What is claimed -/

/-- The operation that each call has accepted and not yet requested. -/
def acceptedBy (c : ControlPlaneConfig) (p : ℕ) : Option PlatformUpdateRequestState :=
  (c.pending p).bind (·.accepted?)

/-- The state and the request are of the same operation and target release. -/
def SameOperation (state : PlatformUpdateState) (request : PlatformUpdateRequestState) : Prop :=
  state.operation = request.operation ∧ state.targetReleaseId = request.targetReleaseId

/-- The state file queues the operation of the request. -/
def NamesQueued (state : Option PlatformUpdateState) (request : PlatformUpdateRequestState) :
    Prop :=
  ∃ row, state = some row ∧ row.status = .queued ∧ SameOperation row request

/-- The operation has been accepted and is not over: its call has still to write the request
file, the request file has it, or the supervisor is at work on it. -/
def InFlight (w : ControlPlaneWorld) (accepted : ℕ → Option PlatformUpdateRequestState)
    (request : PlatformUpdateRequestState) : Prop :=
  (∃ p, accepted p = some request) ∨ w.request = some request ∨ w.supervisor = some request

/-- **One operation at a time.** -/
structure OneOperation (w : ControlPlaneWorld)
    (accepted : ℕ → Option PlatformUpdateRequestState) : Prop where
  /-- At most one call has accepted an operation and not yet requested it. -/
  exclusive : ∀ {p q r r'}, accepted p = some r → accepted q = some r' → p = q
  /-- Then no request waits, and the supervisor is idle. -/
  accepted_alone : ∀ {p r}, accepted p = some r → w.request = none ∧ w.supervisor = none
  /-- While a request waits, the supervisor is idle. -/
  request_alone : ∀ {r}, w.request = some r → w.supervisor = none
  /-- While a request waits, the state file queues the same operation and target. -/
  state_agrees : ∀ {r}, w.request = some r → NamesQueued w.state r
  /-- What the state file queues is the operation in flight. -/
  queued_inFlight : ∀ {row}, w.state = some row → row.status = .queued →
    ∃ r, InFlight w accepted r ∧ SameOperation row r

/-- No operation is in flight. -/
def NoneInFlight (w : ControlPlaneWorld) (accepted : ℕ → Option PlatformUpdateRequestState) :
    Prop :=
  (∀ p, accepted p = none) ∧ w.request = none ∧ w.supervisor = none

/-- An operation that is over is not in progress. -/
theorem PlatformUpdateStatus.isConcurrent_of_isTerminal {status : PlatformUpdateStatus}
    (h : status.isTerminal = true) : status.isConcurrent = false := by
  cases status with
  | completed | failed => rfl
  | _ => cases h

/-- What the supervisor does: it takes the request, it writes the progress, or nothing. -/
theorem supervise_cases (e : SupervisorEvent) (w : ControlPlaneWorld) :
    (∃ request, w.supervisor = none ∧ w.request = some request ∧
      supervise e w = { w with request := none, supervisor := some request }) ∨
    (∃ request state, w.supervisor = some request ∧ e = .progress state ∧
      IsProgressOf request state ∧ supervise e w = { w.setState (some state) with
        supervisor := if state.status.isTerminal then none else some request }) ∨
    supervise e w = w := by
  unfold supervise
  split
  next request hsupervisor hrequest => exact .inl ⟨request, hsupervisor, hrequest, rfl⟩
  next state request hsupervisor =>
      split
      next hprogress => exact .inr (.inl ⟨request, state, hsupervisor, rfl, hprogress, rfl⟩)
      next => exact .inr (.inr rfl)
  next => exact .inr (.inr rfl)

/-! ## What the repairs do -/

section Repairs

variable (state : Option PlatformUpdateState) (request : Option PlatformUpdateRequestState)

/-- An apply of the installed release is cleared from both files. -/
theorem reconcileStaleNoopApplyState_cases (currentReleaseId : Option String) :
    ∃ state' request', reconcileStaleNoopApplyState currentReleaseId state request
        = (state', request') ∧
      (state' = state ∨ state' = none) ∧ (request' = request ∨ request' = none) ∧
      ∀ row r, state = some row → request = some r → SameOperation row r →
        row.status.isTerminal = false →
        (row.operation = .apply → row.preparedReleaseId = row.targetReleaseId) →
        (state' = none ↔ request' = none) := by
  have hsame : ∃ state' request', (state, request) = (state', request') ∧
      (state' = state ∨ state' = none) ∧ (request' = request ∨ request' = none) ∧
      ∀ row r, state = some row → request = some r → SameOperation row r →
        row.status.isTerminal = false →
        (row.operation = .apply → row.preparedReleaseId = row.targetReleaseId) →
        (state' = none ↔ request' = none) := by
    refine ⟨state, request, rfl, .inl rfl, .inl rfl, ?_⟩
    rintro row r rfl rfl - - -
    simp
  unfold reconcileStaleNoopApplyState
  split
  · exact hsame
  · exact hsame
  next releaseId _ =>
      refine ⟨_, _, rfl, ?_, ?_, ?_⟩
      · split
        · exact .inr rfl
        · exact .inl rfl
      · split
        · exact .inr rfl
        · exact .inl rfl
      · rintro row r rfl rfl ⟨hoperation, htarget⟩ hopen hprepared
        rw [Option.any_some, Option.any_some, ← hoperation, ← htarget, hopen]
        by_cases hinstalled : row.operation = .apply ∧ row.targetReleaseId = some releaseId
        · obtain ⟨happly, hcurrent⟩ := hinstalled
          simp [happly, hcurrent, hprepared happly]
        · have hrequest : (decide (row.operation = .apply) &&
              decide (row.targetReleaseId = some releaseId)) = false := by
            simpa using fun happly hcurrent => hinstalled ⟨happly, hcurrent⟩
          simp [hrequest]

/-- An apply that is overdue is over, and its request is cleared. -/
theorem reconcileStaleActiveApplyState_cases (parseDate : String → Option ℤ) (now : ℤ)
    (currentRelease : Option PlatformRelease) :
    reconcileStaleActiveApplyState parseDate now currentRelease state request
        = (state, request) ∨
      ∃ row, reconcileStaleActiveApplyState parseDate now currentRelease state request
          = (some row, none) ∧ row.status.isTerminal = true := by
  unfold reconcileStaleActiveApplyState
  split
  · exact .inl rfl
  · split
    · exact .inl rfl
    · split
      · exact .inl rfl
      · split
        · exact .inl rfl
        · simp only
          split
          · exact .inr ⟨_, rfl, rfl⟩
          · exact .inr ⟨_, rfl, rfl⟩

end Repairs

/-- The files after the repairs of a summary. -/
structure Repaired (w w' : ControlPlaneWorld) : Prop where
  supervisor : w'.supervisor = w.supervisor
  /-- The state file is as it was, or its operation is over. -/
  state : ∀ {row}, w'.state = some row → w.state = some row ∨ row.status.isTerminal = true
  request : ∀ {r}, w'.request = some r → w.request = some r
  /-- The files of a queued operation are left or cleared together. -/
  together : ∀ {row r}, w.state = some row → w.request = some r → SameOperation row r →
    row.status = .queued →
    (row.operation = .apply → row.preparedReleaseId = row.targetReleaseId) →
    (w'.state = some row ↔ w'.request = some r)

/-- An operation that the state file queues after the repairs it queued before. -/
theorem Repaired.queued {w w' : ControlPlaneWorld} (h : Repaired w w') {row : PlatformUpdateState}
    (hrow : w'.state = some row) (hqueued : row.status = .queued) : w.state = some row := by
  refine (h.state hrow).resolve_right fun hterminal => ?_
  rw [hqueued] at hterminal
  exact absurd hterminal (by decide)

/-- What the repairs do. -/
theorem repaired_repaired (parseDate : String → Option ℤ) (input : ControlPlaneInput)
    (w : ControlPlaneWorld) : Repaired w (repaired parseDate input w) := by
  obtain ⟨state, request, hnoop, hstate, hrequest, htogether⟩ :=
    reconcileStaleNoopApplyState_cases w.state w.request
      (input.currentRelease.map (·.releaseId))
  have hqueued : ∀ {row : PlatformUpdateState}, row.status = .queued →
      row.status.isTerminal = false := by
    intro row hrow
    rw [hrow]
    rfl
  have hfiles : ((repaired parseDate input w).state, (repaired parseDate input w).request)
      = reconcileStaleActiveApplyState parseDate input.now input.currentRelease state request := by
    simp only [repaired, reconciledFiles, hnoop]
  rcases reconcileStaleActiveApplyState_cases state request parseDate
    input.now input.currentRelease with hsame | ⟨ended, hended, hterminal⟩
  · rw [hsame] at hfiles
    obtain ⟨hs, hr⟩ := Prod.mk.inj hfiles
    refine ⟨rfl, fun {row} hrow => ?_, fun {r} hr' => ?_, fun {row r} hw hw' hop hq hprep => ?_⟩
    · rw [hs] at hrow
      rcases hstate with rfl | rfl
      · exact .inl hrow
      · exact absurd hrow (by simp)
    · rw [hr] at hr'
      rcases hrequest with rfl | rfl
      · exact hr'
      · exact absurd hr' (by simp)
    · have hnone := htogether row r hw hw' hop (hqueued hq) hprep
      rw [hs, hr]
      rcases hstate with rfl | rfl <;> rcases hrequest with rfl | rfl <;> simp_all
  · rw [hended] at hfiles
    obtain ⟨hs, hr⟩ := Prod.mk.inj hfiles
    refine ⟨rfl, fun {row} hrow => ?_, fun {r} hr' => ?_, fun {row r} _ _ _ hq _ => ?_⟩
    · obtain rfl := Option.some.inj (hs.symm.trans hrow)
      exact .inr hterminal
    · exact absurd (hr.symm.trans hr') (by simp)
    · rw [hs, hr]
      refine iff_of_false (fun hrow => ?_) (by simp)
      rw [Option.some.inj hrow, hqueued hq] at hterminal
      exact absurd hterminal (by simp)

section OneStep

variable {parseDate : String → Option ℤ} {w w' : ControlPlaneWorld}
  {accepted : ℕ → Option PlatformUpdateRequestState} {p : ℕ}

/-- The repairs of a summary keep one operation at a time. -/
theorem OneOperation.repaired (h : OneOperation w accepted)
    (hprepared : w.supervisor = none → ∀ row, w.state = some row → row.status = .queued →
      row.operation = .apply → row.preparedReleaseId = row.targetReleaseId)
    (hrepaired : Repaired w w') : OneOperation w' accepted where
  exclusive := h.exclusive
  accepted_alone := by
    intro p r hp
    obtain ⟨hrequest, hsupervisor⟩ := h.accepted_alone hp
    refine ⟨?_, hrepaired.supervisor.trans hsupervisor⟩
    by_contra hsome
    obtain ⟨r', hr'⟩ := Option.ne_none_iff_exists'.mp hsome
    exact absurd (hrequest.symm.trans (hrepaired.request hr')) (by simp)
  request_alone := fun hr => hrepaired.supervisor.trans (h.request_alone (hrepaired.request hr))
  state_agrees := by
    intro r hr
    have hrequest := hrepaired.request hr
    obtain ⟨row, hrow, hqueued, hop⟩ := h.state_agrees hrequest
    have hprep := hprepared (h.request_alone hrequest) row hrow hqueued
    exact ⟨row, (hrepaired.together hrow hrequest hop hqueued hprep).mpr hr, hqueued, hop⟩
  queued_inFlight := by
    intro row hrow hqueued
    have hbefore := hrepaired.queued hrow hqueued
    obtain ⟨r, hflight, hop⟩ := h.queued_inFlight hbefore hqueued
    refine ⟨r, ?_, hop⟩
    rcases hflight with haccepted | hrequest | hsupervisor
    · exact .inl haccepted
    · have hprep := hprepared (h.request_alone hrequest) row hbefore hqueued
      exact .inr (.inl ((hrepaired.together hbefore hrequest hop hqueued hprep).mp hrow))
    · exact .inr (.inr (hrepaired.supervisor.trans hsupervisor))

/-- An operation is accepted while none is in flight. -/
theorem oneOperation_accept (hnone : NoneInFlight w accepted) (operation : PlatformUpdateOperation)
    (summary : ControlPlaneSummary) (target : PlatformRelease) (context : RequestAuditContext)
    (input : ControlPlaneInput) :
    OneOperation (w.setState (some (queuedState operation summary target context input.now)))
      (Function.update accepted p
        (some (queuedRequest input.requestId operation target context input.now))) := by
  obtain ⟨hnone, hrequest, hsupervisor⟩ := hnone
  have honly : ∀ {q r}, Function.update accepted p
      (some (queuedRequest input.requestId operation target context input.now)) q = some r →
      q = p := by
    intro q r hq
    by_contra hqp
    rw [Function.update_of_ne hqp, hnone q] at hq
    exact absurd hq (by simp)
  refine ⟨fun hq hq' => (honly hq).trans (honly hq').symm, fun _ => ⟨hrequest, hsupervisor⟩,
    fun hr => absurd (hrequest.symm.trans hr) (by simp),
    fun hr => absurd (hrequest.symm.trans hr) (by simp), ?_⟩
  intro row hrow _
  obtain rfl := Option.some.inj hrow
  exact ⟨_, .inl ⟨p, Function.update_self _ _ _⟩, rfl, rfl⟩

/-- A request is written while the state file still queues its operation. -/
theorem OneOperation.request (h : OneOperation w accepted) {request : PlatformUpdateRequestState}
    (hp : accepted p = some request) (hnames : NamesQueued w.state request) :
    OneOperation { w with request := some request } (Function.update accepted p none) := by
  obtain ⟨-, hsupervisor⟩ := h.accepted_alone hp
  have hnone : ∀ q, Function.update accepted p none q = none := by
    intro q
    by_cases hq : q = p
    · rw [hq, Function.update_self]
    · rw [Function.update_of_ne hq]
      by_contra hsome
      obtain ⟨r, hr⟩ := Option.ne_none_iff_exists'.mp hsome
      exact hq (h.exclusive hr hp)
  refine ⟨fun hq _ => absurd ((hnone _).symm.trans hq) (by simp),
    fun hq => absurd ((hnone _).symm.trans hq) (by simp), fun _ => hsupervisor, ?_, ?_⟩
  · intro r hr
    obtain rfl := Option.some.inj hr
    exact hnames
  · intro row hrow hqueued
    obtain ⟨row', hrow', -, hop⟩ := hnames
    obtain rfl := Option.some.inj (hrow.symm.trans hrow')
    exact ⟨request, .inr (.inl rfl), hop⟩

/-- An operation that is over is written back while no request waits. -/
theorem OneOperation.audit (h : OneOperation w accepted) {row : PlatformUpdateState}
    (hterminal : row.status.isTerminal = true) (hnone : w.request = none)
    (auditLog : List ControlPlaneAudit) :
    OneOperation { w with state := some row, auditLog } accepted := by
  refine ⟨h.exclusive, h.accepted_alone, h.request_alone,
    fun hr => absurd (hnone.symm.trans hr) (by simp), fun hrow hqueued => ?_⟩
  obtain rfl := Option.some.inj hrow
  rw [hqueued] at hterminal
  exact absurd hterminal (by decide)

/-- What the supervisor does, it does to the operation in flight. -/
theorem OneOperation.supervise (h : OneOperation w accepted) (e : SupervisorEvent) :
    OneOperation (supervise e w) accepted := by
  rcases supervise_cases e w with ⟨request, hsupervisor, hrequest, heq⟩ |
    ⟨request, state, hsupervisor, -, hprogress, heq⟩ | heq
  · -- the request goes from the file to the supervisor
    rw [heq]
    have hnone : ∀ {p r}, accepted p ≠ some r := fun hp =>
      absurd (hrequest.symm.trans (h.accepted_alone hp).1) (by simp)
    refine ⟨h.exclusive, fun hp => absurd hp hnone, fun hr => absurd hr (by simp),
      fun hr => absurd hr (by simp), fun hrow hqueued => ?_⟩
    obtain ⟨r, hflight, hop⟩ := h.queued_inFlight hrow hqueued
    rcases hflight with ⟨p, hp⟩ | hr | hr
    · exact absurd hp hnone
    · exact ⟨r, .inr (.inr (hrequest.symm.trans hr)), hop⟩
    · exact absurd (hsupervisor.symm.trans hr) (by simp)
  · rw [heq]
    have hnone : ∀ {p r}, accepted p ≠ some r := fun hp =>
      absurd (hsupervisor.symm.trans (h.accepted_alone hp).2) (by simp)
    have hidle : ∀ {r}, w.request ≠ some r := fun hr =>
      absurd (hsupervisor.symm.trans (h.request_alone hr)) (by simp)
    refine ⟨h.exclusive, fun hp => absurd hp hnone, fun hr => absurd hr hidle,
      fun hr => absurd hr hidle, fun hrow hqueued => ?_⟩
    obtain rfl := Option.some.inj hrow
    refine ⟨request, .inr (.inr ?_), hprogress.1, hprogress.2.1⟩
    simp [hqueued, PlatformUpdateStatus.isTerminal]
  · rw [heq]
    exact h

end OneStep

/-! ## What the calls remember -/

/-- The state file and the request file. -/
abbrev UpdateFiles := Option PlatformUpdateState × Option PlatformUpdateRequestState

def ControlPlaneWorld.files (w : ControlPlaneWorld) : UpdateFiles := (w.state, w.request)

section Memory

variable (parseDate : String → Option ℤ)

/-- The files as the first step of a call reads them, after their repairs. -/
def filesFirst (request : ControlPlaneRequest) (input : ControlPlaneInput) (w : ControlPlaneWorld) :
    UpdateFiles :=
  (invokeControlPlane parseDate request input w).1.files

/-- The files as a call has last read or written them. -/
def filesLast (files : UpdateFiles) (call : ControlPlaneCall) (input : ControlPlaneInput)
    (w : ControlPlaneWorld) : UpdateFiles :=
  if call.kind input = .waits then files else (resumeControlPlane parseDate call input w).1.files

/-- The calls of `ControlPlaneUpdatesService`, each with the files it remembers. -/
def rememberingCalls : Calls ControlPlaneWorld ControlPlaneRequest (ControlPlaneCall × UpdateFiles)
    ControlPlaneInput :=
  (controlPlaneCalls parseDate).remembering (filesFirst parseDate) (filesLast parseDate)

end Memory

/-! ## The condition -/

/-- The files are as the call remembers them: both when it accepts an operation, the state
file when it writes the request or the audit stamp. -/
def FilesCurrent (w : ControlPlaneWorld) (files : UpdateFiles) : StepKind → Prop
  | .accepts _ => w.files = files
  | .requests | .audits => w.state = files.1
  | .waits | .repairs => True

/-- A summary repairs the files only while the request waits for the supervisor. -/
def RepairsWaiting (parseDate : String → Option ℤ) (w : ControlPlaneWorld)
    (input : ControlPlaneInput) : Prop :=
  reconciledFiles parseDate input w = w.files ∨ w.request.isSome = true

instance (w : ControlPlaneWorld) (files : UpdateFiles) (kind : StepKind) :
    Decidable (FilesCurrent w files kind) := by
  cases kind <;> unfold FilesCurrent <;> infer_instance

instance (parseDate : String → Option ℤ) (w : ControlPlaneWorld) (input : ControlPlaneInput) :
    Decidable (RepairsWaiting parseDate w input) := by
  unfold RepairsWaiting; infer_instance

section Guard

variable (parseDate : String → Option ℤ)

/-- The condition on the first step of a call, which is a summary or a read of the state. -/
def SummaryGuard (w : ControlPlaneWorld) : ControlPlaneRequest → ControlPlaneInput → Prop
  | .reconcileTerminalAuditState, _ => True
  | .getSummary, input | .queueDownload _, input | .queueApply _, input =>
      RepairsWaiting parseDate w input

/-- The condition on a later step. -/
def WriteGuard (w : ControlPlaneWorld) (call : ControlPlaneCall × UpdateFiles)
    (input : ControlPlaneInput) : Prop :=
  FilesCurrent w call.2 (call.1.kind input) ∧
    (call.1.kind input = .repairs → RepairsWaiting parseDate w input)

instance (w : ControlPlaneWorld) (request : ControlPlaneRequest) (input : ControlPlaneInput) :
    Decidable (SummaryGuard parseDate w request input) := by
  cases request <;> unfold SummaryGuard <;> infer_instance

instance (w : ControlPlaneWorld) (call : ControlPlaneCall × UpdateFiles)
    (input : ControlPlaneInput) : Decidable (WriteGuard parseDate w call input) := by
  unfold WriteGuard; infer_instance

end Guard

/-! ## What the calls have checked -/

/-- The operation that a summary shows is the one the files name. -/
def ShowsFiles (summary : ControlPlaneSummary) (files : UpdateFiles) : Prop :=
  ∃ currentReleaseId preparedReleaseId,
    summary.operation = toOperationDto files.1 files.2 currentReleaseId preparedReleaseId

/-- What a call knows of the files it remembers. -/
def FilesRead : ControlPlaneCall × UpdateFiles → Prop
  | (.lookingUp _ _ _ state request, files) => files = (state, request)
  | (.hydrating _ summary, files) => ShowsFiles summary files
  | (.findingRollout _ summary _, files) =>
      ShowsFiles summary files ∧ assertNoConcurrentOperation summary.operation = .ok ()
  | (.accepted request _, files) => NamesQueued files.1 request
  | (.auditing state, files) => files.1 = some state ∧ state.status.isTerminal = true
  | (.recording .., _) => True

/-- The check of a download has looked at the operation. -/
theorem notConcurrent_of_checkDownload {summary : ControlPlaneSummary} {target : PlatformRelease}
    (h : checkDownload summary = .ok target) :
    assertNoConcurrentOperation summary.operation = .ok () := by
  unfold checkDownload at h
  cases hsupported : assertSupported summary.supported with
  | error e =>
      rw [hsupported] at h
      cases h
  | ok u =>
      rw [hsupported] at h
      cases hconcurrent : assertNoConcurrentOperation summary.operation with
      | error e =>
          rw [hconcurrent] at h
          cases h
      | ok u => rfl

/-- So has the check of an apply. -/
theorem notConcurrent_of_checkApply {summary : ControlPlaneSummary} {promoting : Bool}
    {target : PlatformRelease} (h : checkApply summary promoting = .ok target) :
    assertNoConcurrentOperation summary.operation = .ok () := by
  unfold checkApply at h
  cases hsupported : assertSupported summary.supported with
  | error e =>
      rw [hsupported] at h
      cases h
  | ok u =>
      rw [hsupported] at h
      cases hconcurrent : assertNoConcurrentOperation summary.operation with
      | error e =>
          rw [hconcurrent] at h
          cases h
      | ok u => rfl

/-- **What `assertNoConcurrentOperation` tells about the files**: the state file names no
operation that is queued or in progress, and no request waits without one. -/
theorem files_of_notConcurrent {summary : ControlPlaneSummary} {files : UpdateFiles}
    (hshows : ShowsFiles summary files)
    (hcheck : assertNoConcurrentOperation summary.operation = .ok ()) :
    (∀ row, files.1 = some row → row.status.isConcurrent = false) ∧
      (files.1 = none → files.2 = none) := by
  obtain ⟨currentReleaseId, preparedReleaseId, hoperation⟩ := hshows
  obtain ⟨state, request⟩ := files
  rw [hoperation] at hcheck
  cases state with
  | none =>
      refine ⟨fun row hrow => (by cases hrow), fun _ => ?_⟩
      cases request with
      | none => rfl
      | some r => simp [toOperationDto, assertNoConcurrentOperation,
          PlatformUpdateStatus.isConcurrent] at hcheck
  | some row =>
      refine ⟨fun row' hrow => ?_, fun hnone => (by cases hnone)⟩
      obtain rfl : row = row' := Option.some.inj hrow
      simp only [toOperationDto] at hcheck
      split at hcheck
      · next hcompleted =>
          rw [hcompleted.1]
          rfl
      · by_contra hconcurrent
        rw [Bool.not_eq_false] at hconcurrent
        simp [assertNoConcurrentOperation, hconcurrent] at hcheck

section Read

variable {parseDate : String → Option ℤ} {w : ControlPlaneWorld} {files : UpdateFiles}

theorem filesLast_of_waits {call : ControlPlaneCall} {input : ControlPlaneInput}
    (h : call.kind input = .waits) : filesLast parseDate files call input w = files :=
  if_pos h

/-- No operation is accepted by the first step of a call. -/
theorem accepted_invoke {request : ControlPlaneRequest} {input : ControlPlaneInput} :
    ∀ call ∈ (invokeControlPlane parseDate request input w).2, call.accepted? = none := by
  intro call hcall
  cases request with
  | getSummary | queueDownload context | queueApply context =>
      obtain rfl := Option.some.inj hcall
      rfl
  | reconcileTerminalAuditState =>
      simp only [invokeControlPlane] at hcall
      split at hcall
      · cases hcall
      · split at hcall
        · cases hcall
        · obtain rfl := Option.some.inj hcall
          rfl

/-- What a call knows of the files after its first step. -/
theorem filesRead_invoke {request : ControlPlaneRequest} {input : ControlPlaneInput} :
    ∀ call ∈ (invokeControlPlane parseDate request input w).2,
      FilesRead (call, filesFirst parseDate request input w) := by
  intro call hcall
  cases request with
  | getSummary | queueDownload context | queueApply context =>
      obtain rfl := Option.some.inj hcall
      rfl
  | reconcileTerminalAuditState =>
      unfold filesFirst
      simp only [invokeControlPlane] at hcall ⊢
      cases hstate : w.state with
      | none =>
          rw [hstate] at hcall
          cases hcall
      | some state =>
          rw [hstate] at hcall
          simp only at hcall ⊢
          split at hcall
          · cases hcall
          next hopen =>
              obtain rfl := Option.some.inj hcall
              push Not at hopen
              rw [if_neg (by push Not; exact hopen)]
              exact ⟨hstate, by simpa using hopen.2⟩

/-- What a call knows of the files after a later step. -/
theorem filesRead_resume {call : ControlPlaneCall} {input : ControlPlaneInput}
    (h : FilesRead (call, files)) :
    ∀ next ∈ (resumeControlPlane parseDate call input w).2,
      FilesRead (next, filesLast parseDate files call input w) := by
  intro next hnext
  cases call with
  | lookingUp use deploymentMode currentRelease state request =>
      obtain rfl := Option.some.inj hnext
      have hfiles : files = (state, request) := h
      rw [filesLast_of_waits rfl, hfiles]
      exact ⟨_, _, rfl⟩
  | hydrating use summary =>
      simp only [resumeControlPlane] at hnext
      split at hnext
      · cases hnext
      · next context =>
          split at hnext
          · cases hnext
          next target hcheck =>
              have hkind : (ControlPlaneCall.hydrating (.download context) summary).kind input
                  = .accepts .download := by
                simp only [ControlPlaneCall.kind, hcheck]
                rfl
              have hlast :
                  filesLast parseDate files (.hydrating (.download context) summary) input w
                  = (some (queuedState .download (summary.hydrate input.manifest) target context
                      input.now), w.request) := by
                rw [filesLast, hkind, if_neg (by simp)]
                simp only [resumeControlPlane, hcheck]
                rfl
              obtain rfl := Option.some.inj hnext
              rw [hlast]
              exact ⟨_, rfl, rfl, rfl, rfl⟩
      · next context =>
          split at hnext
          · cases hnext
          next target hcheck =>
              obtain rfl := Option.some.inj hnext
              rw [filesLast_of_waits rfl]
              exact ⟨h, notConcurrent_of_checkApply hcheck⟩
  | findingRollout context summary target =>
      simp only [resumeControlPlane] at hnext
      split at hnext
      · cases hnext
      next hnone =>
          have hnoneActive : input.activeRollout = none := by
            cases hactive : input.activeRollout with
            | none => rfl
            | some version =>
                rw [hactive] at hnone
                cases hnone
          have hlast : filesLast parseDate files (.findingRollout context summary target) input w
              = (some (queuedState .apply summary target context input.now), w.request) := by
            rw [filesLast, if_neg (by simp [ControlPlaneCall.kind, hnoneActive])]
            simp only [resumeControlPlane, hnone]
            rfl
          obtain rfl := Option.some.inj hnext
          rw [hlast]
          exact ⟨_, rfl, rfl, rfl, rfl⟩
  | accepted request target =>
      obtain rfl := Option.some.inj hnext
      exact True.intro
  | recording request target =>
      simp only [resumeControlPlane] at hnext
      split at hnext
      · cases hnext
      next hrecord =>
          have hlast : filesLast parseDate files (.recording request target) input w
              = (resumeControlPlane parseDate (.recording request target) input w).1.files :=
            if_neg (by simp [ControlPlaneCall.kind, hrecord])
          rw [hlast]
          simp only [resumeControlPlane, if_neg hrecord]
          obtain rfl := Option.some.inj hnext
          rfl
  | auditing state =>
      simp only [resumeControlPlane] at hnext
      split at hnext
      · cases hnext
      · cases hnext

end Read

/-! ## One step -/

/-- One operation at a time, and the state file names it from its acceptance to its end. -/
structure FilesInv (w : ControlPlaneWorld) (accepted : ℕ → Option PlatformUpdateRequestState) :
    Prop where
  oneOperation : OneOperation w accepted
  accepted_named : ∀ {p r}, accepted p = some r → NamesQueued w.state r
  supervised : ∀ {r}, w.supervisor = some r → ∃ row, w.state = some row ∧
    row.status.isConcurrent = true ∧ SameOperation row r
  /-- A queued apply that the supervisor has not taken targets the release that is prepared. -/
  prepared : w.supervisor = none → ∀ row, w.state = some row → row.status = .queued →
    row.operation = .apply → row.preparedReleaseId = row.targetReleaseId

section Steps

variable {parseDate : String → Option ℤ} {w w' : ControlPlaneWorld} {files : UpdateFiles}
  {accepted : ℕ → Option PlatformUpdateRequestState} {p : ℕ} {input : ControlPlaneInput}

/-- A queued operation is in progress. -/
theorem NamesQueued.concurrent {request : PlatformUpdateRequestState}
    (h : NamesQueued w.state request) :
    ∃ row, w.state = some row ∧ row.status.isConcurrent = true ∧ SameOperation row request := by
  obtain ⟨row, hrow, hqueued, hsame⟩ := h
  refine ⟨row, hrow, ?_, hsame⟩
  rw [hqueued]
  rfl

/-- **The state file names every operation in flight.** -/
theorem FilesInv.inFlight (h : FilesInv w accepted) {r : PlatformUpdateRequestState}
    (hflight : InFlight w accepted r) :
    ∃ row, w.state = some row ∧ row.status.isConcurrent = true ∧ SameOperation row r := by
  rcases hflight with ⟨p, hp⟩ | hrequest | hsupervisor
  · exact (h.accepted_named hp).concurrent
  · exact (h.oneOperation.state_agrees hrequest).concurrent
  · exact h.supervised hsupervisor

/-- While the state file names no operation in progress, none is in flight. -/
theorem FilesInv.noneInFlight (h : FilesInv w accepted)
    (hidle : ∀ row, w.state = some row → row.status.isConcurrent = false) :
    NoneInFlight w accepted := by
  have hnone : ∀ r, ¬ InFlight w accepted r := by
    intro r hflight
    obtain ⟨row, hrow, hconcurrent, -⟩ := h.inFlight hflight
    rw [hidle row hrow] at hconcurrent
    exact absurd hconcurrent (by simp)
  refine ⟨fun p => ?_, ?_, ?_⟩
  · exact Option.eq_none_iff_forall_ne_some.mpr fun r hr => hnone r (.inl ⟨p, hr⟩)
  · exact Option.eq_none_iff_forall_ne_some.mpr fun r hr => hnone r (.inr (.inl hr))
  · exact Option.eq_none_iff_forall_ne_some.mpr fun r hr => hnone r (.inr (.inr hr))

/-- The summary of a call that accepts an operation shows no other in progress. -/
theorem notConcurrent_of_accepts {call : ControlPlaneCall} {operation : PlatformUpdateOperation}
    (hread : FilesRead (call, files)) (hkind : call.kind input = .accepts operation) :
    ∀ row, files.1 = some row → row.status.isConcurrent = false := by
  cases call with
  | hydrating use summary =>
      cases use with
      | download context =>
          simp only [ControlPlaneCall.kind] at hkind
          cases hcheck : checkDownload (summary.hydrate input.manifest) with
          | error e => simp [hcheck, Except.isOk, Except.toBool] at hkind
          | ok target =>
              have hshows : ShowsFiles (summary.hydrate input.manifest) files := hread
              exact (files_of_notConcurrent hshows (notConcurrent_of_checkDownload hcheck)).1
      | answer | apply => simp [ControlPlaneCall.kind] at hkind
  | findingRollout context summary target => exact (files_of_notConcurrent hread.1 hread.2).1
  | recording | auditing =>
      simp only [ControlPlaneCall.kind] at hkind
      split at hkind <;> simp at hkind
  | lookingUp | accepted => simp [ControlPlaneCall.kind] at hkind

/-- Repairs that find nothing leave the world as it is. -/
theorem repaired_of_current (h : reconciledFiles parseDate input w = w.files) :
    repaired parseDate input w = w := by
  unfold repaired
  simp only [h, ControlPlaneWorld.files, if_true]

/-- The repairs of a summary, which touch only a request that waits. -/
theorem FilesInv.repaired (h : FilesInv w accepted) (hwaiting : RepairsWaiting parseDate w input) :
    FilesInv (repaired parseDate input w) accepted := by
  rcases hwaiting with hsame | hrequest
  · rw [repaired_of_current hsame]
    exact h
  · obtain ⟨r, hr⟩ := Option.isSome_iff_exists.mp hrequest
    have hrepaired := repaired_repaired parseDate input w
    have hidle := h.oneOperation.request_alone hr
    refine ⟨h.oneOperation.repaired h.prepared hrepaired, fun hp => ?_, fun hr' => ?_, ?_⟩
    · exact absurd (hr.symm.trans (h.oneOperation.accepted_alone hp).1) (by simp)
    · exact absurd (hidle.symm.trans (hrepaired.supervisor.symm.trans hr')) (by simp)
    · intro _ row hrow hqueued happly
      exact h.prepared hidle row (hrepaired.queued hrow hqueued) hqueued happly

/-- **The first step of a call.** -/
theorem FilesInv.invoke (h : FilesInv w accepted) {request : ControlPlaneRequest}
    (hguard : SummaryGuard parseDate w request input) :
    FilesInv (invokeControlPlane parseDate request input w).1 accepted := by
  cases request with
  | getSummary | queueDownload context | queueApply context => exact h.repaired hguard
  | reconcileTerminalAuditState =>
      simp only [invokeControlPlane]
      split
      · exact h
      · split
        · exact h
        · exact h

/-- An operation is accepted. -/
theorem FilesInv.accept (hnone : NoneInFlight w accepted) (operation : PlatformUpdateOperation)
    (summary : ControlPlaneSummary) (target : PlatformRelease) (context : RequestAuditContext)
    (input : ControlPlaneInput) :
    FilesInv (w.setState (some (queuedState operation summary target context input.now)))
      (Function.update accepted p
        (some (queuedRequest input.requestId operation target context input.now))) := by
  refine ⟨oneOperation_accept hnone operation summary target context input, fun {q r} hq => ?_,
    fun hr => absurd (hnone.2.2.symm.trans hr) (by simp), ?_⟩
  · by_cases hqp : q = p
    · rw [hqp, Function.update_self] at hq
      obtain rfl := Option.some.inj hq
      exact ⟨_, rfl, rfl, rfl, rfl⟩
    · rw [Function.update_of_ne hqp, hnone.1 q] at hq
      cases hq
  · rintro - row hrow - happly
    obtain rfl := Option.some.inj hrow
    obtain rfl : operation = .apply := happly
    rfl

/-- A request is written. -/
theorem FilesInv.request (h : FilesInv w accepted) {request : PlatformUpdateRequestState}
    (hp : accepted p = some request) (hnames : NamesQueued w.state request) :
    FilesInv { w with request := some request } (Function.update accepted p none) := by
  refine ⟨h.oneOperation.request hp hnames, fun {q r} hq => ?_, h.supervised, h.prepared⟩
  by_cases hqp : q = p
  · rw [hqp, Function.update_self] at hq
    cases hq
  · rw [Function.update_of_ne hqp] at hq
    exact h.accepted_named hq

/-- An operation that is over gets its audit stamp. -/
theorem FilesInv.audit (h : FilesInv w accepted) {row stamped : PlatformUpdateState}
    (hrow : w.state = some row) (hterminal : row.status.isTerminal = true)
    (hstamped : stamped.status = row.status) (auditLog : List ControlPlaneAudit) :
    FilesInv { w with state := some stamped, auditLog } accepted := by
  have hidle : ∀ row', w.state = some row' → row'.status.isConcurrent = false := by
    intro row' hrow'
    obtain rfl := Option.some.inj (hrow.symm.trans hrow')
    exact PlatformUpdateStatus.isConcurrent_of_isTerminal hterminal
  obtain ⟨hnone, hrequest, hsupervisor⟩ := h.noneInFlight hidle
  have hended : stamped.status.isTerminal = true := by
    rw [hstamped]
    exact hterminal
  refine ⟨h.oneOperation.audit hended hrequest auditLog,
    fun hp => absurd ((hnone _).symm.trans hp) (by simp),
    fun hr => absurd (hsupervisor.symm.trans hr) (by simp), ?_⟩
  intro _ row' hrow' hqueued _
  obtain rfl := Option.some.inj hrow'
  rw [hqueued] at hended
  exact absurd hended (by decide)

/-- The audit log is no part of it. -/
theorem FilesInv.withAuditLog (h : FilesInv w accepted) (auditLog : List ControlPlaneAudit) :
    FilesInv { w with auditLog } accepted :=
  ⟨⟨h.oneOperation.exclusive, h.oneOperation.accepted_alone, h.oneOperation.request_alone,
    h.oneOperation.state_agrees, h.oneOperation.queued_inFlight⟩, h.accepted_named, h.supervised,
    h.prepared⟩

/-- A call that has accepted nothing waits, or returns. -/
theorem FilesInv.quiet (h : FilesInv w accepted) (hp : accepted p = none) :
    FilesInv w (Function.update accepted p none) := by
  rw [Function.update_eq_self_iff.mpr hp.symm]
  exact h

/-- **A later step of a call** whose files are current: what it has checked of them still
holds when it writes. -/
theorem FilesInv.resume (h : FilesInv w accepted) {call : ControlPlaneCall}
    (hp : accepted p = call.accepted?) (hread : FilesRead (call, files))
    (hguard : WriteGuard parseDate w (call, files) input) :
    FilesInv (resumeControlPlane parseDate call input w).1
      (Function.update accepted p
        ((resumeControlPlane parseDate call input w).2.bind (·.accepted?))) := by
  obtain ⟨hcurrent, hrepairs⟩ := hguard
  -- an operation is accepted on what the summary has read of the files
  have hidle : ∀ operation, call.kind input = .accepts operation → NoneInFlight w accepted := by
    intro operation hkind
    rw [hkind] at hcurrent
    have hfiles : w.files = files := hcurrent
    refine h.noneInFlight fun row hrow => notConcurrent_of_accepts hread hkind row ?_
    rw [← hfiles]
    exact hrow
  cases call with
  | lookingUp use deploymentMode currentRelease state request => exact h.quiet hp
  | hydrating use summary =>
      cases use with
      | answer => exact h.quiet hp
      | download context =>
          simp only [resumeControlPlane]
          cases hcheck : checkDownload (summary.hydrate input.manifest) with
          | error e => exact h.quiet hp
          | ok target =>
              refine FilesInv.accept (hidle .download ?_) .download _ target context input
              simp only [ControlPlaneCall.kind, hcheck]
              rfl
      | apply context =>
          simp only [resumeControlPlane]
          cases checkApply (summary.hydrate input.manifest) input.promoting with
          | error e => exact h.quiet hp
          | ok target => exact h.quiet hp
  | findingRollout context summary target =>
      simp only [resumeControlPlane]
      cases hactive : input.activeRollout with
      | some version => exact h.quiet hp
      | none =>
          refine FilesInv.accept (hidle .apply ?_) .apply summary target context input
          simp [ControlPlaneCall.kind, hactive]
  | accepted request target =>
      have hstate : w.state = files.1 := hcurrent
      have hnames : NamesQueued files.1 request := hread
      rw [← hstate] at hnames
      exact h.request hp hnames
  | recording request target =>
      simp only [resumeControlPlane]
      split
      · exact h.quiet hp
      next hrecord =>
          have hwaiting := hrepairs (by simp [ControlPlaneCall.kind, hrecord])
          have hlogged := h.withAuditLog (requestedAudit request target :: w.auditLog)
          have hlater : RepairsWaiting parseDate
              { w with auditLog := requestedAudit request target :: w.auditLog } input := hwaiting
          exact (hlogged.repaired hlater).quiet hp
  | auditing state =>
      simp only [resumeControlPlane]
      split
      · exact h.quiet hp
      next hrecord =>
          have haudits : (ControlPlaneCall.auditing state).kind input = .audits := by
            simp [ControlPlaneCall.kind, hrecord]
          rw [haudits] at hcurrent
          have hstate : w.state = files.1 := hcurrent
          rw [hread.1] at hstate
          have hstatus : ({ state with
              updatedAt := toISOString input.now
              auditLoggedAt := some (toISOString input.now) } : PlatformUpdateState).status
              = state.status := rfl
          exact (h.audit hstate hread.2 hstatus (terminalAudit state :: w.auditLog)).quiet hp

/-- What the supervisor does. -/
theorem FilesInv.supervise (h : FilesInv w accepted) (e : SupervisorEvent) :
    FilesInv (supervise e w) accepted := by
  have hone := h.oneOperation.supervise e
  rcases supervise_cases e w with ⟨request, -, hrequest, heq⟩ |
    ⟨request, state, hsupervisor, -, hprogress, heq⟩ | heq
  · rw [heq] at hone ⊢
    have hnone : ∀ {p r}, accepted p ≠ some r := fun hp =>
      absurd (hrequest.symm.trans (h.oneOperation.accepted_alone hp).1) (by simp)
    refine ⟨hone, fun hp => absurd hp hnone, fun {r} hr => ?_, fun hidle => absurd hidle (by simp)⟩
    obtain rfl := Option.some.inj hr
    exact (h.oneOperation.state_agrees hrequest).concurrent
  · rw [heq] at hone ⊢
    have hnone : ∀ {p r}, accepted p ≠ some r := fun hp =>
      absurd (hsupervisor.symm.trans (h.oneOperation.accepted_alone hp).2) (by simp)
    refine ⟨hone, fun hp => absurd hp hnone, fun {r} hr => ?_, fun hidle row hrow hqueued => ?_⟩
    · simp only at hr
      split at hr
      · cases hr
      next hopen =>
          obtain rfl := Option.some.inj hr
          exact ⟨state, rfl, hprogress.2.2.resolve_right hopen, hprogress.1, hprogress.2.1⟩
    · obtain rfl := Option.some.inj hrow
      simp [hqueued, PlatformUpdateStatus.isTerminal] at hidle
  · rw [heq]
    exact h

/-- No file is there yet. -/
theorem filesInv_empty (hnone : ∀ p, accepted p = none) : FilesInv {} accepted := by
  have hfree : ∀ {p r}, accepted p ≠ some r := fun hp => absurd ((hnone _).symm.trans hp) (by simp)
  refine ⟨⟨?_, ?_, ?_, ?_, ?_⟩, ?_, ?_, ?_⟩
  · exact fun hp _ => absurd hp hfree
  · exact fun hp => absurd hp hfree
  · exact fun hr => by simp at hr
  · exact fun hr => by simp at hr
  · exact fun hrow => by simp at hrow
  · exact fun hp => absurd hp hfree
  · exact fun hr => by simp at hr
  · exact fun _ row hrow => by simp at hrow

end Steps

/-! ## Every run -/

variable {parseDate : String → Option ℤ} {p : ℕ}

/-- The calls with the files they remember. -/
abbrev RememberingConfig := Config ℕ ControlPlaneWorld (ControlPlaneCall × UpdateFiles)

/-- The operations accepted after one call moved. -/
theorem acceptedBy_update {c : ControlPlaneConfig} (w' : ControlPlaneWorld)
    (next : Option ControlPlaneCall) :
    acceptedBy ⟨w', Function.update c.pending p next⟩
      = Function.update (acceptedBy c) p (next.bind (·.accepted?)) := by
  funext q
  unfold acceptedBy
  by_cases hq : q = p
  · rw [hq]
    simp
  · simp [Function.update_of_ne hq]

/-- What holds at every point of a run. -/
structure OperationInv (c : RememberingConfig) : Prop where
  files : FilesInv c.world (acceptedBy c.forget)
  read : Good (fun _ => True) (fun _ => FilesRead) c

/-- What the calls know of the files they remember. -/
theorem filesRead_outline : Outline (rememberingCalls parseDate) supervise
    (SummaryGuard parseDate) (WriteGuard parseDate) (fun _ _ => True) (fun _ => True)
    (fun _ => FilesRead) :=
  outline_remembering (fun _ _ => ⟨trivial, filesRead_invoke⟩)
    (fun _ hread _ => ⟨trivial, filesRead_resume hread⟩) (fun _ _ => trivial)
    (fun _ _ hread => hread) (fun _ _ _ hread => hread) (fun _ _ hread => hread)

/-- **One event.** -/
theorem operationInv_step (c : RememberingConfig) (e : ControlPlaneEvent) (h : OperationInv c)
    (hguard : Guard (SummaryGuard parseDate) (WriteGuard parseDate) (fun _ _ => True) c e) :
    OperationInv (step (rememberingCalls parseDate) supervise c e) := by
  refine ⟨?_, filesRead_outline.step c e h.read hguard⟩
  have hforget : (step (rememberingCalls parseDate) supervise c e).forget
      = step (controlPlaneCalls parseDate) supervise c.forget e := forget_step c e
  rw [← Config.forget_world, hforget]
  cases e with
  | invoke p request input =>
      cases hp : c.pending p with
      | some call =>
          have hbusy : c.forget.pending p = some call.1 := by simp only [Config.forget, hp]; rfl
          rw [step_invoke_busy hbusy]
          exact h.files
      | none =>
          have hfree : c.forget.pending p = none := by simp only [Config.forget, hp]; rfl
          have hnone : acceptedBy c.forget p = none := by rw [acceptedBy, hfree]; rfl
          rw [step_invoke hfree, acceptedBy_update]
          have hnext : ((controlPlaneCalls parseDate).invoke request input c.world).2.bind
              (·.accepted?) = none := by
            cases hcall : ((controlPlaneCalls parseDate).invoke request input c.world).2 with
            | none => rfl
            | some call => exact accepted_invoke call hcall
          rw [Config.forget_world, hnext]
          exact (h.files.invoke (hguard (by rw [hp]; rfl))).quiet hnone
  | resume p input =>
      cases hp : c.pending p with
      | none =>
          have hidle : c.forget.pending p = none := by simp only [Config.forget, hp]; rfl
          rw [step_resume_idle hidle]
          exact h.files
      | some call =>
          have hpending : c.forget.pending p = some call.1 := by
            simp only [Config.forget, hp]; rfl
          have hheld : acceptedBy c.forget p = call.1.accepted? := by rw [acceptedBy, hpending]; rfl
          rw [step_resume hpending, acceptedBy_update]
          exact h.files.resume hheld (h.read.2 p call hp) (hguard call hp)
  | env e => exact h.files.supervise e

/-- Nothing has happened yet. -/
theorem operationInv_idle : OperationInv (Config.idle {}) :=
  ⟨filesInv_empty fun p => by simp [acceptedBy], good_idle trivial⟩

/-- **One operation at a time.**  In every interleaving of calls and of the supervisor in which
a call writes while the files are as it remembers them and repairs touch only requests that
wait, one operation is in flight at every moment and both files name it while it is queued. -/
theorem one_operation {es : List ControlPlaneEvent}
    (hes : Along (step (rememberingCalls parseDate) supervise)
      (Guard (SummaryGuard parseDate) (WriteGuard parseDate) (fun _ _ => True))
      (Config.idle {}) es) :
    ∀ es₁ es₂, es = es₁ ++ es₂ →
      OneOperation (run (controlPlaneStep parseDate) (Config.idle {}) es₁).world
        (acceptedBy (run (controlPlaneStep parseDate) (Config.idle {}) es₁)) := by
  rintro es₁ es₂ rfl
  have hinv := inv_run operationInv_step operationInv_idle (along_append.mp hes).1
  have hforget : (run (step (rememberingCalls parseDate) supervise)
      (Config.idle {} : RememberingConfig) es₁).forget
        = run (controlPlaneStep parseDate) (Config.idle {}) es₁ :=
    forget_run (Config.idle {} : RememberingConfig) es₁
  rw [← hforget]
  exact hinv.files.oneOperation

/-- An installer-managed deployment with a newer release in the feed. -/
def newerRelease (requestId : Uuid) : ControlPlaneInput where
  deploymentMode := some "installer_managed"
  currentRelease := some { version := "1.0.0", releaseId := "release-current" }
  latestRelease := some { version := "1.0.1", releaseId := "release-next" }
  requestId

/-- What the supervisor writes at the end of the download. -/
def downloaded : PlatformUpdateState where
  operation := .download
  status := .completed
  requestedAt := "1970-01-01T00:00:00.000Z"
  updatedAt := "1970-01-01T00:05:00.000Z"
  startedAt := some "1970-01-01T00:01:00.000Z"
  completedAt := some "1970-01-01T00:05:00.000Z"
  requestedByUserId := none
  requestedByEmailSnapshot := none
  currentRelease := some { version := "1.0.0", releaseId := "release-current" }
  targetRelease := some { version := "1.0.1", releaseId := "release-next" }
  preparedRelease := some { version := "1.0.1", releaseId := "release-next" }
  previousRelease := none
  message := none
  error := none
  rollbackStatus := none
  auditLoggedAt := none

/-- A release is downloaded, while a second download is refused; the end is audited, and the
release is applied. -/
def downloadThenApply : List ControlPlaneEvent :=
  [.invoke 0 (.queueDownload {}) (newerRelease "a"), .resume 0 (newerRelease "a"),
    .resume 0 (newerRelease "a"), .resume 0 (newerRelease "a"), .env .take,
    .invoke 1 (.queueDownload {}) (newerRelease "b"), .resume 0 (newerRelease "a"),
    .env (.progress { downloaded with status := .downloading }), .resume 1 (newerRelease "b"),
    .resume 1 (newerRelease "b"), .env (.progress downloaded),
    .invoke 1 .reconcileTerminalAuditState {}, .resume 1 {},
    .invoke 2 (.queueApply {}) (newerRelease "c"), .resume 2 (newerRelease "c"),
    .resume 2 (newerRelease "c"), .resume 2 (newerRelease "c"), .resume 2 (newerRelease "c"),
    .env .take]

theorem one_operation_applied :
    OneOperation
      (run (controlPlaneStep fun _ => none) (Config.idle {}) downloadThenApply).world
      (acceptedBy (run (controlPlaneStep fun _ => none) (Config.idle {}) downloadThenApply)) :=
  one_operation (by decide +kernel) downloadThenApply [] (List.append_nil _).symm

/-! ## Two downloads at once -/

/-- Two operators queue a download, and both compute their summaries before either writes. -/
def simultaneousDownloads : List ControlPlaneEvent :=
  [.invoke 0 (.queueDownload {}) (newerRelease "a"),
    .invoke 1 (.queueDownload {}) (newerRelease "b"),
    .resume 0 (newerRelease "a"), .resume 1 (newerRelease "b"),
    .resume 0 (newerRelease "a"), .resume 0 (newerRelease "a"),
    .resume 1 (newerRelease "b")]

/-- **The second download is accepted** while the request of the first one waits. -/
theorem simultaneousDownloads_accepted : ¬ ∀ es₁ es₂, simultaneousDownloads = es₁ ++ es₂ →
    OneOperation (run (controlPlaneStep fun _ => none) (Config.idle {}) es₁).world
      (acceptedBy (run (controlPlaneStep fun _ => none) (Config.idle {}) es₁)) := by
  intro h
  have hlast := h simultaneousDownloads [] (List.append_nil _).symm
  obtain ⟨r, hr⟩ : ∃ r, acceptedBy (run (controlPlaneStep fun _ => none) (Config.idle {})
      simultaneousDownloads) 1 = some r := Option.isSome_iff_exists.mp (by decide +kernel)
  have hwaits : (run (controlPlaneStep fun _ => none) (Config.idle {})
      simultaneousDownloads).world.request.isSome = true := by decide +kernel
  rw [(hlast.accepted_alone hr).1] at hwaits
  exact absurd hwaits (by simp)

end ControlPlaneUpdatesService
