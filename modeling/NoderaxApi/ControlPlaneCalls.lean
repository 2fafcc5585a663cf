/-
# Control-plane updates, step by step

The operations of `ControlPlaneUpdatesService`, cut where they wait and where they write a
file.  What `queueDownload` and `queueApply` check is the summary they have computed before;
what they write are the two files as they are then, one after the other.  The supervisor of
the host takes the request file and writes the progress of the operation.
-/
import NoderaxApi.ControlPlaneUpdates
import NoderaxApi.Ownership

open Runs Interleaving

namespace ControlPlaneUpdatesService

/-! ## The world -/

/-- An entry of the audit log. -/
structure ControlPlaneAudit where
  action : String
  targetId : Option String
  targetLabel : Option String
  metadata : List (String × Option String)
  actorUserId : Option Uuid
  actorEmailSnapshot : Option String
  deriving DecidableEq, Repr

/-- The two files, the audit log, and what the supervisor is at work on.  `unaudited` is the
state file as it would be without `reconcileTerminalAuditState`: what everything else has
written to it last. -/
structure ControlPlaneWorld where
  state : Option PlatformUpdateState := none
  request : Option PlatformUpdateRequestState := none
  supervisor : Option PlatformUpdateRequestState := none
  auditLog : List ControlPlaneAudit := []
  unaudited : Option PlatformUpdateState := none

/-- `writePlatformUpdateState` or `clearPlatformUpdateState`. -/
def ControlPlaneWorld.setState (w : ControlPlaneWorld) (state : Option PlatformUpdateState) :
    ControlPlaneWorld :=
  { w with state, unaudited := state }

/-- What a call is for. -/
inductive ControlPlaneRequest
  | getSummary
  | queueDownload (context : RequestAuditContext)
  | queueApply (context : RequestAuditContext)
  | reconcileTerminalAuditState
  deriving DecidableEq

/-- What follows the summary. -/
inductive SummaryUse
  | answer
  | download (context : RequestAuditContext)
  | apply (context : RequestAuditContext)
  deriving DecidableEq

/-- A call, at the `await` where it waits or before the file it writes next. -/
inductive ControlPlaneCall
  /-- `getLatestRelease`; both files have been read. -/
  | lookingUp (use : SummaryUse) (deploymentMode : Option String)
      (currentRelease : Option PlatformRelease) (state : Option PlatformUpdateState)
      (request : Option PlatformUpdateRequestState)
  /-- `hydrateRelease` -/
  | hydrating (use : SummaryUse) (summary : ControlPlaneSummary)
  /-- `findActiveRollout` -/
  | findingRollout (context : RequestAuditContext) (summary : ControlPlaneSummary)
      (target : PlatformRelease)
  /-- The state file has been written and the request file has not. -/
  | accepted (request : PlatformUpdateRequestState) (target : PlatformRelease)
  /-- `auditLogsService.record` of the request -/
  | recording (request : PlatformUpdateRequestState) (target : PlatformRelease)
  /-- `auditLogsService.record` of an operation that is over, with the state file as read. -/
  | auditing (state : PlatformUpdateState)

/-- What a step finds outside the two files. -/
structure ControlPlaneInput where
  now : ℤ := 0
  deploymentMode : Option String := none
  currentRelease : Option PlatformRelease := none
  latestRelease : Option PlatformRelease := none
  releaseCheckedAt : Option ℤ := none
  manifest : PlatformRelease → Option PlatformRelease := fun _ => none
  /-- `readInstallTransitionState()` -/
  promoting : Bool := false
  /-- The target version of the rollout that `findActiveRollout` finds. -/
  activeRollout : Option String := none
  requestId : Uuid := ""
  recordError : Bool := false

/-- The result of a step. -/
abbrev ControlPlaneStep := ControlPlaneWorld × Option ControlPlaneCall

/-! ## Steps -/

/-- The audit entry of a request. -/
def requestedAudit (request : PlatformUpdateRequestState) (target : PlatformRelease) :
    ControlPlaneAudit where
  action := s!"control_plane_update.{request.operation.text}.requested"
  targetId := some target.releaseId
  targetLabel := some target.version
  metadata := [("releaseId", some target.releaseId), ("version", some target.version)]
  actorUserId := request.requestedByUserId
  actorEmailSnapshot := request.requestedByEmailSnapshot

/-- The audit entry of an operation that is over. -/
def terminalAudit (state : PlatformUpdateState) : ControlPlaneAudit where
  action := if state.status = .completed then "control_plane_update.completed"
    else "control_plane_update.failed"
  targetId := state.targetReleaseId
  targetLabel := state.targetRelease.map (·.version)
  metadata := [("operation", some state.operation.text), ("status", some state.status.text),
    ("message", state.message), ("error", state.error),
    ("rollbackStatus", state.rollbackStatus.map RollbackStatus.text),
    ("currentReleaseId", state.currentRelease.map (·.releaseId)),
    ("targetReleaseId", state.targetReleaseId)]
  actorUserId := state.requestedByUserId
  actorEmailSnapshot := state.requestedByEmailSnapshot

section Steps

variable (parseDate : String → Option ℤ)

/-- The two files after the repairs of `getSummary`. -/
def reconciledFiles (input : ControlPlaneInput) (w : ControlPlaneWorld) :
    Option PlatformUpdateState × Option PlatformUpdateRequestState :=
  let noOp := reconcileStaleNoopApplyState (input.currentRelease.map (·.releaseId)) w.state
    w.request
  reconcileStaleActiveApplyState parseDate input.now input.currentRelease noOp.1 noOp.2

/-- The world with its files repaired. -/
def repaired (input : ControlPlaneInput) (w : ControlPlaneWorld) : ControlPlaneWorld :=
  let files := reconciledFiles parseDate input w
  { w with
    state := files.1
    request := files.2
    unaudited := if files.1 = w.state then w.unaudited else files.1 }

/-- `getSummary` up to the lookup of the latest release. -/
def startSummary (use : SummaryUse) (input : ControlPlaneInput) (w : ControlPlaneWorld) :
    ControlPlaneStep :=
  let w' := repaired parseDate input w
  (w', some (.lookingUp use input.deploymentMode input.currentRelease w'.state w'.request))

/-- The state file of an operation that has passed its checks is written. -/
def acceptOperation (operation : PlatformUpdateOperation) (summary : ControlPlaneSummary)
    (target : PlatformRelease) (context : RequestAuditContext) (input : ControlPlaneInput)
    (w : ControlPlaneWorld) : ControlPlaneStep :=
  (w.setState (some (queuedState operation summary target context input.now)),
    some (.accepted (queuedRequest input.requestId operation target context input.now) target))

/-- The first step of a call. -/
def invokeControlPlane (request : ControlPlaneRequest) (input : ControlPlaneInput)
    (w : ControlPlaneWorld) : ControlPlaneStep :=
  match request with
  | .getSummary => startSummary parseDate .answer input w
  | .queueDownload context => startSummary parseDate (.download context) input w
  | .queueApply context => startSummary parseDate (.apply context) input w
  | .reconcileTerminalAuditState =>
      match w.state with
      | none => (w, none)
      | some state =>
          if state.auditLoggedAt.isSome ∨ state.status.isTerminal = false then (w, none)
          else (w, some (.auditing state))

/-- The next step of a pending call. -/
def resumeControlPlane (call : ControlPlaneCall) (input : ControlPlaneInput)
    (w : ControlPlaneWorld) : ControlPlaneStep :=
  match call with
  | .lookingUp use deploymentMode currentRelease state request =>
      (w, some (.hydrating use (summarize deploymentMode currentRelease state request
        input.latestRelease input.releaseCheckedAt)))
  | .hydrating use summary =>
      let summary := summary.hydrate input.manifest
      match use with
      | .answer => (w, none)
      | .download context =>
          match checkDownload summary with
          | .error _ => (w, none)
          | .ok target => acceptOperation .download summary target context input w
      | .apply context =>
          match checkApply summary input.promoting with
          | .error _ => (w, none)
          | .ok target => (w, some (.findingRollout context summary target))
  | .findingRollout context summary target =>
      match assertNoActiveRollout input.activeRollout with
      | .error _ => (w, none)
      | .ok () => acceptOperation .apply summary target context input w
  | .accepted request target =>
      ({ w with request := some request }, some (.recording request target))
  | .recording request target =>
      if input.recordError then (w, none)
      else
        -- the answer is the summary after the request
        startSummary parseDate .answer input
          { w with auditLog := requestedAudit request target :: w.auditLog }
  | .auditing state =>
      if input.recordError then (w, none)
      else
        -- the whole file, as it was read before the audit entry
        ({ w with
            state := some { state with
              updatedAt := toISOString input.now
              auditLoggedAt := some (toISOString input.now) }
            auditLog := terminalAudit state :: w.auditLog }, none)

/-- The calls of `ControlPlaneUpdatesService`. -/
def controlPlaneCalls : Calls ControlPlaneWorld ControlPlaneRequest ControlPlaneCall
    ControlPlaneInput :=
  ⟨invokeControlPlane parseDate, resumeControlPlane parseDate⟩

end Steps

/-! ## The supervisor -/

/-- What the supervisor does: it takes the request, and it writes the state file. -/
inductive SupervisorEvent
  | take
  | progress (state : PlatformUpdateState)

/-- What the supervisor may write: the operation it is at work on, in a status that is
active or ends it. -/
def IsProgressOf (request : PlatformUpdateRequestState) (state : PlatformUpdateState) : Prop :=
  state.operation = request.operation ∧ state.targetReleaseId = request.targetReleaseId ∧
    (state.status.isConcurrent = true ∨ state.status.isTerminal = true)

instance (request : PlatformUpdateRequestState) (state : PlatformUpdateState) :
    Decidable (IsProgressOf request state) := by
  unfold IsProgressOf; infer_instance

/-- A step of the supervisor, which is at work on one operation at a time. -/
def supervise (e : SupervisorEvent) (w : ControlPlaneWorld) : ControlPlaneWorld :=
  match e, w.supervisor, w.request with
  | .take, none, some request => { w with request := none, supervisor := some request }
  | .progress state, some request, _ =>
      if IsProgressOf request state then
        { w.setState (some state) with
          supervisor := if state.status.isTerminal then none else some request }
      else w
  | _, _, _ => w

abbrev ControlPlaneConfig := Config ℕ ControlPlaneWorld ControlPlaneCall

abbrev ControlPlaneEvent := Event ℕ ControlPlaneRequest ControlPlaneInput SupervisorEvent

/-- One event. -/
def controlPlaneStep (parseDate : String → Option ℤ) :
    ControlPlaneConfig → ControlPlaneEvent → ControlPlaneConfig :=
  step (controlPlaneCalls parseDate) supervise

/-! ## What a step can do -/

/-- The operation that a call has accepted and whose request it has not yet written. -/
def ControlPlaneCall.accepted? : ControlPlaneCall → Option PlatformUpdateRequestState
  | .accepted request _ => some request
  | _ => none

/-- The state file that a call will write back with its audit stamp. -/
def ControlPlaneCall.audited? : ControlPlaneCall → Option PlatformUpdateState
  | .auditing state => some state
  | _ => none

/-- What a step does to the files. -/
inductive StepKind
  | waits
  | repairs
  | accepts (operation : PlatformUpdateOperation)
  | requests
  | audits
  deriving DecidableEq

/-- What the next step of a call does to the files, by its input. -/
def ControlPlaneCall.kind : ControlPlaneCall → ControlPlaneInput → StepKind
  | .hydrating (.download _) summary, input =>
      if (checkDownload (summary.hydrate input.manifest)).isOk then .accepts .download else .waits
  | .findingRollout _ _ _, input => if input.activeRollout.isNone then .accepts .apply else .waits
  | .accepted _ _, _ => .requests
  | .recording _ _, input => if input.recordError then .waits else .repairs
  | .auditing _, input => if input.recordError then .waits else .audits
  | _, _ => .waits

section Moves

variable (parseDate : String → Option ℤ) (w : ControlPlaneWorld)

/-- What a step may do, by its kind. -/
inductive ControlPlaneMove (parseDate : String → Option ℤ) (w : ControlPlaneWorld) :
    Option ControlPlaneCall → StepKind → ControlPlaneStep → Prop
  | waits {call next : Option ControlPlaneCall} (hcall : call.bind (·.accepted?) = none)
      (hnext : next.bind (·.accepted?) = none)
      (haudit : ∀ state, next.bind (·.audited?) = some state →
        w.state = some state ∧ state.status.isTerminal = true) :
      ControlPlaneMove parseDate w call .waits (w, next)
  | repairs {call : Option ControlPlaneCall} (hcall : call.bind (·.accepted?) = none)
      (use : SummaryUse) (input : ControlPlaneInput) (auditLog : List ControlPlaneAudit) :
      ControlPlaneMove parseDate w call .repairs
        (startSummary parseDate use input { w with auditLog })
  | accepts {call : Option ControlPlaneCall} (hcall : call.bind (·.accepted?) = none)
      (operation : PlatformUpdateOperation) (summary : ControlPlaneSummary)
      (target : PlatformRelease) (context : RequestAuditContext) (input : ControlPlaneInput) :
      ControlPlaneMove parseDate w call (.accepts operation)
        (acceptOperation operation summary target context input w)
  | requests (request : PlatformUpdateRequestState) (target : PlatformRelease) :
      ControlPlaneMove parseDate w (some (.accepted request target)) .requests
        ({ w with request := some request }, some (.recording request target))
  | audits (state : PlatformUpdateState) (now : ℤ) (auditLog : List ControlPlaneAudit) :
      ControlPlaneMove parseDate w (some (.auditing state)) .audits
        ({ w with
            state := some { state with
              updatedAt := toISOString now
              auditLoggedAt := some (toISOString now) }
            auditLog }, none)

/-- A call begins with the repairs of its summary, or with the read of the audit. -/
theorem invoke_move (request : ControlPlaneRequest) (input : ControlPlaneInput) :
    ∃ kind, (kind = .waits ∨ kind = .repairs) ∧
      ControlPlaneMove parseDate w none kind (invokeControlPlane parseDate request input w) := by
  cases request with
  | getSummary => exact ⟨.repairs, .inr rfl, .repairs rfl .answer input w.auditLog⟩
  | queueDownload context =>
      exact ⟨.repairs, .inr rfl, .repairs rfl (.download context) input w.auditLog⟩
  | queueApply context =>
      exact ⟨.repairs, .inr rfl, .repairs rfl (.apply context) input w.auditLog⟩
  | reconcileTerminalAuditState =>
      refine ⟨.waits, .inl rfl, ?_⟩
      simp only [invokeControlPlane]
      cases hstate : w.state with
      | none => exact .waits rfl rfl (by simp)
      | some state =>
          simp only
          split
          · exact .waits rfl rfl (by simp)
          next hopen =>
              refine .waits rfl rfl fun read hread => ?_
              obtain rfl : state = read := Option.some.inj hread
              push Not at hopen
              exact ⟨hstate, by simpa using hopen.2⟩

/-- Each later step does what its kind says. -/
theorem resume_move (call : ControlPlaneCall) (input : ControlPlaneInput) :
    ControlPlaneMove parseDate w (some call) (call.kind input)
      (resumeControlPlane parseDate call input w) := by
  cases call with
  | lookingUp use deploymentMode currentRelease state request =>
      exact .waits rfl rfl (by simp [ControlPlaneCall.audited?])
  | hydrating use summary =>
      cases use with
      | answer => exact .waits rfl rfl (by simp)
      | download context =>
          simp only [resumeControlPlane, ControlPlaneCall.kind]
          cases checkDownload (summary.hydrate input.manifest) with
          | error e => exact .waits rfl rfl (by simp)
          | ok target => exact .accepts rfl .download _ target context input
      | apply context =>
          simp only [resumeControlPlane, ControlPlaneCall.kind]
          cases checkApply (summary.hydrate input.manifest) input.promoting with
          | error e => exact .waits rfl rfl (by simp)
          | ok target => exact .waits rfl rfl (by simp [ControlPlaneCall.audited?])
  | findingRollout context summary target =>
      simp only [resumeControlPlane, ControlPlaneCall.kind]
      cases input.activeRollout with
      | some version => exact .waits rfl rfl (by simp)
      | none => exact .accepts rfl .apply summary target context input
  | accepted request target => exact .requests request target
  | recording request target =>
      simp only [resumeControlPlane, ControlPlaneCall.kind]
      split
      · exact .waits rfl rfl (by simp)
      · exact .repairs rfl .answer input _
  | auditing state =>
      simp only [resumeControlPlane, ControlPlaneCall.kind]
      split
      · exact .waits rfl rfl (by simp)
      · exact .audits state input.now _

end Moves

end ControlPlaneUpdatesService
