/-
# Control-plane applies and agent rollouts

`createRollout` looks for an apply in the state file before it looks at the rollouts, and
`queueApply` looks for a rollout before it writes the state file; each writes to its own store
later.

No apply is in flight while a rollout is open in every run in which what each service has read
of the other's store still holds when it writes to its own, besides what keeps each store in
order by itself.
-/
import NoderaxApi.ControlPlaneOperations
import NoderaxApi.AgentUpdateCopies

open Runs Interleaving KeyedTable ControlPlaneUpdatesService AgentUpdatesService

namespace RolloutExclusion

/-! ## Both services -/

structure PlatformWorld where
  controlPlane : ControlPlaneWorld := {}
  updates : AgentUpdatesWorld := {}

/-- `assertControlPlaneApplyIsIdle`. -/
def assertControlPlaneApplyIsIdle : Option PlatformUpdateState → Except HttpError Unit
  | none => .ok ()
  | some updateState =>
      if updateState.operation = .apply && updateState.status.isApplying then
        .error (.conflict ("A control-plane apply is already in progress. Wait for the platform " ++
          "update to finish before starting an agent rollout."))
      else .ok ()

/-- `findActiveRollout`: the target version of the latest open rollout. -/
def findActiveRollout (w : AgentUpdatesWorld) : Option String :=
  (w.rollouts.rows.reverse.find? fun rollout => rollout.status.isOpen).map (·.targetVersion)

inductive PlatformRequest
  | controlPlane (request : ControlPlaneRequest)
  | updates (request : UpdateRequest)

/-- A pending call of either service. -/
inductive PlatformCall
  | controlPlane (call : ControlPlaneCall)
  | updates (call : PendingUpdateCall)
  /-- `createRollout` has found no apply, and counts the open rollouts next. -/
  | applyIdle (nodeIds : List String) (rollback : Bool)
  /-- `queueApply` has the answer of `findActiveRollout`. -/
  | rolloutFound (context : RequestAuditContext) (summary : ControlPlaneSummary)
      (target : PlatformRelease) (activeRollout : Option String)

structure PlatformInput where
  controlPlane : ControlPlaneInput := {}
  updates : UpdateInput := {}

inductive PlatformEnv
  | supervisor (e : SupervisorEvent)
  | nodes (e : UpdateEnv)

/-- A step of `ControlPlaneUpdatesService`. -/
def ofControlPlane (w : PlatformWorld) (next : ControlPlaneStep) :
    PlatformWorld × Option PlatformCall :=
  ({ w with controlPlane := next.1 }, next.2.map .controlPlane)

/-- A step of `AgentUpdatesService`. -/
def ofUpdates (w : PlatformWorld) (next : UpdateStep) : PlatformWorld × Option PlatformCall :=
  ({ w with updates := next.1 }, next.2.map .updates)

section Calls

variable (parseDate : String → Option ℤ)

def invokePlatform (request : PlatformRequest) (input : PlatformInput) (w : PlatformWorld) :
    PlatformWorld × Option PlatformCall :=
  match request with
  | .controlPlane request =>
      ofControlPlane w (invokeControlPlane parseDate request input.controlPlane w.controlPlane)
  | .updates (.createRollout nodeIds rollback) =>
      match assertControlPlaneApplyIsIdle w.controlPlane.state with
      | .error _ => (w, none)
      | .ok () => (w, some (.applyIdle nodeIds rollback))
  | .updates request => ofUpdates w (invokeUpdate request input.updates w.updates)

def resumePlatform (call : PlatformCall) (input : PlatformInput) (w : PlatformWorld) :
    PlatformWorld × Option PlatformCall :=
  match call with
  | .controlPlane (.findingRollout context summary target) =>
      (w, some (.rolloutFound context summary target (findActiveRollout w.updates)))
  | .controlPlane call =>
      ofControlPlane w (resumeControlPlane parseDate call input.controlPlane w.controlPlane)
  | .updates call => ofUpdates w (resumeUpdate call input.updates w.updates)
  | .applyIdle nodeIds rollback =>
      ofUpdates w (invokeUpdate (.createRollout nodeIds rollback)
        { input.updates with controlPlaneBusy := false } w.updates)
  | .rolloutFound context summary target activeRollout =>
      ofControlPlane w (resumeControlPlane parseDate (.findingRollout context summary target)
        { input.controlPlane with activeRollout } w.controlPlane)

/-- The calls of both services. -/
def platformCalls : Calls PlatformWorld PlatformRequest PlatformCall PlatformInput :=
  ⟨invokePlatform parseDate, resumePlatform parseDate⟩

/-- The supervisor, and what happens to the nodes. -/
def platformEnv : PlatformEnv → PlatformWorld → PlatformWorld
  | .supervisor e, w => { w with controlPlane := supervise e w.controlPlane }
  | .nodes e, w => { w with updates := updateEnv e w.updates }

abbrev PlatformConfig := Config ℕ PlatformWorld PlatformCall

abbrev PlatformEvent := Event ℕ PlatformRequest PlatformInput PlatformEnv

def platformStep : PlatformConfig → PlatformEvent → PlatformConfig :=
  step (platformCalls parseDate) platformEnv

end Calls

/-! ## What is claimed -/

/-- The operation that a call has accepted and not yet requested. -/
def PlatformCall.accepted? : PlatformCall → Option PlatformUpdateRequestState
  | .controlPlane call => call.accepted?
  | _ => none

def acceptedIn (c : PlatformConfig) (p : ℕ) : Option PlatformUpdateRequestState :=
  (c.pending p).bind (·.accepted?)

/-- A control-plane apply has been accepted and is not over. -/
def ApplyInFlight (w : PlatformWorld) (accepted : ℕ → Option PlatformUpdateRequestState) : Prop :=
  ∃ r, InFlight w.controlPlane accepted r ∧ r.operation = .apply

/-- **Applies and rollouts exclude each other.** -/
def Exclusive (w : PlatformWorld) (accepted : ℕ → Option PlatformUpdateRequestState) : Prop :=
  ApplyInFlight w accepted → openCount w.updates = 0

/-! ## The condition -/

section Memory

variable (parseDate : String → Option ℤ)

/-- The files of the control plane as the first step of a call reads them; of the operations on
rollouts only a creation reads any. -/
def readFirst (request : PlatformRequest) (input : PlatformInput) (w : PlatformWorld) :
    UpdateFiles :=
  match request with
  | .controlPlane request => filesFirst parseDate request input.controlPlane w.controlPlane
  | .updates (.createRollout ..) => w.controlPlane.files
  | .updates _ => (none, none)

/-- The files as a call has last read or written them. -/
def readLast (files : UpdateFiles) (call : PlatformCall) (input : PlatformInput)
    (w : PlatformWorld) : UpdateFiles :=
  match call with
  | .controlPlane (.findingRollout ..) | .updates _ | .applyIdle .. => files
  | .controlPlane call => filesLast parseDate files call input.controlPlane w.controlPlane
  | .rolloutFound context summary target activeRollout =>
      filesLast parseDate files (.findingRollout context summary target)
        { input.controlPlane with activeRollout } w.controlPlane

/-- The calls of both services, each with the files it remembers. -/
def readingCalls : Calls PlatformWorld PlatformRequest (PlatformCall × UpdateFiles) PlatformInput :=
  (platformCalls parseDate).remembering (readFirst parseDate) (readLast parseDate)

/-- The first step of a call of the control plane repairs only requests that wait. -/
def StartGuard (w : PlatformWorld) : PlatformRequest → PlatformInput → Prop
  | .controlPlane request, input =>
      SummaryGuard parseDate w.controlPlane request input.controlPlane
  | .updates _, _ => True

/-- **What was read of the other store still holds** when a rollout is inserted or an apply
accepted, and what a call carries of its own store is current. -/
def StoresCurrent (w : PlatformWorld) : PlatformCall × UpdateFiles → PlatformInput → Prop
  | (.controlPlane (.findingRollout ..), _), _ | (.applyIdle .., _), _ => True
  | (.controlPlane call, files), input =>
      WriteGuard parseDate w.controlPlane (call, files) input.controlPlane
  | (.rolloutFound context summary target activeRollout, files), input =>
      WriteGuard parseDate w.controlPlane (.findingRollout context summary target, files)
          { input.controlPlane with activeRollout } ∧
        findActiveRollout w.updates = activeRollout
  | (.updates (.createNodes _ _ [] _), files), _ => w.controlPlane.state = files.1
  | (.updates call, _), input => CopiesCurrent w.updates call input.updates

/-- The supervisor writes an apply in progress with a status that
`assertControlPlaneApplyIsIdle` lists. -/
def AppliesListed (_ : PlatformWorld) : PlatformEnv → Prop
  | .supervisor (.progress state) => state.operation = .apply → state.status.isConcurrent = true →
      state.status.isApplying = true
  | _ => True

instance (w : PlatformWorld) (request : PlatformRequest) (input : PlatformInput) :
    Decidable (StartGuard parseDate w request input) := by
  unfold StartGuard
  split <;> infer_instance

instance (w : PlatformWorld) (call : PlatformCall × UpdateFiles) (input : PlatformInput) :
    Decidable (StoresCurrent parseDate w call input) := by
  unfold StoresCurrent
  split <;> infer_instance

instance (w : PlatformWorld) (e : PlatformEnv) : Decidable (AppliesListed w e) := by
  unfold AppliesListed
  split <;> infer_instance

end Memory

/-- The rollout whose row a step of a call writes, with the status. -/
def statusWritten : PendingUpdateCall → UpdateInput → Option (Uuid × AgentUpdateRolloutStatus)
  | .createStart rollout _, input =>
      if input.recordError then none else some (rollout.id, .running)
  | .startRollout rollout _, _ | .dispatchRunning rollout _ _, _ => some (rollout.id, .running)
  | .pauseRollout rollout _ _, _ => some (rollout.id, .paused)
  | .dispatchComplete rollout _, _ => some (rollout.id, .completed)
  | .cancelSave rollout _, _ => some (rollout.id, .cancelled)
  | .progressMessage rollout _ _, _ => some (rollout.id, rollout.status)
  | _, _ => none

/-! ## Which steps open a rollout -/

section Rollouts

variable {w : AgentUpdatesWorld}

/-- What a step of a call writes to the rollouts. -/
inductive RolloutsAfter (w : AgentUpdatesWorld) (input : UpdateInput) :
    PendingUpdateCall → AgentUpdatesWorld → Prop
  | kept {call w'} (hsame : w'.rollouts = w.rollouts) (hcall : statusWritten call input = none)
      (hinsert : ∀ version rollback nodes, call ≠ .createNodes version rollback [] nodes) :
      RolloutsAfter w input call w'
  | saved {call} (copy : AgentUpdateRolloutEntity)
      (hcall : statusWritten call input = some (copy.id, copy.status)) :
      RolloutsAfter w input call (saveRollout copy w)
  | inserted (version : String) (rollback : Bool) (nodes : List UpdatableNode) :
      RolloutsAfter w input (.createNodes version rollback [] nodes)
        (createNodesStep version rollback [] nodes input w).1

/-- Each step writes at most one rollout. -/
theorem resumeUpdate_rollouts (call : PendingUpdateCall) (input : UpdateInput)
    (w : AgentUpdatesWorld) : RolloutsAfter w input call (resumeUpdate call input w).1 := by
  cases call with
  | createNodes version rollback nodeIds nodes =>
      cases nodeIds with
      | nil => exact .inserted version rollback nodes
      | cons nodeId rest =>
          refine .kept ?_ rfl (by simp)
          simp only [resumeUpdate, createNodesStep]
          split <;> rfl
  | createStart rollout count =>
      simp only [resumeUpdate]
      split
      next hrecord => exact .kept rfl (by simp [statusWritten, hrecord]) (by simp)
      next hrecord => exact .saved _ (by simp [statusWritten, hrecord, withStatus])
  | startRollout rollout message => exact .saved _ rfl
  | dispatchRunning rollout node loop => exact .saved _ rfl
  | pauseRollout rollout message loop => exact .saved _ rfl
  | dispatchComplete rollout loop => exact .saved _ rfl
  | cancelSave rollout cancelledAt => exact .saved _ rfl
  | progressMessage rollout target dto => exact .saved _ rfl
  -- the other steps write targets or tasks, or only read
  | dispatchSave | pauseTarget | saveRetried | saveSkipped | cancelFind | reconcileTasks
  | observeSave | progressSave => exact .kept rfl rfl (by simp)
  | dispatchCount | dispatchNext | dispatchNode | resumeCount | startDispatch | observeRollout
  | observeDispatch =>
      refine .kept ?_ rfl (by simp)
      simp only [resumeUpdate]
      split <;> rfl
  | createTargets rollout nodes =>
      refine .kept ?_ rfl (by simp)
      simp only [resumeUpdate, createTargetsStep]
      split <;> rfl
  | dispatch | progressRollout | progressNode =>
      refine .kept ?_ rfl (by simp)
      simp only [resumeUpdate]
      split
      · rfl
      · split <;> rfl
  | observe nodeId agentVersion loop =>
      refine .kept ?_ rfl (by simp)
      simp only [resumeUpdate]
      split
      · split <;> rfl
      · rfl
  | findFailed rollout targetId retry =>
      refine .kept ?_ rfl (by simp)
      simp only [resumeUpdate]
      split
      · rfl
      · split
        · rfl
        · split <;> rfl
  | dispatchTask rollout target node loop =>
      refine .kept ?_ rfl (by simp)
      simp only [resumeUpdate, dispatchTaskStep]
      split
      · rfl
      · rfl
      · split <;> rfl
  | cancelTargets cancelledAt remaining =>
      refine .kept ?_ rfl (by simp)
      cases remaining with
      | nil => rfl
      | cons target remaining =>
          simp only [resumeUpdate]
          split <;> rfl
  | reconcile loop =>
      refine .kept ?_ rfl (by simp)
      simp only [resumeUpdate, reconcileStep]
      split
      · rfl
      · split
        · rfl
        · split <;> rfl
  | reconcileRollout target loop =>
      refine .kept ?_ rfl (by simp)
      simp only [resumeUpdate, reconcileRolloutStep]
      split
      · rfl
      · split
        · rfl
        · split <;> rfl

/-- An open copy that is current is saved onto an open row. -/
theorem open_of_statusWritten {call : PendingUpdateCall} {input : UpdateInput} {id : Uuid}
    {status : AgentUpdateRolloutStatus} (hchecked : Checked w call)
    (hcurrent : CopiesCurrent w call input)
    (hwritten : statusWritten call input = some (id, status))
    (hopen : status.isOpen = true) {row : AgentUpdateRolloutEntity}
    (hrow : w.rollouts.get id = some row) : row.status.isOpen = true := by
  cases call with
  | createStart rollout count =>
      simp only [statusWritten] at hwritten
      split at hwritten
      · cases hwritten
      next hrecord =>
          obtain ⟨rfl, -⟩ := Prod.mk.inj (Option.some.inj hwritten)
          exact (hcurrent (Bool.eq_false_iff.mpr hrecord)).isOpen hchecked hrow
  | startRollout rollout message | dispatchRunning rollout node loop
  | pauseRollout rollout message loop =>
      obtain ⟨rfl, -⟩ := Prod.mk.inj (Option.some.inj hwritten)
      exact RolloutAsLoaded.isOpen hcurrent hchecked hrow
  | progressMessage rollout target dto =>
      obtain ⟨rfl, rfl⟩ := Prod.mk.inj (Option.some.inj hwritten)
      exact RolloutAsLoaded.isOpen hcurrent hopen hrow
  | dispatchComplete rollout loop | cancelSave rollout cancelledAt =>
      obtain ⟨-, rfl⟩ := Prod.mk.inj (Option.some.inj hwritten)
      cases hopen
  | _ => cases hwritten

/-- **No step opens a rollout** while none is open, but the insertion of one. -/
theorem openCount_resumeUpdate (h : openCount w = 0) {call : PendingUpdateCall}
    {input : UpdateInput} (hchecked : Checked w call) (hcurrent : CopiesCurrent w call input)
    (hinsert : ∀ version rollback nodes, call ≠ .createNodes version rollback [] nodes) :
    openCount (resumeUpdate call input w).1 = 0 := by
  have hafter := resumeUpdate_rollouts call input w
  generalize (resumeUpdate call input w).1 = w' at hafter ⊢
  cases hafter with
  | kept hsame _ _ =>
      rw [openCount, hsame]
      exact h
  | saved copy hwritten =>
      rw [openCount_eq_zero] at h ⊢
      intro rollout hmem
      simp only [saveRollout] at hmem
      rcases Table.mem_update hmem with ⟨hold, -⟩ | ⟨row, hrow, hid, rfl⟩
      · exact h rollout hold
      · by_contra hopen
        rw [Bool.not_eq_false] at hopen
        have hget : w.rollouts.get copy.id = some row := by
          rw [← of_decide_eq_true hid]
          exact Table.get_of_mem hrow
        have hrowOpen := open_of_statusWritten hchecked hcurrent hwritten hopen hget
        rw [h row hrow] at hrowOpen
        cases hrowOpen
  | inserted version rollback nodes => exact absurd rfl (hinsert version rollback nodes)

/-- `findActiveRollout` answers nothing exactly when no rollout is open. -/
theorem findActiveRollout_eq_none : findActiveRollout w = none ↔ openCount w = 0 := by
  simp [findActiveRollout, openCount_eq_zero]

end Rollouts

/-! ## Which steps accept an apply -/

section InFlight

variable {parseDate : String → Option ℤ} {w : ControlPlaneWorld}
  {accepted : ℕ → Option PlatformUpdateRequestState} {p : ℕ} {r : PlatformUpdateRequestState}

/-- An operation in flight after the call has let go of what it had accepted. -/
theorem inFlight_of_update_none {w' : ControlPlaneWorld}
    (h : InFlight w' (Function.update accepted p none) r)
    (hrequest : w'.request = some r → w.request = some r ∨ accepted p = some r)
    (hsupervisor : w'.supervisor = w.supervisor) : InFlight w accepted r := by
  rcases h with ⟨q, hq⟩ | hr | hr
  · have hqp : q ≠ p := by
      rintro rfl
      rw [Function.update_self] at hq
      exact absurd hq (by simp)
    exact .inl ⟨q, (Function.update_of_ne hqp _ _).symm.trans hq⟩
  · rcases hrequest hr with hr | hp
    · exact .inr (.inl hr)
    · exact .inl ⟨p, hp⟩
  · exact .inr (.inr (hsupervisor.symm.trans hr))

/-- **A step brings an operation into flight** only when it accepts it. -/
theorem inFlight_of_move {call : Option ControlPlaneCall} {kind : StepKind}
    {next : ControlPlaneStep} (hp : accepted p = call.bind (·.accepted?))
    (hmove : ControlPlaneMove parseDate w call kind next)
    (h : InFlight next.1 (Function.update accepted p (next.2.bind (·.accepted?))) r) :
    InFlight w accepted r ∨ kind = .accepts r.operation := by
  cases hmove with
  | waits hcall hnext _ =>
      rw [hnext] at h
      exact .inl (inFlight_of_update_none h .inl rfl)
  | repairs hcall use input auditLog =>
      have hrepaired := repaired_repaired parseDate input { w with auditLog }
      exact .inl (inFlight_of_update_none h (fun hr => .inl (hrepaired.request hr))
        hrepaired.supervisor)
  | accepts hcall operation summary target context input =>
      rcases h with ⟨q, hq⟩ | hr | hr
      · by_cases hqp : q = p
        · rw [hqp, Function.update_self] at hq
          exact .inr (by rw [← Option.some.inj hq]; rfl)
        · exact .inl (.inl ⟨q, (Function.update_of_ne hqp _ _).symm.trans hq⟩)
      · exact .inl (.inr (.inl hr))
      · exact .inl (.inr (.inr hr))
  | requests request target =>
      exact .inl (inFlight_of_update_none h (fun hr => .inr (hp.trans hr)) rfl)
  | audits state now auditLog => exact .inl (inFlight_of_update_none h .inl rfl)

/-- Only the answer of `findActiveRollout` lets an apply be accepted. -/
theorem findingRollout_of_kind {call : ControlPlaneCall} {input : ControlPlaneInput}
    (h : call.kind input = .accepts .apply) :
    ∃ context summary target, call = .findingRollout context summary target := by
  cases call with
  | findingRollout context summary target => exact ⟨context, summary, target, rfl⟩
  | hydrating use summary =>
      cases use with
      | download context =>
          simp only [ControlPlaneCall.kind] at h
          split at h <;> simp at h
      | answer | apply => simp [ControlPlaneCall.kind] at h
  | recording | auditing =>
      simp only [ControlPlaneCall.kind] at h
      split at h <;> simp at h
  | lookingUp | accepted => simp [ControlPlaneCall.kind] at h

/-- The supervisor brings nothing into flight. -/
theorem inFlight_of_supervise {e : SupervisorEvent} (h : InFlight (supervise e w) accepted r) :
    InFlight w accepted r := by
  rcases supervise_cases e w with ⟨request, -, hrequest, heq⟩ |
    ⟨request, state, hsupervisor, -, -, heq⟩ | heq
  · rw [heq] at h
    rcases h with ha | hr | hr
    · exact .inl ha
    · exact absurd hr (by simp)
    · exact .inr (.inl (hrequest.trans hr))
  · rw [heq] at h
    rcases h with ha | hr | hr
    · exact .inl ha
    · exact .inr (.inl hr)
    · refine .inr (.inr ?_)
      simp only at hr
      split at hr
      · exact absurd hr (by simp)
      · exact hsupervisor.trans hr
  · rw [heq] at h
    exact h

/-! ## An apply in progress shows in the state file -/

/-- The state file shows an apply in progress with a status that
`assertControlPlaneApplyIsIdle` lists. -/
def AppliesShown (w : ControlPlaneWorld) : Prop :=
  ∀ row, w.state = some row → row.operation = .apply → row.status.isConcurrent = true →
    row.status.isApplying = true

/-- A file whose operation is over shows nothing. -/
theorem appliesShown_ended {row : PlatformUpdateState} (hterminal : row.status.isTerminal = true) :
    row.operation = .apply → row.status.isConcurrent = true → row.status.isApplying = true := by
  intro _ hconcurrent
  rw [PlatformUpdateStatus.isConcurrent_of_isTerminal hterminal] at hconcurrent
  cases hconcurrent

/-- The steps of the calls show what they queue. -/
theorem appliesShown_move {call : Option ControlPlaneCall} {kind : StepKind}
    {next : ControlPlaneStep} (h : AppliesShown w)
    (haudited : ∀ state, call.bind (·.audited?) = some state → state.status.isTerminal = true)
    (hmove : ControlPlaneMove parseDate w call kind next) : AppliesShown next.1 := by
  cases hmove with
  | waits => exact h
  | repairs hcall use input auditLog =>
      intro row hrow
      have hrepaired := repaired_repaired parseDate input { w with auditLog }
      rcases hrepaired.state hrow with hbefore | hterminal
      · exact h row hbefore
      · exact appliesShown_ended hterminal
  | accepts hcall operation summary target context input =>
      intro row hrow _ _
      obtain rfl := Option.some.inj hrow
      rfl
  | requests request target => exact h
  | audits state now auditLog =>
      intro row hrow
      obtain rfl := Option.some.inj hrow
      exact appliesShown_ended (haudited state rfl)

theorem appliesShown_supervise {e : SupervisorEvent} (h : AppliesShown w)
    (hlisted : ∀ state, e = .progress state → state.operation = .apply →
      state.status.isConcurrent = true → state.status.isApplying = true) :
    AppliesShown (supervise e w) := by
  rcases supervise_cases e w with
    ⟨request, -, -, heq⟩ | ⟨request, state, -, hprogress, -, heq⟩ | heq
  · rw [heq]
    exact h
  · rw [heq]
    intro row hrow
    obtain rfl := Option.some.inj hrow
    exact hlisted state hprogress
  · rw [heq]
    exact h

/-- **The check of `createRollout`** finds every apply in flight. -/
theorem not_idle_of_inFlight (hfiles : FilesInv w accepted) (hshown : AppliesShown w)
    (hflight : InFlight w accepted r) (happly : r.operation = .apply) :
    assertControlPlaneApplyIsIdle w.state ≠ .ok () := by
  obtain ⟨row, hrow, hconcurrent, hsame, -⟩ := hfiles.inFlight hflight
  rw [happly] at hsame
  have happlying := hshown row hrow hsame hconcurrent
  simp [assertControlPlaneApplyIsIdle, hrow, hsame, happlying]

end InFlight

/-! ## Every run -/

variable {parseDate : String → Option ℤ} {c : PlatformConfig} {p : ℕ}

/-- The operations accepted after one call moved. -/
theorem acceptedIn_update (w' : PlatformWorld) (next : Option PlatformCall) :
    acceptedIn ⟨w', Function.update c.pending p next⟩
      = Function.update (acceptedIn c) p (next.bind (·.accepted?)) := by
  funext q
  unfold acceptedIn
  by_cases hq : q = p
  · rw [hq]
    simp
  · simp [Function.update_of_ne hq]

/-- What a step of `ControlPlaneUpdatesService` has accepted. -/
theorem accepted_ofControlPlane (w : PlatformWorld) (next : ControlPlaneStep) :
    (ofControlPlane w next).2.bind (·.accepted?) = next.2.bind (·.accepted?) := by
  simp only [ofControlPlane]
  cases next.2 <;> rfl

/-- A step of `AgentUpdatesService` accepts nothing. -/
theorem accepted_ofUpdates (w : PlatformWorld) (next : UpdateStep) :
    (ofUpdates w next).2.bind (·.accepted?) = none := by
  simp only [ofUpdates]
  cases next.2 <;> rfl

/-- What a call has found out: what its own service says, and that no apply was shown in the
files as a creation has read them. -/
def Found (w : PlatformWorld) : PlatformCall × UpdateFiles → Prop
  | (.controlPlane call, files) => FilesRead (call, files)
  | (.rolloutFound context summary target _, files) =>
      FilesRead (.findingRollout context summary target, files)
  | (.applyIdle .., files) => assertControlPlaneApplyIsIdle files.1 = .ok ()
  | (.updates call, files) => Checked w.updates call ∧
      assertControlPlaneApplyIsIdle files.1 = .ok ()

/-- What holds at every point of a run. -/
structure PlatformInv (w : PlatformWorld) (accepted : ℕ → Option PlatformUpdateRequestState) :
    Prop where
  files : FilesInv w.controlPlane accepted
  shown : AppliesShown w.controlPlane
  exclusive : Exclusive w accepted

section Steps

variable {w : PlatformWorld} {accepted : ℕ → Option PlatformUpdateRequestState}
  {files : UpdateFiles} {input : PlatformInput}

/-- A step of `ControlPlaneUpdatesService` that accepts no apply while a rollout is open. -/
theorem PlatformInv.afterControlPlane (h : PlatformInv w accepted) {call : Option ControlPlaneCall}
    {kind : StepKind} {next : ControlPlaneStep} (hp : accepted p = call.bind (·.accepted?))
    (haudited : ∀ state, call.bind (·.audited?) = some state → state.status.isTerminal = true)
    (hmove : ControlPlaneMove parseDate w.controlPlane call kind next)
    (hfiles : FilesInv next.1 (Function.update accepted p (next.2.bind (·.accepted?))))
    (hkind : kind = .accepts .apply → openCount w.updates = 0) :
    PlatformInv (ofControlPlane w next).1
      (Function.update accepted p ((ofControlPlane w next).2.bind (·.accepted?))) := by
  rw [accepted_ofControlPlane]
  refine ⟨hfiles, appliesShown_move h.shown haudited hmove, ?_⟩
  rintro ⟨r, hflight, happly⟩
  rcases inFlight_of_move hp hmove hflight with hbefore | hkind'
  · exact h.exclusive ⟨r, hbefore, happly⟩
  · exact hkind (by rw [hkind', happly])

/-- A step of `AgentUpdatesService` that opens no rollout while an apply is in flight. -/
theorem PlatformInv.afterUpdates (h : PlatformInv w accepted) (hp : accepted p = none)
    (next : UpdateStep) (hzero : ApplyInFlight w accepted → openCount next.1 = 0) :
    PlatformInv (ofUpdates w next).1
      (Function.update accepted p ((ofUpdates w next).2.bind (·.accepted?))) := by
  rw [accepted_ofUpdates, Function.update_eq_self_iff.mpr hp.symm]
  exact ⟨h.files, h.shown, hzero⟩

/-- A call that has accepted nothing waits, or returns. -/
theorem PlatformInv.quiet (h : PlatformInv w accepted) (hp : accepted p = none)
    {next : Option PlatformCall} (hnext : next.bind (·.accepted?) = none) :
    PlatformInv w (Function.update accepted p (next.bind (·.accepted?))) := by
  rw [hnext, Function.update_eq_self_iff.mpr hp.symm]
  exact h

/-- **The first step of a call.** -/
theorem PlatformInv.afterInvoke (h : PlatformInv w accepted) (hp : accepted p = none)
    {request : PlatformRequest} (hguard : StartGuard parseDate w request input) :
    PlatformInv (invokePlatform parseDate request input w).1
      (Function.update accepted p
        ((invokePlatform parseDate request input w).2.bind (·.accepted?))) := by
  have hupdates : ∀ request,
      PlatformInv (ofUpdates w (invokeUpdate request input.updates w.updates)).1
      (Function.update accepted p
        ((ofUpdates w (invokeUpdate request input.updates w.updates)).2.bind (·.accepted?))) := by
    intro request
    refine h.afterUpdates hp _ ?_
    rw [invokeUpdate_world]
    exact h.exclusive
  cases request with
  | controlPlane request =>
      obtain ⟨kind, hkind, hmove⟩ := invoke_move parseDate w.controlPlane request input.controlPlane
      have hnext : (invokeControlPlane parseDate request input.controlPlane w.controlPlane).2.bind
          (·.accepted?) = none := by
        cases hcall :
          (invokeControlPlane parseDate request input.controlPlane w.controlPlane).2 with
        | none => rfl
        | some call => exact accepted_invoke call hcall
      refine h.afterControlPlane ?_ (by simp) hmove ?_ fun haccepts => ?_
      · exact hp
      · rw [hnext]
        exact (h.files.invoke hguard).quiet hp
      · rcases hkind with rfl | rfl <;> cases haccepts
  | updates request =>
      cases request with
      | createRollout nodeIds rollback =>
          simp only [invokePlatform]
          split
          · exact h.quiet hp rfl
          · exact h.quiet hp rfl
      | resumeRollout | cancelRollout | retryTarget | skipTarget | handleAgentProgress
      | observeNodeVersion | reconcileActiveTargets => exact hupdates _

/-- A later step of a call of the control plane. -/
theorem PlatformInv.afterResumeControlPlane (h : PlatformInv w accepted) {call : ControlPlaneCall}
    {input : ControlPlaneInput} (hp : accepted p = call.accepted?) (hread : FilesRead (call, files))
    (hguard : WriteGuard parseDate w.controlPlane (call, files) input)
    (hkind : call.kind input = .accepts .apply → openCount w.updates = 0) :
    PlatformInv
      (ofControlPlane w (resumeControlPlane parseDate call input w.controlPlane)).1
      (Function.update accepted p ((ofControlPlane w
        (resumeControlPlane parseDate call input w.controlPlane)).2.bind (·.accepted?))) := by
  have haudited : ∀ state, (some call).bind (·.audited?) = some state →
      state.status.isTerminal = true := by
    intro state hstate
    cases call with
    | auditing read =>
        obtain rfl := Option.some.inj hstate
        exact hread.2
    | lookingUp | hydrating | findingRollout | accepted | recording => cases hstate
  refine h.afterControlPlane ?_ haudited (resume_move parseDate w.controlPlane call input)
    (h.files.resume hp hread hguard) hkind
  exact hp

/-- **A later step of a call** whose stores are current. -/
theorem PlatformInv.afterResume (h : PlatformInv w accepted) {call : PlatformCall}
    (hp : accepted p = call.accepted?) (hfound : Found w (call, files))
    (hcurrent : StoresCurrent parseDate w (call, files) input) :
    PlatformInv (resumePlatform parseDate call input w).1
      (Function.update accepted p
        ((resumePlatform parseDate call input w).2.bind (·.accepted?))) := by
  cases call with
  | controlPlane call =>
      cases call with
      | findingRollout context summary target => exact h.quiet hp rfl
      | lookingUp | hydrating | accepted | recording | auditing =>
          refine h.afterResumeControlPlane hp hfound hcurrent fun hkind => ?_
          obtain ⟨context, summary, target, hcall⟩ := findingRollout_of_kind hkind
          cases hcall
  | rolloutFound context summary target activeRollout =>
      refine h.afterResumeControlPlane hp hfound hcurrent.1 fun hkind => ?_
      -- an apply is accepted on the answer that no rollout is open
      have hnone : activeRollout = none := by
        cases hactive : activeRollout with
        | none => rfl
        | some version => simp [ControlPlaneCall.kind, hactive] at hkind
      refine findActiveRollout_eq_none.mp ?_
      rw [hcurrent.2, hnone]
  | applyIdle nodeIds rollback =>
      refine h.afterUpdates hp _ ?_
      rw [invokeUpdate_world]
      exact h.exclusive
  | updates call =>
      refine h.afterUpdates hp _ fun hflight => ?_
      obtain ⟨hchecked, hidle⟩ := hfound
      by_cases hinsert : ∃ version rollback nodes, call = .createNodes version rollback [] nodes
      · -- a rollout is inserted on the answer that no apply is in progress
        obtain ⟨version, rollback, nodes, rfl⟩ := hinsert
        have hstate : w.controlPlane.state = files.1 := hcurrent
        rw [← hstate] at hidle
        obtain ⟨r, hr, happly⟩ := hflight
        exact absurd hidle (not_idle_of_inFlight h.files h.shown hr happly)
      · have hcopies : CopiesCurrent w.updates call input.updates := by
          cases call with
          | createNodes version rollback nodeIds nodes => exact True.intro
          | _ => exact hcurrent
        refine openCount_resumeUpdate (h.exclusive hflight) hchecked hcopies ?_
        intro version rollback nodes hcall
        exact hinsert ⟨version, rollback, nodes, hcall⟩

/-- What happens outside. -/
theorem PlatformInv.afterEnv (h : PlatformInv w accepted) {e : PlatformEnv}
    (hlisted : AppliesListed w e) :
    PlatformInv (platformEnv e w) accepted := by
  cases e with
  | supervisor e =>
      refine ⟨h.files.supervise e, appliesShown_supervise h.shown ?_, ?_⟩
      · rintro state rfl
        exact hlisted
      · rintro ⟨r, hflight, happly⟩
        exact h.exclusive ⟨r, inFlight_of_supervise hflight, happly⟩
  | nodes e =>
      refine ⟨h.files, h.shown, fun happly => ?_⟩
      have hzero : openCount w.updates = 0 := h.exclusive happly
      cases e <;> exact hzero

end Steps

/-! ## What the calls have found out -/

section Found

variable {w w' : PlatformWorld} {files : UpdateFiles} {input : PlatformInput}

/-- What a call has found out is not undone by the others. -/
theorem Found.stays {call : PlatformCall × UpdateFiles} (h : Found w call)
    (hstay : TargetsStay w.updates w'.updates) : Found w' call := by
  obtain ⟨call, files⟩ := call
  cases call with
  | updates call => exact ⟨h.1.stays hstay, h.2⟩
  | controlPlane | applyIdle | rolloutFound => exact h

/-- The first step of a call. -/
theorem found_invoke {request : PlatformRequest} :
    ∀ call ∈ (invokePlatform parseDate request input w).2,
      Found (invokePlatform parseDate request input w).1
        (call, readFirst parseDate request input w) := by
  intro call hcall
  cases request with
  | controlPlane request =>
      obtain ⟨first, hfirst, rfl⟩ := Option.map_eq_some_iff.mp hcall
      exact filesRead_invoke first hfirst
  | updates request =>
      have hupdates : ∀ call ∈ (ofUpdates w (invokeUpdate request input.updates w.updates)).2,
          Found (ofUpdates w (invokeUpdate request input.updates w.updates)).1
            (call, (none, none)) := by
        intro call hcall
        obtain ⟨first, hfirst, rfl⟩ := Option.map_eq_some_iff.mp hcall
        have hworld : (ofUpdates w (invokeUpdate request input.updates w.updates)).1.updates
            = w.updates := invokeUpdate_world request input.updates w.updates
        refine ⟨?_, rfl⟩
        rw [hworld]
        exact checked_invoke first hfirst
      cases request with
      | createRollout nodeIds rollback =>
          simp only [invokePlatform] at hcall
          split at hcall
          · cases hcall
          next hidle =>
              obtain rfl := Option.some.inj hcall
              exact hidle
      | resumeRollout | cancelRollout | retryTarget | skipTarget | handleAgentProgress
      | observeNodeVersion | reconcileActiveTargets => exact hupdates call hcall

/-- Every step keeps the targets of the rollouts. -/
theorem resumePlatform_targetsStay (call : PlatformCall) (input : PlatformInput)
    (w : PlatformWorld) :
    TargetsStay w.updates (resumePlatform parseDate call input w).1.updates := by
  cases call with
  | controlPlane call => cases call <;> exact .refl _
  | rolloutFound context summary target activeRollout => exact .refl _
  | applyIdle nodeIds rollback =>
      refine targetsStay_of_eq ?_
      simp only [resumePlatform, ofUpdates, invokeUpdate_world]
  | updates call => exact resume_targetsStay call input.updates w.updates

/-- A later step of a call of the control plane. -/
theorem found_resumeControlPlane {call : ControlPlaneCall} {input : ControlPlaneInput}
    (h : FilesRead (call, files)) :
    ∀ next ∈ (ofControlPlane w (resumeControlPlane parseDate call input w.controlPlane)).2,
      Found w' (next, filesLast parseDate files call input w.controlPlane) := by
  intro next hnext
  obtain ⟨later, hlater, rfl⟩ := Option.map_eq_some_iff.mp hnext
  exact filesRead_resume h later hlater

/-- A later step of a call. -/
theorem found_resume {call : PlatformCall} (h : Found w (call, files))
    (hcurrent : StoresCurrent parseDate w (call, files) input) :
    ∀ next ∈ (resumePlatform parseDate call input w).2,
      Found (resumePlatform parseDate call input w).1
        (next, readLast parseDate files call input w) := by
  intro next hnext
  cases call with
  | controlPlane call =>
      cases call with
      | findingRollout context summary target =>
          obtain rfl := Option.some.inj hnext
          exact h
      | lookingUp | hydrating | accepted | recording | auditing =>
          refine found_resumeControlPlane ?_ next hnext
          exact h
  | rolloutFound context summary target activeRollout =>
      refine found_resumeControlPlane ?_ next hnext
      exact h
  | applyIdle nodeIds rollback =>
      obtain ⟨later, hlater, rfl⟩ := Option.map_eq_some_iff.mp hnext
      have hworld : (resumePlatform parseDate (.applyIdle nodeIds rollback) input w).1.updates
          = w.updates := invokeUpdate_world _ _ w.updates
      refine ⟨?_, h⟩
      rw [hworld]
      exact checked_invoke later hlater
  | updates call =>
      obtain ⟨later, hlater, rfl⟩ := Option.map_eq_some_iff.mp hnext
      have hcopies : CopiesCurrent w.updates call input.updates := by
        cases call with
        | createNodes version rollback nodeIds nodes => exact True.intro
        | _ => exact hcurrent
      exact ⟨checked_resume h.1 hcopies later hlater, h.2⟩

end Found

/-! ## Every run -/

/-- The calls of both services with the files they remember. -/
abbrev ReadingConfig := Config ℕ PlatformWorld (PlatformCall × UpdateFiles)

/-- What the calls have found out, along a run. -/
theorem found_outline : Outline (readingCalls parseDate) platformEnv (StartGuard parseDate)
    (StoresCurrent parseDate) AppliesListed (fun _ => True) Found := by
  refine outline_remembering ?_ ?_ ?_ ?_ ?_ ?_
  · exact fun _ _ => ⟨trivial, found_invoke⟩
  · exact fun _ hfound hcurrent => ⟨trivial, found_resume hfound hcurrent⟩
  · exact fun _ _ => trivial
  · intro w request input call _ _ hfound
    refine hfound.stays (targetsStay_of_eq ?_)
    cases request with
    | controlPlane request => rfl
    | updates request =>
        cases request with
        | createRollout nodeIds rollback =>
            simp only [platformCalls, invokePlatform]
            split <;> rfl
        | resumeRollout | cancelRollout | retryTarget | skipTarget | handleAgentProgress
        | observeNodeVersion | reconcileActiveTargets =>
            simp only [platformCalls, invokePlatform, ofUpdates, invokeUpdate_world]
  · intro w call files input other _ _ _ hfound
    exact hfound.stays (resumePlatform_targetsStay call input w)
  · intro w e call _ _ hfound
    refine hfound.stays (targetsStay_of_eq ?_)
    cases e with
    | supervisor e => rfl
    | nodes e => exact updateEnv_targets e w.updates

/-- What holds at every point of a run, of the calls with the files they remember. -/
structure ReadingInv (c : ReadingConfig) : Prop where
  stores : PlatformInv c.world (acceptedIn c.forget)
  found : Good (fun _ => True) Found c

/-- **One event.** -/
theorem readingInv_step (c : ReadingConfig) (e : PlatformEvent) (h : ReadingInv c)
    (hguard : Guard (StartGuard parseDate) (StoresCurrent parseDate) AppliesListed c e) :
    ReadingInv (step (readingCalls parseDate) platformEnv c e) := by
  refine ⟨?_, found_outline.step c e h.found hguard⟩
  have hforget : (step (readingCalls parseDate) platformEnv c e).forget
      = step (platformCalls parseDate) platformEnv c.forget e := forget_step c e
  rw [← Config.forget_world, hforget]
  cases e with
  | invoke p request input =>
      cases hp : c.pending p with
      | some call =>
          have hbusy : c.forget.pending p = some call.1 := by simp only [Config.forget, hp]; rfl
          rw [step_invoke_busy hbusy]
          exact h.stores
      | none =>
          have hfree : c.forget.pending p = none := by simp only [Config.forget, hp]; rfl
          have hnone : acceptedIn c.forget p = none := by rw [acceptedIn, hfree]; rfl
          rw [step_invoke hfree, acceptedIn_update]
          exact h.stores.afterInvoke hnone (hguard (by rw [hp]; rfl))
  | resume p input =>
      cases hp : c.pending p with
      | none =>
          have hidle : c.forget.pending p = none := by simp only [Config.forget, hp]; rfl
          rw [step_resume_idle hidle]
          exact h.stores
      | some call =>
          have hpending : c.forget.pending p = some call.1 := by
            simp only [Config.forget, hp]; rfl
          have hheld : acceptedIn c.forget p = call.1.accepted? := by rw [acceptedIn, hpending]; rfl
          rw [step_resume hpending, acceptedIn_update]
          exact h.stores.afterResume hheld (h.found.2 p call hp) (hguard call hp)
  | env e => exact h.stores.afterEnv hguard

/-- Nothing has happened yet. -/
theorem readingInv_idle : ReadingInv (Config.idle {}) := by
  refine ⟨⟨filesInv_empty fun p => ?_, fun row hrow => ?_, fun _ => rfl⟩, good_idle trivial⟩
  · simp [acceptedIn]
  · cases hrow

/-- **Applies and rollouts exclude each other** in every interleaving of both services with the
supervisor and the agents in which what a call has read of the two stores still holds when it
writes. -/
theorem apply_rollout_exclusive {es : List PlatformEvent}
    (hes : Along (step (readingCalls parseDate) platformEnv)
      (Guard (StartGuard parseDate) (StoresCurrent parseDate) AppliesListed) (Config.idle {}) es) :
    ∀ es₁ es₂, es = es₁ ++ es₂ →
      Exclusive (run (platformStep parseDate) (Config.idle {}) es₁).world
        (acceptedIn (run (platformStep parseDate) (Config.idle {}) es₁)) := by
  rintro es₁ es₂ rfl
  have hinv := inv_run readingInv_step readingInv_idle (along_append.mp hes).1
  have hforget : (run (step (readingCalls parseDate) platformEnv)
      (Config.idle {} : ReadingConfig) es₁).forget
        = run (platformStep parseDate) (Config.idle {}) es₁ :=
    forget_run (Config.idle {} : ReadingConfig) es₁
  rw [← hforget]
  exact hinv.stores.exclusive

/-- An installer-managed deployment with a newer release in the feed. -/
def feed : PlatformInput where
  controlPlane := {
    deploymentMode := some "installer_managed"
    currentRelease := some { version := "1.0.0", releaseId := "release-current" }
    latestRelease := some { version := "1.0.1", releaseId := "release-next" }
    requestId := "a" }
  updates := { release := some "2", rolloutId := "r" }

/-- A release is downloaded and a rollout created; the apply is refused until the rollout is
cancelled, and then accepted; the next creation is refused. -/
def applyAfterCancellation : List PlatformEvent :=
  [.env (.nodes (.nodeCreated { id := "n", workspaceId := "w", name := "n", hostname := "h",
                                arch := "amd64" })),
    .env (.nodes (.nodeReported "n" "1")),
    .invoke 0 (.controlPlane (.queueDownload {})) feed, .resume 0 feed, .resume 0 feed,
    .resume 0 feed, .env (.supervisor .take), .env (.supervisor (.progress downloaded)),
    .invoke 1 (.updates (.createRollout ["n"] false)) feed, .resume 1 feed, .resume 1 feed,
    .resume 1 feed,
    .invoke 2 (.controlPlane (.queueApply {})) feed, .resume 2 feed, .resume 2 feed,
    .resume 2 feed, .resume 2 feed,
    .invoke 3 (.updates (.cancelRollout "r")) {}, .resume 3 {},
    .invoke 2 (.controlPlane (.queueApply {})) feed, .resume 2 feed, .resume 2 feed,
    .resume 2 feed, .resume 2 feed, .resume 2 feed,
    .invoke 4 (.updates (.createRollout ["n"] false)) feed]

theorem apply_rollout_exclusive_cancelled :
    Exclusive (run (platformStep fun _ => none) (Config.idle {}) applyAfterCancellation).world
      (acceptedIn (run (platformStep fun _ => none) (Config.idle {}) applyAfterCancellation)) :=
  apply_rollout_exclusive (by decide +kernel) applyAfterCancellation [] (List.append_nil _).symm

/-! ## An apply while a rollout is created -/

/-- A release is downloaded.  `createRollout` finds no apply and no rollout, and looks its node
up; `queueApply` finds no rollout and is accepted; then the rollout is saved. -/
def applyDuringCreation : List PlatformEvent :=
  [.env (.nodes (.nodeCreated { id := "n", workspaceId := "w", name := "n", hostname := "h",
                                arch := "amd64" })),
    .env (.nodes (.nodeReported "n" "1")),
    .invoke 0 (.controlPlane (.queueDownload {})) feed, .resume 0 feed, .resume 0 feed,
    .resume 0 feed, .env (.supervisor .take), .env (.supervisor (.progress downloaded)),
    .invoke 1 (.updates (.createRollout ["n"] false)) feed, .resume 1 feed, .resume 1 feed,
    .invoke 2 (.controlPlane (.queueApply {})) feed, .resume 2 feed, .resume 2 feed,
    .resume 2 feed, .resume 2 feed, .resume 2 feed,
    .resume 1 feed]

/-- **The apply is queued and the rollout is open.** -/
theorem applyDuringCreation_overlaps : ¬ ∀ es₁ es₂, applyDuringCreation = es₁ ++ es₂ →
    Exclusive (run (platformStep fun _ => none) (Config.idle {}) es₁).world
      (acceptedIn (run (platformStep fun _ => none) (Config.idle {}) es₁)) := by
  intro h
  have hlast := h applyDuringCreation [] (List.append_nil _).symm
  have hwaits : ((run (platformStep fun _ => none) (Config.idle {})
      applyDuringCreation).world.controlPlane.request.map (·.operation)) = some .apply := by
    decide +kernel
  obtain ⟨r, hr, happly⟩ := Option.map_eq_some_iff.mp hwaits
  exact absurd (hlast ⟨r, .inr (.inl hr), happly⟩) (by decide +kernel)

end RolloutExclusion
