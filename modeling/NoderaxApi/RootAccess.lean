/-
# Root access of a node

`nodes.service.ts`: the operator's `updateRootAccessProfile`, the agent's
`recordAgentRootAccessState`, the cron `expireRootAccessGrants`, and the three
checks made before privileged work.

An operation that loads a row and later saves it is split into the pure
computation on the loaded row, which keeps the source's name, and the table
write.
-/
import NoderaxApi.NodeEntity
import NoderaxApi.Runs
import Mathlib.Logic.Function.Basic

namespace NodesService

/-! ## Inputs -/

/-- `ROOT_ACCESS_MIN_DURATION_MINUTES`. -/
def rootAccessMinDurationMinutes : ℤ := 5

/-- `ROOT_ACCESS_DEFAULT_MAX_DURATION_MINUTES`. -/
def rootAccessDefaultMaxDurationMinutes : ℤ := 120

/-- `UpdateNodeRootAccessDto`; `@IsInt` makes `Math.trunc` the identity on the
duration of a non-off profile. -/
structure UpdateNodeRootAccessDto where
  profile : NodeRootAccessProfile
  durationMinutes : Option ℤ := none
  reason : Option String := none
  deriving DecidableEq, Repr

/-- `NodeRootAccessSyncReport`.  Of a present `lastAppliedAt` only the instant
is read; `some none` is a text that `new Date` cannot parse. -/
structure NodeRootAccessSyncReport where
  appliedProfile : Option String := none
  lastAppliedAt : Option (Option ℤ) := none
  lastError : Option String := none
  deriving DecidableEq, Repr

/-! ## Helpers of the source -/

/-- `formatTimestamp`. -/
def formatTimestamp (value : Option ℤ) : Option String := value.map toISOString

/-- `parseOptionalDate`. -/
def parseOptionalDate (value : Option (Option ℤ)) (fallback : Option ℤ) : Option ℤ :=
  match value with
  | some (some t) => some t
  | _ => fallback

/-- `normalizeRootAccessProfile`. -/
def normalizeRootAccessProfile (value : Option String) (fallback : NodeRootAccessProfile) :
    NodeRootAccessProfile :=
  (value.bind NodeRootAccessProfile.ofText?).getD fallback

/-- `resolveRootAccessSyncStatus`. -/
def resolveRootAccessSyncStatus (desiredProfile appliedProfile : NodeRootAccessProfile)
    (lastError : Option String) : NodeRootAccessSyncStatus :=
  if lastError.isSome then .failed
  else if desiredProfile = appliedProfile then .applied
  else .pending

/-- `getRootAccessMaxDurationMinutes`, from the configured value. -/
def getRootAccessMaxDurationMinutes (configured : Option ℤ) : ℤ :=
  max rootAccessMinDurationMinutes (configured.getD rootAccessDefaultMaxDurationMinutes)

/-- `profileAllowsSurface`. -/
def profileAllowsSurface (profile : NodeRootAccessProfile) :
    NodeRootAccessSurface → Bool
  | .operational =>
      profile = .operational || profile = .operationalTask || profile = .operationalTerminal ||
        profile = .all
  | .task =>
      profile = .task || profile = .operationalTask || profile = .taskTerminal || profile = .all
  | .terminal =>
      profile = .terminal || profile = .operationalTerminal || profile = .taskTerminal ||
        profile = .all

@[simp] theorem profileAllowsSurface_off (surface : NodeRootAccessSurface) :
    profileAllowsSurface .off surface = false := by
  cases surface <;> rfl

/-- `isRootAccessGrantExpired` at the instant `now`. -/
def isRootAccessGrantExpired (now : ℤ) (node : NodeEntity) : Bool :=
  match node.rootAccessExpiresAt with
  | some expiresAt => expiresAt ≤ now
  | none => false

/-- `isRootAccessGrantActive`: every grant that has not expired, and also a row
without any expiry. -/
def isRootAccessGrantActive (now : ℤ) (node : NodeEntity) : Bool :=
  !isRootAccessGrantExpired now node

/-! ## The checks before privileged work -/

/-- `assertNodeAcceptingNewWork`. -/
def assertNodeAcceptingNewWork (node : NodeEntity) : Except HttpError Unit :=
  if node.maintenanceMode then
    .error (.badRequest s!"Node {node.hostname} is in maintenance mode and cannot accept new work.")
  else .ok ()

/-- `canNodeUseOperationalRoot`. -/
def canNodeUseOperationalRoot (now : ℤ) (node : NodeEntity) : Bool :=
  isRootAccessGrantActive now node &&
    profileAllowsSurface node.rootAccessAppliedProfile .operational

/-- `assertNodeAllowsOperationalRoot`. -/
def assertNodeAllowsOperationalRoot (now : ℤ) (node : NodeEntity) : Except HttpError Unit :=
  if canNodeUseOperationalRoot now node then .ok ()
  else if isRootAccessGrantExpired now node then
    .error (.badRequest (s!"Node {node.hostname} root access grant expired at " ++
      s!"{orNullText (formatTimestamp node.rootAccessExpiresAt)}."))
  else
    .error (.badRequest (s!"Node {node.hostname} does not currently allow operational root " ++
      s!"access. Applied profile is {node.rootAccessAppliedProfile.text}, desired profile is " ++
      s!"{node.rootAccessProfile.text}, and sync status is {node.rootAccessSyncStatus.text}."))

/-- `assertNodeAllowsRootSurface`. -/
def assertNodeAllowsRootSurface (now : ℤ) (node : NodeEntity)
    (surface : NodeRootAccessSurface) : Except HttpError Unit :=
  if !isRootAccessGrantActive now node then
    if isRootAccessGrantExpired now node then
      .error (.badRequest (s!"Node {node.hostname} root access grant expired at " ++
        s!"{orNullText (formatTimestamp node.rootAccessExpiresAt)}."))
    else
      .error (.badRequest s!"Node {node.hostname} does not have an active root access grant.")
  else if profileAllowsSurface node.rootAccessAppliedProfile surface then .ok ()
  else
    .error (.badRequest (s!"Node {node.hostname} does not currently allow " ++
      s!"{surface.text} root access. Applied profile is " ++
      s!"{node.rootAccessAppliedProfile.text}."))

/-- `assertNodeAllowsTaskRoot`. -/
def assertNodeAllowsTaskRoot (now : ℤ) (node : NodeEntity) : Except HttpError Unit :=
  assertNodeAllowsRootSurface now node .task

/-- `assertNodeAllowsTerminalRoot`. -/
def assertNodeAllowsTerminalRoot (now : ℤ) (node : NodeEntity) : Except HttpError Unit :=
  assertNodeAllowsRootSurface now node .terminal

/-- The check made before work on a surface. -/
def surfaceCheck (now : ℤ) (node : NodeEntity) :
    NodeRootAccessSurface → Except HttpError Unit
  | .operational => assertNodeAllowsOperationalRoot now node
  | .task => assertNodeAllowsTaskRoot now node
  | .terminal => assertNodeAllowsTerminalRoot now node

/-- **What the three checks have in common**: they read the applied profile and
the expiry, and nothing else. -/
theorem surfaceCheck_eq_ok_iff (now : ℤ) (node : NodeEntity)
    (surface : NodeRootAccessSurface) :
    surfaceCheck now node surface = .ok () ↔
      isRootAccessGrantExpired now node = false ∧
        profileAllowsSurface node.rootAccessAppliedProfile surface = true := by
  have hactive : isRootAccessGrantActive now node = !isRootAccessGrantExpired now node := rfl
  cases surface with
  | operational =>
      unfold surfaceCheck assertNodeAllowsOperationalRoot canNodeUseOperationalRoot
      rw [hactive]
      cases isRootAccessGrantExpired now node <;>
        cases profileAllowsSurface node.rootAccessAppliedProfile .operational <;> simp
  | task =>
      unfold surfaceCheck assertNodeAllowsTaskRoot assertNodeAllowsRootSurface
      rw [hactive]
      cases isRootAccessGrantExpired now node <;> simp
  | terminal =>
      unfold surfaceCheck assertNodeAllowsTerminalRoot assertNodeAllowsRootSurface
      rw [hactive]
      cases isRootAccessGrantExpired now node <;> simp

/-- The message for a row without an active grant is never thrown: a row without
an expiry counts as active, so `assertNodeAllowsRootSurface` only reaches that
branch for an expired grant. -/
theorem assertNodeAllowsRootSurface_never_inactive (now : ℤ) (node : NodeEntity)
    (surface : NodeRootAccessSurface) (h : isRootAccessGrantExpired now node = false) :
    isRootAccessGrantActive now node = true ∧
      assertNodeAllowsRootSurface now node surface =
        if profileAllowsSurface node.rootAccessAppliedProfile surface then .ok ()
        else .error (.badRequest (s!"Node {node.hostname} does not currently allow " ++
          s!"{surface.text} root access. Applied profile is " ++
          s!"{node.rootAccessAppliedProfile.text}.")) := by
  have hactive : isRootAccessGrantActive now node = true := by
    simp [isRootAccessGrantActive, h]
  refine ⟨hactive, ?_⟩
  simp [assertNodeAllowsRootSurface, hactive]

/-! ## The writers -/

/-- `findOneOrFail`. -/
def findOneOrFail (nodes : List NodeEntity) (id : Uuid) (workspaceId : Option Uuid) :
    Except HttpError NodeEntity :=
  match nodes.find? fun node => node.id = id ∧ workspaceId.all (node.workspaceId = ·) with
  | some node => .ok node
  | none => .error (.notFound s!"Node {id} was not found")

theorem findOneOrFail_ok {nodes : List NodeEntity} {id : Uuid} {workspaceId : Option Uuid}
    {node : NodeEntity} (h : findOneOrFail nodes id workspaceId = .ok node) :
    node ∈ nodes ∧ node.id = id := by
  unfold findOneOrFail at h
  split at h
  · next node' hfind =>
      cases h
      refine ⟨List.mem_of_find?_eq_some hfind, ?_⟩
      have hp := List.find?_some hfind
      simp only [decide_eq_true_eq] at hp
      exact hp.1
  · cases h

/-- `updateRootAccessProfile` on the loaded row. -/
def updateRootAccessProfile (configured : Option ℤ) (actorId grantId : Uuid) (now : ℤ)
    (dto : UpdateNodeRootAccessDto) (node : NodeEntity) : Except HttpError NodeEntity :=
  let requestedProfile := dto.profile
  let maxDurationMinutes := getRootAccessMaxDurationMinutes configured
  let durationMinutes := dto.durationMinutes.getD 0
  let reason := (dto.reason.map jsTrim).getD ""
  let updated : NodeEntity :=
    { node with
      rootAccessProfile := requestedProfile
      rootAccessSyncStatus := .pending
      rootAccessUpdatedAt := some now
      rootAccessUpdatedByUserId := some actorId
      rootAccessLastError := none }
  if requestedProfile = .off then
    .ok { updated with
      rootAccessExpiresAt := none
      rootAccessReason := none
      rootAccessGrantedByUserId := none
      rootAccessGrantId := none }
  else if durationMinutes < rootAccessMinDurationMinutes ∨ durationMinutes > maxDurationMinutes then
    .error (.badRequest (s!"Root access duration must be between " ++
      s!"{rootAccessMinDurationMinutes} and {maxDurationMinutes} minutes."))
  else if jsLength reason < 3 then
    .error (.badRequest "Root access reason is required when enabling a non-off profile.")
  else
    .ok { updated with
      rootAccessExpiresAt := some (now + durationMinutes * 60 * 1000)
      rootAccessReason := some reason
      rootAccessGrantedByUserId := some actorId
      rootAccessGrantId := some grantId }

/-- What `updateRootAccessProfile` leaves in the row: an off profile without an
expiry, or the requested profile, until the requested duration is over. -/
theorem updateRootAccessProfile_ok {configured : Option ℤ} {actorId grantId : Uuid} {now : ℤ}
    {dto : UpdateNodeRootAccessDto} {node entity : NodeEntity}
    (h : updateRootAccessProfile configured actorId grantId now dto node = .ok entity) :
    entity.id = node.id ∧
      ((entity.rootAccessProfile = .off ∧ dto.profile = .off ∧
          entity.rootAccessExpiresAt = none) ∨
        (entity.rootAccessProfile = dto.profile ∧ dto.profile ≠ .off ∧
          entity.rootAccessExpiresAt = some (now + dto.durationMinutes.getD 0 * 60 * 1000))) := by
  unfold updateRootAccessProfile at h
  dsimp only at h
  split at h
  · next hoff =>
      cases h
      exact ⟨rfl, Or.inl ⟨hoff, hoff, rfl⟩⟩
  · next hoff =>
      split at h
      · cases h
      · split at h
        · cases h
        · cases h
          exact ⟨rfl, Or.inr ⟨rfl, hoff, rfl⟩⟩

/-- `recordAgentRootAccessState` on the loaded row: the entity to save, or
nothing when the report changes nothing. -/
def recordAgentRootAccessState (report : NodeRootAccessSyncReport) (node : NodeEntity) :
    Option NodeEntity :=
  let nextAppliedProfile :=
    normalizeRootAccessProfile report.appliedProfile node.rootAccessAppliedProfile
  let nextLastAppliedAt := parseOptionalDate report.lastAppliedAt node.rootAccessLastAppliedAt
  -- `shouldIgnoreRootAccessSyncError` answers false on every input
  let nextLastError := trimToNull report.lastError
  let nextSyncStatus :=
    resolveRootAccessSyncStatus node.rootAccessProfile nextAppliedProfile nextLastError
  if node.rootAccessAppliedProfile = nextAppliedProfile ∧
      node.rootAccessLastError = nextLastError ∧
      formatTimestamp node.rootAccessLastAppliedAt = formatTimestamp nextLastAppliedAt ∧
      node.rootAccessSyncStatus = nextSyncStatus then none
  else
    some { node with
      rootAccessAppliedProfile := nextAppliedProfile
      rootAccessLastAppliedAt := nextLastAppliedAt
      rootAccessLastError := nextLastError
      rootAccessSyncStatus := nextSyncStatus }

/-- A report leaves the operator's columns alone. -/
theorem recordAgentRootAccessState_frame {report : NodeRootAccessSyncReport}
    {node entity : NodeEntity} (h : recordAgentRootAccessState report node = some entity) :
    entity.id = node.id ∧ entity.rootAccessProfile = node.rootAccessProfile ∧
      entity.rootAccessExpiresAt = node.rootAccessExpiresAt := by
  unfold recordAgentRootAccessState at h
  dsimp only at h
  split at h
  · cases h
  · cases h
    exact ⟨rfl, rfl, rfl⟩

/-- The rows `expireRootAccessGrants` selects. -/
def hasExpiredGrant (now : ℤ) (node : NodeEntity) : Bool :=
  node.rootAccessProfile ≠ .off &&
    match node.rootAccessExpiresAt with
    | some expiresAt => expiresAt ≤ now
    | none => false

/-- What `expireRootAccessGrants` makes of a selected row. -/
def expireRootAccessGrant (now : ℤ) (node : NodeEntity) : NodeEntity :=
  { node with
    rootAccessProfile := .off
    rootAccessSyncStatus := .pending
    rootAccessUpdatedAt := some now
    rootAccessUpdatedByUserId := none
    rootAccessExpiresAt := none
    rootAccessReason := none
    rootAccessGrantedByUserId := none
    rootAccessGrantId := none
    rootAccessLastError := none }

/-- `expireRootAccessGrants` on the table, as one step. -/
def expireRootAccessGrants (now : ℤ) (nodes : List NodeEntity) : List NodeEntity :=
  KeyedTable.updateWhere (hasExpiredGrant now) (expireRootAccessGrant now) nodes

end NodesService
