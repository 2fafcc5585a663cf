/-
# Control-plane updates

The API queues a download or an apply of a control-plane release in two files of the state
directory: what it asks for (`platform-update-request.json`) and how far the operation is
(`platform-update-state.json`).  The supervisor of the host takes the request and writes the
progress.  Here are the two files, the summary that is computed from them, and the checks
that a request must pass.
-/
import NoderaxApi.Common

namespace ControlPlaneUpdatesService

/-! ## The files -/

/-- `PlatformReleaseState`, with the fields of `ControlPlaneReleaseDto`. -/
structure PlatformRelease where
  version : String
  releaseId : String
  releasedAt : Option String := none
  builtAt : Option String := none
  bundleSha256 : Option String := none
  bundleUrl : Option String := none
  manifestUrl : Option String := none
  changelog : Option (List (String × List String)) := none
  deriving DecidableEq, Repr

inductive PlatformUpdateOperation
  | download
  | apply
  deriving DecidableEq, Repr

def PlatformUpdateOperation.text : PlatformUpdateOperation → String
  | .download => "download"
  | .apply => "apply"

inductive PlatformUpdateStatus
  | queued
  | downloading
  | verifying
  | extracting
  | loadingImages
  | prepared
  | applying
  | migratingDatabase
  | recreatingServices
  | completed
  | failed
  deriving DecidableEq, Repr

namespace PlatformUpdateStatus

def text : PlatformUpdateStatus → String
  | queued => "queued"
  | downloading => "downloading"
  | verifying => "verifying"
  | extracting => "extracting"
  | loadingImages => "loading_images"
  | prepared => "prepared"
  | applying => "applying"
  | migratingDatabase => "migrating_database"
  | recreatingServices => "recreating_services"
  | completed => "completed"
  | failed => "failed"

/-- The operation is over. -/
def isTerminal : PlatformUpdateStatus → Bool
  | completed | failed => true
  | _ => false

/-- The statuses that `assertNoConcurrentOperation` lists. -/
def isConcurrent : PlatformUpdateStatus → Bool
  | queued | downloading | verifying | extracting | loadingImages | applying
  | migratingDatabase | recreatingServices => true
  | prepared | completed | failed => false

/-- The statuses of an apply that `assertControlPlaneApplyIsIdle` lists. -/
def isApplying : PlatformUpdateStatus → Bool
  | queued | applying | migratingDatabase | recreatingServices => true
  | _ => false

end PlatformUpdateStatus

inductive RollbackStatus
  | notNeeded
  | succeeded
  | failed
  deriving DecidableEq, Repr

def RollbackStatus.text : RollbackStatus → String
  | notNeeded => "not_needed"
  | succeeded => "succeeded"
  | failed => "failed"

/-- The content of `platform-update-request.json`. -/
structure PlatformUpdateRequestState where
  requestId : Uuid
  operation : PlatformUpdateOperation
  requestedAt : String
  requestedByUserId : Option Uuid
  requestedByEmailSnapshot : Option String
  targetReleaseId : Option String
  deriving DecidableEq, Repr

/-- The content of `platform-update-state.json`. -/
structure PlatformUpdateState where
  operation : PlatformUpdateOperation
  status : PlatformUpdateStatus
  requestedAt : String
  updatedAt : String
  startedAt : Option String
  completedAt : Option String
  requestedByUserId : Option Uuid
  requestedByEmailSnapshot : Option String
  currentRelease : Option PlatformRelease
  targetRelease : Option PlatformRelease
  preparedRelease : Option PlatformRelease
  previousRelease : Option PlatformRelease
  message : Option String
  error : Option String
  rollbackStatus : Option RollbackStatus
  auditLoggedAt : Option String
  deriving DecidableEq, Repr

/-- `targetRelease?.releaseId ?? null`. -/
def PlatformUpdateState.targetReleaseId (state : PlatformUpdateState) : Option String :=
  state.targetRelease.map (·.releaseId)

/-- `preparedRelease?.releaseId ?? null`. -/
def PlatformUpdateState.preparedReleaseId (state : PlatformUpdateState) : Option String :=
  state.preparedRelease.map (·.releaseId)

/-- `RequestAuditContext`: who asks. -/
structure RequestAuditContext where
  actorUserId : Option Uuid := none
  actorEmailSnapshot : Option String := none
  deriving DecidableEq, Repr

/-! ## Stale applies

`getSummary` repairs the files before it reads them: both functions are given what the two
files hold and answer what they hold afterwards. -/

/-- `reconcileStaleNoopApplyState`: an apply of the release that is installed already. -/
def reconcileStaleNoopApplyState (currentReleaseId : Option String)
    (state : Option PlatformUpdateState) (request : Option PlatformUpdateRequestState) :
    Option PlatformUpdateState × Option PlatformUpdateRequestState :=
  match currentReleaseId with
  | none | some "" => (state, request)
  | some currentReleaseId =>
      let requestTargetsInstalledRelease := request.any fun request =>
        request.operation = .apply && request.targetReleaseId = some currentReleaseId
      let stateIsStaleNoopApply := state.any fun state =>
        state.operation = .apply && !state.status.isTerminal &&
          state.targetReleaseId = some currentReleaseId &&
          state.preparedReleaseId = some currentReleaseId
      (if stateIsStaleNoopApply then none else state,
        if requestTargetsInstalledRelease then none else request)

/-- `/^[0-9]{8}T[0-9]{6}Z$/`. -/
def looksLikeTimestamp (releaseId : String) : Bool :=
  let chars := releaseId.toList
  chars.length = 16 && (chars.take 8).all Char.isDigit && chars[8]? = some 'T' &&
    ((chars.drop 9).take 6).all Char.isDigit && chars[15]? = some 'Z'

/-- `buildStaleApplyGuidance`. -/
def buildStaleApplyGuidance (currentReleaseId : Option String) : String :=
  if currentReleaseId.any fun releaseId =>
      looksLikeTimestamp releaseId && releaseId < "20260416T210639Z" then
    "The host-side updater on this control-plane build predates the self-update recovery fix. " ++
      "Refresh control-plane-update.sh and supervisor.sh on the host from the latest bundle, " ++
      "restart the supervisor, then retry the apply."
  else
    "Review the host-side control-plane update state and supervisor logs, then retry the apply " ++
      "once the runtime is stable."

/-- `staleApplyTimeoutMs`. -/
def staleApplyTimeoutMs : ℤ := 15 * 60 * 1000

/-- `reconcileStaleActiveApplyState`: an apply that has not ended after 15 minutes. -/
def reconcileStaleActiveApplyState (parseDate : String → Option ℤ) (now : ℤ)
    (currentRelease : Option PlatformRelease) (state : Option PlatformUpdateState)
    (request : Option PlatformUpdateRequestState) :
    Option PlatformUpdateState × Option PlatformUpdateRequestState :=
  match state with
  | none => (state, request)
  | some row =>
      if row.operation ≠ .apply ∨ row.status.isTerminal = true then (state, request)
      else
        match parseDate (row.startedAt.getD row.requestedAt) with
        | none => (state, request)
        | some startedAtMs =>
            if now - startedAtMs < staleApplyTimeoutMs then (state, request)
            else
              let currentReleaseId := currentRelease.map (·.releaseId)
              let targetReleaseId :=
                row.targetReleaseId.or (request.bind (·.targetReleaseId))
              if currentReleaseId.any (· ≠ "") ∧ currentReleaseId = targetReleaseId then
                (some { row with
                  status := .completed
                  updatedAt := toISOString now
                  completedAt := some (toISOString now)
                  currentRelease := row.targetRelease.or row.currentRelease
                  preparedRelease := none
                  message := some ("Control-plane update recovered after the target release " ++
                    "was already activated.")
                  error := none
                  rollbackStatus := some .notNeeded }, none)
              else
                (some { row with
                  status := .failed
                  updatedAt := toISOString now
                  completedAt := some (toISOString now)
                  currentRelease := currentRelease.or row.currentRelease
                  message := some ("Control-plane apply timed out before the target release " ++
                    "became active.")
                  error := some (buildStaleApplyGuidance currentReleaseId) }, none)

/-! ## The summary -/

/-- `ControlPlaneUpdateOperationDto`. -/
structure ControlPlaneUpdateOperation where
  operation : PlatformUpdateOperation
  status : PlatformUpdateStatus
  message : Option String
  error : Option String
  requestedAt : String
  startedAt : Option String
  completedAt : Option String
  requestedByEmailSnapshot : Option String
  rollbackStatus : Option RollbackStatus
  targetReleaseId : Option String
  targetVersion : Option String
  deriving DecidableEq, Repr

/-- `shouldSuppressCompletedOperation`. -/
def shouldSuppressCompletedOperation (operation : PlatformUpdateOperation)
    (targetReleaseId currentReleaseId preparedReleaseId : Option String) : Bool :=
  match targetReleaseId with
  | none | some "" => true
  | some targetReleaseId =>
      match operation with
      | .apply => currentReleaseId = some targetReleaseId
      | .download => preparedReleaseId = some targetReleaseId

/-- `toOperationDto`. -/
def toOperationDto (state : Option PlatformUpdateState)
    (request : Option PlatformUpdateRequestState)
    (currentReleaseId preparedReleaseId : Option String) : Option ControlPlaneUpdateOperation :=
  match state, request with
  | some state, request =>
      if state.status = .completed ∧ shouldSuppressCompletedOperation state.operation
          state.targetReleaseId currentReleaseId preparedReleaseId then none
      else
        some {
          operation := state.operation
          status := state.status
          message := state.message
          error := state.error
          requestedAt := state.requestedAt
          startedAt := state.startedAt
          completedAt := state.completedAt
          requestedByEmailSnapshot := state.requestedByEmailSnapshot
          rollbackStatus := state.rollbackStatus
          targetReleaseId := state.targetReleaseId.or (request.bind (·.targetReleaseId))
          targetVersion := state.targetRelease.map (·.version) }
  | none, some request =>
      some {
        operation := request.operation
        status := .queued
        message := some "Waiting for the host supervisor to start the control-plane update."
        error := none
        requestedAt := request.requestedAt
        startedAt := none
        completedAt := none
        requestedByEmailSnapshot := request.requestedByEmailSnapshot
        rollbackStatus := none
        targetReleaseId := request.targetReleaseId
        targetVersion := none }
  | none, none => none

/-- `ControlPlaneUpdateSummaryDto`. -/
structure ControlPlaneSummary where
  supported : Bool
  deploymentMode : Option String
  currentRelease : Option PlatformRelease
  latestRelease : Option PlatformRelease
  preparedRelease : Option PlatformRelease
  updateAvailable : Bool
  operation : Option ControlPlaneUpdateOperation
  releaseCheckedAt : Option ℤ
  deriving DecidableEq, Repr

/-- `mergeRelease`: what the release's manifest says over what was known. -/
def mergeRelease (base hydrated : PlatformRelease) : PlatformRelease where
  version := if hydrated.version = "" then base.version else hydrated.version
  releaseId := if hydrated.releaseId = "" then base.releaseId else hydrated.releaseId
  releasedAt := hydrated.releasedAt.or base.releasedAt
  builtAt := hydrated.builtAt.or base.builtAt
  bundleSha256 := hydrated.bundleSha256.or base.bundleSha256
  bundleUrl := hydrated.bundleUrl.or base.bundleUrl
  manifestUrl := hydrated.manifestUrl.or base.manifestUrl
  changelog := if hydrated.changelog.any fun sections => sections ≠ [] then hydrated.changelog
    else base.changelog

/-- `hydrateRelease`, by the manifest that is found for each release. -/
def hydrateRelease (manifest : PlatformRelease → Option PlatformRelease)
    (release : Option PlatformRelease) : Option PlatformRelease :=
  release.map fun release =>
    match manifest release with
    | some hydrated => mergeRelease release hydrated
    | none => release

/-- `getSummary` between its two waits: from what the first part has read and the answer of
the release catalog. -/
def summarize (deploymentMode : Option String) (currentRelease : Option PlatformRelease)
    (state : Option PlatformUpdateState) (request : Option PlatformUpdateRequestState)
    (latestRelease : Option PlatformRelease) (releaseCheckedAt : Option ℤ) : ControlPlaneSummary :=
  let supported := decide (deploymentMode = some "installer_managed")
  let rawPreparedRelease := state.bind (·.preparedRelease)
  let currentReleaseId := currentRelease.map (·.releaseId)
  let preparedRelease := rawPreparedRelease.filter fun release =>
    release.releaseId = "" ∨ some release.releaseId ≠ currentReleaseId
  let latestReleaseId := latestRelease.map (·.releaseId)
  let preparedReleaseId := preparedRelease.map (·.releaseId)
  { supported
    deploymentMode
    currentRelease
    latestRelease
    preparedRelease
    updateAvailable := supported && latestReleaseId.any (· ≠ "") &&
      latestReleaseId ≠ currentReleaseId && latestReleaseId ≠ preparedReleaseId
    operation := toOperationDto state request currentReleaseId preparedReleaseId
    releaseCheckedAt }

/-- The end of `getSummary`: the three releases with what their manifests say. -/
def ControlPlaneSummary.hydrate (manifest : PlatformRelease → Option PlatformRelease)
    (summary : ControlPlaneSummary) : ControlPlaneSummary :=
  { summary with
    currentRelease := hydrateRelease manifest summary.currentRelease
    latestRelease := hydrateRelease manifest summary.latestRelease
    preparedRelease := hydrateRelease manifest summary.preparedRelease }

/-! ## What a request must pass -/

/-- `assertSupported`. -/
def assertSupported (supported : Bool) : Except HttpError Unit :=
  if supported then .ok ()
  else .error (.conflict
    "Control-plane self-update is only available for installer-managed deployments.")

/-- `assertNoConcurrentOperation`. -/
def assertNoConcurrentOperation : Option ControlPlaneUpdateOperation → Except HttpError Unit
  | none => .ok ()
  | some operation =>
      if operation.status.isConcurrent then
        .error (.conflict (s!"Control-plane {operation.operation.text} is already " ++
          s!"{operation.status.text}. Wait for the current operation to finish before starting " ++
          "another one."))
      else .ok ()

/-- The checks of `queueDownload`, and the release it queues. -/
def checkDownload (summary : ControlPlaneSummary) : Except HttpError PlatformRelease := do
  assertSupported summary.supported
  assertNoConcurrentOperation summary.operation
  match summary.latestRelease with
  | none =>
      .error (.conflict "The official control-plane release feed is currently unavailable.")
  | some release =>
      if summary.preparedRelease.map (·.releaseId) = some release.releaseId then
        .error (.conflict s!"Control-plane release {release.version} is already prepared.")
      else if summary.currentRelease.map (·.releaseId) = some release.releaseId then
        .error (.conflict s!"Control-plane release {release.version} is already installed.")
      else .ok release

/-- The checks of `queueApply` before it asks for an active rollout, and the release it
queues. -/
def checkApply (summary : ControlPlaneSummary) (promoting : Bool) :
    Except HttpError PlatformRelease := do
  assertSupported summary.supported
  assertNoConcurrentOperation summary.operation
  match summary.preparedRelease with
  | none =>
      .error (.conflict "Download the latest control-plane release before applying it.")
  | some release =>
      if summary.currentRelease.any fun current =>
          current.releaseId ≠ "" && current.releaseId = release.releaseId then
        .error (.conflict s!"Control-plane release {release.version} is already installed.")
      else if promoting then
        .error (.conflict ("Runtime promotion is still in progress. Wait for setup-to-runtime " ++
          "promotion to finish before applying a control-plane update."))
      else .ok release

/-- `queueApply` is refused while a rollout is active. -/
def assertNoActiveRollout : Option String → Except HttpError Unit
  | none => .ok ()
  | some targetVersion =>
      .error (.conflict (s!"Agent rollout {targetVersion} is still active. Finish or cancel the " ++
        "rollout before applying a control-plane update."))

/-- The state file of an operation that has just been queued. -/
def queuedState (operation : PlatformUpdateOperation) (summary : ControlPlaneSummary)
    (target : PlatformRelease) (context : RequestAuditContext) (now : ℤ) : PlatformUpdateState where
  operation
  status := .queued
  requestedAt := toISOString now
  updatedAt := toISOString now
  startedAt := none
  completedAt := none
  requestedByUserId := context.actorUserId
  requestedByEmailSnapshot := context.actorEmailSnapshot
  currentRelease := summary.currentRelease
  targetRelease := some target
  preparedRelease := match operation with
    | .download => summary.preparedRelease
    | .apply => some target
  previousRelease := summary.currentRelease
  message := some (match operation with
    | .download => s!"Queued latest control-plane download for {target.version}."
    | .apply => s!"Queued apply for control-plane release {target.version}.")
  error := none
  rollbackStatus := none
  auditLoggedAt := none

/-- The request file of an operation that has just been queued. -/
def queuedRequest (requestId : Uuid) (operation : PlatformUpdateOperation)
    (target : PlatformRelease) (context : RequestAuditContext) (now : ℤ) :
    PlatformUpdateRequestState where
  requestId
  operation
  requestedAt := toISOString now
  requestedByUserId := context.actorUserId
  requestedByEmailSnapshot := context.actorEmailSnapshot
  targetReleaseId := some target.releaseId

end ControlPlaneUpdatesService
