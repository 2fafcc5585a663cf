/-
# Node installs

`enrollments.service.ts`: the row of a node install and what each operation makes of it.
`expireNodeInstallIfNeeded` runs on every status read and before every progress report; it
looks at `consumedAt` and `expiresAt`, not at the status.

Of the stored `additionalInfo` the location is left out.
-/
import NoderaxApi.Common

/-- `NodeInstallStatus`. -/
inductive NodeInstallStatus
  | pending
  | installing
  | completed
  | failed
  | expired
  deriving DecidableEq, Repr

/-- `TERMINAL_NODE_INSTALL_STATUSES`. -/
def NodeInstallStatus.isTerminal : NodeInstallStatus → Bool
  | .completed | .failed | .expired => true
  | .pending | .installing => false

/-- `REPORTABLE_NODE_INSTALL_STATUSES`. -/
inductive ReportableNodeInstallStatus
  | installing
  | completed
  | failed
  deriving DecidableEq, Repr

/-- The status that is reported. -/
def ReportableNodeInstallStatus.status : ReportableNodeInstallStatus → NodeInstallStatus
  | .installing => .installing
  | .completed => .completed
  | .failed => .failed

namespace EnrollmentsService

/-! ## The row -/

/-- `INITIAL_NODE_INSTALL_PROGRESS`. -/
def initialNodeInstallProgress : ℕ := 5

/-- `INITIAL_NODE_INSTALL_STAGE`. -/
def initialNodeInstallStage : String := "command_generated"

/-- `EXPIRED_NODE_INSTALL_STAGE`. -/
def expiredNodeInstallStage : String := "expired"

/-- `BOOTSTRAP_CONSUMED_STAGE`. -/
def bootstrapConsumedStage : String := "bootstrap_token_consumed"

/-- `NODE_INSTALL_TOKEN_TTL_MINUTES`. -/
def nodeInstallTokenTtlMinutes : ℤ := 15

/-- `resolveDefaultNodeInstallMessage`. -/
def resolveDefaultNodeInstallMessage (stage : String) (status : NodeInstallStatus) : String :=
  if status = .failed then
    "Installer reported a failure. Inspect the server output for details."
  else if status = .expired then
    "Bootstrap token expired before installation finished. Generate a fresh install command."
  else if stage = initialNodeInstallStage then
    "Install command generated. Run it on the target server to start bootstrap."
  else if stage = "installer_started" then "Installer started on the target server."
  else if stage = "dependencies_installing" then "Installing required operating system packages."
  else if stage = "dependencies_ready" then "Required operating system packages are ready."
  else if stage = "service_user_ready" then
    "Preparing the noderax service account and runtime directories."
  else if stage = "binary_download_started" then "Downloading the Noderax agent binary."
  else if stage = "binary_downloaded" then
    "Agent binary downloaded. Bootstrapping node credentials next."
  else if stage = "agent_bootstrapping" then
    "Bootstrapping node credentials and writing service config."
  else if stage = bootstrapConsumedStage then "Node record created. Finishing service startup."
  else if stage = "service_started" ∨ stage = "completed" then
    "Agent installed successfully and the noderax service is running."
  else if status = .completed then "Agent installation completed successfully."
  else "Installer progress updated."

/-- `NodeInstallEntity`. -/
structure NodeInstallEntity where
  id : Uuid
  workspaceId : Uuid
  teamId : Option Uuid := none
  nodeName : String
  description : Option String := none
  tokenHash : String
  tokenLookupHash : String
  hostname : Option String := none
  additionalInfo : Option JsonObject := none
  nodeId : Option Uuid := none
  status : NodeInstallStatus := .pending
  stage : String := initialNodeInstallStage
  progressPercent : ℕ := initialNodeInstallProgress
  statusMessage : Option String :=
    some (resolveDefaultNodeInstallMessage initialNodeInstallStage .pending)
  startedAt : Option ℤ := none
  consumedAt : Option ℤ := none
  expiresAt : ℤ

/-! ## What the operations make of a row -/

/-- `isNodeInstallExpired`. -/
def isNodeInstallExpired (install : NodeInstallEntity) (now : ℤ) : Bool :=
  install.consumedAt.isNone && install.expiresAt ≤ now

/-- `expireNodeInstall` up to its save. -/
def expireNodeInstall (install : NodeInstallEntity) : NodeInstallEntity :=
  { install with
    status := .expired
    stage := expiredNodeInstallStage
    statusMessage := some (resolveDefaultNodeInstallMessage expiredNodeInstallStage .expired) }

/-- `expireNodeInstallIfNeeded`. -/
def expireNodeInstallIfNeeded (install : NodeInstallEntity) (now : ℤ) : NodeInstallEntity :=
  if install.status = .expired || !isNodeInstallExpired install now then install
  else expireNodeInstall install

/-- `ReportNodeInstallProgressDto`, without the token. -/
structure ReportNodeInstallProgressDto where
  stage : String
  status : Option ReportableNodeInstallStatus := none
  progressPercent : Option ℕ := none
  statusMessage : Option String := none
  deriving DecidableEq, Repr

/-- `reportNodeInstallProgress` on the row that it loads: the row after it, and the answer. -/
def reportNodeInstallProgress (install : NodeInstallEntity) (body : ReportNodeInstallProgressDto)
    (now : ℤ) : NodeInstallEntity × Except HttpError Unit :=
  let normalized := expireNodeInstallIfNeeded install now
  let reported := body.status.map ReportableNodeInstallStatus.status
  if normalized.status = .expired then (normalized, .error (.gone "Bootstrap token has expired"))
  else if normalized.status.isTerminal && some normalized.status ≠ reported then
    (normalized, .ok ())
  else
    let status := reported.getD .installing
    let stage := jsTrim body.stage
    let message :=
      (trimToNull body.statusMessage).getD (resolveDefaultNodeInstallMessage stage status)
    ({ normalized with
        status := status
        stage := stage
        progressPercent := body.progressPercent.getD normalized.progressPercent
        statusMessage := some message
        startedAt := some (normalized.startedAt.getD now) }, .ok ())

/-- The check with which `consumeNodeInstall` starts. -/
def assertNotConsumed (install : NodeInstallEntity) : Except HttpError Unit :=
  if install.consumedAt.isSome || install.nodeId.isSome then
    .error (.conflict "Bootstrap token has already been used")
  else .ok ()

/-- `normalizeHostname`, given `String.prototype.toLowerCase`. -/
def normalizeHostname (toLowerCase : String → String) (hostname : String) : String :=
  toLowerCase (jsTrim hostname)

/-- The row that `consumeNodeInstall` saves. -/
def consumedNodeInstall (install : NodeInstallEntity) (hostname : String)
    (additionalInfo : Option JsonObject) (nodeId : Uuid) (now : ℤ) : NodeInstallEntity :=
  { install with
    hostname := some hostname
    additionalInfo := additionalInfo
    nodeId := some nodeId
    consumedAt := some now
    startedAt := some (install.startedAt.getD now)
    status := .installing
    stage := bootstrapConsumedStage
    progressPercent := max install.progressPercent 92
    statusMessage := some (resolveDefaultNodeInstallMessage bootstrapConsumedStage .installing) }

/-! ## The statuses -/

theorem status_expireNodeInstallIfNeeded (install : NodeInstallEntity) (now : ℤ) :
    (expireNodeInstallIfNeeded install now).status =
      if isNodeInstallExpired install now then .expired else install.status := by
  unfold expireNodeInstallIfNeeded
  cases hexpired : isNodeInstallExpired install now with
  | false => simp
  | true =>
      by_cases hstatus : install.status = .expired
      · simp [hstatus]
      · simp [hstatus, expireNodeInstall]

/-- An expired token stays as it is, and a terminal status only comes again. -/
theorem status_reportNodeInstallProgress (install : NodeInstallEntity)
    (body : ReportNodeInstallProgressDto) (now : ℤ) :
    (reportNodeInstallProgress install body now).1.status =
      if (expireNodeInstallIfNeeded install now).status.isTerminal then
        (expireNodeInstallIfNeeded install now).status
      else (body.status.map ReportableNodeInstallStatus.status).getD .installing := by
  unfold reportNodeInstallProgress
  simp only
  generalize expireNodeInstallIfNeeded install now = normalized
  by_cases hexpired : normalized.status = .expired
  · rw [if_pos hexpired, hexpired]
    rfl
  · rw [if_neg hexpired]
    by_cases hterminal : normalized.status.isTerminal = true
    · rw [if_pos hterminal]
      by_cases hsame : some normalized.status = body.status.map ReportableNodeInstallStatus.status
      · rw [if_neg (by simp [hsame]), ← hsame, Option.getD_some]
      · rw [if_pos (by simp [hterminal, hsame])]
    · rw [if_neg hterminal, if_neg (by simp [hterminal])]

end EnrollmentsService
