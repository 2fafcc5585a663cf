/-
# The operator's settings of a node

`nodes.service.ts`: the operator's `updateRootAccessProfile`, `updateTeamAssignment`,
`enableMaintenance` and `disableMaintenance`, the agent's `recordAgentRootAccessState`,
`markOnline`, `markOffline` and `authenticateAgent`, and the cron `expireRootAccessGrants`,
cut at their database steps.

All of them load a whole row and save it later, and `save` writes back every loaded column
that differs from the row by then.  Beside the table the world records what the operators
and the expiry of their grants have made of the settings of each node.
-/
import NoderaxApi.AgentToken

namespace NodesService

open KeyedTable Interleaving

/-! ## Rows -/

/-- A row of `nodes` with the columns of teams, maintenance and versions. -/
structure NodeRow extends NodeEntity where
  teamId : Option Uuid := none
  maintenanceReason : Option String := none
  maintenanceStartedAt : Option ℤ := none
  maintenanceByUserId : Option Uuid := none
  lastSeenAt : Option ℤ := none
  agentVersion : Option String := none
  platformVersion : Option String := none
  kernelVersion : Option String := none
  lastVersionReportedAt : Option ℤ := none
  deriving DecidableEq, Repr

/-- The primary key of a row. -/
abbrev NodeRow.key (row : NodeRow) : Uuid := row.id

/-- The root access an operator granted. -/
structure RootAccessGrant where
  profile : NodeRootAccessProfile := .off
  expiresAt : Option ℤ := none
  reason : Option String := none
  grantedByUserId : Option Uuid := none
  grantId : Option Uuid := none
  deriving DecidableEq, Repr

/-- What an operator sets on a node. -/
structure DesiredSettings where
  grant : RootAccessGrant := {}
  maintenanceMode : Bool := false
  teamId : Option Uuid := none
  deriving DecidableEq, Repr

/-- The grant in a row. -/
def NodeRow.grant (row : NodeRow) : RootAccessGrant where
  profile := row.rootAccessProfile
  expiresAt := row.rootAccessExpiresAt
  reason := row.rootAccessReason
  grantedByUserId := row.rootAccessGrantedByUserId
  grantId := row.rootAccessGrantId

/-- The settings in a row. -/
def NodeRow.settings (row : NodeRow) : DesiredSettings where
  grant := row.grant
  maintenanceMode := row.maintenanceMode
  teamId := row.teamId

/-- The row after the save of a copy.  A copy loaded without the `select: false` columns of
the tokens leaves them alone. -/
def NodeRow.savedOver (tokensLoaded : Bool) (copy row : NodeRow) : NodeRow :=
  let saved :=
    if tokensLoaded then copy.toNodeEntity else copy.toNodeEntity.saveOver row.toNodeEntity
  { copy with toNodeEntity := { saved with id := row.id } }

theorem NodeRow.savedOver_key (tokensLoaded : Bool) (copy row : NodeRow) :
    (copy.savedOver tokensLoaded row).key = row.key := rfl

/-- A save writes the settings of the copy. -/
theorem NodeRow.savedOver_settings (tokensLoaded : Bool) (copy row : NodeRow) :
    (copy.savedOver tokensLoaded row).settings = copy.settings := by
  cases tokensLoaded with
  | true => rfl
  | false => rfl

/-! ## What the operations do with a loaded row -/

/-- The versions of a heartbeat. -/
structure NodeVersions where
  agentVersion : Option String := none
  platformVersion : Option String := none
  kernelVersion : Option String := none
  deriving DecidableEq, Repr

/-- The truth value of a version: present and not empty. -/
def isVersionSet (version : Option String) : Bool := version.any (· ≠ "")

/-- The heartbeat reports some version. -/
def NodeVersions.reported (updates : NodeVersions) : Bool :=
  isVersionSet updates.agentVersion || isVersionSet updates.platformVersion ||
    isVersionSet updates.kernelVersion

/-- The row after the UPDATE of `markOnline`. -/
def markedOnline (now : ℤ) (updates : NodeVersions) (row : NodeRow) : NodeRow :=
  let seen : NodeRow := { row with status := .online, lastSeenAt := some now }
  if updates.reported then
    { seen with
      agentVersion := updates.agentVersion
      platformVersion := updates.platformVersion
      kernelVersion := updates.kernelVersion
      lastVersionReportedAt := some now }
  else seen

theorem markedOnline_key (now : ℤ) (updates : NodeVersions) (row : NodeRow) :
    (markedOnline now updates row).key = row.key := by
  unfold markedOnline
  simp only
  split
  · rfl
  · rfl

theorem markedOnline_settings (now : ℤ) (updates : NodeVersions) (row : NodeRow) :
    (markedOnline now updates row).settings = row.settings := by
  unfold markedOnline
  simp only
  split
  · rfl
  · rfl

/-- The copy that `markOnline` saves when the node was online already. -/
def seenOnline (now : ℤ) (updates : NodeVersions) (node : NodeRow) : NodeRow :=
  { node with
    status := .online
    lastSeenAt := some now
    agentVersion :=
      if isVersionSet updates.agentVersion then updates.agentVersion else node.agentVersion
    platformVersion :=
      if isVersionSet updates.platformVersion then updates.platformVersion
      else node.platformVersion
    kernelVersion :=
      if isVersionSet updates.kernelVersion then updates.kernelVersion else node.kernelVersion
    lastVersionReportedAt :=
      if updates.reported then some now else node.lastVersionReportedAt }

/-- The row after the UPDATE of `markOffline`, and the copy it saves. -/
def markedOffline (row : NodeRow) : NodeRow := { row with status := .offline }

theorem markedOffline_key (row : NodeRow) : (markedOffline row).key = row.key := rfl

/-- The copy that `updateTeamAssignment` saves. -/
def assignedTeam (teamId : Option Uuid) (node : NodeRow) : NodeRow := { node with teamId := teamId }

/-- The copy that `enableMaintenance` saves. -/
def maintenanceEnabled (now : ℤ) (actorId : Uuid) (reason : Option String) (node : NodeRow) :
    NodeRow :=
  { node with
    maintenanceMode := true
    maintenanceReason := trimToNull reason
    maintenanceStartedAt := some now
    maintenanceByUserId := some actorId }

/-- The copy that `disableMaintenance` saves. -/
def maintenanceDisabled (node : NodeRow) : NodeRow :=
  { node with
    maintenanceMode := false
    maintenanceReason := none
    maintenanceStartedAt := none
    maintenanceByUserId := none }

/-! ## The world -/

/-- The clock, the table, and what the latest operator actions, and the expiry of their
grants, want each node to be set to. -/
structure SettingsWorld where
  clock : ℤ := 0
  nodes : Table NodeRow.key := Table.empty
  desired : Uuid → Option DesiredSettings := fun _ => none

/-- Which settings a save is meant to change. -/
inductive SettingsWrite
  | rootAccess
  | maintenance
  | team
  /-- An agent's save is meant to change none. -/
  | agent
  deriving DecidableEq, Repr

/-- What a save is meant to make of the desired settings, from those of its copy. -/
def SettingsWrite.desire (write : SettingsWrite) (copy desired : DesiredSettings) :
    DesiredSettings :=
  match write with
  | .rootAccess => { desired with grant := copy.grant }
  | .maintenance => { desired with maintenanceMode := copy.maintenanceMode }
  | .team => { desired with teamId := copy.teamId }
  | .agent => desired

/-- A grant that has come to its end. -/
def RootAccessGrant.hasEnded (now : ℤ) (grant : RootAccessGrant) : Bool :=
  grant.profile ≠ .off && grant.expiresAt.any (· ≤ now)

/-- What the expiry makes of the desired settings: only a grant that has come to its end
goes. -/
def DesiredSettings.expire (now : ℤ) (desired : DesiredSettings) : DesiredSettings :=
  if desired.grant.hasEnded now then { desired with grant := {} } else desired

/-- `nodesRepository.save(copy)`. -/
def SettingsWorld.save (desire : DesiredSettings → DesiredSettings) (tokensLoaded : Bool)
    (copy : NodeRow) (w : SettingsWorld) : SettingsWorld :=
  { w with
    nodes := w.nodes.update (fun row => decide (row.key = copy.key)) (copy.savedOver tokensLoaded)
      (copy.savedOver_key tokensLoaded)
    desired := Function.update w.desired copy.id ((w.desired copy.id).map desire) }

/-- The row that `findOneOrFail` returns. -/
def SettingsWorld.findNode (w : SettingsWorld) (nodeId : Uuid) (workspaceId : Option Uuid) :
    Option NodeRow :=
  (w.nodes.get nodeId).filter fun node => workspaceId.all (node.workspaceId = ·)

/-! ## Calls -/

/-- An operator's request, an agent's, or the cron job.  A token is known by its hash. -/
inductive SettingsRequest
  | updateRootAccessProfile (nodeId : Uuid) (workspaceId : Option Uuid) (actorId : Uuid)
      (dto : UpdateNodeRootAccessDto)
  | updateTeamAssignment (nodeId : Uuid) (workspaceId : Option Uuid) (teamId : Option Uuid)
  | enableMaintenance (nodeId : Uuid) (workspaceId : Option Uuid) (actorId : Uuid)
      (reason : Option String)
  | disableMaintenance (nodeId : Uuid) (workspaceId : Option Uuid)
  | recordAgentRootAccessState (nodeId : Uuid) (report : Option NodeRootAccessSyncReport)
  | markOnline (nodeId : Uuid) (updates : NodeVersions)
  | markOffline (nodeId : Uuid)
  | authenticateAgent (nodeId : Uuid) (providedHash : String)
  | expireRootAccessGrants

/-- What is left of a call. -/
inductive PendingSettingsCall
  /-- The checks of an operator's request, with the loaded row. -/
  | rootAccessChecks (node : NodeRow) (actorId : Uuid) (dto : UpdateNodeRootAccessDto)
  | teamChecks (node : NodeRow) (teamId : Option Uuid)
  | enableChecks (node : NodeRow) (actorId : Uuid) (reason : Option String)
  | disableChecks (node : NodeRow)
  /-- The lookup after an UPDATE that met no row. -/
  | onlineFind (nodeId : Uuid) (now : ℤ) (updates : NodeVersions)
  | offlineFind (nodeId : Uuid)
  /-- The save of a changed copy. -/
  | save (write : SettingsWrite) (tokensLoaded : Bool) (copy : NodeRow)
  /-- The loop of the cron job. -/
  | expire (now : ℤ) (remaining : List NodeRow)

/-- What a step receives from outside: the answer of the workspace service, whether the
team exists, the configured maximum duration, a random id, and whether an audit record
throws. -/
structure SettingsInput where
  permitted : Except HttpError Unit := .ok ()
  teamFound : Bool := true
  configured : Option ℤ := none
  grantId : Uuid := ""
  recordError : Bool := false

/-- The result of a step. -/
abbrev SettingsStep := SettingsWorld × Option PendingSettingsCall

/-- A row loaded for an operator's request, or the end of the call. -/
def loadedFor (w : SettingsWorld) (nodeId : Uuid) (workspaceId : Option Uuid)
    (next : NodeRow → PendingSettingsCall) : SettingsStep :=
  (w, (w.findNode nodeId workspaceId).map next)

/-- The UPDATE of `markOnline`. -/
def markOnlineStep (nodeId : Uuid) (updates : NodeVersions) (w : SettingsWorld) : SettingsStep :=
  if ∃ row ∈ w.nodes.get nodeId, row.status = .offline then
    ({ w with
        nodes := w.nodes.update (fun row => decide (row.key = nodeId ∧ row.status = .offline))
          (markedOnline w.clock updates) (markedOnline_key w.clock updates) }, none)
  else (w, some (.onlineFind nodeId w.clock updates))

/-- The UPDATE of `markOffline`. -/
def markOfflineStep (nodeId : Uuid) (w : SettingsWorld) : SettingsStep :=
  if ∃ row ∈ w.nodes.get nodeId, row.status = .online then
    ({ w with
        nodes := w.nodes.update (fun row => decide (row.key = nodeId ∧ row.status = .online))
          markedOffline markedOffline_key }, none)
  else (w, some (.offlineFind nodeId))

/-- The lookup of `authenticateAgent`, and what it decides. -/
def authenticateStep (nodeId : Uuid) (providedHash : String) (w : SettingsWorld) : SettingsStep :=
  match w.nodes.get nodeId with
  | none => (w, none)
  | some node =>
      match authenticateAgent nodeId providedHash w.clock (some node.toNodeEntity) with
      | .ok (.saves entity) => (w, some (.save .agent true { node with toNodeEntity := entity }))
      | .ok (.done _) => (w, none)
      | .error _ => (w, none)

/-- The lookup of `recordAgentRootAccessState`, and what it makes of the report. -/
def reportStep (nodeId : Uuid) (report : Option NodeRootAccessSyncReport) (w : SettingsWorld) :
    SettingsStep :=
  match report, w.nodes.get nodeId with
  | some report, some node =>
      (w, (recordAgentRootAccessState report node.toNodeEntity).map fun entity =>
        .save .agent false { node with toNodeEntity := entity })
  | _, _ => (w, none)

/-- The first step of a call. -/
def invokeSettings (request : SettingsRequest) (_ : SettingsInput) (w : SettingsWorld) :
    SettingsStep :=
  match request with
  | .updateRootAccessProfile nodeId workspaceId actorId dto =>
      loadedFor w nodeId workspaceId fun node => .rootAccessChecks node actorId dto
  | .updateTeamAssignment nodeId workspaceId teamId =>
      loadedFor w nodeId workspaceId fun node => .teamChecks node teamId
  | .enableMaintenance nodeId workspaceId actorId reason =>
      loadedFor w nodeId workspaceId fun node => .enableChecks node actorId reason
  | .disableMaintenance nodeId workspaceId =>
      loadedFor w nodeId workspaceId fun node => .disableChecks node
  | .recordAgentRootAccessState nodeId report => reportStep nodeId report w
  | .markOnline nodeId updates => markOnlineStep nodeId updates w
  | .markOffline nodeId => markOfflineStep nodeId w
  | .authenticateAgent nodeId providedHash => authenticateStep nodeId providedHash w
  | .expireRootAccessGrants =>
      (w, some (.expire w.clock
        (w.nodes.rows.filter fun node => hasExpiredGrant w.clock node.toNodeEntity)))

/-- The team an operator assigns, once it is found. -/
def requestedTeam (teamId : Option Uuid) (teamFound : Bool) : Option (Option Uuid) :=
  match teamId with
  | none => some none
  | some id => if id = "" then some none else if teamFound then some (some id) else none

/-- The copy an operator's request saves, if it passes its checks. -/
def operatorCopy (call : PendingSettingsCall) (input : SettingsInput) (now : ℤ) :
    Option (SettingsWrite × NodeRow) :=
  match call with
  | .rootAccessChecks node actorId dto =>
      match updateRootAccessProfile input.configured actorId input.grantId now dto
          node.toNodeEntity with
      | .ok entity => some (.rootAccess, { node with toNodeEntity := entity })
      | .error _ => none
  | .teamChecks node teamId =>
      (requestedTeam teamId input.teamFound).map fun team => (.team, assignedTeam team node)
  | .enableChecks node actorId reason =>
      some (.maintenance, maintenanceEnabled now actorId reason node)
  | .disableChecks node => some (.maintenance, maintenanceDisabled node)
  | _ => none

/-- The checks of an operator's request. -/
def operatorStep (call : PendingSettingsCall) (input : SettingsInput) (w : SettingsWorld) :
    SettingsStep :=
  match input.permitted with
  | .error _ => (w, none)
  | .ok _ =>
      (w, (operatorCopy call input w.clock).map fun save => .save save.1 false save.2)

/-- The next step of a pending call. -/
def resumeSettings (call : PendingSettingsCall) (input : SettingsInput) (w : SettingsWorld) :
    SettingsStep :=
  match call with
  | .rootAccessChecks _ _ _ | .teamChecks _ _ | .enableChecks _ _ _ | .disableChecks _ =>
      operatorStep call input w
  | .onlineFind nodeId now updates =>
      (w, (w.nodes.get nodeId).map fun node => .save .agent false (seenOnline now updates node))
  | .offlineFind nodeId =>
      match w.nodes.get nodeId with
      | none => (w, none)
      | some node =>
          if node.status = .offline then (w, none)
          else (w, some (.save .agent false (markedOffline node)))
  | .save write tokensLoaded copy =>
      (w.save (write.desire copy.settings) tokensLoaded copy, none)
  | .expire _ [] => (w, none)
  | .expire now (node :: remaining) =>
      (w.save (·.expire now) false
          { node with toNodeEntity := expireRootAccessGrant now node.toNodeEntity },
        if input.recordError then none else some (.expire now remaining))

/-- The operations on the settings as interleaved calls. -/
def settingsCalls : Calls SettingsWorld SettingsRequest PendingSettingsCall SettingsInput :=
  ⟨invokeSettings, resumeSettings⟩

/-- Time passes, and nodes are created. -/
inductive SettingsEnv
  | advance (ms : ℕ)
  | nodeCreated (node : NodeRow)

/-- A move of the environment.  The settings of a new node are those it is created with. -/
def settingsEnv (e : SettingsEnv) (w : SettingsWorld) : SettingsWorld :=
  match e with
  | .advance ms => { w with clock := w.clock + ms }
  | .nodeCreated node =>
      if (w.nodes.get node.id).isNone then
        { w with
          nodes := w.nodes.insert node
          desired := Function.update w.desired node.id (some node.settings) }
      else w

end NodesService
