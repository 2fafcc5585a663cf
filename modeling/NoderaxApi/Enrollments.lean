/-
# Consuming install and enrollment tokens

`consumeNodeInstall` and `finalize` of `enrollments.service.ts`, with
`createFromEnrollment` of `nodes.service.ts`, cut at their database steps.  Both check the
row of their token, create a node some steps later, and only then mark the row; nothing
ties these steps together.

Workspaces and teams are not written here: what the lookups find in them is an input of the
step.  The world records the nodes created and the agent tokens handed out, and which
tokens a call in progress has created a node for.
-/
import NoderaxApi.Interleaving
import NoderaxApi.KeyedTable
import NoderaxApi.NodeEntity
import NoderaxApi.NodeInstalls

namespace EnrollmentsService

open KeyedTable Interleaving Runs

/-! ## Rows -/

/-- `EnrollmentStatus`. -/
inductive EnrollmentStatus
  | pending
  | approved
  | revoked
  deriving DecidableEq, Repr

/-- `EnrollmentEntity`. -/
structure EnrollmentEntity where
  id : Uuid
  workspaceId : Option Uuid := none
  email : String
  tokenHash : String
  tokenLookupHash : String
  hostname : String
  additionalInfo : Option JsonObject := none
  expiresAt : ℤ
  status : EnrollmentStatus := .pending
  nodeId : Option Uuid := none
  agentToken : Option String := none

/-- The columns that `createFromEnrollment` sets, besides defaults and the location. -/
structure EnrolledNode extends NodeEntity where
  name : String
  description : Option String
  teamId : Option Uuid
  os : String
  arch : String
  agentVersion : Option String
  platformVersion : Option String
  kernelVersion : Option String
  lastVersionReportedAt : Option ℤ
  deriving DecidableEq, Repr

/-- The primary keys. -/
abbrev NodeInstallEntity.key (row : NodeInstallEntity) : Uuid := row.id

abbrev EnrollmentEntity.key (row : EnrollmentEntity) : Uuid := row.id

abbrev EnrolledNode.key (row : EnrolledNode) : Uuid := row.id

/-! ## Tokens and what is read from a row -/

/-- The code outside the repository that these operations use. -/
structure EnrollmentPlatform where
  /-- `createLookupHash`: HMAC-SHA-256 under the JWT secret. -/
  createLookupHash : String → String
  /-- `bcrypt.compare`. -/
  compare : (token tokenHash : String) → Bool
  /-- `hashAgentToken`. -/
  hashAgentToken : String → String
  /-- `String.prototype.toLowerCase`. -/
  toLowerCase : String → String

/-- `verifyToken`. -/
def verifyToken (platform : EnrollmentPlatform) (token tokenHash tokenLookupHash : String) : Bool :=
  platform.createLookupHash token = tokenLookupHash && platform.compare token tokenHash

/-- `findNodeInstallByTokenOrThrow`. -/
def findNodeInstallByTokenOrThrow (platform : EnrollmentPlatform) (rows : List NodeInstallEntity)
    (token : String) : Except HttpError NodeInstallEntity :=
  match rows.find? fun row => row.tokenLookupHash = platform.createLookupHash token with
  | none => .error (.notFound "Bootstrap token was not found")
  | some row =>
      if !verifyToken platform token row.tokenHash row.tokenLookupHash then
        .error (.notFound "Bootstrap token was not found")
      else .ok row

/-- `findByTokenOrThrow`. -/
def findByTokenOrThrow (platform : EnrollmentPlatform) (rows : List EnrollmentEntity)
    (token : String) : Except HttpError EnrollmentEntity :=
  match rows.find? fun row => row.tokenLookupHash = platform.createLookupHash token with
  | none => .error (.notFound "Enrollment token was not found")
  | some row =>
      if !verifyToken platform token row.tokenHash row.tokenLookupHash then
        .error (.notFound "Enrollment token was not found")
      else .ok row

/-- `readString`: the first of the keys with a string that is not blank. -/
def readString (record : Option JsonObject) (keys : List String) : Option String :=
  record.bind fun fields => keys.findSome? fun key => trimToNull (fields.string? key)

/-- `resolveNodeOs`. -/
def resolveNodeOs (additionalInfo : Option JsonObject) : String :=
  (readString additionalInfo ["os", "operatingSystem", "platform"]).getD "unknown"

/-- `resolveNodeArch`. -/
def resolveNodeArch (additionalInfo : Option JsonObject) : String :=
  (readString additionalInfo ["arch", "architecture"]).getD "unknown"

/-- The check of `finalize` on the status of the enrollment. -/
def assertEnrollmentPending (enrollment : EnrollmentEntity) : Except HttpError Unit :=
  match enrollment.status with
  | .approved => .error (.conflict "Enrollment token has already been approved")
  | .revoked => .error (.gone "Enrollment token has expired or was revoked")
  | .pending => .ok ()

/-- `isExpired`. -/
def isExpired (enrollment : EnrollmentEntity) (now : ℤ) : Bool := enrollment.expiresAt ≤ now

/-- `revoke` up to its save. -/
def revokedEnrollment (enrollment : EnrollmentEntity) (now : ℤ) : EnrollmentEntity :=
  { enrollment with status := .revoked, expiresAt := now }

/-- The row that `finalize` saves. -/
def approvedEnrollment (enrollment : EnrollmentEntity) (workspaceId nodeId : Uuid)
    (agentToken : String) (now : ℤ) : EnrollmentEntity :=
  { enrollment with
    status := .approved
    workspaceId := some workspaceId
    nodeId := some nodeId
    agentToken := some agentToken
    expiresAt := now }

/-- The input of `createFromEnrollment`. -/
structure NodeInput where
  workspaceId : Uuid
  teamId : Option Uuid
  name : String
  description : Option String
  hostname : String
  os : String
  arch : String
  agentTokenHash : String
  agentVersion : Option String
  platformVersion : Option String
  kernelVersion : Option String
  deriving DecidableEq, Repr

/-- The node that `createFromEnrollment` inserts. -/
def NodeInput.row (input : NodeInput) (id : Uuid) (now : ℤ) : EnrolledNode where
  id := id
  workspaceId := input.workspaceId
  hostname := input.hostname
  agentTokenHash := some input.agentTokenHash
  name := input.name
  description := input.description
  teamId := input.teamId
  os := input.os
  arch := input.arch
  agentVersion := input.agentVersion
  platformVersion := input.platformVersion
  kernelVersion := input.kernelVersion
  lastVersionReportedAt :=
    if input.agentVersion.isSome || input.platformVersion.isSome || input.kernelVersion.isSome then
      some now
    else none

/-! ## The world and the calls -/

/-- The row of a token. -/
inductive TokenRef
  | install (id : Uuid)
  | enrollment (id : Uuid)
  deriving DecidableEq, Repr

/-- What became of a token. -/
inductive EnrollmentFact
  | nodeCreated (token : TokenRef) (nodeId : Uuid)
  /-- A call answered with an agent token. -/
  | agentTokenIssued (token : TokenRef) (nodeId : Uuid)
  deriving DecidableEq, Repr

/-- The tables and the clock, the record of what became of the tokens, and the tokens that a
call in progress has created a node for. -/
structure EnrollmentWorld where
  installs : Table NodeInstallEntity.key
  enrollments : Table EnrollmentEntity.key
  nodes : Table EnrolledNode.key
  clock : ℤ := 0
  facts : List EnrollmentFact := []
  inProgress : List TokenRef := []

/-- A request. -/
inductive EnrollmentRequest
  | consumeNodeInstall (token hostname : String) (additionalInfo : Option JsonObject)
  | finalize (token email nodeName : String) (description : Option String)
      (workspaceId : Option Uuid)

/-- The row that a call loaded, with what it needs of its request. -/
inductive LoadedToken
  | install (row : NodeInstallEntity) (hostname : String) (additionalInfo : Option JsonObject)
  | enrollment (row : EnrollmentEntity) (nodeName : String) (description : Option String)

/-- The token that was presented. -/
def LoadedToken.token : LoadedToken → TokenRef
  | .install row _ _ => .install row.id
  | .enrollment row _ _ => .enrollment row.id

/-- A call on its way to create a node. -/
structure NodeCreation where
  loaded : LoadedToken
  agentToken : String
  node : NodeInput

/-- Where a call waits for its next database step. -/
inductive PendingEnrollmentCall
  /-- The save of a row whose token has expired. -/
  | savingExpired (loaded : LoadedToken)
  /-- `getDefaultWorkspaceOrFail`. -/
  | resolvingWorkspace (loaded : LoadedToken)
  /-- `assertWorkspaceWritable`. -/
  | assertingWritable (loaded : LoadedToken) (workspaceId : Uuid)
  /-- `assertHostnameAvailable`. -/
  | findingHostname (creation : NodeCreation)
  /-- `assertWorkspaceWritable` in `createFromEnrollment`. -/
  | assertingWritableAgain (creation : NodeCreation)
  /-- `findTeamOrFail`. -/
  | findingTeam (creation : NodeCreation)
  | insertingNode (creation : NodeCreation)
  /-- `populateTeamMetadata`. -/
  | populatingTeam (creation : NodeCreation) (nodeId : Uuid)
  | savingToken (creation : NodeCreation) (nodeId : Uuid)
  /-- `emitNodeInstallUpdated`. -/
  | publishing (creation : NodeCreation) (nodeId : Uuid)

/-- What a step draws at random or finds in the other tables, and whether it rejects. -/
structure EnrollmentInput where
  nodeId : Uuid := ""
  agentToken : String := ""
  defaultWorkspaceId : Uuid := ""
  /-- A statement that fails, and a workspace or a team that is not there or archived. -/
  rejects : Bool := false
  deriving DecidableEq, Repr

/-- The world, and the next database step unless the call has ended. -/
abbrev EnrollmentStep := EnrollmentWorld × Option PendingEnrollmentCall

section Calls

variable (platform : EnrollmentPlatform)

/-- `consumeNodeInstall` up to its first write or lookup of a workspace. -/
def startConsume (w : EnrollmentWorld) (token hostname : String)
    (additionalInfo : Option JsonObject) : EnrollmentStep :=
  match findNodeInstallByTokenOrThrow platform w.installs.rows token with
  | .error _ => (w, none)
  | .ok row =>
      match assertNotConsumed row with
      | .error _ => (w, none)
      | .ok () =>
          let loaded := LoadedToken.install row (normalizeHostname platform.toLowerCase hostname)
            additionalInfo
          if isNodeInstallExpired row w.clock then (w, some (.savingExpired loaded))
          else (w, some (.assertingWritable loaded row.workspaceId))

/-- `finalize` up to its first write or lookup of a workspace. -/
def startFinalize (w : EnrollmentWorld) (token email nodeName : String)
    (description : Option String) (workspaceId : Option Uuid) : EnrollmentStep :=
  match findByTokenOrThrow platform w.enrollments.rows token with
  | .error _ => (w, none)
  | .ok row =>
      if row.email ≠ platform.toLowerCase (jsTrim email) then (w, none)
      else
        match assertEnrollmentPending row with
        | .error _ => (w, none)
        | .ok () =>
            let loaded := LoadedToken.enrollment row nodeName description
            if isExpired row w.clock then (w, some (.savingExpired loaded))
            else
              match workspaceId with
              | none => (w, some (.resolvingWorkspace loaded))
              | some workspaceId => (w, some (.assertingWritable loaded workspaceId))

/-- The first database step of a call, with what follows it up to the next. -/
def invokeEnrollment (request : EnrollmentRequest) (_ : EnrollmentInput) (w : EnrollmentWorld) :
    EnrollmentStep :=
  match request with
  | .consumeNodeInstall token hostname additionalInfo =>
      startConsume platform w token hostname additionalInfo
  | .finalize token email nodeName description workspaceId =>
      startFinalize platform w token email nodeName description workspaceId

/-- The input of `createFromEnrollment`, once the agent token is drawn. -/
def LoadedToken.nodeInput (loaded : LoadedToken) (workspaceId : Uuid) (agentToken : String) :
    NodeInput :=
  match loaded with
  | .install row hostname additionalInfo =>
      { workspaceId := workspaceId
        teamId := row.teamId
        name := row.nodeName
        description := row.description
        hostname := hostname
        os := resolveNodeOs additionalInfo
        arch := resolveNodeArch additionalInfo
        agentTokenHash := platform.hashAgentToken agentToken
        agentVersion := readString additionalInfo ["agentVersion"]
        platformVersion := readString additionalInfo ["platformVersion"]
        kernelVersion := readString additionalInfo ["kernelVersion"] }
  | .enrollment row nodeName description =>
      { workspaceId := workspaceId
        teamId := none
        name := nodeName
        description := description
        hostname := row.hostname
        os := resolveNodeOs row.additionalInfo
        arch := resolveNodeArch row.additionalInfo
        agentTokenHash := platform.hashAgentToken agentToken
        agentVersion := readString row.additionalInfo ["agentVersion"]
        platformVersion := readString row.additionalInfo ["platformVersion"]
        kernelVersion := readString row.additionalInfo ["kernelVersion"] }

/-- `nodeInstallsRepository.save`. -/
def EnrollmentWorld.saveInstall (w : EnrollmentWorld) (entity : NodeInstallEntity) :
    EnrollmentWorld :=
  { w with
    installs := w.installs.update (fun row => decide (row.id = entity.id))
      (fun row => { entity with id := row.id }) fun _ => rfl }

/-- `enrollmentsRepository.save`. -/
def EnrollmentWorld.saveEnrollment (w : EnrollmentWorld) (entity : EnrollmentEntity) :
    EnrollmentWorld :=
  { w with
    enrollments := w.enrollments.update (fun row => decide (row.id = entity.id))
      (fun row => { entity with id := row.id }) fun _ => rfl }

/-- The save of a row whose token has expired. -/
def EnrollmentWorld.saveExpired (w : EnrollmentWorld) : LoadedToken → EnrollmentWorld
  | .install row _ _ => w.saveInstall (expireNodeInstall row)
  | .enrollment row _ _ => w.saveEnrollment (revokedEnrollment row w.clock)

/-- The save of the row after the node was created. -/
def EnrollmentWorld.saveToken (w : EnrollmentWorld) (creation : NodeCreation) (nodeId : Uuid) :
    EnrollmentWorld :=
  match creation.loaded with
  | .install row hostname additionalInfo =>
      w.saveInstall (consumedNodeInstall row hostname additionalInfo nodeId w.clock)
  | .enrollment row _ _ =>
      w.saveEnrollment (approvedEnrollment row creation.node.workspaceId nodeId
        creation.agentToken w.clock)

/-- The node is stored, and the call goes on to its token. -/
def EnrollmentWorld.insertNode (w : EnrollmentWorld) (creation : NodeCreation) (nodeId : Uuid) :
    EnrollmentWorld :=
  { w with
    nodes := w.nodes.insert (creation.node.row nodeId w.clock)
    facts := w.facts ++ [.nodeCreated creation.loaded.token nodeId]
    inProgress := w.inProgress ++ [creation.loaded.token] }

/-- A call that has created a node ends. -/
def EnrollmentWorld.endCreation (w : EnrollmentWorld) (creation : NodeCreation) :
    EnrollmentWorld :=
  { w with inProgress := w.inProgress.erase creation.loaded.token }

/-- A call answers with the agent token. -/
def EnrollmentWorld.issueAgentToken (w : EnrollmentWorld) (creation : NodeCreation)
    (nodeId : Uuid) : EnrollmentWorld :=
  { w.endCreation creation with
    facts := w.facts ++ [.agentTokenIssued creation.loaded.token nodeId] }

/-- A statement that rejects ends the call. -/
def rejectEnrollment (call : PendingEnrollmentCall) (w : EnrollmentWorld) : EnrollmentWorld :=
  match call with
  | .populatingTeam creation _ | .savingToken creation _ | .publishing creation _ =>
      w.endCreation creation
  | _ => w

/-- A later database step of a call that does not reject. -/
def continueEnrollment (call : PendingEnrollmentCall) (input : EnrollmentInput)
    (w : EnrollmentWorld) : EnrollmentStep :=
  match call with
  | .savingExpired loaded => (w.saveExpired loaded, none)
  | .resolvingWorkspace loaded => (w, some (.assertingWritable loaded input.defaultWorkspaceId))
  | .assertingWritable loaded workspaceId =>
      (w, some (.findingHostname ⟨loaded, input.agentToken,
        loaded.nodeInput platform workspaceId input.agentToken⟩))
  | .findingHostname creation =>
      if w.nodes.rows.any fun node => node.hostname = creation.node.hostname then (w, none)
      else (w, some (.assertingWritableAgain creation))
  | .assertingWritableAgain creation =>
      if creation.node.teamId.isSome then (w, some (.findingTeam creation))
      else (w, some (.insertingNode creation))
  | .findingTeam creation => (w, some (.insertingNode creation))
  | .insertingNode creation =>
      -- the primary key and the unique index on the hostname
      if w.nodes.rows.any fun node =>
          node.id = input.nodeId || node.hostname = creation.node.hostname then (w, none)
      else if creation.node.teamId.isSome then
        (w.insertNode creation input.nodeId, some (.populatingTeam creation input.nodeId))
      else (w.insertNode creation input.nodeId, some (.savingToken creation input.nodeId))
  | .populatingTeam creation nodeId => (w, some (.savingToken creation nodeId))
  | .savingToken creation nodeId =>
      match creation.loaded with
      | .install _ _ _ => (w.saveToken creation nodeId, some (.publishing creation nodeId))
      | .enrollment _ _ _ => ((w.saveToken creation nodeId).issueAgentToken creation nodeId, none)
  | .publishing creation nodeId => (w.issueAgentToken creation nodeId, none)

/-- A later database step of a call. -/
def resumeEnrollment (call : PendingEnrollmentCall) (input : EnrollmentInput)
    (w : EnrollmentWorld) : EnrollmentStep :=
  if input.rejects then (rejectEnrollment call w, none)
  else continueEnrollment platform call input w

/-- Time passes. -/
def enrollmentEnv (ms : ℕ) (w : EnrollmentWorld) : EnrollmentWorld :=
  { w with clock := w.clock + ms }

/-- The family of the calls. -/
def enrollmentCalls :
    Calls EnrollmentWorld EnrollmentRequest PendingEnrollmentCall EnrollmentInput :=
  ⟨invokeEnrollment platform, resumeEnrollment platform⟩

/-- A state of the calls, which are numbered. -/
abbrev EnrollmentConfig := Config ℕ EnrollmentWorld PendingEnrollmentCall

/-- A call moves, or time passes. -/
abbrev EnrollmentEvent := Event ℕ EnrollmentRequest EnrollmentInput ℕ

/-- One event. -/
abbrev enrollmentStep : EnrollmentConfig → EnrollmentEvent → EnrollmentConfig :=
  step (enrollmentCalls platform) enrollmentEnv

end Calls

end EnrollmentsService
