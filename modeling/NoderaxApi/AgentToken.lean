/-
# Agent tokens of a node

`nodes.service.ts`: `authenticateAgent`, `stageAgentTokenRotation`,
`clearPendingAgentTokenRotation` and `revokeAgentToken`, cut at their database
steps.  `authenticateAgent` loads the row with its hidden token columns, decides
on the loaded entity, and may then save that entity; `save` writes every column
back.  The reads that only make up an answer are left out.

`hashAgentToken` is a parameter.  The world records, as history, what the writes
did to the stored hashes and which tokens were accepted.
-/
import NoderaxApi.RootAccess
import NoderaxApi.KeyedTable
import NoderaxApi.Interleaving
import NoderaxApi.Histories

namespace NodesService

open Interleaving Runs

/-! ## The operations on a loaded row -/

/-- `AGENT_TOKEN_ROTATION_PENDING_MS`. -/
def agentTokenRotationPendingMs : ℤ := 5 * 60 * 1000

/-- The truth value of a nullable hash: neither `null` nor empty. -/
def isHashSet (column : Option String) : Bool := column.any (· ≠ "")

/-- `agentTokenHashMatches`: equal buffers. -/
def agentTokenHashMatches (providedHash : String) (stored : Option String) : Bool :=
  stored = some providedHash

/-- What `authenticateAgent` does with the entity it loaded. -/
inductive AgentAuthentication
  /-- It returns the entity. -/
  | done (node : NodeEntity)
  /-- It changed the entity, saves it and returns it. -/
  | saves (node : NodeEntity)
  deriving DecidableEq, Repr

/-- `authenticateAgent`, from the loaded entity to the save. -/
def authenticateAgent (nodeId providedHash : String) (now : ℤ) (loaded : Option NodeEntity) :
    Except HttpError AgentAuthentication :=
  match loaded with
  | none => .error (.notFound s!"Node {nodeId} was not found")
  | some node =>
      if !isHashSet node.agentTokenHash && !isHashSet node.pendingAgentTokenHash then
        .error (.unauthorized "Agent token is not configured for this node")
      else if isHashSet node.agentTokenHash &&
          agentTokenHashMatches providedHash node.agentTokenHash then
        if node.pendingAgentTokenExpiresAt.any (· ≤ now) then
          .ok (.saves { node with
            pendingAgentTokenHash := none
            pendingAgentTokenExpiresAt := none })
        else .ok (.done node)
      else if isHashSet node.pendingAgentTokenHash &&
          node.pendingAgentTokenExpiresAt.any (now < ·) &&
          agentTokenHashMatches providedHash node.pendingAgentTokenHash then
        .ok (.saves { node with
          agentTokenHash := node.pendingAgentTokenHash
          pendingAgentTokenHash := none
          pendingAgentTokenExpiresAt := none
          agentTokenRotatedAt := some now
          agentTokenRevokedAt := none })
      else .error (.unauthorized "Invalid agent token")

/-- The checks of `stageAgentTokenRotation` on the loaded entity; `permitted` is
the answer of the workspace service. -/
def stageAgentTokenRotation (node : NodeEntity) (permitted : Except HttpError Unit) :
    Except HttpError Unit := do
  permitted
  if node.status ≠ .online then
    .error (.badRequest
      s!"Node {node.hostname} must be online before rotating its agent token.")

/-- The UPDATE of `stageAgentTokenRotation`. -/
def agentTokenStaged (tokenHash : String) (expiresAt : ℤ) (row : NodeEntity) : NodeEntity :=
  { row with
    pendingAgentTokenHash := some tokenHash
    pendingAgentTokenExpiresAt := some expiresAt
    agentTokenRevokedAt := none }

/-- The UPDATE of `clearPendingAgentTokenRotation`. -/
def pendingAgentTokenCleared (row : NodeEntity) : NodeEntity :=
  { row with
    pendingAgentTokenHash := none
    pendingAgentTokenExpiresAt := none }

/-- The UPDATE of `revokeAgentToken`. -/
def agentTokenRevoked (now : ℤ) (row : NodeEntity) : NodeEntity :=
  { row with
    agentTokenHash := none
    pendingAgentTokenHash := none
    pendingAgentTokenExpiresAt := none
    agentTokenRevokedAt := some now
    status := .offline }

/-! ## What a successful authentication decided -/

/-- An entity returned without a save carries the hash as its current one. -/
theorem authenticateAgent_done {nodeId providedHash : String} {now : ℤ}
    {loaded : Option NodeEntity} {node : NodeEntity}
    (h : authenticateAgent nodeId providedHash now loaded = .ok (.done node)) :
    loaded = some node ∧ node.agentTokenHash = some providedHash := by
  unfold authenticateAgent at h
  split at h
  · cases h
  · next row =>
      split_ifs at h with hnone hcurrent hexpired hpending
      · cases h
      · cases h
        have hmatch := (Bool.and_eq_true_iff.mp hcurrent).2
        exact ⟨rfl, by simpa [agentTokenHashMatches] using hmatch⟩
      · cases h

/-- A saved entity carries the hash as its current one and nothing pending. -/
theorem authenticateAgent_saves {nodeId providedHash : String} {now : ℤ}
    {loaded : Option NodeEntity} {node : NodeEntity}
    (h : authenticateAgent nodeId providedHash now loaded = .ok (.saves node)) :
    ∃ row, loaded = some row ∧ node.id = row.id ∧ node.agentTokenHash = some providedHash ∧
      node.pendingAgentTokenHash = none := by
  unfold authenticateAgent at h
  split at h
  · cases h
  · next row =>
      split_ifs at h with hnone hcurrent hexpired hpending
      · cases h
        have hmatch := (Bool.and_eq_true_iff.mp hcurrent).2
        exact ⟨row, rfl, rfl, by simpa [agentTokenHashMatches] using hmatch, rfl⟩
      · cases h
      · cases h
        have hmatch := (Bool.and_eq_true_iff.mp hpending).2
        exact ⟨row, rfl, rfl, by simpa [agentTokenHashMatches] using hmatch, rfl⟩

/-! ## The history of the stored hashes -/

/-- What happened to the tokens of a node. -/
inductive TokenFact
  /-- A token was issued, with an expiry if it was staged. -/
  | issued (nodeId : Uuid) (tokenHash : String) (expiresAt : Option ℤ)
  /-- The pending hash left the row without becoming the current one. -/
  | cleared (nodeId : Uuid) (tokenHash : String)
  /-- `agentTokenHash` became another hash. -/
  | promoted (nodeId : Uuid) (old : Option String) (tokenHash : String) (time : ℤ)
  /-- The UPDATE of `revokeAgentToken` took effect. -/
  | revoked (nodeId : Uuid)
  /-- `authenticateAgent` returned the node for a token with this hash. -/
  | accepted (nodeId : Uuid) (tokenHash : String)
  deriving DecidableEq, Repr

/-- The node an entry is about. -/
def TokenFact.nodeId : TokenFact → Uuid
  | .issued nodeId _ _ | .cleared nodeId _ | .promoted nodeId _ _ _ | .revoked nodeId
  | .accepted nodeId _ => nodeId

/-- The `cleared` entry of a write that turns `row` into `row'`. -/
def clearedBy (row row' : NodeEntity) : List TokenFact :=
  match row.pendingAgentTokenHash with
  | none => []
  | some pending =>
      if row'.pendingAgentTokenHash = some pending ∨ row'.agentTokenHash = some pending then []
      else [.cleared row.id pending]

/-- The `promoted` entry of a write that turns `row` into `row'`. -/
def promotedBy (time : ℤ) (row row' : NodeEntity) : List TokenFact :=
  match row'.agentTokenHash with
  | none => []
  | some tokenHash =>
      if row.agentTokenHash = some tokenHash then []
      else [.promoted row.id row.agentTokenHash tokenHash time]

/-! ## The calls -/

/-- The `nodes` table, the clock, and the history, the latest entry last. -/
structure TokenWorld where
  nodes : List NodeEntity
  clock : ℤ
  history : List TokenFact := []

/-- `findOne({ where: { id } })`. -/
def TokenWorld.findNode (w : TokenWorld) (id : Uuid) : Option NodeEntity :=
  KeyedTable.find NodeEntity.id w.nodes id

/-- A write of the row with this id, with the entries it makes. -/
def TokenWorld.write (w : TokenWorld) (id : Uuid) (f : NodeEntity → NodeEntity) : TokenWorld :=
  match w.findNode id with
  | none => w
  | some row =>
      { w with
        nodes := KeyedTable.put NodeEntity.id (f row) w.nodes
        history := w.history ++ clearedBy row (f row) ++ promotedBy w.clock row (f row) }

/-- One more entry. -/
def TokenWorld.record (w : TokenWorld) (fact : TokenFact) : TokenWorld :=
  { w with history := w.history ++ [fact] }

/-- The four operations. -/
inductive TokenRequest
  | authenticateAgent (nodeId : Uuid) (agentToken : String)
  | stageAgentTokenRotation (nodeId : Uuid) (workspaceId : Option Uuid)
  | clearPendingAgentTokenRotation (nodeId : Uuid)
  | revokeAgentToken (nodeId : Uuid) (workspaceId : Option Uuid)

/-- What is left of a call. -/
inductive PendingToken
  /-- The changed entity is saved next. -/
  | save (node : NodeEntity) (providedHash : String)
  /-- The checks of the rotation are next, and then the new token. -/
  | stageChecks (node : NodeEntity)
  /-- The UPDATE of the rotation is next. -/
  | stageUpdate (nodeId : Uuid) (tokenHash : String) (expiresAt : ℤ)
  /-- The checks of the revocation are next. -/
  | revokeChecks (node : NodeEntity)
  /-- The UPDATE of the revocation is next. -/
  | revokeUpdate (nodeId : Uuid) (now : ℤ)

/-- What a step receives: 32 random bytes in hexadecimal, and the answer of
`assertWorkspaceAdmin` and `assertWorkspaceWritable`. -/
structure TokenInput where
  agentToken : String := ""
  permitted : Except HttpError Unit := .ok ()

/-- Time passes, and other services save nodes loaded without the token
columns. -/
inductive TokenEnv
  | advance (ms : ℕ)
  | save (entity : NodeEntity)

/-- A step of the environment. -/
def tokenEnv (e : TokenEnv) (w : TokenWorld) : TokenWorld :=
  match e with
  | .advance ms => { w with clock := w.clock + ms }
  | .save entity => { w with nodes := entity.save w.nodes }

section Calls

variable (hashAgentToken : String → String)

/-- The first database step of a call. -/
def invokeToken (request : TokenRequest) (_ : TokenInput) (w : TokenWorld) :
    TokenWorld × Option PendingToken :=
  match request with
  | .authenticateAgent nodeId agentToken =>
      match authenticateAgent nodeId (hashAgentToken agentToken) w.clock (w.findNode nodeId) with
      | .error _ => (w, none)
      | .ok (.done _) => (w.record (.accepted nodeId (hashAgentToken agentToken)), none)
      | .ok (.saves node) => (w, some (.save node (hashAgentToken agentToken)))
  | .stageAgentTokenRotation nodeId workspaceId =>
      match findOneOrFail w.nodes nodeId workspaceId with
      | .error _ => (w, none)
      | .ok node => (w, some (.stageChecks node))
  | .clearPendingAgentTokenRotation nodeId => (w.write nodeId pendingAgentTokenCleared, none)
  | .revokeAgentToken nodeId workspaceId =>
      match findOneOrFail w.nodes nodeId workspaceId with
      | .error _ => (w, none)
      | .ok node => (w, some (.revokeChecks node))

/-- The next step of a call. -/
def resumeToken (call : PendingToken) (input : TokenInput) (w : TokenWorld) :
    TokenWorld × Option PendingToken :=
  match call with
  | .save node providedHash =>
      ((w.write node.id fun _ => node).record (.accepted node.id providedHash), none)
  | .stageChecks node =>
      match stageAgentTokenRotation node input.permitted with
      | .error _ => (w, none)
      | .ok _ =>
          (w, some (.stageUpdate node.id (hashAgentToken input.agentToken)
            (w.clock + agentTokenRotationPendingMs)))
  | .stageUpdate nodeId tokenHash expiresAt =>
      ((w.record (.issued nodeId tokenHash (some expiresAt))).write nodeId
        (agentTokenStaged tokenHash expiresAt), none)
  | .revokeChecks node =>
      match input.permitted with
      | .error _ => (w, none)
      | .ok _ => (w, some (.revokeUpdate node.id w.clock))
  | .revokeUpdate nodeId now =>
      ((w.write nodeId (agentTokenRevoked now)).record (.revoked nodeId), none)

/-- The family of the four operations. -/
def tokenCalls : Calls TokenWorld TokenRequest PendingToken TokenInput :=
  ⟨invokeToken hashAgentToken, resumeToken hashAgentToken⟩

/-- A state of the calls, which are numbered. -/
abbrev TokenConfig := Config ℕ TokenWorld PendingToken

/-- An event of the calls. -/
abbrev TokenEvent := Event ℕ TokenRequest TokenInput TokenEnv

/-- The entries the rows start with. -/
def openingHistory (nodes : List NodeEntity) : List TokenFact :=
  nodes.flatMap fun row =>
    (row.agentTokenHash.toList.map fun tokenHash => .issued row.id tokenHash none) ++
      row.pendingAgentTokenHash.toList.map fun tokenHash =>
        .issued row.id tokenHash row.pendingAgentTokenExpiresAt

/-- The state before the first event. -/
abbrev tokenStart (nodes : List NodeEntity) (clock : ℤ) : TokenConfig :=
  Config.idle { nodes := nodes, clock := clock, history := openingHistory nodes }

/-- The state after the events `es`. -/
abbrev tokenRun (nodes : List NodeEntity) (clock : ℤ) (es : List TokenEvent) : TokenConfig :=
  run (Interleaving.step (tokenCalls hashAgentToken) tokenEnv) (tokenStart nodes clock) es

end Calls

end NodesService
