/-
# The `nodes` row

The columns of `NodeEntity` that the modelled operations read or write, and the
two ways a loaded entity is saved: an entity loaded with the hidden token
columns writes all of them back, one loaded without them leaves them alone.
-/
import NoderaxApi.Common
import NoderaxApi.KeyedTable

/-! ## Enumerations -/

/-- `NodeStatus`. -/
inductive NodeStatus
  | online
  | offline
  deriving DecidableEq, Repr

/-- `NODE_ROOT_ACCESS_PROFILES`. -/
inductive NodeRootAccessProfile
  | off
  | operational
  | task
  | terminal
  | operationalTask
  | operationalTerminal
  | taskTerminal
  | all
  deriving DecidableEq, Repr

/-- The stored text of a profile. -/
def NodeRootAccessProfile.text : NodeRootAccessProfile → String
  | .off => "off"
  | .operational => "operational"
  | .task => "task"
  | .terminal => "terminal"
  | .operationalTask => "operational_task"
  | .operationalTerminal => "operational_terminal"
  | .taskTerminal => "task_terminal"
  | .all => "all"

/-- The elements of `NODE_ROOT_ACCESS_PROFILES`, in its order. -/
def NodeRootAccessProfile.values : List NodeRootAccessProfile :=
  [.off, .operational, .task, .terminal, .operationalTask, .operationalTerminal,
    .taskTerminal, .all]

/-- The profile a text names, if `NODE_ROOT_ACCESS_PROFILES` includes it. -/
def NodeRootAccessProfile.ofText? (s : String) : Option NodeRootAccessProfile :=
  NodeRootAccessProfile.values.find? fun p => p.text = s

/-- `NodeRootAccessSyncStatus`. -/
inductive NodeRootAccessSyncStatus
  | pending
  | applied
  | failed
  deriving DecidableEq, Repr

/-- The stored text of a sync status. -/
def NodeRootAccessSyncStatus.text : NodeRootAccessSyncStatus → String
  | .pending => "pending"
  | .applied => "applied"
  | .failed => "failed"

/-- The privileged surfaces (`NodeRootAccessSurface`). -/
inductive NodeRootAccessSurface
  | operational
  | task
  | terminal
  deriving DecidableEq, Repr

/-- The name of a surface inside an error message. -/
def NodeRootAccessSurface.text : NodeRootAccessSurface → String
  | .operational => "operational"
  | .task => "task"
  | .terminal => "terminal"

/-! ## The row -/

/-- A row of the `nodes` table. -/
structure NodeEntity where
  id : Uuid
  workspaceId : Uuid
  hostname : String
  status : NodeStatus := .offline
  maintenanceMode : Bool := false
  rootAccessProfile : NodeRootAccessProfile := .off
  rootAccessAppliedProfile : NodeRootAccessProfile := .off
  rootAccessSyncStatus : NodeRootAccessSyncStatus := .pending
  rootAccessUpdatedAt : Option ℤ := none
  rootAccessUpdatedByUserId : Option Uuid := none
  rootAccessExpiresAt : Option ℤ := none
  rootAccessReason : Option String := none
  rootAccessGrantedByUserId : Option Uuid := none
  rootAccessGrantId : Option Uuid := none
  rootAccessLastAppliedAt : Option ℤ := none
  rootAccessLastError : Option String := none
  agentTokenHash : Option String := none
  pendingAgentTokenHash : Option String := none
  pendingAgentTokenExpiresAt : Option ℤ := none
  agentTokenRotatedAt : Option ℤ := none
  agentTokenRevokedAt : Option ℤ := none
  deriving DecidableEq, Repr

namespace NodeEntity

/-- The row after `save` of an entity loaded without the `select: false` columns:
they are not part of the entity, so the row keeps its own. -/
def saveOver (entity row : NodeEntity) : NodeEntity :=
  { entity with
    agentTokenHash := row.agentTokenHash
    pendingAgentTokenHash := row.pendingAgentTokenHash
    pendingAgentTokenExpiresAt := row.pendingAgentTokenExpiresAt }

/-- `nodesRepository.save(entity)` on the table. -/
def save (entity : NodeEntity) (nodes : List NodeEntity) : List NodeEntity :=
  nodes.map fun row => if row.id = entity.id then entity.saveOver row else row

/-- A saved table holds old rows and rows that carry the entity. -/
theorem mem_save {entity r : NodeEntity} {nodes : List NodeEntity} (h : r ∈ entity.save nodes) :
    (r ∈ nodes ∧ r.id ≠ entity.id) ∨ ∃ row ∈ nodes, r = entity.saveOver row := by
  rw [save, List.mem_map] at h
  obtain ⟨row, hrow, rfl⟩ := h
  by_cases hid : row.id = entity.id
  · rw [if_pos hid]
    exact Or.inr ⟨row, hrow, rfl⟩
  · rw [if_neg hid]
    exact Or.inl ⟨hrow, hid⟩

end NodeEntity
