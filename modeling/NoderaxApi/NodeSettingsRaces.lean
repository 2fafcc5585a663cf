/-
# The operator's settings among the agents' writes

A save writes the settings back that its copy was loaded with.  So the settings of a node
stay what the operators made them exactly when every save finds, beside the settings it is
meant to change, the ones it had loaded; and the expiry finds a grant that has come to its
end, or none.
-/
import NoderaxApi.NodeSettings

namespace NodesService

open KeyedTable Interleaving Runs

/-! ## What is claimed -/

/-- **The settings of every node are the desired ones.** -/
def SettingsKept (w : SettingsWorld) : Prop :=
  ∀ row ∈ w.nodes.rows, w.desired row.id = some row.settings

/-- The settings that a save is not meant to change are the same in its copy and in the
row. -/
def SettingsWrite.LeavesOthers (write : SettingsWrite) (copy row : NodeRow) : Prop :=
  match write with
  | .rootAccess => copy.maintenanceMode = row.maintenanceMode ∧ copy.teamId = row.teamId
  | .maintenance => copy.grant = row.grant ∧ copy.teamId = row.teamId
  | .team => copy.grant = row.grant ∧ copy.maintenanceMode = row.maintenanceMode
  | .agent =>
      copy.grant = row.grant ∧ copy.maintenanceMode = row.maintenanceMode ∧
        copy.teamId = row.teamId

instance (write : SettingsWrite) (copy row : NodeRow) :
    Decidable (write.LeavesOthers copy row) := by
  cases write <;> unfold SettingsWrite.LeavesOthers <;> infer_instance

/-- The expiry ends a grant that has come to its end, or finds none, and leaves the other
settings as they are. -/
def ExpiresEnded (now : ℤ) (copy row : NodeRow) : Prop :=
  (row.grant.hasEnded now = true ∨ row.grant = {}) ∧
    copy.maintenanceMode = row.maintenanceMode ∧ copy.teamId = row.teamId

instance (now : ℤ) (copy row : NodeRow) : Decidable (ExpiresEnded now copy row) := by
  unfold ExpiresEnded; infer_instance

/-- **What was loaded is still there** when it is saved. -/
def SavesLoaded (w : SettingsWorld) : PendingSettingsCall → SettingsInput → Prop
  | .save write _ copy, _ => ∀ row ∈ w.nodes.get copy.id, write.LeavesOthers copy row
  | .expire now (node :: _), _ => ∀ row ∈ w.nodes.get node.id, ExpiresEnded now node row
  | _, _ => True

instance (w : SettingsWorld) (call : PendingSettingsCall) (input : SettingsInput) :
    Decidable (SavesLoaded w call input) := by
  unfold SavesLoaded
  split <;> infer_instance

/-! ## The writes -/

variable {w : SettingsWorld}

/-- Rows with the settings they had. -/
theorem SettingsKept.update {p : NodeRow → Bool} {f : NodeRow → NodeRow}
    (hf : ∀ row, (f row).key = row.key) (hsettings : ∀ row, (f row).settings = row.settings)
    (h : SettingsKept w) : SettingsKept { w with nodes := w.nodes.update p f hf } := by
  intro row hrow
  simp only at hrow
  rcases Table.mem_update hrow with ⟨hold, -⟩ | ⟨old, hold, -, rfl⟩
  · exact h row hold
  · have hid : (f old).id = old.id := hf old
    rw [hsettings, hid]
    exact h old hold

/-- **A save keeps the settings** exactly when its copy carries what it is meant to make of
the row's. -/
theorem settingsKept_save {desire : DesiredSettings → DesiredSettings} {tokensLoaded : Bool}
    {copy : NodeRow} (h : SettingsKept w) :
    SettingsKept (w.save desire tokensLoaded copy) ↔
      ∀ row ∈ w.nodes.get copy.id, copy.settings = desire row.settings := by
  constructor
  · intro hafter row hrow
    have hget : w.nodes.get copy.id = some row := hrow
    have hkey : row.key = copy.id := Table.key_of_get hget
    have hid : row.id = copy.id := hkey
    have hmem : copy.savedOver tokensLoaded row ∈ (w.save desire tokensLoaded copy).nodes.rows := by
      simp only [SettingsWorld.save]
      exact (Table.mem_update_key hget _).mpr (Or.inr rfl)
    have hkept := hafter _ hmem
    rw [NodeRow.savedOver_settings] at hkept
    have hdesired : (w.save desire tokensLoaded copy).desired (copy.savedOver tokensLoaded row).id
        = some (desire row.settings) := by
      show Function.update w.desired copy.id _ row.id = _
      rw [hid, Function.update_self, ← hid, h row (Table.mem_of_get hget)]
      rfl
    rw [hdesired] at hkept
    exact (Option.some.inj hkept).symm
  · intro hsame row hrow
    simp only [SettingsWorld.save] at hrow ⊢
    rcases Table.mem_update hrow with ⟨hold, hne⟩ | ⟨old, hold, hid, rfl⟩
    · have hne' : row.id ≠ copy.id := of_decide_eq_false hne
      rw [Function.update_of_ne hne']
      exact h row hold
    · have hid' : old.id = copy.id := of_decide_eq_true hid
      have hget : w.nodes.get copy.id = some old := by
        rw [← hid']
        exact Table.get_of_mem hold
      have hdesired : w.desired copy.id = some old.settings := by
        rw [← hid']
        exact h old hold
      rw [NodeRow.savedOver_settings, hsame old hget]
      show Function.update w.desired copy.id _ old.id = _
      rw [hid', Function.update_self, hdesired]
      rfl

/-- The settings a save is meant to make of a row's are those of its copy exactly when the
others are the row's own. -/
theorem SettingsWrite.settings_eq_iff (write : SettingsWrite) (copy row : NodeRow) :
    copy.settings = write.desire copy.settings row.settings ↔ write.LeavesOthers copy row := by
  cases write with
  | rootAccess => simp [desire, LeavesOthers, NodeRow.settings]
  | maintenance => simp [desire, LeavesOthers, NodeRow.settings]
  | team => simp [desire, LeavesOthers, NodeRow.settings]
  | agent => simp [desire, LeavesOthers, NodeRow.settings]

/-- The cron job's copy of a row has no grant. -/
theorem expired_settings_eq_iff (now : ℤ) (node row : NodeRow) :
    NodeRow.settings { node with toNodeEntity := expireRootAccessGrant now node.toNodeEntity }
        = row.settings.expire now ↔ ExpiresEnded now node row := by
  have hcopy : NodeRow.settings
      { node with toNodeEntity := expireRootAccessGrant now node.toNodeEntity }
        = { grant := {}, maintenanceMode := node.maintenanceMode, teamId := node.teamId } := rfl
  rw [hcopy]
  unfold DesiredSettings.expire ExpiresEnded
  have hgrant : row.settings.grant = row.grant := rfl
  rw [hgrant]
  cases hended : row.grant.hasEnded now with
  | true => simp [NodeRow.settings]
  | false => simp [NodeRow.settings, eq_comm]

/-! ## The steps -/

/-- The first step of a call changes no settings. -/
theorem invoke_settingsKept (request : SettingsRequest) (input : SettingsInput)
    (h : SettingsKept w) : SettingsKept (invokeSettings request input w).1 := by
  cases request with
  | updateRootAccessProfile nodeId workspaceId actorId dto => exact h
  | updateTeamAssignment nodeId workspaceId teamId => exact h
  | enableMaintenance nodeId workspaceId actorId reason => exact h
  | disableMaintenance nodeId workspaceId => exact h
  | recordAgentRootAccessState nodeId report =>
      simp only [invokeSettings, reportStep]
      split
      · exact h
      · exact h
  | markOnline nodeId updates =>
      simp only [invokeSettings, markOnlineStep]
      split
      · exact h.update (markedOnline_key w.clock updates) (markedOnline_settings w.clock updates)
      · exact h
  | markOffline nodeId =>
      simp only [invokeSettings, markOfflineStep]
      split
      · exact h.update markedOffline_key fun row => rfl
      · exact h
  | authenticateAgent nodeId providedHash =>
      simp only [invokeSettings, authenticateStep]
      split
      · exact h
      · split
        · exact h
        · exact h
        · exact h
  | expireRootAccessGrants => exact h

/-- **What a later step does to the settings.** -/
theorem resume_settingsKept (call : PendingSettingsCall) (input : SettingsInput)
    (h : SettingsKept w) :
    SettingsKept (resumeSettings call input w).1 ↔ SavesLoaded w call input := by
  have hsame : ∀ {next : SettingsStep}, next.1 = w → SavesLoaded w call input →
      (SettingsKept next.1 ↔ SavesLoaded w call input) := by
    intro next hnext hguard
    rw [hnext]
    exact ⟨fun _ => hguard, fun _ => h⟩
  cases call with
  | rootAccessChecks node actorId dto =>
      refine hsame ?_ trivial
      simp only [resumeSettings, operatorStep]
      split
      · rfl
      · rfl
  | teamChecks node teamId =>
      refine hsame ?_ trivial
      simp only [resumeSettings, operatorStep]
      split
      · rfl
      · rfl
  | enableChecks node actorId reason =>
      refine hsame ?_ trivial
      simp only [resumeSettings, operatorStep]
      split
      · rfl
      · rfl
  | disableChecks node =>
      refine hsame ?_ trivial
      simp only [resumeSettings, operatorStep]
      split
      · rfl
      · rfl
  | onlineFind nodeId now updates => exact hsame rfl trivial
  | offlineFind nodeId =>
      refine hsame ?_ trivial
      simp only [resumeSettings]
      split
      · rfl
      · split
        · rfl
        · rfl
  | save write tokensLoaded copy =>
      refine (settingsKept_save h).trans ?_
      exact forall₂_congr fun row _ => write.settings_eq_iff copy row
  | expire now remaining =>
      cases remaining with
      | nil => exact hsame rfl trivial
      | cons node rest =>
          refine (settingsKept_save h).trans ?_
          exact forall₂_congr fun row _ => expired_settings_eq_iff now node row

/-- A new node has the settings it is created with, and time changes none. -/
theorem env_settingsKept (e : SettingsEnv) (h : SettingsKept w) :
    SettingsKept (settingsEnv e w) := by
  cases e with
  | advance ms => exact h
  | nodeCreated node =>
      simp only [settingsEnv]
      split
      · next hnew =>
          have hnone : w.nodes.get node.id = none := Option.isNone_iff_eq_none.mp hnew
          intro row hrow
          simp only at hrow
          rcases Table.mem_insert hrow with hold | ⟨rfl, -⟩
          · have hne : row.id ≠ node.id := by
              intro heq
              have hget : w.nodes.get row.key = some row := Table.get_of_mem hold
              rw [NodeRow.key, heq, hnone] at hget
              exact absurd hget (by simp)
            show Function.update w.desired node.id _ row.id = _
            rw [Function.update_of_ne hne]
            exact h row hold
          · exact Function.update_self row.id _ w.desired
      · exact h

/-! ## Runs -/

/-- The pending calls of a run. -/
abbrev SettingsConfig := Config ℕ SettingsWorld PendingSettingsCall

/-- A call moves, time passes, or a node is created. -/
abbrev SettingsEvent := Event ℕ SettingsRequest SettingsInput SettingsEnv

/-- The nodes and the pending calls after a run. -/
def settingsRun (es : List SettingsEvent) : SettingsConfig :=
  run (step settingsCalls settingsEnv) (Config.idle {}) es

/-- **One event.** -/
theorem settings_step (c : SettingsConfig) (e : SettingsEvent) (h : SettingsKept c.world) :
    SettingsKept (step settingsCalls settingsEnv c e).world ↔ ResumeGuard SavesLoaded c e :=
  world_step_iff h
    (fun request input => iff_of_true (invoke_settingsKept request input h) trivial)
    (fun call input => resume_settingsKept call input h)
    (fun e => iff_of_true (env_settingsKept e h) trivial) e

/-- The agent's report loads the row; the operator grants root access, and the request
returns; then the report saves what it loaded. -/
def reportAroundGrant : List SettingsEvent :=
  [.env (.nodeCreated { id := "n", workspaceId := "w", hostname := "h", status := .online }),
   .invoke 0 (.recordAgentRootAccessState "n" (some { appliedProfile := some "task" })) {},
   .invoke 1 (.updateRootAccessProfile "n" (some "w") "u"
     { profile := .all, durationMinutes := some 30, reason := some "upgrade" }) {},
   .resume 1 { grantId := "g" }, .resume 1 {},
   .resume 0 {}]

end NodesService
