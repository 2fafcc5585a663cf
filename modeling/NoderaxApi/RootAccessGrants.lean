/-
# Grants of root access over a whole run

The operator, the agent, the expiry cron and the clock move in any order.  The
state carries the clock, the `nodes` table and, as history, the latest operator
decision for each node; nothing of the code reads that history.

A row of the table follows its decision in one of two ways (`Reflects`): it still
carries the grant, or it carries no grant at all, and then a grant that was given
has run out.  What the agent reported as applied is free in both cases, which is
where the checks and the decisions part.
-/
import NoderaxApi.RootAccess

namespace NodesService

open Runs

/-! ## The system -/

/-- An operator's decision: the profile, and when the grant of a non-off profile
ends. -/
structure RootAccessDecision where
  profile : NodeRootAccessProfile
  expiresAt : ℤ
  deriving DecidableEq, Repr

/-- The clock, the table, and the latest decision for each node. -/
structure GrantState where
  clock : ℤ
  nodes : List NodeEntity
  decisions : Uuid → Option RootAccessDecision

/-- One atomic step.  `permitted` is the outcome of `assertWorkspaceAdmin` and
`assertWorkspaceWritable`, `configured` the configured maximum duration. -/
inductive GrantEvent
  | createNode (id workspaceId : Uuid) (hostname : String)
  | updateRootAccessProfile (nodeId : Uuid) (workspaceId : Option Uuid)
      (permitted : Except HttpError Unit) (configured : Option ℤ) (actorId grantId : Uuid)
      (dto : UpdateNodeRootAccessDto)
  | recordAgentRootAccessState (nodeId : Uuid) (report : NodeRootAccessSyncReport)
  | expireRootAccessGrants
  | advance (ms : ℕ)

/-- No node yet, at some clock reading. -/
def GrantState.initial (clock : ℤ) : GrantState := ⟨clock, [], fun _ => none⟩

/-- The loaded row and the entity that `updateRootAccessProfile` saves. -/
def decideRootAccess (clock : ℤ) (nodes : List NodeEntity) (nodeId : Uuid)
    (workspaceId : Option Uuid) (permitted : Except HttpError Unit) (configured : Option ℤ)
    (actorId grantId : Uuid) (dto : UpdateNodeRootAccessDto) : Except HttpError NodeEntity := do
  let node ← findOneOrFail nodes nodeId workspaceId
  permitted
  updateRootAccessProfile configured actorId grantId clock dto node

/-- The entity that `recordAgentRootAccessState` saves, if it saves one. -/
def reportRootAccess (nodes : List NodeEntity) (nodeId : Uuid)
    (report : NodeRootAccessSyncReport) : Option NodeEntity :=
  match findOneOrFail nodes nodeId none with
  | .ok node => recordAgentRootAccessState report node
  | .error _ => none

/-- One event. -/
def grantStep (s : GrantState) : GrantEvent → GrantState
  | .createNode id workspaceId hostname =>
      if s.nodes.any (·.id = id) then s
      else
        { s with
          nodes := s.nodes ++ [{ id := id, workspaceId := workspaceId, hostname := hostname }]
          decisions := Function.update s.decisions id none }
  | .updateRootAccessProfile nodeId workspaceId permitted configured actorId grantId dto =>
      match decideRootAccess s.clock s.nodes nodeId workspaceId permitted configured actorId
          grantId dto with
      | .error _ => s
      | .ok entity =>
          { s with
            nodes := entity.save s.nodes
            decisions := Function.update s.decisions nodeId (some
              { profile := dto.profile
                expiresAt := s.clock + dto.durationMinutes.getD 0 * 60 * 1000 }) }
  | .recordAgentRootAccessState nodeId report =>
      match reportRootAccess s.nodes nodeId report with
      | none => s
      | some entity => { s with nodes := entity.save s.nodes }
  | .expireRootAccessGrants => { s with nodes := expireRootAccessGrants s.clock s.nodes }
  | .advance ms => { s with clock := s.clock + ms }

/-- The latest decision for the row's node is a grant that covers the surface and
ends after the present instant. -/
def Authorised (s : GrantState) (row : NodeEntity) (surface : NodeRootAccessSurface) : Prop :=
  ∃ decision ∈ s.decisions row.id, decision.profile ≠ .off ∧
    profileAllowsSurface decision.profile surface = true ∧ s.clock < decision.expiresAt

instance (s : GrantState) (row : NodeEntity) (surface : NodeRootAccessSurface) :
    Decidable (Authorised s row surface) := by
  unfold Authorised; infer_instance

/-! ## The invariant -/

/-- The row carries no grant, and a grant that was given has ended. -/
def Withdrawn (clock : ℤ) (decision : Option RootAccessDecision) (row : NodeEntity) : Prop :=
  row.rootAccessProfile = .off ∧ row.rootAccessExpiresAt = none ∧
    ∀ d ∈ decision, d.profile ≠ .off → d.expiresAt ≤ clock

/-- The row carries the grant of its decision. -/
def Granted (decision : Option RootAccessDecision) (row : NodeEntity) : Prop :=
  ∃ d ∈ decision, d.profile ≠ .off ∧ row.rootAccessProfile = d.profile ∧
    row.rootAccessExpiresAt = some d.expiresAt

/-- How a row follows the latest decision for its node. -/
def Reflects (clock : ℤ) (decision : Option RootAccessDecision) (row : NodeEntity) : Prop :=
  Withdrawn clock decision row ∨ Granted decision row

/-- Every row follows its decision. -/
def GrantState.Consistent (s : GrantState) : Prop :=
  ∀ row ∈ s.nodes, Reflects s.clock (s.decisions row.id) row

/-- `Reflects` reads only the operator's columns. -/
theorem Reflects.of_columns_eq {clock : ℤ} {decision : Option RootAccessDecision}
    {row row' : NodeEntity} (h : Reflects clock decision row)
    (hprofile : row'.rootAccessProfile = row.rootAccessProfile)
    (hexpires : row'.rootAccessExpiresAt = row.rootAccessExpiresAt) :
    Reflects clock decision row' := by
  unfold Reflects Withdrawn Granted at *
  rw [hprofile, hexpires]
  exact h

/-- A later clock keeps the relation. -/
theorem Reflects.mono {clock clock' : ℤ} {decision : Option RootAccessDecision}
    {row : NodeEntity} (h : Reflects clock decision row) (hle : clock ≤ clock') :
    Reflects clock' decision row := by
  rcases h with ⟨hoff, hnone, hended⟩ | hgranted
  · refine Or.inl ⟨hoff, hnone, ?_⟩
    intro d hd hne
    have hend : d.expiresAt ≤ clock := hended d hd hne
    omega
  · exact Or.inr hgranted

/-- The entity that an operator's update saves reflects the new decision. -/
theorem decideRootAccess_reflects {clock : ℤ} {nodes : List NodeEntity} {nodeId : Uuid}
    {workspaceId : Option Uuid} {permitted : Except HttpError Unit} {configured : Option ℤ}
    {actorId grantId : Uuid} {dto : UpdateNodeRootAccessDto} {entity : NodeEntity}
    (h : decideRootAccess clock nodes nodeId workspaceId permitted configured actorId grantId
      dto = .ok entity) :
    entity.id = nodeId ∧
      Reflects clock (some
        { profile := dto.profile
          expiresAt := clock + dto.durationMinutes.getD 0 * 60 * 1000 }) entity := by
  unfold decideRootAccess at h
  cases hnode : findOneOrFail nodes nodeId workspaceId with
  | error e => rw [hnode] at h; cases h
  | ok node =>
      rw [hnode] at h
      cases hguard : permitted with
      | error e => rw [hguard] at h; cases h
      | ok _ =>
          rw [hguard] at h
          have hupdate : updateRootAccessProfile configured actorId grantId clock dto node
              = .ok entity := h
          have hid : entity.id = node.id := (updateRootAccessProfile_ok hupdate).1
          refine ⟨hid.trans (findOneOrFail_ok hnode).2, ?_⟩
          rcases (updateRootAccessProfile_ok hupdate).2 with
            ⟨hoff, hdto, hnone⟩ | ⟨hprofile, hne, hexpires⟩
          · refine Or.inl ⟨hoff, hnone, ?_⟩
            intro d hd hdne
            rw [Option.mem_some] at hd
            subst hd
            exact absurd hdto hdne
          · exact Or.inr ⟨_, rfl, hne, hprofile, hexpires⟩

/-- What the cron makes of a row still reflects the decision. -/
theorem Reflects.expire {clock : ℤ} {decision : Option RootAccessDecision} {row : NodeEntity}
    (h : Reflects clock decision row) (hexpired : hasExpiredGrant clock row = true) :
    Reflects clock decision (expireRootAccessGrant clock row) := by
  refine Or.inl ⟨rfl, rfl, ?_⟩
  intro d hd hne
  rcases h with ⟨_, _, hended⟩ | ⟨d', hd', _, _, hexpires⟩
  · exact hended d hd hne
  · have hsame : d' = d := by
      rw [Option.mem_def] at hd hd'
      rw [hd] at hd'
      exact (Option.some.inj hd').symm
    subst hsame
    unfold hasExpiredGrant at hexpired
    rw [hexpires] at hexpired
    simpa using (Bool.and_eq_true_iff.mp hexpired).2

/-- **One event keeps every row consistent with its decision.** -/
theorem grantStep_consistent (s : GrantState) (e : GrantEvent) (h : s.Consistent) :
    (grantStep s e).Consistent := by
  cases e with
  | createNode id workspaceId hostname =>
      simp only [grantStep]
      split
      · exact h
      · next hfresh =>
          intro row hrow
          rw [List.mem_append, List.mem_singleton] at hrow
          rcases hrow with hrow | rfl
          · have hne : row.id ≠ id := by
              intro heq
              exact hfresh (List.any_eq_true.mpr ⟨row, hrow, by simpa using heq⟩)
            show Reflects s.clock (Function.update s.decisions id none row.id) row
            rw [Function.update_of_ne hne]
            exact h row hrow
          · refine Or.inl ⟨rfl, rfl, ?_⟩
            intro d hd
            simp at hd
  | updateRootAccessProfile nodeId workspaceId permitted configured actorId grantId dto =>
      simp only [grantStep]
      split
      · exact h
      · next entity hentity =>
          obtain ⟨hid, hreflects⟩ := decideRootAccess_reflects hentity
          intro row hrow
          rcases NodeEntity.mem_save hrow with ⟨hold, hne⟩ | ⟨old, _, rfl⟩
          · rw [hid] at hne
            show Reflects s.clock (Function.update s.decisions nodeId _ row.id) row
            rw [Function.update_of_ne hne]
            exact h row hold
          · show Reflects s.clock (Function.update s.decisions nodeId _ entity.id) _
            rw [hid, Function.update_self]
            exact hreflects.of_columns_eq rfl rfl
  | recordAgentRootAccessState nodeId report =>
      simp only [grantStep]
      split
      · exact h
      · next entity hentity =>
          unfold reportRootAccess at hentity
          split at hentity
          · next node hnode =>
              obtain ⟨hid, hprofile, hexpires⟩ := recordAgentRootAccessState_frame hentity
              intro row hrow
              rcases NodeEntity.mem_save hrow with ⟨hold, _⟩ | ⟨old, _, rfl⟩
              · exact h row hold
              · show Reflects s.clock (s.decisions entity.id) _
                rw [hid]
                exact (h node (findOneOrFail_ok hnode).1).of_columns_eq hprofile hexpires
          · cases hentity
  | expireRootAccessGrants =>
      intro row hrow
      obtain ⟨old, hold, rfl⟩ := List.mem_map.mp hrow
      by_cases hexpired : hasExpiredGrant s.clock old = true
      · rw [if_pos hexpired]
        exact (h old hold).expire hexpired
      · rw [if_neg hexpired]
        exact h old hold
  | advance ms =>
      intro row hrow
      have hle : s.clock ≤ s.clock + ms := by omega
      exact (h row hrow).mono hle

/-- Every row of every reachable state reflects the latest decision. -/
theorem consistent_run (clock : ℤ) (es : List GrantEvent) :
    (run grantStep (GrantState.initial clock) es).Consistent := by
  refine inv_run' grantStep_consistent ?_
  intro row hrow
  cases hrow

/-! ## The checks against the decisions -/

/-- On a row that reflects its decision, "the stored profile covers the surface
and the grant has not expired" is what authorised means. -/
theorem authorised_iff {s : GrantState} {row : NodeEntity} (surface : NodeRootAccessSurface)
    (h : Reflects s.clock (s.decisions row.id) row) :
    Authorised s row surface ↔
      profileAllowsSurface row.rootAccessProfile surface = true ∧
        isRootAccessGrantExpired s.clock row = false := by
  unfold isRootAccessGrantExpired
  constructor
  · rintro ⟨d, hd, hne, hallows, hlive⟩
    rcases h with ⟨_, _, hended⟩ | ⟨d', hd', _, hprofile, hexpires⟩
    · have hend : d.expiresAt ≤ s.clock := hended d hd hne
      omega
    · have hsame : d' = d := by
        rw [Option.mem_def] at hd hd'
        rw [hd] at hd'
        exact (Option.some.inj hd').symm
      subst hsame
      rw [hprofile, hexpires]
      exact ⟨hallows, by simpa using hlive⟩
  · rintro ⟨hallows, hlive⟩
    rcases h with ⟨hoff, _, _⟩ | ⟨d, hd, hne, hprofile, hexpires⟩
    · rw [hoff, profileAllowsSurface_off] at hallows
      cases hallows
    · rw [hprofile] at hallows
      rw [hexpires] at hlive
      exact ⟨d, hd, hne, hallows, by simpa using hlive⟩

/-- **When a check is right.**  In every reachable state, a check that succeeds
is covered by the latest decision exactly when an applied profile that covers the
surface is matched by the stored one, or the stored grant has expired. -/
theorem surfaceCheck_authorised_iff (clock : ℤ) (es : List GrantEvent) (row : NodeEntity)
    (surface : NodeRootAccessSurface)
    (hrow : row ∈ (run grantStep (GrantState.initial clock) es).nodes) :
    (surfaceCheck (run grantStep (GrantState.initial clock) es).clock row surface = .ok () →
        Authorised (run grantStep (GrantState.initial clock) es) row surface) ↔
      (profileAllowsSurface row.rootAccessAppliedProfile surface = true →
        profileAllowsSurface row.rootAccessProfile surface = true ∨
          isRootAccessGrantExpired (run grantStep (GrantState.initial clock) es).clock row
            = true) := by
  have hreflects := consistent_run clock es row hrow
  rw [surfaceCheck_eq_ok_iff, authorised_iff surface hreflects]
  cases isRootAccessGrantExpired (run grantStep (GrantState.initial clock) es).clock row <;>
    simp

/-- A grant, applied by the agent and switched off five milliseconds later; the
agent has not reported the change yet. -/
def switchedOffRun : List GrantEvent :=
  [.createNode "n1" "w1" "host-1",
    .updateRootAccessProfile "n1" (some "w1") (.ok ()) none "u1" "g1"
      { profile := .all, durationMinutes := some 30, reason := some "maintenance" },
    .recordAgentRootAccessState "n1" { appliedProfile := some "all" },
    .advance 5,
    .updateRootAccessProfile "n1" (some "w1") (.ok ()) none "u1" "g2" { profile := .off }]

/-- Before the operator switches the grant off, the check of the task surface is
covered: the stored profile matches the applied one. -/
theorem surfaceCheck_authorised_while_granted :
    ∃ row ∈ (run grantStep (GrantState.initial 0) (switchedOffRun.take 4)).nodes,
      Authorised (run grantStep (GrantState.initial 0) (switchedOffRun.take 4)) row .task := by
  have hrow : ∃ row, row ∈ (run grantStep (GrantState.initial 0) (switchedOffRun.take 4)).nodes ∧
      surfaceCheck (run grantStep (GrantState.initial 0) (switchedOffRun.take 4)).clock row .task
        = .ok () ∧
      profileAllowsSurface row.rootAccessProfile .task = true := by
    decide
  obtain ⟨row, hmem, hok, hstored⟩ := hrow
  exact ⟨row, hmem,
    (surfaceCheck_authorised_iff 0 (switchedOffRun.take 4) row .task hmem).mpr
      (fun _ => Or.inl hstored) hok⟩

/-- A check can succeed after the grant was switched off: the row has no expiry,
which counts as an active grant, and the applied profile is still the old one. -/
theorem surfaceCheck_unauthorised :
    ¬ ∀ (clock : ℤ) (es : List GrantEvent),
      ∀ row ∈ (run grantStep (GrantState.initial clock) es).nodes, ∀ surface,
        surfaceCheck (run grantStep (GrantState.initial clock) es).clock row surface = .ok () →
          Authorised (run grantStep (GrantState.initial clock) es) row surface := by
  intro hall
  have hleak : ∃ row, row ∈ (run grantStep (GrantState.initial 0) switchedOffRun).nodes ∧
      surfaceCheck (run grantStep (GrantState.initial 0) switchedOffRun).clock row .task
        = .ok () ∧
      ¬ Authorised (run grantStep (GrantState.initial 0) switchedOffRun) row .task := by
    decide
  obtain ⟨row, hmem, hok, hnot⟩ := hleak
  exact hnot (hall 0 switchedOffRun row hmem .task hok)

end NodesService
