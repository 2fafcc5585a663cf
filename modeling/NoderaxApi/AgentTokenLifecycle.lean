/-
# The lifecycle of agent tokens

A save of `authenticateAgent` writes back the token columns it loaded.  As long
as each save finds the hash it writes still in the row — as the current one, or
as the pending one before its expiry — the history of every interleaving obeys
the lifecycle: what was revoked or replaced is not accepted afterwards, and only
a staged token is promoted, before its expiry and before it was cleared.
-/
import NoderaxApi.AgentTokenHistory

namespace NodesService

open Histories Interleaving Runs

variable {history : List TokenFact} {fact : TokenFact} {nodeId : Uuid} {tokenHash : String}

/-! ## One step -/

theorem TokenWorld.id_of_findNode {w : TokenWorld} {id : Uuid} {row : NodeEntity}
    (h : w.findNode id = some row) : row.id = id :=
  KeyedTable.key_of_find h

theorem TokenWorld.write_of_findNode {w : TokenWorld} {id : Uuid} {f : NodeEntity → NodeEntity}
    {row : NodeEntity} (hfind : w.findNode id = some row) :
    w.write id f = { w with
      nodes := KeyedTable.put NodeEntity.id (f row) w.nodes
      history := w.history ++ clearedBy row (f row) ++ promotedBy w.clock row (f row) } := by
  unfold TokenWorld.write
  rw [hfind]

/-- The row that a write left behind. -/
theorem TokenWorld.findNode_write {w : TokenWorld} {id : Uuid} {f : NodeEntity → NodeEntity}
    {row : NodeEntity} (hfind : w.findNode id = some row) (hf : (f row).id = row.id) :
    (w.write id f).findNode id = some (f row) := by
  have hid : row.id = id := TokenWorld.id_of_findNode hfind
  rw [TokenWorld.write_of_findNode hfind]
  show KeyedTable.find NodeEntity.id (KeyedTable.put NodeEntity.id (f row) w.nodes) id = _
  rw [← hid, ← hf] at hfind ⊢
  exact KeyedTable.find_put_self hfind

theorem TokenWorld.findNode_write_of_ne {w : TokenWorld} {id other : Uuid}
    {f : NodeEntity → NodeEntity} (hf : ∀ row, w.findNode id = some row → (f row).id = row.id)
    (hne : other ≠ id) : (w.write id f).findNode other = w.findNode other := by
  cases hfind : w.findNode id with
  | none =>
      unfold TokenWorld.write
      rw [hfind]
  | some row =>
      rw [TokenWorld.write_of_findNode hfind]
      refine KeyedTable.find_put_of_ne ?_
      rw [hf row hfind, TokenWorld.id_of_findNode hfind]
      exact hne

/-- **A write keeps the invariant** if it is a good one for the row it meets. -/
theorem TokenInv.write {w : TokenWorld} {id : Uuid} {f : NodeEntity → NodeEntity}
    (h : TokenInv w)
    (hgood : ∀ row, w.findNode id = some row → GoodWrite w.history w.clock row (f row)) :
    TokenInv (w.write id f) := by
  cases hfind : w.findNode id with
  | none =>
      unfold TokenWorld.write
      rw [hfind]
      exact h
  | some row =>
      have hwrite : GoodWrite w.history w.clock row (f row) := hgood row hfind
      obtain ⟨hhistory, hrow⟩ := hwrite.rowTokens h.history (h.rows id row hfind)
      refine ⟨?_, ?_⟩
      · rw [TokenWorld.write_of_findNode hfind]
        exact hhistory
      · intro other r hother
        by_cases hsame : other = id
        · subst hsame
          rw [TokenWorld.findNode_write hfind hwrite.id] at hother
          cases hother
          rw [TokenWorld.write_of_findNode hfind]
          exact hrow
        · have hids : ∀ row, w.findNode id = some row → (f row).id = row.id :=
            fun row hrow => (hgood row hrow).id
          rw [TokenWorld.findNode_write_of_ne hids hsame] at hother
          have hforeign : row.id ≠ r.id := by
            rw [TokenWorld.id_of_findNode hfind, TokenWorld.id_of_findNode hother]
            exact Ne.symm hsame
          rw [TokenWorld.write_of_findNode hfind]
          show RowTokens (w.history ++ clearedBy row (f row) ++ promotedBy w.clock row (f row)) r
          refine ((h.rows other r hother).of_foreign ?_).of_foreign ?_
          · intro fact hfact
            rw [nodeId_of_mem_clearedBy hfact]
            exact hforeign
          · intro fact hfact
            rw [nodeId_of_mem_promotedBy hfact]
            exact hforeign

/-- An entry in order that revokes, replaces and clears nothing. -/
theorem TokenInv.record {w : TokenWorld} (h : TokenInv w) (hallowed : fact.Allowed w.history)
    (hrows : ∀ id row, w.findNode id = some row → RowTokens (w.history ++ [fact]) row) :
    TokenInv (w.record fact) :=
  ⟨justified_concat.mpr ⟨h.history, hallowed⟩, hrows⟩

/-- The answer of an authentication whose hash is the current one. -/
theorem TokenInv.recordAccepted {w : TokenWorld} {row : NodeEntity} (h : TokenInv w)
    (hfind : w.findNode nodeId = some row) (hcurrent : row.agentTokenHash = some tokenHash) :
    TokenInv (w.record (.accepted nodeId tokenHash)) := by
  have husable := (h.rows nodeId row hfind).current tokenHash hcurrent
  rw [TokenWorld.id_of_findNode hfind] at husable
  refine h.record ⟨husable.notRevoked, husable.notReplaced⟩ ?_
  intro id r hr
  exact (h.rows id r hr).concat (by simp) (by simp) (by simp)

/-! ## The writes of the four operations -/

/-- The UPDATE of `clearPendingAgentTokenRotation`. -/
theorem goodWrite_cleared (clock : ℤ) (row : NodeEntity) :
    GoodWrite history clock row (pendingAgentTokenCleared row) where
  id := rfl
  current _ hh := Or.inl hh
  pending _ hh := by cases hh
  distinct _ hh := by cases hh

/-- The UPDATE of `revokeAgentToken`. -/
theorem goodWrite_revoked (clock now : ℤ) (row : NodeEntity) :
    GoodWrite history clock row (agentTokenRevoked now row) where
  id := rfl
  current _ hh := by cases hh
  pending _ hh := by cases hh
  distinct _ hh := by cases hh

/-- The UPDATE of `stageAgentTokenRotation`, for a token new to the node. -/
theorem goodWrite_staged {clock expiresAt : ℤ} {row : NodeEntity}
    (hstaged : Promotable history row.id tokenHash (some expiresAt))
    (hnew : row.agentTokenHash ≠ some tokenHash) :
    GoodWrite history clock row (agentTokenStaged tokenHash expiresAt row) where
  id := rfl
  current _ hh := Or.inl hh
  pending _ hh := by
    cases hh
    exact hstaged
  distinct _ hh := by
    cases hh
    exact ⟨hnew, hnew⟩

/-- The save of `authenticateAgent`, when the row still holds the hash. -/
theorem goodWrite_save {clock : ℤ} {row node : NodeEntity} (hid : node.id = row.id)
    (hpending : node.pendingAgentTokenHash = none)
    (hheld : row.agentTokenHash = node.agentTokenHash ∨
      (row.pendingAgentTokenHash = node.agentTokenHash ∧
        row.pendingAgentTokenExpiresAt.any (clock < ·) = true)) :
    GoodWrite history clock row node where
  id := hid
  current t ht := by
    rw [ht] at hheld
    rcases hheld with hcurrent | ⟨hstaged, hlive⟩
    · exact Or.inl hcurrent
    · cases hexpiry : row.pendingAgentTokenExpiresAt with
      | none =>
          rw [hexpiry] at hlive
          cases hlive
      | some e =>
          rw [hexpiry] at hlive
          exact Or.inr ⟨hstaged, e, rfl, by simpa using hlive⟩
  pending _ hh := by
    rw [hpending] at hh
    cases hh
  distinct _ hh := by
    rw [hpending] at hh
    cases hh

/-! ## Rows stay where they are -/

/-- The entity that a call is about to save. -/
def SavesAccepted (w : TokenWorld) : PendingToken → Prop
  | .save node providedHash =>
      node.agentTokenHash = some providedHash ∧ node.pendingAgentTokenHash = none ∧
        (w.findNode node.id).isSome
  | _ => True

/-- The nodes of a table are those of another. -/
def SameNodes (w w' : TokenWorld) : Prop :=
  ∀ id, (w.findNode id).isSome → (w'.findNode id).isSome

theorem SameNodes.refl (w : TokenWorld) : SameNodes w w := fun _ hsome => hsome

theorem SameNodes.write {w : TokenWorld} {id : Uuid} {f : NodeEntity → NodeEntity}
    (hf : ∀ row, w.findNode id = some row → (f row).id = row.id) : SameNodes w (w.write id f) := by
  intro other hsome
  by_cases hsame : other = id
  · subst hsame
    obtain ⟨row, hrow⟩ := Option.isSome_iff_exists.mp hsome
    rw [TokenWorld.findNode_write hrow (hf row hrow)]
    rfl
  · rw [TokenWorld.findNode_write_of_ne hf hsame]
    exact hsome

theorem SavesAccepted.stable {w w' : TokenWorld} {call : PendingToken} (hnodes : SameNodes w w')
    (h : SavesAccepted w call) : SavesAccepted w' call := by
  cases call with
  | save node providedHash => exact ⟨h.1, h.2.1, hnodes node.id h.2.2⟩
  | _ => trivial

/-- A save without the token columns. -/
theorem findNode_saveNode (w : TokenWorld) (entity : NodeEntity) (id : Uuid) :
    ({ w with nodes := entity.save w.nodes } : TokenWorld).findNode id
      = (w.findNode id).map fun row => if row.id = entity.id then entity.saveOver row else row := by
  refine KeyedTable.find_map ?_ w.nodes id
  intro row
  split
  · next hid => exact hid.symm
  · rfl

theorem RowTokens.saveOver {row entity : NodeEntity} (hid : row.id = entity.id)
    (h : RowTokens history row) : RowTokens history (entity.saveOver row) where
  current t ht := hid ▸ h.current t ht
  pending t ht := hid ▸ h.pending t ht
  distinct := h.distinct

/-! ## The proof outline -/

/-- The hash that a save writes is still in the row: it is the current one, or
the pending one and has not expired. -/
def SaveMeetsHash (w : TokenWorld) (call : PendingToken) (_ : TokenInput) : Prop :=
  match call with
  | .save node _ => ∀ row ∈ w.findNode node.id, row.agentTokenHash = node.agentTokenHash ∨
      (row.pendingAgentTokenHash = node.agentTokenHash ∧
        row.pendingAgentTokenExpiresAt.any (w.clock < ·) = true)
  | _ => True

/-- A staged token is a new one: `randomBytes` never repeats a token of the node
and its hash is not that of another. -/
def StagesFresh (w : TokenWorld) (call : PendingToken) (_ : TokenInput) : Prop :=
  match call with
  | .stageUpdate nodeId tokenHash _ => ¬ Issued w.history nodeId tokenHash
  | _ => True

instance (w : TokenWorld) (call : PendingToken) (input : TokenInput) :
    Decidable (SaveMeetsHash w call input) := by
  cases call <;> unfold SaveMeetsHash <;> infer_instance

instance (w : TokenWorld) (call : PendingToken) (input : TokenInput) :
    Decidable (StagesFresh w call input) := by
  cases call <;> unfold StagesFresh <;> infer_instance

/-- The staging UPDATE of a fresh token. -/
theorem TokenInv.stage {w : TokenWorld} {expiresAt : ℤ} (h : TokenInv w)
    (hfresh : ¬ Issued w.history nodeId tokenHash) :
    TokenInv ((w.record (.issued nodeId tokenHash (some expiresAt))).write nodeId
      (agentTokenStaged tokenHash expiresAt)) := by
  obtain ⟨hrevoked, hreplaced, hcleared⟩ := untouched_of_fresh h.history hfresh
  have hrecorded : TokenInv (w.record (.issued nodeId tokenHash (some expiresAt))) := by
    refine h.record trivial ?_
    intro id row hrow
    exact (h.rows id row hrow).concat (by simp) (by simp) (by simp)
  refine hrecorded.write ?_
  intro row hrow
  have hid : row.id = nodeId := TokenWorld.id_of_findNode hrow
  have hmem : TokenFact.issued nodeId tokenHash (some expiresAt)
      ∈ (w.record (.issued nodeId tokenHash (some expiresAt))).history :=
    List.mem_append_right _ List.mem_cons_self
  refine goodWrite_staged ?_ ?_
  · have hissued := issued_of_mem hmem
    rw [hid]
    refine ⟨⟨hissued, ?_, ?_⟩, ?_, hmem⟩
    · intro hnow
      rcases revoked_concat.mp hnow with hold | ⟨hnew, -⟩
      · exact hrevoked hold
      · cases hnew
    · intro hnow
      rcases hnow.of_concat with hold | ⟨promoted, time, hnew⟩
      · exact hreplaced hold
      · cases hnew
    · intro hnow
      rcases hnow.of_concat with hold | hnew
      · exact hcleared hold
      · cases hnew
  · intro hcurrent
    refine hfresh ?_
    rw [← hid]
    exact ((h.rows nodeId row hrow).current tokenHash hcurrent).issued

/-- A revocation keeps the invariant: the row holds no hash any more. -/
theorem TokenInv.revoke {w : TokenWorld} (now : ℤ) (h : TokenInv w) :
    TokenInv ((w.write nodeId (agentTokenRevoked now)).record (.revoked nodeId)) := by
  have hwritten : TokenInv (w.write nodeId (agentTokenRevoked now)) :=
    h.write fun row _ => goodWrite_revoked w.clock now row
  refine hwritten.record trivial ?_
  intro id row hrow
  by_cases hsame : id = nodeId
  · subst hsame
    cases hfind : w.findNode id with
    | none =>
        unfold TokenWorld.write at hrow
        rw [hfind] at hrow
        dsimp only at hrow
        rw [hfind] at hrow
        cases hrow
    | some before =>
        rw [TokenWorld.findNode_write hfind rfl] at hrow
        cases hrow
        refine ⟨?_, ?_, ?_⟩ <;> intro t ht <;> cases ht
  · have hid : row.id = id := TokenWorld.id_of_findNode hrow
    refine (hwritten.rows id row hrow).concat ?_ (by simp) (by simp)
    intro heq
    rw [hid] at heq
    exact hsame (TokenFact.revoked.inj heq).symm

section Calls

variable (hashAgentToken : String → String)

theorem sameNodes_invoke (request : TokenRequest) (input : TokenInput) (w : TokenWorld) :
    SameNodes w (invokeToken hashAgentToken request input w).1 := by
  cases request with
  | authenticateAgent nodeId agentToken =>
      simp only [invokeToken]
      split <;> exact SameNodes.refl w
  | clearPendingAgentTokenRotation nodeId => exact SameNodes.write fun _ _ => rfl
  | _ =>
      simp only [invokeToken]
      split <;> exact SameNodes.refl w

theorem sameNodes_resume (call : PendingToken) (input : TokenInput) (w : TokenWorld) :
    SameNodes w (resumeToken hashAgentToken call input w).1 := by
  cases call with
  | save node providedHash =>
      refine SameNodes.write ?_
      intro row hrow
      exact (TokenWorld.id_of_findNode hrow).symm
  | stageUpdate nodeId tokenHash expiresAt =>
      exact SameNodes.write (w := w.record (.issued nodeId tokenHash (some expiresAt)))
        fun _ _ => rfl
  | revokeUpdate nodeId now =>
      exact SameNodes.write (f := agentTokenRevoked now) fun _ _ => rfl
  | _ =>
      simp only [resumeToken]
      split <;> exact SameNodes.refl w

theorem sameNodes_env (e : TokenEnv) (w : TokenWorld) : SameNodes w (tokenEnv e w) := by
  cases e with
  | advance ms => exact SameNodes.refl w
  | save entity =>
      intro id hsome
      show (({ w with nodes := entity.save w.nodes } : TokenWorld).findNode id).isSome
      rw [findNode_saveNode, Option.isSome_map]
      exact hsome

theorem tokenInv_invoke {request : TokenRequest} (input : TokenInput) {w : TokenWorld}
    (h : TokenInv w) : TokenInv (invokeToken hashAgentToken request input w).1 ∧
      ∀ call, (invokeToken hashAgentToken request input w).2 = some call →
        SavesAccepted (invokeToken hashAgentToken request input w).1 call := by
  cases request with
  | authenticateAgent nodeId agentToken =>
      simp only [invokeToken]
      split
      · exact ⟨h, fun _ hcall => by cases hcall⟩
      · next node hdone =>
          obtain ⟨hfind, hcurrent⟩ := authenticateAgent_done hdone
          exact ⟨h.recordAccepted hfind hcurrent, fun _ hcall => by cases hcall⟩
      · next node hsaves =>
          refine ⟨h, ?_⟩
          intro call hcall
          cases hcall
          obtain ⟨row, hfind, hid, hcurrent, hpending⟩ := authenticateAgent_saves hsaves
          refine ⟨hcurrent, hpending, ?_⟩
          rw [hid, TokenWorld.id_of_findNode hfind, hfind]
          rfl
  | clearPendingAgentTokenRotation nodeId =>
      exact ⟨h.write fun row _ => goodWrite_cleared w.clock row, fun _ hcall => by cases hcall⟩
  | stageAgentTokenRotation nodeId workspaceId =>
      simp only [invokeToken]
      split
      · exact ⟨h, fun _ hcall => by cases hcall⟩
      · exact ⟨h, fun _ hcall => by cases hcall; trivial⟩
  | revokeAgentToken nodeId workspaceId =>
      simp only [invokeToken]
      split
      · exact ⟨h, fun _ hcall => by cases hcall⟩
      · exact ⟨h, fun _ hcall => by cases hcall; trivial⟩

theorem tokenInv_resume {call : PendingToken} {input : TokenInput} {w : TokenWorld}
    (h : TokenInv w) (hcall : SavesAccepted w call) (hmeets : SaveMeetsHash w call input)
    (hfresh : StagesFresh w call input) :
    TokenInv (resumeToken hashAgentToken call input w).1 ∧
      ∀ next, (resumeToken hashAgentToken call input w).2 = some next →
        SavesAccepted (resumeToken hashAgentToken call input w).1 next := by
  cases call with
  | save node providedHash =>
      refine ⟨?_, fun _ hnext => by cases hnext⟩
      obtain ⟨hcurrent, hpending, hsome⟩ := hcall
      obtain ⟨row, hrow⟩ := Option.isSome_iff_exists.mp hsome
      have hid : ∀ r, w.findNode node.id = some r → node.id = r.id :=
        fun r hr => (TokenWorld.id_of_findNode hr).symm
      have hwritten : TokenInv (w.write node.id fun _ => node) :=
        h.write fun r hr => goodWrite_save (hid r hr) hpending (hmeets r hr)
      have hfind := TokenWorld.findNode_write (f := fun _ => node) hrow (hid row hrow)
      exact hwritten.recordAccepted hfind hcurrent
  | stageChecks node =>
      simp only [resumeToken]
      split
      · exact ⟨h, fun _ hnext => by cases hnext⟩
      · exact ⟨h, fun _ hnext => by cases hnext; trivial⟩
  | stageUpdate nodeId tokenHash expiresAt =>
      exact ⟨h.stage hfresh, fun _ hnext => by cases hnext⟩
  | revokeChecks node =>
      simp only [resumeToken]
      split
      · exact ⟨h, fun _ hnext => by cases hnext⟩
      · exact ⟨h, fun _ hnext => by cases hnext; trivial⟩
  | revokeUpdate nodeId now => exact ⟨h.revoke now, fun _ hnext => by cases hnext⟩

theorem tokenInv_env {e : TokenEnv} {w : TokenWorld} (h : TokenInv w) :
    TokenInv (tokenEnv e w) := by
  cases e with
  | advance ms => exact ⟨h.history, h.rows⟩
  | save entity =>
      refine ⟨h.history, ?_⟩
      intro id row hrow
      have hrow' := hrow
      simp only [tokenEnv] at hrow'
      rw [findNode_saveNode] at hrow'
      obtain ⟨before, hbefore, hsaved⟩ := Option.map_eq_some_iff.mp hrow'
      have hkept : RowTokens w.history before := h.rows id before hbefore
      show RowTokens w.history row
      rw [← hsaved]
      split
      · next hid => exact hkept.saveOver hid
      · exact hkept

/-- The proof outline of the four operations. -/
theorem token_outline :
    Outline (tokenCalls hashAgentToken) tokenEnv (fun _ _ _ => True)
      (fun w call input => SaveMeetsHash w call input ∧ StagesFresh w call input)
      (fun _ _ => True) TokenInv SavesAccepted where
  invoke := by
    intro w request input h _
    exact tokenInv_invoke hashAgentToken input h
  resume h hcall hguard := tokenInv_resume hashAgentToken h hcall hguard.1 hguard.2
  environment h _ := tokenInv_env h
  invoke_stable := by
    intro w request input call _ _ hcall
    exact hcall.stable (sameNodes_invoke hashAgentToken request input w)
  resume_stable := by
    intro w call input other _ _ _ hother
    exact hother.stable (sameNodes_resume hashAgentToken call input w)
  environment_stable _ _ hcall := hcall.stable (sameNodes_env _ _)

end Calls

/-! ## The lifecycle -/

/-- Every save meets the hash it writes, and staged tokens are new. -/
def SavesMeetHashes : TokenConfig → TokenEvent → Prop :=
  ResumeGuard fun w call input => SaveMeetsHash w call input ∧ StagesFresh w call input

/-- Staged tokens are new. -/
def TokensFresh : TokenConfig → TokenEvent → Prop := ResumeGuard StagesFresh

instance (c : TokenConfig) (e : TokenEvent) : Decidable (SavesMeetHashes c e) := by
  unfold SavesMeetHashes ResumeGuard; infer_instance

instance (c : TokenConfig) (e : TokenEvent) : Decidable (TokensFresh c e) := by
  unfold TokensFresh ResumeGuard; infer_instance

/-- The opening history only issues tokens. -/
theorem issued_of_mem_openingHistory {nodes : List NodeEntity} (h : fact ∈ openingHistory nodes) :
    ∃ nodeId tokenHash expiresAt, fact = .issued nodeId tokenHash expiresAt := by
  obtain ⟨row, -, hrow⟩ := List.mem_flatMap.mp h
  rcases List.mem_append.mp hrow with hcurrent | hpending
  · obtain ⟨t, -, ht⟩ := List.mem_map.mp hcurrent
    exact ⟨row.id, t, none, ht.symm⟩
  · obtain ⟨t, -, ht⟩ := List.mem_map.mp hpending
    exact ⟨row.id, t, row.pendingAgentTokenExpiresAt, ht.symm⟩

/-- The invariant before the first event. -/
theorem tokenInv_opening {nodes : List NodeEntity} (clock : ℤ)
    (hnodes : ∀ row ∈ nodes, ∀ h ∈ row.agentTokenHash, row.pendingAgentTokenHash ≠ some h) :
    TokenInv { nodes := nodes, clock := clock, history := openingHistory nodes } := by
  have hrevoked : ∀ n t, ¬ Revoked (openingHistory nodes) n t := by
    intro n t hthen
    obtain ⟨fact, hfact, rfl⟩ := hthen.exists_second
    obtain ⟨_, _, _, hissued⟩ := issued_of_mem_openingHistory hfact
    cases hissued
  have hreplaced : ∀ n t, ¬ Replaced (openingHistory nodes) n t := by
    rintro n t ⟨promoted, time, hfact⟩
    obtain ⟨_, _, _, hissued⟩ := issued_of_mem_openingHistory hfact
    cases hissued
  have hcleared : ∀ n t, ¬ Cleared (openingHistory nodes) n t := by
    intro n t hfact
    obtain ⟨_, _, _, hissued⟩ := issued_of_mem_openingHistory hfact
    cases hissued
  constructor
  · apply justified_of_forall
    intro fact hfact past
    obtain ⟨n, t, e, rfl⟩ := issued_of_mem_openingHistory hfact
    trivial
  · intro id row hrow
    have hmem : row ∈ nodes := KeyedTable.mem_of_find hrow
    refine ⟨?_, ?_, fun t ht => hnodes row hmem t ht⟩
    · intro t ht
      have hissued : TokenFact.issued row.id t none ∈ openingHistory nodes := by
        refine List.mem_flatMap.mpr ⟨row, hmem, List.mem_append_left _ ?_⟩
        rw [ht]
        exact List.mem_singleton_self _
      exact ⟨issued_of_mem hissued, hrevoked _ _, hreplaced _ _⟩
    · intro t ht
      have hissued : TokenFact.issued row.id t row.pendingAgentTokenExpiresAt
          ∈ openingHistory nodes := by
        refine List.mem_flatMap.mpr ⟨row, hmem, List.mem_append_right _ ?_⟩
        rw [ht]
        exact List.mem_singleton_self _
      exact ⟨⟨issued_of_mem hissued, hrevoked _ _, hreplaced _ _⟩, hcleared _ _, hissued⟩

/-- The token a node was enrolled with, and the one staged later. -/
def enrolledToken : String := "enrolled-token"

/-- The second token of the runs below. -/
def stagedToken : String := "a3f1a3f1a3f1a3f1a3f1a3f1a3f1a3f1a3f1a3f1a3f1a3f1a3f1a3f1a3f1a3f1"

/-- SHA-256 in hexadecimal, on these two tokens. -/
def sampleHashAgentToken (agentToken : String) : String :=
  if agentToken = enrolledToken then
    "9df2ee5dfb0fc7bc8b12ca0dc3d175fef918511460f6e0b3976a6d5ea0367414"
  else if agentToken = stagedToken then
    "40f01b99607201f4d394d89042b93e62aab9ced9a54c030f1549512dcb675f5f"
  else agentToken

/-- A node online, with its first token. -/
def sampleTokenNodes : List NodeEntity :=
  [{ id := "n1", workspaceId := "w1", hostname := "host-1", status := .online,
     agentTokenHash := some (sampleHashAgentToken enrolledToken) }]

/-- A rotation: the staged token is promoted by its first use. -/
def rotationRun : List TokenEvent :=
  [.invoke 0 (.authenticateAgent "n1" enrolledToken) {},
    .invoke 1 (.stageAgentTokenRotation "n1" none) {}, .resume 1 { agentToken := stagedToken },
    .resume 1 {}, .env (.advance 60000), .invoke 2 (.authenticateAgent "n1" stagedToken) {},
    .resume 2 {}, .invoke 3 (.authenticateAgent "n1" enrolledToken) {}]

/-- The history of the rotation up to the promotion. -/
def rotationPast : List TokenFact :=
  [.issued "n1" (sampleHashAgentToken enrolledToken) none,
    .accepted "n1" (sampleHashAgentToken enrolledToken),
    .issued "n1" (sampleHashAgentToken stagedToken) (some 300000)]

/-- An authentication loads the row after a staged token expired; the node's
tokens are revoked before it saves; its save brings the revoked hash back. -/
def revocationUndone : List TokenEvent :=
  [.invoke 0 (.stageAgentTokenRotation "n1" none) {}, .resume 0 { agentToken := stagedToken },
    .resume 0 {}, .env (.advance 360000), .invoke 1 (.authenticateAgent "n1" enrolledToken) {},
    .invoke 2 (.revokeAgentToken "n1" none) {}, .resume 2 {}, .resume 2 {}, .resume 1 {},
    .env (.advance 1000), .invoke 3 (.authenticateAgent "n1" enrolledToken) {}]

end NodesService
