/-
# The history of agent tokens

When a history of tokens is in order (`TokenFact.Allowed`), when a row fits it
(`RowTokens`), and which writes of a row keep both (`GoodWrite`).
-/
import NoderaxApi.AgentToken

namespace NodesService

open Histories

/-! ## What the history says about a token -/

/-- The entry issues a token with this hash to the node. -/
def TokenFact.Issues (nodeId : Uuid) (tokenHash : String) : TokenFact → Prop
  | .issued n h _ => n = nodeId ∧ h = tokenHash
  | _ => False

instance (nodeId : Uuid) (tokenHash : String) (fact : TokenFact) :
    Decidable (fact.Issues nodeId tokenHash) := by
  cases fact <;> unfold TokenFact.Issues <;> infer_instance

/-- A token with this hash was issued to the node. -/
def Issued (history : List TokenFact) (nodeId : Uuid) (tokenHash : String) : Prop :=
  ∃ fact ∈ history, fact.Issues nodeId tokenHash

instance (history : List TokenFact) (nodeId : Uuid) (tokenHash : String) :
    Decidable (Issued history nodeId tokenHash) := by
  unfold Issued; infer_instance

/-- The token was issued, and later the node's tokens were revoked. -/
def Revoked (history : List TokenFact) (nodeId : Uuid) (tokenHash : String) : Prop :=
  Then (TokenFact.Issues nodeId tokenHash) (fun fact => fact = .revoked nodeId) history

/-- Another token was promoted in the place of this one. -/
def Replaced (history : List TokenFact) (nodeId : Uuid) (tokenHash : String) : Prop :=
  ∃ promoted time, .promoted nodeId (some tokenHash) promoted time ∈ history

/-- The token was pending, and was cleared. -/
def Cleared (history : List TokenFact) (nodeId : Uuid) (tokenHash : String) : Prop :=
  .cleared nodeId tokenHash ∈ history

/-- What the past must be like for an entry to be in order. -/
def TokenFact.Allowed (past : List TokenFact) : TokenFact → Prop
  | .issued _ _ _ | .revoked _ => True
  | .cleared nodeId tokenHash => Issued past nodeId tokenHash
  | .promoted nodeId old tokenHash time =>
      (∀ h ∈ old, Issued past nodeId h) ∧ ¬ Cleared past nodeId tokenHash ∧
        ∃ expiresAt, .issued nodeId tokenHash (some expiresAt) ∈ past ∧ time < expiresAt
  | .accepted nodeId tokenHash =>
      ¬ Revoked past nodeId tokenHash ∧ ¬ Replaced past nodeId tokenHash

variable {history : List TokenFact} {fact : TokenFact} {nodeId : Uuid} {tokenHash : String}

theorem Issued.mono {later : List TokenFact} (hsub : history ⊆ later)
    (h : Issued history nodeId tokenHash) : Issued later nodeId tokenHash := by
  obtain ⟨fact, hfact, hissues⟩ := h
  exact ⟨fact, hsub hfact, hissues⟩

theorem issued_of_mem {expiresAt : Option ℤ} (h : .issued nodeId tokenHash expiresAt ∈ history) :
    Issued history nodeId tokenHash :=
  ⟨_, h, rfl, rfl⟩

theorem revoked_concat :
    Revoked (history ++ [fact]) nodeId tokenHash ↔
      Revoked history nodeId tokenHash ∨
        (fact = .revoked nodeId ∧ Issued history nodeId tokenHash) :=
  then_concat

theorem Replaced.of_concat (h : Replaced (history ++ [fact]) nodeId tokenHash) :
    Replaced history nodeId tokenHash ∨
      ∃ promoted time, fact = .promoted nodeId (some tokenHash) promoted time := by
  obtain ⟨promoted, time, hmem⟩ := h
  rcases List.mem_append.mp hmem with hold | hnew
  · exact Or.inl ⟨promoted, time, hold⟩
  · exact Or.inr ⟨promoted, time, (List.mem_singleton.mp hnew).symm⟩

theorem Cleared.of_concat (h : Cleared (history ++ [fact]) nodeId tokenHash) :
    Cleared history nodeId tokenHash ∨ fact = .cleared nodeId tokenHash := by
  rcases List.mem_append.mp h with hold | hnew
  · exact Or.inl hold
  · exact Or.inr (List.mem_singleton.mp hnew).symm

/-- In a history in order, nothing happened to a token that was never issued. -/
theorem untouched_of_fresh (hhistory : Justified TokenFact.Allowed history)
    (hfresh : ¬ Issued history nodeId tokenHash) :
    ¬ Revoked history nodeId tokenHash ∧ ¬ Replaced history nodeId tokenHash ∧
      ¬ Cleared history nodeId tokenHash := by
  refine ⟨?_, ?_, ?_⟩
  · intro hrevoked
    exact hfresh hrevoked.exists_first
  · rintro ⟨promoted, time, hmem⟩
    obtain ⟨past, hsub, hallowed⟩ := hhistory.of_mem hmem
    exact hfresh ((hallowed.1 tokenHash rfl).mono hsub)
  · intro hcleared
    obtain ⟨past, hsub, hallowed⟩ := hhistory.of_mem hcleared
    exact hfresh (Issued.mono hsub hallowed)

/-! ## The invariant -/

/-- A token that may stand in the row. -/
structure Usable (history : List TokenFact) (nodeId : Uuid) (tokenHash : String) : Prop where
  issued : Issued history nodeId tokenHash
  notRevoked : ¬ Revoked history nodeId tokenHash
  notReplaced : ¬ Replaced history nodeId tokenHash

/-- A staged token that may still be promoted. -/
structure Promotable (history : List TokenFact) (nodeId : Uuid) (tokenHash : String)
    (expiresAt : Option ℤ) : Prop extends Usable history nodeId tokenHash where
  notCleared : ¬ Cleared history nodeId tokenHash
  expiry : .issued nodeId tokenHash expiresAt ∈ history

/-- The hashes of a row are usable ones, and the pending one differs from the
current one. -/
structure RowTokens (history : List TokenFact) (row : NodeEntity) : Prop where
  current : ∀ h, row.agentTokenHash = some h → Usable history row.id h
  pending : ∀ h, row.pendingAgentTokenHash = some h →
    Promotable history row.id h row.pendingAgentTokenExpiresAt
  distinct : ∀ h, row.agentTokenHash = some h → row.pendingAgentTokenHash ≠ some h

/-- The history is in order, and every row fits it. -/
structure TokenInv (w : TokenWorld) : Prop where
  history : Justified TokenFact.Allowed w.history
  rows : ∀ id row, w.findNode id = some row → RowTokens w.history row

/-- What a write must observe: the current hash of the new row was the current
one, or the pending one before its expiry; the pending one may be promoted. -/
structure GoodWrite (history : List TokenFact) (clock : ℤ) (row row' : NodeEntity) : Prop where
  id : row'.id = row.id
  current : ∀ h, row'.agentTokenHash = some h → row.agentTokenHash = some h ∨
    (row.pendingAgentTokenHash = some h ∧ ∃ e, row.pendingAgentTokenExpiresAt = some e ∧ clock < e)
  pending : ∀ h, row'.pendingAgentTokenHash = some h →
    Promotable history row.id h row'.pendingAgentTokenExpiresAt
  distinct : ∀ h, row'.pendingAgentTokenHash = some h →
    row.agentTokenHash ≠ some h ∧ row'.agentTokenHash ≠ some h

/-! ## One more entry -/

theorem Usable.concat (h : Usable history nodeId tokenHash) (hrevoked : fact ≠ .revoked nodeId)
    (hpromoted : ∀ promoted time, fact ≠ .promoted nodeId (some tokenHash) promoted time) :
    Usable (history ++ [fact]) nodeId tokenHash := by
  refine ⟨h.issued.mono (List.subset_append_left _ _), ?_, ?_⟩
  · intro hnow
    rcases revoked_concat.mp hnow with hold | ⟨hnew, -⟩
    · exact h.notRevoked hold
    · exact hrevoked hnew
  · intro hnow
    rcases hnow.of_concat with hold | ⟨promoted, time, hnew⟩
    · exact h.notReplaced hold
    · exact hpromoted promoted time hnew

theorem Promotable.concat {expiresAt : Option ℤ}
    (h : Promotable history nodeId tokenHash expiresAt) (hrevoked : fact ≠ .revoked nodeId)
    (hpromoted : ∀ promoted time, fact ≠ .promoted nodeId (some tokenHash) promoted time)
    (hcleared : fact ≠ .cleared nodeId tokenHash) :
    Promotable (history ++ [fact]) nodeId tokenHash expiresAt := by
  refine ⟨h.toUsable.concat hrevoked hpromoted, ?_, List.mem_append_left _ h.expiry⟩
  intro hnow
  rcases hnow.of_concat with hold | hnew
  · exact h.notCleared hold
  · exact hcleared hnew

/-- An entry that revokes, replaces and clears no token of the row. -/
theorem RowTokens.concat {row : NodeEntity} (h : RowTokens history row)
    (hrevoked : fact ≠ .revoked row.id)
    (hpromoted : ∀ old promoted time, fact ≠ .promoted row.id old promoted time)
    (hcleared : ∀ t, fact ≠ .cleared row.id t) : RowTokens (history ++ [fact]) row where
  current t ht := (h.current t ht).concat hrevoked (hpromoted (some t))
  pending t ht := (h.pending t ht).concat hrevoked (hpromoted (some t)) (hcleared t)
  distinct := h.distinct

/-! ## One write -/

theorem clearedBy_eq (row row' : NodeEntity) :
    clearedBy row row' = [] ∨ ∃ pending, row.pendingAgentTokenHash = some pending ∧
      row'.pendingAgentTokenHash ≠ some pending ∧ row'.agentTokenHash ≠ some pending ∧
      clearedBy row row' = [.cleared row.id pending] := by
  unfold clearedBy
  split
  · exact Or.inl rfl
  · next pending hpending =>
      split_ifs with hkept
      · exact Or.inl rfl
      · rw [not_or] at hkept
        exact Or.inr ⟨pending, hpending, hkept.1, hkept.2, rfl⟩

theorem promotedBy_eq (time : ℤ) (row row' : NodeEntity) :
    (promotedBy time row row' = [] ∧
      ∀ h, row'.agentTokenHash = some h → row.agentTokenHash = some h) ∨
    ∃ h, row'.agentTokenHash = some h ∧ row.agentTokenHash ≠ some h ∧
      promotedBy time row row' = [.promoted row.id row.agentTokenHash h time] := by
  unfold promotedBy
  split
  · next hnone => exact Or.inl ⟨rfl, by simp [hnone]⟩
  · next h hsome =>
      split_ifs with hsame
      · refine Or.inl ⟨rfl, ?_⟩
        intro h' hh'
        rw [hsome] at hh'
        cases hh'
        exact hsame
      · exact Or.inr ⟨h, hsome, hsame, rfl⟩

/-- Clearing the pending token of a row, when the write does so. -/
theorem RowTokens.cleared {row : NodeEntity} (hhistory : Justified TokenFact.Allowed history)
    (h : RowTokens history row) (row' : NodeEntity) :
    Justified TokenFact.Allowed (history ++ clearedBy row row') ∧
      (∀ t, Usable history row.id t → Usable (history ++ clearedBy row row') row.id t) ∧
      (∀ t e, (row'.pendingAgentTokenHash = some t ∨ row'.agentTokenHash = some t) →
        Promotable history row.id t e → Promotable (history ++ clearedBy row row') row.id t e) := by
  rcases clearedBy_eq row row' with hnil | ⟨pending, hpending, hkept, hcurrent, hcleared⟩
  · rw [hnil, List.append_nil]
    exact ⟨hhistory, fun _ ht => ht, fun _ _ _ ht => ht⟩
  · rw [hcleared]
    refine ⟨?_, ?_, ?_⟩
    · exact justified_concat.mpr ⟨hhistory, (h.pending pending hpending).issued⟩
    · intro t ht
      exact ht.concat (by simp) (by simp)
    · intro t e hstays ht
      refine ht.concat (by simp) (by simp) ?_
      intro heq
      have ht : pending = t := (TokenFact.cleared.inj heq).2
      subst ht
      rcases hstays with hp | hc
      · exact hkept hp
      · exact hcurrent hc

/-- **A good write** keeps the history in order, and the new row fits it. -/
theorem GoodWrite.rowTokens {clock : ℤ} {row row' : NodeEntity}
    (hhistory : Justified TokenFact.Allowed history) (hrow : RowTokens history row)
    (hwrite : GoodWrite history clock row row') :
    Justified TokenFact.Allowed
        (history ++ clearedBy row row' ++ promotedBy clock row row') ∧
      RowTokens (history ++ clearedBy row row' ++ promotedBy clock row row') row' := by
  obtain ⟨hcleared, husable, hpromotable⟩ := hrow.cleared hhistory row'
  rcases promotedBy_eq clock row row' with ⟨hnil, hsame⟩ | ⟨t, ht, hnew, hpromoted⟩
  · rw [hnil, List.append_nil]
    refine ⟨hcleared, ?_, ?_, ?_⟩
    · intro h hh
      rw [hwrite.id]
      exact husable h (hrow.current h (hsame h hh))
    · intro h hh
      rw [hwrite.id]
      exact hpromotable h _ (Or.inl hh) (hwrite.pending h hh)
    · intro h hh hp
      exact (hwrite.distinct h hp).2 hh
  · -- the pending token becomes the current one
    rcases hwrite.current t ht with hold | ⟨hpending, e, he, hlive⟩
    · exact absurd hold hnew
    · have hstaged := hpromotable t _ (Or.inr ht) (hrow.pending t hpending)
      rw [hpromoted]
      refine ⟨justified_concat.mpr ⟨hcleared, ?_, hstaged.notCleared, e, ?_, hlive⟩, ?_, ?_, ?_⟩
      · intro old hold
        exact (husable old (hrow.current old hold)).issued
      · rw [← he]
        exact hstaged.expiry
      · intro h hh
        rw [ht] at hh
        cases hh
        rw [hwrite.id]
        refine hstaged.toUsable.concat (by simp) ?_
        intro promoted time heq
        exact hnew (TokenFact.promoted.inj heq).2.1
      · intro h hh
        rw [hwrite.id]
        refine (hpromotable h _ (Or.inl hh) (hwrite.pending h hh)).concat (by simp) ?_ (by simp)
        intro promoted time heq
        exact (hwrite.distinct h hh).1 (TokenFact.promoted.inj heq).2.1
      · intro h hh hp
        exact (hwrite.distinct h hp).2 hh

/-- Entries about another node. -/
theorem RowTokens.of_foreign {row : NodeEntity} {facts : List TokenFact}
    (hforeign : ∀ fact ∈ facts, fact.nodeId ≠ row.id) (h : RowTokens history row) :
    RowTokens (history ++ facts) row := by
  induction facts generalizing history with
  | nil =>
      rw [List.append_nil]
      exact h
  | cons fact facts ih =>
      rw [← List.singleton_append, ← List.append_assoc]
      have hfact : fact.nodeId ≠ row.id := hforeign fact List.mem_cons_self
      refine ih (fun f hf => hforeign f (List.mem_cons_of_mem _ hf)) (h.concat ?_ ?_ ?_)
      · rintro rfl
        exact hfact rfl
      · rintro old promoted time rfl
        exact hfact rfl
      · rintro t rfl
        exact hfact rfl

theorem nodeId_of_mem_clearedBy {row row' : NodeEntity} (h : fact ∈ clearedBy row row') :
    fact.nodeId = row.id := by
  rcases clearedBy_eq row row' with hnil | ⟨pending, -, -, -, hcleared⟩
  · rw [hnil] at h
    cases h
  · rw [hcleared, List.mem_singleton] at h
    rw [h]
    rfl

theorem nodeId_of_mem_promotedBy {time : ℤ} {row row' : NodeEntity}
    (h : fact ∈ promotedBy time row row') : fact.nodeId = row.id := by
  rcases promotedBy_eq time row row' with ⟨hnil, -⟩ | ⟨t, -, -, hpromoted⟩
  · rw [hnil] at h
    cases h
  · rw [hpromoted, List.mem_singleton] at h
    rw [h]
    rfl

end NodesService
