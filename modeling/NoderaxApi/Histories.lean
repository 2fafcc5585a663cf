/-
# Histories

A history is the list of what has happened so far, the latest entry last.  Three
notions are enough to state what may happen after what:

* `Justified ok h` — every entry of `h` is allowed by the entries before it;
* `Then p q h` — in `h` an entry with property `p` is followed by one with `q`;
* `lastWith p h` — the latest entry of `h` with property `p`.

They are described by what one more entry at the end changes.
-/
import Mathlib.Data.List.Basic

namespace Histories

variable {α : Type*}

/-- Every entry is allowed by its past. -/
def Justified (ok : List α → α → Prop) (h : List α) : Prop :=
  ∀ past entry rest, h = past ++ entry :: rest → ok past entry

/-- An entry with `p`, and later one with `q`. -/
def Then (p q : α → Prop) (h : List α) : Prop :=
  ∃ past entry rest, h = past ++ entry :: rest ∧ q entry ∧ ∃ earlier ∈ past, p earlier

/-- Where an entry of `h ++ [x]` stands: at the end, or inside `h`. -/
theorem concat_eq_split {h past rest : List α} {x entry : α} :
    h ++ [x] = past ++ entry :: rest ↔
      (past = h ∧ entry = x ∧ rest = []) ∨
        ∃ rest', rest = rest' ++ [x] ∧ h = past ++ entry :: rest' := by
  constructor
  · intro hsplit
    rcases List.eq_nil_or_concat rest with hrest | ⟨rest', y, hrest⟩
    · subst hrest
      obtain ⟨hpast, hentry⟩ := List.append_inj' hsplit rfl
      exact Or.inl ⟨hpast.symm, (List.cons.inj hentry).1.symm, rfl⟩
    · subst hrest
      rw [List.concat_eq_append, ← List.cons_append, ← List.append_assoc] at hsplit
      obtain ⟨hh, hy⟩ := List.append_inj' hsplit rfl
      have hxy : x = y := (List.cons.inj hy).1
      exact Or.inr ⟨rest', by rw [hxy, List.concat_eq_append], hh⟩
  · rintro (⟨rfl, rfl, rfl⟩ | ⟨rest', rfl, rfl⟩)
    · rfl
    · rw [List.append_assoc, List.cons_append]

/-- Where an entry of `h ++ l` stands: inside `h`, or inside `l`. -/
theorem append_eq_split {h l past rest : List α} {entry : α}
    (hsplit : h ++ l = past ++ entry :: rest) :
    (∃ rest', rest = rest' ++ l ∧ h = past ++ entry :: rest') ∨
      ∃ past', past = h ++ past' ∧ l = past' ++ entry :: rest := by
  rcases List.append_eq_append_iff.mp hsplit with ⟨past', rfl, hl⟩ | ⟨rest', rfl, hrest⟩
  · exact Or.inr ⟨past', rfl, hl⟩
  · rcases List.cons_eq_append_iff.mp hrest with ⟨rfl, hl⟩ | ⟨rest'', rfl, hrest'⟩
    · exact Or.inr ⟨[], by simp, by simpa using hl⟩
    · exact Or.inl ⟨rest'', hrest', rfl⟩

/-! ## The latest entry of a kind -/

/-- The latest entry with `p`. -/
def lastWith (p : α → Bool) (h : List α) : Option α := (h.filter p).getLast?

theorem lastWith_concat {p : α → Bool} {x : α} (hx : p x = true) (h : List α) :
    lastWith p (h ++ [x]) = some x := by
  simp [lastWith, List.filter_append, hx]

theorem lastWith_append_of_none {p : α → Bool} {l : List α} (hl : ∀ x ∈ l, p x = false)
    (h : List α) : lastWith p (h ++ l) = lastWith p h := by
  have hnone : l.filter p = [] := by
    rw [List.filter_eq_nil_iff]
    intro x hx
    rw [hl x hx]
    exact Bool.false_ne_true
  rw [lastWith, List.filter_append, hnone, List.append_nil, lastWith]

/-! ## Justified entries -/

variable {ok : List α → α → Prop} {p q : α → Prop}

theorem justified_nil : Justified ok ([] : List α) := by
  intro past entry rest hsplit
  simp at hsplit

/-- One more entry. -/
theorem justified_concat {h : List α} {x : α} :
    Justified ok (h ++ [x]) ↔ Justified ok h ∧ ok h x := by
  constructor
  · intro hall
    refine ⟨?_, hall h x [] rfl⟩
    intro past entry rest hsplit
    exact hall past entry (rest ++ [x]) (concat_eq_split.mpr (Or.inr ⟨rest, rfl, hsplit⟩))
  · rintro ⟨hall, hx⟩ past entry rest hsplit
    rcases concat_eq_split.mp hsplit with ⟨rfl, rfl, rfl⟩ | ⟨rest', rfl, hh⟩
    · exact hx
    · exact hall past entry rest' hh

/-- More entries that are allowed after any past. -/
theorem Justified.append {h l : List α} (hall : Justified ok h)
    (hl : ∀ x ∈ l, ∀ past, ok past x) : Justified ok (h ++ l) := by
  intro past entry rest hsplit
  rcases append_eq_split hsplit with ⟨rest', -, hh⟩ | ⟨past', -, hl'⟩
  · exact hall past entry rest' hh
  · refine hl entry ?_ past
    rw [hl']
    exact List.mem_append_right past' List.mem_cons_self

/-- What the past of an entry of a justified history allows. -/
theorem Justified.of_mem {h : List α} {x : α} (hall : Justified ok h) (hx : x ∈ h) :
    ∃ past, past ⊆ h ∧ ok past x := by
  obtain ⟨past, rest, hsplit⟩ := List.append_of_mem hx
  refine ⟨past, ?_, hall past x rest hsplit⟩
  rw [hsplit]
  exact List.subset_append_left past _

/-- A history whose entries are allowed after any past. -/
theorem justified_of_forall {h : List α} (hall : ∀ x ∈ h, ∀ past, ok past x) : Justified ok h := by
  intro past entry rest hsplit
  refine hall entry ?_ past
  rw [hsplit]
  exact List.mem_append_right past List.mem_cons_self

theorem then_concat {h : List α} {x : α} :
    Then p q (h ++ [x]) ↔ Then p q h ∨ (q x ∧ ∃ earlier ∈ h, p earlier) := by
  constructor
  · rintro ⟨past, entry, rest, hsplit, hq, hp⟩
    rcases concat_eq_split.mp hsplit with ⟨rfl, rfl, -⟩ | ⟨rest', -, hh⟩
    · exact Or.inr ⟨hq, hp⟩
    · exact Or.inl ⟨past, entry, rest', hh, hq, hp⟩
  · rintro (⟨past, entry, rest, hh, hq, hp⟩ | ⟨hq, hp⟩)
    · exact ⟨past, entry, rest ++ [x], concat_eq_split.mpr (Or.inr ⟨rest, rfl, hh⟩), hq, hp⟩
    · exact ⟨h, x, [], rfl, hq, hp⟩

/-- The first entry of a `Then` is in the history. -/
theorem Then.exists_first {h : List α} (hthen : Then p q h) : ∃ earlier ∈ h, p earlier := by
  obtain ⟨past, entry, rest, rfl, -, earlier, hearlier, hp⟩ := hthen
  exact ⟨earlier, List.mem_append_left _ hearlier, hp⟩

/-- The second entry of a `Then` is in the history. -/
theorem Then.exists_second {h : List α} (hthen : Then p q h) : ∃ entry ∈ h, q entry := by
  obtain ⟨past, entry, rest, rfl, hq, -⟩ := hthen
  exact ⟨entry, List.mem_append_right past List.mem_cons_self, hq⟩

end Histories
