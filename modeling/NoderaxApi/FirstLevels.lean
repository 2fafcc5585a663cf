/-
# The least of the first inhabited level

A search may have several levels: the sets are tried in order, and the least element of the first
set that has one is taken.  Such an element is unique, and comes after a bound exactly when all
elements of its set do.  A scan of an ascending list finds the least element of its set.
-/
import Mathlib.Order.Bounds.Basic
import Mathlib.Data.List.Pairwise
import Mathlib.Data.List.Sort

namespace FirstLevels

section Levels

variable {α : Type*} [LinearOrder α]

/-- `a` is the least element of the first inhabited level. -/
def IsFirst : List (Set α) → α → Prop
  | [], _ => False
  | level :: levels, a => IsLeast level a ∨ level = ∅ ∧ IsFirst levels a

/-- The elements of the first inhabited level all come after `b`. -/
def Ahead (b : α) : List (Set α) → Prop
  | [] => True
  | level :: levels => (∀ a ∈ level, b < a) ∧ (level = ∅ → Ahead b levels)

theorem isFirst_unique {levels : List (Set α)} {a b : α} (ha : IsFirst levels a)
    (hb : IsFirst levels b) : a = b := by
  induction levels with
  | nil => exact ha.elim
  | cons level levels ih =>
      rcases ha with ha | ⟨hempty, ha⟩ <;> rcases hb with hb | ⟨hempty', hb⟩
      · exact ha.unique hb
      · rw [hempty'] at ha
        exact absurd ha.1 (Set.notMem_empty a)
      · rw [hempty] at hb
        exact absurd hb.1 (Set.notMem_empty b)
      · exact ih ha hb

/-- The element found comes after a bound if and only if its level does. -/
theorem lt_iff_ahead {levels : List (Set α)} {a b : α} (ha : IsFirst levels a) :
    b < a ↔ Ahead b levels := by
  induction levels with
  | nil => exact ha.elim
  | cons level levels ih =>
      rcases ha with ha | ⟨hempty, ha⟩
      · refine ⟨fun hlt => ⟨fun c hc => lt_of_lt_of_le hlt (ha.2 hc), fun hempty => ?_⟩,
          fun hall => hall.1 a ha.1⟩
        rw [hempty] at ha
        exact absurd ha.1 (Set.notMem_empty a)
      · refine (ih ha).trans ⟨fun hrest => ⟨fun c hc => ?_, fun _ => hrest⟩,
          fun hall => hall.2 hempty⟩
        rw [hempty] at hc
        exact absurd hc (Set.notMem_empty c)

end Levels

section Lists

variable {α : Type*} [LinearOrder α]

/-- The head of a sorted list. -/
theorem isLeast_head_sort {l l' : List α} {a : α} (h : l.insertionSort (· ≤ ·) = a :: l') :
    IsLeast {b | b ∈ l} a := by
  have hsorted := List.pairwise_insertionSort (· ≤ ·) l
  rw [h, List.pairwise_cons] at hsorted
  have hmem : ∀ b, b ∈ l ↔ b = a ∨ b ∈ l' := fun b => by
    rw [← List.mem_insertionSort (· ≤ ·), h, List.mem_cons]
  refine ⟨(hmem a).mpr (Or.inl rfl), fun b hb => ?_⟩
  rcases (hmem b).mp hb with rfl | hrest
  · exact le_rfl
  · exact hsorted.1 b hrest

theorem eq_nil_of_sort_nil {l : List α} (h : l.insertionSort (· ≤ ·) = []) : l = [] := by
  have hlength := List.length_insertionSort (· ≤ ·) l
  rw [h] at hlength
  exact List.length_eq_zero_iff.mp hlength.symm

/-- The first element of an ascending list that satisfies a predicate. -/
theorem isLeast_find {l : List α} (hl : l.Pairwise (· < ·)) {p : α → Bool} {a : α}
    (h : l.find? p = some a) : IsLeast {b | b ∈ l ∧ p b = true} a := by
  obtain ⟨hp, before, rest, hsplit, hbefore⟩ := List.find?_eq_some_iff_append.mp h
  refine ⟨⟨List.mem_of_find?_eq_some h, hp⟩, fun b hb => ?_⟩
  rw [hsplit, List.pairwise_append, List.pairwise_cons] at hl
  have hmem := hb.1
  rw [hsplit, List.mem_append, List.mem_cons] at hmem
  rcases hmem with hfirst | rfl | hrest
  · have hnot := hbefore b hfirst
    rw [hb.2] at hnot
    exact absurd hnot (by decide)
  · exact le_rfl
  · exact (hl.2.1.1 b hrest).le

end Lists

end FirstLevels
