/-
# The weights of the pending calls

A counter that calls change in two steps differs from what it counts by what the pending calls
still owe it.  Each pending call has a weight; `Weighs` says what the weights add up to, and one
step of one call changes the sum by the weights of that call alone.
-/
import NoderaxApi.Interleaving
import Mathlib.Algebra.BigOperators.Group.Finset.Basic
import Mathlib.Algebra.Order.BigOperators.Group.Finset
import Mathlib.Tactic.Ring

open scoped BigOperators

namespace Interleaving

variable {P L : Type*} {w : L → ℤ} {pending : P → Option L} {n : ℤ}

/-- The weight of a call, if there is one. -/
def pendingWeight (w : L → ℤ) : Option L → ℤ
  | none => 0
  | some l => w l

/-- The weights of the pending calls, of which there are finitely many, add up to `n`. -/
def Weighs (w : L → ℤ) (pending : P → Option L) (n : ℤ) : Prop :=
  ∃ S : Finset P, (∀ p ∉ S, pending p = none) ∧ ∑ p ∈ S, pendingWeight w (pending p) = n

theorem weighs_idle : Weighs w (fun _ : P => none) 0 := ⟨∅, fun _ _ => rfl, rfl⟩

/-- Nothing is owed when no call is pending. -/
theorem Weighs.eq_zero (h : Weighs w pending n) (hidle : ∀ p, pending p = none) : n = 0 := by
  obtain ⟨S, -, rfl⟩ := h
  exact Finset.sum_eq_zero fun p _ => by rw [hidle p]; rfl

theorem Weighs.nonpos (h : Weighs w pending n) (hw : ∀ p l, pending p = some l → w l ≤ 0) :
    n ≤ 0 := by
  obtain ⟨S, -, rfl⟩ := h
  refine Finset.sum_nonpos fun p _ => ?_
  cases hp : pending p with
  | none => exact le_refl 0
  | some l => exact hw p l hp

theorem Weighs.nonneg (h : Weighs w pending n) (hw : ∀ p l, pending p = some l → 0 ≤ w l) :
    0 ≤ n := by
  obtain ⟨S, -, rfl⟩ := h
  refine Finset.sum_nonneg fun p _ => ?_
  cases hp : pending p with
  | none => exact le_refl 0
  | some l => exact hw p l hp

variable [DecidableEq P]

/-- **One call moves.** -/
theorem Weighs.update (h : Weighs w pending n) (p : P) (next : Option L) :
    Weighs w (Function.update pending p next)
      (n - pendingWeight w (pending p) + pendingWeight w next) := by
  obtain ⟨S, hfree, rfl⟩ := h
  refine ⟨insert p S, fun q hq => ?_, ?_⟩
  · rw [Finset.mem_insert, not_or] at hq
    rw [Function.update_of_ne hq.1]
    exact hfree q hq.2
  · have hrest : ∑ q ∈ S.erase p, pendingWeight w (Function.update pending p next q) =
        ∑ q ∈ S.erase p, pendingWeight w (pending q) :=
      Finset.sum_congr rfl fun q hq => by rw [Function.update_of_ne (Finset.ne_of_mem_erase hq)]
    have hafter := Finset.add_sum_erase (insert p S)
      (fun q => pendingWeight w (Function.update pending p next q)) (Finset.mem_insert_self p S)
    rw [Finset.erase_insert_eq_erase, hrest, Function.update_self] at hafter
    have hbefore : pendingWeight w (pending p) + ∑ q ∈ S.erase p, pendingWeight w (pending q) =
        ∑ q ∈ S, pendingWeight w (pending q) := by
      by_cases hp : p ∈ S
      · exact Finset.add_sum_erase S (fun q => pendingWeight w (pending q)) hp
      · rw [hfree p hp, Finset.erase_eq_of_notMem hp]
        exact zero_add _
    rw [← hafter, ← hbefore]
    ring

end Interleaving
