/-
# Functions that jump

A function on the integers that is constant between its jumps, when its jumps are apart: around
a jump it has one value before and one value after, and a stretch with no jump has one value.
-/
import Mathlib.Data.Int.Init
import Mathlib.Tactic.ByContra
import Mathlib.Tactic.Push

namespace StepFunctions

variable {α : Type*} (f : ℤ → α)

/-- The value at `s` is another one than just before. -/
def Jump (s : ℤ) : Prop := f (s - 1) ≠ f s

/-- Any two jumps are at least `gap` apart. -/
def JumpsApart (gap : ℤ) : Prop := ∀ s t, s < t → Jump f s → Jump f t → gap ≤ t - s

variable {f}

/-- Without a jump, the value stays. -/
theorem eq_of_no_jump {a b : ℤ} (hab : a ≤ b) (h : ∀ s, a < s → s ≤ b → ¬ Jump f s) :
    f b = f a := by
  induction b, hab using Int.leInduction with
  | base => rfl
  | succ b hab ih =>
      have hstep : f (b + 1 - 1) = f (b + 1) := not_ne_iff.mp (h (b + 1) (by omega) (Int.le_refl _))
      rw [← hstep, Int.add_sub_cancel]
      exact ih fun s hs hsb => h s hs (by omega)

/-- A stretch has one value, or a jump. -/
theorem const_or_jump (f : ℤ → α) (a b : ℤ) :
    (∀ t, a ≤ t → t ≤ b → f t = f a) ∨ ∃ s, a < s ∧ s ≤ b ∧ Jump f s := by
  by_cases hjump : ∃ s, a < s ∧ s ≤ b ∧ Jump f s
  · exact Or.inr hjump
  · push Not at hjump
    exact Or.inl fun t hat htb => eq_of_no_jump hat fun s has hst =>
      hjump s has (Int.le_trans hst htb)

/-- The value before a jump. -/
theorem JumpsApart.before {gap s t : ℤ} (h : JumpsApart f gap) (hs : Jump f s) (hle : s - gap ≤ t)
    (hlt : t < s) : f t = f (s - 1) := by
  refine (eq_of_no_jump (by omega) fun u htu hus hu => ?_).symm
  have hgap := h u s (by omega) hu hs
  omega

/-- The value after a jump. -/
theorem JumpsApart.after {gap s t : ℤ} (h : JumpsApart f gap) (hs : Jump f s) (hle : s ≤ t)
    (hlt : t < s + gap) : f t = f s := by
  refine eq_of_no_jump hle fun u hsu hut hu => ?_
  have hgap := h s u hsu hs hu
  omega

/-! A function with one jump. -/

theorem eq_of_jump_ite {s t : ℤ} {a b : α} (h : Jump (fun u => if u < s then a else b) t) :
    t = s := by
  by_contra hne
  refine h ?_
  rcases Int.lt_or_gt_of_ne hne with hlt | hgt
  · simp only [if_pos hlt, if_pos (show t - 1 < s by omega)]
  · simp only [if_neg (show ¬ t < s by omega), if_neg (show ¬ t - 1 < s by omega)]

theorem jumpsApart_ite {s gap : ℤ} {a b : α} :
    JumpsApart (fun u => if u < s then a else b) gap := by
  intro t u htu ht hu
  rw [eq_of_jump_ite ht, eq_of_jump_ite hu] at htu
  exact absurd htu (Int.lt_irrefl s)

end StepFunctions
