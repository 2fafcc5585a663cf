/-
# Runs of bits in a machine word

A word that is shifted to the left and filled from the right is a queue of bits: the bits that wait
are its lowest ones, and those above them, which are never cleared, do not matter.  Groups of one
width go in and groups of another come out; the bits are the same in the same order.
-/
import Mathlib.Data.List.Basic
import Mathlib.Tactic.Ring

namespace BitRuns

variable {w n m : ℕ}

/-- The lowest bits of a word, the highest of them first. -/
def lowBits (v : BitVec w) : ℕ → List Bool
  | 0 => []
  | n + 1 => v.getLsbD n :: lowBits v n

@[simp]
theorem length_lowBits (v : BitVec w) (n : ℕ) : (lowBits v n).length = n := by
  induction n with
  | zero => rfl
  | succ n ih => rw [lowBits, List.length_cons, ih]

theorem lowBits_congr {w' : ℕ} {v : BitVec w} {u : BitVec w'}
    (h : ∀ i < n, v.getLsbD i = u.getLsbD i) : lowBits v n = lowBits u n := by
  induction n with
  | zero => rfl
  | succ n ih => rw [lowBits, lowBits, h n (Nat.lt_succ_self n), ih fun i hi => h i (by omega)]

/-- The bits of a run are those of the word. -/
theorem getLsbD_of_lowBits_eq {w' : ℕ} {v : BitVec w} {u : BitVec w'}
    (h : lowBits v n = lowBits u n) : ∀ i < n, v.getLsbD i = u.getLsbD i := by
  induction n with
  | zero => exact fun i hi => absurd hi (Nat.not_lt_zero i)
  | succ n ih =>
      obtain ⟨hhigh, hlow⟩ := List.cons.inj h
      intro i hi
      rcases Nat.lt_succ_iff_lt_or_eq.mp hi with hi | rfl
      · exact ih hlow i hi
      · exact hhigh

/-- A word is all of its bits. -/
theorem lowBits_injective : Function.Injective fun v : BitVec w => lowBits v w := by
  intro v u h
  exact BitVec.eq_of_getLsbD_eq fun i hi => getLsbD_of_lowBits_eq h i hi

/-- A run is what the word shifted by the lower part shows, and the lower part. -/
theorem lowBits_add (v : BitVec w) (n m : ℕ) :
    lowBits v (n + m) = lowBits (v >>> m) n ++ lowBits v m := by
  induction n with
  | zero => rw [Nat.zero_add, lowBits, List.nil_append]
  | succ n ih =>
      have hbit : (v >>> m).getLsbD n = v.getLsbD (n + m) := by
        rw [BitVec.getLsbD_ushiftRight, Nat.add_comm m]
      rw [Nat.add_right_comm, lowBits, lowBits, ih, hbit, List.cons_append]

/-- A mask of the lowest bits keeps them. -/
theorem lowBits_and_mask (v : BitVec w) {mask : BitVec w}
    (hmask : ∀ i < n, mask.getLsbD i = true) : lowBits (v &&& mask) n = lowBits v n :=
  lowBits_congr fun i hi => by rw [BitVec.getLsbD_and, hmask i hi, Bool.and_true]

/-- **What comes out**: the highest bits of a run, shifted down and masked; the others stay. -/
theorem lowBits_take (v : BitVec w) {mask : BitVec w} (hmask : ∀ i < n, mask.getLsbD i = true)
    (m : ℕ) : lowBits v (n + m) = lowBits ((v >>> m) &&& mask) n ++ lowBits v m := by
  rw [lowBits_add, lowBits_and_mask _ hmask]

/-- **What goes in**: a group joined below a run that has room for it. -/
theorem lowBits_push (v u : BitVec w) (hroom : n + m ≤ w)
    (hgroup : ∀ i, m ≤ i → u.getLsbD i = false) :
    lowBits ((v <<< m) ||| u) (n + m) = lowBits v n ++ lowBits u m := by
  have hhigh : lowBits (((v <<< m) ||| u) >>> m) n = lowBits v n := by
    refine lowBits_congr fun i hi => ?_
    have hlt : m + i < w := by omega
    rw [BitVec.getLsbD_ushiftRight, BitVec.getLsbD_or, BitVec.getLsbD_shiftLeft,
      hgroup (m + i) (Nat.le_add_right m i), Nat.add_sub_cancel_left]
    simp only [hlt, decide_true, Bool.true_and, Nat.not_lt.mpr (Nat.le_add_right m i),
      decide_false, Bool.not_false, Bool.or_false]
  have hlow : lowBits ((v <<< m) ||| u) m = lowBits u m := by
    refine lowBits_congr fun i hi => ?_
    rw [BitVec.getLsbD_or, BitVec.getLsbD_shiftLeft]
    simp only [hi, decide_true, Bool.not_true, Bool.and_false, Bool.false_and, Bool.false_or]
  rw [lowBits_add, hhigh, hlow]

/-- A run filled up with zeros. -/
theorem lowBits_shiftLeft (v : BitVec w) (hroom : n + m ≤ w) :
    lowBits (v <<< m) (n + m) = lowBits v n ++ List.replicate m false := by
  have hzero : ∀ k, lowBits (0#w) k = List.replicate k false := by
    intro k
    induction k with
    | zero => rfl
    | succ k ih => rw [lowBits, ih, BitVec.getLsbD_zero, List.replicate_succ]
  have h := lowBits_push (n := n) (m := m) v 0#w hroom fun i _ => BitVec.getLsbD_zero
  rwa [BitVec.or_zero, hzero] at h

/-! ## Groups of one width -/

section Groups

variable {α : Type*} {code : α → List Bool} {width : ℕ}

theorem length_flatMap_groups (hwidth : ∀ a, (code a).length = width) (groups : List α) :
    (groups.flatMap code).length = width * groups.length := by
  induction groups with
  | nil => rfl
  | cons a groups ih =>
      rw [List.flatMap_cons, List.length_append, hwidth, ih, List.length_cons]
      ring

/-- Groups are known from their bits. -/
theorem flatMap_groups_injective (hcode : Function.Injective code)
    (hwidth : ∀ a, (code a).length = width) (hpos : 0 < width) {xs ys : List α}
    (h : xs.flatMap code = ys.flatMap code) : xs = ys := by
  have hlength : xs.length = ys.length := by
    have := congrArg List.length h
    rw [length_flatMap_groups hwidth, length_flatMap_groups hwidth] at this
    exact Nat.eq_of_mul_eq_mul_left hpos this
  induction xs generalizing ys with
  | nil => exact (List.length_eq_zero_iff.mp hlength.symm).symm
  | cons x xs ih =>
      obtain _ | ⟨y, ys⟩ := ys
      · exact absurd hlength (Nat.succ_ne_zero _)
      · rw [List.flatMap_cons, List.flatMap_cons] at h
        obtain ⟨hhead, htail⟩ := List.append_inj h (by rw [hwidth, hwidth])
        rw [hcode hhead, ih htail (Nat.succ.inj hlength)]

/-- **The same bits with a rest that is no group give the same groups.** -/
theorem groups_eq_of_append_eq (hcode : Function.Injective code)
    (hwidth : ∀ a, (code a).length = width) {xs ys : List α} {rest rest' : List Bool}
    (hrest : rest.length < width) (hrest' : rest'.length < width)
    (h : xs.flatMap code ++ rest = ys.flatMap code ++ rest') : xs = ys := by
  have hpos : 0 < width := Nat.zero_lt_of_lt hrest
  have hlength := congrArg List.length h
  rw [List.length_append, List.length_append, length_flatMap_groups hwidth,
    length_flatMap_groups hwidth] at hlength
  have hcount : xs.length = ys.length := by
    have hxs : (width * xs.length + rest.length) / width = xs.length := by
      rw [Nat.mul_add_div hpos, Nat.div_eq_of_lt hrest, Nat.add_zero]
    have hys : (width * ys.length + rest'.length) / width = ys.length := by
      rw [Nat.mul_add_div hpos, Nat.div_eq_of_lt hrest', Nat.add_zero]
    rw [← hxs, hlength, hys]
  have hbits := (List.append_inj h (by
    rw [length_flatMap_groups hwidth, length_flatMap_groups hwidth, hcount])).1
  exact flatMap_groups_injective hcode hwidth hpos hbits

end Groups

end BitRuns
