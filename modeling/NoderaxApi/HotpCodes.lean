/-
# One-time codes of a counter

The definition of the HOTP standard, with the keyed hash as a parameter: eight bytes of the counter,
the highest first, are hashed to twenty, four of which are chosen by the last one and read as a
number of 31 bits; its last decimal digits are the code.
-/
import Mathlib.Data.List.Basic
import Mathlib.Tactic.Ring

namespace Hotp

/-! ## Decimal digits -/

/-- The last `n` decimal digits. -/
def decimal : ℕ → ℕ → List Char
  | 0, _ => []
  | n + 1, value => decimal n (value / 10) ++ [Nat.digitChar (value % 10)]

@[simp]
theorem length_decimal (n value : ℕ) : (decimal n value).length = n := by
  induction n generalizing value with
  | zero => rfl
  | succ n ih => rw [decimal, List.length_append, ih, List.length_singleton]

theorem isDigit_decimal {n value : ℕ} : ∀ c ∈ decimal n value, c.isDigit = true := by
  induction n generalizing value with
  | zero => exact fun c hc => absurd hc List.not_mem_nil
  | succ n ih =>
      intro c hc
      rcases List.mem_append.mp hc with hc | hc
      · exact ih c hc
      · rw [List.mem_singleton.mp hc, Nat.isDigit_digitChar]
        exact decide_eq_true (Nat.mod_lt _ (by decide))

theorem decimal_zero (n : ℕ) : decimal n 0 = List.replicate n '0' := by
  induction n with
  | zero => rfl
  | succ n ih => rw [decimal, Nat.zero_div, ih, List.replicate_succ']; rfl

/-- **The digits are those of the number, filled up with zeros.** -/
theorem decimal_eq_replicate_append {n value : ℕ} (hpos : 0 < n) (h : value < 10 ^ n) :
    decimal n value =
      List.replicate (n - (Nat.toDigits 10 value).length) '0' ++ Nat.toDigits 10 value := by
  induction n generalizing value with
  | zero => exact absurd hpos (Nat.lt_irrefl 0)
  | succ n ih =>
      rcases Nat.lt_or_ge value 10 with hlt | hge
      · rw [decimal, Nat.div_eq_of_lt hlt, Nat.mod_eq_of_lt hlt, decimal_zero,
          Nat.toDigits_of_lt_base hlt]
        rfl
      · have hquotient : value / 10 < 10 ^ n := by
          rw [Nat.pow_succ] at h
          exact Nat.div_lt_of_lt_mul (by rwa [Nat.mul_comm])
        have hn : 0 < n := by
          by_contra hzero
          rw [Nat.eq_zero_of_not_pos hzero] at h
          omega
        rw [decimal, ih hn hquotient, Nat.toDigits_of_base_le (by decide) hge, List.length_append,
          List.length_singleton, Nat.add_sub_add_right, List.append_assoc]

/-! ## Bytes -/

/-- The number whose bytes these are, the highest first. -/
def ofBytes (bytes : List (BitVec 8)) : ℕ :=
  bytes.foldl (fun n byte => 256 * n + byte.toNat) 0

/-- The last `n` bytes of a number, the highest first. -/
def toBytes : ℕ → ℕ → List (BitVec 8)
  | 0, _ => []
  | n + 1, value => toBytes n (value / 256) ++ [BitVec.ofNat 8 value]

/-- A number in two parts. -/
theorem toBytes_add (n m value : ℕ) :
    toBytes (n + m) value = toBytes n (value / 256 ^ m) ++ toBytes m value := by
  induction m generalizing value with
  | zero => rw [Nat.add_zero, Nat.pow_zero, Nat.div_one, toBytes, List.append_nil]
  | succ m ih =>
      rw [Nat.add_succ, toBytes, toBytes, ih, Nat.div_div_eq_div_mul, ← Nat.pow_succ',
        List.append_assoc]

/-- Only the lowest bytes of the number matter. -/
theorem toBytes_mod (n value : ℕ) : toBytes n (value % 256 ^ n) = toBytes n value := by
  induction n generalizing value with
  | zero => rfl
  | succ n ih =>
      have hquotient : value % 256 ^ (n + 1) / 256 = value / 256 % 256 ^ n := by
        rw [Nat.pow_succ', Nat.mod_mul_right_div_self]
      have hlast : BitVec.ofNat 8 (value % 256 ^ (n + 1)) = BitVec.ofNat 8 value := by
        apply BitVec.eq_of_toNat_eq
        rw [BitVec.toNat_ofNat, BitVec.toNat_ofNat, Nat.pow_succ']
        exact Nat.mod_mul_right_mod value 256 (256 ^ n)
      rw [toBytes, toBytes, hquotient, hlast, ih]

/-! ## Codes -/

/-- The offset that the last four bits of a digest give. -/
def offset (digest : Vector (BitVec 8) 20) : ℕ := (digest.get 19).toNat % 16

theorem offset_lt (digest : Vector (BitVec 8) 20) : offset digest < 16 :=
  Nat.mod_lt _ (by decide)

/-- A byte of the digest, counted from the offset. -/
def chosenByte (digest : Vector (BitVec 8) 20) (i : Fin 4) : BitVec 8 :=
  digest.get ⟨offset digest + i, by have := offset_lt digest; omega⟩

/-- Dynamic truncation: the last 31 bits of the four bytes. -/
def truncate (digest : Vector (BitVec 8) 20) : ℕ :=
  ofBytes [chosenByte digest 0, chosenByte digest 1, chosenByte digest 2, chosenByte digest 3] %
    2 ^ 31

/-- The code of a counter, with this many digits. -/
def code (hmac : List (BitVec 8) → List (BitVec 8) → Vector (BitVec 8) 20) (digits : ℕ)
    (key : List (BitVec 8)) (counter : ℕ) : String :=
  String.ofList (decimal digits (truncate (hmac key (toBytes 8 counter)) % 10 ^ digits))

theorem length_code (hmac : List (BitVec 8) → List (BitVec 8) → Vector (BitVec 8) 20)
    (digits : ℕ) (key : List (BitVec 8)) (counter : ℕ) :
    (code hmac digits key counter).length = digits := by
  rw [code, String.length_ofList, length_decimal]

end Hotp
