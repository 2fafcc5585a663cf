/-
# Base64 for URLs

Bytes as letters of six bits, without padding.  The reader looks at the low byte of each UTF-16 code
unit.  It takes both alphabets, skips every byte that is a letter of neither, and stops at the
padding; what is left of a byte at the end is dropped.
-/
import Mathlib.Data.List.TakeWhile
import Mathlib.Tactic.Common

namespace Base64Url

/-! ## Letters -/

/-- The letters of the values below 64. -/
def alphabet : List Char :=
  "ABCDEFGHIJKLMNOPQRSTUVWXYZabcdefghijklmnopqrstuvwxyz0123456789-_".toList

/-- The letter of a value. -/
def letter (value : ℕ) : Char := alphabet.getD value 'A'

/-- The value of the byte of a letter, with `+` and `/` of the other alphabet. -/
def value? (byte : ℕ) : Option ℕ :=
  if 65 ≤ byte ∧ byte ≤ 90 then some (byte - 65)
  else if 97 ≤ byte ∧ byte ≤ 122 then some (byte - 71)
  else if 48 ≤ byte ∧ byte ≤ 57 then some (byte + 4)
  else if byte = '-'.toNat ∨ byte = '+'.toNat then some 62
  else if byte = '_'.toNat ∨ byte = '/'.toNat then some 63
  else none

/-- The byte of the padding. -/
def padding : ℕ := '='.toNat

/-- The UTF-16 code units of a character. -/
def codeUnits (c : Char) : List ℕ :=
  let n := c.toNat
  if n < 0x10000 then [n]
  else [0xd800 + (n - 0x10000) / 0x400, 0xdc00 + (n - 0x10000) % 0x400]

/-- The bytes of a text that the reader looks at. -/
def lowBytes (text : List Char) : List ℕ := (text.flatMap codeUnits).map (· % 256)

theorem letter_read : ∀ value < 64, codeUnits (letter value) = [(letter value).toNat] ∧
    (letter value).toNat % 256 ≠ padding ∧ value? ((letter value).toNat % 256) = some value := by
  decide +kernel

/-! ## Values of six bits -/

/-- The values of a list of bytes. -/
def values : List UInt8 → List ℕ
  | a :: b :: c :: rest =>
      a.toNat / 4 :: (a.toNat % 4 * 16 + b.toNat / 16) :: (b.toNat % 16 * 4 + c.toNat / 64) ::
        c.toNat % 64 :: values rest
  | [a, b] => [a.toNat / 4, a.toNat % 4 * 16 + b.toNat / 16, b.toNat % 16 * 4]
  | [a] => [a.toNat / 4, a.toNat % 4 * 16]
  | [] => []

/-- The bytes of a list of values. -/
def bytes : List ℕ → List UInt8
  | a :: b :: c :: d :: rest =>
      UInt8.ofNat (a * 4 + b / 16) :: UInt8.ofNat (b % 16 * 16 + c / 4) ::
        UInt8.ofNat (c % 4 * 64 + d) :: bytes rest
  | [a, b, c] => [UInt8.ofNat (a * 4 + b / 16), UInt8.ofNat (b % 16 * 16 + c / 4)]
  | [a, b] => [UInt8.ofNat (a * 4 + b / 16)]
  | _ => []

theorem ofNat_eq {b : UInt8} {n : ℕ} (h : n = b.toNat) : UInt8.ofNat n = b := by
  rw [h, UInt8.ofNat_toNat]

theorem bytes_values (input : List UInt8) : bytes (values input) = input := by
  fun_induction values input with
  | case1 a b c rest ih =>
      have ha := a.toNat_lt
      have hb := b.toNat_lt
      have hc := c.toNat_lt
      rw [bytes, ih, ofNat_eq (b := a) (by omega), ofNat_eq (b := b) (by omega),
        ofNat_eq (b := c) (by omega)]
  | case2 a b =>
      have ha := a.toNat_lt
      have hb := b.toNat_lt
      rw [bytes, ofNat_eq (b := a) (by omega), ofNat_eq (b := b) (by omega)]
  | case3 a =>
      have ha := a.toNat_lt
      rw [bytes, ofNat_eq (b := a) (by omega)]
  | case4 => rfl

theorem values_lt (input : List UInt8) : ∀ value ∈ values input, value < 64 := by
  fun_induction values input with
  | case1 a b c rest ih =>
      have ha := a.toNat_lt
      have hb := b.toNat_lt
      have hc := c.toNat_lt
      simp only [List.forall_mem_cons]
      exact ⟨by omega, by omega, by omega, by omega, ih⟩
  | case2 a b =>
      have ha := a.toNat_lt
      have hb := b.toNat_lt
      simp only [List.forall_mem_cons]
      exact ⟨by omega, by omega, by omega, by simp⟩
  | case3 a =>
      have ha := a.toNat_lt
      simp only [List.forall_mem_cons]
      exact ⟨by omega, by omega, by simp⟩
  | case4 => simp

/-! ## Texts -/

/-- The text of a list of bytes. -/
def encode (input : List UInt8) : List Char := (values input).map letter

/-- The values that are read. -/
def valuesOf (text : List Char) : List ℕ :=
  ((lowBytes text).takeWhile (· ≠ padding)).filterMap value?

/-- The bytes of a text. -/
def decode (text : List Char) : List UInt8 := bytes (valuesOf text)

/-- None of the bytes of the character is a letter or the padding. -/
def IsSkipped (c : Char) : Prop :=
  ∀ unit ∈ codeUnits c, value? (unit % 256) = none ∧ unit % 256 ≠ padding

/-- What is skipped where it stands may stand anywhere. -/
theorem filterMap_takeWhile_skip {f : ℕ → Option ℕ} {p : ℕ → Bool} {skipped : List ℕ}
    (h : ∀ byte ∈ skipped, f byte = none ∧ p byte = true) (before after : List ℕ) :
    ((before ++ (skipped ++ after)).takeWhile p).filterMap f =
      ((before ++ after).takeWhile p).filterMap f := by
  induction before with
  | nil =>
      have hnone : skipped.filterMap f = [] :=
        List.filterMap_eq_nil_iff.mpr fun byte hbyte => (h byte hbyte).1
      rw [List.nil_append, List.nil_append,
        List.takeWhile_append_of_pos fun byte hbyte => (h byte hbyte).2, List.filterMap_append,
        hnone, List.nil_append]
  | cons byte before ih =>
      rw [List.cons_append, List.cons_append, List.takeWhile_cons, List.takeWhile_cons]
      split
      · rw [List.filterMap_cons, List.filterMap_cons, ih]
      · rfl

/-- **A skipped character may stand anywhere.** -/
theorem decode_skip {c : Char} (h : IsSkipped c) (before after : List Char) :
    decode (before ++ c :: after) = decode (before ++ after) := by
  have hskipped : ∀ byte ∈ (codeUnits c).map (· % 256),
      value? byte = none ∧ decide (byte ≠ padding) = true := by
    intro byte hbyte
    obtain ⟨unit, hunit, rfl⟩ := List.mem_map.mp hbyte
    exact ⟨(h unit hunit).1, decide_eq_true (h unit hunit).2⟩
  rw [decode, decode, valuesOf, valuesOf, lowBytes, lowBytes, List.flatMap_append,
    List.flatMap_append, List.flatMap_cons, List.map_append, List.map_append, List.map_append,
    filterMap_takeWhile_skip hskipped]

/-- What a character adds, if none of its bytes is the padding. -/
theorem valuesOf_cons {c : Char} (h : ∀ unit ∈ codeUnits c, unit % 256 ≠ padding)
    (text : List Char) : valuesOf (c :: text) =
      ((codeUnits c).filterMap fun unit => value? (unit % 256)) ++ valuesOf text := by
  have hkept : ∀ byte ∈ (codeUnits c).map (· % 256), decide (byte ≠ padding) = true := by
    intro byte hbyte
    obtain ⟨unit, hunit, rfl⟩ := List.mem_map.mp hbyte
    exact decide_eq_true (h unit hunit)
  rw [valuesOf, lowBytes, List.flatMap_cons, List.map_append,
    List.takeWhile_append_of_pos hkept, List.filterMap_append, List.filterMap_map]
  rfl

theorem valuesOf_letters {vs : List ℕ} (h : ∀ value ∈ vs, value < 64) :
    valuesOf (vs.map letter) = vs := by
  induction vs with
  | nil => rfl
  | cons value vs ih =>
      rw [List.forall_mem_cons] at h
      obtain ⟨hunits, hpadding, hvalue⟩ := letter_read value h.1
      have hcons := valuesOf_cons (c := letter value) (by
        rw [hunits, List.forall_mem_singleton]
        exact hpadding) (vs.map letter)
      rw [List.map_cons, hcons, ih h.2, hunits, List.filterMap_cons, hvalue]
      rfl

theorem valuesOf_encode (input : List UInt8) : valuesOf (encode input) = values input :=
  valuesOf_letters (values_lt input)

/-- **A text is read as what was written, whatever its letters are mixed with.** -/
theorem decode_of_values {input : List UInt8} {text : List Char}
    (h : valuesOf text = valuesOf (encode input)) : decode text = input := by
  rw [decode, h, valuesOf_encode, bytes_values]

end Base64Url
