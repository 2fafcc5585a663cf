/-
# UTF-8 with replacement

The decoding of `TextDecoder` and `Buffer.toString('utf8')`: bytes that are no UTF-8 become
U+FFFD, one for each maximal part of a character that could have been one.

The decoder reads a byte at a time, so it can be cut anywhere: `decode_encode_append` says
what follows a whole encoded text.  The encoding of a character is that of the core library.
-/
import Mathlib.Data.Char
import Mathlib.Data.List.Basic
import Mathlib.Tactic.Common

namespace Utf8

/-! ## The decoder -/

/-- A character of which some bytes are read: the bits so far, the number of bytes still to
come, and the bounds of the next one. -/
structure Partial where
  point : ℕ
  needed : ℕ
  lower : ℕ := 0x80
  upper : ℕ := 0xBF
  deriving DecidableEq, Repr

/-- U+FFFD. -/
def replacement : Char := Char.ofNat 0xFFFD

/-- The first byte of a character, or one that is none: what is emitted, and what is left. -/
def first (n : ℕ) : List Char × Option Partial :=
  if n < 0x80 then ([Char.ofNat n], none)
  else if 0xC2 ≤ n ∧ n ≤ 0xDF then ([], some ⟨n - 0xC0, 1, 0x80, 0xBF⟩)
  else if 0xE0 ≤ n ∧ n ≤ 0xEF then
    ([], some ⟨n - 0xE0, 2, if n = 0xE0 then 0xA0 else 0x80, if n = 0xED then 0x9F else 0xBF⟩)
  else if 0xF0 ≤ n ∧ n ≤ 0xF4 then
    ([], some ⟨n - 0xF0, 3, if n = 0xF0 then 0x90 else 0x80, if n = 0xF4 then 0x8F else 0xBF⟩)
  else ([replacement], none)

/-- One byte.  One that does not continue the character that was begun ends it and is read
again as a first byte. -/
def next (state : Option Partial) (n : ℕ) : List Char × Option Partial :=
  match state with
  | none => first n
  | some p =>
      if p.lower ≤ n ∧ n ≤ p.upper then
        let point := p.point * 64 + (n - 0x80)
        if p.needed ≤ 1 then ([Char.ofNat point], none)
        else ([], some ⟨point, p.needed - 1, 0x80, 0xBF⟩)
      else (replacement :: (first n).1, (first n).2)

/-- The rest of the bytes. -/
def decodeFrom : Option Partial → List UInt8 → List Char
  | none, [] => []
  | some _, [] => [replacement]
  | state, b :: bs => (next state b.toNat).1 ++ decodeFrom (next state b.toNat).2 bs

/-- The text of a list of bytes. -/
def decode (bytes : List UInt8) : List Char := decodeFrom none bytes

/-- The bytes of a text. -/
def encode (text : List Char) : List UInt8 := text.flatMap String.utf8EncodeChar

theorem encode_append (a b : List Char) : encode (a ++ b) = encode a ++ encode b :=
  List.flatMap_append

theorem encode_flatten (texts : List (List Char)) :
    encode texts.flatten = (texts.map encode).flatten := by
  induction texts with
  | nil => rfl
  | cons text texts ih =>
      rw [List.flatten_cons, encode_append, ih, List.map_cons, List.flatten_cons]

/-! ## Reading back -/

theorem decodeFrom_cons (state : Option Partial) (b : UInt8) (bs : List UInt8) :
    decodeFrom state (b :: bs)
      = (next state b.toNat).1 ++ decodeFrom (next state b.toNat).2 bs := by
  cases state <;> rfl

theorem toNat_ofNat {n : ℕ} (hn : n < 256) : (UInt8.ofNat n).toNat = n := by
  rw [UInt8.toNat_ofNat']
  exact Nat.mod_eq_of_lt hn

/-- A byte between two characters. -/
theorem decodeFrom_first {n : ℕ} {bs : List UInt8} (hn : n < 256) :
    decodeFrom none (UInt8.ofNat n :: bs) = (first n).1 ++ decodeFrom (first n).2 bs := by
  rw [decodeFrom_cons, toNat_ofNat hn]
  rfl

/-- A byte that is the last of its character. -/
theorem decodeFrom_last {p : Partial} {n : ℕ} {bs : List UInt8} (hneeded : p.needed = 1)
    (hn : n < 256) (hrange : p.lower ≤ n ∧ n ≤ p.upper) :
    decodeFrom (some p) (UInt8.ofNat n :: bs)
      = Char.ofNat (p.point * 64 + (n - 0x80)) :: decodeFrom none bs := by
  rw [decodeFrom_cons, toNat_ofNat hn, next, if_pos hrange, if_pos (by omega)]
  rfl

/-- A byte inside a character. -/
theorem decodeFrom_more {p : Partial} {n : ℕ} {bs : List UInt8} (hneeded : 1 < p.needed)
    (hn : n < 256) (hrange : p.lower ≤ n ∧ n ≤ p.upper) :
    decodeFrom (some p) (UInt8.ofNat n :: bs)
      = decodeFrom (some ⟨p.point * 64 + (n - 0x80), p.needed - 1, 0x80, 0xBF⟩) bs := by
  rw [decodeFrom_cons, toNat_ofNat hn, next, if_pos hrange, if_neg (by omega)]
  rfl

/-- The code point of a character is no surrogate and in range. -/
theorem val_bounds (c : Char) :
    c.val.toNat < 0xD800 ∨ (0xDFFF < c.val.toNat ∧ c.val.toNat < 0x110000) := c.valid

/-! One lemma for each length of an encoding: the bytes of the code point `n`, built by quotient and
remainder, give `n` back. -/

theorem decodeFrom_oneByte {n : ℕ} {bs : List UInt8} (hn : n < 0x80) :
    decodeFrom none (UInt8.ofNat n :: bs) = Char.ofNat n :: decodeFrom none bs := by
  have hfirst : first n = ([Char.ofNat n], none) := by rw [first, if_pos hn]
  rw [decodeFrom_first (by omega), hfirst]
  rfl

theorem decodeFrom_twoBytes {n : ℕ} {bs : List UInt8} (hlow : 0x80 ≤ n) (hn : n < 0x800) :
    decodeFrom none (UInt8.ofNat (n / 64 % 0x20 + 0xc0) :: UInt8.ofNat (n % 0x40 + 0x80) :: bs)
      = Char.ofNat n :: decodeFrom none bs := by
  have hfirst : first (n / 64 % 0x20 + 0xc0)
      = ([], some ⟨n / 64 % 0x20 + 0xc0 - 0xC0, 1, 0x80, 0xBF⟩) := by
    rw [first, if_neg (by omega), if_pos (by omega)]
  have hpoint : (n / 64 % 0x20 + 0xc0 - 0xC0) * 64 + (n % 0x40 + 0x80 - 0x80) = n := by omega
  rw [decodeFrom_first (by omega), hfirst, List.nil_append,
    decodeFrom_last rfl (by omega) (by simp only; omega)]
  simp only [hpoint]

theorem decodeFrom_threeBytes {n : ℕ} {bs : List UInt8} (hlow : 0x800 ≤ n) (hn : n < 0x10000)
    (hvalid : n < 0xD800 ∨ 0xDFFF < n) :
    decodeFrom none (UInt8.ofNat (n / 4096 % 0x10 + 0xe0) :: UInt8.ofNat (n / 64 % 0x40 + 0x80)
        :: UInt8.ofNat (n % 0x40 + 0x80) :: bs)
      = Char.ofNat n :: decodeFrom none bs := by
  have hfirst : first (n / 4096 % 0x10 + 0xe0) = ([], some
      ⟨n / 4096 % 0x10 + 0xe0 - 0xE0, 2,
        if n / 4096 % 0x10 + 0xe0 = 0xE0 then 0xA0 else 0x80,
        if n / 4096 % 0x10 + 0xe0 = 0xED then 0x9F else 0xBF⟩) := by
    rw [first, if_neg (by omega), if_neg (by omega), if_pos (by omega)]
  have hpoint : ((n / 4096 % 0x10 + 0xe0 - 0xE0) * 64 + (n / 64 % 0x40 + 0x80 - 0x80)) * 64
      + (n % 0x40 + 0x80 - 0x80) = n := by omega
  rw [decodeFrom_first (by omega), hfirst, List.nil_append,
    -- the second byte's range leaves out the long encodings (0xE0) and the surrogates (0xED)
    decodeFrom_more Nat.one_lt_two (by omega) (by simp only; split <;> split <;> omega),
    decodeFrom_last rfl (by omega) (by simp only; omega)]
  simp only [hpoint]

theorem decodeFrom_fourBytes {n : ℕ} {bs : List UInt8} (hlow : 0x10000 ≤ n) (hn : n < 0x110000) :
    decodeFrom none (UInt8.ofNat (n / 262144 % 0x08 + 0xf0)
        :: UInt8.ofNat (n / 4096 % 0x40 + 0x80) :: UInt8.ofNat (n / 64 % 0x40 + 0x80)
        :: UInt8.ofNat (n % 0x40 + 0x80) :: bs)
      = Char.ofNat n :: decodeFrom none bs := by
  have hfirst : first (n / 262144 % 0x08 + 0xf0) = ([], some
      ⟨n / 262144 % 0x08 + 0xf0 - 0xF0, 3,
        if n / 262144 % 0x08 + 0xf0 = 0xF0 then 0x90 else 0x80,
        if n / 262144 % 0x08 + 0xf0 = 0xF4 then 0x8F else 0xBF⟩) := by
    rw [first, if_neg (by omega), if_neg (by omega), if_neg (by omega), if_pos (by omega)]
  have hpoint : (((n / 262144 % 0x08 + 0xf0 - 0xF0) * 64 + (n / 4096 % 0x40 + 0x80 - 0x80)) * 64
      + (n / 64 % 0x40 + 0x80 - 0x80)) * 64 + (n % 0x40 + 0x80 - 0x80) = n := by omega
  rw [decodeFrom_first (by omega), hfirst, List.nil_append,
    -- the second byte's range leaves out the long encodings (0xF0) and what is past 0x10FFFF (0xF4)
    decodeFrom_more (by simp only; omega) (by omega) (by simp only; split <;> split <;> omega),
    decodeFrom_more (by simp only; omega) (by omega) (by simp only; omega),
    decodeFrom_last rfl (by omega) (by simp only; omega)]
  simp only [hpoint]

/-- **An encoded character is read back**, whatever follows it. -/
theorem decodeFrom_encodeChar (c : Char) (bs : List UInt8) :
    decodeFrom none (String.utf8EncodeChar c ++ bs) = c :: decodeFrom none bs := by
  have hvalid := val_bounds c
  have hback : Char.ofNat c.val.toNat = c := Char.ofNat_toNat c
  unfold String.utf8EncodeChar
  simp only
  generalize c.val.toNat = n at hvalid hback ⊢
  rw [← hback]
  by_cases h1 : n ≤ 0x7f
  · rw [if_pos h1]
    exact decodeFrom_oneByte (by omega)
  rw [if_neg h1]
  by_cases h2 : n ≤ 0x7ff
  · rw [if_pos h2]
    exact decodeFrom_twoBytes (by omega) (by omega)
  rw [if_neg h2]
  by_cases h3 : n ≤ 0xffff
  · rw [if_pos h3]
    exact decodeFrom_threeBytes (by omega) (by omega) (by omega)
  rw [if_neg h3]
  exact decodeFrom_fourBytes (by omega) (by omega)

/-- **An encoded text is read back**, whatever follows it. -/
theorem decode_encode_append (text : List Char) (bs : List UInt8) :
    decode (encode text ++ bs) = text ++ decode bs := by
  induction text with
  | nil => rfl
  | cons c text ih =>
      have hcons : encode (c :: text) = String.utf8EncodeChar c ++ encode text := List.flatMap_cons
      rw [hcons, List.append_assoc, decode, decodeFrom_encodeChar, List.cons_append]
      exact congrArg (c :: ·) ih

theorem decode_encode (text : List Char) : decode (encode text) = text := by
  have h := decode_encode_append text []
  rw [List.append_nil] at h
  rw [h]
  exact List.append_nil text

end Utf8
