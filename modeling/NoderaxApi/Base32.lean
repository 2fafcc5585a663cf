/-
# Base32 secrets

`encodeBase32` and `decodeBase32` of `common/utils/totp.util.ts`, with the accumulator in the 32-bit
integers of the language.  It is never masked: what overflows at the top has been written already.
-/
import Mathlib.Data.List.DropRight
import Mathlib.Data.List.GetD
import NoderaxApi.BitRuns
import NoderaxApi.Common
import NoderaxApi.Words

namespace TotpUtil

open BitRuns

/-- `BASE32_ALPHABET`. -/
def base32Alphabet : List Char := "ABCDEFGHIJKLMNOPQRSTUVWXYZ234567".toList

/-- A byte of a `Buffer`. -/
abbrev Byte := BitVec 8

/-! ## Encoding -/

/-- The variables of the loop of `encodeBase32`. -/
structure EncodeLoop where
  bits : ℕ := 0
  value : BitVec 32 := 0
  output : List Char := []
  deriving DecidableEq, Repr

/-- `BASE32_ALPHABET[index]`. -/
def base32Char (index : BitVec 32) : Char := base32Alphabet.getD index.toNat 'A'

/-- The inner loop, which writes a letter for every five bits. -/
def emit (value : BitVec 32) : ℕ → List Char → EncodeLoop
  | bits + 5, output => emit value bits (output ++ [base32Char ((value >>> bits) &&& 31)])
  | bits, output => ⟨bits, value, output⟩

/-- The body of the loop. -/
def EncodeLoop.read (s : EncodeLoop) (byte : Byte) : EncodeLoop :=
  emit ((s.value <<< 8) ||| byte.setWidth 32) (s.bits + 8) s.output

/-- What is written after the loop. -/
def EncodeLoop.finish (s : EncodeLoop) : List Char :=
  if 0 < s.bits then s.output ++ [base32Char ((s.value <<< (5 - s.bits)) &&& 31)] else s.output

/-- `encodeBase32`. -/
def encodeBase32 (buffer : List Byte) : String :=
  String.ofList (buffer.foldl EncodeLoop.read {}).finish

example : encodeBase32 [104, 101, 108, 108, 111, 33] = "NBSWY3DPEE" := by decide +kernel

/-! ## Decoding -/

/-- The variables of the loop of `decodeBase32`. -/
structure Base32Loop where
  bits : ℕ := 0
  value : BitVec 32 := 0
  bytes : List ℕ := []
  deriving DecidableEq, Repr

/-- The body of the loop. -/
def Base32Loop.read (s : Base32Loop) (character : Char) : Base32Loop :=
  match base32Alphabet.idxOf? character with
  | none => s
  | some index =>
      let value := (s.value <<< 5) ||| BitVec.ofNat 32 index
      let bits := s.bits + 5
      if 8 ≤ bits then
        ⟨bits - 8, value, s.bytes ++ [((value >>> (bits - 8)) &&& 0xff).toNat]⟩
      else ⟨bits, value, s.bytes⟩

/-- `toUpperCase`, of which only the letters from `A` to `Z` matter below: those of ASCII, and the
characters whose upper-case forms have such letters.  Other alphabets are left alone. -/
def toUpperCase (c : Char) : List Char :=
  match c with
  | 'ß' => ['S', 'S']
  | 'ı' => ['I']
  | 'ŉ' => ['ʼ', 'N']
  | 'ſ' => ['S']
  | 'ǰ' => ['J', '\u030c']
  | 'ẖ' => ['H', '\u0331']
  | 'ẗ' => ['T', '\u0308']
  | 'ẘ' => ['W', '\u030a']
  | 'ẙ' => ['Y', '\u030a']
  | 'ẚ' => ['A', 'ʾ']
  | 'ﬀ' => ['F', 'F']
  | 'ﬁ' => ['F', 'I']
  | 'ﬂ' => ['F', 'L']
  | 'ﬃ' => ['F', 'F', 'I']
  | 'ﬄ' => ['F', 'F', 'L']
  | 'ﬅ' => ['S', 'T']
  | 'ﬆ' => ['S', 'T']
  | c => [c.toUpper]

/-- `[A-Z2-7]`. -/
def isBase32Char (c : Char) : Bool := ('A' ≤ c && c ≤ 'Z') || ('2' ≤ c && c ≤ '7')

/-- `normalized` of `decodeBase32`. -/
def normalizeSecret (input : String) : List Char :=
  (((jsTrim input).toList.flatMap toUpperCase).rdropWhile (· = '=')).filter isBase32Char

/-- `decodeBase32`. -/
def decodeBase32 (input : String) : List Byte :=
  ((normalizeSecret input).foldl Base32Loop.read {}).bytes.map (BitVec.ofNat 8)

example : decodeBase32 " nbsw-y3dp ee======" = [104, 101, 108, 108, 111, 33] := by decide +kernel

/-! ## Letters and bits -/

/-- The eight bits of a byte. -/
def byteBits (byte : Byte) : List Bool := lowBits byte 8

/-- The five bits of a letter. -/
def letterBits (c : Char) : List Bool := lowBits (BitVec.ofNat 32 (base32Alphabet.idxOf c)) 5

theorem length_byteBits (byte : Byte) : (byteBits byte).length = 8 := length_lowBits byte 8

theorem byteBits_injective : Function.Injective byteBits := lowBits_injective

/-- A mask of the lowest `n` bits. -/
theorem getLsbD_mask : (∀ i < 5, (31 : BitVec 32).getLsbD i = true) ∧
    ∀ i < 8, (0xff : BitVec 32).getLsbD i = true := by
  decide

theorem getLsbD_eq_false {v : BitVec 32} {m : ℕ} (h : v.toNat < 2 ^ m) (i : ℕ) (hi : m ≤ i) :
    v.getLsbD i = false := by
  rw [BitVec.getLsbD, Nat.testBit_lt_two_pow (h.trans_le (Nat.pow_le_pow_right Nat.two_pos hi))]

theorem idxOf_base32Alphabet :
    ∀ i < 32, base32Alphabet.idxOf (base32Alphabet.getD i 'A') = i := by
  decide +kernel

theorem toNat_and_31_lt (v : BitVec 32) : (v &&& 31).toNat < 32 := by
  rw [BitVec.toNat_and]
  exact Nat.lt_succ_of_le Nat.and_le_right

theorem base32Char_mem (v : BitVec 32) : base32Char (v &&& 31) ∈ base32Alphabet := by
  have hlength : (v &&& 31).toNat < base32Alphabet.length := toNat_and_31_lt v
  rw [base32Char, List.getD_eq_getElem _ _ hlength]
  exact List.getElem_mem hlength

/-- The letter that is written has the five bits. -/
theorem letterBits_base32Char (v : BitVec 32) :
    letterBits (base32Char (v &&& 31)) = lowBits (v &&& 31) 5 := by
  rw [letterBits, base32Char, idxOf_base32Alphabet _ (toNat_and_31_lt v), BitVec.ofNat_toNat,
    BitVec.setWidth_eq]

/-! ## The letters are the bits of the bytes -/

/-- After some bytes, the letters and the waiting bits are the bits of these bytes. -/
structure EncodeLoop.Holds (s : EncodeLoop) (input : List Bool) : Prop where
  bits_lt : s.bits < 5
  letters : ∀ c ∈ s.output, c ∈ base32Alphabet
  bits_eq : s.output.flatMap letterBits ++ lowBits s.value s.bits = input

theorem emit_holds (value : BitVec 32) (bits : ℕ) (output : List Char)
    (hletters : ∀ c ∈ output, c ∈ base32Alphabet) :
    (emit value bits output).Holds (output.flatMap letterBits ++ lowBits value bits) := by
  fun_induction emit value bits output with
  | case1 bits output ih =>
      have hnext : ∀ c ∈ output ++ [base32Char ((value >>> bits) &&& 31)], c ∈ base32Alphabet := by
        intro c hc
        rcases List.mem_append.mp hc with hc | hc
        · exact hletters c hc
        · rw [List.mem_singleton.mp hc]
          exact base32Char_mem _
      have hstep := ih hnext
      rw [List.flatMap_append, List.flatMap_singleton, letterBits_base32Char, List.append_assoc,
        ← lowBits_take value getLsbD_mask.1, Nat.add_comm 5] at hstep
      exact hstep
  | case2 bits output hbits =>
      refine ⟨?_, hletters, rfl⟩
      by_contra hge
      exact hbits (bits - 5) (Nat.sub_add_cancel (Nat.not_lt.mp hge)).symm

theorem lowBits_setWidth (byte : Byte) : lowBits (byte.setWidth 32) 8 = byteBits byte :=
  lowBits_congr fun i hi => by
    have hlt : i < 32 := by omega
    rw [BitVec.getLsbD_setWidth, decide_eq_true hlt, Bool.true_and]

theorem EncodeLoop.Holds.read {s : EncodeLoop} {input : List Bool} (h : s.Holds input)
    (byte : Byte) : (s.read byte).Holds (input ++ byteBits byte) := by
  have hgroup : ∀ i, 8 ≤ i → (byte.setWidth 32).getLsbD i = false := by
    refine getLsbD_eq_false ?_
    rw [BitVec.toNat_setWidth_of_le (by omega)]
    exact byte.isLt
  have hroom : s.bits + 8 ≤ 32 := by
    have := h.bits_lt
    omega
  have hread := emit_holds ((s.value <<< 8) ||| byte.setWidth 32) (s.bits + 8) s.output h.letters
  rwa [lowBits_push s.value _ hroom hgroup, lowBits_setWidth, ← List.append_assoc, h.bits_eq]
    at hread

theorem EncodeLoop.Holds.readAll {s : EncodeLoop} {input : List Bool} (h : s.Holds input)
    (buffer : List Byte) :
    (buffer.foldl EncodeLoop.read s).Holds (input ++ buffer.flatMap byteBits) := by
  induction buffer generalizing s input with
  | nil =>
      rw [List.flatMap_nil, List.append_nil]
      exact h
  | cons byte buffer ih =>
      rw [List.foldl_cons, List.flatMap_cons, ← List.append_assoc]
      exact ih (h.read byte)

/-- The letters of a secret, and the zeros that fill up the last one. -/
theorem encodeBase32_bits (buffer : List Byte) :
    (∀ c ∈ (encodeBase32 buffer).toList, c ∈ base32Alphabet) ∧
    ∃ filling : List Bool, filling.length < 5 ∧
      (encodeBase32 buffer).toList.flatMap letterBits = buffer.flatMap byteBits ++ filling := by
  have hstart : EncodeLoop.Holds {} [] := ⟨by decide, fun _ h => absurd h List.not_mem_nil, rfl⟩
  have h := hstart.readAll buffer
  rw [List.nil_append] at h
  generalize hs : buffer.foldl EncodeLoop.read {} = s at h
  rw [encodeBase32, String.toList_ofList, hs, EncodeLoop.finish]
  split
  next hpos =>
    have hlast : letterBits (base32Char ((s.value <<< (5 - s.bits)) &&& 31)) =
        lowBits s.value s.bits ++ List.replicate (5 - s.bits) false := by
      have hroom : s.bits + (5 - s.bits) = 5 := by
        have := h.bits_lt
        omega
      rw [letterBits_base32Char, lowBits_and_mask _ getLsbD_mask.1,
        ← lowBits_shiftLeft s.value (by omega), hroom]
    refine ⟨?_, List.replicate (5 - s.bits) false, ?_, ?_⟩
    · intro c hc
      rcases List.mem_append.mp hc with hc | hc
      · exact h.letters c hc
      · rw [List.mem_singleton.mp hc]
        exact base32Char_mem _
    · rw [List.length_replicate]
      omega
    · rw [List.flatMap_append, List.flatMap_singleton, hlast, ← List.append_assoc, h.bits_eq]
  next hpos =>
    refine ⟨h.letters, [], by decide, ?_⟩
    have hbits := h.bits_eq
    rw [Nat.eq_zero_of_not_pos hpos, lowBits, List.append_nil] at hbits
    rw [hbits, List.append_nil]

/-! ## The bytes are the bits of the letters -/

/-- After some letters, the bytes and the waiting bits are the bits of these letters. -/
structure DecodeHolds (s : Base32Loop) (input : List Bool) : Prop where
  bits_lt : s.bits < 8
  bits_eq : (s.bytes.map (BitVec.ofNat 8)).flatMap byteBits ++ lowBits s.value s.bits = input

/-- The byte that is pushed has the eight bits. -/
theorem byteBits_ofNat (v : BitVec 32) :
    byteBits (BitVec.ofNat 8 (v &&& 0xff).toNat) = lowBits (v &&& 0xff) 8 := by
  rw [BitVec.ofNat_toNat]
  exact lowBits_congr fun i hi => by
    rw [BitVec.getLsbD_setWidth, decide_eq_true hi, Bool.true_and]

theorem idxOf?_of_mem {c : Char} (hc : c ∈ base32Alphabet) :
    base32Alphabet.idxOf? c = some (base32Alphabet.idxOf c) := by
  have hall : (base32Alphabet.all fun d =>
      base32Alphabet.idxOf? d = some (base32Alphabet.idxOf d)) = true := by
    decide +kernel
  exact of_decide_eq_true (List.all_eq_true.mp hall c hc)

theorem DecodeHolds.read {s : Base32Loop} {input : List Bool} (h : DecodeHolds s input) {c : Char}
    (hc : c ∈ base32Alphabet) : DecodeHolds (s.read c) (input ++ letterBits c) := by
  have hindex : base32Alphabet.idxOf c < 32 := List.idxOf_lt_length_of_mem hc
  have hgroup : ∀ i, 5 ≤ i → (BitVec.ofNat 32 (base32Alphabet.idxOf c)).getLsbD i = false := by
    refine getLsbD_eq_false ?_
    rw [BitVec.toNat_ofNat]
    exact (Nat.mod_le _ _).trans_lt hindex
  have hlt := h.bits_lt
  have hpush := lowBits_push s.value _ (n := s.bits) (by omega) hgroup
  rw [Base32Loop.read, idxOf?_of_mem hc]
  simp only
  split
  next hge =>
    have hbits : s.bits + 5 - 8 < 8 := by omega
    refine ⟨hbits, ?_⟩
    have hsplit : s.bits + 5 = 8 + (s.bits + 5 - 8) := by omega
    rw [List.map_append, List.flatMap_append, List.map_singleton, List.flatMap_singleton,
      byteBits_ofNat, List.append_assoc, ← lowBits_take _ getLsbD_mask.2, ← hsplit, hpush,
      ← List.append_assoc, h.bits_eq]
    rfl
  next hge =>
    refine ⟨Nat.not_le.mp hge, ?_⟩
    rw [hpush, ← List.append_assoc, h.bits_eq]
    rfl

theorem DecodeHolds.readAll {s : Base32Loop} {input : List Bool} (h : DecodeHolds s input)
    {letters : List Char} (hletters : ∀ c ∈ letters, c ∈ base32Alphabet) :
    DecodeHolds (letters.foldl Base32Loop.read s) (input ++ letters.flatMap letterBits) := by
  induction letters generalizing s input with
  | nil =>
      rw [List.flatMap_nil, List.append_nil]
      exact h
  | cons c letters ih =>
      rw [List.foldl_cons, List.flatMap_cons, ← List.append_assoc]
      exact ih (h.read (hletters c List.mem_cons_self)) fun d hd =>
        hletters d (List.mem_cons_of_mem _ hd)

/-! ## The round trip -/

/-- What a letter of the alphabet is to `normalizeSecret`. -/
theorem base32Alphabet_kept {c : Char} (hc : c ∈ base32Alphabet) :
    isJsWhitespace c = false ∧ toUpperCase c = [c] ∧ isBase32Char c = true := by
  have hall : (base32Alphabet.all fun d =>
      isJsWhitespace d = false ∧ toUpperCase d = [d] ∧ isBase32Char d = true) = true := by
    decide +kernel
  exact of_decide_eq_true (List.all_eq_true.mp hall c hc)

/-- What may stand anywhere in a secret that is shown in groups. -/
def isSeparator (c : Char) : Bool := isJsWhitespace c || c = '-'

theorem range_of_isSeparator {c : Char} (h : isSeparator c = true) :
    c.val.toNat < 48 ∨ 122 < c.val.toNat := by
  rcases Bool.or_eq_true_iff.mp h with h | h
  · have := range_of_isJsWhitespace h
    omega
  · rw [of_decide_eq_true h]
    decide

/-- A separator has no letter of the alphabet in its upper-case form. -/
theorem filter_toUpperCase_separator {c : Char} (h : isSeparator c = true) :
    (toUpperCase c).filter isBase32Char = [] := by
  have hrange := range_of_isSeparator h
  have hsame : c.toUpper = c := by
    refine dif_neg fun hletter => ?_
    have hlower := UInt32.le_iff_toNat_le.mp hletter.1
    have hupper := UInt32.le_iff_toNat_le.mp hletter.2
    rw [show 'a'.val.toNat = 97 from rfl] at hlower
    rw [show 'z'.val.toNat = 122 from rfl] at hupper
    omega
  have hnot : isBase32Char c = false := by
    rw [Bool.eq_false_iff]
    intro hletter
    rw [isBase32Char, Bool.or_eq_true_iff, Bool.and_eq_true_iff, Bool.and_eq_true_iff] at hletter
    simp only [decide_eq_true_eq, Char.le_def, UInt32.le_iff_toNat_le] at hletter
    have hbounds : 'A'.val.toNat = 65 ∧ 'Z'.val.toNat = 90 ∧ '2'.val.toNat = 50 ∧
        '7'.val.toNat = 55 := by
      decide
    omega
  unfold toUpperCase
  split
  case h_18 => rw [hsame, List.filter_singleton, hnot]; rfl
  all_goals exact absurd h (by decide)

theorem filter_rdropWhile {p q : Char → Bool} (h : ∀ c, p c = true → q c = false)
    (l : List Char) : (l.rdropWhile p).filter q = l.filter q := by
  have hdropped : (l.rtakeWhile p).filter q = [] := by
    rw [List.filter_eq_nil_iff]
    intro c hc
    rw [h c (List.mem_rtakeWhile_imp hc)]
    exact Bool.false_ne_true
  conv => rhs; rw [← List.rdropWhile_append_rtakeWhile (l := l) (p := p)]
  rw [List.filter_append, hdropped, List.append_nil]

/-- What is trimmed, and the padding, would go with the other characters that are no letters of
the alphabet. -/
theorem normalizeSecret_eq (input : String) :
    normalizeSecret input = (input.toList.flatMap toUpperCase).filter isBase32Char := by
  have hblank : ∀ l : List Char, (∀ c ∈ l, isJsWhitespace c = true) →
      (l.flatMap toUpperCase).filter isBase32Char = [] := by
    intro l hl
    rw [List.filter_flatMap, List.flatMap_eq_nil_iff]
    intro c hc
    exact filter_toUpperCase_separator (by rw [isSeparator, hl c hc, Bool.true_or])
  obtain ⟨before, after, hinput, hbefore, hafter⟩ :=
    Words.eq_append_trim isJsWhitespace input.toList
  have hpadding : ∀ c : Char, decide (c = '=') = true → isBase32Char c = false := by
    intro c hc
    rw [of_decide_eq_true hc]
    decide
  rw [normalizeSecret, filter_rdropWhile hpadding, toList_jsTrim]
  conv => rhs; rw [hinput]
  rw [List.flatMap_append, List.flatMap_append, List.filter_append, List.filter_append,
    hblank before hbefore, hblank after hafter, List.nil_append, List.append_nil]

/-- A text of letters of the alphabet is decoded as it stands. -/
theorem normalizeSecret_letters {input : String} (h : ∀ c ∈ input.toList, c ∈ base32Alphabet) :
    normalizeSecret input = input.toList := by
  have hupper : input.toList.flatMap toUpperCase = input.toList := by
    rw [List.flatMap_congr fun c hc => (base32Alphabet_kept (h c hc)).2.1, List.flatMap_singleton']
  rw [normalizeSecret_eq, hupper, List.filter_eq_self]
  exact fun c hc => (base32Alphabet_kept (h c hc)).2.2

/-- **Decoding gives back the bytes.** -/
theorem decode_encode (buffer : List Byte) : decodeBase32 (encodeBase32 buffer) = buffer := by
  obtain ⟨hletters, filling, hfilling, hbits⟩ := encodeBase32_bits buffer
  have hstart : DecodeHolds {} [] := ⟨by decide, rfl⟩
  have h := hstart.readAll hletters
  rw [decodeBase32, normalizeSecret_letters hletters]
  have heq := h.bits_eq
  rw [List.nil_append, hbits] at heq
  exact groups_eq_of_append_eq byteBits_injective length_byteBits
    (by rw [length_lowBits]; exact h.bits_lt) (by omega) heq

/-! ## The same secret in other spellings -/

/-- The encoded text with its letters in either case, separators anywhere and padding at the
end. -/
def Respells (encoded text : String) : Prop :=
  ∃ padding : ℕ, (text.toList.filter fun c => !isSeparator c).map Char.toUpper =
    encoded.toList ++ List.replicate padding '='

/-- No character beyond ASCII has a letter of the alphabet, or the padding, for its simple
upper-case form. -/
theorem toUpperCase_of_simple {c : Char} (h : c.toUpper ∈ base32Alphabet ∨ c.toUpper = '=') :
    toUpperCase c = [c.toUpper] := by
  unfold toUpperCase
  split
  case h_18 => rfl
  all_goals exact absurd h (by decide)

theorem normalizeSecret_respells {encoded text : String}
    (hletters : ∀ c ∈ encoded.toList, c ∈ base32Alphabet) (h : Respells encoded text) :
    normalizeSecret text = encoded.toList := by
  obtain ⟨padding, htext⟩ := h
  have hkept : (text.toList.flatMap toUpperCase).filter isBase32Char =
      ((text.toList.filter fun c => !isSeparator c).flatMap toUpperCase).filter isBase32Char := by
    induction text.toList with
    | nil => rfl
    | cons c l ih =>
        rw [List.flatMap_cons, List.filter_append, ih]
        cases hc : isSeparator c with
        | true =>
            rw [filter_toUpperCase_separator hc, List.nil_append,
              List.filter_cons_of_neg (by rw [hc]; decide)]
        | false =>
            rw [List.filter_cons_of_pos (by rw [hc]; decide), List.flatMap_cons,
              List.filter_append]
  have hsimple : ∀ c ∈ text.toList.filter fun c => !isSeparator c,
      toUpperCase c = [c.toUpper] := by
    intro c hc
    refine toUpperCase_of_simple ?_
    have hmem := List.mem_map_of_mem (f := Char.toUpper) hc
    rw [htext] at hmem
    rcases List.mem_append.mp hmem with hletter | hpadding
    · exact .inl (hletters _ hletter)
    · exact .inr (List.eq_of_mem_replicate hpadding)
  have hpadding : (List.replicate padding '=').filter isBase32Char = [] := by
    rw [List.filter_eq_nil_iff]
    intro c hc
    rw [List.eq_of_mem_replicate hc]
    decide
  rw [normalizeSecret_eq, hkept, List.flatMap_congr hsimple, ← List.map_eq_flatMap, htext,
    List.filter_append, hpadding, List.append_nil, List.filter_eq_self]
  exact fun c hc => (base32Alphabet_kept (hletters c hc)).2.2

/-- **Base32 secrets round-trip**, however they are written down. -/
theorem decodeBase32_encodeBase32 (buffer : List Byte) :
    decodeBase32 (encodeBase32 buffer) = buffer ∧
      ∀ text, Respells (encodeBase32 buffer) text → decodeBase32 text = buffer := by
  refine ⟨decode_encode buffer, fun text h => ?_⟩
  have hletters := (encodeBase32_bits buffer).1
  have hsame : normalizeSecret text = normalizeSecret (encodeBase32 buffer) := by
    rw [normalizeSecret_respells hletters h, normalizeSecret_letters hletters]
  have hdecode := decode_encode buffer
  rwa [decodeBase32, ← hsame] at hdecode

theorem decodeBase32_shown : decodeBase32 "nbsw-y3dp\tEe == " = [104, 101, 108, 108, 111, 33] :=
  (decodeBase32_encodeBase32 [104, 101, 108, 108, 111, 33]).2 _ ⟨2, by decide +kernel⟩

end TotpUtil
