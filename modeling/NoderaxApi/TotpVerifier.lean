/-
# The verifier of one-time codes

`hotp` and `verifyTotpToken` of `common/utils/totp.util.ts` with the operators of the source, on the
32-bit integers and the doubles of the language.  They compute the codes of the standard, for the
key that `encodeBase32` wrote as the secret.
-/
import Mathlib.Data.Rat.Floor
import NoderaxApi.Base32
import NoderaxApi.Doubles
import NoderaxApi.HotpCodes

namespace TotpUtil

open Doubles

/-- `STEP_SECONDS`. -/
def stepSeconds : ℤ := 30

/-- `DEFAULT_DIGITS`. -/
def defaultDigits : ℕ := 6

/-- `DEFAULT_WINDOW`. -/
def defaultWindow : ℕ := 1

/-- HMAC-SHA1, of a key and a message. -/
abbrev HmacSha1 := List Byte → List Byte → Vector Byte 20

/-! ## Codes -/

/-- `Buffer.writeUInt32BE`, which throws for a number that is out of range. -/
def writeUInt32BE (value : ℤ) : Option (List Byte) :=
  if 0 ≤ value ∧ value ≤ 0xffffffff then
    let word := BitVec.ofInt 32 value
    some [(word >>> 24).setWidth 8, (word >>> 16).setWidth 8, (word >>> 8).setWidth 8,
      word.setWidth 8]
  else none

/-- A number as an unsigned 32-bit integer: `value >>> 0`. -/
def toUint32 (value : ℤ) : ℤ := ((BitVec.ofInt 32 value).toNat : ℤ)

/-- `digest[i]`, as an operand of the 32-bit operators. -/
def digestWord (digest : Vector Byte 20) (i : ℕ) : BitVec 32 :=
  (digest.toList.getD i 0).setWidth 32

/-- The four bytes of the digest that `hotp` joins. -/
def truncatedWord (digest : Vector Byte 20) : BitVec 32 :=
  let offset := (digestWord digest (digest.toList.length - 1) &&& 0xf).toNat
  ((digestWord digest offset &&& 0x7f) <<< 24) |||
    ((digestWord digest (offset + 1) &&& 0xff) <<< 16) |||
    ((digestWord digest (offset + 2) &&& 0xff) <<< 8) |||
    (digestWord digest (offset + 3) &&& 0xff)

/-- `padStart(n, '0')`. -/
def padStart (n : ℕ) (text : String) : String :=
  String.ofList (List.replicate (n - text.length) '0') ++ text

/-- `hotp`; there is no result when `writeUInt32BE` throws. -/
def hotp (hmac : HmacSha1) (secret : String) (counter : ℤ) (digits : ℕ := defaultDigits) :
    Option String := do
  let key := decodeBase32 secret
  let high ← writeUInt32BE (counter / 0x100000000)
  let low ← writeUInt32BE (toUint32 counter)
  let digest := hmac key (high ++ low)
  let code := (truncatedWord digest).toInt.tmod (10 ^ digits)
  some (padStart digits (toString code))

/-! ## The verifier -/

/-- `normalizeToken`. -/
def normalizeToken (token : String) : String :=
  jsTrim (String.ofList (token.toList.filter fun c => !isJsWhitespace c))

/-- `/^\d{6}$/`. -/
def isSixDigits (token : String) : Bool :=
  token.length = defaultDigits && token.toList.all Char.isDigit

/-- The values of the loop variable of `verifyTotpToken`: from `-window` to `window`. -/
def drifts (window : ℕ) : List ℤ :=
  (List.range (2 * window + 1)).map fun (i : ℕ) => (i : ℤ) - window

/-- The loop of `verifyTotpToken`, for the values of `drift` that are left. -/
def tryDrifts (token : String) (hotpAt : ℤ → Option String) : List ℤ → Option Bool
  | [] => some false
  | drift :: rest => do
      let code ← hotpAt drift
      if code = token then some true else tryDrifts token hotpAt rest

/-- `Math.floor(time / 1000 / STEP_SECONDS)`. -/
def counterAt (time : ℚ) : ℤ := ⌊toDouble (toDouble (time / 1000) / stepSeconds)⌋

/-- `counter + drift`. -/
def addDrift (counter drift : ℤ) : ℤ := ⌊toDouble (counter + drift)⌋

/-- `verifyTotpToken`, at a time in milliseconds. -/
def verifyTotpToken (hmac : HmacSha1) (secret token : String) (time : ℚ)
    (window : ℕ := defaultWindow) : Option Bool :=
  let token := normalizeToken token
  if isSixDigits token then
    let counter := counterAt time
    tryDrifts token (fun drift => hotp hmac secret (addDrift counter drift)) (drifts window)
  else some false

/-! ## The counter in doubles -/

/-- The largest time of a `Date`. -/
def maxTimeValue : ℕ := 8640000000000000

/-- **The two roundings of the quotient do not change the counter**, at any time of a `Date`. -/
theorem counterAt_natCast {time : ℕ} (htime : time ≤ maxTimeValue) :
    counterAt time = ((time / 30000 : ℕ) : ℤ) := by
  have hseconds := isRounded_toDouble ((time : ℚ) / 1000)
  have hcounter := isRounded_toDouble (toDouble ((time : ℚ) / 1000) / stepSeconds)
  have hthirty : ((stepSeconds : ℤ) : ℚ) = 30 := rfl
  rw [counterAt]
  rw [hthirty] at hcounter ⊢
  generalize toDouble ((time : ℚ) / 1000) = seconds at hseconds hcounter ⊢
  generalize toDouble (seconds / 30) = counter at hcounter ⊢
  rw [maxTimeValue] at htime
  obtain ⟨steps, hsteps⟩ : ∃ steps : ℕ, time / 30000 = steps := ⟨_, rfl⟩
  have hlow : (30000 : ℚ) * steps ≤ time := by
    exact_mod_cast (show 30000 * steps ≤ time by omega)
  have hhigh : (time : ℚ) + 1 ≤ 30000 * (steps + 1) := by
    exact_mod_cast (show time + 1 ≤ 30000 * (steps + 1) by omega)
  -- the seconds stay between the ends of the step, and a thousandth below the next
  have hstart : ((30 * steps : ℕ) : ℚ) ≤ seconds :=
    hseconds.le_of_le (isDouble_natCast (by omega)) (by push_cast; linarith)
  have hend : seconds ≤ ((30 * (steps + 1) : ℕ) : ℚ) - 1 / 2 ^ 10 :=
    hseconds.ge_of_ge (isDouble_sub (by omega)) (by push_cast; linarith)
  push_cast at hstart hend
  have hfirst : (steps : ℚ) ≤ counter :=
    hcounter.le_of_le (isDouble_natCast (by omega)) (by linarith)
  have hnext : counter < ((steps + 1 : ℕ) : ℚ) :=
    hcounter.lt_of_lt (isDouble_sub (n := steps + 1) (j := 14) (by omega)) (by linarith)
      (by push_cast; linarith)
  push_cast at hnext
  rw [hsteps, Int.floor_eq_iff, Int.cast_natCast]
  exact ⟨hfirst, hnext⟩

/-- The sum with a step of the window is exact up to the largest counter. -/
theorem addDrift_eq {counter drift : ℤ} {sum : ℕ} (hsum : counter + drift = sum)
    (hmax : sum ≤ 2 ^ 53) : addDrift counter drift = sum := by
  have hcast : (counter : ℚ) + drift = (sum : ℕ) := by exact_mod_cast hsum
  rw [addDrift, hcast, toDouble_of_isDouble (isDouble_natCast hmax), Int.floor_natCast]

/-! ## The message -/

theorem setWidth_shiftRight {value : ℕ} (h : value < 2 ^ 32) (n : ℕ) :
    ((BitVec.ofInt 32 value) >>> n).setWidth 8 = BitVec.ofNat 8 (value / 2 ^ n) := by
  apply BitVec.eq_of_toNat_eq
  rw [BitVec.ofInt_natCast, BitVec.toNat_setWidth, BitVec.toNat_ushiftRight, BitVec.toNat_ofNat,
    Nat.mod_eq_of_lt h, BitVec.toNat_ofNat, Nat.shiftRight_eq_div_pow]

theorem writeUInt32BE_natCast {value : ℕ} (h : value < 2 ^ 32) :
    writeUInt32BE value = some (Hotp.toBytes 4 value) := by
  have hrange : (0 : ℤ) ≤ value ∧ (value : ℤ) ≤ 0xffffffff := by omega
  have hlast : (BitVec.ofInt 32 value).setWidth 8 = BitVec.ofNat 8 value := by
    have := setWidth_shiftRight h 0
    rwa [BitVec.ushiftRight_zero, Nat.pow_zero, Nat.div_one] at this
  have hbytes : Hotp.toBytes 4 value = [BitVec.ofNat 8 (value / 2 ^ 24),
      BitVec.ofNat 8 (value / 2 ^ 16), BitVec.ofNat 8 (value / 2 ^ 8), BitVec.ofNat 8 value] := by
    simp only [Hotp.toBytes, Nat.div_div_eq_div_mul]
    rfl
  rw [writeUInt32BE, if_pos hrange, hbytes]
  simp only [setWidth_shiftRight h, hlast]

/-- **The two words are the eight bytes of the counter.** -/
theorem write_counter {counter : ℕ} (h : counter < 2 ^ 64) :
    ∃ high low, writeUInt32BE ((counter : ℤ) / 0x100000000) = some high ∧
      writeUInt32BE (toUint32 counter) = some low ∧ high ++ low = Hotp.toBytes 8 counter := by
  have hhigh : ((counter : ℤ) / 0x100000000) = ((counter / 256 ^ 4 : ℕ) : ℤ) := by norm_num
  have hlow : toUint32 counter = ((counter % 256 ^ 4 : ℕ) : ℤ) := by
    rw [toUint32, BitVec.ofInt_natCast, BitVec.toNat_ofNat]
    norm_num
  refine ⟨_, _, ?_, ?_, (Hotp.toBytes_add 4 4 counter).symm⟩
  · rw [hhigh]
    exact writeUInt32BE_natCast (by omega)
  · have hlt : counter % 256 ^ 4 < 2 ^ 32 := Nat.mod_lt _ (by decide)
    rw [hlow, writeUInt32BE_natCast hlt, Hotp.toBytes_mod]

/-! ## Truncation -/

theorem digestWord_eq (digest : Vector Byte 20) {i : ℕ} (hi : i < 20) :
    digestWord digest i = (digest.get ⟨i, hi⟩).setWidth 32 := by
  rw [digestWord, List.getD_eq_getElem _ _ (by rwa [Vector.length_toList])]
  rfl

/-- What the masks leave of a byte. -/
theorem toNat_and_mask (byte : Byte) : (byte.setWidth 32 &&& 0xf).toNat = byte.toNat % 16 ∧
    (byte.setWidth 32 &&& 0x7f).toNat = byte.toNat % 128 ∧
      (byte.setWidth 32 &&& 0xff).toNat = byte.toNat := by
  have hbyte : (byte.setWidth 32).toNat = byte.toNat := BitVec.toNat_setWidth_of_le (by decide)
  have hmask : (0xf : BitVec 32).toNat = 2 ^ 4 - 1 ∧ (0x7f : BitVec 32).toNat = 2 ^ 7 - 1 ∧
      (0xff : BitVec 32).toNat = 2 ^ 8 - 1 := by decide
  simp only [BitVec.toNat_and, hbyte, hmask.1, hmask.2.1, hmask.2.2, Nat.and_two_pow_sub_one_eq_mod]
  exact ⟨trivial, trivial, Nat.mod_eq_of_lt byte.isLt⟩

/-- A part above another, with no bit in common. -/
theorem toNat_shiftLeft_or (high low : BitVec 32) {n k : ℕ} (hlow : low.toNat < 2 ^ n)
    (hhigh : high.toNat < 2 ^ k) (hroom : k + n ≤ 32) :
    (high <<< n ||| low).toNat = 2 ^ n * high.toNat + low.toNat := by
  have hlt : high.toNat <<< n < 2 ^ 32 := by
    rw [Nat.shiftLeft_eq]
    calc high.toNat * 2 ^ n < 2 ^ k * 2 ^ n :=
          Nat.mul_lt_mul_of_pos_right hhigh (Nat.two_pow_pos n)
      _ = 2 ^ (k + n) := (Nat.pow_add 2 k n).symm
      _ ≤ 2 ^ 32 := Nat.pow_le_pow_right Nat.two_pos hroom
  rw [BitVec.toNat_or, BitVec.toNat_shiftLeft, Nat.mod_eq_of_lt hlt,
    ← Nat.shiftLeft_add_eq_or_of_lt hlow, Nat.shiftLeft_eq, Nat.mul_comm]

/-- Four parts joined one after the other. -/
theorem joined_eq (a b c d : BitVec 32) :
    a <<< 24 ||| b <<< 16 ||| c <<< 8 ||| d = (((a <<< 8 ||| b) <<< 8 ||| c) <<< 8) ||| d := by
  simp only [BitVec.shiftLeft_or_distrib, ← BitVec.shiftLeft_add]

/-- **The four bytes joined by 32-bit operators are the number of 31 bits**, without a sign. -/
theorem toInt_joined (a b c d : Byte) :
    (((a.setWidth 32 &&& 0x7f) <<< 24) ||| ((b.setWidth 32 &&& 0xff) <<< 16) |||
      ((c.setWidth 32 &&& 0xff) <<< 8) ||| (d.setWidth 32 &&& 0xff)).toInt =
      ((Hotp.ofBytes [a, b, c, d] % 2 ^ 31 : ℕ) : ℤ) := by
  have ha := (toNat_and_mask a).2.1
  have hb := (toNat_and_mask b).2.2
  have hc := (toNat_and_mask c).2.2
  have hd := (toNat_and_mask d).2.2
  have hlt : a.toNat < 256 ∧ b.toNat < 256 ∧ c.toNat < 256 ∧ d.toNat < 256 :=
    ⟨a.isLt, b.isLt, c.isLt, d.isLt⟩
  generalize a.setWidth 32 &&& 0x7f = a' at ha ⊢
  generalize b.setWidth 32 &&& 0xff = b' at hb ⊢
  generalize c.setWidth 32 &&& 0xff = c' at hc ⊢
  generalize d.setWidth 32 &&& 0xff = d' at hd ⊢
  have h₁ := toNat_shiftLeft_or (n := 8) (k := 7) a' b' (by omega) (by omega) (by decide)
  have h₂ := toNat_shiftLeft_or (n := 8) (k := 15) (a' <<< 8 ||| b') c' (by omega) (by omega)
    (by decide)
  have h₃ := toNat_shiftLeft_or (n := 8) (k := 23) ((a' <<< 8 ||| b') <<< 8 ||| c') d' (by omega)
    (by omega) (by decide)
  have hbytes : Hotp.ofBytes [a, b, c, d] =
      256 * (256 * (256 * (256 * 0 + a.toNat) + b.toNat) + c.toNat) + d.toNat := rfl
  rw [joined_eq, BitVec.toInt_eq_toNat_of_lt (by omega), hbytes]
  omega

/-- **Dynamic truncation in 32-bit integers is that of the standard.** -/
theorem toInt_truncatedWord (digest : Vector Byte 20) :
    (truncatedWord digest).toInt = Hotp.truncate digest := by
  have hoffset : (digestWord digest (digest.toList.length - 1) &&& 0xf).toNat =
      Hotp.offset digest := by
    rw [Vector.length_toList, digestWord_eq digest (by decide)]
    exact (toNat_and_mask _).1
  have hlt := Hotp.offset_lt digest
  rw [truncatedWord, hoffset, digestWord_eq digest (by omega),
    digestWord_eq digest (i := Hotp.offset digest + 1) (by omega),
    digestWord_eq digest (i := Hotp.offset digest + 2) (by omega),
    digestWord_eq digest (i := Hotp.offset digest + 3) (by omega), toInt_joined]
  rfl

theorem padStart_toString {n value : ℕ} (hpos : 0 < n) (h : value < 10 ^ n) :
    padStart n (toString (value : ℤ)) = String.ofList (Hotp.decimal n value) := by
  have htext : toString (value : ℤ) = toString value := rfl
  rw [padStart, htext, Nat.toString_eq_ofList_toDigits, Hotp.decimal_eq_replicate_append hpos h,
    String.length_ofList]
  rw [String.ofList_append]

/-- **The code of the source is that of the standard.** -/
theorem hotp_encodeBase32 (hmac : HmacSha1) (key : List Byte) {counter : ℕ}
    (h : counter < 2 ^ 64) :
    hotp hmac (encodeBase32 key) counter = some (Hotp.code hmac defaultDigits key counter) := by
  obtain ⟨high, low, hhigh, hlow, hmessage⟩ := write_counter h
  have hcode : (truncatedWord (hmac key (Hotp.toBytes 8 counter))).toInt.tmod
      (10 ^ defaultDigits) =
        ((Hotp.truncate (hmac key (Hotp.toBytes 8 counter)) % 10 ^ defaultDigits : ℕ) : ℤ) := by
    rw [toInt_truncatedWord]
    rfl
  rw [hotp, decode_encode, hhigh, hlow]
  simp only [Option.bind_eq_bind, Option.bind_some]
  rw [hmessage, hcode, padStart_toString (by decide) (Nat.mod_lt _ (by decide))]
  rfl

/-! ## The loop -/

/-- A loop without an exception finds a code among those of its steps. -/
theorem tryDrifts_eq (token : String) {hotpAt : ℤ → Option String} {code : ℤ → String}
    {drifts : List ℤ} (h : ∀ drift ∈ drifts, hotpAt drift = some (code drift)) :
    ∃ accepted, tryDrifts token hotpAt drifts = some accepted ∧
      (accepted = true ↔ ∃ drift ∈ drifts, token = code drift) := by
  induction drifts with
  | nil =>
      refine ⟨false, rfl, ?_⟩
      simp only [Bool.false_eq_true, List.not_mem_nil, false_and, exists_false]
  | cons drift rest ih =>
      obtain ⟨accepted, htry, hiff⟩ := ih fun d hd => h d (List.mem_cons_of_mem _ hd)
      rw [tryDrifts, h drift List.mem_cons_self, htry]
      by_cases hcode : code drift = token
      · exact ⟨true, if_pos hcode, iff_of_true rfl ⟨drift, List.mem_cons_self, hcode.symm⟩⟩
      · refine ⟨accepted, if_neg hcode, hiff.trans ?_⟩
        rw [List.exists_mem_cons_iff]
        exact (or_iff_right fun h => hcode h.symm).symm

/-- `normalizeToken` removes the white space; there is none left to trim. -/
theorem normalizeToken_eq (token : String) :
    normalizeToken token = String.ofList (token.toList.filter fun c => !isJsWhitespace c) := by
  have hnone : ∀ c ∈ token.toList.filter fun c => !isJsWhitespace c, isJsWhitespace c = false :=
    fun c hc => by simpa using (List.mem_filter.mp hc).2
  rw [normalizeToken, jsTrim, String.toList_ofList]
  exact congrArg String.ofList (Words.trim_of_not_sep hnone)

theorem isSixDigits_code (hmac : HmacSha1) (key : List Byte) (counter : ℕ) :
    isSixDigits (Hotp.code hmac defaultDigits key counter) = true := by
  rw [isSixDigits, Hotp.length_code, decide_eq_true rfl, Bool.true_and, List.all_eq_true, Hotp.code,
    String.toList_ofList]
  exact Hotp.isDigit_decimal

theorem mem_drifts {window : ℕ} {drift : ℤ} :
    drift ∈ drifts window ↔ -(window : ℤ) ≤ drift ∧ drift ≤ window := by
  simp only [drifts, List.mem_map, List.mem_range]
  constructor
  · rintro ⟨i, hi, rfl⟩
    omega
  · rintro ⟨hlow, hhigh⟩
    refine ⟨(drift + window).toNat, ?_, ?_⟩
    · omega
    · omega

theorem mem_window {drift : ℤ} : drift ∈ drifts defaultWindow ↔ -1 ≤ drift ∧ drift ≤ 1 :=
  mem_drifts

/-- The steps of the window. -/
theorem exists_drift_iff {steps : ℕ} (hpos : 1 ≤ steps) (p : ℕ → Prop) :
    (∃ drift ∈ drifts defaultWindow, p (steps + drift).toNat) ↔
      ∃ counter ∈ [steps - 1, steps, steps + 1], p counter := by
  constructor
  · rintro ⟨drift, hdrift, hp⟩
    obtain ⟨hlow, hhigh⟩ := mem_window.mp hdrift
    refine ⟨_, ?_, hp⟩
    simp only [List.mem_cons, List.not_mem_nil, or_false]
    omega
  · rintro ⟨counter, hcounter, hp⟩
    simp only [List.mem_cons, List.not_mem_nil, or_false] at hcounter
    refine ⟨(counter : ℤ) - steps, mem_window.mpr (by omega), ?_⟩
    rwa [add_sub_cancel, Int.toNat_natCast]

/-- **A token is accepted when it is, without its white space, the code of one of the three steps**,
at every time of a `Date` from the first step on, and the verifier does not throw. -/
theorem verifyTotpToken_code (hmac : HmacSha1) (key : List Byte) (token : String) {time : ℕ}
    (hfirst : 30000 ≤ time) (htime : time ≤ maxTimeValue) :
    ∃ accepted, verifyTotpToken hmac (encodeBase32 key) token time = some accepted ∧
      (accepted = true ↔ ∃ counter ∈ [time / 30000 - 1, time / 30000, time / 30000 + 1],
        String.ofList (token.toList.filter fun c => !isJsWhitespace c) =
          Hotp.code hmac 6 key counter) := by
  rw [verifyTotpToken, normalizeToken_eq, counterAt_natCast htime]
  rw [maxTimeValue] at htime
  have hpos : 1 ≤ time / 30000 := by omega
  have hmax : time / 30000 + 1 ≤ 2 ^ 53 := by omega
  generalize time / 30000 = steps at hpos hmax ⊢
  generalize String.ofList (token.toList.filter fun c => !isJsWhitespace c) = digits
  simp only
  split
  next hsix =>
    have hcodes : ∀ drift ∈ drifts defaultWindow,
        hotp hmac (encodeBase32 key) (addDrift steps drift) =
          some (Hotp.code hmac defaultDigits key (steps + drift).toNat) := by
      intro drift hdrift
      obtain ⟨hlow, hhigh⟩ := mem_window.mp hdrift
      have hsum : (steps : ℤ) + drift = ((steps + drift).toNat : ℤ) := by omega
      rw [addDrift_eq hsum (by omega)]
      exact hotp_encodeBase32 hmac key (by omega)
    obtain ⟨accepted, htry, hiff⟩ := tryDrifts_eq digits hcodes
    exact ⟨accepted, htry, hiff.trans (exists_drift_iff hpos fun counter =>
      digits = Hotp.code hmac defaultDigits key counter)⟩
  next hsix =>
    -- no code has the form of the token
    refine ⟨false, rfl, iff_of_false Bool.false_ne_true ?_⟩
    rintro ⟨counter, -, hcode⟩
    rw [hcode] at hsix
    exact hsix (isSixDigits_code hmac key counter)

/-- The digest of the standard's example of a truncation. -/
def exampleDigest : Vector Byte 20 :=
  #v[0x1f, 0x86, 0x98, 0x69, 0x0e, 0x02, 0xca, 0x16, 0x61, 0x85, 0x50, 0xef, 0x7f, 0x19, 0xda, 0x8e,
    0x94, 0x5b, 0x55, 0x5a]

/-- Its code, typed with a blank, in the second step. -/
theorem exampleDigest_accepted :
    verifyTotpToken (fun _ _ => exampleDigest) (encodeBase32 [49, 50, 51]) "872 921"
      ((59000 : ℕ) : ℚ) = some true := by
  obtain ⟨accepted, heq, hiff⟩ := verifyTotpToken_code (fun _ _ => exampleDigest) [49, 50, 51]
    "872 921" (by decide : 30000 ≤ 59000) (by decide)
  have htrue : accepted = true := hiff.mpr ⟨1, by decide, by decide +kernel⟩
  rw [heq, htrue]

/-- The example's digest for one counter, and another one for the others. -/
def lateHmac : HmacSha1 := fun _ message =>
  if message = Hotp.toBytes 8 9466607288287 then exampleDigest else Vector.replicate 20 0

/-- Far behind the times of a `Date`, the rounded quotient reaches the next step: the code of the
step before the right one is refused. -/
theorem lateTime_refused : ¬ ∀ (hmac : HmacSha1) (key : List Byte) (token : String) (time : ℚ)
    (steps : ℕ), IsDouble time → 30000 ≤ time → 30000 * steps ≤ time → time < 30000 * (steps + 1) →
    steps + 1 ≤ 2 ^ 53 →
    ∃ accepted, verifyTotpToken hmac (encodeBase32 key) token time = some accepted ∧
      (accepted = true ↔ ∃ counter ∈ [steps - 1, steps, steps + 1],
        String.ofList (token.toList.filter fun c => !isJsWhitespace c) =
          Hotp.code hmac 6 key counter) := by
  intro h
  have hdouble : IsDouble 283998218648669984 :=
    ⟨8874944332770937, 5, by norm_num, by norm_num⟩
  obtain ⟨accepted, heq, hiff⟩ := h lateHmac [49, 50, 51] "872921" 283998218648669984
    9466607288288 hdouble (by norm_num) (by norm_num) (by norm_num) (by norm_num)
  have hrefused : verifyTotpToken lateHmac (encodeBase32 [49, 50, 51]) "872921"
      283998218648669984 = some false := by decide +kernel
  have htrue : accepted = true := hiff.mpr ⟨9466607288287, by decide, by decide +kernel⟩
  rw [hrefused, htrue] at heq
  exact absurd heq (by decide)

end TotpUtil
