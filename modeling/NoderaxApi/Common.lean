/-
# Values shared by the services

Identifiers, instants, HTTP exceptions, JSON records, and the few JavaScript
string and date operations the services apply to their inputs.
-/
import Mathlib.Algebra.Group.Int.Defs
import Mathlib.Algebra.GroupWithZero.Nat
import Mathlib.Data.List.Basic
import Mathlib.Data.List.Infix
import Mathlib.Data.Rat.Defs
import NoderaxApi.Words

/-! ## Identifiers and instants

An instant is an integer: milliseconds since the epoch, as
`Date.prototype.getTime` answers. -/

/-- A uuid column.  The services only compare uuids for equality. -/
abbrev Uuid := String

/-- A date string of a request body and the instant `new Date` reads from it. -/
structure DateString where
  text : String
  time : ℤ
  deriving DecidableEq, Repr

/-! ## HTTP exceptions -/

/-- The exceptions the services throw, with their messages. -/
inductive HttpError
  | badRequest (message : String)
  | unauthorized (message : String)
  | forbidden (message : String)
  | notFound (message : String)
  | conflict (message : String)
  | gone (message : String)
  | internalServerError (message : String)
  deriving DecidableEq, Repr

/-- The message text of an exception. -/
def HttpError.message : HttpError → String
  | .badRequest m | .unauthorized m | .forbidden m | .notFound m | .conflict m | .gone m
  | .internalServerError m => m

instance instDecidableEqExcept {ε α : Type*} [DecidableEq ε] [DecidableEq α] :
    DecidableEq (Except ε α)
  | .error a, .error b => decidable_of_iff (a = b) ⟨congrArg _, Except.error.inj⟩
  | .ok a, .ok b => decidable_of_iff (a = b) ⟨congrArg _, Except.ok.inj⟩
  | .error _, .ok _ => isFalse fun h => by cases h
  | .ok _, .error _ => isFalse fun h => by cases h

/-- A sequence of steps returns when each of them does. -/
theorem bind_eq_ok {ε : Type*} {α β : Type} {x : Except ε α} {f : α → Except ε β} {b : β} :
    x >>= f = .ok b ↔ ∃ a, x = .ok a ∧ f a = .ok b := by
  cases x with
  | error e => simp [bind, Except.bind]
  | ok a => simp [bind, Except.bind]

/-- Renaming errors changes no success. -/
theorem mapError_eq_ok {ε ε' α : Type} {f : ε → ε'} {x : Except ε α} {a : α} :
    x.mapError f = .ok a ↔ x = .ok a := by
  cases x with
  | error e => simp [Except.mapError]
  | ok b => simp [Except.mapError]

/-! ## JSON records -/

/-- A JSON value; numbers are the decimals JSON can write. -/
inductive Json
  | null
  | bool (b : Bool)
  | num (n : ℚ)
  | str (s : String)
  | arr (items : List Json)
  | obj (fields : List (String × Json))
  deriving Inhabited

/-- `Record<string, unknown>`: a later field of the same name is found first
only if it stands first, so `JsonObject.set` removes the old one. -/
abbrev JsonObject := List (String × Json)

/-- `record[key]`. -/
def JsonObject.get (o : JsonObject) (key : String) : Option Json := o.lookup key

/-- `{ ...record, key: value }`. -/
def JsonObject.set (o : JsonObject) (key : String) (value : Json) : JsonObject :=
  o.filter (fun field => field.1 ≠ key) ++ [(key, value)]

/-- A field just set is read back. -/
theorem JsonObject.get_set_self (o : JsonObject) (key : String) (value : Json) :
    (o.set key value).get key = some value := by
  have hnone : (o.filter fun field => field.1 ≠ key).lookup key = none := by
    rw [List.lookup_eq_none_iff]
    intro field hfield
    have hne := of_decide_eq_true (List.mem_filter.mp hfield).2
    simpa using Ne.symm hne
  rw [JsonObject.set, JsonObject.get, List.lookup_append, hnone, Option.none_or]
  simp

/-- Setting a field leaves the others alone. -/
theorem JsonObject.get_set_of_ne (o : JsonObject) {key key' : String} (value : Json)
    (h : key' ≠ key) : (o.set key value).get key' = o.get key' := by
  have hlast : [(key, value)].lookup key' = none := by simp [h]
  rw [JsonObject.set, JsonObject.get, JsonObject.get, List.lookup_append, hlast, Option.or_none]
  induction o with
  | nil => rfl
  | cons field o ih =>
      by_cases hfield : field.1 = key
      · have hskip : (key' == field.1) = false := by simpa [hfield] using h
        rw [List.filter_cons_of_neg (by simpa using hfield), ih, List.lookup_cons, hskip]
      · rw [List.filter_cons_of_pos (by simpa using hfield), List.lookup_cons, List.lookup_cons, ih]

/-- `typeof record[key] === 'string' ? record[key] : null`. -/
def JsonObject.string? (o : JsonObject) (key : String) : Option String :=
  match o.get key with
  | some (.str s) => some s
  | _ => none

/-- `record[key] === true`. -/
def JsonObject.isTrue (o : JsonObject) (key : String) : Bool :=
  match o.get key with
  | some (.bool b) => b
  | _ => false

/-- A nullable string as a JSON value. -/
def Json.ofString? : Option String → Json
  | some s => .str s
  | none => .null

/-! ## JavaScript strings -/

/-- The white space that `String.prototype.trim` removes and `\s` matches. -/
def isJsWhitespace (c : Char) : Bool :=
  c.val ∈ [0x09, 0x0A, 0x0B, 0x0C, 0x0D, 0x20, 0xA0, 0x1680, 0x2028, 0x2029, 0x202F, 0x205F,
    0x3000, 0xFEFF] || (0x2000 ≤ c.val && c.val ≤ 0x200A)

theorem isJsWhitespace_blank : isJsWhitespace ' ' = true := by decide

theorem not_blank_of_any {text : List Char} (h : text.any isJsWhitespace = false) :
    ∀ c ∈ text, isJsWhitespace c = false :=
  fun c hc => Bool.eq_false_iff.mpr (List.any_eq_false.mp h c hc)

/-- No printing character of ASCII is white space. -/
theorem range_of_isJsWhitespace {c : Char} (h : isJsWhitespace c = true) :
    c.val.toNat ≤ 0x20 ∨ 0xA0 ≤ c.val.toNat := by
  rw [isJsWhitespace, Bool.or_eq_true_iff] at h
  rcases h with h | h
  · have hall : ([0x09, 0x0A, 0x0B, 0x0C, 0x0D, 0x20, 0xA0, 0x1680, 0x2028, 0x2029, 0x202F, 0x205F,
        0x3000, 0xFEFF] : List UInt32).all (fun n => n.toNat ≤ 0x20 ∨ 0xA0 ≤ n.toNat) = true := by
      decide
    exact of_decide_eq_true (List.all_eq_true.mp hall c.val (of_decide_eq_true h))
  · have hlower := UInt32.le_iff_toNat_le.mp (of_decide_eq_true (Bool.and_eq_true_iff.mp h).1)
    exact .inr (le_trans (by decide) hlower)

/-- `String.prototype.trim`. -/
def jsTrim (s : String) : String :=
  String.ofList (((s.toList.dropWhile isJsWhitespace).reverse.dropWhile isJsWhitespace).reverse)

theorem toList_jsTrim (s : String) : (jsTrim s).toList = Words.trim isJsWhitespace s.toList := by
  rw [jsTrim, String.toList_ofList, Words.trim]

theorem jsTrim_jsTrim (s : String) : jsTrim (jsTrim s) = jsTrim s := by
  apply String.toList_injective
  rw [toList_jsTrim, toList_jsTrim, Words.trim_trim]

/-- How many UTF-16 code units a character takes. -/
def utf16Units (c : Char) : ℕ := if c.val < 0x10000 then 1 else 2

/-- `String.prototype.length`: the number of UTF-16 code units. -/
def jsLength (s : String) : ℕ := (s.toList.map utf16Units).sum

/-- The characters of the first `n` UTF-16 code units.  A surrogate pair cut in
two leaves a lone surrogate, which is stored as U+FFFD. -/
def takeUtf16 : ℕ → List Char → List Char
  | _, [] => []
  | 0, _ => []
  | n + 1, c :: cs =>
      if utf16Units c ≤ n + 1 then c :: takeUtf16 (n + 1 - utf16Units c) cs else ['\uFFFD']
termination_by _ cs => cs

/-- `s.slice(0, n)`. -/
def jsSliceTo (n : ℕ) (s : String) : String := String.ofList (takeUtf16 n s.toList)

/-- `value?.trim() || null`: blank strings count as absent. -/
def trimToNull (s : Option String) : Option String :=
  match s.map jsTrim with
  | some "" => none
  | other => other

/-! ## Dates -/

/-- `padStart(n, '0')` of a natural number. -/
def padZero (n value : ℕ) : String :=
  let digits := toString value
  "".pushn '0' (n - digits.length) ++ digits

/-- Year, month and day of the proleptic Gregorian calendar, from the number of
days since 1970-01-01. -/
def civilFromDays (days : ℤ) : ℤ × ℕ × ℕ :=
  let z := days + 719468
  let era := z / 146097
  let doe := (z % 146097).toNat
  let yoe := (doe - doe / 1460 + doe / 36524 - doe / 146096) / 365
  let doy := doe - (365 * yoe + yoe / 4 - yoe / 100)
  let mp := (5 * doy + 2) / 153
  let day := doy - (153 * mp + 2) / 5 + 1
  let month := if mp < 10 then mp + 3 else mp - 9
  let year := (yoe : ℤ) + era * 400 + (if month ≤ 2 then 1 else 0)
  (year, month, day)

/-- The year field of `toISOString`: four digits, or a sign and six digits
outside 0..9999. -/
def isoYear (year : ℤ) : String :=
  if 0 ≤ year ∧ year ≤ 9999 then padZero 4 year.toNat
  else if year < 0 then "-" ++ padZero 6 (-year).toNat
  else "+" ++ padZero 6 year.toNat

/-- `Date.prototype.toISOString`. -/
def toISOString (t : ℤ) : String :=
  let days := t / 86400000
  let ms := (t % 86400000).toNat
  let date := civilFromDays days
  isoYear date.1 ++ "-" ++ padZero 2 date.2.1 ++ "-" ++ padZero 2 date.2.2 ++ "T" ++
    padZero 2 (ms / 3600000) ++ ":" ++ padZero 2 (ms / 60000 % 60) ++ ":" ++
    padZero 2 (ms / 1000 % 60) ++ "." ++ padZero 3 (ms % 1000) ++ "Z"

example : toISOString 1773750731000 = "2026-03-17T12:32:11.000Z" := by decide

/-- A nullable value inside a template literal. -/
def orNullText (s : Option String) : String := s.getD "null"
