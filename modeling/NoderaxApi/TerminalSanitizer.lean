/-
# The sanitizer of terminal output

`sanitizeTerminalOutputPayload` deletes the matches of one regular expression from the text
of each payload: OSC, DCS, PM and APC control sequences, from their introducer to the first
BEL or `ESC \`.

It is one pass over each payload alone.  What it leaves of a payload is harmless in every
stream exactly if no introducer and no `ESC` at its end is left: `selfContained_iff`.

A payload is the list of bytes that its base64 text stands for.
-/
import NoderaxApi.Utf8

namespace TerminalSessionsService

open Utf8

/-! ## The pattern -/

/-- `\x1b`. -/
def esc : Char := Char.ofNat 0x1B

/-- `\x07`. -/
def bel : Char := Char.ofNat 0x07

/-- `[\x90\x9d\x9e\x9f]`. -/
def isEightBit (c : Char) : Bool :=
  c = Char.ofNat 0x90 || c = Char.ofNat 0x9D || c = Char.ofNat 0x9E || c = Char.ofNat 0x9F

/-- The characters after `\x1b` in `\x1b\]` and `\x1b[P^_]`. -/
def opensAfterEsc (c : Char) : Bool := c = ']' || c = 'P' || c = '^' || c = '_'

/-- The length of the introducer at the head of a text; 0 if there is none. -/
def introducerLength : List Char → ℕ
  | [] => 0
  | c :: rest =>
      if isEightBit c then 1
      else if c = esc ∧ rest.head?.any opensAfterEsc then 2
      else 0

/-- `[\s\S]*?(?:\x07|\x1b\\)`: the length up to the end of the first terminator. -/
def terminatorEnd : List Char → Option ℕ
  | [] => none
  | c :: rest =>
      if c = bel then some 1
      else if c = esc ∧ rest.head? = some '\\' then some 2
      else (terminatorEnd rest).map (· + 1)

/-- The length of the match of `DANGEROUS_TERMINAL_SEQUENCE_PATTERN` at the head of a text. -/
def matchLength (text : List Char) : Option ℕ :=
  let length := introducerLength text
  if length = 0 then none else (terminatorEnd (text.drop length)).map (length + ·)

/-- The text without the next `skip` characters and without the matches after them. -/
def removeFrom : ℕ → List Char → List Char
  | _, [] => []
  | skip + 1, _ :: rest => removeFrom skip rest
  | 0, c :: rest =>
      match matchLength (c :: rest) with
      | some length => removeFrom (length - 1) rest
      | none => c :: removeFrom 0 rest

/-- `decoded.replace(DANGEROUS_TERMINAL_SEQUENCE_PATTERN, '')`. -/
def sanitizeText (text : List Char) : List Char := removeFrom 0 text

/-- `sanitizeTerminalOutputPayload`. -/
def sanitizeTerminalOutputPayload (payload : List UInt8) : List UInt8 :=
  encode (sanitizeText (decode payload))

/-- One sequence in a line of output goes, the rest stays. -/
example : sanitizeText ("a".toList ++ esc :: "]0;t".toList ++ bel :: "b".toList) = ['a', 'b'] := by
  decide

/-! ## Control sequences -/

/-- How a control sequence begins. -/
inductive Introducer : List Char → Prop
  | escaped (c : Char) (h : opensAfterEsc c = true) : Introducer [esc, c]
  | eightBit (c : Char) (h : isEightBit c = true) : Introducer [c]

/-- How it ends. -/
inductive Terminator : List Char → Prop
  | bel : Terminator [bel]
  | esc : Terminator [esc, '\\']

/-- A complete control sequence stands in the text. -/
def HasSequence (text : List Char) : Prop :=
  ∃ before opening body closing after, text = before ++ opening ++ body ++ closing ++ after ∧
    Introducer opening ∧ Terminator closing

/-- An introducer stands in the text. -/
def HasIntroducer (text : List Char) : Prop :=
  ∃ before opening after, text = before ++ opening ++ after ∧ Introducer opening

/-- **What sanitizing a stream should achieve**: no complete control sequence stands in the
stored payloads, read together, and sanitizing one again changes nothing. -/
def StreamSanitized (payloads : List (List UInt8)) : Prop :=
  ¬ HasSequence (decode (payloads.map sanitizeTerminalOutputPayload).flatten) ∧
    ∀ payload ∈ payloads,
      sanitizeTerminalOutputPayload (sanitizeTerminalOutputPayload payload)
        = sanitizeTerminalOutputPayload payload

/-! ## Self-contained payloads -/

/-- What follows a text that ends in `ESC` or not (`escaped`), skipping the next characters
and the matches after them, completes and begins no introducer and does not end in `ESC`. -/
def selfContainedFrom : Bool → ℕ → List Char → Bool
  | escaped, _, [] => !escaped
  | escaped, skip + 1, _ :: rest => selfContainedFrom escaped skip rest
  | escaped, 0, c :: rest =>
      match matchLength (c :: rest) with
      | some length => selfContainedFrom escaped (length - 1) rest
      | none =>
          !isEightBit c && !(escaped && opensAfterEsc c) &&
            selfContainedFrom (decide (c = esc)) 0 rest

/-- Outside of complete control sequences the payload has no introducer, where characters
with only complete sequences between them count as adjacent, and does not end in `ESC`. -/
def SelfContained (payload : List UInt8) : Prop :=
  selfContainedFrom false 0 (decode payload) = true

instance (payload : List UInt8) : Decidable (SelfContained payload) := by
  unfold SelfContained; infer_instance

/-- The same of a text without matches. -/
def plain : Bool → List Char → Bool
  | escaped, [] => !escaped
  | escaped, c :: rest =>
      !isEightBit c && !(escaped && opensAfterEsc c) && plain (decide (c = esc)) rest

/-- A payload is self-contained if what is left of it is plain. -/
theorem selfContainedFrom_eq (escaped : Bool) (skip : ℕ) (text : List Char) :
    selfContainedFrom escaped skip text = plain escaped (removeFrom skip text) := by
  induction text generalizing escaped skip with
  | nil => cases skip <;> rfl
  | cons c rest ih =>
      cases skip with
      | succ skip => exact ih escaped skip
      | zero =>
          simp only [selfContainedFrom, removeFrom]
          split
          · exact ih escaped _
          · rw [plain, ih]

theorem selfContained_iff_plain {payload : List UInt8} :
    SelfContained payload ↔ plain false (sanitizeText (decode payload)) = true := by
  rw [SelfContained, selfContainedFrom_eq]
  rfl

/-! ## Plain texts -/

theorem isEightBit_esc : isEightBit esc = false := by decide

/-- Where an introducer can stand in a text that is not empty. -/
theorem hasIntroducer_cons {c : Char} {rest : List Char} :
    HasIntroducer (c :: rest) ↔ isEightBit c = true ∨
      (c = esc ∧ ∃ d rest', rest = d :: rest' ∧ opensAfterEsc d = true) ∨ HasIntroducer rest := by
  constructor
  · rintro ⟨before, opening, after, htext, hopening⟩
    cases before with
    | nil =>
        cases hopening with
        | escaped d hd =>
            obtain ⟨rfl, rfl⟩ := List.cons_eq_cons.mp htext
            exact Or.inr (Or.inl ⟨rfl, d, after, rfl, hd⟩)
        | eightBit d hd =>
            obtain ⟨rfl, rfl⟩ := List.cons_eq_cons.mp htext
            exact Or.inl hd
    | cons b before =>
        obtain ⟨rfl, rfl⟩ := List.cons_eq_cons.mp htext
        exact Or.inr (Or.inr ⟨before, opening, after, rfl, hopening⟩)
  · rintro (hc | ⟨rfl, d, rest', rfl, hd⟩ | ⟨before, opening, after, rfl, hopening⟩)
    · exact ⟨[], [c], rest, rfl, .eightBit c hc⟩
    · exact ⟨[], [esc, d], rest', rfl, .escaped d hd⟩
    · exact ⟨c :: before, opening, after, rfl, hopening⟩

/-- The text with the `ESC` before it. -/
def withEsc (escaped : Bool) (text : List Char) : List Char :=
  if escaped then esc :: text else text

/-- A text is read one character at a time, if one remembers whether the last was `ESC`. -/
theorem hasIntroducer_withEsc {escaped : Bool} {c : Char} {rest : List Char} :
    HasIntroducer (withEsc escaped (c :: rest)) ↔ isEightBit c = true ∨
      (escaped = true ∧ opensAfterEsc c = true) ∨
        HasIntroducer (withEsc (decide (c = esc)) rest) := by
  have htail : HasIntroducer (c :: rest) ↔
      isEightBit c = true ∨ HasIntroducer (withEsc (decide (c = esc)) rest) := by
    by_cases hc : c = esc
    · subst hc
      simp [withEsc, isEightBit_esc]
    · simp [withEsc, hasIntroducer_cons, hc]
  cases escaped with
  | false => simp [withEsc] at htail ⊢; exact htail
  | true =>
      show HasIntroducer (esc :: c :: rest) ↔ _
      rw [hasIntroducer_cons, htail, isEightBit_esc]
      constructor
      · rintro (h | ⟨-, d, rest', htext, hd⟩ | h | h)
        · exact absurd h (by simp)
        · obtain ⟨rfl, -⟩ := List.cons_eq_cons.mp htext
          exact Or.inr (Or.inl ⟨rfl, hd⟩)
        · exact Or.inl h
        · exact Or.inr (Or.inr h)
      · rintro (h | ⟨-, hc⟩ | h)
        · exact Or.inr (Or.inr (Or.inl h))
        · exact Or.inr (Or.inl ⟨rfl, c, rest, rfl, hc⟩)
        · exact Or.inr (Or.inr (Or.inr h))

theorem getLast_withEsc {escaped : Bool} {c : Char} {rest : List Char} :
    (withEsc escaped (c :: rest)).getLast? = some esc ↔
      (withEsc (decide (c = esc)) rest).getLast? = some esc := by
  have htail : (c :: rest).getLast? = some esc ↔
      (withEsc (decide (c = esc)) rest).getLast? = some esc := by
    by_cases hc : c = esc
    · simp [withEsc, hc]
    · cases rest with
      | nil => simp [withEsc, hc]
      | cons d rest => simp [withEsc, hc]
  cases escaped with
  | false => exact htail
  | true => exact htail

/-- **Plain texts** have no introducer and do not end in `ESC`. -/
theorem plain_iff (escaped : Bool) (text : List Char) :
    plain escaped text = true ↔
      ¬ HasIntroducer (withEsc escaped text) ∧ (withEsc escaped text).getLast? ≠ some esc := by
  induction text generalizing escaped with
  | nil =>
      have hnil : ¬ HasIntroducer [] := by
        rintro ⟨before, opening, after, htext, hopening⟩
        cases hopening <;> simp at htext
      cases escaped with
      | false => simp [plain, withEsc, hnil]
      | true => simp [plain, withEsc]
  | cons c rest ih =>
      simp only [plain, Bool.and_eq_true, Bool.not_eq_true', ih, ne_eq, hasIntroducer_withEsc,
        getLast_withEsc]
      cases isEightBit c <;> cases escaped <;> cases opensAfterEsc c <;> simp

/-- Plain texts in a row are plain. -/
theorem plain_append {escaped : Bool} {a b : List Char} (ha : plain escaped a = true)
    (hb : plain false b = true) : plain escaped (a ++ b) = true := by
  induction a generalizing escaped with
  | nil =>
      have hescaped : escaped = false := by simpa [plain] using ha
      rw [hescaped]
      exact hb
  | cons c rest ih =>
      simp only [plain, List.cons_append, Bool.and_eq_true] at ha ⊢
      exact ⟨ha.1, ih ha.2⟩

theorem plain_flatten {texts : List (List Char)} (h : ∀ text ∈ texts, plain false text = true) :
    plain false texts.flatten = true := by
  induction texts with
  | nil => rfl
  | cons text texts ih =>
      rw [List.flatten_cons]
      exact plain_append (h text List.mem_cons_self)
        (ih fun text htext => h text (List.mem_cons_of_mem _ htext))

/-- An introducer at the head is an introducer. -/
theorem hasIntroducer_of_introducerLength {text : List Char} (h : introducerLength text ≠ 0) :
    HasIntroducer text := by
  cases text with
  | nil => exact absurd rfl h
  | cons c rest =>
      simp only [introducerLength] at h
      split at h
      · next height => exact hasIntroducer_cons.mpr (Or.inl height)
      · split at h
        · next hopens =>
            obtain ⟨rfl, hopens⟩ := hopens
            cases rest with
            | nil => exact absurd hopens (by simp)
            | cons d rest =>
                refine hasIntroducer_cons.mpr (Or.inr (Or.inl ⟨rfl, d, rest, rfl, ?_⟩))
                simpa using hopens
        · exact absurd rfl h

/-- Without an introducer there is nothing to remove. -/
theorem sanitizeText_of_no_introducer {text : List Char} (h : ¬ HasIntroducer text) :
    sanitizeText text = text := by
  induction text with
  | nil => rfl
  | cons c rest ih =>
      have hmatch : matchLength (c :: rest) = none := by
        by_contra hsome
        refine h (hasIntroducer_of_introducerLength fun hzero => hsome ?_)
        simp [matchLength, hzero]
      have hrest : ¬ HasIntroducer rest := fun hrest =>
        h (hasIntroducer_cons.mpr (Or.inr (Or.inr hrest)))
      have ih' : removeFrom 0 rest = rest := ih hrest
      simp only [sanitizeText, removeFrom, hmatch, ih']

/-! ## Streams -/

/-- A complete sequence needs an introducer. -/
theorem HasSequence.hasIntroducer {text : List Char} (h : HasSequence text) :
    HasIntroducer text := by
  obtain ⟨before, opening, body, closing, after, htext, hopening, -⟩ := h
  refine ⟨before, opening, body ++ closing ++ after, ?_, hopening⟩
  simp [htext]

/-- What is stored of a list of payloads, as one text. -/
theorem decode_stored (payloads : List (List UInt8)) :
    decode (payloads.map sanitizeTerminalOutputPayload).flatten
      = (payloads.map fun payload => sanitizeText (decode payload)).flatten := by
  have hmap : payloads.map sanitizeTerminalOutputPayload
      = (payloads.map fun payload => sanitizeText (decode payload)).map encode := by
    rw [List.map_map]
    rfl
  rw [hmap, ← encode_flatten, decode_encode]

/-- A stream of self-contained payloads is sanitized. -/
theorem streamSanitized_of_selfContained {payloads : List (List UInt8)}
    (h : ∀ payload ∈ payloads, SelfContained payload) : StreamSanitized payloads := by
  constructor
  · rw [decode_stored]
    intro hsequence
    have hplain : plain false (payloads.map fun payload => sanitizeText (decode payload)).flatten
        = true := by
      refine plain_flatten fun text htext => ?_
      obtain ⟨payload, hpayload, rfl⟩ := List.mem_map.mp htext
      exact selfContained_iff_plain.mp (h payload hpayload)
    exact ((plain_iff false _).mp hplain).1 hsequence.hasIntroducer
  · intro payload hpayload
    have hplain := selfContained_iff_plain.mp (h payload hpayload)
    have hnone : ¬ HasIntroducer (sanitizeText (decode payload)) :=
      ((plain_iff false _).mp hplain).1
    rw [sanitizeTerminalOutputPayload, sanitizeTerminalOutputPayload, decode_encode,
      sanitizeText_of_no_introducer hnone]

/-- A text that ends with a terminator is all it takes. -/
theorem hasSequence_append {a b : List Char} (ha : HasIntroducer a) :
    HasSequence (a ++ bel :: b) := by
  obtain ⟨before, opening, after, rfl, hopening⟩ := ha
  exact ⟨before, opening, after, [bel], b, by simp, hopening, .bel⟩

/-- **Harmless payloads.**  A payload is self-contained exactly if every stream in which it
stands between self-contained payloads is sanitized. -/
theorem selfContained_iff (payload : List UInt8) :
    SelfContained payload ↔
      ∀ before after, (∀ other ∈ before ++ after, SelfContained other) →
        StreamSanitized (before ++ payload :: after) := by
  constructor
  · intro h before after hothers
    refine streamSanitized_of_selfContained fun other hother => ?_
    rcases List.mem_append.mp hother with hbefore | htail
    · exact hothers other (List.mem_append_left after hbefore)
    · rcases List.mem_cons.mp htail with rfl | hafter
      · exact h
      · exact hothers other (List.mem_append_right before hafter)
  · intro h
    rw [selfContained_iff_plain, plain_iff]
    constructor
    · -- the next payload is a BEL
      intro hintroducer
      refine (h [] [[0x07]] (by decide)).1 ?_
      rw [decode_stored]
      exact hasSequence_append (b := []) hintroducer
    · -- the next payload is `]` and a BEL
      intro hlast
      refine (h [] [[0x5D, 0x07]] (by decide)).1 ?_
      rw [decode_stored]
      obtain ⟨before, hbefore⟩ := List.getLast?_eq_some_iff.mp hlast
      refine ⟨before, [esc, ']'], [], [bel], [], ?_, .escaped ']' (by decide), .bel⟩
      have hnext : sanitizeText (decode [0x5D, 0x07]) = [']', bel] := by decide
      simp only [withEsc, Bool.false_eq_true, if_false] at hbefore
      simp [hbefore, hnext]

/-! ## Two streams that are not sanitized -/

/-- `ESC`, a whole sequence, and the rest of another one: `ESC ESC ] a BEL ] b BEL`. -/
def nestedSequence : List UInt8 := [0x1B, 0x1B, 0x5D, 0x61, 0x07, 0x5D, 0x62, 0x07]

/-- One sequence in two payloads: `ESC ] a`, and `b BEL`. -/
def splitSequence : List (List UInt8) := [[0x1B, 0x5D, 0x61], [0x62, 0x07]]

/-- **The sequences get through.** -/
theorem sequences_get_through :
    ¬ StreamSanitized [nestedSequence] ∧ ¬ StreamSanitized splitSequence := by
  constructor
  · rintro ⟨hnone, -⟩
    refine hnone ⟨[], [esc, ']'], ['b'], [bel], [], ?_, .escaped ']' (by decide), .bel⟩
    decide
  · rintro ⟨hnone, -⟩
    refine hnone ⟨[], [esc, ']'], ['a', 'b'], [bel], [], ?_, .escaped ']' (by decide), .bel⟩
    decide

end TerminalSessionsService
