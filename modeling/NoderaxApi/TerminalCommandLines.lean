/-
# The lines of a terminal

The audit of typed commands decodes each payload on its own and keeps the line as a JavaScript
string.  Here it is compared with a line editor on the characters of the whole stream: they agree on
a stream and all its beginnings, each submitted by a carriage return, exactly if no payload ends
inside a character and nothing outside the basic plane is deleted.
-/
import NoderaxApi.TerminalCommandAudit
import NoderaxApi.Utf8Splits
import NoderaxApi.Words

namespace TerminalSessionsService

open Words

/-! ## Streams -/

/-- A text and the payloads in which its bytes arrive. -/
structure TypedStream where
  text : List Char
  payloads : List (List UInt8)
  split : payloads.flatten = Utf8.encode text

/-- `auditSubmittedTerminalCommands` of one payload after the other: the line that is left in the
map, and the commands that are recorded. -/
def auditPayloads (commandBuffer : JsString) (payloads : List (List UInt8)) :
    JsString × List JsString :=
  typeTexts commandBuffer (payloads.map Utf8.decode)

/-- Backspace and delete. -/
def isErase (char : Char) : Bool := char = Char.ofNat 0x08 || char = Char.ofNat 0x7F

/-- **The line editor**: the line after a text was typed, and the commands it submits. -/
def editLine : List Char → List Char → List Char × List (List Char)
  | line, [] => (line, [])
  | line, char :: rest =>
      if char = '\r' ∨ char = '\n' then
        let command := trim isJsWhitespace line
        let after := editLine [] rest
        if command = [] then after else (after.1, command :: after.2)
      else if isErase char then editLine line.dropLast rest
      else if char = '\t' ∨ ' ' ≤ char then editLine (line ++ [char]) rest
      else editLine line rest

/-- The code units of a text. -/
def units (text : List Char) : JsString := text.flatMap codeUnits

/-- **What the audit should record**: the commands of the line editor, for the stream and for each
of its beginnings that a carriage return submits. -/
structure TypedStream.Audited (s : TypedStream) : Prop where
  stream : (auditPayloads [] s.payloads).2 = (editLine [] s.text).2.map units
  submitted : ∀ first piece piece' rest before after,
    s.payloads = first ++ (piece ++ piece') :: rest → s.text = before ++ after →
    (first ++ [piece]).flatten = Utf8.encode before →
    (auditPayloads [] (first ++ [piece, Utf8.encode ['\r']])).2 =
      (editLine [] (before ++ ['\r'])).2.map units

/-- A character of the basic plane. -/
def IsBasic (c : Char) : Prop := c.val.toNat < 0x10000

/-- Nothing outside the basic plane is deleted. -/
def ErasesBasic (text : List Char) : Prop :=
  ∀ before erase after, text = before ++ erase :: after → isErase erase = true →
    ∀ c, (editLine [] before).1.getLast? = some c → IsBasic c

/-! ## Texts one after the other -/

theorem typeText_append (buffer : JsString) (a b : List Char) :
    typeText buffer (a ++ b) =
      ((typeText (typeText buffer a).1 b).1,
        (typeText buffer a).2 ++ (typeText (typeText buffer a).1 b).2) := by
  induction a generalizing buffer with
  | nil => rfl
  | cons char a ih =>
      rw [List.cons_append, typeText, typeText]
      by_cases hnewline : char = '\r' ∨ char = '\n'
      · rw [if_pos hnewline, if_pos hnewline, ih]
        simp only
        by_cases hempty : trimUnits buffer = []
        · rw [if_pos hempty, if_pos hempty]
        · rw [if_neg hempty, if_neg hempty]
          rfl
      · rw [if_neg hnewline, if_neg hnewline]
        by_cases hback : char = Char.ofNat 0x08 ∨ char = Char.ofNat 0x7F
        · rw [if_pos hback, if_pos hback, ih]
        · rw [if_neg hback, if_neg hback]
          by_cases hprint : char = '\t' ∨ ' ' ≤ char
          · rw [if_pos hprint, if_pos hprint, ih]
          · rw [if_neg hprint, if_neg hprint, ih]

theorem editLine_append (line a b : List Char) :
    editLine line (a ++ b) =
      ((editLine (editLine line a).1 b).1,
        (editLine line a).2 ++ (editLine (editLine line a).1 b).2) := by
  induction a generalizing line with
  | nil => rfl
  | cons char a ih =>
      rw [List.cons_append, editLine, editLine]
      by_cases hnewline : char = '\r' ∨ char = '\n'
      · rw [if_pos hnewline, if_pos hnewline, ih]
        simp only
        by_cases hempty : trim isJsWhitespace line = []
        · rw [if_pos hempty, if_pos hempty]
        · rw [if_neg hempty, if_neg hempty]
          rfl
      · rw [if_neg hnewline, if_neg hnewline]
        by_cases hback : isErase char = true
        · rw [if_pos hback, if_pos hback, ih]
        · rw [if_neg hback, if_neg hback]
          by_cases hprint : char = '\t' ∨ ' ' ≤ char
          · rw [if_pos hprint, if_pos hprint, ih]
          · rw [if_neg hprint, if_neg hprint, ih]

/-- The texts of the payloads are typed like their concatenation. -/
theorem typeTexts_eq (buffer : JsString) (texts : List (List Char)) :
    typeTexts buffer texts = typeText buffer texts.flatten := by
  induction texts using List.reverseRecOn with
  | nil => rfl
  | append_singleton texts text ih =>
      rw [typeTexts_concat, ih, List.flatten_append, List.flatten_singleton, typeText_append]

theorem auditPayloads_eq (buffer : JsString) (payloads : List (List UInt8)) :
    auditPayloads buffer payloads = typeText buffer (payloads.map Utf8.decode).flatten :=
  typeTexts_eq buffer _

/-! ## Code units -/

theorem codeUnits_basic {c : Char} (h : IsBasic c) :
    codeUnits c = [UInt16.ofNat c.val.toNat] := by
  unfold codeUnits
  exact if_pos h

/-- A character outside the basic plane is a high and a low surrogate. -/
theorem codeUnits_astral {c : Char} (h : ¬ IsBasic c) :
    ∃ high low, codeUnits c = [high, low] ∧ (0xD800 ≤ high.toNat ∧ high.toNat < 0xDC00) ∧
      (0xDC00 ≤ low.toNat ∧ low.toNat < 0xE000) := by
  have hvalid := Utf8.val_bounds c
  unfold IsBasic at h
  unfold codeUnits
  simp only
  rw [if_neg h]
  generalize c.val.toNat = n at h hvalid
  refine ⟨_, _, rfl, ?_, ?_⟩
  · rw [UInt16.toNat_ofNat', Nat.mod_eq_of_lt (by omega)]
    omega
  · rw [UInt16.toNat_ofNat', Nat.mod_eq_of_lt (by omega)]
    omega

theorem isBlankUnit_basic {c : Char} (h : IsBasic c) :
    isBlankUnit (UInt16.ofNat c.val.toNat) = isJsWhitespace c := by
  have hback : Char.ofNat c.val.toNat = c := Char.ofNat_toNat c
  unfold IsBasic at h
  rw [isBlankUnit, UInt16.toNat_ofNat', Nat.mod_eq_of_lt (by omega), hback]

/-- A surrogate is not blank. -/
theorem isBlankUnit_surrogate {u : UInt16} (h : 0xD800 ≤ u.toNat ∧ u.toNat < 0xE000) :
    isBlankUnit u = false := by
  have hinvalid : ¬ u.toNat.isValidChar := by
    unfold Nat.isValidChar
    omega
  rw [isBlankUnit, Char.ofNat, dif_neg hinvalid]
  decide

theorem isBasic_of_isJsWhitespace {c : Char} (h : isJsWhitespace c = true) : IsBasic c := by
  unfold IsBasic
  by_contra hastral
  have hvalue : ∀ n : UInt32, n.toNat < 0x10000 → c.val ≠ n := fun n hn heq => by
    rw [heq] at hastral
    exact hastral hn
  have hupper : ¬ c.val ≤ 0x200A := by
    intro hle
    have hnat := UInt32.le_iff_toNat_le.mp hle
    have hbound : (0x200A : UInt32).toNat = 0x200A := rfl
    omega
  simp only [isJsWhitespace, Bool.or_eq_true, decide_eq_true_eq, Bool.and_eq_true, List.mem_cons,
    List.not_mem_nil, or_false] at h
  rcases h with h | h
  · rcases h with h | h | h | h | h | h | h | h | h | h | h | h | h | h
    all_goals exact hvalue _ (by decide) h
  · exact hupper h.2

/-- The first and the last code unit of a character tell whether it is white space. -/
theorem codeUnits_ends {c : Char} (h : isJsWhitespace c = false) :
    (∃ u rest, codeUnits c = u :: rest ∧ isBlankUnit u = false) ∧
      ∃ u rest, codeUnits c = rest ++ [u] ∧ isBlankUnit u = false := by
  by_cases hbasic : IsBasic c
  · have hblank := (isBlankUnit_basic hbasic).trans h
    exact ⟨⟨_, [], codeUnits_basic hbasic, hblank⟩, _, [], codeUnits_basic hbasic, hblank⟩
  · obtain ⟨high, low, hunits, hhigh, hlow⟩ := codeUnits_astral hbasic
    exact ⟨⟨high, [low], hunits, isBlankUnit_surrogate (by omega)⟩,
      low, [high], hunits, isBlankUnit_surrogate (by omega)⟩

theorem codeUnits_whitespace {c : Char} (h : isJsWhitespace c = true) :
    ∃ u, codeUnits c = [u] ∧ isBlankUnit u = true :=
  have hbasic := isBasic_of_isJsWhitespace h
  ⟨_, codeUnits_basic hbasic, (isBlankUnit_basic hbasic).trans h⟩

/-- **Trimming the code units** trims the text. -/
theorem trimUnits_units (line : List Char) :
    trimUnits (units line) = units (trim isJsWhitespace line) :=
  trim_flatMap (fun _ => codeUnits_whitespace) (fun _ h => (codeUnits_ends h).1)
    (fun _ h => (codeUnits_ends h).2) line

theorem units_append (a b : List Char) : units (a ++ b) = units a ++ units b :=
  List.flatMap_append

theorem units_singleton (c : Char) : units [c] = codeUnits c :=
  List.flatMap_singleton codeUnits c

theorem units_eq_nil_iff {line : List Char} : units line = [] ↔ line = [] := by
  cases line with
  | nil => exact ⟨fun _ => rfl, fun _ => rfl⟩
  | cons c line =>
      have hne : codeUnits c ≠ [] := by
        by_cases hbasic : IsBasic c
        · rw [codeUnits_basic hbasic]
          exact List.cons_ne_nil _ _
        · obtain ⟨high, low, hunits, -⟩ := codeUnits_astral hbasic
          rw [hunits]
          exact List.cons_ne_nil _ _
      have hunits : units (c :: line) = codeUnits c ++ units line := List.flatMap_cons
      simp [hunits, hne]

/-! ## Whole payloads -/

/-- Deleting the last code unit deletes a character of the basic plane. -/
theorem dropLast_units {line : List Char} (h : ∀ c, line.getLast? = some c → IsBasic c) :
    (units line).dropLast = units line.dropLast := by
  induction line using List.reverseRecOn with
  | nil => rfl
  | append_singleton line c ih =>
      have hbasic : IsBasic c := h c List.getLast?_concat
      rw [units_append, units_singleton, codeUnits_basic hbasic, List.dropLast_concat,
        List.dropLast_concat]

/-- One character. -/
theorem typeText_char {line : List Char} {char : Char}
    (h : isErase char = true → ∀ c, line.getLast? = some c → IsBasic c) :
    typeText (units line) [char] =
      (units (editLine line [char]).1, (editLine line [char]).2.map units) := by
  rw [typeText, editLine]
  by_cases hnewline : char = '\r' ∨ char = '\n'
  · rw [if_pos hnewline, if_pos hnewline, trimUnits_units]
    simp only [units_eq_nil_iff]
    by_cases hempty : trim isJsWhitespace line = []
    · rw [if_pos hempty, if_pos hempty]
      rfl
    · rw [if_neg hempty, if_neg hempty]
      rfl
  · have herase : (char = Char.ofNat 0x08 ∨ char = Char.ofNat 0x7F) ↔ isErase char = true := by
      simp [isErase]
    rw [if_neg hnewline, if_neg hnewline]
    by_cases hback : isErase char = true
    · rw [if_pos (herase.mpr hback), if_pos hback, dropLast_units (h hback)]
      rfl
    · rw [if_neg (mt herase.mp hback), if_neg hback]
      by_cases hprint : char = '\t' ∨ ' ' ≤ char
      · rw [if_pos hprint, if_pos hprint]
        have hunits : units (line ++ [char]) = units line ++ codeUnits char := by
          rw [units_append, units_singleton]
        exact Prod.ext hunits.symm rfl
      · rw [if_neg hprint, if_neg hprint]
        rfl

theorem ErasesBasic.of_append {a b : List Char} (h : ErasesBasic (a ++ b)) : ErasesBasic a := by
  intro before erase after htext herase
  refine h before erase (after ++ b) ?_ herase
  rw [htext, List.append_assoc]
  rfl

/-- **What is typed without such a deletion is edited like the text.** -/
theorem typeText_units {text : List Char} (h : ErasesBasic text) :
    typeText [] text = (units (editLine [] text).1, (editLine [] text).2.map units) := by
  induction text using List.reverseRecOn with
  | nil => rfl
  | append_singleton text char ih =>
      have ih := ih h.of_append
      have hchar : typeText (units (editLine [] text).1) [char] =
          (units (editLine (editLine [] text).1 [char]).1,
            (editLine (editLine [] text).1 [char]).2.map units) :=
        typeText_char fun herase => h text char [] rfl herase
      rw [typeText_append, ih, hchar, editLine_append, List.map_append]

theorem auditPayloads_texts (texts : List (List Char)) :
    auditPayloads [] (texts.map Utf8.encode) = typeText [] texts.flatten := by
  rw [auditPayloads_eq, Utf8.map_decode_encode]

theorem ErasesBasic.concat {typed : List Char} {char : Char} (h : ErasesBasic typed)
    (hchar : isErase char = true → ∀ c, (editLine [] typed).1.getLast? = some c → IsBasic c) :
    ErasesBasic (typed ++ [char]) := by
  intro before erase after htext herase c hlast
  rcases List.eq_nil_or_concat after with rfl | ⟨after', last, rfl⟩
  · obtain ⟨rfl, hlastChar⟩ := List.append_inj' htext rfl
    obtain rfl := (List.cons.inj hlastChar).1
    exact hchar herase c hlast
  · rw [List.concat_eq_append, ← List.cons_append, ← List.append_assoc] at htext
    obtain ⟨htext, -⟩ := List.append_inj' htext rfl
    exact h before erase after' htext herase c hlast

/-- The carriage return deletes nothing. -/
theorem ErasesBasic.submit {text : List Char} (h : ErasesBasic text) :
    ErasesBasic (text ++ ['\r']) :=
  h.concat fun herase => absurd herase (by decide)

/-- The beginning of a stream in whole payloads is in whole payloads. -/
theorem wholeCharacters_cut {texts : List (List Char)} {first : List (List UInt8)}
    {piece piece' : List UInt8} {rest : List (List UInt8)} {before after : List Char}
    (hpayloads : texts.map Utf8.encode = first ++ (piece ++ piece') :: rest)
    (htext : texts.flatten = before ++ after)
    (hbefore : (first ++ [piece]).flatten = Utf8.encode before) :
    ∃ texts' : List (List Char), first ++ [piece] = texts'.map Utf8.encode := by
  obtain ⟨front, back, rfl, rfl, hback⟩ := List.map_eq_append_iff.mp hpayloads
  obtain ⟨text, back, rfl, hpiece, -⟩ := List.map_eq_cons_iff.mp hback
  rcases Utf8.encode_eq_append hpiece.symm with ⟨whole, -, -, rfl, -⟩ |
    ⟨-, c, cut, part, part', -, hchar, hpart, hpart', -, rfl⟩
  · exact ⟨front ++ [whole], by rw [List.map_append]; rfl⟩
  · -- the bytes after the cut are those of a text
    have hafter : (part' ++ Utf8.encode cut) ++ (back.map Utf8.encode).flatten =
        Utf8.encode after := by
      have hflatten : (front.map Utf8.encode).flatten ++ Utf8.encode text ++
          (back.map Utf8.encode).flatten = Utf8.encode before ++ Utf8.encode after := by
        rw [← Utf8.encode_append, ← htext, Utf8.encode_flatten, List.map_append, List.map_cons,
          List.flatten_append, List.flatten_cons, List.append_assoc]
      rw [List.flatten_append, List.flatten_singleton] at hbefore
      rw [hpiece, ← hbefore] at hflatten
      simp only [List.append_assoc] at hflatten ⊢
      exact List.append_cancel_left (List.append_cancel_left hflatten)
    obtain ⟨b, part', rfl⟩ := List.exists_cons_of_ne_nil hpart'
    have hcontinuation := (Utf8.decode_part hchar hpart hpart').2 b List.mem_cons_self
    exact absurd hafter.symm (Utf8.encode_ne_continuation hcontinuation)

/-- **Whole payloads without a deletion outside the basic plane are audited.** -/
theorem TypedStream.audited_of_whole {s : TypedStream} (hwhole : Utf8.WholeCharacters s.payloads)
    (hbasic : ErasesBasic s.text) : s.Audited := by
  obtain ⟨texts, hpayloads⟩ := hwhole
  have htext : texts.flatten = s.text :=
    Utf8.encode_injective (by rw [Utf8.encode_flatten, ← hpayloads, s.split])
  constructor
  · rw [hpayloads, auditPayloads_texts, htext, typeText_units hbasic]
  · intro first piece piece' rest before after hcut hsplit hbefore
    obtain ⟨texts', hfirst⟩ :=
      wholeCharacters_cut (hpayloads.symm.trans hcut) (htext.trans hsplit) hbefore
    have hbefore' : texts'.flatten = before :=
      Utf8.encode_injective (by rw [Utf8.encode_flatten, ← hfirst, hbefore])
    have hlist : first ++ [piece, Utf8.encode ['\r']] =
        (texts' ++ [['\r']]).map Utf8.encode := by
      rw [List.map_append, ← hfirst, List.append_assoc]
      rfl
    rw [hsplit] at hbasic
    rw [hlist, auditPayloads_texts, List.flatten_append, List.flatten_singleton, hbefore',
      typeText_units hbasic.of_append.submit]

/-! ## What goes wrong -/

theorem typeText_submit (buffer : JsString) :
    typeText buffer ['\r'] =
      ([], if trimUnits buffer = [] then [] else [trimUnits buffer]) := by
  rw [typeText, if_pos (Or.inl rfl)]
  simp only
  split
  next => rfl
  next => rfl

theorem editLine_submit (line : List Char) :
    editLine line ['\r'] =
      ([], if trim isJsWhitespace line = [] then [] else [trim isJsWhitespace line]) := by
  rw [editLine, if_pos (Or.inl rfl)]
  simp only
  split
  next => rfl
  next => rfl

/-- A command is recorded that the line editor does not submit. -/
theorem submitted_ne {before typed edited : List Char} (buffer : JsString) (line : List Char)
    (h : ErasesBasic before)
    (htyped : typeText (units (editLine [] before).1) typed = (buffer, []))
    (hedited : editLine (editLine [] before).1 edited = (line, []))
    (hne : trimUnits buffer ≠ []) (hcommand : trimUnits buffer ≠ trimUnits (units line)) :
    (typeText [] (before ++ typed ++ ['\r'])).2 ≠
      (editLine [] (before ++ edited ++ ['\r'])).2.map units := by
  rw [typeText_append, typeText_append, typeText_units h, editLine_append, editLine_append]
  simp only [htyped, hedited, typeText_submit, editLine_submit, List.append_nil, List.map_append,
    if_neg hne]
  intro heq
  have hlast := List.append_cancel_left heq
  split at hlast
  next => cases hlast
  next => exact hcommand ((List.cons.inj hlast).1.trans (trimUnits_units line).symm)

/-- A text does not end with a high surrogate. -/
theorem units_ne_concat_high {text : List Char} {front : JsString} {u : UInt16}
    (hu : 0xD800 ≤ u.toNat ∧ u.toNat < 0xDC00) : units text ≠ front ++ [u] := by
  intro h
  induction text using List.reverseRecOn with
  | nil => exact absurd h.symm (by simp [units])
  | append_singleton text c ih =>
      rw [units_append, units_singleton] at h
      by_cases hbasic : IsBasic c
      · rw [codeUnits_basic hbasic] at h
        obtain ⟨-, hunit⟩ := List.append_inj' h rfl
        have hvalid := Utf8.val_bounds c
        unfold IsBasic at hbasic
        rw [← (List.cons.inj hunit).1, UInt16.toNat_ofNat', Nat.mod_eq_of_lt (by omega)] at hu
        omega
      · obtain ⟨high, low, hunits, -, hlow⟩ := codeUnits_astral hbasic
        have hsplit : units text ++ [high, low] = (units text ++ [high]) ++ [low] := by
          rw [List.append_assoc]
          rfl
        rw [hunits, hsplit] at h
        obtain ⟨-, hunit⟩ := List.append_inj' h rfl
        rw [← (List.cons.inj hunit).1] at hu
        omega

/-- **Half a character stays** when one outside the basic plane is deleted. -/
theorem erase_astral {before : List Char} {erase c : Char} (h : ErasesBasic before)
    (herase : isErase erase = true) (hlast : (editLine [] before).1.getLast? = some c)
    (hastral : ¬ IsBasic c) :
    (typeText [] (before ++ [erase] ++ ['\r'])).2 ≠
      (editLine [] (before ++ [erase] ++ ['\r'])).2.map units := by
  have hnewline : ¬ (erase = '\r' ∨ erase = '\n') := by
    rintro (rfl | rfl)
    · exact absurd herase (by decide)
    · exact absurd herase (by decide)
  have hback : erase = Char.ofNat 0x08 ∨ erase = Char.ofNat 0x7F := by simpa [isErase] using herase
  obtain ⟨line, hline⟩ := List.getLast?_eq_some_iff.mp hlast
  obtain ⟨high, low, hunits, hhigh, -⟩ := codeUnits_astral hastral
  have hbuffer : (units (editLine [] before).1).dropLast = units line ++ [high] := by
    have hsplit : units line ++ [high, low] = (units line ++ [high]) ++ [low] := by
      rw [List.append_assoc]
      rfl
    rw [hline, units_append, units_singleton, hunits, hsplit, List.dropLast_concat]
  have htrim : trimUnits (units line ++ [high]) = (units line).dropWhile isBlankUnit ++ [high] :=
    trim_append (by simpa using isBlankUnit_surrogate (by omega)) (List.cons_ne_nil _ _)
  refine submitted_ne (units line ++ [high]) line h ?_ ?_ ?_ ?_
  · rw [typeText, if_neg hnewline, if_pos hback, hbuffer]
    rfl
  · rw [editLine, if_neg hnewline, if_pos herase, hline, List.dropLast_concat]
    rfl
  · simp [htrim]
  · rw [htrim, trimUnits_units]
    exact (units_ne_concat_high hhigh).symm

/-- What replaces a character is appended like any other. -/
theorem typeText_replacements (buffer : JsString) (n : ℕ) :
    typeText buffer (List.replicate n Utf8.replacement) =
      (buffer ++ List.replicate n 0xFFFD, []) := by
  induction n generalizing buffer with
  | zero => rw [List.replicate_zero, List.replicate_zero, List.append_nil, typeText]
  | succ n ih =>
      have hunits : codeUnits Utf8.replacement = [0xFFFD] := by decide
      rw [List.replicate_succ, typeText, if_neg (by decide), if_neg (by decide),
        if_pos (by decide), ih, hunits, List.append_assoc]
      rfl

theorem isBlankUnit_codeUnits {c : Char} (h : isJsWhitespace c = false) :
    ∀ u ∈ codeUnits c, isBlankUnit u = false := by
  by_cases hbasic : IsBasic c
  · rw [codeUnits_basic hbasic]
    simpa using (isBlankUnit_basic hbasic).trans h
  · obtain ⟨high, low, hunits, hhigh, hlow⟩ := codeUnits_astral hbasic
    rw [hunits]
    simpa using ⟨isBlankUnit_surrogate (by omega), isBlankUnit_surrogate (by omega)⟩

/-- No character has the code units of two or more replacements. -/
theorem codeUnits_ne_replacements (c : Char) {n : ℕ} (hn : 2 ≤ n) :
    codeUnits c ≠ List.replicate n 0xFFFD := by
  intro hsame
  by_cases hbasic : IsBasic c
  · have hlength := congrArg List.length hsame
    rw [codeUnits_basic hbasic, List.length_replicate, List.length_singleton] at hlength
    omega
  · obtain ⟨high, low, hunits, hhigh, -⟩ := codeUnits_astral hbasic
    have hmem : high ∈ List.replicate n (0xFFFD : UInt16) := by simp [← hsame, hunits]
    rw [(List.mem_replicate.mp hmem).2] at hhigh
    exact absurd hhigh (by decide)

/-- Replacements stay where they are, and the line is not empty. -/
theorem trim_replacements (buffer : JsString) {n : ℕ} (hn : 2 ≤ n) :
    trim isBlankUnit (buffer ++ List.replicate n 0xFFFD) =
      buffer.dropWhile isBlankUnit ++ List.replicate n 0xFFFD := by
  refine trim_append (fun u hu => ?_) ?_
  · rw [(List.mem_replicate.mp hu).2]
    decide
  · rw [ne_eq, List.replicate_eq_nil_iff]
    omega

/-- A line that ends in replacements is not one that ends in a character. -/
theorem trim_replacements_ne (buffer : JsString) (c : Char) {n : ℕ} (hn : 2 ≤ n) :
    trim isBlankUnit (buffer ++ List.replicate n 0xFFFD) ≠
      trim isBlankUnit (buffer ++ codeUnits c) := by
  rw [trim_replacements buffer hn]
  intro heq
  cases hblank : isJsWhitespace c with
  | true =>
      -- the line editor drops the character, and the replacements stay
      obtain ⟨u, hu, hunit⟩ := codeUnits_whitespace hblank
      rw [hu, trim_concat_sep hunit] at heq
      have hlength := congrArg List.length heq
      have hle : (trim isBlankUnit buffer).length ≤ (buffer.dropWhile isBlankUnit).length :=
        length_trim_le buffer
      rw [List.length_append, List.length_replicate] at hlength
      omega
  | false =>
      have hnonempty : codeUnits c ≠ [] := by
        obtain ⟨⟨u, rest, hu, -⟩, -⟩ := codeUnits_ends hblank
        simp [hu]
      rw [trim_append (isBlankUnit_codeUnits hblank) hnonempty] at heq
      exact codeUnits_ne_replacements c hn (List.append_cancel_left heq).symm

/-- **A character that is cut is recorded as another.** -/
theorem typeText_cut {before : List Char} {c : Char} {n : ℕ} (h : ErasesBasic before)
    (hc : 0x80 ≤ c.val.toNat) (hn : 2 ≤ n) :
    (typeText [] (before ++ List.replicate n Utf8.replacement ++ ['\r'])).2 ≠
      (editLine [] (before ++ [c] ++ ['\r'])).2.map units := by
  have hascii : ∀ d : Char, d.val.toNat < 0x80 → c ≠ d := by
    rintro d hd rfl
    omega
  have hnewline : ¬ (c = '\r' ∨ c = '\n') :=
    not_or.mpr ⟨hascii _ (by decide), hascii _ (by decide)⟩
  have hback : ¬ isErase c = true := by
    simp [isErase, hascii (Char.ofNat 0x08) (by decide), hascii (Char.ofNat 0x7F) (by decide)]
  have hprint : c = '\t' ∨ ' ' ≤ c := by
    refine Or.inr (UInt32.le_iff_toNat_le.mpr ?_)
    have hspace : (' ' : Char).val.toNat = 0x20 := rfl
    omega
  have hunits : units ((editLine [] before).1 ++ [c]) =
      units (editLine [] before).1 ++ codeUnits c := by
    rw [units_append, units_singleton]
  refine submitted_ne _ ((editLine [] before).1 ++ [c]) h (typeText_replacements _ n) ?_ ?_ ?_
  · rw [editLine, if_neg hnewline, if_neg hback, if_pos hprint]
    rfl
  · rw [trimUnits, ← trim, trim_replacements _ hn]
    intro hnil
    have := congrArg List.length hnil
    simp only [List.length_append, List.length_replicate, List.length_nil] at this
    omega
  · rw [hunits]
    exact trim_replacements_ne _ c hn

/-! ## When the commands are those of the line editor -/

/-- The beginning of whole texts, as a beginning of the payloads. -/
theorem exists_beginning {texts : List (List Char)} {last before after : List Char}
    (part : List UInt8) (rest : List (List UInt8))
    (h : texts.flatten ++ last = before ++ after) :
    ∃ texts' : List (List Char), ∃ piece piece' rest',
      texts.map Utf8.encode ++ (Utf8.encode last ++ part) :: rest =
        texts'.map Utf8.encode ++ (Utf8.encode piece ++ piece') :: rest' ∧
      texts'.flatten ++ piece = before := by
  have hcut : (texts ++ [last]).flatten = before ++ after := by
    rw [List.flatten_append, List.flatten_singleton, h]
  obtain ⟨front, piece, piece', back, htexts, hbefore, -⟩ :=
    Utf8.exists_cut hcut (by simp)
  refine ⟨front, piece, ?_⟩
  rcases List.eq_nil_or_concat back with rfl | ⟨back', last', rfl⟩
  · obtain ⟨rfl, hlast⟩ := List.append_inj' htexts rfl
    refine ⟨Utf8.encode piece' ++ part, rest, ?_, hbefore⟩
    rw [(List.cons.inj hlast).1, Utf8.encode_append, List.append_assoc]
  · rw [List.concat_eq_append, ← List.cons_append, ← List.append_assoc] at htexts
    obtain ⟨rfl, hlast⟩ := List.append_inj' htexts rfl
    obtain rfl := (List.cons.inj hlast).1
    refine ⟨Utf8.encode piece', back'.map Utf8.encode ++ (Utf8.encode last ++ part) :: rest, ?_,
      hbefore⟩
    rw [List.map_append, List.map_cons, Utf8.encode_append, List.append_assoc]
    rfl

/-- Up to the first cut, nothing outside the basic plane is deleted: it would be seen once its line
is submitted. -/
theorem TypedStream.Audited.erasesBasic {s : TypedStream} (h : s.Audited)
    {texts : List (List Char)} {last : List Char} {part : List UInt8} {rest : List (List UInt8)}
    {after : List Char}
    (hpayloads : s.payloads = texts.map Utf8.encode ++ (Utf8.encode last ++ part) :: rest)
    (htext : s.text = texts.flatten ++ last ++ after) {typed more : List Char}
    (htyped : texts.flatten ++ last = typed ++ more) : ErasesBasic typed := by
  induction typed using List.reverseRecOn generalizing more with
  | nil =>
      intro before erase after' hnil
      cases before with
      | nil => cases hnil
      | cons c before => cases hnil
  | append_singleton typed char ih =>
      have hmore : texts.flatten ++ last = typed ++ char :: more := by
        rw [htyped, List.append_assoc]
        rfl
      have ih : ErasesBasic typed := ih hmore
      refine ih.concat fun herase c hlast => ?_
      by_contra hastral
      obtain ⟨texts', piece, piece', rest', hcut, hbefore⟩ :=
        exists_beginning part rest htyped
      have hsubmitted := h.submitted (texts'.map Utf8.encode) (Utf8.encode piece) piece' rest'
        (typed ++ [char]) (more ++ after) (hpayloads.trans hcut)
        (by rw [htext, htyped, List.append_assoc])
        (by rw [List.flatten_append, List.flatten_singleton, ← Utf8.encode_flatten,
              ← Utf8.encode_append, hbefore])
      have hlist : texts'.map Utf8.encode ++ [Utf8.encode piece, Utf8.encode ['\r']] =
          (texts' ++ [piece, ['\r']]).map Utf8.encode := by
        rw [List.map_append]
        rfl
      have hflatten : (texts' ++ [piece, ['\r']]).flatten = typed ++ [char] ++ ['\r'] := by
        rw [← hbefore, List.flatten_append, List.append_assoc]
        rfl
      rw [hlist, auditPayloads_texts, hflatten] at hsubmitted
      exact erase_astral ih herase hlast hastral hsubmitted

/-- Each byte after a cut is decoded on its own. -/
theorem decode_pieces (pieces : List (List UInt8))
    (h : ∀ b ∈ pieces.flatten, Utf8.isContinuation b = true) :
    (pieces.map Utf8.decode).flatten =
      List.replicate pieces.flatten.length Utf8.replacement := by
  induction pieces with
  | nil => rfl
  | cons piece pieces ih =>
      rw [List.flatten_cons] at h
      rw [List.map_cons, List.flatten_cons,
        Utf8.decode_continuations fun b hb => h b (List.mem_append_left _ hb),
        ih fun b hb => h b (List.mem_append_right _ hb), List.flatten_cons,
        List.length_append, List.replicate_add]

/-- The payloads up to the end of a character that is cut. -/
theorem auditPayloads_cut (texts : List (List Char)) (before : List Char) {c : Char}
    {part part' : List UInt8} {front : List (List UInt8)} {piece : List UInt8}
    (hchar : String.utf8EncodeChar c = part ++ part') (hpart : part ≠ []) (hpart' : part' ≠ [])
    (hrest : front.flatten ++ piece = part') :
    ∃ n, 2 ≤ n ∧ auditPayloads []
        (texts.map Utf8.encode ++ (Utf8.encode before ++ part) :: front ++
          [piece, Utf8.encode ['\r']]) =
      typeText [] (texts.flatten ++ before ++ List.replicate n Utf8.replacement ++ ['\r']) := by
  obtain ⟨⟨k, hdecode⟩, hcontinuation⟩ := Utf8.decode_part hchar hpart hpart'
  have hflat : (front ++ [piece]).flatten = part' := by
    rw [List.flatten_append, List.flatten_singleton, hrest]
  have hafter := decode_pieces (front ++ [piece]) (by rw [hflat]; exact hcontinuation)
  rw [hflat] at hafter
  refine ⟨k + 1 + part'.length, ?_, ?_⟩
  · have := List.length_pos_of_ne_nil hpart'
    omega
  · have hlist : texts.map Utf8.encode ++ (Utf8.encode before ++ part) :: front ++
          [piece, Utf8.encode ['\r']] =
        texts.map Utf8.encode ++ [Utf8.encode before ++ part] ++ (front ++ [piece]) ++
          [Utf8.encode ['\r']] := by
      simp only [List.append_assoc, List.cons_append, List.nil_append]
    rw [auditPayloads_eq, hlist]
    simp only [List.map_append, List.flatten_append, Utf8.map_decode_encode] at hafter ⊢
    rw [List.append_assoc texts.flatten, hafter, List.replicate_add]
    simp only [List.map_cons, List.map_nil, List.flatten_singleton, Utf8.decode_encode_append,
      hdecode, Utf8.decode_encode, List.append_assoc]

/-- **The audit records the commands of the line editor exactly if every payload ends between two
characters and nothing outside the basic plane is deleted.** -/
theorem audited_iff (s : TypedStream) :
    s.Audited ↔ Utf8.WholeCharacters s.payloads ∧ ErasesBasic s.text := by
  refine ⟨fun h => ?_, fun h => TypedStream.audited_of_whole h.1 h.2⟩
  rcases Utf8.wholeCharacters_or_cut s.split with ⟨texts, hpayloads⟩ |
    ⟨texts, before, c, after, part, part', rest, hpayloads, htext, hchar, hpart, hpart', hrest⟩
  · refine ⟨⟨texts, hpayloads⟩, ?_⟩
    have htext : texts.flatten = s.text :=
      Utf8.encode_injective (by rw [Utf8.encode_flatten, ← hpayloads, s.split])
    rcases List.eq_nil_or_concat texts with rfl | ⟨texts, last, rfl⟩
    · rw [← htext]
      intro before erase after hnil
      cases before with
      | nil => cases hnil
      | cons c before => cases hnil
    · rw [List.concat_eq_append, List.flatten_append, List.flatten_singleton] at htext
      have hlast : s.payloads = texts.map Utf8.encode ++ (Utf8.encode last ++ []) :: [] := by
        rw [hpayloads, List.concat_eq_append, List.map_append, List.append_nil]
        rfl
      have hall : s.text = texts.flatten ++ last ++ [] := by rw [← htext, List.append_nil]
      exact h.erasesBasic hlast hall (htext.trans (List.append_nil _).symm)
  · exfalso
    have herases : ErasesBasic (texts.flatten ++ before) :=
      h.erasesBasic hpayloads htext (List.append_nil _).symm
    have hrestNe : rest ≠ [] := by
      rintro rfl
      exact hpart' (List.append_eq_nil_iff.mp hrest.symm).1
    obtain ⟨front, piece, piece', back, rfl, hfront, -⟩ := Utf8.exists_cut hrest hrestNe
    obtain ⟨n, hn, htyped⟩ := auditPayloads_cut texts before hchar hpart hpart' hfront
    have hsubmitted := h.submitted
      (texts.map Utf8.encode ++ (Utf8.encode before ++ part) :: front) piece piece' back
      (texts.flatten ++ before ++ [c]) after
      (by rw [hpayloads, List.append_assoc]; rfl)
      (by rw [htext]; simp only [List.append_assoc, List.cons_append, List.nil_append])
      (by
        rw [Utf8.encode_append, Utf8.encode_append, Utf8.encode_flatten]
        have hcharBytes : Utf8.encode [c] = part ++ part' := by
          rw [Utf8.encode_cons, hchar]
          exact List.append_nil _
        rw [hcharBytes, ← hfront]
        simp only [List.flatten_append, List.flatten_cons, List.flatten_nil, List.append_nil,
          List.append_assoc])
    rw [htyped] at hsubmitted
    exact typeText_cut herases (Utf8.val_of_cut hchar hpart hpart') hn hsubmitted

/-- A letter of two bytes that arrives in two payloads. -/
def cutStream : TypedStream where
  text := ['é', '\r']
  payloads := [[0xC3], [0xA9, 0x0D]]
  split := by decide

/-- A character of two code units that is deleted. -/
def erasedStream : TypedStream where
  text := ['😀', Char.ofNat 0x7F, '\r']
  payloads := [[0xF0, 0x9F, 0x98, 0x80], [0x7F], [0x0D]]
  split := by decide

/-- **Two replacements and half a character are recorded.** -/
theorem audit_not_edited :
    ((auditPayloads [] cutStream.payloads).2 = [[0xFFFD, 0xFFFD]] ∧
      (editLine [] cutStream.text).2 = [['é']] ∧ ¬ cutStream.Audited) ∧
    (auditPayloads [] erasedStream.payloads).2 = [[0xD83D]] ∧
      (editLine [] erasedStream.text).2 = [] ∧ ¬ erasedStream.Audited := by
  have hcut : (auditPayloads [] cutStream.payloads).2 = [[0xFFFD, 0xFFFD]] := by decide
  have hedited : (editLine [] cutStream.text).2 = [['é']] := by decide
  have herased : (auditPayloads [] erasedStream.payloads).2 = [[0xD83D]] := by decide
  have hempty : (editLine [] erasedStream.text).2 = [] := by decide
  refine ⟨⟨hcut, hedited, fun h => ?_⟩, herased, hempty, fun h => ?_⟩
  · have hstream := h.stream
    rw [hcut, hedited] at hstream
    exact absurd hstream (by decide)
  · have hstream := h.stream
    rw [herased, hempty] at hstream
    cases hstream

end TerminalSessionsService
