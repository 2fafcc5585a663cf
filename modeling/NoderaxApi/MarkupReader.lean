/-
# Reading markup

How a reader of markup cuts a text into tags and the characters between them.  A template is such a
text with holes, some for text and some for the values of attributes; the reader takes a hole as
one symbol.

* `run_rename` — the reader does not look into the holes;
* `run_fill` — where what is written for a hole reads as what the hole stands for, the filled
  template reads as the template with its holes filled;
* `read_template` — whatever its holes are filled with, a template whose own tags are of a
  vocabulary has no others, and shows what its holes stand for.

The reader gives up on what is not modelled: names in capitals, attributes without a value or
without double quotes, other character references than the five below, and elements whose content
is no markup.
-/
import Mathlib.Data.List.Basic
import Mathlib.Data.List.Infix
import Mathlib.Data.Option.Basic
import Mathlib.Tactic.Common

namespace Markup

/-! ## What is read -/

/-- A character of a template, or a hole. -/
inductive Symbol (H : Type)
  | char (c : Char)
  | textHole (h : H)
  | valueHole (h : H)

/-- A character of what is read, or a hole. -/
abbrev Content (H : Type) := Char ⊕ H

/-- A start tag. -/
structure Tag (H : Type) where
  name : List Char
  attributes : List (List Char × List (Content H)) := []

/-- What is read: between the tags each character is a token. -/
inductive Token (H : Type)
  | text (content : Content H)
  | startTag (tag : Tag H) (selfClosing : Bool)
  | endTag (name : List Char)
  | declaration (text : List Char)

/-! ## The reader -/

/-- Where a character stands for itself: between the tags, or in the value of an attribute. -/
inductive Place (H : Type)
  | data
  | value (tag : Tag H) (key : List Char) (value : List (Content H))

/-- Between two characters. -/
inductive Mode (H : Type)
  | inside (place : Place H)
  | reference (place : Place H) (name : List Char)
  | tagOpen
  | tagName (name : List Char)
  | endTagName (name : List Char)
  | declaration (text : List Char)
  | inTag (tag : Tag H)
  | attributeName (tag : Tag H) (name : List Char)
  | beforeValue (tag : Tag H) (name : List Char)
  | afterValue (tag : Tag H)
  | selfClosing (tag : Tag H)

/-- The mode after a symbol, and the tokens that end there. -/
abbrev Reading (H : Type) := Mode H × List (Token H)

variable {H H' : Type}

/-- The character references that are read. -/
def reference? (name : List Char) : Option Char :=
  if name = ['a', 'm', 'p'] then some '&'
  else if name = ['l', 't'] then some '<'
  else if name = ['g', 't'] then some '>'
  else if name = ['q', 'u', 'o', 't'] then some '"'
  else if name = ['#', '3', '9'] then some '\''
  else none

/-- The elements whose content is no markup. -/
def rawTextElements : List (List Char) :=
  ["script", "style", "title", "textarea", "xmp", "iframe", "noembed", "noframes", "noscript",
    "plaintext"].map (·.toList)

def isBlank (c : Char) : Bool := c = ' ' || c = '\n'

def isNameChar (c : Char) : Bool := c.isLower || c.isDigit || c = '-'

/-- A character in its place. -/
def put : Place H → Content H → Reading H
  | .data, content => (.inside .data, [.text content])
  | .value tag key value, content =>
      (.inside (.value tag key (value ++ [content])), [])

/-- The end of a start tag. -/
def endStartTag (tag : Tag H) (selfClosing : Bool) : Option (Reading H) :=
  if rawTextElements.contains tag.name then none
  else some (.inside .data, [.startTag tag selfClosing])

/-- Outside the names and values of a tag. -/
def readInTag (tag : Tag H) (c : Char) : Option (Reading H) :=
  if isBlank c then some (.inTag tag, [])
  else if c = '>' then endStartTag tag false
  else if c = '/' then some (.selfClosing tag, [])
  else none

/-- A character. -/
def readChar : Mode H → Char → Option (Reading H)
  | .inside .data, c =>
      if c = '<' then some (.tagOpen, [])
      else if c = '&' then some (.reference .data [], [])
      else some (put .data (.inl c))
  | .inside (.value tag key value), c =>
      if c = '"' then
        some (.afterValue { tag with attributes := tag.attributes ++ [(key, value)] }, [])
      else if c = '&' then some (.reference (.value tag key value) [], [])
      else some (put (.value tag key value) (.inl c))
  | .reference place name, c =>
      if c = ';' then (reference? name).map fun c => put place (.inl c)
      else some (.reference place (name ++ [c]), [])
  | .tagOpen, c =>
      if c = '/' then some (.endTagName [], [])
      else if c = '!' then some (.declaration [], [])
      else if c.isLower then some (.tagName [c], [])
      else none
  | .tagName name, c =>
      if isNameChar c then some (.tagName (name ++ [c]), []) else readInTag { name } c
  | .endTagName name, c =>
      if isNameChar c then some (.endTagName (name ++ [c]), [])
      else if c = '>' then some (.inside .data, [.endTag name])
      else none
  | .declaration text, c =>
      if c = '>' then some (.inside .data, [.declaration text])
      else some (.declaration (text ++ [c]), [])
  | .inTag tag, c =>
      if c.isLower then some (.attributeName tag [c], []) else readInTag tag c
  | .attributeName tag name, c =>
      if isNameChar c then some (.attributeName tag (name ++ [c]), [])
      else if c = '=' then some (.beforeValue tag name, [])
      else none
  | .beforeValue tag name, c =>
      if c = '"' then some (.inside (.value tag name []), []) else none
  | .afterValue tag, c => readInTag tag c
  | .selfClosing tag, c => if c = '>' then endStartTag tag true else none

/-- A symbol: a hole stands in a place of its kind. -/
def step : Mode H → Symbol H → Option (Reading H)
  | mode, .char c => readChar mode c
  | .inside .data, .textHole h => some (put .data (.inr h))
  | .inside (.value tag key value), .valueHole h =>
      some (put (.value tag key value) (.inr h))
  | _, _ => none

/-- The symbols of a text, from a mode. -/
def run : Mode H → List (Symbol H) → Option (Reading H)
  | mode, [] => some (mode, [])
  | mode, symbol :: symbols =>
      (step mode symbol).bind fun first =>
        (run first.1 symbols).map fun rest => (rest.1, first.2 ++ rest.2)

/-- The tokens of a text, which ends between the tags. -/
def read (symbols : List (Symbol H)) : Option (List (Token H)) :=
  match run (.inside .data) symbols with
  | some (.inside .data, tokens) => some tokens
  | _ => none

/-- A text without holes. -/
def plain (text : List Char) : List (Symbol H) := text.map .char

theorem run_cons (mode : Mode H) (symbol : Symbol H) (symbols : List (Symbol H)) :
    run mode (symbol :: symbols) = (step mode symbol).bind fun first =>
      (run first.1 symbols).map fun rest => (rest.1, first.2 ++ rest.2) := rfl

/-- **A text is read piece by piece.** -/
theorem run_append (mode : Mode H) (symbols symbols' : List (Symbol H)) :
    run mode (symbols ++ symbols') = (run mode symbols).bind fun first =>
      (run first.1 symbols').map fun rest => (rest.1, first.2 ++ rest.2) := by
  induction symbols generalizing mode with
  | nil =>
      rw [List.nil_append, run, Option.bind_some]
      cases run mode symbols' with
      | none => rfl
      | some rest => rfl
  | cons symbol symbols ih =>
      rw [List.cons_append, run_cons, run_cons]
      cases step mode symbol with
      | none => rfl
      | some first =>
          rw [Option.bind_some, Option.bind_some, ih]
          cases run first.1 symbols with
          | none => rfl
          | some second =>
              rw [Option.bind_some, Option.map_some, Option.bind_some]
              cases run second.1 symbols' with
              | none => rfl
              | some rest => simp only [Option.map_some, List.append_assoc]

/-! ## Filling the holes -/

/-- What the holes of a text stand for. -/
structure Filling (H H' : Type) where
  text : H → List (Token H')
  value : H → List (Content H')

namespace Filling

variable (σ : Filling H H')

def content : Content H → List (Content H')
  | .inl c => [.inl c]
  | .inr h => σ.value h

def tag (t : Tag H) : Tag H' where
  name := t.name
  attributes := t.attributes.map fun entry => (entry.1, entry.2.flatMap σ.content)

def token : Token H → List (Token H')
  | .text (.inl c) => [.text (.inl c)]
  | .text (.inr h) => σ.text h
  | .startTag t selfClosing => [.startTag (σ.tag t) selfClosing]
  | .endTag name => [.endTag name]
  | .declaration words => [.declaration words]

def place : Place H → Place H'
  | .data => .data
  | .value t key written => .value (σ.tag t) key (written.flatMap σ.content)

def mode : Mode H → Mode H'
  | .inside p => .inside (σ.place p)
  | .reference p name => .reference (σ.place p) name
  | .tagOpen => .tagOpen
  | .tagName name => .tagName name
  | .endTagName name => .endTagName name
  | .declaration words => .declaration words
  | .inTag t => .inTag (σ.tag t)
  | .attributeName t name => .attributeName (σ.tag t) name
  | .beforeValue t name => .beforeValue (σ.tag t) name
  | .afterValue t => .afterValue (σ.tag t)
  | .selfClosing t => .selfClosing (σ.tag t)

def reading (r : Reading H) : Reading H' := (σ.mode r.1, r.2.flatMap σ.token)

theorem put_char (p : Place H) (c : Char) :
    put (σ.place p) (.inl c) = σ.reading (put p (.inl c)) := by
  cases p with
  | data => rfl
  | value t key written =>
      simp only [put, place, reading, mode, List.flatMap_append, List.flatMap_cons,
        List.flatMap_nil, List.append_nil, content]

theorem endStartTag_tag (t : Tag H) (selfClosing : Bool) :
    endStartTag (σ.tag t) selfClosing = (endStartTag t selfClosing).map σ.reading := by
  unfold endStartTag
  split
  next h => rw [if_pos (show rawTextElements.contains t.name = true from h)]; rfl
  next h => rw [if_neg (show ¬rawTextElements.contains t.name = true from h)]; rfl

theorem readInTag_tag (t : Tag H) (c : Char) :
    readInTag (σ.tag t) c = (readInTag t c).map σ.reading := by
  unfold readInTag
  split
  · rfl
  · split
    · exact σ.endStartTag_tag t false
    · split <;> rfl

/-- **A character is read alike with the holes filled.** -/
theorem readChar_mode (m : Mode H) (c : Char) :
    readChar (σ.mode m) c = (readChar m c).map σ.reading := by
  cases m with
  | inside p =>
      cases p with
      | data =>
          simp only [mode, place, readChar]
          split
          · rfl
          · split <;> rfl
      | value t key written =>
          simp only [mode, place, readChar]
          split
          · simp only [Option.map_some, reading, mode, tag, List.map_append, List.map_cons,
              List.map_nil, List.flatMap_nil]
          · split
            · rfl
            · exact congrArg some (σ.put_char (.value t key written) c)
  | reference p name =>
      simp only [mode, readChar]
      split
      · cases reference? name with
        | none => rfl
        | some c => exact congrArg some (σ.put_char p c)
      · rfl
  | tagOpen =>
      simp only [mode, readChar]
      split
      · rfl
      · split
        · rfl
        · split <;> rfl
  | tagName name =>
      simp only [mode, readChar]
      split
      · rfl
      · exact σ.readInTag_tag { name } c
  | endTagName name =>
      simp only [mode, readChar]
      split
      · rfl
      · split <;> rfl
  | declaration words =>
      simp only [mode, readChar]
      split <;> rfl
  | inTag t =>
      simp only [mode, readChar]
      split
      · rfl
      · exact σ.readInTag_tag t c
  | attributeName t name =>
      simp only [mode, readChar]
      split
      · rfl
      · split <;> rfl
  | beforeValue t name =>
      simp only [mode, readChar]
      split <;> rfl
  | afterValue t => exact σ.readInTag_tag t c
  | selfClosing t =>
      simp only [mode, readChar]
      split
      · exact σ.endStartTag_tag t true
      · rfl

/-- Other names for the holes. -/
def rename (f : H → H') : Filling H H' where
  text h := [.text (.inr (f h))]
  value h := [.inr (f h)]

end Filling

/-- The symbol with another name for its hole. -/
def Symbol.rename (f : H → H') : Symbol H → Symbol H'
  | .char c => .char c
  | .textHole h => .textHole (f h)
  | .valueHole h => .valueHole (f h)

theorem step_rename (f : H → H') (m : Mode H) (symbol : Symbol H) :
    step ((Filling.rename f).mode m) (symbol.rename f)
      = (step m symbol).map (Filling.rename f).reading := by
  cases symbol with
  | char c => exact (Filling.rename f).readChar_mode m c
  | textHole h =>
      cases m with
      | inside p => cases p <;> rfl
      | _ => rfl
  | valueHole h =>
      cases m with
      | inside p =>
          cases p with
          | data => rfl
          | value t key written =>
              simp only [step, Filling.mode, Filling.place, Symbol.rename, put, Option.map_some,
                Filling.reading, List.flatMap_append, List.flatMap_cons, List.flatMap_nil,
                Filling.content, Filling.rename, List.append_nil]
      | _ => rfl

/-- **The reader does not look into the holes.** -/
theorem run_rename (f : H → H') (m : Mode H) (symbols : List (Symbol H)) :
    run ((Filling.rename f).mode m) (symbols.map (Symbol.rename f))
      = (run m symbols).map (Filling.rename f).reading := by
  induction symbols generalizing m with
  | nil => rfl
  | cons symbol symbols ih =>
      rw [List.map_cons, run_cons, run_cons, step_rename]
      cases step m symbol with
      | none => rfl
      | some first =>
          rw [Option.map_some, Option.bind_some, Option.bind_some]
          unfold Filling.reading at ih ⊢
          rw [ih]
          cases run first.1 symbols with
          | none => rfl
          | some rest => simp only [Option.map_some, List.flatMap_append]

/-- What a hole is meant for: text between the tags, the value of an attribute, or such a value that
is an address. -/
inductive Use
  | text
  | value
  | address
  deriving DecidableEq

/-- A hole stands where it is meant to. -/
def Symbol.Fits (use : H → Use) : Symbol H → Prop
  | .char _ => True
  | .textHole h => use h = .text
  | .valueHole h => use h ≠ .text

/-- What is written for the holes. -/
structure Writing (H H' : Type) where
  text : H → List (Symbol H')
  value : H → List (Symbol H')

/-- A text with its holes written out. -/
def Writing.symbol (written : Writing H H') : Symbol H → List (Symbol H')
  | .char c => [.char c]
  | .textHole h => written.text h
  | .valueHole h => written.value h

/-- What is written for a hole reads as what the hole stands for. -/
structure Writing.Reads (written : Writing H H') (σ : Filling H H') (use : H → Use) : Prop where
  text : ∀ h, use h = .text →
    run (.inside .data) (written.text h) = some (.inside .data, σ.text h)
  value : ∀ h, use h ≠ .text → ∀ t key before,
    run (.inside (.value t key before)) (written.value h)
      = some (.inside (.value t key (before ++ σ.value h)), [])

section Fill

variable {written : Writing H H'} {σ : Filling H H'} {use : H → Use}

theorem run_symbol (hreads : written.Reads σ use) {symbol : Symbol H} (hfits : symbol.Fits use)
    {m : Mode H} {r : Reading H} (hstep : step m symbol = some r) :
    run (σ.mode m) (written.symbol symbol) = some (σ.reading r) := by
  cases symbol with
  | char c =>
      have hchar : step (σ.mode m) (.char c) = some (σ.reading r) := by
        rw [show step (σ.mode m) (.char c) = readChar (σ.mode m) c from rfl, σ.readChar_mode,
          show readChar m c = some r from hstep]
        rfl
      rw [Writing.symbol, run_cons, hchar]
      simp only [run, Option.bind_some, Option.map_some, List.append_nil]
  | textHole h =>
      cases m with
      | inside p =>
          cases p with
          | data =>
              obtain rfl := Option.some.inj hstep
              rw [Writing.symbol, show σ.mode (.inside .data) = .inside .data from rfl,
                hreads.text h hfits]
              simp only [put, Filling.reading, Filling.mode, Filling.place, List.flatMap_cons,
                List.flatMap_nil, Filling.token, List.append_nil]
          | value t key before => cases hstep
      | _ => cases hstep
  | valueHole h =>
      cases m with
      | inside p =>
          cases p with
          | data => cases hstep
          | value t key before =>
              obtain rfl := Option.some.inj hstep
              rw [Writing.symbol, Filling.mode, Filling.place, hreads.value h hfits]
              simp only [put, Filling.reading, Filling.mode, Filling.place, List.flatMap_append,
                List.flatMap_cons, List.flatMap_nil, Filling.content, List.append_nil]
      | _ => cases hstep

/-- **A filled template reads as the template with its holes filled.** -/
theorem run_fill (hreads : written.Reads σ use) {symbols : List (Symbol H)}
    (hfits : ∀ symbol ∈ symbols, symbol.Fits use) {m : Mode H} {r : Reading H}
    (hrun : run m symbols = some r) :
    run (σ.mode m) (symbols.flatMap written.symbol) = some (σ.reading r) := by
  induction symbols generalizing m r with
  | nil =>
      obtain rfl := Option.some.inj hrun
      rfl
  | cons symbol symbols ih =>
      rw [run_cons] at hrun
      obtain ⟨first, hfirst, hrun⟩ := Option.bind_eq_some_iff.mp hrun
      obtain ⟨rest, hrest, rfl⟩ := Option.map_eq_some_iff.mp hrun
      rw [List.flatMap_cons, run_append, run_symbol hreads (hfits symbol (.head _)) hfirst,
        Option.bind_some, show (σ.reading first).1 = σ.mode first.1 from rfl,
        ih (fun s hs => hfits s (.tail _ hs)) hrest]
      simp only [Option.map_some, Filling.reading, List.flatMap_append]

end Fill

/-- The text of a hole is read as a token. -/
theorem textHole_mem_tokens {h : H} {symbols : List (Symbol H)} (hmem : .textHole h ∈ symbols)
    {m : Mode H} {r : Reading H} (hrun : run m symbols = some r) : .text (.inr h) ∈ r.2 := by
  induction symbols generalizing m r with
  | nil => cases hmem
  | cons symbol symbols ih =>
      rw [run_cons] at hrun
      obtain ⟨first, hfirst, hrun⟩ := Option.bind_eq_some_iff.mp hrun
      obtain ⟨rest, hrest, rfl⟩ := Option.map_eq_some_iff.mp hrun
      cases hmem with
      | tail _ hmem => exact List.mem_append_right _ (ih hmem hrest)
      | head =>
          cases m with
          | inside p =>
              cases p with
              | data =>
                  obtain rfl := Option.some.inj hfirst
                  exact List.mem_append_left _ (.head _)
              | value t key before => cases hfirst
          | _ => cases hfirst

/-! ## What is written for characters -/

/-- The characters of a text as tokens. -/
def textTokens (text : List Char) : List (Token H) := text.flatMap fun c => [.text (.inl c)]

theorem run_plain_append (m : Mode H) (text text' : List Char) :
    run m (plain (text ++ text')) = (run m (plain text)).bind fun first =>
      (run first.1 (plain text')).map fun rest => (rest.1, first.2 ++ rest.2) := by
  rw [plain, List.map_append]
  exact run_append m (plain text) (plain text')

theorem run_char {m : Mode H} {c : Char} {r : Reading H} (h : readChar m c = some r) :
    run m (plain [c]) = some r := by
  rw [plain, List.map_cons, List.map_nil, run_cons,
    show step m (.char c) = some r from h]
  simp only [run, Option.bind_some, Option.map_some, List.append_nil]

/-- A character that stands for itself in a place. -/
def Place.IsPlain : Place H → Char → Prop
  | .data, c => c ≠ '<' ∧ c ≠ '&'
  | .value .., c => c ≠ '"' ∧ c ≠ '&'

/-- What a character may be written as in a place: as itself, or as a character reference. -/
inductive Spelling (p : Place H) (c : Char) : List Char → Prop
  | itself (h : p.IsPlain c) : Spelling p c [c]
  | reference {name : List Char} (hname : reference? name = some c) (hend : ';' ∉ name) :
      Spelling p c ('&' :: (name ++ [';']))

/-- The end of a character reference. -/
theorem run_reference (p : Place H) (before : List Char) {name : List Char} (hend : ';' ∉ name) :
    run (.reference p before) (plain (name ++ [';']))
      = (reference? (before ++ name)).map fun c => put p (.inl c) := by
  induction name generalizing before with
  | nil =>
      rw [List.append_nil, List.nil_append]
      cases h : reference? before with
      | none =>
          rw [plain, List.map_cons, run_cons]
          simp only [step, readChar, if_pos, h, Option.map_none, Option.bind_none]
      | some c =>
          refine run_char ?_
          simp only [readChar, if_pos, h, Option.map_some]
  | cons c name ih =>
      have hc : c ≠ ';' := fun h => hend (List.mem_cons.mpr (.inl h.symm))
      have hstep : step (.reference p before) (.char c)
          = some (.reference p (before ++ [c]), []) := if_neg hc
      rw [List.cons_append, plain, List.map_cons, run_cons, hstep, Option.bind_some,
        ← plain, ih (before ++ [c]) fun h => hend (.tail _ h), List.append_assoc,
        List.singleton_append]
      cases reference? (before ++ c :: name) with
      | none => rfl
      | some d => rfl

/-- **A character is read as what it is written for.** -/
theorem run_spelling {p : Place H} {c : Char} {text : List Char} (h : Spelling p c text) :
    run (.inside p) (plain text) = some (put p (.inl c)) := by
  cases h with
  | itself h =>
      apply run_char
      cases p with
      | data => rw [readChar, if_neg h.1, if_neg h.2]
      | value t key before => rw [readChar, if_neg h.1, if_neg h.2]
  | reference hname hend =>
      have hstep : step (.inside p) (.char '&') = some (.reference p [], []) := by
        cases p <;> rfl
      rw [plain, List.map_cons, run_cons, hstep, Option.bind_some, ← plain,
        run_reference p [] hend, List.nil_append, hname]
      rfl

/-- Between the tags, a text is read character by character. -/
theorem run_text {escape : Char → List Char} {shown : Char → List (Token H)} (text : List Char)
    (hescape : ∀ c ∈ text,
      run (.inside .data) (plain (escape c)) = some ((.inside .data : Mode H), shown c)) :
    run (.inside .data) (plain (text.flatMap escape))
      = some ((.inside .data : Mode H), text.flatMap shown) := by
  induction text with
  | nil => rfl
  | cons c text ih =>
      rw [List.flatMap_cons, run_plain_append, hescape c (.head _), Option.bind_some,
        ih fun d hd => hescape d (.tail _ hd)]
      rfl

/-- **A text between the tags.** -/
theorem run_spelled_text {escape : Char → List Char} {text : List Char}
    (hescape : ∀ c ∈ text, Spelling (.data : Place H) c (escape c)) :
    run (.inside .data) (plain (text.flatMap escape))
      = some ((.inside .data : Mode H), textTokens text) :=
  run_text text fun c hc => run_spelling (hescape c hc)

/-- **A text in the value of an attribute.** -/
theorem run_spelled_value {escape : Char → List Char} {text : List Char} {t : Tag H}
    {key : List Char}
    (hescape : ∀ c ∈ text, ∀ before, Spelling (.value t key before) c (escape c))
    (before : List (Content H)) :
    run (.inside (.value t key before)) (plain (text.flatMap escape))
      = some (.inside (.value t key (before ++ text.map .inl)), []) := by
  induction text generalizing before with
  | nil =>
      rw [List.map_nil, List.append_nil]
      rfl
  | cons c text ih =>
      rw [List.flatMap_cons, run_plain_append, run_spelling (hescape c (.head _) before),
        Option.bind_some, put, ih fun d hd => hescape d (.tail _ hd)]
      simp only [Option.map_some, List.map_cons, List.append_assoc, List.cons_append,
        List.nil_append]

/-! ## Templates -/

/-- A part of a template. -/
inductive Piece (H : Type)
  | markup (text : String)
  | text (h : H)
  | value (h : H)

def Piece.symbols : Piece H → List (Symbol H)
  | .markup words => plain words.toList
  | .text h => [.textHole h]
  | .value h => [.valueHole h]

/-- The text of a template. -/
def symbols (pieces : List (Piece H)) : List (Symbol H) := pieces.flatMap Piece.symbols

def Piece.rename (f : H → H') : Piece H → Piece H'
  | .markup words => .markup words
  | .text h => .text (f h)
  | .value h => .value (f h)

theorem symbols_append (pieces pieces' : List (Piece H)) :
    symbols (pieces ++ pieces') = symbols pieces ++ symbols pieces' := List.flatMap_append

theorem symbols_rename (f : H → H') (pieces : List (Piece H)) :
    symbols (pieces.map (Piece.rename f)) = (symbols pieces).map (Symbol.rename f) := by
  induction pieces with
  | nil => rfl
  | cons piece pieces ih =>
      have hpiece : (piece.rename f).symbols = piece.symbols.map (Symbol.rename f) := by
        cases piece with
        | markup words =>
            rw [Piece.rename, Piece.symbols, Piece.symbols, plain, plain, List.map_map]
            rfl
        | text h => rfl
        | value h => rfl
      unfold symbols at ih ⊢
      rw [List.map_cons, List.flatMap_cons, List.flatMap_cons, List.map_append, hpiece, ih]

/-- A template, filled with texts. -/
def write (words : H → String) (pieces : List (Piece H)) : String :=
  String.join (pieces.map fun
    | .markup text => text
    | .text h => words h
    | .value h => words h)

/-- The texts as they are written for the holes. -/
def Writing.ofWords (words : H → String) : Writing H H' where
  text h := plain (words h).toList
  value h := plain (words h).toList

theorem plain_write (words : H → String) (pieces : List (Piece H)) :
    (plain (write words pieces).toList : List (Symbol H'))
      = (symbols pieces).flatMap (Writing.ofWords words).symbol := by
  induction pieces with
  | nil => rfl
  | cons piece pieces ih =>
      unfold write symbols plain at ih ⊢
      rw [List.map_cons, String.join_cons, String.toList_append, List.map_append, ih,
        List.flatMap_cons, List.flatMap_append]
      cases piece with
      | markup text => rw [Piece.symbols, plain, List.flatMap_map, List.map_eq_flatMap]; rfl
      | text h => rw [Piece.symbols, List.flatMap_singleton]; rfl
      | value h => rw [Piece.symbols, List.flatMap_singleton]; rfl

/-- A template with the characters of its texts. -/
inductive Spells : List (Piece H) → List (Symbol H) → Prop
  | nil : Spells [] []
  | markup {words : List Char} {pieces : List (Piece H)} {rest : List (Symbol H)}
      (hrest : Spells pieces rest) :
      Spells (.markup (String.ofList words) :: pieces) (plain words ++ rest)
  | text {h : H} {pieces : List (Piece H)} {rest : List (Symbol H)}
      (hrest : Spells pieces rest) : Spells (.text h :: pieces) (.textHole h :: rest)
  | value {h : H} {pieces : List (Piece H)} {rest : List (Symbol H)}
      (hrest : Spells pieces rest) : Spells (.value h :: pieces) (.valueHole h :: rest)

theorem Spells.eq_symbols {pieces : List (Piece H)} {spelled : List (Symbol H)}
    (h : Spells pieces spelled) : spelled = symbols pieces := by
  induction h with
  | nil => rfl
  | markup h ih =>
      rw [ih, symbols, symbols, List.flatMap_cons, Piece.symbols, String.toList_ofList]
  | text h ih => rw [ih]; rfl
  | value h ih => rw [ih]; rfl

/-- The tags that a template may have: its elements, the attributes with values of its own, and
those whose value is an address. -/
structure Vocabulary where
  declarations : List String := []
  elements : List String
  attributes : List String := []
  urls : List String

namespace Vocabulary

variable (v : Vocabulary)

/-- A token of the vocabulary; `url` holds for the values of its addresses. -/
def Admits (url : List (Content H) → Prop) : Token H → Prop
  | .text _ => True
  | .startTag t _ => String.ofList t.name ∈ v.elements ∧ ∀ entry ∈ t.attributes,
      String.ofList entry.1 ∈ v.attributes ∨ String.ofList entry.1 ∈ v.urls ∧ url entry.2
  | .endTag name => String.ofList name ∈ v.elements
  | .declaration words => String.ofList words ∈ v.declarations

theorem Admits.imp {v : Vocabulary} {url url' : List (Content H) → Prop} {token : Token H}
    (himp : ∀ value, url value → url' value) (h : v.Admits url token) : v.Admits url' token := by
  cases token with
  | startTag t selfClosing =>
      exact ⟨h.1, fun entry hentry => (h.2 entry hentry).imp_right (And.imp_right (himp _))⟩
  | _ => exact h

def isWord (words : List String) (name : List Char) : Bool := (words.map (·.toList)).contains name

theorem isWord_iff {words : List String} {name : List Char} :
    isWord words name = true ↔ String.ofList name ∈ words := by
  rw [isWord, List.contains_iff_mem, List.mem_map]
  constructor
  · rintro ⟨word, hword, rfl⟩
    rwa [String.ofList_toList]
  · exact fun h => ⟨_, h, String.toList_ofList⟩

/-- The value is an address. -/
def isAddress : List (Content Use) → Bool
  | [.inr use] => use = .address
  | _ => false

/-- A token of a template of which only the uses of the holes are known. -/
def admits : Token Use → Bool
  | .text _ => true
  | .startTag t _ => isWord v.elements t.name && t.attributes.all fun entry =>
      isWord v.attributes entry.1 || isWord v.urls entry.1 && isAddress entry.2
  | .endTag name => isWord v.elements name
  | .declaration words => isWord v.declarations words

def fits : Symbol Use → Bool
  | .char _ => true
  | .textHole use => use = .text
  | .valueHole use => use ≠ .text

/-- Whether a template has no other tags than those of the vocabulary, and its holes stand where
they are meant to. -/
def check (symbols : List (Symbol Use)) : Bool :=
  match run (.inside .data) symbols with
  | some (.inside .data, tokens) => tokens.all v.admits && symbols.all fits
  | _ => false

/-- **A template of the vocabulary.** -/
structure Sound (use : H → Use) (pieces : List (Piece H)) : Prop where
  fits : ∀ symbol ∈ symbols pieces, symbol.Fits use
  reads : ∃ tokens, run (.inside .data) (symbols pieces) = some (.inside .data, tokens) ∧
    ∀ token ∈ tokens, ∀ t ∈ (Filling.rename use).token token, v.admits t = true

variable {v} {use : H → Use}

theorem Sound.nil : v.Sound use [] where
  fits _ h := absurd h List.not_mem_nil
  reads := ⟨[], rfl, fun _ h => absurd h List.not_mem_nil⟩

theorem Sound.append {pieces pieces' : List (Piece H)} (h : v.Sound use pieces)
    (h' : v.Sound use pieces') : v.Sound use (pieces ++ pieces') := by
  obtain ⟨hfits, tokens, hrun, htokens⟩ := h
  obtain ⟨hfits', tokens', hrun', htokens'⟩ := h'
  refine ⟨fun symbol hsymbol => ?_, tokens ++ tokens', ?_, fun token htoken => ?_⟩
  · rw [symbols_append] at hsymbol
    exact (List.mem_append.mp hsymbol).elim (hfits symbol) (hfits' symbol)
  · rw [symbols_append, run_append, hrun, Option.bind_some, hrun']
    rfl
  · exact (List.mem_append.mp htoken).elim (htokens token) (htokens' token)

theorem Sound.flatMap {α : Type} {l : List α} {pieces : α → List (Piece H)}
    (h : ∀ a ∈ l, v.Sound use (pieces a)) : v.Sound use (l.flatMap pieces) := by
  induction l with
  | nil => exact .nil
  | cons a l ih =>
      rw [List.flatMap_cons]
      exact (h a (.head _)).append (ih fun b hb => h b (.tail _ hb))

/-- A template that passes the check. -/
def Checked (v : Vocabulary) (use : H → Use) (pieces : List (Piece H)) : Prop :=
  ∃ spelled, Spells (pieces.map (Piece.rename use)) spelled ∧ v.check spelled = true

/-- A template that has passed the check. -/
structure Part (v : Vocabulary) (use : H → Use) where
  pieces : List (Piece H)
  checked : v.Checked use pieces

/-- **The check of a template** does not depend on what is filled into it: another template that
differs in nothing else is checked in its place. -/
theorem Sound.of_checked {pieces pieces' : List (Piece H)} (h : v.Checked use pieces')
    (hpieces : pieces.map (Piece.rename use) = pieces'.map (Piece.rename use)) :
    v.Sound use pieces := by
  obtain ⟨spelled, hspells, h⟩ := h
  obtain rfl : spelled = (symbols pieces).map (Symbol.rename use) := by
    rw [hspells.eq_symbols, ← hpieces, symbols_rename]
  have hrename := run_rename use (.inside .data) (symbols pieces)
  rw [show (Filling.rename use).mode (.inside .data) = .inside .data from rfl] at hrename
  rw [check, hrename] at h
  cases hrun : run (.inside .data) (symbols pieces) with
  | none =>
      rw [hrun] at h
      cases h
  | some r =>
      obtain ⟨m, tokens⟩ := r
      rw [hrun] at h
      cases m with
      | inside p =>
          cases p with
          | data =>
              obtain ⟨hadmits, hfits⟩ := Bool.and_eq_true_iff.mp h
              refine ⟨fun symbol hsymbol => ?_, tokens, hrun, fun token htoken t ht => ?_⟩
              · have hfit := List.all_eq_true.mp hfits _ (List.mem_map_of_mem hsymbol)
                cases symbol with
                | char c => trivial
                | textHole h => exact show use h = .text from of_decide_eq_true hfit
                | valueHole h => exact show use h ≠ .text from of_decide_eq_true hfit
              · exact List.all_eq_true.mp hadmits t (List.mem_flatMap.mpr ⟨token, htoken, ht⟩)
          | value t key before => cases h
      | _ => cases h

theorem Sound.of_part {pieces : List (Piece H)} (part : v.Part use)
    (hpieces : pieces.map (Piece.rename use) = part.pieces.map (Piece.rename use)) :
    v.Sound use pieces :=
  .of_checked part.checked hpieces

/-- A token of the template, filled. -/
theorem admits_token {σ : Filling H H'} {url : List (Content H') → Prop}
    (htext : ∀ h, ∀ t ∈ σ.text h, v.Admits url t)
    (hvalue : ∀ h, use h = .address → url (σ.value h)) {token : Token H}
    (htoken : ∀ t ∈ (Filling.rename use).token token, v.admits t = true) :
    ∀ t ∈ σ.token token, v.Admits url t := by
  cases token with
  | text content =>
      cases content with
      | inl c =>
          intro t ht
          obtain rfl := List.mem_singleton.mp ht
          trivial
      | inr h => exact htext h
  | startTag tag selfClosing =>
      intro t ht
      obtain rfl := List.mem_singleton.mp ht
      have hchecked := htoken _ (.head _)
      simp only [admits, Filling.tag, Bool.and_eq_true, List.all_eq_true, List.mem_map,
        forall_exists_index, and_imp, Bool.or_eq_true, isWord_iff] at hchecked
      refine ⟨hchecked.1, fun entry hentry => ?_⟩
      obtain ⟨entry, hmem, rfl⟩ := List.mem_map.mp hentry
      rcases hchecked.2 _ entry hmem rfl with hkey | ⟨hkey, hmarked⟩
      · exact .inl hkey
      · refine .inr ⟨hkey, ?_⟩
        obtain ⟨key, contents⟩ := entry
        cases contents with
        | nil => cases hmarked
        | cons content contents =>
            cases content with
            | inl c => cases contents <;> cases hmarked
            | inr h =>
                cases contents with
                | nil =>
                    rw [List.flatMap_cons, List.flatMap_nil, List.append_nil]
                    exact hvalue h (of_decide_eq_true hmarked)
                | cons content contents =>
                    cases content <;> cases hmarked
  | endTag name =>
      intro t ht
      obtain rfl := List.mem_singleton.mp ht
      exact isWord_iff.mp (htoken _ (.head _))
  | declaration words =>
      intro t ht
      obtain rfl := List.mem_singleton.mp ht
      exact isWord_iff.mp (htoken _ (.head _))

/-- **What a filled template shows**: the tokens of the template in their order, each with its
holes filled; so tags of its vocabulary, and what its holes stand for. -/
theorem read_template {words : H → String} {σ : Filling H H'} {pieces : List (Piece H)}
    (url : List (Content H') → Prop) (hreads : (Writing.ofWords words).Reads σ use)
    (hsound : v.Sound use pieces) (htext : ∀ h, ∀ t ∈ σ.text h, v.Admits url t)
    (hvalue : ∀ h, use h = .address → url (σ.value h)) :
    ∃ own, read (symbols pieces) = some own ∧
      read (plain (write words pieces).toList) = some (own.flatMap σ.token) ∧
      (∀ token ∈ own.flatMap σ.token, v.Admits url token) ∧
      ∀ h, .text h ∈ pieces → σ.text h <:+: own.flatMap σ.token := by
  obtain ⟨hfits, own, hrun, hown⟩ := hsound
  refine ⟨own, ?_, ?_, fun t ht => ?_, fun h hmem => ?_⟩
  · rw [read, hrun]
  · rw [read, plain_write, show (Mode.inside .data : Mode H') = σ.mode (.inside .data) from rfl,
      run_fill hreads hfits hrun]
    rfl
  · obtain ⟨token, htoken, ht⟩ := List.mem_flatMap.mp ht
    exact admits_token htext hvalue (hown token htoken) t ht
  · have hhole : Symbol.textHole h ∈ symbols pieces :=
      List.mem_flatMap.mpr ⟨.text h, hmem, .head _⟩
    have htoken : Token.text (.inr h) ∈ own := textHole_mem_tokens hhole hrun
    obtain ⟨before, after, rfl⟩ := List.append_of_mem htoken
    rw [List.flatMap_append, List.flatMap_cons]
    exact ⟨_, _, (List.append_assoc _ _ _)⟩

end Vocabulary

end Markup
