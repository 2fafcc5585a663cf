/-
# The quoting of the POSIX shell

How a shell reads a script into simple commands: blanks end words, newlines and bars end commands,
single quotes take everything as it stands, and double quotes take everything but parameters and
command substitutions, which are read like scripts of their own.

The reader takes one character at a time and keeps a level for each substitution that is open.  It
gives up on what is not modelled: other operators, unquoted characters that a shell expands,
reserved words, backslashes outside single quotes.
-/
import Mathlib.Data.List.Basic
import Mathlib.Data.List.Forall2
import Mathlib.Tactic.Common

namespace PosixShell

/-! ## What is read -/

mutual

/-- A part of a word. -/
inductive Piece
  /-- An unquoted character, which stands for itself. -/
  | plain (c : Char)
  /-- A character in quotes. -/
  | quoted (c : Char)
  /-- `"$name"`. -/
  | param (name : List Char)
  /-- `"$(commands)"`. -/
  | subst (commands : List Command)

/-- A simple command: its words, assignments included, and whether its output goes to the next. -/
inductive Command
  | mk (words : List (List Piece)) (piped : Bool)

end

/-- A word. -/
abbrev Word := List Piece

/-- The value of a word in which nothing is expanded. -/
def value? : Word → Option (List Char)
  | [] => some []
  | .plain c :: word => (value? word).map (c :: ·)
  | .quoted c :: word => (value? word).map (c :: ·)
  | .param _ :: _ => none
  | .subst _ :: _ => none

/-- A word without quotes. -/
def plainWord (text : List Char) : Word := text.map .plain

/-- A word in quotes, or a part of one. -/
def quotedWord (text : List Char) : Word := text.map .quoted

theorem value?_quotedWord (text : List Char) : value? (quotedWord text) = some text := by
  induction text with
  | nil => rfl
  | cons c text ih =>
      have hcons : quotedWord (c :: text) = .quoted c :: quotedWord text := List.map_cons
      rw [hcons, value?, ih]
      rfl

/-! ## The reader -/

/-- Between two characters. -/
inductive Mode
  /-- Between two words. -/
  | blank
  /-- In a word, outside quotes. -/
  | bare
  | single
  | double
  /-- After `$` in double quotes. -/
  | dollar
  /-- In the name of a parameter in double quotes. -/
  | param (name : List Char)

/-- What was read of a script: its commands, the words of the next, and its last word. -/
structure Level where
  commands : List Command := []
  words : List Word := []
  word : Word := []

/-- The script that is read, and those in which its substitution stands. -/
structure Reader where
  mode : Mode := .blank
  level : Level := {}
  outer : List Level := []

/-- The reserved words, which mean something else where a command may begin. -/
def reservedWords : List (List Char) :=
  [['!'], ['c', 'a', 's', 'e'], ['d', 'o'], ['d', 'o', 'n', 'e'], ['e', 'l', 'i', 'f'],
    ['e', 'l', 's', 'e'], ['e', 's', 'a', 'c'], ['f', 'i'], ['f', 'o', 'r'], ['i', 'f'],
    ['i', 'n'], ['t', 'h', 'e', 'n'], ['u', 'n', 't', 'i', 'l'], ['w', 'h', 'i', 'l', 'e'],
    ['f', 'u', 'n', 'c', 't', 'i', 'o', 'n'], ['s', 'e', 'l', 'e', 'c', 't'],
    ['t', 'i', 'm', 'e'], ['c', 'o', 'p', 'r', 'o', 'c']]

/-- The characters of a word without quotes. -/
def unquoted? : Word → Option (List Char)
  | [] => some []
  | .plain c :: word => (unquoted? word).map (c :: ·)
  | _ => none

def isReserved (word : Word) : Bool := (unquoted? word).any (reservedWords.contains ·)

theorem isReserved_quotedWord (text : List Char) : isReserved (quotedWord text) = false := by
  cases text with
  | nil => decide
  | cons c text => rfl

/-- An unquoted character that stands for itself. -/
def isPlain (c : Char) : Bool :=
  c.isAlphanum || c ∈ ['-', '_', '.', '/', '=', ':', ',', '+', '@', '%']

def isNameStart (c : Char) : Bool := c.isAlpha || c = '_'

def isNameChar (c : Char) : Bool := c.isAlphanum || c = '_'

namespace Reader

/-- One more piece of the word. -/
def addPiece (r : Reader) (mode : Mode) (piece : Piece) : Reader :=
  { r with mode := mode, level := { r.level with word := r.level.word ++ [piece] } }

/-- The end of a word, if there is one. -/
def endWord (r : Reader) : Reader :=
  match r.mode with
  | .bare =>
      { r with
        mode := .blank
        level := { r.level with words := r.level.words ++ [r.level.word], word := [] } }
  | _ => { r with mode := .blank }

/-- The end of a command. -/
def endCommand (r : Reader) (piped : Bool) : Option Reader :=
  match r.level.words with
  | [] => if piped then none else some r
  | first :: rest =>
      if isReserved first then none
      else some { r with level := { commands := r.level.commands ++ [.mk (first :: rest) piped] } }

/-- The script ends with a command that is not piped into another. -/
def commands? (r : Reader) : Option (List Command) := do
  let r ← r.endWord.endCommand false
  match r.level.commands.getLast? with
  | some (.mk _ true) => none
  | _ => some r.level.commands

/-- The end of a substitution. -/
def endSubst (r : Reader) : Option Reader := do
  let commands ← r.commands?
  match r.outer with
  | [] => none
  | level :: outer =>
      some {
        mode := .double
        level := { level with word := level.word ++ [.subst commands] }
        outer }

/-- A character in double quotes. -/
def stepDouble (r : Reader) (c : Char) : Option Reader :=
  if c = '"' then some { r with mode := .bare }
  else if c = '$' then some { r with mode := .dollar }
  else if c = '\\' ∨ c = Char.ofNat 0x60 then none
  else some (r.addPiece .double (.quoted c))

/-- A character outside quotes. -/
def stepBare (r : Reader) (c : Char) : Option Reader :=
  if c = ' ' ∨ c = '\t' then some r.endWord
  else if c = '\n' then r.endWord.endCommand false
  else if c = '|' then r.endWord.endCommand true
  else if c = ')' then r.endSubst
  else if c = '\'' then some { r with mode := .single }
  else if c = '"' then some { r with mode := .double }
  else if isPlain c then some (r.addPiece .bare (.plain c))
  else none

/-- One character.  No script has a NUL in it. -/
def step (r : Reader) (c : Char) : Option Reader :=
  if c = Char.ofNat 0 then none
  else
    match r.mode with
    | .blank => r.stepBare c
    | .bare => r.stepBare c
    | .single =>
        if c = '\'' then some { r with mode := .bare }
        else some (r.addPiece .single (.quoted c))
    | .double => r.stepDouble c
    | .dollar =>
        if c = '(' then some { level := {}, outer := r.level :: r.outer }
        else if isNameStart c then some { r with mode := .param [c] }
        else none
    | .param name =>
        if isNameChar c then some { r with mode := .param (name ++ [c]) }
        else (r.addPiece .double (.param name)).stepDouble c

/-- Some characters. -/
def run (r : Reader) (text : List Char) : Option Reader := text.foldlM step r

theorem run_nil (r : Reader) : r.run [] = some r := rfl

theorem run_cons (r : Reader) (c : Char) (text : List Char) :
    r.run (c :: text) = (r.step c).bind (run · text) := rfl

theorem run_append (r : Reader) (a b : List Char) :
    r.run (a ++ b) = (r.run a).bind (run · b) := List.foldlM_append

/-- The run goes on from where its first part ends. -/
theorem run_append_eq {r r' : Reader} {a : List Char} (h : r.run a = some r') (b : List Char) :
    r.run (a ++ b) = r'.run b := by
  rw [run_append, h, Option.bind_some]

end Reader

/-- The commands of a script. -/
def readScript (text : List Char) : Option (List Command) := do
  let r ← ({} : Reader).run text
  if r.outer.isEmpty then
    match r.mode with
    | .blank => r.commands?
    | .bare => r.commands?
    | _ => none
  else none

/-! ## Pieces of words -/

open Reader

/-- The text is read as these pieces of a word, wherever a word may begin or go on. -/
def ReadsPieces (text : List Char) (pieces : Word) : Prop :=
  ∀ (mode : Mode) (level : Level) (outer : List Level), mode = .blank ∨ mode = .bare →
    Reader.run ⟨mode, level, outer⟩ text =
      some ⟨.bare, { level with word := level.word ++ pieces }, outer⟩

theorem ReadsPieces.append {a b : List Char} {p q : Word} (ha : ReadsPieces a p)
    (hb : ReadsPieces b q) : ReadsPieces (a ++ b) (p ++ q) := by
  intro mode level outer hmode
  rw [run_append_eq (ha mode level outer hmode), hb .bare _ outer (Or.inr rfl)]
  simp only [List.append_assoc]

/-- What a character does outside quotes does not depend on whether a word has begun. -/
theorem step_of_mode {r : Reader} (hmode : r.mode = .blank ∨ r.mode = .bare) {c : Char}
    (hc : c ≠ Char.ofNat 0) : r.step c = r.stepBare c := by
  rw [step, if_neg hc]
  rcases hmode with hmode | hmode
  · rw [hmode]
  · rw [hmode]

/-- No plain character means anything else. -/
theorem stepBare_plain {r : Reader} {c : Char} (hc : isPlain c = true) :
    c ≠ Char.ofNat 0 ∧ r.stepBare c = some (r.addPiece .bare (.plain c)) := by
  have hne : ∀ d, isPlain d = false → c ≠ d := by
    rintro d hd rfl
    rw [hc] at hd
    cases hd
  refine ⟨hne _ (by decide), ?_⟩
  rw [stepBare, if_neg (not_or.mpr ⟨hne _ (by decide), hne _ (by decide)⟩),
    if_neg (hne _ (by decide)), if_neg (hne _ (by decide)), if_neg (hne _ (by decide)),
    if_neg (hne _ (by decide)), if_neg (hne _ (by decide)), if_pos hc]

/-- Plain characters stand for themselves. -/
theorem readsPieces_plain {text : List Char} (htext : text ≠ []) (h : text.all isPlain = true) :
    ReadsPieces text (plainWord text) := by
  induction text with
  | nil => exact absurd rfl htext
  | cons c text ih =>
      rw [List.all_cons, Bool.and_eq_true] at h
      have hchar : ReadsPieces [c] [.plain c] := by
        intro mode level outer hmode
        obtain ⟨hnul, hstep⟩ := stepBare_plain (r := ⟨mode, level, outer⟩) h.1
        rw [run_cons, step_of_mode hmode hnul, hstep]
        rfl
      by_cases hnil : text = []
      · subst hnil
        exact hchar
      · exact hchar.append (ih hnil h.2)

/-- What stands in single quotes is taken as it is. -/
theorem run_single {text : List Char} (hquote : '\'' ∉ text) (hnul : Char.ofNat 0 ∉ text)
    (level : Level) (outer : List Level) :
    Reader.run ⟨.single, level, outer⟩ text =
      some ⟨.single, { level with word := level.word ++ quotedWord text }, outer⟩ := by
  induction text generalizing level with
  | nil => rw [run_nil, quotedWord, List.map_nil, List.append_nil]
  | cons c text ih =>
      simp only [List.mem_cons, not_or] at hquote hnul
      have hstep : Reader.step ⟨.single, level, outer⟩ c =
          some ⟨.single, { level with word := level.word ++ [.quoted c] }, outer⟩ := by
        rw [step, if_neg (Ne.symm hnul.1)]
        exact if_neg (Ne.symm hquote.1)
      have hword : level.word ++ quotedWord (c :: text) =
          (level.word ++ [.quoted c]) ++ quotedWord text := by
        rw [List.append_assoc]
        rfl
      rw [run_cons, hstep, Option.bind_some, ih hquote.2 hnul.2, hword]

theorem readsPieces_single {text : List Char} (hquote : '\'' ∉ text)
    (hnul : Char.ofNat 0 ∉ text) : ReadsPieces ('\'' :: (text ++ ['\''])) (quotedWord text) := by
  intro mode level outer hmode
  have hopen : Reader.step ⟨mode, level, outer⟩ '\'' = some ⟨.single, level, outer⟩ := by
    rw [step_of_mode hmode (by decide)]
    rfl
  rw [run_cons, hopen, Option.bind_some, run_append_eq (run_single hquote hnul level outer)]
  rfl

/-- A character that stands for itself in double quotes. -/
def isDoubleSafe (c : Char) : Bool :=
  !(c = '"' || c = '$' || c = '\\' || c = Char.ofNat 0x60 || c = Char.ofNat 0)

theorem stepDouble_safe {r : Reader} {c : Char} (hc : isDoubleSafe c = true) :
    c ≠ Char.ofNat 0 ∧ r.stepDouble c = some (r.addPiece .double (.quoted c)) := by
  have hne : ∀ d, isDoubleSafe d = false → c ≠ d := by
    rintro d hd rfl
    rw [hc] at hd
    cases hd
  refine ⟨hne _ (by decide), ?_⟩
  rw [stepDouble, if_neg (hne _ (by decide)), if_neg (hne _ (by decide)),
    if_neg (not_or.mpr ⟨hne _ (by decide), hne _ (by decide)⟩)]

theorem run_double {text : List Char} (h : text.all isDoubleSafe = true) (level : Level)
    (outer : List Level) :
    Reader.run ⟨.double, level, outer⟩ text =
      some ⟨.double, { level with word := level.word ++ quotedWord text }, outer⟩ := by
  induction text generalizing level with
  | nil => rw [run_nil, quotedWord, List.map_nil, List.append_nil]
  | cons c text ih =>
      rw [List.all_cons, Bool.and_eq_true] at h
      obtain ⟨hnul, hsafe⟩ := stepDouble_safe (r := ⟨.double, level, outer⟩) h.1
      have hstep : Reader.step ⟨.double, level, outer⟩ c =
          some ⟨.double, { level with word := level.word ++ [.quoted c] }, outer⟩ := by
        rw [step, if_neg hnul]
        exact hsafe
      have hword : level.word ++ quotedWord (c :: text) =
          (level.word ++ [.quoted c]) ++ quotedWord text := by
        rw [List.append_assoc]
        rfl
      rw [run_cons, hstep, Option.bind_some, ih h.2, hword]

/-- The rest of the name of a parameter. -/
theorem run_name {name : List Char} (h : name.all isNameChar = true) (front : List Char)
    (level : Level) (outer : List Level) :
    Reader.run ⟨.param front, level, outer⟩ name = some ⟨.param (front ++ name), level, outer⟩ := by
  induction name generalizing front with
  | nil => rw [run_nil, List.append_nil]
  | cons c name ih =>
      rw [List.all_cons, Bool.and_eq_true] at h
      have hnul : c ≠ Char.ofNat 0 := by
        rintro rfl
        exact absurd h.1 (by decide)
      have hstep : Reader.step ⟨.param front, level, outer⟩ c =
          some ⟨.param (front ++ [c]), level, outer⟩ := by
        rw [step, if_neg hnul]
        exact if_pos h.1
      rw [run_cons, hstep, Option.bind_some, ih h.2, List.append_assoc]
      rfl

/-- **A parameter in double quotes**, and what follows it there. -/
theorem readsPieces_param (c : Char) (name tail : List Char)
    (hc : isNameStart c = true)
    (hname : name.all isNameChar = true) (htail : tail.all isDoubleSafe = true)
    (hend : tail.head?.any isNameChar = false) :
    ReadsPieces ('"' :: '$' :: c :: (name ++ (tail ++ ['"'])))
      (.param (c :: name) :: quotedWord tail) := by
  intro mode level outer hmode
  have hopen : Reader.step ⟨mode, level, outer⟩ '"' = some ⟨.double, level, outer⟩ := by
    rw [step_of_mode hmode (by decide)]
    rfl
  have hdollar : Reader.step ⟨.double, level, outer⟩ '$' = some ⟨.dollar, level, outer⟩ := rfl
  have hstart : Reader.step ⟨.dollar, level, outer⟩ c = some ⟨.param [c], level, outer⟩ := by
    have hnul : c ≠ Char.ofNat 0 := by
      rintro rfl
      exact absurd hc (by decide)
    have hparen : c ≠ '(' := by
      rintro rfl
      exact absurd hc (by decide)
    rw [step, if_neg hnul]
    simp only [if_neg hparen, if_pos hc]
  rw [run_cons, hopen, Option.bind_some, run_cons, hdollar, Option.bind_some, run_cons, hstart,
    Option.bind_some, run_append_eq (run_name hname [c] level outer), List.singleton_append]
  -- the first character that is not of the name ends it
  generalize hlevel : { level with word := level.word ++ [Piece.param (c :: name)] } = after
  have hword : level.word ++ Piece.param (c :: name) :: quotedWord tail =
      after.word ++ quotedWord tail := by
    rw [← hlevel, List.append_assoc]
    rfl
  have hrun : Reader.run ⟨.param (c :: name), level, outer⟩ (tail ++ ['"']) =
      Reader.run ⟨.double, after, outer⟩ (tail ++ ['"']) := by
    cases tail with
    | nil =>
        rw [← hlevel]
        rfl
    | cons d tail =>
        have hnot : ¬ isNameChar d = true := by simpa using hend
        rw [List.all_cons, Bool.and_eq_true] at htail
        have hnul := (stepDouble_safe (r := ⟨.double, level, outer⟩) htail.1).1
        have hstep : Reader.step ⟨.param (c :: name), level, outer⟩ d =
            Reader.step ⟨.double, after, outer⟩ d := by
          rw [step, step, if_neg hnul, if_neg hnul, ← hlevel]
          exact if_neg hnot
        rw [List.cons_append, run_cons, run_cons, hstep]
  rw [hrun, run_append_eq (run_double htail after outer), hword, ← hlevel]
  rfl

/-! ## Commands -/

/-- The text is read as the words of one command. -/
def ReadsWords (text : List Char) (front : List Word) (word : Word) : Prop :=
  ∀ (commands : List Command) (outer : List Level),
    Reader.run ⟨.blank, ⟨commands, [], []⟩, outer⟩ text =
      some ⟨.bare, ⟨commands, front, word⟩, outer⟩

theorem ReadsPieces.readsWords {text : List Char} {word : Word} (h : ReadsPieces text word) :
    ReadsWords text [] word :=
  fun commands outer => h .blank ⟨commands, [], []⟩ outer (Or.inl rfl)

/-- One more word. -/
theorem ReadsWords.concat {text : List Char} {front : List Word} {word : Word}
    (h : ReadsWords text front word) {next : List Char} {pieces : Word}
    (hnext : ReadsPieces next pieces) :
    ReadsWords (text ++ ' ' :: next) (front ++ [word]) pieces := by
  intro commands outer
  have hblank : Reader.step ⟨.bare, ⟨commands, front, word⟩, outer⟩ ' ' =
      some ⟨.blank, ⟨commands, front ++ [word], []⟩, outer⟩ := rfl
  rw [run_append_eq (h commands outer), run_cons, hblank, Option.bind_some,
    hnext .blank _ outer (Or.inl rfl)]
  rfl

/-- The command may begin with its first word. -/
def MayBegin (words : List Word) : Prop := words.head?.any isReserved = false

instance (words : List Word) : Decidable (MayBegin words) :=
  inferInstanceAs (Decidable (words.head?.any isReserved = false))

theorem endCommand_words {front : List Word} {word : Word} (h : MayBegin (front ++ [word]))
    (commands : List Command) (outer : List Level) (piped : Bool) :
    Reader.endCommand ⟨.blank, ⟨commands, front ++ [word], []⟩, outer⟩ piped =
      some ⟨.blank, ⟨commands ++ [.mk (front ++ [word]) piped], [], []⟩, outer⟩ := by
  rw [endCommand]
  generalize hwords : front ++ [word] = words at h
  cases words with
  | nil => exact absurd hwords (by simp)
  | cons first rest =>
      have hfirst : isReserved first = false := h
      simp only [hfirst]
      rfl

/-- The text is read as these commands. -/
def ReadsScript (text : List Char) (commands : List Command) : Prop :=
  ∀ outer : List Level, ∃ r : Reader, Reader.run ⟨.blank, {}, outer⟩ text = some r ∧
    r.mode = .bare ∧ r.outer = outer ∧ r.commands? = some commands

/-- The commands are those before the last line and that of the last line. -/
theorem commands?_words {front : List Word} {word : Word} (h : MayBegin (front ++ [word]))
    (commands : List Command) (outer : List Level) :
    Reader.commands? ⟨.bare, ⟨commands, front, word⟩, outer⟩ =
      some (commands ++ [.mk (front ++ [word]) false]) := by
  have hend : Reader.endWord ⟨.bare, ⟨commands, front, word⟩, outer⟩ =
      ⟨.blank, ⟨commands, front ++ [word], []⟩, outer⟩ := rfl
  rw [commands?, hend, endCommand_words h, Option.bind_eq_bind, Option.bind_some]
  simp only [List.getLast?_concat]

theorem ReadsWords.readsScript {text : List Char} {front : List Word} {word : Word}
    (h : ReadsWords text front word) (hbegin : MayBegin (front ++ [word])) :
    ReadsScript text [.mk (front ++ [word]) false] :=
  fun outer => ⟨_, h [] outer, rfl, rfl, commands?_words hbegin [] outer⟩

/-- A command whose output goes to a second one. -/
theorem ReadsWords.pipe {a b : List Char} {front front' : List Word} {word word' : Word}
    (ha : ReadsWords a front word) (hb : ReadsWords b front' word')
    (hbegin : MayBegin (front ++ [word])) (hbegin' : MayBegin (front' ++ [word'])) :
    ReadsScript (a ++ ' ' :: '|' :: ' ' :: b)
      [.mk (front ++ [word]) true, .mk (front' ++ [word']) false] := by
  intro outer
  have hblank : Reader.step ⟨.bare, ⟨[], front, word⟩, outer⟩ ' ' =
      some ⟨.blank, ⟨[], front ++ [word], []⟩, outer⟩ := rfl
  have hbar : Reader.step ⟨.blank, ⟨[], front ++ [word], []⟩, outer⟩ '|' =
      some ⟨.blank, ⟨[.mk (front ++ [word]) true], [], []⟩, outer⟩ :=
    endCommand_words hbegin [] outer true
  have hspace : Reader.step ⟨.blank, ⟨[.mk (front ++ [word]) true], [], []⟩, outer⟩ ' ' =
      some ⟨.blank, ⟨[.mk (front ++ [word]) true], [], []⟩, outer⟩ := rfl
  refine ⟨_, ?_, rfl, rfl, commands?_words hbegin' [.mk (front ++ [word]) true] outer⟩
  rw [run_append_eq (ha [] outer), run_cons, hblank, Option.bind_some, run_cons, hbar,
    Option.bind_some, run_cons, hspace, Option.bind_some, hb]

/-- **A substitution in double quotes** is read like a script of its own. -/
theorem readsPieces_subst {text : List Char} {commands : List Command}
    (h : ReadsScript text commands) :
    ReadsPieces ('"' :: '$' :: '(' :: (text ++ [')', '"'])) [.subst commands] := by
  intro mode level outer hmode
  have hopen : Reader.step ⟨mode, level, outer⟩ '"' = some ⟨.double, level, outer⟩ := by
    rw [step_of_mode hmode (by decide)]
    rfl
  have hdollar : Reader.step ⟨.double, level, outer⟩ '$' = some ⟨.dollar, level, outer⟩ := rfl
  have hparen : Reader.step ⟨.dollar, level, outer⟩ '(' = some ⟨.blank, {}, level :: outer⟩ := rfl
  obtain ⟨r, hrun, hmode', houter, hcommands⟩ := h (level :: outer)
  have hclose : r.step ')' =
      some ⟨.double, { level with word := level.word ++ [.subst commands] }, outer⟩ := by
    rw [step_of_mode (Or.inr hmode') (by decide)]
    show r.endSubst = _
    rw [endSubst, hcommands, houter]
    rfl
  rw [run_cons, hopen, Option.bind_some, run_cons, hdollar, Option.bind_some, run_cons, hparen,
    Option.bind_some, run_append_eq hrun, run_cons, hclose]
  rfl

/-! ## Words that are written down -/

/-- A word that is written without quotes. -/
def bareWord (text : String) : Word := plainWord text.toList

theorem readsPieces_bareWord (text : String)
    (h : text.toList ≠ [] ∧ text.toList.all isPlain = true) :
    ReadsPieces text.toList (bareWord text) :=
  readsPieces_plain h.1 h.2

theorem readsPieces_quoted (text : String)
    (h : '\'' ∉ text.toList ∧ Char.ofNat 0 ∉ text.toList) :
    ReadsPieces ('\'' :: (text.toList ++ ['\''])) (quotedWord text.toList) :=
  readsPieces_single h.1 h.2

/-- Words that are written without quotes, after some others. -/
theorem ReadsWords.bare {text : List Char} {front : List Word} {word : Word}
    (h : ReadsWords text front word) (next : String)
    (hnext : next.toList ≠ [] ∧ next.toList.all isPlain = true) :
    ReadsWords (text ++ ' ' :: next.toList) (front ++ [word]) (bareWord next) :=
  h.concat (readsPieces_bareWord next hnext)

/-! ## Lines -/

/-- The line is read as one command of these words. -/
def ReadsLine (line : List Char) (words : List Word) : Prop :=
  ∃ front word, words = front ++ [word] ∧ MayBegin (front ++ [word]) ∧ ReadsWords line front word

theorem ReadsWords.readsLine {line text : List Char} {front words : List Word} {word : Word}
    (h : ReadsWords text front word) (hline : line = text) (hwords : words = front ++ [word])
    (hbegin : MayBegin words) : ReadsLine line words :=
  ⟨front, word, hwords, hwords ▸ hbegin, hline ▸ h⟩

/-- Lines in a row, from after some commands. -/
theorem run_lines {lines : List (List Char)} {commands : List (List Word)}
    (h : List.Forall₂ ReadsLine lines commands) (hlines : lines ≠ []) (before : List Command) :
    ∃ r : Reader, Reader.run ⟨.blank, ⟨before, [], []⟩, []⟩ (['\n'].intercalate lines) = some r ∧
      r.mode = .bare ∧ r.outer = [] ∧
      r.commands? = some (before ++ commands.map fun words => .mk words false) := by
  induction h generalizing before with
  | nil => exact absurd rfl hlines
  | @cons line words lines commands hline hrest ih =>
      obtain ⟨front, word, rfl, hbegin, hwords⟩ := hline
      by_cases hnil : lines = []
      · subst hnil
        obtain rfl := List.forall₂_nil_left_iff.mp hrest
        rw [List.intercalate_singleton]
        exact ⟨_, hwords before [], rfl, rfl, commands?_words hbegin before []⟩
      · obtain ⟨r, hrun, hmode, houter, hcommands⟩ :=
          ih hnil (before ++ [.mk (front ++ [word]) false])
        have hnewline : Reader.step ⟨.bare, ⟨before, front, word⟩, []⟩ '\n' =
            some ⟨.blank, ⟨before ++ [.mk (front ++ [word]) false], [], []⟩, []⟩ :=
          endCommand_words hbegin before [] false
        refine ⟨r, ?_, hmode, houter, ?_⟩
        · rw [List.intercalate_cons_of_ne_nil hnil, List.append_assoc,
            run_append_eq (hwords before []), List.singleton_append, run_cons, hnewline,
            Option.bind_some, hrun]
        · rw [hcommands, List.append_assoc]
          rfl

/-- **A script is read line by line.** -/
theorem readScript_lines {lines : List (List Char)} {commands : List (List Word)}
    (h : List.Forall₂ ReadsLine lines commands) (hlines : lines ≠ []) :
    readScript (['\n'].intercalate lines) =
      some (commands.map fun words => .mk words false) := by
  obtain ⟨r, hrun, hmode, houter, hcommands⟩ := run_lines h hlines []
  have hstart : ({} : Reader).run (['\n'].intercalate lines) = some r := hrun
  rw [readScript, hstart, Option.bind_eq_bind, Option.bind_some, houter, hmode]
  exact hcommands

end PosixShell
