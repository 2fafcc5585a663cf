/-
# Parsers of package listings

`packages.service.ts` reads the installed packages of a node from the output of its package manager:
the rows of `dpkg -l`, else the lines of `apt list --installed`, else lines `name:version`.
-/
import Mathlib.Data.List.Infix
import NoderaxApi.Common
import NoderaxApi.TextLines
import NoderaxApi.Words

namespace PackagesService

open Words TextLines

/-- A text, as its characters. -/
abbrev Text := List Char

/-- An installed package. -/
structure PackageEntry where
  name : Text
  version : Option Text
  architecture : Option Text
  description : Option Text
  deriving DecidableEq, Repr

/-- `trim`. -/
def trimmed (line : Text) : Text := trim isJsWhitespace line

/-- `startsWith`. -/
def startsWith (text pattern : Text) : Bool := pattern.isPrefixOf text

/-- `includes`. -/
def includes (text pattern : Text) : Bool := text.tails.any pattern.isPrefixOf

/-! ## `dpkg -l` -/

/-- `parts.slice(4).join(' ') || null`. -/
def joinOrNull (words : List Text) : Option Text :=
  match [' '].intercalate words with
  | [] => none
  | text => some text

/-- What `parseDpkgListOutput` pushes for a line.  The words are the parts of a trimmed text between
its blanks. -/
def dpkgEntry (line : Text) : Option PackageEntry :=
  if startsWith (trimmed line) "ii ".toList then
    match wordsOf isJsWhitespace (trimmed line) with
    | _ :: name :: version :: architecture :: rest =>
        some ⟨name, some version, some architecture, joinOrNull rest⟩
    | _ => none
  else none

/-- `parseDpkgListOutput`. -/
def parseDpkgListOutput (output : Text) : List PackageEntry :=
  (splitLines output).filterMap dpkgEntry

/-! ## `apt list --installed` -/

/-- `(\S+)\s+` at the front of a text: the word, and what follows the blanks. -/
def wordAndBlanks (text : Text) : Option (Text × Text) :=
  let word := text.takeWhile fun c => !isJsWhitespace c
  let rest := text.dropWhile fun c => !isJsWhitespace c
  if word = [] ∨ rest = [] then none else some (word, rest.dropWhile isJsWhitespace)

/-- `\[(installed[^\]]*)\]$`, in either case. -/
def isInstalledMark : Text → Bool
  | '[' :: mark =>
      mark.getLast? == some ']' && !mark.dropLast.contains ']' &&
        startsWith (mark.dropLast.map Char.toLower) "installed".toList
  | _ => false

/-- The groups of `/^(\S+)\s+(\S+)\s+(\S+)\s+\[(installed[^\]]*)\]$/i`, less the last. -/
def matchAptLine (text : Text) : Option (Text × Text × Text) := do
  let (packageRef, afterRef) ← wordAndBlanks text
  let (version, afterVersion) ← wordAndBlanks afterRef
  let (architecture, mark) ← wordAndBlanks afterVersion
  if isInstalledMark mark then some (packageRef, version, architecture) else none

/-- `slashIndex > 0 ? packageRef.slice(0, slashIndex) : packageRef`. -/
def packageName (packageRef : Text) : Text :=
  match packageRef.idxOf? '/' with
  | some (index + 1) => packageRef.take (index + 1)
  | _ => packageRef

/-- What `parseAptListInstalledOutput` pushes for a line. -/
def aptEntry (line : Text) : Option PackageEntry :=
  if trimmed line = [] ∨ startsWith (trimmed line) "Listing...".toList ∨
      !includes (trimmed line) "[installed".toList then none
  else
    (matchAptLine (trimmed line)).map fun (packageRef, version, architecture) =>
      ⟨packageName packageRef, some version, some architecture, none⟩

/-! ## Names and versions -/

/-- `[a-z0-9.+-]`, in either case. -/
def isNameChar (c : Char) : Bool :=
  ('a' ≤ c && c ≤ 'z') || ('A' ≤ c && c ≤ 'Z') || ('0' ≤ c && c ≤ '9') ||
    c == '.' || c == '+' || c == '-'

/-- What `parseNameVersionOutput` pushes for a line: `/^([a-z0-9.+-]+):([^\s]+)$/i`. -/
def nameVersionEntry (line : Text) : Option PackageEntry :=
  match (trimmed line).dropWhile isNameChar with
  | ':' :: version =>
      let name := (trimmed line).takeWhile isNameChar
      if name = [] ∨ version = [] ∨ version.any isJsWhitespace then none
      else some ⟨name, some version, none, none⟩
  | _ => none

/-- `parseNameVersionOutput`. -/
def parseNameVersionOutput (output : Text) : List PackageEntry :=
  (splitLines output).filterMap nameVersionEntry

/-- `parseAptListInstalledOutput`. -/
def parseAptListInstalledOutput (output : Text) : List PackageEntry :=
  match (splitLines output).filterMap aptEntry with
  | [] => parseNameVersionOutput output
  | results => results

/-- `parseInstalledPackagesFromOutput`. -/
def parseInstalledPackagesFromOutput (output : Option Text) : List PackageEntry :=
  match output with
  | none => []
  | some output =>
      if trimmed output = [] then []
      else
        match parseDpkgListOutput output with
        | [] => parseAptListInstalledOutput output
        | dpkgPackages => dpkgPackages

example : parseInstalledPackagesFromOutput
    (some "Listing...\nbash/now 5.2~rc1-2 amd64 [installed,local]\n".toList) =
      [⟨"bash".toList, some "5.2~rc1-2".toList, some "amd64".toList, none⟩] := by
  decide +kernel

/-! ## Words and gaps -/

/-- A word: no white space. -/
def IsWord (word : Text) : Prop := word ≠ [] ∧ ∀ c ∈ word, isJsWhitespace c = false

/-- The blanks between two words of a line. -/
def IsGap (gap : Text) : Prop := gap ≠ [] ∧ ∀ c ∈ gap, isJsWhitespace c = true

instance (word : Text) : Decidable (IsWord word) :=
  @instDecidableAnd _ _ _ (List.decidableBAll _ word)

instance (gap : Text) : Decidable (IsGap gap) :=
  @instDecidableAnd _ _ _ (List.decidableBAll _ gap)

variable {line text : Text}

theorem IsWord.head {word : Text} (h : IsWord word) (rest : Text) :
    ∃ c tail, word ++ rest = c :: tail ∧ isJsWhitespace c = false := by
  obtain ⟨c, tail, rfl⟩ := List.exists_cons_of_ne_nil h.1
  exact ⟨c, tail ++ rest, rfl, h.2 c List.mem_cons_self⟩

theorem IsWord.not_lineFeed {word : Text} (h : IsWord word) : '\n' ∉ word := fun hmem =>
  absurd (h.2 _ hmem) (by decide)

/-- `(\S+)\s+` reads a word and the gap after it. -/
theorem wordAndBlanks_append {word gap rest : Text} (hword : IsWord word) (hgap : IsGap gap)
    (hrest : ∀ c ∈ rest.head?, isJsWhitespace c = false) :
    wordAndBlanks (word ++ (gap ++ rest)) = some (word, rest) := by
  obtain ⟨blank, gap, rfl⟩ := List.exists_cons_of_ne_nil hgap.1
  have hword' : ∀ c ∈ word, (!isJsWhitespace c) = true := fun c hc => by rw [hword.2 c hc]; rfl
  have hblank : ¬(!isJsWhitespace blank) = true := by
    rw [hgap.2 blank List.mem_cons_self]
    exact Bool.false_ne_true
  rw [wordAndBlanks, List.takeWhile_append_of_pos hword', List.dropWhile_append_of_pos hword',
    List.cons_append, List.takeWhile_cons_of_neg (p := fun c => !isJsWhitespace c) hblank,
    List.dropWhile_cons_of_neg (p := fun c => !isJsWhitespace c) hblank, List.append_nil]
  have hne : ¬(word = [] ∨ blank :: (gap ++ rest) = []) :=
    not_or.mpr ⟨hword.1, List.cons_ne_nil _ _⟩
  rw [if_neg hne, ← List.cons_append, List.dropWhile_append_of_pos hgap.2,
    dropWhile_of_head hrest]

theorem wordAndBlanks_eq_some {word rest : Text} (h : wordAndBlanks text = some (word, rest)) :
    ∃ gap, IsWord word ∧ IsGap gap ∧ text = word ++ (gap ++ rest) := by
  rw [wordAndBlanks] at h
  split at h
  next => exact absurd h (Option.some_ne_none _).symm
  next hne =>
    obtain ⟨rfl, rfl⟩ := Prod.mk.inj (Option.some.inj h)
    obtain ⟨hword, hafter⟩ := not_or.mp hne
    refine ⟨(text.dropWhile fun c => !isJsWhitespace c).takeWhile isJsWhitespace, ⟨hword, ?_⟩,
      ⟨?_, fun c hc => List.mem_takeWhile_imp hc⟩, ?_⟩
    · intro c hc
      simpa using List.mem_takeWhile_imp hc
    · obtain ⟨c, after, hcons⟩ := List.exists_cons_of_ne_nil hafter
      have hc : isJsWhitespace c = true := by simpa using head_dropWhile hcons
      rw [hcons, List.takeWhile_cons_of_pos hc]
      exact List.cons_ne_nil _ _
    · rw [List.takeWhile_append_dropWhile, List.takeWhile_append_dropWhile]

/-! ## The forms of the lines -/

/-- The line is an entry of `apt list`: three words and a mark. -/
def AptForm (line : Text) : Prop :=
  ∃ packageRef gap version gap' architecture gap'' mark : Text, IsWord packageRef ∧ IsGap gap ∧
    IsWord version ∧ IsGap gap' ∧ IsWord architecture ∧ IsGap gap'' ∧
    isInstalledMark mark = true ∧
    line = packageRef ++ (gap ++ (version ++ (gap' ++ (architecture ++ (gap'' ++ mark)))))

/-- The line is one word, a name and a version. -/
def NameVersionForm (line : Text) : Prop :=
  ∃ name version : Text, name ≠ [] ∧ (∀ c ∈ name, isNameChar c = true) ∧ IsWord version ∧
    trimmed line = name ++ ':' :: version

theorem isInstalledMark_head {mark : Text} (h : isInstalledMark mark = true) :
    ∃ rest, mark = '[' :: rest := by
  unfold isInstalledMark at h
  split at h
  next rest => exact ⟨rest, rfl⟩
  next => exact absurd h Bool.false_ne_true

/-- **The pattern of the apt entries is read as it is written.** -/
theorem matchAptLine_append {packageRef gap version gap' architecture gap'' mark : Text}
    (href : IsWord packageRef) (hgap : IsGap gap) (hversion : IsWord version) (hgap' : IsGap gap')
    (harch : IsWord architecture) (hgap'' : IsGap gap'') (hmark : isInstalledMark mark = true) :
    matchAptLine (packageRef ++ (gap ++ (version ++ (gap' ++ (architecture ++ (gap'' ++ mark)))))) =
      some (packageRef, version, architecture) := by
  obtain ⟨rest, rfl⟩ := isInstalledMark_head hmark
  have hhead : ∀ {word : Text} (more : Text), IsWord word →
      ∀ c ∈ (word ++ more).head?, isJsWhitespace c = false := by
    intro word more hword c hc
    obtain ⟨d, tail, heq, hd⟩ := hword.head more
    rw [heq] at hc
    obtain rfl := Option.some.inj hc
    exact hd
  have hbracket : ∀ c ∈ ('[' :: rest).head?, isJsWhitespace c = false := by
    intro c hc
    obtain rfl := Option.some.inj hc
    decide
  rw [matchAptLine, wordAndBlanks_append href hgap (hhead _ hversion)]
  simp only [Option.bind_eq_bind, Option.bind_some]
  rw [wordAndBlanks_append hversion hgap' (hhead _ harch)]
  simp only [Option.bind_some]
  rw [wordAndBlanks_append harch hgap'' hbracket]
  exact if_pos hmark

theorem AptForm.of_matchAptLine {groups : Text × Text × Text}
    (h : matchAptLine line = some groups) : AptForm line := by
  obtain ⟨⟨packageRef, afterRef⟩, hfirst, h₁⟩ := Option.bind_eq_some_iff.mp h
  obtain ⟨⟨version, afterVersion⟩, hsecond, h₂⟩ := Option.bind_eq_some_iff.mp h₁
  obtain ⟨⟨architecture, mark⟩, hthird, h₃⟩ := Option.bind_eq_some_iff.mp h₂
  have hmark : isInstalledMark mark = true := by
    by_contra hmark
    simp only [hmark] at h₃
    exact absurd h₃ (Option.some_ne_none _).symm
  obtain ⟨gap, href, hgap, hline⟩ := wordAndBlanks_eq_some hfirst
  obtain ⟨gap', hversion, hgap', hafter⟩ := wordAndBlanks_eq_some hsecond
  obtain ⟨gap'', harch, hgap'', hlast⟩ := wordAndBlanks_eq_some hthird
  refine ⟨packageRef, gap, version, gap', architecture, gap'', mark, href, hgap, hversion, hgap',
    harch, hgap'', hmark, ?_⟩
  rw [hline, hafter, hlast]

/-- The fourth word of such a line begins with a bracket. -/
theorem AptForm.words (h : AptForm line) : ∃ packageRef version architecture word rest,
    wordsOf isJsWhitespace line =
      packageRef :: version :: architecture :: ('[' :: word) :: rest := by
  obtain ⟨packageRef, gap, version, gap', architecture, gap'', mark, href, hgap, hversion, hgap',
    harch, hgap'', hmark, rfl⟩ := h
  obtain ⟨tail, rfl⟩ := isInstalledMark_head hmark
  have hbracket : isJsWhitespace '[' = false := by decide
  obtain ⟨word, rest, hwords⟩ := wordsOf_cons_of_not_sep hbracket tail
  refine ⟨packageRef, version, architecture, word, rest, ?_⟩
  rw [wordsOf_word_append href.1 href.2 hgap.1 hgap.2,
    wordsOf_word_append hversion.1 hversion.2 hgap'.1 hgap'.2,
    wordsOf_word_append harch.1 harch.2 hgap''.1 hgap''.2, hwords]

theorem aptEntry_eq_none (h : ¬AptForm (trimmed line)) : aptEntry line = none := by
  have hmatch : matchAptLine (trimmed line) = none := by
    by_contra hsome
    obtain ⟨groups, hgroups⟩ := Option.ne_none_iff_exists'.mp hsome
    exact h (AptForm.of_matchAptLine hgroups)
  rw [aptEntry, hmatch]
  split <;> rfl

theorem not_blank_of_isNameChar {c : Char} (h : isNameChar c = true) :
    isJsWhitespace c = false := by
  have hrange : 0x2b ≤ c.toNat ∧ c.toNat ≤ 0x7a := by
    simp only [isNameChar, Bool.or_eq_true, Bool.and_eq_true, decide_eq_true_iff, beq_iff_eq,
      Char.le_def, UInt32.le_iff_toNat_le] at h
    have hletters : 'a'.val.toNat = 97 ∧ 'z'.val.toNat = 122 ∧ 'A'.val.toNat = 65 ∧
        'Z'.val.toNat = 90 ∧ '0'.val.toNat = 48 ∧ '9'.val.toNat = 57 := by decide
    have hval : c.val.toNat = c.toNat := rfl
    rcases h with ((((h | h) | h) | rfl) | rfl) | rfl
    · omega
    · omega
    · omega
    · decide
    · decide
    · decide
  simp [isJsWhitespace, UInt32.le_iff_toNat_le, ← UInt32.toNat_inj]
  omega

theorem not_isNameChar_colon : isNameChar ':' = false := by decide

/-- The line has no blank inside. -/
theorem NameVersionForm.not_blank (h : NameVersionForm line) :
    ∀ c ∈ trimmed line, isJsWhitespace c = false := by
  obtain ⟨name, version, -, hname, hversion, hline⟩ := h
  rw [hline]
  intro c hc
  rcases List.mem_append.mp hc with hc | hc
  · exact not_blank_of_isNameChar (hname c hc)
  · rcases List.mem_cons.mp hc with rfl | hc
    · decide
    · exact hversion.2 c hc

/-- **A line is read as a name and a version exactly if it has their form.** -/
theorem nameVersionEntry_eq_none_iff : nameVersionEntry line = none ↔ ¬NameVersionForm line := by
  constructor
  · rintro hnone ⟨name, version, hne, hname, hversion, hline⟩
    have hcolon : ¬isNameChar ':' = true := by
      rw [not_isNameChar_colon]
      exact Bool.false_ne_true
    have hblank : ¬version.any isJsWhitespace = true := by
      rw [List.any_eq_true]
      rintro ⟨c, hc, hblank⟩
      rw [hversion.2 c hc] at hblank
      exact absurd hblank Bool.false_ne_true
    have hok : ¬(name = [] ∨ version = [] ∨ version.any isJsWhitespace) :=
      not_or.mpr ⟨hne, not_or.mpr ⟨hversion.1, hblank⟩⟩
    rw [nameVersionEntry, hline, List.dropWhile_append_of_pos hname,
      List.dropWhile_cons_of_neg hcolon, List.takeWhile_append_of_pos hname,
      List.takeWhile_cons_of_neg hcolon, List.append_nil] at hnone
    simp only [hok, if_false] at hnone
    exact absurd hnone (Option.some_ne_none _)
  · intro hform
    rw [nameVersionEntry]
    split
    next version hrest =>
      rw [if_pos]
      by_contra hok
      obtain ⟨hname, hversion, hblank⟩ := not_or.mp hok |>.imp_right not_or.mp
      refine hform ⟨_, version, hname, fun c hc => List.mem_takeWhile_imp hc, ⟨hversion, ?_⟩, ?_⟩
      · intro c hc
        by_contra hc'
        exact hblank (List.any_eq_true.mpr ⟨c, hc, by simpa using hc'⟩)
      · rw [← hrest, List.takeWhile_append_dropWhile]
    next => rfl

end PackagesService
