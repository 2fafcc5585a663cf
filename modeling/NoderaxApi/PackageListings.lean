/-
# Printed package listings

What `dpkg -l` and `apt list --installed` print, and what is read of it.  The rows of `dpkg -l` are
read if their status begins `ii` with no error mark: the packages on hold are installed as well, and
are lost.
-/
import NoderaxApi.PackageParsers

namespace PackagesService

open Words TextLines

variable {line text : Text}

/-! ## The rows of `dpkg -l` -/

/-- The letters of `dpkg -l` for what is wanted of a package and for what is the case. -/
def wantLetters : List Char := "uihrp".toList

def statusLetters : List Char := "ncHUFWti".toList

/-- The line begins with the status of a package, as the rows of `dpkg -l` do. -/
def DpkgForm (line : Text) : Prop :=
  ∃ want ∈ wantLetters, ∃ status ∈ statusLetters, ∃ word ∈ (wordsOf isJsWhitespace line).head?,
    word = [want, status] ∨ word = [want, status, 'R']

/-- A row of `dpkg -l`. -/
structure DpkgRow where
  want : Char
  status : Char
  error : Char
  name : Text
  nameGap : Text
  version : Text
  versionGap : Text
  architecture : Text
  architectureGap : Text
  description : Text
  want_mem : want ∈ wantLetters
  status_mem : status ∈ statusLetters
  error_mem : error ∈ [' ', 'R']
  name_word : IsWord name
  version_word : IsWord version
  architecture_word : IsWord architecture
  architecture_head : architecture.head? ≠ some '['
  gaps : ∀ gap ∈ [nameGap, versionGap, architectureGap], IsGap gap ∧ '\n' ∉ gap
  description_line : '\n' ∉ description

/-- The line that is printed. -/
def DpkgRow.print (row : DpkgRow) : Text :=
  row.want :: row.status :: row.error :: ' ' :: (row.name ++ (row.nameGap ++ (row.version ++
    (row.versionGap ++ (row.architecture ++ (row.architectureGap ++ row.description))))))

/-- The package of a row. -/
def DpkgRow.entry (row : DpkgRow) : PackageEntry :=
  ⟨row.name, some row.version, some row.architecture,
    joinOrNull (wordsOf isJsWhitespace row.description)⟩

theorem letters_not_blank : (∀ c ∈ wantLetters, isJsWhitespace c = false) ∧
    ∀ c ∈ statusLetters, isJsWhitespace c = false :=
  ⟨not_blank_of_any (by decide), not_blank_of_any (by decide)⟩

/-- The row from the name on. -/
def DpkgRow.columns (row : DpkgRow) : Text :=
  row.name ++ (row.nameGap ++ (row.version ++ (row.versionGap ++ (row.architecture ++
    (row.architectureGap ++ row.description)))))

theorem DpkgRow.trimmed_print (row : DpkgRow) : trimmed row.print =
    row.want :: row.status :: row.error :: ' ' :: trim isJsWhitespace row.columns := by
  obtain ⟨c, tail, hcolumns, hc⟩ := row.name_word.head (row.nameGap ++ (row.version ++
    (row.versionGap ++ (row.architecture ++ (row.architectureGap ++ row.description)))))
  have hfirst := letters_not_blank.1 row.want row.want_mem
  rw [trimmed, DpkgRow.print, DpkgRow.columns, hcolumns]
  exact trim_cons_append hfirst hc [row.status, row.error, ' '] tail

theorem DpkgRow.wordsOf_columns (row : DpkgRow) : wordsOf isJsWhitespace row.columns =
    row.name :: row.version :: row.architecture :: wordsOf isJsWhitespace row.description := by
  have hname := (row.gaps row.nameGap (by simp)).1
  have hversion := (row.gaps row.versionGap (by simp)).1
  have harch := (row.gaps row.architectureGap (by simp)).1
  rw [DpkgRow.columns, wordsOf_word_append row.name_word.1 row.name_word.2 hname.1 hname.2,
    wordsOf_word_append row.version_word.1 row.version_word.2 hversion.1 hversion.2,
    wordsOf_word_append row.architecture_word.1 row.architecture_word.2 harch.1 harch.2]

/-- The words of a row. -/
theorem DpkgRow.wordsOf_print (row : DpkgRow) : ∃ word, wordsOf isJsWhitespace row.print =
    word :: row.name :: row.version :: row.architecture ::
      wordsOf isJsWhitespace row.description := by
  have hwant := letters_not_blank.1 row.want row.want_mem
  have hstatus := letters_not_blank.2 row.status row.status_mem
  have hblank : ∀ c ∈ [' '], isJsWhitespace c = true :=
    List.forall_mem_singleton.mpr isJsWhitespace_blank
  have hcolumns := row.wordsOf_columns
  have hprint : row.print = row.want :: row.status :: row.error :: ' ' :: row.columns := rfl
  rcases List.mem_cons.mp row.error_mem with herror | herror
  · refine ⟨[row.want, row.status], ?_⟩
    have hword : ∀ c ∈ [row.want, row.status], isJsWhitespace c = false := by
      simp [hwant, hstatus]
    have hgap : ∀ c ∈ [row.error, ' '], isJsWhitespace c = true := by
      rw [herror]
      exact List.all_eq_true.mp (by decide)
    rw [hprint, ← hcolumns]
    exact wordsOf_word_append (List.cons_ne_nil _ _) hword (List.cons_ne_nil _ _) hgap row.columns
  · refine ⟨[row.want, row.status, row.error], ?_⟩
    have hword : ∀ c ∈ [row.want, row.status, row.error], isJsWhitespace c = false := by
      rw [List.mem_singleton.mp herror]
      simp [hwant, hstatus]
      decide
    rw [hprint, ← hcolumns]
    exact wordsOf_word_append (List.cons_ne_nil _ _) hword (List.cons_ne_nil _ _) hblank row.columns

theorem DpkgRow.not_lineFeed (row : DpkgRow) : '\n' ∉ row.print := by
  have hgaps := fun gap hgap => (row.gaps gap hgap).2
  simp only [List.forall_mem_cons, List.not_mem_nil, false_implies, implies_true, and_true] at hgaps
  have hwant : '\n' ≠ row.want := by
    intro h
    exact absurd (h ▸ row.want_mem) (by decide)
  have hstatus : '\n' ≠ row.status := by
    intro h
    exact absurd (h ▸ row.status_mem) (by decide)
  have herror : '\n' ≠ row.error := by
    intro h
    exact absurd (h ▸ row.error_mem) (by decide)
  have hblank : '\n' ≠ ' ' := by decide
  simp only [DpkgRow.print, List.mem_cons, List.mem_append, not_or]
  exact ⟨hwant, hstatus, herror, hblank, row.name_word.not_lineFeed, hgaps.1,
    row.version_word.not_lineFeed, hgaps.2.1, row.architecture_word.not_lineFeed, hgaps.2.2,
    row.description_line⟩

/-- The row is of a package that is wanted and installed, without an error. -/
def DpkgRow.IsPlain (row : DpkgRow) : Prop :=
  row.want = 'i' ∧ row.status = 'i' ∧ row.error = ' '

instance (row : DpkgRow) : Decidable row.IsPlain := inferInstanceAs (Decidable (_ ∧ _ ∧ _))

/-- **A row is read exactly if it is plain.** -/
theorem dpkgEntry_row (row : DpkgRow) :
    dpkgEntry row.print = if row.IsPlain then some row.entry else none := by
  obtain ⟨word, hwords⟩ := row.wordsOf_print
  have hstart : startsWith (trimmed row.print) "ii ".toList = decide row.IsPlain := by
    rw [row.trimmed_print]
    have hpattern : "ii ".toList = ['i', 'i', ' '] := rfl
    rw [startsWith, hpattern, Bool.eq_iff_iff, decide_eq_true_iff, DpkgRow.IsPlain]
    simp only [List.isPrefixOf_cons_cons, List.isPrefixOf_nil_left, Bool.and_true, Bool.and_eq_true,
      beq_iff_eq]
    rw [eq_comm, and_congr_right fun _ => and_congr eq_comm eq_comm]
  rw [dpkgEntry, hstart, trimmed, wordsOf_trim, hwords]
  by_cases hplain : row.IsPlain
  · rw [if_pos hplain, if_pos (decide_eq_true hplain)]
    rfl
  · rw [if_neg hplain, if_neg fun h => hplain (of_decide_eq_true h)]

/-- A row is no entry of `apt list`: the word after the version is no mark. -/
theorem aptEntry_row (row : DpkgRow) : aptEntry row.print = none := by
  refine aptEntry_eq_none fun hform => ?_
  obtain ⟨packageRef, version, architecture, mark, rest, hwords⟩ := hform.words
  obtain ⟨word, hrow⟩ := row.wordsOf_print
  rw [trimmed, wordsOf_trim, hrow] at hwords
  simp only [List.cons.injEq] at hwords
  apply row.architecture_head
  rw [hwords.2.2.2.1, List.head?_cons]

/-- A row is no name and version: it has blanks. -/
theorem nameVersionEntry_row (row : DpkgRow) : nameVersionEntry row.print = none := by
  rw [nameVersionEntry_eq_none_iff]
  intro hform
  have hblank : isJsWhitespace ' ' = false := by
    refine hform.not_blank ' ' ?_
    rw [row.trimmed_print]
    simp
  exact absurd hblank (by decide)

/-! ## The entries of `apt list` -/

/-- An entry of `apt list --installed`. -/
structure AptRow where
  name : Text
  suite : Text
  gap : Text
  version : Text
  versionGap : Text
  architecture : Text
  architectureGap : Text
  details : Text
  name_ne : name ≠ []
  name_chars : ∀ c ∈ name, isNameChar c = true ∧ c.isUpper = false
  suite_word : IsWord suite
  version_word : IsWord version
  architecture_word : IsWord architecture
  gaps : ∀ gap' ∈ [gap, versionGap, architectureGap], IsGap gap' ∧ '\n' ∉ gap'
  details_chars : ']' ∉ details ∧ '\n' ∉ details

/-- The line that is printed. -/
def AptRow.print (row : AptRow) : Text :=
  (row.name ++ '/' :: row.suite) ++ (row.gap ++ (row.version ++ (row.versionGap ++
    (row.architecture ++ (row.architectureGap ++
      ("[installed".toList ++ (row.details ++ [']'])))))))

/-- The package of an entry. -/
def AptRow.entry (row : AptRow) : PackageEntry :=
  ⟨row.name, some row.version, some row.architecture, none⟩

theorem AptRow.reference_word (row : AptRow) : IsWord (row.name ++ '/' :: row.suite) := by
  refine ⟨List.append_ne_nil_of_left_ne_nil row.name_ne _, fun c hc => ?_⟩
  rcases List.mem_append.mp hc with hc | hc
  · exact not_blank_of_isNameChar (row.name_chars c hc).1
  · rcases List.mem_cons.mp hc with rfl | hc
    · decide
    · exact row.suite_word.2 c hc

theorem AptRow.not_lineFeed (row : AptRow) : '\n' ∉ row.print := by
  have hgaps := fun gap hgap => (row.gaps gap hgap).2
  simp only [List.forall_mem_cons, List.not_mem_nil, false_implies, implies_true, and_true] at hgaps
  have hmark : '\n' ∉ "[installed".toList ∧ '\n' ∉ [']'] := by decide
  rw [AptRow.print]
  simp only [List.mem_append (s := row.name ++ '/' :: row.suite), List.mem_append (s := row.gap),
    List.mem_append (s := row.version), List.mem_append (s := row.versionGap),
    List.mem_append (s := row.architecture), List.mem_append (s := row.architectureGap),
    List.mem_append (s := "[installed".toList), List.mem_append (s := row.details), not_or]
  exact ⟨row.reference_word.not_lineFeed, hgaps.1, row.version_word.not_lineFeed, hgaps.2.1,
    row.architecture_word.not_lineFeed, hgaps.2.2, hmark.1, row.details_chars.2, hmark.2⟩

theorem AptRow.mark (row : AptRow) :
    isInstalledMark ("[installed".toList ++ (row.details ++ [']'])) = true := by
  have hmark : "[installed".toList ++ (row.details ++ [']']) =
      '[' :: (("installed".toList ++ row.details) ++ [']']) := by
    rw [List.append_assoc]
    rfl
  have hclosed : ("installed".toList ++ row.details).contains ']' = false := by
    rw [List.contains_eq_mem, decide_eq_false_iff_not, List.mem_append, not_or]
    exact ⟨by decide, row.details_chars.1⟩
  have hlower : ("installed".toList).map Char.toLower = "installed".toList := by decide
  have hprefix : startsWith (("installed".toList ++ row.details).map Char.toLower)
      "installed".toList = true := by
    rw [startsWith, List.isPrefixOf_iff_prefix, List.map_append, hlower]
    exact List.prefix_append _ _
  rw [hmark, isInstalledMark]
  simp only [List.getLast?_concat, List.dropLast_concat, hclosed, hprefix, beq_self_eq_true,
    Bool.not_false, Bool.and_self]

theorem AptRow.packageName_reference (row : AptRow) :
    packageName (row.name ++ '/' :: row.suite) = row.name := by
  have hslash : ∀ c ∈ row.name, c ≠ '/' := by
    rintro c hc rfl
    exact absurd (row.name_chars _ hc).1 (by decide)
  have hindex : (row.name ++ '/' :: row.suite).idxOf? '/' = some row.name.length := by
    rw [List.idxOf?_eq_some_iff]
    refine ⟨by simp, by simp, fun j hj => ?_⟩
    rw [List.getElem_append_left hj]
    exact hslash _ (List.getElem_mem hj)
  have hpos : row.name.length ≠ 0 := mt List.length_eq_zero_iff.mp row.name_ne
  obtain ⟨n, hn⟩ := Nat.exists_eq_succ_of_ne_zero hpos
  rw [packageName, hindex, hn]
  simp only
  rw [← Nat.succ_eq_add_one, ← hn, List.take_left]

/-- There is nothing to trim. -/
theorem AptRow.trimmed_print (row : AptRow) : trimmed row.print = row.print := by
  obtain ⟨c, tail, hword, hc⟩ := row.reference_word.head (row.gap ++ (row.version ++
    (row.versionGap ++ (row.architecture ++ (row.architectureGap ++
      ("[installed".toList ++ row.details))))))
  have hprint : row.print = c :: tail ++ [']'] := by
    rw [← hword, AptRow.print]
    simp only [List.append_assoc]
  have hlast : trim isJsWhitespace [']'] = [']'] := by decide
  rw [hprint, trimmed, trim_cons_append hc (by decide) tail [], hlast]

theorem AptRow.wordsOf_print (row : AptRow) : ∃ words,
    wordsOf isJsWhitespace row.print = (row.name ++ '/' :: row.suite) :: words := by
  have hgap := (row.gaps row.gap (by simp)).1
  exact ⟨_, by
    rw [AptRow.print, wordsOf_word_append row.reference_word.1 row.reference_word.2 hgap.1 hgap.2]⟩

theorem includes_of_append (before pattern after : Text) :
    includes (before ++ (pattern ++ after)) pattern = true := by
  rw [includes, List.any_eq_true]
  refine ⟨pattern ++ after, ?_, List.isPrefixOf_iff_prefix.mpr (List.prefix_append _ _)⟩
  rw [List.mem_tails]
  exact List.suffix_append _ _

/-- An entry is no header. -/
theorem AptRow.no_header (row : AptRow) :
    ¬(row.print = [] ∨ startsWith row.print "Listing...".toList ∨
      !includes row.print "[installed".toList) := by
  obtain ⟨c, name, hname⟩ := List.exists_cons_of_ne_nil row.name_ne
  have hprint : row.print = (row.name ++ '/' :: row.suite ++ row.gap ++ row.version ++
      row.versionGap ++ row.architecture ++ row.architectureGap) ++
        ("[installed".toList ++ (row.details ++ [']'])) := by
    rw [AptRow.print]
    simp only [List.append_assoc]
  have hmark : includes row.print "[installed".toList = true := by
    rw [hprint]
    exact includes_of_append _ _ _
  have hlistings : startsWith row.print "Listing...".toList = false := by
    have hc : c ≠ 'L' := by
      rintro rfl
      have hlower := (row.name_chars 'L' (by rw [hname]; exact List.mem_cons_self)).2
      exact absurd hlower (by decide)
    have hpattern : "Listing...".toList = 'L' :: "isting...".toList := rfl
    rw [startsWith, hpattern, AptRow.print, hname, List.cons_append, List.cons_append,
      List.isPrefixOf_cons_cons, beq_false_of_ne (Ne.symm hc), Bool.false_and]
  have hne : row.print ≠ [] := by
    rw [AptRow.print, hname]
    exact List.cons_ne_nil _ _
  simp only [hne, hlistings, hmark, Bool.not_true, Bool.false_eq_true, or_self, not_false_eq_true]

/-- **An entry is read.** -/
theorem aptEntry_row_eq (row : AptRow) : aptEntry row.print = some row.entry := by
  have hgap := (row.gaps row.gap (by simp)).1
  have hversionGap := (row.gaps row.versionGap (by simp)).1
  have harchGap := (row.gaps row.architectureGap (by simp)).1
  have hmatch := matchAptLine_append row.reference_word hgap row.version_word hversionGap
    row.architecture_word harchGap row.mark
  rw [aptEntry, row.trimmed_print, if_neg row.no_header, AptRow.print, hmatch, Option.map_some]
  simp only [row.packageName_reference]
  rfl

/-- The text of a line that begins like a plain row has that status first. -/
theorem dpkgEntry_eq_none (h : (wordsOf isJsWhitespace line).head? ≠ some ['i', 'i']) :
    dpkgEntry line = none := by
  rw [dpkgEntry, if_neg]
  intro hstart
  rw [startsWith, List.isPrefixOf_iff_prefix] at hstart
  obtain ⟨rest, hrest⟩ := hstart
  have hword : ∀ c ∈ ['i', 'i'], isJsWhitespace c = false := not_blank_of_any (by decide)
  have hgap : ∀ c ∈ [' '], isJsWhitespace c = true :=
    List.forall_mem_singleton.mpr isJsWhitespace_blank
  apply h
  rw [← wordsOf_trim, ← trimmed, ← hrest]
  have hwords := wordsOf_word_append (List.cons_ne_nil _ _) hword (List.cons_ne_nil _ _) hgap rest
  exact congrArg List.head? hwords

/-- An entry is no row of `dpkg -l`: its first word has a slash. -/
theorem dpkgEntry_aptRow (row : AptRow) : dpkgEntry row.print = none := by
  obtain ⟨words, hwords⟩ := row.wordsOf_print
  refine dpkgEntry_eq_none fun hhead => ?_
  rw [hwords, List.head?_cons, Option.some_inj] at hhead
  have hslash : '/' ∈ ['i', 'i'] := by
    rw [← hhead]
    simp
  exact absurd hslash (by decide)

/-! ## Listings -/

/-- A line of a listing: one of its rows, or a header, a warning or a blank line, which has the form
of a row of neither listing. -/
inductive ListingLine (ρ : Type) where
  | row (r : ρ)
  | other (line : Text) (h : '\n' ∉ line ∧ ¬DpkgForm line ∧ ¬AptForm (trimmed line))

namespace ListingLine

variable {ρ : Type}

/-- The text of a line. -/
def print (printRow : ρ → Text) : ListingLine ρ → Text
  | row r => printRow r
  | other line _ => line

/-- The rows among some lines. -/
def rows (lines : List (ListingLine ρ)) : List ρ :=
  lines.filterMap fun
    | row r => some r
    | other _ _ => none

/-- The other lines. -/
def others (lines : List (ListingLine ρ)) : List Text :=
  lines.filterMap fun
    | row _ => none
    | other line _ => some line

end ListingLine

open ListingLine

/-- A listing: the lines of one of the two commands. -/
inductive Listing where
  | dpkg (lines : List (ListingLine DpkgRow))
  | apt (lines : List (ListingLine AptRow))

/-- The output of the command. -/
def Listing.output : Listing → Text
  | dpkg lines => ['\n'].intercalate (lines.map (print DpkgRow.print))
  | apt lines => ['\n'].intercalate (lines.map (print AptRow.print))

/-- The installed packages of a listing, in order. -/
def Listing.installed : Listing → List PackageEntry
  | dpkg lines => ((rows lines).filter fun row => row.status == 'i').map DpkgRow.entry
  | apt lines => (rows lines).map AptRow.entry

/-- Every installed row is plain; and the other lines are not asked for names and versions, since a
row has been read, or have none. -/
def Listing.Faithful : Listing → Prop
  | dpkg lines => (∀ row ∈ rows lines, row.status = 'i' → row.IsPlain) ∧
      ((∃ row ∈ rows lines, row.IsPlain) ∨ ∀ line ∈ others lines, ¬NameVersionForm line)
  | apt lines => rows lines ≠ [] ∨ ∀ line ∈ others lines, ¬NameVersionForm line

/-! ## What is read -/

/-- The parsers look at a trimmed line. -/
theorem entries_return (line : Text) : dpkgEntry (line ++ ['\r']) = dpkgEntry line ∧
    aptEntry (line ++ ['\r']) = aptEntry line ∧
      nameVersionEntry (line ++ ['\r']) = nameVersionEntry line := by
  have htrim : trimmed (line ++ ['\r']) = trimmed line := trim_concat_sep (by decide)
  rw [dpkgEntry, aptEntry, nameVersionEntry, htrim]
  exact ⟨rfl, rfl, rfl⟩

theorem entries_blank (h : trimmed line = []) :
    dpkgEntry line = none ∧ aptEntry line = none ∧ nameVersionEntry line = none := by
  rw [dpkgEntry, aptEntry, nameVersionEntry, h]
  exact ⟨rfl, rfl, rfl⟩

theorem trimmed_eq_nil_iff : trimmed text = [] ↔ ∀ c ∈ text, isJsWhitespace c = true := by
  rw [← wordsOf_eq_nil_iff]
  constructor
  · intro h
    rw [← wordsOf_trim, ← trimmed, h]
    rfl
  · intro h
    rw [trimmed, trim, List.dropWhile_eq_nil_iff.mpr (wordsOf_eq_nil_iff.mp h)]
    rfl

/-- The parsers tried one after the other, on the lines of a text. -/
theorem parse_lines {lines : List Text} (h : ∀ line ∈ lines, '\n' ∉ line) :
    parseInstalledPackagesFromOutput (some (['\n'].intercalate lines)) =
      match lines.filterMap dpkgEntry with
      | [] =>
          match lines.filterMap aptEntry with
          | [] => lines.filterMap nameVersionEntry
          | results => results
      | results => results := by
  have hempty := entries_blank (rfl : trimmed [] = [])
  have hdpkg := filterMap_splitLines (fun line => (entries_return line).1) hempty.1 h
  have hapt := filterMap_splitLines (fun line => (entries_return line).2.1) hempty.2.1 h
  have hname := filterMap_splitLines (fun line => (entries_return line).2.2) hempty.2.2 h
  rw [parseInstalledPackagesFromOutput]
  simp only [parseDpkgListOutput, parseAptListInstalledOutput, parseNameVersionOutput]
  rw [hdpkg, hapt, hname]
  split
  next hblank =>
    -- a text of blanks has blank lines only
    have hlines : ∀ line ∈ splitLines (['\n'].intercalate lines), trimmed line = [] :=
      fun line hline => trimmed_eq_nil_iff.mpr fun c hc =>
        trimmed_eq_nil_iff.mp hblank c (mem_of_mem_splitLines hline c hc)
    rw [← hdpkg, ← hapt, ← hname,
      List.filterMap_eq_nil_iff.mpr fun line hline => (entries_blank (hlines line hline)).1,
      List.filterMap_eq_nil_iff.mpr fun line hline => (entries_blank (hlines line hline)).2.1,
      List.filterMap_eq_nil_iff.mpr fun line hline => (entries_blank (hlines line hline)).2.2]
  next => rfl

section Lines

variable {ρ : Type} {printRow : ρ → Text} {f : Text → Option PackageEntry}

/-- A parser that reads the rows alone. -/
theorem filterMap_rows {lines : List (ListingLine ρ)}
    (h : ∀ line ∈ others lines, f line = none) :
    (lines.map (print printRow)).filterMap f = (rows lines).filterMap fun r => f (printRow r) := by
  induction lines with
  | nil => rfl
  | cons line lines ih =>
      cases line with
      | row r =>
          have hrows : rows (row r :: lines) = r :: rows lines := rfl
          have hline : print printRow (row r) = printRow r := rfl
          rw [List.map_cons, List.filterMap_cons, ih h, hrows, List.filterMap_cons, hline]
      | other text htext =>
          have hnone : f (print printRow (other text htext)) = none := h text List.mem_cons_self
          have hrest : ∀ line ∈ others lines, f line = none :=
            fun line hline => h line (List.mem_cons_of_mem text hline)
          rw [List.map_cons, List.filterMap_cons_none hnone, ih hrest]
          rfl

/-- A parser that reads the other lines alone. -/
theorem filterMap_others {lines : List (ListingLine ρ)}
    (h : ∀ r ∈ rows lines, f (printRow r) = none) :
    (lines.map (print printRow)).filterMap f = (others lines).filterMap f := by
  induction lines with
  | nil => rfl
  | cons line lines ih =>
      cases line with
      | row r =>
          have hnone : f (print printRow (row r)) = none := h r List.mem_cons_self
          have hrest : ∀ r ∈ rows lines, f (printRow r) = none :=
            fun r' hr => h r' (List.mem_cons_of_mem r hr)
          rw [List.map_cons, List.filterMap_cons_none hnone, ih hrest]
          rfl
      | other text htext =>
          have hothers : others (other text htext :: lines) = text :: others lines := rfl
          have hline : print printRow (other text htext) = text := rfl
          rw [List.map_cons, List.filterMap_cons, ih h, hothers, List.filterMap_cons, hline]

/-- What is known of the other lines. -/
theorem others_form {lines : List (ListingLine ρ)} :
    ∀ line ∈ others lines, '\n' ∉ line ∧ ¬DpkgForm line ∧ ¬AptForm (trimmed line) := by
  intro text htext
  obtain ⟨line, -, hline⟩ := List.mem_filterMap.mp htext
  cases line with
  | row r => exact absurd hline (Option.some_ne_none _).symm
  | other line h =>
      obtain rfl := Option.some.inj hline
      exact h

theorem dpkgEntry_others {lines : List (ListingLine ρ)} :
    ∀ line ∈ others lines, dpkgEntry line = none := by
  intro line hline
  refine dpkgEntry_eq_none fun hhead => (others_form line hline).2.1 ?_
  exact ⟨'i', by decide, 'i', by decide, ['i', 'i'], hhead, .inl rfl⟩

theorem aptEntry_others {lines : List (ListingLine ρ)} :
    ∀ line ∈ others lines, aptEntry line = none :=
  fun line hline => aptEntry_eq_none (others_form line hline).2.2

/-- No line of a listing has a line feed inside. -/
theorem not_lineFeed_lines (hrow : ∀ r, '\n' ∉ printRow r) (lines : List (ListingLine ρ)) :
    ∀ line ∈ lines.map (print printRow), '\n' ∉ line := by
  intro text htext
  obtain ⟨line, -, rfl⟩ := List.mem_map.mp htext
  cases line with
  | row r => exact hrow r
  | other line h => exact h.1

/-- Names and versions among the other lines. -/
theorem nameVersion_others_eq_nil_iff {lines : List (ListingLine ρ)} :
    (others lines).filterMap nameVersionEntry = [] ↔
      ∀ line ∈ others lines, ¬NameVersionForm line := by
  rw [List.filterMap_eq_nil_iff]
  exact forall₂_congr fun _ _ => nameVersionEntry_eq_none_iff

end Lines

/-- What is read of a listing of `dpkg -l`. -/
theorem parse_dpkg (lines : List (ListingLine DpkgRow)) :
    parseInstalledPackagesFromOutput (some (Listing.dpkg lines).output) =
      match (rows lines).filter fun row => row.IsPlain with
      | [] => (others lines).filterMap nameVersionEntry
      | plain => plain.map DpkgRow.entry := by
  have hdpkg : (lines.map (print DpkgRow.print)).filterMap dpkgEntry =
      ((rows lines).filter fun row => row.IsPlain).map DpkgRow.entry := by
    rw [filterMap_rows dpkgEntry_others, ← List.filterMap_eq_filter, List.map_filterMap]
    refine List.filterMap_congr fun row _ => ?_
    rw [dpkgEntry_row, Option.guard]
    by_cases hplain : row.IsPlain <;> simp [hplain]
  have hapt : (lines.map (print DpkgRow.print)).filterMap aptEntry = [] := by
    rw [filterMap_rows aptEntry_others, List.filterMap_eq_nil_iff]
    exact fun row _ => aptEntry_row row
  have hname : (lines.map (print DpkgRow.print)).filterMap nameVersionEntry =
      (others lines).filterMap nameVersionEntry :=
    filterMap_others fun row _ => nameVersionEntry_row row
  rw [Listing.output, parse_lines (not_lineFeed_lines DpkgRow.not_lineFeed lines), hdpkg, hapt,
    hname]
  cases (rows lines).filter fun row => row.IsPlain <;> rfl

/-- What is read of a listing of `apt list`. -/
theorem parse_apt (lines : List (ListingLine AptRow)) :
    parseInstalledPackagesFromOutput (some (Listing.apt lines).output) =
      match rows lines with
      | [] => (others lines).filterMap nameVersionEntry
      | entries => entries.map AptRow.entry := by
  have hdpkg : (lines.map (print AptRow.print)).filterMap dpkgEntry = [] := by
    rw [filterMap_rows dpkgEntry_others, List.filterMap_eq_nil_iff]
    exact fun row _ => dpkgEntry_aptRow row
  have hapt : (lines.map (print AptRow.print)).filterMap aptEntry =
      (rows lines).map AptRow.entry := by
    rw [filterMap_rows aptEntry_others, ← List.filterMap_eq_map]
    exact List.filterMap_congr fun row _ => aptEntry_row_eq row
  rw [Listing.output, parse_lines (not_lineFeed_lines AptRow.not_lineFeed lines), hdpkg, hapt]
  cases hrows : rows lines with
  | nil =>
      refine filterMap_others fun row hrow => ?_
      rw [hrows] at hrow
      exact absurd hrow List.not_mem_nil
  | cons row entries => rfl

theorem nameVersionEntry_architecture {entry : PackageEntry}
    (h : nameVersionEntry line = some entry) : entry.architecture = none := by
  rw [nameVersionEntry] at h
  split at h
  next =>
    dsimp only at h
    split at h
    next => exact absurd h (Option.some_ne_none _).symm
    next => rw [← Option.some.inj h]
  next => exact absurd h (Option.some_ne_none _).symm

/-- Names and versions are no rows: they have no architecture. -/
theorem eq_nil_of_nameVersion {texts : List Text} {rows : List DpkgRow}
    (h : texts.filterMap nameVersionEntry = rows.map DpkgRow.entry) : rows = [] := by
  cases rows with
  | nil => rfl
  | cons row rows =>
      have hmem : row.entry ∈ texts.filterMap nameVersionEntry := by
        rw [h]
        exact List.mem_cons_self
      obtain ⟨text, -, hentry⟩ := List.mem_filterMap.mp hmem
      exact absurd (nameVersionEntry_architecture hentry) (Option.some_ne_none _)

/-- The rows that are read are the installed ones exactly if these are plain. -/
theorem filter_plain_eq_iff {rows : List DpkgRow} :
    (rows.filter fun row => row.IsPlain).map DpkgRow.entry =
      (rows.filter fun row => row.status == 'i').map DpkgRow.entry ↔
        ∀ row ∈ rows, row.status = 'i' → row.IsPlain := by
  have hfilter : (rows.filter fun row => row.IsPlain) =
      (rows.filter fun row => row.status == 'i').filter fun row => row.IsPlain := by
    rw [List.filter_filter]
    refine List.filter_congr fun row _ => ?_
    by_cases hplain : row.IsPlain
    · simp [hplain, hplain.2.1]
    · simp [hplain]
  constructor
  · intro heq row hrow hstatus
    have hlength := congrArg List.length heq
    rw [List.length_map, List.length_map, hfilter, List.length_filter_eq_length_iff] at hlength
    exact of_decide_eq_true (hlength row (List.mem_filter.mpr ⟨hrow, beq_iff_eq.mpr hstatus⟩))
  · intro h
    rw [hfilter, List.filter_eq_self.mpr]
    intro row hrow
    obtain ⟨hmem, hstatus⟩ := List.mem_filter.mp hrow
    exact decide_eq_true (h row hmem (beq_iff_eq.mp hstatus))

/-- **The installed packages are returned exactly when the listing is faithful.** -/
theorem parse_eq_installed_iff (listing : Listing) :
    parseInstalledPackagesFromOutput (some listing.output) = listing.installed ↔
      listing.Faithful := by
  cases listing with
  | dpkg lines =>
      rw [parse_dpkg, Listing.installed, Listing.Faithful]
      cases hplain : (rows lines).filter fun row => row.IsPlain with
      | nil =>
          have hnone : ¬∃ row ∈ rows lines, row.IsPlain := by
            rintro ⟨row, hrow, hrowPlain⟩
            have hmem : row ∈ (rows lines).filter fun row => row.IsPlain :=
              List.mem_filter.mpr ⟨hrow, decide_eq_true hrowPlain⟩
            rw [hplain] at hmem
            exact absurd hmem List.not_mem_nil
          rw [or_iff_right hnone, ← filter_plain_eq_iff, hplain, ← nameVersion_others_eq_nil_iff]
          simp only [List.map_nil]
          constructor
          · intro heq
            have hinstalled := eq_nil_of_nameVersion heq
            rw [hinstalled, List.map_nil] at heq ⊢
            exact ⟨rfl, heq⟩
          · rintro ⟨hinstalled, hname⟩
            rw [hname, hinstalled]
      | cons row plain =>
          have hsome : ∃ row ∈ rows lines, row.IsPlain := by
            have hmem : row ∈ (rows lines).filter fun row => row.IsPlain := by
              rw [hplain]
              exact List.mem_cons_self
            exact ⟨row, (List.mem_filter.mp hmem).1, of_decide_eq_true (List.mem_filter.mp hmem).2⟩
          rw [and_iff_left (.inl hsome), ← filter_plain_eq_iff, hplain]
  | apt lines =>
      rw [parse_apt, Listing.installed, Listing.Faithful]
      cases hrows : rows lines with
      | nil =>
          rw [or_iff_right (not_not.mpr rfl), ← nameVersion_others_eq_nil_iff]
          rfl
      | cons row entries => exact iff_of_true rfl (.inl (List.cons_ne_nil _ _))

/-! ## A package on hold -/

/-- The row of a package on hold. -/
def heldRow : DpkgRow where
  want := 'h'
  status := 'i'
  error := ' '
  name := "nginx".toList
  nameGap := [' ']
  version := "1.24.0-2".toList
  versionGap := [' ']
  architecture := "amd64".toList
  architectureGap := [' ']
  description := "web server".toList
  want_mem := by decide
  status_mem := by decide
  error_mem := by decide
  name_word := by decide
  version_word := by decide
  architecture_word := by decide
  architecture_head := by decide
  gaps := by decide
  description_line := by decide

/-- It is installed, and is lost. -/
theorem heldRow_lost :
    parseInstalledPackagesFromOutput (some (Listing.dpkg [.row heldRow]).output)
      ≠ (Listing.dpkg [.row heldRow]).installed := by
  have hread :
      parseInstalledPackagesFromOutput (some (Listing.dpkg [.row heldRow]).output) = [] := by
    decide +kernel
  rw [hread]
  exact (List.cons_ne_nil heldRow.entry []).symm

/-- An entry of `apt list`. -/
def curlRow : AptRow where
  name := "curl".toList
  suite := "noble-updates,now".toList
  gap := [' ']
  version := "8.5.0-2ubuntu10.6".toList
  versionGap := [' ']
  architecture := "amd64".toList
  architectureGap := [' ']
  details := ",automatic".toList
  name_ne := by decide
  name_chars := @of_decide_eq_true _ (List.decidableBAll _ _) rfl
  suite_word := by decide
  version_word := by decide
  architecture_word := by decide
  gaps := by decide
  details_chars := by decide

example : parseInstalledPackagesFromOutput (some (Listing.apt [.row curlRow]).output)
    = [⟨"curl".toList, some "8.5.0-2ubuntu10.6".toList, some "amd64".toList, none⟩] := by
  decide +kernel

end PackagesService
