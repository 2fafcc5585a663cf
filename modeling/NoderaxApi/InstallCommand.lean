/-
# The install command

`buildInstallCommand` writes the script that an operator runs on a new node.  The five values in it
are escaped by `shellEscape`; the script is read to the same commands whatever they are, and each of
them is one word of its command.
-/
import NoderaxApi.PosixShell

namespace InstallCommand

open PosixShell

/-! ## The script -/

/-- What `shellEscape` writes for a character: a quote ends the quotation and stands in another. -/
def escapeChar (c : Char) : List Char :=
  if c = '\'' then ['\'', '"', '\'', '"', '\''] else [c]

/-- `shellEscape`. -/
def shellEscape (value : String) : String :=
  "'" ++ String.ofList (value.toList.flatMap escapeChar) ++ "'"

/-- The program that prints the checksum in the manifest. -/
def checksumProgram : String :=
  "import json,sys; print(json.load(open(sys.argv[1]))[\"installer\"][\"sha256\"])"

/-- `buildInstallCommand`. -/
def buildInstallCommand (scriptUrl manifestUrl minisignPublicKey apiUrl token : String) : String :=
  "\n".intercalate [
    "set -euo pipefail",
    "tmp=\"$(mktemp -d)\"",
    "trap 'rm -rf \"$tmp\"' EXIT",
    "curl -fsSLo \"$tmp/install.sh\" " ++ shellEscape scriptUrl,
    "curl -fsSLo \"$tmp/release-manifest.json\" " ++ shellEscape manifestUrl,
    "curl -fsSLo \"$tmp/release-manifest.json.minisig\" " ++
      shellEscape (manifestUrl ++ ".minisig"),
    "minisign -Vm \"$tmp/release-manifest.json\" -P " ++ shellEscape minisignPublicKey,
    "expected_sha=\"$(python3 -c '" ++ checksumProgram ++ "' \"$tmp/release-manifest.json\")\"",
    "actual_sha=\"$(sha256sum \"$tmp/install.sh\" | awk '\x7bprint $1\x7d')\"",
    "test \"$expected_sha\" = \"$actual_sha\"",
    "sudo env NODERAX_AGENT_RELEASE_MANIFEST_URL=" ++ shellEscape manifestUrl ++
      " NODERAX_AGENT_MINISIGN_PUBLIC_KEY=" ++ shellEscape minisignPublicKey ++
      " bash \"$tmp/install.sh\" --api-url " ++ shellEscape apiUrl ++
      " --bootstrap-token " ++ shellEscape token]

/-- A value that can stand in a script. -/
abbrev ShellValue := { value : String // Char.ofNat 0 ∉ value.toList }

/-! ## Escaped values -/

/-- An escaped character of a value, in single quotes. -/
theorem run_escapeChar {c : Char} (hnul : c ≠ Char.ofNat 0) (level : Level)
    (outer : List Level) :
    Reader.run ⟨.single, level, outer⟩ (escapeChar c) =
      some ⟨.single, { level with word := level.word ++ [.quoted c] }, outer⟩ := by
  unfold escapeChar
  split
  next hquote =>
    -- the quotation ends, the quote stands in double quotes, and a new one begins
    subst hquote
    rfl
  next hquote =>
    rw [Reader.run_cons, Reader.step, if_neg hnul]
    simp only [if_neg hquote]
    rfl

theorem run_escapeChars {text : List Char} (hnul : Char.ofNat 0 ∉ text) (level : Level)
    (outer : List Level) :
    Reader.run ⟨.single, level, outer⟩ (text.flatMap escapeChar) =
      some ⟨.single, { level with word := level.word ++ quotedWord text }, outer⟩ := by
  induction text generalizing level with
  | nil => rw [List.flatMap_nil, Reader.run_nil, quotedWord, List.map_nil, List.append_nil]
  | cons c text ih =>
      simp only [List.mem_cons, not_or] at hnul
      have hword : level.word ++ quotedWord (c :: text) =
          (level.word ++ [.quoted c]) ++ quotedWord text := by
        rw [List.append_assoc]
        rfl
      rw [List.flatMap_cons,
        Reader.run_append_eq (run_escapeChar (Ne.symm hnul.1) level outer), ih hnul.2, hword]

theorem toList_shellEscape (value : String) :
    (shellEscape value).toList = '\'' :: (value.toList.flatMap escapeChar ++ ['\'']) := by
  have hquote : "'".toList = ['\''] := rfl
  rw [shellEscape, String.toList_append, String.toList_append, hquote,
    String.toList_ofList (l := value.toList.flatMap escapeChar)]
  rfl

/-- **An escaped value is a piece of a word**, with no expansion in it. -/
theorem readsPieces_shellEscape {value : String} (hnul : Char.ofNat 0 ∉ value.toList) :
    ReadsPieces (shellEscape value).toList (quotedWord value.toList) := by
  intro mode level outer hmode
  have hopen : Reader.step ⟨mode, level, outer⟩ '\'' = some ⟨.single, level, outer⟩ := by
    rw [step_of_mode hmode (by decide)]
    rfl
  rw [toList_shellEscape, Reader.run_cons, hopen, Option.bind_some,
    Reader.run_append_eq (run_escapeChars hnul level outer)]
  rfl

/-! ## The commands -/

/-- `"$tmp"` with a path. -/
def inTmp (path : String) : Word := .param "tmp".toList :: quotedWord path.toList

/-- The words of the commands of the script. -/
def installWords (scriptUrl manifestUrl minisignPublicKey apiUrl token : String) :
    List (List Word) :=
  [ [bareWord "set", bareWord "-euo", bareWord "pipefail"],
    [bareWord "tmp=" ++ [.subst [.mk [bareWord "mktemp", bareWord "-d"] false]]],
    [bareWord "trap", quotedWord "rm -rf \"$tmp\"".toList, bareWord "EXIT"],
    [bareWord "curl", bareWord "-fsSLo", inTmp "/install.sh", quotedWord scriptUrl.toList],
    [bareWord "curl", bareWord "-fsSLo", inTmp "/release-manifest.json",
      quotedWord manifestUrl.toList],
    [bareWord "curl", bareWord "-fsSLo", inTmp "/release-manifest.json.minisig",
      quotedWord (manifestUrl ++ ".minisig").toList],
    [bareWord "minisign", bareWord "-Vm", inTmp "/release-manifest.json", bareWord "-P",
      quotedWord minisignPublicKey.toList],
    [bareWord "expected_sha=" ++ [.subst [.mk [bareWord "python3", bareWord "-c",
      quotedWord checksumProgram.toList, inTmp "/release-manifest.json"] false]]],
    [bareWord "actual_sha=" ++ [.subst [.mk [bareWord "sha256sum", inTmp "/install.sh"] true,
      .mk [bareWord "awk", quotedWord "\x7bprint $1\x7d".toList] false]]],
    [bareWord "test", [.param "expected_sha".toList], bareWord "=",
      [.param "actual_sha".toList]],
    [bareWord "sudo", bareWord "env",
      bareWord "NODERAX_AGENT_RELEASE_MANIFEST_URL=" ++ quotedWord manifestUrl.toList,
      bareWord "NODERAX_AGENT_MINISIGN_PUBLIC_KEY=" ++ quotedWord minisignPublicKey.toList,
      bareWord "bash", inTmp "/install.sh", bareWord "--api-url", quotedWord apiUrl.toList,
      bareWord "--bootstrap-token", quotedWord token.toList] ]

/-! ## The lines -/

theorem readsPieces_inTmp (path : String)
    (h : path.toList.all isDoubleSafe = true ∧ path.toList.head?.any isNameChar = false) :
    ReadsPieces ('"' :: "$tmp".toList ++ (path.toList ++ ['"'])) (inTmp path) :=
  readsPieces_param 't' ['m', 'p'] path.toList (by decide) (by decide) h.1 h.2

theorem readsLine_set : ReadsLine "set -euo pipefail".toList
    [bareWord "set", bareWord "-euo", bareWord "pipefail"] := by
  have hline : "set -euo pipefail".toList =
      "set".toList ++ ' ' :: "-euo".toList ++ ' ' :: "pipefail".toList := by decide +kernel
  have hwords := ((readsPieces_bareWord "set" (by decide)).readsWords.bare "-euo" (by decide)).bare
    "pipefail" (by decide)
  exact hwords.readsLine hline rfl rfl

theorem readsLine_tmp : ReadsLine "tmp=\"$(mktemp -d)\"".toList
    [bareWord "tmp=" ++ [.subst [.mk [bareWord "mktemp", bareWord "-d"] false]]] := by
  have hline : "tmp=\"$(mktemp -d)\"".toList = "tmp=".toList ++
      '"' :: '$' :: '(' :: (("mktemp".toList ++ ' ' :: "-d".toList) ++ [')', '"']) := by
    decide +kernel
  have hscript := ((readsPieces_bareWord "mktemp" (by decide)).readsWords.bare "-d"
    (by decide)).readsScript rfl
  have hwords := ((readsPieces_bareWord "tmp=" (by decide)).append
    (readsPieces_subst hscript)).readsWords
  exact hwords.readsLine hline rfl rfl

theorem readsLine_trap : ReadsLine "trap 'rm -rf \"$tmp\"' EXIT".toList
    [bareWord "trap", quotedWord "rm -rf \"$tmp\"".toList, bareWord "EXIT"] := by
  have hline : "trap 'rm -rf \"$tmp\"' EXIT".toList = "trap".toList ++
      ' ' :: '\'' :: ("rm -rf \"$tmp\"".toList ++ ['\'']) ++ ' ' :: "EXIT".toList := by
    decide +kernel
  have hwords := ((readsPieces_bareWord "trap" (by decide)).readsWords.concat
    (readsPieces_quoted "rm -rf \"$tmp\"" (by decide))).bare "EXIT" (by decide)
  exact hwords.readsLine hline rfl rfl

/-- A file that is fetched. -/
theorem readsLine_curl {front path : String} {url : String}
    (hfront : front.toList = "curl".toList ++ ' ' :: "-fsSLo".toList ++
      ' ' :: ('"' :: "$tmp".toList ++ (path.toList ++ ['"'])) ++ [' '])
    (hpath : path.toList.all isDoubleSafe = true ∧ path.toList.head?.any isNameChar = false)
    (hurl : Char.ofNat 0 ∉ url.toList) :
    ReadsLine (front ++ shellEscape url).toList
      [bareWord "curl", bareWord "-fsSLo", inTmp path, quotedWord url.toList] := by
  have hwords := (((readsPieces_bareWord "curl" (by decide)).readsWords.bare "-fsSLo"
    (by decide)).concat (readsPieces_inTmp path hpath)).concat (readsPieces_shellEscape hurl)
  refine hwords.readsLine ?_ rfl rfl
  rw [String.toList_append, hfront, List.append_assoc _ [' ']]
  rfl

theorem readsLine_minisign {key : String} (hkey : Char.ofNat 0 ∉ key.toList) :
    ReadsLine ("minisign -Vm \"$tmp/release-manifest.json\" -P " ++ shellEscape key).toList
      [bareWord "minisign", bareWord "-Vm", inTmp "/release-manifest.json", bareWord "-P",
        quotedWord key.toList] := by
  have hfront : "minisign -Vm \"$tmp/release-manifest.json\" -P ".toList = "minisign".toList ++
      ' ' :: "-Vm".toList ++
      ' ' :: ('"' :: "$tmp".toList ++ ("/release-manifest.json".toList ++ ['"'])) ++
      ' ' :: "-P".toList ++ [' '] := by
    decide +kernel
  have hwords := ((((readsPieces_bareWord "minisign" (by decide)).readsWords.bare "-Vm"
    (by decide)).concat (readsPieces_inTmp "/release-manifest.json" (by decide))).bare "-P"
    (by decide)).concat (readsPieces_shellEscape hkey)
  refine hwords.readsLine ?_ rfl rfl
  rw [String.toList_append, hfront, List.append_assoc _ [' ']]
  rfl

theorem readsLine_expected : ReadsLine ("expected_sha=\"$(python3 -c '" ++ checksumProgram ++
      "' \"$tmp/release-manifest.json\")\"").toList
    [bareWord "expected_sha=" ++ [.subst [.mk [bareWord "python3", bareWord "-c",
      quotedWord checksumProgram.toList, inTmp "/release-manifest.json"] false]]] := by
  have hfront : "expected_sha=\"$(python3 -c '".toList = "expected_sha=".toList ++
      '"' :: '$' :: '(' :: ("python3".toList ++ ' ' :: "-c".toList ++ [' ', '\'']) := by
    decide +kernel
  have hback : "' \"$tmp/release-manifest.json\")\"".toList = ['\''] ++
      ' ' :: ('"' :: "$tmp".toList ++ ("/release-manifest.json".toList ++ ['"'])) ++
        [')', '"'] := by
    decide +kernel
  have hprogram : '\'' ∉ checksumProgram.toList ∧ Char.ofNat 0 ∉ checksumProgram.toList := by
    decide +kernel
  have hscript := (((readsPieces_bareWord "python3" (by decide)).readsWords.bare "-c"
    (by decide)).concat (readsPieces_quoted checksumProgram hprogram)).concat
    (readsPieces_inTmp "/release-manifest.json" (by decide))
  have hwords := ((readsPieces_bareWord "expected_sha=" (by decide)).append
    (readsPieces_subst (hscript.readsScript rfl))).readsWords
  have hline : ("expected_sha=\"$(python3 -c '" ++ checksumProgram ++
      "' \"$tmp/release-manifest.json\")\"").toList = "expected_sha=".toList ++
      '"' :: '$' :: '(' :: (("python3".toList ++ ' ' :: "-c".toList ++
        ' ' :: '\'' :: (checksumProgram.toList ++ ['\'']) ++
        ' ' :: ('"' :: "$tmp".toList ++ ("/release-manifest.json".toList ++ ['"']))) ++
        [')', '"']) := by
    rw [String.toList_append, String.toList_append, hfront, hback]
    simp only [List.append_assoc, List.cons_append, List.nil_append]
  exact hwords.readsLine hline rfl rfl

theorem readsLine_actual :
    ReadsLine "actual_sha=\"$(sha256sum \"$tmp/install.sh\" | awk '\x7bprint $1\x7d')\"".toList
      [bareWord "actual_sha=" ++ [.subst [.mk [bareWord "sha256sum", inTmp "/install.sh"] true,
        .mk [bareWord "awk", quotedWord "\x7bprint $1\x7d".toList] false]]] := by
  have hline : "actual_sha=\"$(sha256sum \"$tmp/install.sh\" | awk '\x7bprint $1\x7d')\"".toList =
      "actual_sha=".toList ++ '"' :: '$' :: '(' :: ((("sha256sum".toList ++
        ' ' :: ('"' :: "$tmp".toList ++ ("/install.sh".toList ++ ['"']))) ++ ' ' :: '|' :: ' ' ::
        ("awk".toList ++ ' ' :: '\'' :: ("\x7bprint $1\x7d".toList ++ ['\'']))) ++ [')', '"']) := by
    decide +kernel
  have hsum := (readsPieces_bareWord "sha256sum" (by decide)).readsWords.concat
    (readsPieces_inTmp "/install.sh" (by decide))
  have hawk := (readsPieces_bareWord "awk" (by decide)).readsWords.concat
    (readsPieces_quoted "\x7bprint $1\x7d" (by decide))
  have hwords := ((readsPieces_bareWord "actual_sha=" (by decide)).append
    (readsPieces_subst (hsum.pipe hawk rfl rfl))).readsWords
  exact hwords.readsLine hline rfl rfl

theorem readsLine_test : ReadsLine "test \"$expected_sha\" = \"$actual_sha\"".toList
    [bareWord "test", [.param "expected_sha".toList], bareWord "=",
      [.param "actual_sha".toList]] := by
  have hline : "test \"$expected_sha\" = \"$actual_sha\"".toList = "test".toList ++
      ' ' :: ('"' :: '$' :: 'e' :: ("xpected_sha".toList ++ ([] ++ ['"']))) ++ ' ' :: "=".toList ++
      ' ' :: ('"' :: '$' :: 'a' :: ("ctual_sha".toList ++ ([] ++ ['"']))) := by
    decide +kernel
  have hwords := (((readsPieces_bareWord "test" (by decide)).readsWords.concat
    (readsPieces_param 'e' "xpected_sha".toList [] (by decide) (by decide) rfl rfl)).bare "="
    (by decide)).concat
    (readsPieces_param 'a' "ctual_sha".toList [] (by decide) (by decide) rfl rfl)
  exact hwords.readsLine hline rfl rfl

theorem readsLine_sudo {manifestUrl minisignPublicKey apiUrl token : String}
    (hmanifest : Char.ofNat 0 ∉ manifestUrl.toList) (hkey : Char.ofNat 0 ∉ minisignPublicKey.toList)
    (hapi : Char.ofNat 0 ∉ apiUrl.toList) (htoken : Char.ofNat 0 ∉ token.toList) :
    ReadsLine ("sudo env NODERAX_AGENT_RELEASE_MANIFEST_URL=" ++ shellEscape manifestUrl ++
      " NODERAX_AGENT_MINISIGN_PUBLIC_KEY=" ++ shellEscape minisignPublicKey ++
      " bash \"$tmp/install.sh\" --api-url " ++ shellEscape apiUrl ++
      " --bootstrap-token " ++ shellEscape token).toList
    [bareWord "sudo", bareWord "env",
      bareWord "NODERAX_AGENT_RELEASE_MANIFEST_URL=" ++ quotedWord manifestUrl.toList,
      bareWord "NODERAX_AGENT_MINISIGN_PUBLIC_KEY=" ++ quotedWord minisignPublicKey.toList,
      bareWord "bash", inTmp "/install.sh", bareWord "--api-url", quotedWord apiUrl.toList,
      bareWord "--bootstrap-token", quotedWord token.toList] := by
  have henv : "sudo env NODERAX_AGENT_RELEASE_MANIFEST_URL=".toList = "sudo".toList ++
      ' ' :: "env".toList ++ ' ' :: "NODERAX_AGENT_RELEASE_MANIFEST_URL=".toList := by
    decide +kernel
  have hname : " NODERAX_AGENT_MINISIGN_PUBLIC_KEY=".toList =
      ' ' :: "NODERAX_AGENT_MINISIGN_PUBLIC_KEY=".toList := by
    decide +kernel
  have hbash : " bash \"$tmp/install.sh\" --api-url ".toList = ' ' :: "bash".toList ++
      ' ' :: ('"' :: "$tmp".toList ++ ("/install.sh".toList ++ ['"'])) ++
      ' ' :: "--api-url".toList ++ [' '] := by
    decide +kernel
  have hlast : " --bootstrap-token ".toList = ' ' :: "--bootstrap-token".toList ++ [' '] := by
    decide +kernel
  have hassignments := (((readsPieces_bareWord "sudo" (by decide)).readsWords.bare "env"
    (by decide)).concat
      ((readsPieces_bareWord "NODERAX_AGENT_RELEASE_MANIFEST_URL=" (by decide)).append
        (readsPieces_shellEscape hmanifest))).concat
      ((readsPieces_bareWord "NODERAX_AGENT_MINISIGN_PUBLIC_KEY=" (by decide)).append
        (readsPieces_shellEscape hkey))
  have hwords := (((((hassignments.bare "bash" (by decide)).concat
    (readsPieces_inTmp "/install.sh" (by decide))).bare "--api-url" (by decide)).concat
    (readsPieces_shellEscape hapi)).bare "--bootstrap-token" (by decide)).concat
    (readsPieces_shellEscape htoken)
  refine hwords.readsLine ?_ rfl rfl
  simp only [String.toList_append, henv, hname, hbash, hlast, List.append_assoc, List.cons_append,
    List.nil_append]

/-! ## The script is read -/

theorem toList_newline : "\n".toList = ['\n'] := rfl

/-- **Every escaped value is read as one word with its value, and the script as the same commands
whatever the values are**, each of them one word, or the value of one assignment. -/
theorem installCommand_read :
    (∀ value : ShellValue,
      readScript (shellEscape value).toList = some [.mk [quotedWord value.val.toList] false] ∧
      value? (quotedWord value.val.toList) = some value.val.toList) ∧
    ∀ scriptUrl manifestUrl minisignPublicKey apiUrl token : ShellValue,
      readScript (buildInstallCommand scriptUrl manifestUrl minisignPublicKey apiUrl token).toList =
        some ((installWords scriptUrl manifestUrl minisignPublicKey apiUrl token).map
          fun words => .mk words false) := by
  constructor
  · intro value
    refine ⟨?_, value?_quotedWord _⟩
    have hline : ReadsLine (shellEscape value).toList [quotedWord value.val.toList] :=
      (readsPieces_shellEscape value.2).readsWords.readsLine rfl rfl (isReserved_quotedWord _)
    have hread := readScript_lines (.cons hline .nil) (List.cons_ne_nil _ _)
    rwa [List.intercalate_singleton] at hread
  · intro scriptUrl manifestUrl minisignPublicKey apiUrl token
    have hminisig : Char.ofNat 0 ∉ (manifestUrl.val ++ ".minisig").toList := by
      rw [String.toList_append, List.mem_append, not_or]
      exact ⟨manifestUrl.2, by decide⟩
    rw [buildInstallCommand, String.toList_intercalate, toList_newline]
    refine readScript_lines ?_ (List.cons_ne_nil _ _)
    refine .cons readsLine_set (.cons readsLine_tmp (.cons readsLine_trap ?_))
    refine .cons (readsLine_curl (by decide +kernel) (by decide) scriptUrl.2) ?_
    refine .cons (readsLine_curl (by decide +kernel) (by decide) manifestUrl.2) ?_
    refine .cons (readsLine_curl (by decide +kernel) (by decide) hminisig) ?_
    refine .cons (readsLine_minisign minisignPublicKey.2) ?_
    refine .cons readsLine_expected (.cons readsLine_actual (.cons readsLine_test ?_))
    exact .cons (readsLine_sudo manifestUrl.2 minisignPublicKey.2 apiUrl.2 token.2) .nil

end InstallCommand
