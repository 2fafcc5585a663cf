/-
# The gate of the operational root commands

The gate compares a copy of the command in which every run of JavaScript white space is one blank;
the task stores the command as it came.  A POSIX shell ends a command at a newline and parts its
words at blanks and tabs only; other white space belongs to the words.  So the shell reads an
admitted command as the gate does exactly when its white space is the shell's own, and no newline
stands between its words.
-/
import NoderaxApi.TaskMachine
import NoderaxApi.Words

open TasksService Words

namespace OperationalRootGate

/-! ## The shell -/

def isNewline (c : Char) : Bool := c = '\n'

def isBlank (c : Char) : Bool := c = ' ' || c = '\t'

/-- The commands that a POSIX shell reads in a text without quotes and operators: the lines with
their words. -/
def shellCommands (text : String) : List (List String) :=
  (linesOf isNewline isBlank text.toList).map fun words => words.map String.ofList

/-- The simple commands that the gate is for. -/
def operationalCommands : List (List String) :=
  [["reboot"], ["systemctl", "restart", "noderax-agent"], ["apt-get", "update"]]

/-- The white space of the command is the shell's, and no newline is left once it is trimmed. -/
structure ShellWhitespace (command : String) : Prop where
  blank : ∀ c ∈ command.toList, isJsWhitespace c = true → (isNewline c || isBlank c) = true
  one_line : '\n' ∉ (jsTrim command).toList

/-! ## What the gate admits -/

/-- Collapsed white space parts the same words. -/
theorem wordsOf_collapseWhitespace (l : List Char) :
    ((collapseWhitespace l).splitOnP isJsWhitespace).head? = (l.splitOnP isJsWhitespace).head? ∧
      wordsOf isJsWhitespace (collapseWhitespace l) = wordsOf isJsWhitespace l := by
  induction l with
  | nil => exact ⟨rfl, rfl⟩
  | cons c l ih =>
      have hblank : isJsWhitespace ' ' = true := by decide
      unfold collapseWhitespace
      split
      next hc =>
          rw [head_splitOnP_cons_sep hc, wordsOf_cons_sep hc, ← ih.2]
          split
          next rest heq =>
              rw [heq, head_splitOnP_cons_sep hblank]
              exact ⟨rfl, rfl⟩
          next =>
              rw [head_splitOnP_cons_sep hblank, wordsOf_cons_sep hblank]
              exact ⟨rfl, rfl⟩
      next hc => exact cons_congr (Bool.eq_false_iff.mpr hc) ih.1 ih.2

/-- The words of an admitted command. -/
theorem wordsOf_admitted {command : String}
    (h : assertOperationalRootShellPayloadAllowed (some (jsTrim command)) = .ok ()) :
    (wordsOf isJsWhitespace command.toList).map String.ofList ∈ operationalCommands := by
  unfold assertOperationalRootShellPayloadAllowed at h
  simp only [Option.map_some, Option.getD_some] at h
  split at h
  next hmem =>
      have hwords : wordsOf isJsWhitespace command.toList = wordsOf isJsWhitespace
          (jsTrim (String.ofList (collapseWhitespace (jsTrim command).toList))).toList := by
        rw [toList_jsTrim, wordsOf_trim, String.toList_ofList, (wordsOf_collapseWhitespace _).2,
          toList_jsTrim, wordsOf_trim]
      rw [hwords]
      generalize jsTrim (String.ofList (collapseWhitespace (jsTrim command).toList)) = normalized
        at hmem
      simp only [List.mem_cons, List.not_mem_nil, or_false] at hmem
      rcases hmem with rfl | rfl | rfl <;> decide +kernel
  next => exact absurd h (by simp)

/-! ## What the shell reads -/

theorem isJsWhitespace_of_shell {c : Char} (h : (isNewline c || isBlank c) = true) :
    isJsWhitespace c = true := by
  simp only [isNewline, isBlank, Bool.or_eq_true, decide_eq_true_eq] at h
  rcases h with rfl | rfl | rfl <;> decide

/-- No operational command has white space in it. -/
theorem no_whitespace_of_operational : ∀ words ∈ operationalCommands, ∀ word ∈ words,
    ∀ c ∈ word.toList, isJsWhitespace c = false := by
  have hall : (operationalCommands.all fun words => words.all fun word =>
      word.toList.all fun c => !isJsWhitespace c) = true := by
    decide +kernel
  simpa only [List.all_eq_true, Bool.not_eq_true'] using hall

/-- What ends a word for the shell. -/
def isShellSeparator (c : Char) : Bool := isNewline c || isBlank c

theorem flatten_lines (text : String) : (linesOf isNewline isBlank text.toList).flatten
    = wordsOf isShellSeparator text.toList :=
  flatten_linesOf text.toList

/-- Once the white space is the shell's, a newline between words is one that is left after
trimming. -/
theorem two_lines_iff {command : String}
    (hblank : ∀ c ∈ command.toList, isJsWhitespace c = true → isShellSeparator c = true) :
    2 ≤ (linesOf isNewline isBlank command.toList).length ↔ '\n' ∈ (jsTrim command).toList := by
  have hsep : ∀ c ∈ command.toList, isShellSeparator c = false ↔ isJsWhitespace c = false := by
    intro c hc
    rw [← Bool.not_eq_true, ← Bool.not_eq_true]
    exact not_congr ⟨isJsWhitespace_of_shell, hblank c hc⟩
  rw [toList_jsTrim, mem_trim_iff (by decide), two_le_length_linesOf_iff]
  constructor
  · rintro ⟨a, x, b, hl, hx, ⟨y, hy, hword⟩, ⟨z, hz, hword'⟩⟩
    obtain rfl : x = '\n' := of_decide_eq_true hx
    exact ⟨a, b, hl, ⟨y, hy, (hsep y (by simp [hl, hy])).mp hword⟩,
      ⟨z, hz, (hsep z (by simp [hl, hz])).mp hword'⟩⟩
  · rintro ⟨a, b, hl, ⟨y, hy, hword⟩, ⟨z, hz, hword'⟩⟩
    exact ⟨a, '\n', b, hl, by decide, ⟨y, hy, (hsep y (by simp [hl, hy])).mpr hword⟩,
      ⟨z, hz, (hsep z (by simp [hl, hz])).mpr hword'⟩⟩

/-- **The shell and the gate.**  The shell reads an admitted command as one operational command
exactly if its white space is the shell's. -/
theorem shellCommands_iff {command : String}
    (h : assertOperationalRootShellPayloadAllowed (some (jsTrim command)) = .ok ()) :
    (∃ words ∈ operationalCommands, shellCommands command = [words]) ↔
      ShellWhitespace command := by
  have hflat := flatten_lines command
  constructor
  · rintro ⟨words, hwords, hread⟩
    obtain ⟨line, hline, hmap⟩ := List.map_eq_singleton_iff.mp hread
    rw [hline, List.flatten_singleton] at hflat
    -- white space that is not the shell's would be in a word
    have hblank : ∀ c ∈ command.toList, isJsWhitespace c = true → isShellSeparator c = true := by
      intro c hc hspace
      by_contra hsep
      have hmem : c ∈ (wordsOf isShellSeparator command.toList).flatten := by
        rw [flatten_wordsOf, List.mem_filter]
        exact ⟨hc, by simp [hsep]⟩
      rw [← hflat] at hmem
      obtain ⟨word, hword, hcword⟩ := List.mem_flatten.mp hmem
      have hnone := no_whitespace_of_operational words hwords (String.ofList word)
        (by rw [← hmap]; exact List.mem_map_of_mem hword) c (by rwa [String.toList_ofList])
      rw [hspace] at hnone
      exact absurd hnone (by decide)
    refine ⟨hblank, fun hnewline => ?_⟩
    have htwo := (two_lines_iff hblank).mpr hnewline
    rw [hline, List.length_singleton] at htwo
    omega
  · intro hspace
    have hadmitted := wordsOf_admitted h
    have hsame : wordsOf isShellSeparator command.toList
        = wordsOf isJsWhitespace command.toList :=
      wordsOf_congr fun c hc =>
        Bool.eq_iff_iff.mpr ⟨isJsWhitespace_of_shell, hspace.blank c hc⟩
    have hone := mt (two_lines_iff hspace.blank).mp hspace.one_line
    rw [hsame] at hflat
    refine ⟨_, hadmitted, ?_⟩
    unfold shellCommands
    cases hlines : linesOf isNewline isBlank command.toList with
    | nil =>
        rw [hlines, List.flatten_nil] at hflat
        rw [← hflat] at hadmitted
        exact absurd hadmitted (by decide)
    | cons line rest =>
        cases rest with
        | nil =>
            rw [hlines, List.flatten_singleton] at hflat
            rw [hflat, List.map_singleton]
        | cons _ _ =>
            rw [hlines] at hone
            simp at hone

/-! ## The queued task -/

/-- The gate has admitted the command of an operational root task. -/
theorem queueTask_admitted {db db' : TaskTables} {now : ℤ} {id : Uuid}
    {templates : List TaskTemplateEntity} {writable : Except HttpError Unit}
    {input : QueueTaskInput} {nodeOverride : Option NodeEntity} {task : TaskEntity}
    (h : queueTask db now id templates writable input nodeOverride = .ok (db', task))
    (htype : input.type = "shell.exec") (hroot : input.payload.isTrue "runAsRoot" = true)
    (hscope : (input.payload.string? "rootScope").map jsTrim = some "operational") :
    task.payload = input.payload ∧ ∃ command, input.payload.string? "command" = some command ∧
      assertOperationalRootShellPayloadAllowed (some (jsTrim command)) = .ok () := by
  obtain ⟨node, template, -, -, -, hgate, -, rfl⟩ := queuedTask_ok (queueTask_ok h).1
  refine ⟨rfl, ?_⟩
  have hread : readShellExecRootRequest input.payload
      = .ok ⟨(input.payload.string? "command").map jsTrim, true, some "operational"⟩ := by
    unfold readShellExecRootRequest
    rw [hroot, hscope]
    rfl
  -- of the branches by task type, only that of `shell.exec` is left
  unfold assertRequestedRootAccessAllowed at hgate
  rw [htype, if_neg (by decide), if_neg (by decide), if_neg (by decide), hread] at hgate
  obtain ⟨rootRequest, hrequest, hchecks⟩ := bind_eq_ok.mp hgate
  obtain rfl := Except.ok.inj hrequest
  have hother : some "operational" ≠ some "task" := by decide
  simp only [Bool.not_true, Bool.false_eq_true, if_false, if_neg hother] at hchecks
  obtain ⟨_, hallowed, -⟩ := bind_eq_ok.mp hchecks
  cases hcommand : input.payload.string? "command" with
  | none =>
      rw [hcommand] at hallowed
      exact absurd hallowed (by simp [assertOperationalRootShellPayloadAllowed])
  | some command =>
      rw [hcommand] at hallowed
      exact ⟨command, rfl, hallowed⟩

/-- **The stored command.**  The shell reads the command of a queued operational root task as one
of the operational commands, and nothing else, exactly if its white space is the shell's. -/
theorem queueTask_operational_iff {db db' : TaskTables} {now : ℤ} {id : Uuid}
    {templates : List TaskTemplateEntity} {writable : Except HttpError Unit}
    {input : QueueTaskInput} {nodeOverride : Option NodeEntity} {task : TaskEntity}
    (h : queueTask db now id templates writable input nodeOverride = .ok (db', task))
    (htype : input.type = "shell.exec") (hroot : input.payload.isTrue "runAsRoot" = true)
    (hscope : (input.payload.string? "rootScope").map jsTrim = some "operational") :
    task ∈ db'.tasks ∧ ∃ command, task.payload.string? "command" = some command ∧
      ((∃ words ∈ operationalCommands, shellCommands command = [words]) ↔
        ShellWhitespace command) := by
  obtain ⟨-, -, -, rfl⟩ := queueTask_row h
  obtain ⟨hpayload, command, hcommand, hadmitted⟩ := queueTask_admitted h htype hroot hscope
  refine ⟨List.mem_append_right _ List.mem_cons_self, command, ?_, shellCommands_iff hadmitted⟩
  rw [hpayload]
  exact hcommand

/-- A node that allows operational root access. -/
def operationalNode : NodeEntity where
  id := "n1"
  workspaceId := "w1"
  hostname := "host-1"
  rootAccessAppliedProfile := .operational

def operationalTables : TaskTables where
  nodes := [operationalNode]

/-- An operational root task with the given command. -/
def operationalInput (command : String) : QueueTaskInput where
  nodeId := "n1"
  type := "shell.exec"
  payload := [("command", .str command), ("runAsRoot", .bool true),
    ("rootScope", .str "operational")]

/-- `apt-get update` with blanks and a newline around it. -/
theorem queueTask_operational_aptGet : ∃ db' task,
    queueTask operationalTables 0 "t1" [] (.ok ()) (operationalInput "\t apt-get  update \n") none
      = .ok (db', task) ∧
    task ∈ db'.tasks ∧ ∃ command, task.payload.string? "command" = some command ∧
      ((∃ words ∈ operationalCommands, shellCommands command = [words]) ↔
        ShellWhitespace command) := by
  have hok : (queueTask operationalTables 0 "t1" [] (.ok ())
      (operationalInput "\t apt-get  update \n") none).isOk = true := by
    decide +kernel
  cases hqueued : queueTask operationalTables 0 "t1" [] (.ok ())
      (operationalInput "\t apt-get  update \n") none with
  | error error =>
      rw [hqueued] at hok
      exact absurd hok (by simp [Except.isOk, Except.toBool])
  | ok result =>
      obtain ⟨db', task⟩ := result
      exact ⟨db', task, rfl, queueTask_operational_iff hqueued rfl (by decide) (by decide)⟩

/-- **Three commands for one.**  A command with its words on three lines is queued as it is. -/
theorem threeLines_queued :
    (queueTask operationalTables 0 "t1" [] (.ok ())
      (operationalInput "systemctl\nrestart\nnoderax-agent") none).toOption.map
        (fun result => result.2.payload.string? "command")
      = some (some "systemctl\nrestart\nnoderax-agent") ∧
    shellCommands "systemctl\nrestart\nnoderax-agent"
      = [["systemctl"], ["restart"], ["noderax-agent"]] ∧
    ¬ ∃ words ∈ operationalCommands,
      shellCommands "systemctl\nrestart\nnoderax-agent" = [words] := by
  have hread : shellCommands "systemctl\nrestart\nnoderax-agent"
      = [["systemctl"], ["restart"], ["noderax-agent"]] := by
    decide +kernel
  refine ⟨by decide +kernel, hread, ?_⟩
  rintro ⟨words, -, hone⟩
  rw [hread] at hone
  exact absurd hone (by simp)

end OperationalRootGate
