/-
# The audit of typed commands

`auditSubmittedTerminalCommands` keeps the line that is being typed in a map, takes it from
there at its start, awaits the record of each submitted command, and puts the rest of the line
back at its end.

If no two audits of a session overlap, the audited commands are those of the inputs taken one
after the other.  If they do, the second starts from a line that the first has already
submitted.
-/
import NoderaxApi.Common
import NoderaxApi.Interleaving
import NoderaxApi.Utf8
import Mathlib.Data.List.Permutation

open Runs Interleaving

namespace TerminalSessionsService

/-! ## Lines -/

/-- A JavaScript string: its UTF-16 code units. -/
abbrev JsString := List UInt16

/-- The code units of a character. -/
def codeUnits (c : Char) : JsString :=
  let n := c.val.toNat
  if n < 0x10000 then [UInt16.ofNat n]
  else
    [UInt16.ofNat (0xD800 + (n - 0x10000) / 0x400),
      UInt16.ofNat (0xDC00 + (n - 0x10000) % 0x400)]

/-- A white space code unit; no lone surrogate is one. -/
def isBlankUnit (unit : UInt16) : Bool := isJsWhitespace (Char.ofNat unit.toNat)

/-- `String.prototype.trim`. -/
def trimUnits (s : JsString) : JsString :=
  ((s.dropWhile isBlankUnit).reverse.dropWhile isBlankUnit).reverse

/-- `TERMINAL_COMMAND_AUDIT_MAX_LENGTH`. -/
def commandAuditMaxLength : ℕ := 8192

/-- The metadata of an audited command, but for its digest. -/
structure AuditedCommand where
  command : JsString
  commandLength : ℕ
  commandTruncated : Bool
  deriving DecidableEq, Repr

/-- `recordSubmittedTerminalCommand`. -/
def recordSubmittedTerminalCommand (command : JsString) : AuditedCommand :=
  let truncated := decide (commandAuditMaxLength < command.length)
  { command := if truncated then command.take commandAuditMaxLength else command
    commandLength := command.length
    commandTruncated := truncated }

/-- The loop over the characters of an input, up to the next command: the line at its end,
or the command and the characters after it. -/
def nextCommand : JsString → List Char → JsString × Option (JsString × List Char)
  | buffer, [] => (buffer, none)
  | buffer, char :: rest =>
      if char = '\r' ∨ char = '\n' then
        let command := trimUnits buffer
        if command = [] then nextCommand [] rest else ([], some (command, rest))
      else if char = Char.ofNat 0x08 ∨ char = Char.ofNat 0x7F then
        nextCommand buffer.dropLast rest
      else if char = '\t' ∨ ' ' ≤ char then nextCommand (buffer ++ codeUnits char) rest
      else nextCommand buffer rest

/-! ## The calls -/

/-- The status of a session (open or not), its line in the map, the commands audited so far,
and the texts whose audit has begun, which no step reads. -/
structure AuditWorld where
  isOpen : Bool := true
  commandBuffer : Option JsString := none
  audited : List AuditedCommand := []
  started : List (List Char) := []
  deriving DecidableEq, Repr

/-- What a call of `handleControllerInput` awaits: the chunk of its input, the record of a
command (with the characters after it), the agent, the load of `markFailed`, the update of
`closeSession`. -/
inductive PendingInput
  | appending (payload : List UInt8)
  | recording (command : JsString) (rest : List Char)
  | sending
  | failing
  | closing
  deriving DecidableEq, Repr

/-- The loop goes on until it awaits a record, or to its end. -/
def auditFrom (buffer : JsString) (text : List Char) (w : AuditWorld) :
    AuditWorld × Option PendingInput :=
  match nextCommand buffer text with
  | (line, none) => ({ w with commandBuffer := some line }, some .sending)
  | (_, some (command, rest)) => (w, some (.recording command rest))

/-- `auditSubmittedTerminalCommands`, up to its first await. -/
def beginAudit (text : List Char) (w : AuditWorld) : AuditWorld × Option PendingInput :=
  let w := { w with started := w.started ++ [text] }
  if text = [] then (w, some .sending) else auditFrom (w.commandBuffer.getD []) text w

/-- The calls of `handleControllerInput` for one session.  The input of a step says whether
the agent was reached. -/
def inputCalls : Calls AuditWorld (List UInt8) PendingInput Bool where
  invoke payload _ w := if w.isOpen then (w, some (.appending payload)) else (w, none)
  resume call dispatched w :=
    match call with
    | .appending payload => beginAudit (Utf8.decode payload) w
    | .recording command rest =>
        auditFrom [] rest
          { w with audited := w.audited ++ [recordSubmittedTerminalCommand command] }
    | .sending => (w, if dispatched then none else some .failing)
    | .failing =>
        if w.isOpen then ({ w with commandBuffer := none }, some .closing) else (w, none)
    | .closing => ({ w with isOpen := false }, none)

/-- The pending calls of a run. -/
abbrev AuditConfig := Config ℕ AuditWorld PendingInput

/-- A controller sends an input, or a call moves. -/
abbrev AuditEvent := Event ℕ (List UInt8) Bool Empty

/-- One event. -/
abbrev auditStep : AuditConfig → AuditEvent → AuditConfig := step inputCalls noEnv

/-- An open session with a typed line, before any call. -/
def auditStart (line : Option JsString) (audited : List AuditedCommand) : AuditConfig :=
  Config.idle { commandBuffer := line, audited := audited }

/-! ## One input after the other -/

/-- The line after a text was typed, and the commands it submits. -/
def typeText : JsString → List Char → JsString × List JsString
  | buffer, [] => (buffer, [])
  | buffer, char :: rest =>
      if char = '\r' ∨ char = '\n' then
        let command := trimUnits buffer
        let after := typeText [] rest
        if command = [] then after else (after.1, command :: after.2)
      else if char = Char.ofNat 0x08 ∨ char = Char.ofNat 0x7F then typeText buffer.dropLast rest
      else if char = '\t' ∨ ' ' ≤ char then typeText (buffer ++ codeUnits char) rest
      else typeText buffer rest

/-- The same for several texts. -/
def typeTexts (buffer : JsString) (texts : List (List Char)) : JsString × List JsString :=
  texts.foldl
    (fun typed text => ((typeText typed.1 text).1, typed.2 ++ (typeText typed.1 text).2))
    (buffer, [])

theorem typeTexts_concat (buffer : JsString) (texts : List (List Char)) (text : List Char) :
    typeTexts buffer (texts ++ [text]) =
      ((typeText (typeTexts buffer texts).1 text).1,
        (typeTexts buffer texts).2 ++ (typeText (typeTexts buffer texts).1 text).2) := by
  rw [typeTexts, List.foldl_append]
  rfl

/-- No call awaits the record of a command. -/
def NotRecording (c : AuditConfig) : Prop :=
  ∀ p command rest, c.pending p ≠ some (.recording command rest)

/-- The commands that the texts submit, one text after the other in the order in which their
audits began. -/
def inOrder (line : Option JsString) (audited : List AuditedCommand) (w : AuditWorld) :
    List AuditedCommand :=
  audited ++ (typeTexts (line.getD []) w.started).2.map recordSubmittedTerminalCommand

/-- The loop stops at the first command that the text submits. -/
theorem nextCommand_typeText (buffer : JsString) (text : List Char) :
    match nextCommand buffer text with
    | (line, none) => typeText buffer text = (line, [])
    | (_, some (command, rest)) =>
        typeText buffer text = ((typeText [] rest).1, command :: (typeText [] rest).2) := by
  fun_induction nextCommand buffer text with
  | case1 buffer => rfl
  | case2 buffer char rest hnewline command hempty ih =>
      have htype : typeText buffer (char :: rest) = typeText [] rest := by
        rw [typeText, if_pos hnewline]
        exact if_pos hempty
      rw [htype]
      exact ih
  | case3 buffer char rest hnewline command hcommand =>
      rw [typeText, if_pos hnewline]
      exact if_neg hcommand
  | case4 buffer char rest hnewline hback ih =>
      have htype : typeText buffer (char :: rest) = typeText buffer.dropLast rest := by
        rw [typeText, if_neg hnewline, if_pos hback]
      rw [htype]
      exact ih
  | case5 buffer char rest hnewline hback hprint ih =>
      have htype :
          typeText buffer (char :: rest) = typeText (buffer ++ codeUnits char) rest := by
        rw [typeText, if_neg hnewline, if_neg hback, if_pos hprint]
      rw [htype]
      exact ih
  | case6 buffer char rest hnewline hback hprint ih =>
      have htype : typeText buffer (char :: rest) = typeText buffer rest := by
        rw [typeText, if_neg hnewline, if_neg hback, if_neg hprint]
      rw [htype]
      exact ih

/-! ## Audits that do not overlap -/

/-- The session is open, and no call is about to close it: the line was not taken from the
map. -/
def Live (c : AuditConfig) : Prop :=
  c.world.isOpen = true ∧ ∀ p, c.pending p ≠ some .closing

/-- **An audit begins only when no other is under way**, and while the session is live. -/
def OneAudit (c : AuditConfig) : AuditEvent → Prop
  | .resume p _ => ∀ payload, c.pending p = some (.appending payload) → NotRecording c ∧ Live c
  | _ => True

section

variable {line : Option JsString} {audited : List AuditedCommand}

/-- The record of `command` is awaited: with it and the commands after it, everything that was
submitted is audited. -/
def Owed (line : Option JsString) (audited : List AuditedCommand) (w : AuditWorld)
    (command : JsString) (rest : List Char) : Prop :=
  w.audited ++ (command :: (typeText [] rest).2).map recordSubmittedTerminalCommand =
      inOrder line audited w ∧
    (typeText [] rest).1 = (typeTexts (line.getD []) w.started).1

/-- The state of the audit between two steps. -/
structure AuditInvariant (line : Option JsString) (audited : List AuditedCommand)
    (c : AuditConfig) : Prop where
  recorded : NotRecording c → c.world.audited = inOrder line audited c.world
  typed : NotRecording c → Live c →
    c.world.commandBuffer.getD [] = (typeTexts (line.getD []) c.world.started).1
  owed : ∀ p command rest, c.pending p = some (.recording command rest) →
    Owed line audited c.world command rest
  alone : ∀ p q command rest command' rest', c.pending p = some (.recording command rest) →
    c.pending q = some (.recording command' rest') → p = q

/-- What a stretch of the loop leaves behind: the line, with everything audited, or a record
that is owed. -/
def Audits (line : Option JsString) (audited : List AuditedCommand)
    (next : AuditWorld × Option PendingInput) : Prop :=
  (next.2 = some .sending ∧ next.1.audited = inOrder line audited next.1 ∧
      next.1.commandBuffer.getD [] = (typeTexts (line.getD []) next.1.started).1) ∨
    ∃ command rest, next.2 = some (.recording command rest) ∧
      Owed line audited next.1 command rest

theorem audits_auditFrom {buffer : JsString} {text : List Char} {w : AuditWorld}
    (haudited : w.audited ++ (typeText buffer text).2.map recordSubmittedTerminalCommand =
      inOrder line audited w)
    (hline : (typeText buffer text).1 = (typeTexts (line.getD []) w.started).1) :
    Audits line audited (auditFrom buffer text w) := by
  have htype := nextCommand_typeText buffer text
  unfold auditFrom
  split at htype
  next rest hnext =>
      rw [htype] at haudited hline
      refine .inl ⟨rfl, ?_, hline⟩
      rw [List.map_nil, List.append_nil] at haudited
      exact haudited
  next buffer' command rest hnext =>
      rw [htype] at haudited hline
      exact .inr ⟨command, rest, rfl, haudited, hline⟩

/-- An audit that begins when nothing is owed. -/
theorem audits_beginAudit {text : List Char} {w : AuditWorld}
    (haudited : w.audited = inOrder line audited w)
    (hline : w.commandBuffer.getD [] = (typeTexts (line.getD []) w.started).1) :
    Audits line audited (beginAudit text w) := by
  have horder : w.audited ++
      (typeText (w.commandBuffer.getD []) text).2.map recordSubmittedTerminalCommand =
        inOrder line audited { w with started := w.started ++ [text] } := by
    rw [haudited, hline, inOrder, inOrder, typeTexts_concat, List.map_append, List.append_assoc]
  have hline' : (typeText (w.commandBuffer.getD []) text).1 =
      (typeTexts (line.getD []) (w.started ++ [text])).1 := by
    rw [hline, typeTexts_concat]
  unfold beginAudit
  split
  next hempty =>
      subst hempty
      rw [typeText, List.map_nil, List.append_nil] at horder
      exact .inl ⟨rfl, horder, hline'⟩
  next => exact audits_auditFrom horder hline'

/-- An audit goes on after the record of a command. -/
theorem audits_recorded {command : JsString} {rest : List Char} {w : AuditWorld}
    (howed : Owed line audited w command rest) :
    Audits line audited (auditFrom [] rest
      { w with audited := w.audited ++ [recordSubmittedTerminalCommand command] }) := by
  refine audits_auditFrom ?_ howed.2
  have haudited := howed.1
  rw [List.map_cons, ← List.singleton_append, ← List.append_assoc] at haudited
  exact haudited

/-- A call at its audit moved, and no other call is at one. -/
theorem auditInvariant_audits {c : AuditConfig} {p : ℕ}
    {next : AuditWorld × Option PendingInput} (hnext : Audits line audited next)
    (hothers : ∀ q command rest, q ≠ p → c.pending q ≠ some (.recording command rest)) :
    AuditInvariant line audited ⟨next.1, Function.update c.pending p next.2⟩ := by
  have hself : ∀ q command rest,
      Function.update c.pending p next.2 q = some (.recording command rest) →
        q = p ∧ next.2 = some (.recording command rest) := by
    intro q command rest hq
    by_cases hqp : q = p
    · rw [hqp, Function.update_self] at hq
      exact ⟨hqp, hq⟩
    · rw [Function.update_of_ne hqp] at hq
      exact absurd hq (hothers q command rest hqp)
  have halone : ∀ q r command rest command' rest',
      Function.update c.pending p next.2 q = some (.recording command rest) →
      Function.update c.pending p next.2 r = some (.recording command' rest') → q = r := by
    intro q r command rest command' rest' hq hr
    exact (hself q command rest hq).1.trans (hself r command' rest' hr).1.symm
  rcases hnext with ⟨hsending, haudited, hline⟩ | ⟨command, rest, hrecording, howed⟩
  · refine ⟨fun _ => haudited, fun _ _ => hline, fun q command rest hq => ?_, halone⟩
    have hq' := (hself q command rest hq).2
    rw [hsending] at hq'
    exact absurd hq' (by simp)
  · have hbusy : ¬ NotRecording ⟨next.1, Function.update c.pending p next.2⟩ := fun hno =>
      hno p command rest ((Function.update_self p next.2 c.pending).trans hrecording)
    refine ⟨fun hno => absurd hno hbusy, fun hno => absurd hno hbusy,
      fun q command' rest' hq => ?_, halone⟩
    have hq' := (hself q command' rest' hq).2
    rw [hrecording] at hq'
    cases hq'
    exact howed

/-- A call that is not at its audit moved. -/
theorem auditInvariant_other {c : AuditConfig} {p : ℕ} {w' : AuditWorld}
    {next : Option PendingInput} (hc : AuditInvariant line audited c)
    (hbefore : ∀ command rest, c.pending p ≠ some (.recording command rest))
    (hafter : ∀ command rest, next ≠ some (.recording command rest))
    (haudited : w'.audited = c.world.audited) (hstarted : w'.started = c.world.started)
    (hlive : Live ⟨w', Function.update c.pending p next⟩ →
      Live c ∧ w'.commandBuffer = c.world.commandBuffer) :
    AuditInvariant line audited ⟨w', Function.update c.pending p next⟩ := by
  have hpending : ∀ q command rest,
      Function.update c.pending p next q = some (.recording command rest) ↔
        c.pending q = some (.recording command rest) := by
    intro q command rest
    by_cases hqp : q = p
    · rw [hqp, Function.update_self]
      exact iff_of_false (hafter command rest) (hbefore command rest)
    · rw [Function.update_of_ne hqp]
  have hquiet : NotRecording ⟨w', Function.update c.pending p next⟩ → NotRecording c :=
    fun hno q command rest hq => hno q command rest ((hpending q command rest).mpr hq)
  have horder : inOrder line audited w' = inOrder line audited c.world := by
    rw [inOrder, inOrder, hstarted]
  refine ⟨fun hno => ?_, fun hno hl => ?_, fun q command rest hq => ?_,
    fun q r command rest command' rest' hq hr => ?_⟩
  · rw [haudited, horder]
    exact hc.recorded (hquiet hno)
  · obtain ⟨hl', hbuffer⟩ := hlive hl
    rw [hbuffer, hstarted]
    exact hc.typed (hquiet hno) hl'
  · have howed := hc.owed q command rest ((hpending q command rest).mp hq)
    unfold Owed at howed ⊢
    rw [haudited, horder, hstarted]
    exact howed
  · exact hc.alone q r command rest command' rest' ((hpending q command rest).mp hq)
      ((hpending r command' rest').mp hr)

/-- The session is as live as before, if the call neither was nor is about to close it. -/
theorem live_of_update {c : AuditConfig} {p : ℕ} {next : Option PendingInput}
    (hbefore : c.pending p ≠ some .closing)
    (hl : Live ⟨c.world, Function.update c.pending p next⟩) : Live c := by
  refine ⟨hl.1, fun q hq => ?_⟩
  by_cases hqp : q = p
  · exact hbefore (hqp ▸ hq)
  · exact hl.2 q ((Function.update_of_ne hqp next c.pending).trans hq)

/-- **One event keeps the invariant**, if it begins no audit beside another one. -/
theorem auditStep_invariant (c : AuditConfig) (e : AuditEvent)
    (hc : AuditInvariant line audited c) (hg : OneAudit c e) :
    AuditInvariant line audited (auditStep c e) := by
  cases e with
  | invoke p payload inp =>
      cases hp : c.pending p with
      | some l =>
          rw [auditStep, step_invoke_busy hp]
          exact hc
      | none =>
          rw [auditStep, step_invoke hp]
          simp only [inputCalls]
          split <;>
            exact auditInvariant_other hc (by simp [hp]) (by simp) rfl rfl fun hl =>
              ⟨live_of_update (by simp [hp]) hl, rfl⟩
  | resume p dispatched =>
      cases hp : c.pending p with
      | none =>
          rw [auditStep, step_resume_idle hp]
          exact hc
      | some l =>
          rw [auditStep, step_resume hp]
          cases l with
          | appending payload =>
              obtain ⟨hquiet, hl⟩ := hg payload hp
              have hbegin : Audits line audited (beginAudit (Utf8.decode payload) c.world) :=
                audits_beginAudit (hc.recorded hquiet) (hc.typed hquiet hl)
              exact auditInvariant_audits hbegin fun q command rest _ => hquiet q command rest
          | recording command rest =>
              have hgo := audits_recorded (hc.owed p command rest hp)
              refine auditInvariant_audits hgo fun q command' rest' hqp hq => hqp ?_
              exact hc.alone q p command' rest' command rest hq hp
          | sending =>
              refine auditInvariant_other hc (by simp [hp]) ?_ rfl rfl fun hl =>
                ⟨live_of_update (by simp [hp]) hl, rfl⟩
              intro command rest
              cases dispatched <;> simp [inputCalls]
          | failing =>
              simp only [inputCalls]
              split
              · refine auditInvariant_other hc (by simp [hp]) (by simp) rfl rfl fun hl => ?_
                exact absurd (Function.update_self p _ c.pending) (hl.2 p)
              · exact auditInvariant_other hc (by simp [hp]) (by simp) rfl rfl fun hl =>
                  ⟨live_of_update (by simp [hp]) hl, rfl⟩
          | closing =>
              refine auditInvariant_other hc (by simp [hp]) (by simp [inputCalls]) rfl rfl
                fun hl => ?_
              exact absurd hl.1 (by simp [inputCalls])
  | env e => exact e.elim

theorem auditInvariant_start : AuditInvariant line audited (auditStart line audited) where
  recorded _ := by
    simp [auditStart, inOrder, typeTexts]
  typed _ _ := rfl
  owed p command rest hp := by simp [auditStart] at hp
  alone p q command rest command' rest' hp := by simp [auditStart] at hp

end

/-- **The audit of every run in which no two audits overlap.**  What is audited so far are the
first commands of the inputs taken one after the other, and all of them when no record is
awaited. -/
theorem audited_in_order (line : Option JsString) (audited : List AuditedCommand)
    (es : List AuditEvent) (hes : Along auditStep OneAudit (auditStart line audited) es) :
    let c := run auditStep (auditStart line audited) es
    c.world.audited <+: inOrder line audited c.world ∧
      (NotRecording c → c.world.audited = inOrder line audited c.world) := by
  have hstart : AuditInvariant line audited (auditStart line audited) := auditInvariant_start
  have hinv := inv_run (fun c e => auditStep_invariant c e) hstart hes
  refine ⟨?_, hinv.recorded⟩
  by_cases hquiet : NotRecording (run auditStep (auditStart line audited) es)
  · exact ⟨[], (List.append_nil _).trans (hinv.recorded hquiet)⟩
  · unfold NotRecording at hquiet
    push Not at hquiet
    obtain ⟨p, command, rest, hp⟩ := hquiet
    rw [← (hinv.owed p command rest hp).1]
    exact List.prefix_append _ _

/-- `ls`, the return key and `who`, then `ami` and the return key, one after the other. -/
def typedInTurn : List AuditEvent :=
  [.invoke 0 [108, 115, 13, 119, 104, 111] true, .resume 0 true, .resume 0 true, .resume 0 true,
    .invoke 0 [97, 109, 105, 13] true, .resume 0 true, .resume 0 true]

theorem audited_in_order_in_turn :
    let c := run auditStep (auditStart none []) typedInTurn
    c.world.audited <+: inOrder none [] c.world ∧
      (NotRecording c → c.world.audited = inOrder none [] c.world) := by
  refine audited_in_order none [] typedInTurn
    ⟨trivial, fun _ _ => ⟨?_, rfl, ?_⟩, nofun, nofun, trivial, fun _ _ => ⟨?_, rfl, ?_⟩, nofun,
      trivial⟩
  · rintro (_ | p) command rest hp <;> cases hp
  · rintro (_ | p) hp <;> cases hp
  · rintro (_ | p) command rest hp <;> cases hp
  · rintro (_ | p) hp <;> cases hp

/-- The second input is audited while the record of the first is awaited. -/
def typedAtOnce : List AuditEvent :=
  [.invoke 0 [108, 115, 13, 119, 104, 111] true, .invoke 1 [97, 109, 105, 13] true,
    .resume 0 true, .resume 1 true, .resume 0 true, .resume 1 true, .resume 0 true,
    .resume 1 true]

/-- **`whoami` was typed and run, and is missing from the audit**, whichever of the two inputs
is taken first; `ami`, which nobody typed, is there. -/
theorem audited_at_once :
    let c := run auditStep (auditStart none []) typedAtOnce
    (∀ p, c.pending p = none) ∧
      ∀ texts : List (List Char), texts.Perm c.world.started →
        c.world.audited ≠ inOrder none [] { c.world with started := texts } := by
  refine ⟨fun p => ?_, fun texts hperm => ?_⟩
  · match p with
    | 0 => decide
    | 1 => decide
    | p + 2 => rfl
  · have hstarted : (run auditStep (auditStart none []) typedAtOnce).world.started =
        ["ls\rwho".toList, "ami\r".toList] := by decide
    rw [hstarted] at hperm
    obtain rfl | rfl := List.perm_pair.mp hperm
    · decide
    · decide

end TerminalSessionsService
