/-
# The copies of the sessions that handlers hold

A handler loads its session, looks at the status of this copy, and updates the row later.  What
it writes suits the copy: no handler goes on with a copy that is CLOSED or FAILED, and no
message but `opened` makes a session OPEN.

So the lifecycle is monotone in a run in which every such update finds the row as the copy has
it, and no message `opened` finds the session TERMINATING.  The second is what
`handleAgentOpened` does not look at.
-/
import NoderaxApi.TerminalLifecycle

open Runs Interleaving AsyncPrograms

namespace TerminalSessionsService

/-! ## Copies -/

/-- The request of a call, and the status and `closedAt` of its copy of the session. -/
structure HeldCopy where
  req : TerminalRequest
  life : Option (TerminalSessionStatus × Option ℤ) := none

/-- The copy of a call that has its answer: it is loaded, or changed along with the row. -/
def HeldCopy.note (id : Uuid) (held : HeldCopy) : (op : TerminalOp) → TerminalAnswer op → HeldCopy
  | .findSession id', session =>
      if id' = id then { held with life := some (session.status, session.closedAt) } else held
  | .updateSessionMetadata id' patch, _ =>
      if id' = id then { held with life := held.life.map (patchLife patch) } else held
  | _, _ => held

/-- The calls of the service, each beside its copy of the session. -/
abbrev copyCalls (id : Uuid) :
    Calls TerminalStore TerminalRequest (TerminalCall × HeldCopy) TerminalInput :=
  trackedCalls execTerminal terminalBody (fun req => { req := req }) (HeldCopy.note id)

/-! ## The condition -/

/-- An update that sets the status finds the status and `closedAt` of the copy. -/
def CopyCurrent (id : Uuid) (s : TerminalStore) (l : TerminalCall × HeldCopy) : Prop :=
  match l.1.op with
  | .updateSessionMetadata id' patch =>
      id' = id → patch.status.isSome = true → lifeOf id s.data = l.2.life
  | _ => True

/-- A message `opened` of the session's node does not find the session TERMINATING. -/
def OpenedInTime (id : Uuid) (s : TerminalStore) (l : TerminalCall × HeldCopy) : Prop :=
  match l.1.op, l.2.req with
  | .findSession id', .agentOpened _ input =>
      id' = id → ∀ rows ∈ s.data.sessions id, rows.session.nodeId = input.nodeId →
        rows.session.status ≠ .terminating
  | _, _ => True

/-- **The copies are current, and no session is opened late.** -/
def CopiesHold (id : Uuid) (s : TerminalStore) (l : TerminalCall × HeldCopy)
    (_ : TerminalInput) : Prop :=
  CopyCurrent id s l ∧ OpenedInTime id s l

instance CopiesHold.decidable (id : Uuid) (s : TerminalStore) (l : TerminalCall × HeldCopy)
    (inp : TerminalInput) : Decidable (CopiesHold id s l inp) := by
  unfold CopiesHold CopyCurrent OpenedInTime
  refine @instDecidableAnd _ _ ?_ ?_
  · split <;> infer_instance
  · split <;> infer_instance

/-- What the calls of a run ask of its events. -/
abbrev CopiesGuard (id : Uuid) : Config ℕ TerminalStore (TerminalCall × HeldCopy) →
    TerminalEvent → Prop :=
  ResumeGuard (CopiesHold id)

/-! ## What the handlers do with their copies -/

/-- Every update suits the copy of the call, as long as no session is opened late. -/
def suitsCopy (id : Uuid) : Tracker TerminalOp TerminalAnswer HeldCopy where
  note := HeldCopy.note id
  answers held
    | .findSession id', session =>
        match held.req with
        | .agentOpened _ input =>
            id' = id → session.nodeId = input.nodeId → session.status ≠ .terminating
        | _ => True
    | _, _ => True
  awaits held
    | .updateSessionMetadata id' patch =>
        id' = id → ∀ life, (patch.status.isSome = true → held.life = some life) →
          Respects patch life
    | _ => True

/-- The copy, if it is one of the session, has not ended. -/
def HeldCopy.Live (id id' : Uuid) (held : HeldCopy) : Prop :=
  id' = id → ∀ life ∈ held.life, isTerminal life.1 = false

section

variable {id id' : Uuid} {held : HeldCopy}

/-- A loaded session that has not ended is a live copy. -/
theorem HeldCopy.note_live {session : TerminalSessionEntity}
    (h : ¬ isTerminal session.status = true) :
    (held.note id (.findSession id') session).Live id id' := by
  rintro rfl life hlife
  simp only [HeldCopy.note, if_true, Option.mem_def, Option.some.injEq] at hlife
  rw [← hlife]
  exact Bool.eq_false_iff.mpr h

/-- An update that does not end the session leaves the copy live. -/
theorem HeldCopy.Live.note {patch : TerminalSessionMetadataPatch} (h : held.Live id id')
    (hpatch : ∀ status ∈ patch.status, isTerminal status = false) :
    (held.note id (.updateSessionMetadata id' patch) ()).Live id id' := by
  rintro rfl life hlife
  simp only [HeldCopy.note, if_true, Option.mem_def, Option.map_eq_some_iff] at hlife
  obtain ⟨before, hbefore, rfl⟩ := hlife
  cases hstatus : patch.status with
  | none => simpa [patchLife, hstatus] using h rfl before hbefore
  | some status => simpa [patchLife, hstatus] using hpatch status hstatus

/-- A live copy may get any status but OPEN. -/
theorem HeldCopy.Live.awaits {patch : TerminalSessionMetadataPatch} (h : held.Live id id')
    (hset : patch.status.isSome = true) (hopen : patch.status ≠ some .opened) :
    (suitsCopy id).awaits held (.updateSessionMetadata id' patch) := by
  intro hid life hlife
  refine ⟨fun _ => hopen, fun hended => ?_⟩
  have hlive := h hid life (hlife hset)
  rw [hended] at hlive
  exact absurd hlive (by decide)

/-- An update that sets neither the status nor `closedAt` suits any copy. -/
theorem suitsCopy_awaits {patch : TerminalSessionMetadataPatch} (hstatus : patch.status = none)
    (hclosedAt : patch.closedAt = none) :
    (suitsCopy id).awaits held (.updateSessionMetadata id' patch) := by
  intro hid life hlife
  simp [Respects, hstatus, hclosedAt]

theorem appendChunk_suits {origin : ChunkOrigin} {input : ChunkInput}
    {k : TerminalSessionChunkEntity → TerminalProgram}
    (hk : ∀ chunk, (k chunk).Tracked (suitsCopy id) held) :
    (appendChunk id' origin input k).Tracked (suitsCopy id) held := by
  refine ⟨trivial, fun answer _ => ?_⟩
  cases answer with
  | some chunk => exact hk chunk
  | none =>
      refine ⟨trivial, fun state _ => ⟨trivial, fun _ _ => ⟨trivial, fun answer _ => ?_⟩⟩⟩
      cases answer with
      | some chunk => exact hk chunk
      | none => trivial

theorem closeSession_suits {input : CloseInput} (h : held.Live id id') :
    (closeSession id' input).Tracked (suitsCopy id) held := by
  intro m
  refine ⟨h.awaits rfl ?_, fun _ _ => appendChunk_suits fun _ => ?_⟩
  · cases hfailed : input.failed <;> simp [CloseInput.patch, CloseInput.status, hfailed]
  · refine ⟨trivial, fun _ _ => ⟨trivial, fun _ _ => ?_⟩⟩
    refine .ite (fun _ => ?_) fun _ => ?_
    · exact ⟨trivial, fun _ _ => ⟨trivial, fun _ _ => trivial⟩⟩
    · exact ⟨trivial, fun _ _ => trivial⟩

/-- `markFailed` loads the session again, and goes on only if it has not ended. -/
theorem markFailed_suits {workspaceId : Option Uuid} {message : String} {nodeId : Option Uuid}
    {timestamp : Option ℤ} :
    (markFailed id' workspaceId message nodeId timestamp).Tracked (suitsCopy id) held := by
  refine ⟨trivial, fun session _ => ?_⟩
  refine .ite (fun _ => trivial) fun _ => ?_
  refine .ite (fun _ => trivial) fun _ => ?_
  refine .ite (fun _ => trivial) fun hlive => ?_
  exact closeSession_suits (HeldCopy.note_live hlive)

/-- The stop of a session: its copy is TERMINATING when it is closed after all. -/
theorem stop_suits {patch : TerminalSessionMetadataPatch} {k : TerminalProgram}
    (h : held.Live id id') (hpatch : patch.status = some .terminating)
    (hk : ∀ held : HeldCopy, held.Live id id' → k.Tracked (suitsCopy id) held) :
    (Program.await (.updateSessionMetadata id' patch) fun _ => k : TerminalProgram).Tracked
      (suitsCopy id) held := by
  refine ⟨h.awaits (by simp [hpatch]) (by simp [hpatch]), fun _ _ => hk _ (h.note ?_)⟩
  intro status hstatus
  rw [hpatch] at hstatus
  obtain rfl := Option.some.inj hstatus
  rfl

theorem terminateDetached_suits : (terminateDetached id').Tracked (suitsCopy id) held := by
  refine ⟨trivial, fun session _ => ?_⟩
  refine .ite (fun _ => trivial) fun hlive => ?_
  refine appendChunk_suits fun _ => stop_suits (HeldCopy.note_live hlive) rfl fun held h => ?_
  refine ⟨trivial, fun _ _ => ⟨trivial, fun dispatched _ => ?_⟩⟩
  exact .ite (fun _ => trivial) fun _ => closeSession_suits h

theorem terminateSession_suits {workspaceId reason : Option String} {user : TerminalUser} :
    (terminateSession workspaceId id' reason user).Tracked (suitsCopy id) held := by
  refine ⟨trivial, fun session _ => ?_⟩
  refine .ite (fun _ => trivial) fun _ => ⟨trivial, fun _ _ => ⟨trivial, fun _ _ => ?_⟩⟩
  refine .ite (fun _ => trivial) fun hlive => ?_
  refine appendChunk_suits fun _ => stop_suits (HeldCopy.note_live hlive) rfl fun held h => ?_
  refine ⟨trivial, fun _ _ => ⟨trivial, fun _ _ => ⟨trivial, fun dispatched _ => ?_⟩⟩⟩
  refine .ite (fun _ => ⟨trivial, fun _ _ => trivial⟩) fun _ => closeSession_suits h

theorem handleAgentOutput_suits {input : OutputInput} :
    (handleAgentOutput id' input).Tracked (suitsCopy id) held := by
  refine ⟨trivial, fun session _ => ?_⟩
  refine .ite (fun _ => trivial) fun hgo => ?_
  have hlive : ¬ isTerminal session.status = true := fun h => hgo (.inr h)
  refine .ite (fun _ => ?_) fun _ => appendChunk_suits fun _ => ⟨trivial, fun _ _ => trivial⟩
  refine appendChunk_suits fun _ => stop_suits (HeldCopy.note_live hlive) rfl fun held h => ?_
  refine ⟨trivial, fun _ _ => ⟨trivial, fun dispatched _ => ?_⟩⟩
  exact .ite (fun _ => trivial) fun _ => closeSession_suits h

/-- `handleAgentOpened` does not open a copy that has ended, and none that is TERMINATING if the
message is not late. -/
theorem handleAgentOpened_suits {input : OpenedInput} (hreq : held.req = .agentOpened id' input) :
    (handleAgentOpened id' input).Tracked (suitsCopy id) held := by
  refine ⟨trivial, fun session hsession => ?_⟩
  refine .ite (fun _ => trivial) fun hgo => ?_
  rw [not_or, not_not] at hgo
  intro m
  refine ⟨?_, fun _ _ => appendChunk_suits fun _ => ?_⟩
  · rintro rfl life hlife
    have hintime : session.nodeId = input.nodeId → session.status ≠ .terminating := by
      simpa [suitsCopy, hreq] using hsession
    have hlife' : (session.status, session.closedAt) = life := by
      simpa [suitsCopy, HeldCopy.note] using hlife rfl
    subst hlife'
    refine ⟨fun hterminating => ?_, fun hended => ?_⟩
    · exact absurd hterminating (hintime hgo.1)
    · exact absurd hended hgo.2
  · exact ⟨trivial, fun _ _ => ⟨trivial, fun _ _ => trivial⟩⟩

theorem closeUnconfirmed_suits :
    (Program.await (.findSession id') (closeUnconfirmed id') : TerminalProgram).Tracked
      (suitsCopy id) held := by
  refine ⟨trivial, fun session _ => ?_⟩
  refine .ite (fun _ => trivial) fun hstatus => ?_
  refine closeSession_suits (HeldCopy.note_live ?_)
  rw [not_not.mp hstatus]
  decide

theorem auditSubmittedTerminalCommands_suits {payload : List UInt8} {k : TerminalProgram}
    (hk : k.Tracked (suitsCopy id) held) :
    (auditSubmittedTerminalCommands id' payload k).Tracked (suitsCopy id) held := by
  have hloop : ∀ (text : List Char) (buffer : JsString),
      (auditCharacters id' k text buffer).Tracked (suitsCopy id) held := by
    intro text buffer
    fun_induction auditCharacters id' k text buffer with
    | case1 buffer => exact hk
    | case2 buffer char rest hnewline command hempty ih => exact ih
    | case3 buffer char rest hnewline command hcommand ih => exact ⟨trivial, fun _ _ => ih⟩
    | case4 buffer char rest hnewline hback ih => exact ih
    | case5 buffer char rest hnewline hback hprint ih => exact ih
    | case6 buffer char rest hnewline hback hprint ih => exact ih
  unfold auditSubmittedTerminalCommands
  exact .ite (fun _ => hk) fun _ m => hloop _ _

theorem handleControllerInput_suits {payload : List UInt8} {user : TerminalUser} :
    (handleControllerInput id' payload user).Tracked (suitsCopy id) held := by
  refine ⟨trivial, fun session _ => ⟨trivial, fun _ _ => ?_⟩⟩
  refine .ite (fun _ => trivial) fun _ => ⟨trivial, fun _ _ => ?_⟩
  refine .ite (fun _ => trivial) fun _ => ?_
  refine appendChunk_suits fun _ => auditSubmittedTerminalCommands_suits ?_
  exact ⟨trivial, fun dispatched _ => .ite (fun _ => trivial) fun _ => markFailed_suits⟩

theorem handleControllerResize_suits {cols rows : ℕ} {user : TerminalUser} :
    (handleControllerResize id' cols rows user).Tracked (suitsCopy id) held := by
  refine ⟨trivial, fun session _ => ⟨trivial, fun _ _ => ?_⟩⟩
  refine .ite (fun _ => trivial) fun _ => ⟨trivial, fun _ _ => ?_⟩
  refine .ite (fun _ => ?_) fun _ => .ite (fun _ => trivial) fun _ => ?_
  · exact ⟨suitsCopy_awaits rfl rfl, fun _ _ => ⟨trivial, fun _ _ => trivial⟩⟩
  · refine ⟨suitsCopy_awaits rfl rfl, fun _ _ => ⟨trivial, fun _ _ => ⟨trivial, ?_⟩⟩⟩
    exact fun dispatched _ => .ite (fun _ => trivial) fun _ => markFailed_suits

theorem createSession_suits {session : TerminalSessionEntity} {hostname : String}
    {user : TerminalUser} :
    (createSession session hostname user).Tracked (suitsCopy id) held := by
  refine appendChunk_suits fun _ => ⟨trivial, fun _ _ => ⟨trivial, fun _ _ => ⟨trivial, ?_⟩⟩⟩
  intro dispatched _
  exact .ite (fun _ => ⟨trivial, fun _ _ => trivial⟩) fun _ => markFailed_suits

/-! ### Attachments -/

theorem decrementControllerCount_suits {k : ℤ → TerminalProgram}
    (hk : ∀ n, (k n).Tracked (suitsCopy id) held) :
    (decrementControllerCount id' k).Tracked (suitsCopy id) held := by
  intro m
  refine .ite (fun _ => ⟨trivial, fun n _ => ⟨trivial, fun _ _ => ?_⟩⟩) fun _ => ?_
  · exact .ite (fun _ => ⟨trivial, fun _ _ => hk 0⟩) fun _ => hk n
  · exact ⟨trivial, fun _ _ => hk _⟩

theorem detachController_suits {socketId : SocketId} {k : TerminalProgram}
    (hk : k.Tracked (suitsCopy id) held) :
    (detachController socketId k).Tracked (suitsCopy id) held := by
  intro m
  simp only
  split
  · exact hk
  · exact decrementControllerCount_suits fun n => .ite (fun _ => hk) fun _ => hk

theorem attachDetached_suits {user : TerminalUser} {socketId : SocketId} :
    (attachDetached id' user socketId).Tracked (suitsCopy id) held := by
  refine ⟨trivial, fun session _ => ⟨trivial, fun _ _ => ?_⟩⟩
  refine .ite (fun _ => trivial) fun _ => ⟨trivial, fun _ _ m => ?_⟩
  refine .ite (fun _ => ⟨trivial, fun n _ => ⟨trivial, fun _ _ => trivial⟩⟩) fun _ => ?_
  exact ⟨trivial, fun _ _ => trivial⟩

end

/-- **Every handler suits its copies.** -/
theorem terminalBody_suits (id : Uuid) (req : TerminalRequest) :
    (terminalBody req).Tracked (suitsCopy id) { req := req } := by
  cases req with
  | createSession session hostname user => exact createSession_suits
  | agentOpened id' input => exact handleAgentOpened_suits rfl
  | agentOutput id' input => exact handleAgentOutput_suits
  | agentExited id' input =>
      refine ⟨trivial, fun session _ => .ite (fun _ => trivial) fun hgo => ?_⟩
      exact closeSession_suits (HeldCopy.note_live fun h => hgo (.inr h))
  | agentError id' nodeId message timestamp => exact markFailed_suits
  | connect socketId => exact trivial
  | disconnect socketId => exact detachController_suits trivial
  | attach id' user socketId =>
      intro m
      refine .ite (fun _ => ?_) fun _ => attachDetached_suits
      exact detachController_suits attachDetached_suits
  | detach socketId => exact detachController_suits trivial
  | input id' payload user => exact handleControllerInput_suits
  | resize id' cols rows user => exact handleControllerResize_suits
  | terminate workspaceId id' reason user => exact terminateSession_suits
  | pendingOpenTimeout id' =>
      exact fun m => .ite (fun _ => markFailed_suits) fun _ => trivial
  | detachTimeout id' =>
      refine fun m => .ite (fun _ => ?_) fun _ => trivial
      intro m
      refine .ite (fun _ => ⟨trivial, fun n _ => ?_⟩) fun _ => ⟨trivial, fun _ _ => ?_⟩
      · exact .ite (fun _ => trivial) fun _ => terminateDetached_suits
      · exact .ite (fun _ => trivial) fun _ => terminateDetached_suits
  | terminationTimeout id' =>
      exact fun m => .ite (fun _ => closeUnconfirmed_suits) fun _ => trivial

/-! ## The theorem -/

/-- What the condition says of the answer to a load. -/
theorem OpenedInTime.answers {id : Uuid} {s : TerminalStore} {l : TerminalCall}
    {held : HeldCopy} {inp : TerminalInput} (h : OpenedInTime id s (l, held))
    (answer : TerminalAnswer l.op) (hanswer : (execTerminal l.op inp s.data).2 = some answer) :
    (suitsCopy id).answers held l.op answer := by
  obtain ⟨op, next⟩ := l
  cases op with
  | findSession id' =>
      obtain ⟨req, life⟩ := held
      cases req with
      | agentOpened id'' input =>
          rintro rfl hnode
          obtain ⟨rows, hrows, rfl⟩ := Option.map_eq_some_iff.mp hanswer
          exact h rfl rows hrows hnode
      | _ => trivial
  | _ => trivial

/-- **An update of a current copy respects the row.** -/
theorem CopyCurrent.respects {id : Uuid} {s : TerminalStore} {l : TerminalCall}
    {held : HeldCopy} {inp : TerminalInput} (hcurrent : CopyCurrent id s (l, held))
    (hsuits : l.Tracked (suitsCopy id) held) : RespectsLife id s l inp := by
  obtain ⟨op, next⟩ := l
  cases op with
  | updateSessionMetadata id' patch =>
      rintro rfl life hlife
      refine hsuits.1 rfl life fun hset => ?_
      exact (hcurrent rfl hset).symm.trans hlife
  | _ => trivial

/-- **The lifecycle is monotone in every run whose copies are current**, and in which no message
`opened` comes after a termination was requested. -/
theorem lifecycle_monotone (id : Uuid) (w : TerminalStore) (es : List TerminalEvent)
    (hes : Along (step (copyCalls id) terminalEnv) (CopiesGuard id) (Config.idle w) es) :
    LifecycleMonotone id (Config.idle w) es := by
  have houtline : Outline (copyCalls id) terminalEnv (fun _ _ _ => True) (CopiesHold id)
      (fun _ _ => True) (fun _ => True) fun _ l => l.1.Tracked (suitsCopy id) l.2 :=
    tracked_outline (terminalBody_suits id) fun hg answer hanswer => hg.2.answers answer hanswer
  have hrespects : Along terminalStep (KeepsLifecycle id) (Config.idle w) es :=
    houtline.along_remembering (fun _ _ => trivial)
      (fun _ hsuits hg => hg.1.respects hsuits) (fun _ _ => trivial) (good_idle trivial) hes
  exact lifecycleMonotone_of_along (noneToPending_idle w) hrespects

/-! ## A whole life, and a late message -/

/-- A session that its agent has not opened yet. -/
def pendingSession : TerminalStore where
  data :=
    { sessions := Function.update (fun _ => none) "s" (some
        { session :=
            { id := "s", workspaceId := "w", nodeId := "n" } }) }
  memory := {}

/-- The session is terminated; the agent is told, and the call returns. -/
def terminated : List TerminalEvent :=
  .invoke 0 (.terminate none "s" none ⟨"u", "u@example.org"⟩) {} ::
    List.replicate 9 (.resume 0 {})

/-- The session is opened and terminated, its timeout fires, and the agent is heard again when
all is over. -/
def wholeLife : List TerminalEvent :=
  .invoke 1 (.agentOpened "s" { nodeId := "n" }) {} :: List.replicate 5 (.resume 1 {}) ++
  terminated ++ .env (.setClock 60) ::
  .invoke 2 (.terminationTimeout "s") {} :: List.replicate 6 (.resume 2 {}) ++
  .invoke 3 (.agentExited "s" { nodeId := "n" }) {} :: .resume 3 {} ::
  .invoke 4 (.agentOpened "s" { nodeId := "n" }) {} :: [.resume 4 {}]

theorem lifecycle_monotone_wholeLife :
    LifecycleMonotone "s" (Config.idle pendingSession) wholeLife ∧
      lifeOf "s" (run terminalStep (Config.idle pendingSession) wholeLife).world.data =
        some (.closed, some 60) :=
  ⟨lifecycle_monotone "s" pendingSession wholeLife (by decide +kernel), by decide +kernel⟩

/-- A message `opened` of the agent, sent before it was told. -/
def openedLate : List TerminalEvent :=
  .invoke 1 (.agentOpened "s" { nodeId := "n" }) {} :: List.replicate 5 (.resume 1 {})

/-- **The session is open after it was TERMINATING**, with both calls finished. -/
theorem openedLate_reopens :
    ¬ LifecycleMonotone "s" (Config.idle pendingSession) (terminated ++ openedLate) := by
  intro h
  refine h.notReopened terminated openedLate [] rfl ⟨none, ?_⟩ none ?_
  · rfl
  · rfl

end TerminalSessionsService
