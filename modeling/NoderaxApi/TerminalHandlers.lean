/-
# What the handlers of `TerminalSessionsService` can do

One account of all handlers, for any condition on the operations and any assumption on their
answers: if the condition holds of what `HandlerRules` lists, it holds of every operation that
a handler reaches.  Agent output and controller input are accounted for apart, for they are
what a transcript or an agent gets from outside.
-/
import NoderaxApi.TerminalSessionCalls

open Runs Interleaving AsyncPrograms

namespace TerminalSessionsService

/-- An account of what the handlers do. -/
abbrev TerminalAccount := Account TerminalOp TerminalAnswer TerminalMemory

/-- An operation that neither writes to a session, its transcript or its counter of controllers,
nor forwards an input. -/
def TerminalOp.Plain : TerminalOp → Prop
  | .findSession _ | .recordCommand _ _ | .send _ (.startTerminalSession _ _)
  | .send _ (.resizeTerminalSession _ _) | .send _ (.stopTerminalSession _) | .getCount _
  | .other => True
  | _ => False

/-- What the attachments of controllers are kept in. -/
def TerminalMemory.controllers (m : TerminalMemory) :
    Bool × List (SocketId × Uuid) × (Uuid → ℤ) × List SocketId :=
  (m.redisEnabled, m.socketToAttachment, m.localControllerCounts, m.connected)

/-- What an account of the handlers has to say: it accepts the plain operations, every append of
a text of the service, the updates, none of which makes a session PENDING or OPEN, and the writes
that leave the attachments alone.  The update of the detach timeout is accounted for apart. -/
structure ServiceRules (acc : TerminalAccount) : Prop where
  plain : ∀ {op : TerminalOp} {k}, op.Plain → acc.awaits op k
  update : ∀ {id patch k}, patch.status ≠ some .pending → patch.status ≠ some .opened →
    patch ≠ detachedPatch → acc.awaits (.updateSessionMetadata id patch) k
  append : ∀ {id input} {k : TerminalSessionChunkEntity → TerminalProgram},
    (∀ chunk, (k chunk).Always acc) → (appendChunk id .other input k).Always acc
  write : ∀ {f : TerminalMemory → TerminalMemory}, (∀ m, (f m).controllers = m.controllers) →
    ∀ m, acc.writes m (f m)

/-- The same for an account that also accepts the update that makes a session OPEN, and every
append but those of agent output. -/
structure HandlerRules (acc : TerminalAccount) : Prop where
  plain : ∀ {op : TerminalOp} {k}, op.Plain → acc.awaits op k
  update : ∀ {id patch k}, patch.status ≠ some .pending → patch ≠ detachedPatch →
    acc.awaits (.updateSessionMetadata id patch) k
  append : ∀ {id origin input} {k : TerminalSessionChunkEntity → TerminalProgram},
    origin ≠ .agentOutput → (∀ chunk, (k chunk).Always acc) →
      (appendChunk id origin input k).Always acc
  write : ∀ {f : TerminalMemory → TerminalMemory}, (∀ m, (f m).controllers = m.controllers) →
    ∀ m, acc.writes m (f m)

theorem HandlerRules.service {acc : TerminalAccount} (h : HandlerRules acc) : ServiceRules acc where
  plain := h.plain
  update hpending _ hdetached := h.update hpending hdetached
  append hk := h.append (by decide) hk
  write := h.write

section

variable {acc : TerminalAccount}

/-- An append whose operations are all accepted. -/
theorem appendChunk_always {id : Uuid} {origin : ChunkOrigin} {input : ChunkInput}
    {k : TerminalSessionChunkEntity → TerminalProgram}
    (hstore : ∀ k, acc.awaits (.appendChunkOnce id origin input) k)
    (hread : ∀ k, acc.awaits (.readTranscriptState id) k)
    (hwrite : ∀ state k, acc.awaits (.writeTranscriptState id state) k)
    (hk : ∀ chunk, (k chunk).Always acc) : (appendChunk id origin input k).Always acc := by
  refine ⟨hstore _, fun answer _ => ?_⟩
  cases answer with
  | some chunk => exact hk chunk
  | none =>
      refine ⟨hread _, fun state _ => ⟨hwrite state _, fun _ _ => ⟨hstore _, fun answer _ => ?_⟩⟩⟩
      cases answer with
      | some chunk => exact hk chunk
      | none => trivial

theorem auditCharacters_always (h : ServiceRules acc) {id : Uuid} {k : TerminalProgram}
    (hk : k.Always acc) (text : List Char) (buffer : JsString) :
    (auditCharacters id k text buffer).Always acc := by
  fun_induction auditCharacters id k text buffer with
  | case1 buffer => exact ⟨h.write fun _ => rfl, hk⟩
  | case2 buffer char rest hnewline command hempty ih => exact ih
  | case3 buffer char rest hnewline command hcommand ih => exact ⟨h.plain trivial, fun _ _ => ih⟩
  | case4 buffer char rest hnewline hback ih => exact ih
  | case5 buffer char rest hnewline hback hprint ih => exact ih
  | case6 buffer char rest hnewline hback hprint ih => exact ih

theorem auditSubmittedTerminalCommands_always (h : ServiceRules acc) {id : Uuid}
    {payload : List UInt8} {k : TerminalProgram} (hk : k.Always acc) :
    (auditSubmittedTerminalCommands id payload k).Always acc := by
  unfold auditSubmittedTerminalCommands
  refine .ite (fun _ => ?_) fun _ => ?_
  · exact hk
  · exact fun m => auditCharacters_always h hk _ _

theorem getControllerCount_always (h : ServiceRules acc) {id : Uuid}
    {k : ℤ → TerminalProgram} (hk : ∀ n, (k n).Always acc) :
    (getControllerCount id k).Always acc := by
  intro m
  refine .ite (fun _ => ?_) fun _ => ?_
  · exact ⟨h.plain trivial, fun n _ => hk n⟩
  · exact ⟨h.plain trivial, fun _ _ => hk _⟩

theorem closeSession_always (h : ServiceRules acc) {id : Uuid} {input : CloseInput} :
    (closeSession id input).Always acc := by
  refine ⟨h.write fun _ => rfl, fun m => ?_⟩
  refine ⟨h.update ?_ ?_ ?_, fun _ _ => h.append fun _ => ?_⟩
  · cases hfailed : input.failed <;> simp [CloseInput.patch, CloseInput.status, hfailed]
  · cases hfailed : input.failed <;> simp [CloseInput.patch, CloseInput.status, hfailed]
  · cases hfailed : input.failed <;>
      simp [CloseInput.patch, CloseInput.status, detachedPatch, hfailed]
  · refine ⟨h.plain trivial, fun _ _ => ⟨h.plain trivial, fun _ _ => ?_⟩⟩
    refine .ite (fun _ => ?_) fun _ => ?_
    · exact ⟨h.plain trivial, fun _ _ => ⟨h.plain trivial, fun _ _ => trivial⟩⟩
    · exact ⟨h.plain trivial, fun _ _ => trivial⟩

theorem markFailed_always (h : ServiceRules acc) {id : Uuid} {workspaceId : Option Uuid}
    {message : String} {nodeId : Option Uuid} {timestamp : Option ℤ} :
    (markFailed id workspaceId message nodeId timestamp).Always acc := by
  refine ⟨h.plain trivial, fun session _ => ?_⟩
  refine .ite (fun _ => trivial) fun _ => ?_
  refine .ite (fun _ => trivial) fun _ => ?_
  refine .ite (fun _ => trivial) fun _ => ?_
  exact closeSession_always h

/-- The message `opened`, if its update is accounted for. -/
theorem handleAgentOpened_always (h : ServiceRules acc) {id : Uuid} {input : OpenedInput}
    (hopen : ∀ session now k,
      acc.awaits (.updateSessionMetadata id (input.patch session now)) k) :
    (handleAgentOpened id input).Always acc := by
  refine ⟨h.plain trivial, fun session _ => ?_⟩
  refine .ite (fun _ => trivial) fun _ => ?_
  refine ⟨h.write fun _ => rfl, fun m => ?_⟩
  refine ⟨hopen session m.now _, fun _ _ => ?_⟩
  exact h.append fun _ =>
    ⟨h.plain trivial, fun _ _ => ⟨h.plain trivial, fun _ _ => trivial⟩⟩

/-- What follows the notice that the transcript is full. -/
theorem stopNoticed_always (h : ServiceRules acc) {id : Uuid} : (stopNoticed id).Always acc := by
  refine ⟨h.update (by simp) (by simp) (by simp [detachedPatch]), fun _ _ => ?_⟩
  refine ⟨h.plain trivial, fun _ _ => ⟨h.write fun _ => rfl, ?_⟩⟩
  refine ⟨h.plain trivial, fun dispatched _ => ?_⟩
  exact .ite (fun _ => trivial) fun _ => closeSession_always h

/-- Agent output, if its chunk and the notice are accounted for. -/
theorem handleAgentOutput_always (h : ServiceRules acc) {id : Uuid} {input : OutputInput}
    (hnotice : ∀ {k : TerminalSessionChunkEntity → TerminalProgram},
      (∀ chunk, (k chunk).Always acc) →
        (appendChunk id .capacityNotice capacityNotice k).Always acc)
    (hstore : ∀ {input} {k : TerminalSessionChunkEntity → TerminalProgram},
      (∀ chunk, (k chunk).Always acc) → (appendChunk id .agentOutput input k).Always acc) :
    (handleAgentOutput id input).Always acc := by
  refine ⟨h.plain trivial, fun session _ => ?_⟩
  refine .ite (fun _ => trivial) fun _ => ?_
  refine .ite (fun _ => ?_) fun _ => ?_
  · exact hnotice fun _ => stopNoticed_always h
  · exact hstore fun _ => ⟨h.plain trivial, fun _ _ => trivial⟩

/-- Controller input, if its chunk and its message to the agent are accounted for. -/
theorem handleControllerInput_always (h : ServiceRules acc) {id : Uuid} {payload : List UInt8}
    {user : TerminalUser}
    (hstore : ∀ {input} {k : TerminalSessionChunkEntity → TerminalProgram},
      (∀ chunk, (k chunk).Always acc) → (appendChunk id .controllerInput input k).Always acc)
    (hsend : ∀ k, acc.awaits (.send id (.sendTerminalInput payload)) k) :
    (handleControllerInput id payload user).Always acc := by
  refine ⟨h.plain trivial, fun session _ => ⟨h.plain trivial, fun _ _ => ?_⟩⟩
  refine .ite (fun _ => trivial) fun _ => ?_
  refine ⟨h.plain trivial, fun _ _ => ?_⟩
  refine .ite (fun _ => trivial) fun _ => ?_
  refine hstore fun _ => auditSubmittedTerminalCommands_always h ?_
  refine ⟨hsend _, fun dispatched _ => ?_⟩
  refine .ite (fun _ => trivial) fun _ => ?_
  exact markFailed_always h

theorem handleAgentExited_always (h : ServiceRules acc) {id : Uuid} {input : ExitedInput} :
    (handleAgentExited id input).Always acc := by
  refine ⟨h.plain trivial, fun session _ => ?_⟩
  refine .ite (fun _ => trivial) fun _ => ?_
  exact closeSession_always h

theorem handleControllerResize_always (h : ServiceRules acc) {id : Uuid} {cols rows : ℕ}
    {user : TerminalUser} : (handleControllerResize id cols rows user).Always acc := by
  refine ⟨h.plain trivial, fun session _ => ⟨h.plain trivial, fun _ _ => ?_⟩⟩
  refine .ite (fun _ => trivial) fun _ => ?_
  refine ⟨h.plain trivial, fun _ _ => ?_⟩
  have hresize : ∀ {k}, acc.awaits
      (.updateSessionMetadata id { cols := some cols, rows := some rows }) k := fun {k} =>
    h.update (by simp) (by simp) (by simp [detachedPatch])
  refine .ite (fun _ => ?_) fun _ => ?_
  · exact ⟨hresize, fun _ _ => ⟨h.plain trivial, fun _ _ => trivial⟩⟩
  · refine .ite (fun _ => trivial) fun _ => ?_
    refine ⟨hresize, fun _ _ => ⟨h.plain trivial, fun _ _ => ?_⟩⟩
    refine ⟨h.plain trivial, fun dispatched _ => ?_⟩
    exact .ite (fun _ => trivial) fun _ => markFailed_always h

theorem terminateSession_always (h : ServiceRules acc) {workspaceId : Option Uuid} {id : Uuid}
    {reason : Option String} {user : TerminalUser} :
    (terminateSession workspaceId id reason user).Always acc := by
  refine ⟨h.plain trivial, fun session _ => ?_⟩
  refine .ite (fun _ => trivial) fun _ => ?_
  refine ⟨h.plain trivial, fun _ _ => ⟨h.plain trivial, fun _ _ => ?_⟩⟩
  refine .ite (fun _ => trivial) fun _ => ?_
  refine h.append fun _ => ?_
  refine ⟨h.update (by simp) (by simp) (by simp [detachedPatch]), fun _ _ => ?_⟩
  refine ⟨h.plain trivial, fun _ _ => ⟨h.write fun _ => rfl, ?_⟩⟩
  refine ⟨h.plain trivial, fun _ _ => ⟨h.plain trivial, fun dispatched _ => ?_⟩⟩
  refine .ite (fun _ => ?_) fun _ => ?_
  · exact ⟨h.plain trivial, fun _ _ => trivial⟩
  · exact closeSession_always h

theorem createSession_always (h : ServiceRules acc) {session : TerminalSessionEntity}
    {hostname : String} {user : TerminalUser} :
    (createSession session hostname user).Always acc := by
  refine h.append fun _ => ⟨h.plain trivial, fun _ _ => ?_⟩
  refine ⟨h.plain trivial, fun _ _ => ⟨h.write fun _ => rfl, ?_⟩⟩
  refine ⟨h.plain trivial, fun dispatched _ => ?_⟩
  refine .ite (fun _ => ?_) fun _ => ?_
  · exact ⟨h.plain trivial, fun _ _ => trivial⟩
  · exact markFailed_always h

theorem terminateDetached_always (h : ServiceRules acc) {id : Uuid}
    (hterminate : ∀ k, acc.awaits (.updateSessionMetadata id detachedPatch) k) :
    (terminateDetached id).Always acc := by
  refine ⟨h.plain trivial, fun session _ => ?_⟩
  refine .ite (fun _ => trivial) fun _ => ?_
  refine h.append fun _ => ⟨hterminate _, fun _ _ => ?_⟩
  refine ⟨h.plain trivial, fun _ _ => ⟨h.write fun _ => rfl, ?_⟩⟩
  refine ⟨h.plain trivial, fun dispatched _ => ?_⟩
  exact .ite (fun _ => trivial) fun _ => closeSession_always h

/-- The detach timeout, if its update is accounted for. -/
theorem handleDetachTimeout_always (h : ServiceRules acc) {id : Uuid}
    (hterminate : ∀ k, acc.awaits (.updateSessionMetadata id detachedPatch) k) :
    (handleDetachTimeout id).Always acc := by
  intro m
  refine .ite (fun _ => ⟨h.write fun _ => rfl, ?_⟩) fun _ => trivial
  refine getControllerCount_always h fun activeCount => ?_
  exact .ite (fun _ => trivial) fun _ => terminateDetached_always h hterminate

/-- The requests that attach and detach controllers. -/
def TerminalRequest.IsAttachment : TerminalRequest → Prop
  | .connect _ | .disconnect _ | .attach _ _ _ | .detach _ => True
  | _ => False

/-- **What the handlers do**, but for the attachments. -/
theorem terminalBody_always (h : ServiceRules acc) (req : TerminalRequest)
    (hopened : ∀ id input, req = .agentOpened id input → (handleAgentOpened id input).Always acc)
    (houtput : ∀ id input, req = .agentOutput id input → (handleAgentOutput id input).Always acc)
    (hinput : ∀ id payload user, req = .input id payload user →
      (handleControllerInput id payload user).Always acc)
    (hdetach : ∀ id, req = .detachTimeout id → (handleDetachTimeout id).Always acc)
    (hattachment : req.IsAttachment → (terminalBody req).Always acc) :
    (terminalBody req).Always acc := by
  cases req with
  | createSession session hostname user => exact createSession_always h
  | agentOpened id input => exact hopened id input rfl
  | agentOutput id input => exact houtput id input rfl
  | agentExited id input => exact handleAgentExited_always h
  | agentError id nodeId message timestamp => exact markFailed_always h
  | connect socketId => exact hattachment trivial
  | disconnect socketId => exact hattachment trivial
  | attach id user socketId => exact hattachment trivial
  | detach socketId => exact hattachment trivial
  | input id payload user => exact hinput id payload user rfl
  | resize id cols rows user => exact handleControllerResize_always h
  | terminate workspaceId id reason user => exact terminateSession_always h
  | pendingOpenTimeout id =>
      intro m
      refine .ite (fun _ => ⟨h.write fun _ => rfl, ?_⟩) fun _ => trivial
      exact markFailed_always h
  | detachTimeout id => exact hdetach id rfl
  | terminationTimeout id =>
      intro m
      refine .ite (fun _ => ⟨h.write fun _ => rfl, ?_⟩) fun _ => trivial
      refine ⟨h.plain trivial, fun session _ => ?_⟩
      unfold closeUnconfirmed
      exact .ite (fun _ => trivial) fun _ => closeSession_always h

/-- The message `opened`. -/
theorem HandlerRules.agentOpened (h : HandlerRules acc) {id : Uuid} {input : OpenedInput} :
    (handleAgentOpened id input).Always acc :=
  handleAgentOpened_always h.service fun _ _ _ =>
    h.update (by simp [OpenedInput.patch]) (by simp [OpenedInput.patch, detachedPatch])

/-- Agent output, if its chunk is accounted for. -/
theorem HandlerRules.agentOutput (h : HandlerRules acc) {id : Uuid} {input : OutputInput}
    (hstore : ∀ {input} {k : TerminalSessionChunkEntity → TerminalProgram},
      (∀ chunk, (k chunk).Always acc) → (appendChunk id .agentOutput input k).Always acc) :
    (handleAgentOutput id input).Always acc :=
  handleAgentOutput_always h.service (fun hk => h.append (by decide) hk) hstore

/-- Controller input, if its message to the agent is accounted for. -/
theorem HandlerRules.controllerInput (h : HandlerRules acc) {id : Uuid} {payload : List UInt8}
    {user : TerminalUser} (hsend : ∀ k, acc.awaits (.send id (.sendTerminalInput payload)) k) :
    (handleControllerInput id payload user).Always acc :=
  handleControllerInput_always h.service (fun hk => h.append (by decide) hk) hsend

/-- **What the handlers do** under these rules. -/
theorem HandlerRules.terminalBody (h : HandlerRules acc) (req : TerminalRequest)
    (houtput : ∀ id input, req = .agentOutput id input → (handleAgentOutput id input).Always acc)
    (hinput : ∀ id payload user, req = .input id payload user →
      (handleControllerInput id payload user).Always acc)
    (hdetach : ∀ id, req = .detachTimeout id → (handleDetachTimeout id).Always acc)
    (hattachment : req.IsAttachment → (TerminalSessionsService.terminalBody req).Always acc) :
    (TerminalSessionsService.terminalBody req).Always acc :=
  terminalBody_always h.service req (fun _ _ _ => h.agentOpened) houtput hinput hdetach hattachment

/-! ## Attachments -/

/-- What an account has to say of the operations of `attachController` and `detachController`. -/
def TerminalOp.Attaches : TerminalOp → Prop
  | .findSession _ | .incrementCount _ | .decrementCount _ | .expireCount _ | .resetCount _
  | .attachCheck _ _ | .other => True
  | _ => False

theorem decrementControllerCount_always
    (hop : ∀ {op : TerminalOp} {k}, op.Attaches → acc.awaits op k)
    (hwrite : ∀ m m', acc.writes m m') {id : Uuid} {k : ℤ → TerminalProgram}
    (hk : ∀ n, (k n).Always acc) : (decrementControllerCount id k).Always acc := by
  intro m
  refine .ite (fun _ => ?_) fun _ => ?_
  · refine ⟨hop trivial, fun n _ => ⟨hop trivial, fun _ _ => ?_⟩⟩
    exact .ite (fun _ => ⟨hop trivial, fun _ _ => hk 0⟩) fun _ => hk n
  · exact ⟨fun m => hwrite _ _, hop trivial, fun _ _ => hk _⟩

theorem detachController_always (hop : ∀ {op : TerminalOp} {k}, op.Attaches → acc.awaits op k)
    (hwrite : ∀ m m', acc.writes m m') {socketId : SocketId} {k : TerminalProgram}
    (hk : k.Always acc) : (detachController socketId k).Always acc := by
  intro m
  simp only
  split
  · exact hk
  · refine ⟨fun m => hwrite _ _, decrementControllerCount_always hop hwrite fun n => ?_⟩
    exact .ite (fun _ => ⟨fun m => hwrite _ _, hk⟩) fun _ => hk

theorem registerController_always (hop : ∀ {op : TerminalOp} {k}, op.Attaches → acc.awaits op k)
    (hwrite : ∀ m m', acc.writes m m') {id : Uuid} {socketId : SocketId} :
    (registerController id socketId).Always acc := by
  refine ⟨fun m => hwrite _ _, fun m => hwrite _ _, fun m => ?_⟩
  refine .ite (fun _ => ?_) fun _ => ?_
  · exact ⟨hop trivial, fun n _ => ⟨hop trivial, fun _ _ => trivial⟩⟩
  · exact ⟨fun m => hwrite _ _, hop trivial, fun _ _ => trivial⟩

theorem attachDetached_always (hop : ∀ {op : TerminalOp} {k}, op.Attaches → acc.awaits op k)
    (hwrite : ∀ m m', acc.writes m m') {id : Uuid} {user : TerminalUser} {socketId : SocketId} :
    (attachDetached id user socketId).Always acc := by
  refine ⟨hop trivial, fun session _ => ⟨hop trivial, fun _ _ => ?_⟩⟩
  refine .ite (fun _ => trivial) fun _ => ⟨hop trivial, fun _ _ => ?_⟩
  exact registerController_always hop hwrite

/-- An account that accepts the operations and the writes of the attachments. -/
theorem attachment_always (hop : ∀ {op : TerminalOp} {k}, op.Attaches → acc.awaits op k)
    (hwrite : ∀ m m', acc.writes m m') {req : TerminalRequest} (hreq : req.IsAttachment) :
    (terminalBody req).Always acc := by
  cases req with
  | connect socketId => exact ⟨fun m => hwrite _ _, trivial⟩
  | disconnect socketId =>
      exact ⟨fun m => hwrite _ _, detachController_always hop hwrite trivial⟩
  | attach id user socketId =>
      intro m
      refine .ite (fun _ => ?_) fun _ => attachDetached_always hop hwrite
      exact detachController_always hop hwrite (attachDetached_always hop hwrite)
  | detach socketId => exact detachController_always hop hwrite trivial
  | _ => exact hreq.elim

end

end TerminalSessionsService
