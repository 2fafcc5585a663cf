/-
# Agents do not interfere over the lifecycle messages

Two runs that differ in the messages of one agent stay related: they differ in
that agent's tasks, registered events, answers and handlers only.  The condition
is on the third unique index of the events table, which does not contain the
node: no event that another node registers may meet a row of the agent with the
same task, type and timestamp.
-/
import NoderaxApi.AgentRealtime
import NoderaxApi.TaskEventIsolation

namespace AgentRealtime

open Interleaving Runs TasksService

/-! ## What differs -/

/-- The steps that only the agent's messages cause. -/
def LifecycleStep.isFrom (agent : Uuid) : LifecycleStep → Bool
  | .message nodeId _ _ _ _ => nodeId = agent
  | .resume nodeId _ _ => nodeId = agent
  | .tasks _ => false

/-- The worlds differ in what is the agent's only. -/
structure SameWorld (agent : Uuid) (w w' : LifecycleWorld) : Prop where
  db : SameElsewhere agent w.db w'.db
  keys : KeysDistinct w.db
  events : w.lifecycleEvents.filter (fun row => row.nodeId ≠ agent)
    = w'.lifecycleEvents.filter fun row => row.nodeId ≠ agent
  history : w.history.filter (fun fact => fact.nodeId ≠ agent)
    = w'.history.filter fun fact => fact.nodeId ≠ agent

/-- The handlers of a configuration run for the node of their socket. -/
def HandlersOwned (c : LifecycleConfig) : Prop :=
  ∀ p handler, c.pending p = some handler → handler.nodeId = p.1

/-- The configurations differ in what is the agent's only. -/
structure SameConfig (agent : Uuid) (c c' : LifecycleConfig) : Prop where
  world : SameWorld agent c.world c'.world
  pending : ∀ p, p.1 ≠ agent → c.pending p = c'.pending p
  owned : HandlersOwned c
  owned' : HandlersOwned c'

variable {agent nodeId : Uuid} {w w' w'' : LifecycleWorld}

theorem SameWorld.refl (hkeys : KeysDistinct w.db) : SameWorld agent w w :=
  ⟨.refl w.db, hkeys, rfl, rfl⟩

theorem SameWorld.symm (h : SameWorld agent w w') : SameWorld agent w' w :=
  ⟨h.db.symm, h.db.keysDistinct h.keys, h.events.symm, h.history.symm⟩

theorem SameWorld.trans (h : SameWorld agent w w') (h' : SameWorld agent w' w'') :
    SameWorld agent w w'' :=
  ⟨h.db.trans h'.db, h.keys, h.events.trans h'.events, h.history.trans h'.history⟩

theorem SameConfig.symm {c c' : LifecycleConfig} (h : SameConfig agent c c') :
    SameConfig agent c' c :=
  ⟨h.world.symm, fun p hp => (h.pending p hp).symm, h.owned', h.owned⟩

/-! ## The task service -/

theorem callTasksService_own {db db' : TaskTables} {now : ℤ} {authenticated : Except HttpError Unit}
    {message : AgentTaskMessage} {answer : LifecycleAnswer}
    (h : callTasksService db now agent authenticated message = .ok (db', answer)) :
    SameElsewhere agent db db' := by
  unfold callTasksService at h
  split at h
  · obtain ⟨_, hcall, h⟩ := bind_eq_ok.mp h
    cases h
    exact acknowledgeForAgent_own hcall
  · obtain ⟨⟨_, _⟩, hcall, h⟩ := bind_eq_ok.mp h
    cases h
    exact startForAgent_own hcall
  · obtain ⟨_, hcall, h⟩ := bind_eq_ok.mp h
    cases h
    exact appendLogForAgent_own hcall
  · obtain ⟨⟨_, _⟩, hcall, h⟩ := bind_eq_ok.mp h
    cases h
    exact completeForAgent_own hcall

theorem callTasksService_other {db db' : TaskTables} (h : SameElsewhere agent db db')
    (hnode : nodeId ≠ agent) (now : ℤ) (authenticated : Except HttpError Unit)
    (message : AgentTaskMessage) :
    SameOutcome (SameResult agent) (callTasksService db now nodeId authenticated message)
      (callTasksService db' now nodeId authenticated message) := by
  unfold callTasksService
  split
  · exact .bind_related (acknowledgeForAgent_other h hnode _ _ _) fun _ _ hsame => ⟨hsame, rfl⟩
  · refine .bind_related (startForAgent_other h hnode _ _ _) ?_
    rintro ⟨_, _⟩ ⟨_, _⟩ ⟨hsame, rfl⟩
    exact ⟨hsame, rfl⟩
  · exact .bind_related (appendLogForAgent_other h hnode _ _ _) fun _ _ hsame => ⟨hsame, rfl⟩
  · refine .bind_related (completeForAgent_other h hnode _ _ _) ?_
    rintro ⟨_, _⟩ ⟨_, _⟩ ⟨hsame, rfl⟩
    exact ⟨hsame, rfl⟩

/-- What is left of a call of the agent itself. -/
theorem outcome_own {db : TaskTables} {fault : ServiceFault}
    {result : Except HttpError (TaskTables × LifecycleAnswer)}
    (h : ∀ db' answer, result = .ok (db', answer) → SameElsewhere agent db db') :
    SameElsewhere agent db ((fault.outcome result).1.getD db) := by
  unfold ServiceFault.outcome
  split
  · exact .refl db
  · exact .refl db
  · exact h _ _ rfl
  · exact h _ _ rfl

/-- What is left of a call of another node, on both sides. -/
theorem outcome_other {db db' : TaskTables} (fault : ServiceFault) (h : SameElsewhere agent db db')
    {result result' : Except HttpError (TaskTables × LifecycleAnswer)}
    (hresult : SameOutcome (SameResult agent) result result') :
    SameElsewhere agent ((fault.outcome result).1.getD db) ((fault.outcome result').1.getD db') ∧
      (fault.outcome result).1.isSome = (fault.outcome result').1.isSome ∧
      (fault.outcome result).2 = (fault.outcome result').2 := by
  cases result with
  | error e =>
      cases result' with
      | error e' =>
          have he : e = e' := hresult
          subst he
          cases fault <;> exact ⟨h, rfl, rfl⟩
      | ok r' => exact hresult.elim
  | ok r =>
      cases result' with
      | error e' => exact hresult.elim
      | ok r' =>
          obtain ⟨hdb, hanswer⟩ := hresult
          cases fault with
          | none => exact ⟨hdb, rfl, congrArg Except.ok hanswer⟩
          | before error => exact ⟨h, rfl, rfl⟩
          | after error => exact ⟨hdb, rfl, rfl⟩

/-! ## The registration -/

/-- The sequence check of another node reads its own rows. -/
theorem isStaleSeq_other {rows rows' : List LifecycleEventEntity}
    (hrows : rows.filter (fun row => row.nodeId ≠ agent)
      = rows'.filter fun row => row.nodeId ≠ agent) (hnode : nodeId ≠ agent)
    (eventSeq : Option ℕ) : isStaleSeq rows nodeId eventSeq = isStaleSeq rows' nodeId eventSeq := by
  have hown : ∀ rows : List LifecycleEventEntity,
      rows.filter (fun row => row.nodeId = nodeId)
        = (rows.filter fun row => row.nodeId ≠ agent).filter fun row => row.nodeId = nodeId := by
    intro rows
    rw [List.filter_filter]
    refine List.filter_congr ?_
    intro row _
    by_cases hrow : row.nodeId = nodeId
    · simp [hrow, hnode]
    · simp [hrow]
  unfold isStaleSeq maxEventSeq
  rw [hown rows, hown rows', hrows]

/-- No row of the agent has the idempotency key of the event. -/
def KeyApart (agent : Uuid) (rows : List LifecycleEventEntity) (event : LifecycleEventEntity) :
    Prop :=
  ∀ row ∈ rows, row.nodeId = agent → sameIdempotencyKey row event = false

instance (agent : Uuid) (rows : List LifecycleEventEntity) (event : LifecycleEventEntity) :
    Decidable (KeyApart agent rows event) := by
  unfold KeyApart; infer_instance

/-- The rows that an INSERT of another node conflicts with are not the agent's. -/
theorem any_conflicts_other {rows : List LifecycleEventEntity} {event : LifecycleEventEntity}
    (hnode : event.nodeId ≠ agent) (hapart : KeyApart agent rows event) :
    rows.any (conflicts · event)
      = (rows.filter fun row => row.nodeId ≠ agent).any (conflicts · event) := by
  rw [Bool.eq_iff_iff, List.any_eq_true, List.any_eq_true]
  constructor
  · rintro ⟨row, hrow, hconflict⟩
    refine ⟨row, List.mem_filter.mpr ⟨hrow, ?_⟩, hconflict⟩
    rw [decide_eq_true_eq]
    intro hagent
    -- the first two indexes contain the node, the third one is apart
    have hne : ¬ agent = event.nodeId := hnode.symm
    simp [conflicts, sameEventId, sameEventSeq, hagent, hne, hapart row hrow hagent] at hconflict
  · rintro ⟨row, hrow, hconflict⟩
    exact ⟨row, (List.mem_filter.mp hrow).1, hconflict⟩

/-- The INSERT of another node, on both sides. -/
theorem saveLifecycleEvent_other {rows rows' : List LifecycleEventEntity}
    {event : LifecycleEventEntity}
    (hrows : rows.filter (fun row => row.nodeId ≠ agent)
      = rows'.filter fun row => row.nodeId ≠ agent) (hnode : event.nodeId ≠ agent)
    (hapart : KeyApart agent rows event) (hapart' : KeyApart agent rows' event) :
    (∃ error, saveLifecycleEvent rows event = .error error ∧
        saveLifecycleEvent rows' event = .error error) ∨
      (saveLifecycleEvent rows event = .ok none ∧ saveLifecycleEvent rows' event = .ok none) ∨
      (saveLifecycleEvent rows event = .ok (some (rows ++ [event])) ∧
        saveLifecycleEvent rows' event = .ok (some (rows' ++ [event]))) := by
  have hany : rows.any (conflicts · event) = rows'.any (conflicts · event) := by
    rw [any_conflicts_other hnode hapart, any_conflicts_other hnode hapart', hrows]
  unfold saveLifecycleEvent
  rw [hany]
  split
  · exact Or.inl ⟨_, rfl, rfl⟩
  · split
    · exact Or.inr (Or.inl ⟨rfl, rfl⟩)
    · exact Or.inr (Or.inr ⟨rfl, rfl⟩)

/-! ## The steps of a handler -/

/-- One more entry about the agent. -/
theorem filter_own {facts new : List LifecycleFact} (hnew : ∀ fact ∈ new, fact.nodeId = agent) :
    (facts ++ new).filter (fun fact => fact.nodeId ≠ agent)
      = facts.filter fun fact => fact.nodeId ≠ agent := by
  have hnone : new.filter (fun fact => decide (fact.nodeId ≠ agent)) = [] := by
    rw [List.filter_eq_nil_iff]
    intro fact hfact
    simp [hnew fact hfact]
  rw [List.filter_append, hnone, List.append_nil]

/-- The same new entries on both sides. -/
theorem SameWorld.filter_append (h : SameWorld agent w w') (new : List LifecycleFact) :
    (w.history ++ new).filter (fun fact => fact.nodeId ≠ agent)
      = (w'.history ++ new).filter fun fact => fact.nodeId ≠ agent := by
  rw [List.filter_append, List.filter_append, h.history]

theorem sameWorld_answer (hkeys : KeysDistinct w.db) (event : ℕ) (answer : LifecycleAnswer) :
    SameWorld agent w (w.answer agent event answer) := by
  refine ⟨.refl w.db, hkeys, rfl, (filter_own ?_).symm⟩
  intro fact hfact
  rw [List.mem_singleton] at hfact
  rw [hfact]
  rfl

theorem SameWorld.answer (h : SameWorld agent w w') (nodeId : Uuid) (event : ℕ)
    (answer : LifecycleAnswer) :
    SameWorld agent (w.answer nodeId event answer) (w'.answer nodeId event answer) :=
  ⟨h.db, h.keys, h.events, h.filter_append _⟩

/-- The events being handled are not compared. -/
theorem SameWorld.handled (h : SameWorld agent w w') (nodeId : Uuid) (event : ℕ) :
    SameWorld agent (w.handled nodeId event) (w'.handled nodeId event) :=
  ⟨h.db, h.keys, h.events, h.history⟩

theorem sameWorld_handled_answer (hkeys : KeysDistinct w.db) (event : ℕ)
    (answer : LifecycleAnswer) :
    SameWorld agent w ((w.handled agent event).answer agent event answer) := by
  have hhandled : SameWorld agent w (w.handled agent event) := ⟨.refl w.db, hkeys, rfl, rfl⟩
  exact hhandled.trans (sameWorld_answer (w := w.handled agent event) hkeys event answer)

/-- One handler moves on for the same node. -/
theorem pending_update_owned {c : LifecycleConfig} (h : HandlersOwned c) {w₁ : LifecycleWorld}
    {p : Uuid × ℕ} {next : Option PendingHandler}
    (hnext : ∀ handler, next = some handler → handler.nodeId = p.1) :
    HandlersOwned ⟨w₁, Function.update c.pending p next⟩ := by
  intro q handler hq
  by_cases hqp : q = p
  · subst hqp
    dsimp only at hq
    rw [Function.update_self] at hq
    exact hnext handler hq
  · dsimp only at hq
    rw [Function.update_of_ne hqp] at hq
    exact h q handler hq

section Handlers

variable (message : ℕ → AgentTaskMessage)

/-- A message of the agent. -/
theorem invokeHandler_own (request : LifecycleRequest) (input : LifecycleInput)
    (hrequest : request.nodeId = agent) (hkeys : KeysDistinct w.db) :
    SameWorld agent w (invokeHandler message request input w).1 ∧
      ∀ handler, (invokeHandler message request input w).2 = some handler →
        handler.nodeId = agent := by
  subst hrequest
  unfold invokeHandler
  split
  · exact ⟨sameWorld_answer hkeys _ _, fun _ hnext => by cases hnext⟩
  · split
    · exact ⟨sameWorld_answer hkeys _ _, fun _ hnext => by cases hnext⟩
    · refine ⟨⟨.refl w.db, hkeys, rfl, rfl⟩, ?_⟩
      intro handler hnext
      cases hnext
      rfl

/-- A message of another node, on both sides. -/
theorem invokeHandler_other (h : SameWorld agent w w') (request : LifecycleRequest)
    (hrequest : request.nodeId ≠ agent) (input : LifecycleInput) :
    SameWorld agent (invokeHandler message request input w).1
        (invokeHandler message request input w').1 ∧
      (invokeHandler message request input w).2 = (invokeHandler message request input w').2 := by
  unfold invokeHandler
  rw [isStaleSeq_other h.events hrequest]
  split
  · exact ⟨h.answer _ _ _, rfl⟩
  · split
    · exact ⟨h.answer _ _ _, rfl⟩
    · exact ⟨⟨h.db, h.keys, h.events, h.history⟩, rfl⟩

/-- The end of a service call of the agent. -/
theorem sameWorld_finish (hkeys : KeysDistinct w.db) (now : ℤ) (event : ℕ)
    {outcome : Option TaskTables × Except HttpError LifecycleAnswer}
    (hdb : SameElsewhere agent w.db (outcome.1.getD w.db)) :
    SameWorld agent w (w.finish message now agent event outcome) := by
  refine ⟨hdb, hkeys, rfl, ?_⟩
  unfold LifecycleWorld.finish
  dsimp only
  rw [List.append_assoc, filter_own]
  intro fact hfact
  rcases List.mem_append.mp hfact with hfirst | hanswer
  · rw [List.mem_singleton] at hfirst
    rw [hfirst]
    unfold effectOf
    split <;> rfl
  · rw [List.mem_singleton] at hanswer
    rw [hanswer]
    rfl

/-- A step of a handler of the agent. -/
theorem resumeHandler_own {handler : PendingHandler} (input : LifecycleInput)
    (hhandler : handler.nodeId = agent) (hkeys : KeysDistinct w.db) :
    SameWorld agent w (resumeHandler message handler input w).1 ∧
      ∀ next, (resumeHandler message handler input w).2 = some next → next.nodeId = agent := by
  cases handler with
  | register row =>
      have hrow : row.nodeId = agent := hhandler
      subst hrow
      simp only [resumeHandler]
      split
      · exact ⟨sameWorld_handled_answer hkeys _ _, fun _ hnext => by cases hnext⟩
      · exact ⟨sameWorld_handled_answer hkeys _ _, fun _ hnext => by cases hnext⟩
      · next rows hsave =>
          obtain ⟨rfl, -⟩ := saveLifecycleEvent_some hsave
          refine ⟨⟨.refl w.db, hkeys, ?_, rfl⟩, ?_⟩
          · show _ = (w.lifecycleEvents ++ [row]).filter _
            rw [List.filter_append]
            simp
          · intro next hnext
            cases hnext
            rfl
  | apply nodeId event =>
      have hnode : nodeId = agent := hhandler
      subst hnode
      simp only [resumeHandler]
      refine ⟨sameWorld_finish message hkeys _ _ (outcome_own ?_), fun _ hnext => by cases hnext⟩
      intro db' answer hcall
      exact callTasksService_own hcall

/-- The next registration of a handler meets no row of the agent. -/
def RegistersApart (agent : Uuid) (w : LifecycleWorld) : PendingHandler → Prop
  | .register row => KeyApart agent w.lifecycleEvents row
  | .apply _ _ => True

instance (agent : Uuid) (w : LifecycleWorld) (handler : PendingHandler) :
    Decidable (RegistersApart agent w handler) :=
  match handler with
  | .register row => inferInstanceAs (Decidable (KeyApart agent w.lifecycleEvents row))
  | .apply .. => instDecidableTrue

/-- A step of a handler of another node, on both sides. -/
theorem resumeHandler_other (h : SameWorld agent w w') {handler : PendingHandler}
    (hhandler : handler.nodeId ≠ agent) (hapart : RegistersApart agent w handler)
    (hapart' : RegistersApart agent w' handler) (input : LifecycleInput) :
    SameWorld agent (resumeHandler message handler input w).1
        (resumeHandler message handler input w').1 ∧
      (resumeHandler message handler input w).2 = (resumeHandler message handler input w').2 := by
  cases handler with
  | register row =>
      simp only [resumeHandler]
      rcases saveLifecycleEvent_other h.events hhandler hapart hapart' with
        ⟨error, hsave, hsave'⟩ | ⟨hsave, hsave'⟩ | ⟨hsave, hsave'⟩
      · rw [hsave, hsave']
        exact ⟨(h.handled _ _).answer _ _ _, rfl⟩
      · rw [hsave, hsave']
        exact ⟨(h.handled _ _).answer _ _ _, rfl⟩
      · rw [hsave, hsave']
        refine ⟨⟨h.db, h.keys, ?_, h.history⟩, rfl⟩
        show (w.lifecycleEvents ++ [row]).filter _ = (w'.lifecycleEvents ++ [row]).filter _
        rw [List.filter_append, List.filter_append, h.events]
  | apply nodeId event =>
      have hnode : nodeId ≠ agent := hhandler
      simp only [resumeHandler]
      obtain ⟨hdb, happlied, hanswer⟩ := outcome_other input.fault h.db
        (callTasksService_other h.db hnode input.now input.authenticated (message event))
      refine ⟨⟨hdb, ?_, h.events, ?_⟩, trivial⟩
      · -- on one side, the call is one of the node itself
        have hown : SameElsewhere nodeId w.db ((input.fault.outcome (callTasksService w.db input.now
            nodeId input.authenticated (message event))).1.getD w.db) :=
          outcome_own fun _ _ hcall => callTasksService_own hcall
        exact hown.keysDistinct h.keys
      · unfold LifecycleWorld.finish
        dsimp only
        rw [effectOf_outcome, effectOf_outcome, happlied, hanswer, List.append_assoc,
          List.append_assoc]
        exact h.filter_append _

/-! ## Runs -/

/-- A handler of the agent moves on. -/
theorem SameConfig.move_own {c c' : LifecycleConfig} (h : SameConfig agent c c')
    {w₁ : LifecycleWorld} {p : Uuid × ℕ} {next : Option PendingHandler} (hp : p.1 = agent)
    (hworld : SameWorld agent c.world w₁)
    (hnext : ∀ handler, next = some handler → handler.nodeId = agent) :
    SameConfig agent ⟨w₁, Function.update c.pending p next⟩ c' := by
  refine ⟨hworld.symm.trans h.world, ?_, ?_, h.owned'⟩
  · intro q hq
    have hne : q ≠ p := by
      rintro rfl
      exact hq hp
    show Function.update c.pending p next q = c'.pending q
    rw [Function.update_of_ne hne]
    exact h.pending q hq
  · refine pending_update_owned h.owned fun handler hsome => ?_
    rw [hp]
    exact hnext handler hsome

/-- A handler of another node moves on, on both sides alike. -/
theorem SameConfig.move_both {c c' : LifecycleConfig} (h : SameConfig agent c c')
    {w₁ w₁' : LifecycleWorld} {p : Uuid × ℕ} {next next' : Option PendingHandler}
    (hworld : SameWorld agent w₁ w₁') (hsame : next = next')
    (hnext : ∀ handler, next = some handler → handler.nodeId = p.1) :
    SameConfig agent ⟨w₁, Function.update c.pending p next⟩
      ⟨w₁', Function.update c'.pending p next'⟩ := by
  subst hsame
  refine ⟨hworld, ?_, pending_update_owned h.owned hnext, pending_update_owned h.owned' hnext⟩
  intro q hq
  show Function.update c.pending p next q = Function.update c'.pending p next q
  by_cases hqp : q = p
  · subst hqp
    rw [Function.update_self, Function.update_self]
  · rw [Function.update_of_ne hqp, Function.update_of_ne hqp]
    exact h.pending q hq

/-- A step of the agent's messages changes what is the agent's only. -/
theorem SameConfig.own {c c' : LifecycleConfig} (h : SameConfig agent c c') {e : LifecycleStep}
    (he : e.isFrom agent = true) : SameConfig agent (lifecycleStep message c e) c' := by
  cases e with
  | message nodeId handler event hasSession input =>
      have hnode : nodeId = agent := by simpa [LifecycleStep.isFrom] using he
      simp only [lifecycleStep, LifecycleStep.toEvent]
      cases hp : c.pending (nodeId, handler) with
      | some l =>
          rw [step_invoke_busy hp]
          exact h
      | none =>
          rw [step_invoke hp]
          obtain ⟨hown, hnext⟩ := invokeHandler_own message
            { nodeId := nodeId, event := event, hasSession := hasSession } input hnode h.world.keys
          exact h.move_own hnode hown hnext
  | resume nodeId handler input =>
      have hnode : nodeId = agent := by simpa [LifecycleStep.isFrom] using he
      simp only [lifecycleStep, LifecycleStep.toEvent]
      cases hp : c.pending (nodeId, handler) with
      | none =>
          rw [step_resume_idle hp]
          exact h
      | some l =>
          rw [step_resume hp]
          have hl : l.nodeId = agent := (h.owned _ l hp).trans hnode
          obtain ⟨hown, hnext⟩ := resumeHandler_own message input hl h.world.keys
          exact h.move_own hnode hown hnext
  | tasks e => cases he

/-- The registrations of other nodes meet no row of the agent. -/
def RegistrationsApart (agent : Uuid) (c : LifecycleConfig) : LifecycleStep → Prop
  | .resume nodeId handler _ => nodeId ≠ agent →
      ∀ pending ∈ c.pending (nodeId, handler), RegistersApart agent c.world pending
  | .message _ _ _ _ _ | .tasks _ => True

instance (agent : Uuid) (c : LifecycleConfig) (e : LifecycleStep) :
    Decidable (RegistrationsApart agent c e) := by
  cases e <;> unfold RegistrationsApart <;> infer_instance

/-- Every other step, taken on both sides. -/
theorem SameConfig.both {c c' : LifecycleConfig} (h : SameConfig agent c c') {e : LifecycleStep}
    (he : e.isFrom agent = false) (hapart : RegistrationsApart agent c e)
    (hapart' : RegistrationsApart agent c' e) :
    SameConfig agent (lifecycleStep message c e) (lifecycleStep message c' e) := by
  cases e with
  | message nodeId handler event hasSession input =>
      have hnode : nodeId ≠ agent := by simpa [LifecycleStep.isFrom] using he
      have hpending : c.pending (nodeId, handler) = c'.pending (nodeId, handler) :=
        h.pending (nodeId, handler) hnode
      simp only [lifecycleStep, LifecycleStep.toEvent]
      cases hp : c.pending (nodeId, handler) with
      | some l =>
          rw [step_invoke_busy hp, step_invoke_busy (hpending ▸ hp)]
          exact h
      | none =>
          rw [step_invoke hp, step_invoke (hpending ▸ hp)]
          obtain ⟨hworld, hsame⟩ := invokeHandler_other message h.world
            { nodeId := nodeId, event := event, hasSession := hasSession } hnode input
          have hown := invokeHandler_own message
            { nodeId := nodeId, event := event, hasSession := hasSession } input rfl h.world.keys
          exact h.move_both hworld hsame hown.2
  | resume nodeId handler input =>
      have hnode : nodeId ≠ agent := by simpa [LifecycleStep.isFrom] using he
      have hpending : c.pending (nodeId, handler) = c'.pending (nodeId, handler) :=
        h.pending (nodeId, handler) hnode
      simp only [lifecycleStep, LifecycleStep.toEvent]
      cases hp : c.pending (nodeId, handler) with
      | none =>
          rw [step_resume_idle hp, step_resume_idle (hpending ▸ hp)]
          exact h
      | some l =>
          have hp' : c'.pending (nodeId, handler) = some l := hpending ▸ hp
          rw [step_resume hp, step_resume hp']
          have hl : l.nodeId = nodeId := h.owned _ l hp
          obtain ⟨hworld, hsame⟩ := resumeHandler_other message h.world (by rw [hl]; exact hnode)
            (hapart hnode l hp) (hapart' hnode l hp') input
          exact h.move_both hworld hsame (resumeHandler_own message input hl h.world.keys).2
  | tasks e =>
      exact ⟨⟨h.world.db.taskStep h.world.keys e, taskStep_keysDistinct h.world.keys e,
        h.world.events, h.world.history⟩, h.pending, h.owned, h.owned'⟩

/-- The state after the steps `es`. -/
abbrev lifecycleRun (w : LifecycleWorld) (es : List LifecycleStep) : LifecycleConfig :=
  run (lifecycleStep message) (Config.idle w) es

/-- The answers given to a node's sockets, in order. -/
def answersTo (node : Uuid) (w : LifecycleWorld) : List (ℕ × LifecycleAnswer) :=
  w.history.filterMap fun fact =>
    match fact with
    | .answered nodeId event answer => if nodeId = node then some (event, answer) else none
    | _ => none

/-- The stored row of a task, if it is one of the node's. -/
def taskOf (node : Uuid) (db : TaskTables) (id : Uuid) : Option TaskEntity :=
  (db.findTask id).filter (·.nodeId = node)

/-- The answers to another node are in what is the same. -/
theorem SameWorld.answersTo (h : SameWorld agent w w') {node : Uuid} (hnode : node ≠ agent) :
    AgentRealtime.answersTo node w = AgentRealtime.answersTo node w' := by
  have hown : ∀ w : LifecycleWorld, AgentRealtime.answersTo node w
      = (w.history.filter fun fact => fact.nodeId ≠ agent).filterMap fun fact =>
        match fact with
        | .answered nodeId event answer => if nodeId = node then some (event, answer) else none
        | _ => none := by
    intro w
    unfold AgentRealtime.answersTo
    rw [List.filterMap_filter]
    refine List.filterMap_congr ?_
    intro fact _
    cases fact with
    | answered nodeId event answer =>
        by_cases hsame : nodeId = node
        · simp [LifecycleFact.nodeId, hsame, hnode]
        · simp [hsame]
    | applied nodeId event => simp
    | failed nodeId event => simp
  rw [hown w, hown w', h.history]

/-- So are its tasks. -/
theorem SameWorld.taskOf (h : SameWorld agent w w') {node : Uuid} (hnode : node ≠ agent)
    (id : Uuid) : AgentRealtime.taskOf node w.db id = AgentRealtime.taskOf node w'.db id := by
  unfold AgentRealtime.taskOf
  rcases h.db.find id with ⟨hfind, hfind'⟩ | ⟨row, row', hfind, hfind', hrow⟩
  · rw [hfind, hfind']
  · rw [hfind, hfind']
    by_cases hagent : row.nodeId = agent
    · have hrefuse : ¬ agent = node := hnode.symm
      simp [Option.filter, hagent, ← hrow.sameNode, hrefuse]
    · rw [hrow.eq_of_ne hagent]

/-- **Agents are isolated**, as long as no other node registers an event under a
task, type and timestamp that the agent has registered before: in two runs that
differ in the agent's messages only, every other node gets the same answers and
finds its tasks and their logs in the same state. -/
theorem agents_isolated (agent node : Uuid) (hnode : node ≠ agent) (w : LifecycleWorld)
    (hkeys : KeysDistinct w.db) (es es' : List LifecycleStep)
    (hsame : es.filter (fun e => !e.isFrom agent) = es'.filter fun e => !e.isFrom agent)
    (hes : Along (lifecycleStep message) (RegistrationsApart agent) (Config.idle w) es)
    (hes' : Along (lifecycleStep message) (RegistrationsApart agent) (Config.idle w) es') :
    answersTo node (lifecycleRun message w es).world
        = answersTo node (lifecycleRun message w es').world ∧
      (∀ id, taskOf node (lifecycleRun message w es).world.db id
        = taskOf node (lifecycleRun message w es').world.db id) ∧
      ∀ id, (taskOf node (lifecycleRun message w es).world.db id).isSome →
        logsOf (lifecycleRun message w es).world.db id
          = logsOf (lifecycleRun message w es').world.db id := by
  have hstart : SameConfig agent (Config.idle w) (Config.idle w) := by
    refine ⟨.refl hkeys, fun _ _ => rfl, ?_, ?_⟩ <;> intro p handler hp <;> cases hp
  have hend : SameConfig agent (lifecycleRun message w es) (lifecycleRun message w es') := by
    refine unwinding (P := RegistrationsApart agent) ?_ ?_ ?_ hsame hes hes' hstart
    · intro c c' e h he _
      exact h.own message he
    · intro c c' e h he _
      exact (h.symm.own message he).symm
    · intro c c' e h he hapart hapart'
      exact h.both message he hapart hapart'
  refine ⟨hend.world.answersTo hnode, fun id => hend.world.taskOf hnode id, ?_⟩
  intro id hsome
  refine hend.world.db.logs id ?_
  rintro ⟨row, hrow, hagent⟩
  have hrefuse : ¬ agent = node := hnode.symm
  simp [taskOf, hrow, Option.filter, hagent, hrefuse] at hsome

end Handlers

/-! ## One agent in another's way -/

/-- A queued task of node `nB`. -/
def sampleWorld : LifecycleWorld where
  db := {
    tasks := [{ id := "t1", workspaceId := "w1", nodeId := "nB", type := "shell.exec",
                createdAt := 0 }]
    nodes := [{ id := "nA", workspaceId := "w1", hostname := "host-a" },
      { id := "nB", workspaceId := "w1", hostname := "host-b" }] }

/-- Starts of the task: event 0 is sent by `nB`, event 1 by `nA` a second later,
and every other one by `nA` with the time of `nB`'s event. -/
def sampleMessage : ℕ → AgentTaskMessage
  | 0 => { taskId := "t1", timestamp := some ⟨"2026-03-17T12:32:11.000Z", 1773750731000⟩
           body := .started }
  | 1 => { taskId := "t1", timestamp := some ⟨"2026-03-17T12:32:12.000Z", 1773750732000⟩
           body := .started }
  | _ => { taskId := "t1", timestamp := some ⟨"2026-03-17T12:32:11.000Z", 1773750731000⟩
           body := .started }

/-- `nB` sends its event. -/
def ownStart : List LifecycleStep :=
  [.message "nB" 0 0 true { now := 1773750733000 }, .resume "nB" 0 { now := 1773750733000 },
    .resume "nB" 0 { now := 1773750733000 }]

/-- `nA` sends an event about the task of `nB`. -/
def foreignStart (event : ℕ) : List LifecycleStep :=
  [.message "nA" 0 event true { now := 1773750732000 }, .resume "nA" 0 { now := 1773750732000 },
    .resume "nA" 0 { now := 1773750732000 }]

theorem agents_isolated_refused :
    answersTo "nB" (lifecycleRun sampleMessage sampleWorld (foreignStart 1 ++ ownStart)).world
      = answersTo "nB" (lifecycleRun sampleMessage sampleWorld ownStart).world :=
  (agents_isolated sampleMessage "nA" "nB" (by decide) sampleWorld (by decide)
    (foreignStart 1 ++ ownStart) ownStart rfl (by decide) (by decide)).1

/-- An event of `nA` about the task of `nB` is registered before its owner is
checked; the start that `nB` then reports is taken for a duplicate. -/
theorem agents_not_isolated :
    ¬ ∀ (message : ℕ → AgentTaskMessage) (agent node : Uuid) (w : LifecycleWorld)
      (es es' : List LifecycleStep), node ≠ agent → KeysDistinct w.db →
      es.filter (fun e => !e.isFrom agent) = es'.filter (fun e => !e.isFrom agent) →
      answersTo node (lifecycleRun message w es).world
        = answersTo node (lifecycleRun message w es').world := by
  intro hall
  have hanswers := hall sampleMessage "nA" "nB" sampleWorld (foreignStart 2 ++ ownStart) ownStart
    (by decide) (by decide) rfl
  have hduplicate : answersTo "nB"
      (lifecycleRun sampleMessage sampleWorld (foreignStart 2 ++ ownStart)).world
        = [(0, .duplicate "t1")] := by decide
  have hdone : answersTo "nB" (lifecycleRun sampleMessage sampleWorld ownStart).world
      = [(0, .done "t1" (some .running))] := by decide
  rw [hduplicate, hdone] at hanswers
  cases hanswers

end AgentRealtime
