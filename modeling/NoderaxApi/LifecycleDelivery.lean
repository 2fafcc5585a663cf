/-
# Delivery of lifecycle events

When a duplicate answer means that the event was applied, and when every event
that is answered ok is applied exactly once.  The condition is on what a message
meets: where it arrives, no other message of its event is being handled, no service
call of its event has thrown before its effect, and a number not above the node's
largest one belongs to a registered event; where its row is inserted, no row of
another event has one of its keys.
-/
import NoderaxApi.AgentRealtime
import NoderaxApi.Histories

namespace AgentRealtime

open Histories Interleaving Runs TasksService

/-! ## The condition -/

/-- The event of the agent is in the events table. -/
def Registered (w : LifecycleWorld) (nodeId : Uuid) (event : ℕ) : Prop :=
  ∃ row ∈ w.lifecycleEvents, row.nodeId = nodeId ∧ row.payload = event

instance (w : LifecycleWorld) (nodeId : Uuid) (event : ℕ) :
    Decidable (Registered w nodeId event) := by
  unfold Registered; infer_instance

/-- The message has one of the keys by which its event is known again. -/
def AgentTaskMessage.isIdentified (message : AgentTaskMessage) : Bool :=
  message.eventId.isSome || message.eventSeq.isSome || message.timestamp.isSome

section Handlers

variable (message : ℕ → AgentTaskMessage)

/-- What a message of an authenticated socket meets on its arrival. -/
def ArrivesInOrder (w : LifecycleWorld) (request : LifecycleRequest) (_ : LifecycleInput) : Prop :=
  request.hasSession = true →
    (message request.event).isIdentified = true ∧
      (isStaleSeq w.lifecycleEvents request.nodeId (message request.event).eventSeq = true →
        Registered w request.nodeId request.event) ∧
      (request.nodeId, request.event) ∉ w.handling ∧
      .failed request.nodeId request.event ∉ w.history

/-- The rows with a key of the new row are of its own event. -/
def KeysApart (w : LifecycleWorld) (handler : PendingHandler) (_ : LifecycleInput) : Prop :=
  match handler with
  | .register row => ∀ other ∈ w.lifecycleEvents, conflicts other row = true →
      other.nodeId = row.nodeId ∧ other.payload = row.payload
  | .apply _ _ => True

instance (w : LifecycleWorld) (request : LifecycleRequest) (input : LifecycleInput) :
    Decidable (ArrivesInOrder message w request input) := by
  unfold ArrivesInOrder; infer_instance

instance (w : LifecycleWorld) (handler : PendingHandler) (input : LifecycleInput) :
    Decidable (KeysApart w handler input) := by
  cases handler <;> unfold KeysApart <;> infer_instance

/-- What the step of a message meets. -/
def EventsApart (c : LifecycleConfig) (e : LifecycleStep) : Prop :=
  Guard (ArrivesInOrder message) KeysApart (fun _ _ => True) c e.toEvent

instance (c : LifecycleConfig) (e : LifecycleStep) : Decidable (EventsApart message c e) := by
  unfold EventsApart; infer_instance

end Handlers

/-! ## Rows -/

/-- The row was made from the message of its event. -/
def IsRowOf (message : ℕ → AgentTaskMessage) (row : LifecycleEventEntity) : Prop :=
  (message row.payload).isIdentified = true ∧
    ∃ now, row = createLifecycleEvent now row.nodeId row.payload (message row.payload)

variable {message : ℕ → AgentTaskMessage}

/-- Two rows of one event meet in a unique index, whenever they were made. -/
theorem IsRowOf.conflicts {row other : LifecycleEventEntity} (hrow : IsRowOf message row)
    (hother : IsRowOf message other) (hnode : other.nodeId = row.nodeId)
    (hevent : other.payload = row.payload) : conflicts other row = true := by
  obtain ⟨hidentified, now, hrow⟩ := hrow
  obtain ⟨-, before, hother⟩ := hother
  rw [hrow, hother, hnode, hevent]
  unfold AgentTaskMessage.isIdentified at hidentified
  unfold AgentRealtime.conflicts sameEventId sameEventSeq sameIdempotencyKey createLifecycleEvent
  dsimp only
  cases hid : (message row.payload).eventId with
  | some id => simp
  | none =>
      cases hseq : (message row.payload).eventSeq with
      | some seq => simp
      | none =>
          cases htimestamp : (message row.payload).timestamp with
          | some timestamp => simp [timestampOr]
          | none => simp [hid, hseq, htimestamp] at hidentified

/-- The event whose message a handler handles. -/
def PendingHandler.key : PendingHandler → Uuid × ℕ
  | .register row => (row.nodeId, row.payload)
  | .apply nodeId event => (nodeId, event)

/-! ## The invariant -/

/-- An ok answer follows the effect of its event. -/
def LifecycleFact.Allowed (past : List LifecycleFact) : LifecycleFact → Prop
  | .answered nodeId event answer => answer.ok = true → .applied nodeId event ∈ past
  | .applied _ _ | .failed _ _ => True

/-- What holds of the world; `running` says which service calls are to come. -/
structure DeliveryInv (message : ℕ → AgentTaskMessage) (running : Uuid × ℕ → Prop)
    (w : LifecycleWorld) : Prop where
  answers : Justified LifecycleFact.Allowed w.history
  once : ∀ nodeId event, w.history.count (.applied nodeId event) ≤ 1
  rows : ∀ row ∈ w.lifecycleEvents, IsRowOf message row
  registered : ∀ row ∈ w.lifecycleEvents, .applied row.nodeId row.payload ∈ w.history ∨
    .failed row.nodeId row.payload ∈ w.history ∨ running (row.nodeId, row.payload)
  ofApplied : ∀ nodeId event, .applied nodeId event ∈ w.history → Registered w nodeId event

/-- What a handler between two of its steps relies on. -/
def HandlerInv (message : ℕ → AgentTaskMessage) (w : LifecycleWorld) : PendingHandler → Prop
  | .register row => (row.nodeId, row.payload) ∈ w.handling ∧ IsRowOf message row ∧
      .failed row.nodeId row.payload ∉ w.history
  | .apply nodeId event => (nodeId, event) ∈ w.handling ∧ Registered w nodeId event ∧
      .applied nodeId event ∉ w.history

/-- The service call of the event is the next step of a handler. -/
def Running (pending : Uuid × ℕ → Option PendingHandler) (key : Uuid × ℕ) : Prop :=
  ∃ p, pending p = some (.apply key.1 key.2)

/-- What holds of a configuration: one handler for each event. -/
structure Delivery (message : ℕ → AgentTaskMessage) (c : LifecycleConfig) : Prop where
  world : DeliveryInv message (Running c.pending) c.world
  handlers : ∀ p handler, c.pending p = some handler → HandlerInv message c.world handler
  unique : ∀ p q handler handler', c.pending p = some handler → c.pending q = some handler' →
    handler.key = handler'.key → p = q

variable {w : LifecycleWorld} {nodeId : Uuid} {event : ℕ} {running running' : Uuid × ℕ → Prop}

theorem HandlerInv.mem_handling {handler : PendingHandler} (h : HandlerInv message w handler) :
    handler.key ∈ w.handling := by
  cases handler with
  | register row => exact h.1
  | apply nodeId event => exact h.1

theorem DeliveryInv.mono (h : DeliveryInv message running w)
    (hrunning : ∀ key, running key → running' key) : DeliveryInv message running' w := by
  refine ⟨h.answers, h.once, h.rows, ?_, h.ofApplied⟩
  intro row hrow
  rcases h.registered row hrow with happlied | hfailed | hrun
  · exact Or.inl happlied
  · exact Or.inr (Or.inl hfailed)
  · exact Or.inr (Or.inr (hrunning _ hrun))

/-- A registered event that neither failed nor runs was applied. -/
theorem DeliveryInv.applied_of_registered (h : DeliveryInv message running w)
    (hregistered : Registered w nodeId event) (hfailed : .failed nodeId event ∉ w.history)
    (hrunning : ¬ running (nodeId, event)) : .applied nodeId event ∈ w.history := by
  obtain ⟨row, hrow, rfl, rfl⟩ := hregistered
  rcases h.registered row hrow with happlied | hfails | hrun
  · exact happlied
  · exact absurd hfails hfailed
  · exact absurd hrun hrunning

/-- One more answer. -/
theorem DeliveryInv.answer (h : DeliveryInv message running w) {answer : LifecycleAnswer}
    (hanswer : answer.ok = true → .applied nodeId event ∈ w.history) :
    DeliveryInv message running (w.answer nodeId event answer) := by
  refine ⟨justified_concat.mpr ⟨h.answers, hanswer⟩, ?_, h.rows, ?_, ?_⟩
  · intro n e
    show (w.history ++ [LifecycleFact.answered nodeId event answer]).count (.applied n e) ≤ 1
    rw [List.count_append]
    simpa using h.once n e
  · intro row hrow
    rcases h.registered row hrow with happlied | hfailed | hrun
    · exact Or.inl (List.mem_append_left _ happlied)
    · exact Or.inr (Or.inl (List.mem_append_left _ hfailed))
    · exact Or.inr (Or.inr hrun)
  · intro n e happlied
    rcases List.mem_append.mp happlied with hold | hnew
    · exact h.ofApplied n e hold
    · rw [List.mem_singleton] at hnew
      cases hnew

/-- The list of the events being handled is only read by the condition. -/
theorem DeliveryInv.handled (h : DeliveryInv message running w) (nodeId : Uuid) (event : ℕ) :
    DeliveryInv message running (w.handled nodeId event) :=
  ⟨h.answers, h.once, h.rows, h.registered, h.ofApplied⟩

/-- A call that returned had its effect. -/
theorem isSome_of_outcome_ok {fault : ServiceFault}
    {result : Except HttpError (TaskTables × LifecycleAnswer)} {answer : LifecycleAnswer}
    (h : (fault.outcome result).2 = .ok answer) : (fault.outcome result).1.isSome = true := by
  unfold ServiceFault.outcome at h ⊢
  split at h
  · cases h
  · cases h
  · rfl
  · rfl

/-- **What a service call adds to the history**: its event is applied or has failed,
and an ok answer says the first. -/
theorem history_apply (message : ℕ → AgentTaskMessage) (w : LifecycleWorld) (nodeId : Uuid)
    (event : ℕ) (input : LifecycleInput) :
    ∃ effect answer, (resumeHandler message (.apply nodeId event) input w).1.history
        = w.history ++ [effect] ++ [.answered nodeId event answer] ∧
      (effect = .applied nodeId event ∨ effect = .failed nodeId event) ∧
      (answer.ok = true → effect = .applied nodeId event) := by
  have heffect := effectOf_outcome message w.db input.now nodeId event input.authenticated
    input.fault
  dsimp only at heffect
  set outcome := input.fault.outcome
    (callTasksService w.db input.now nodeId input.authenticated (message event))
  refine ⟨effectOf message input.now nodeId event w.db outcome.1, _, rfl, ?_, ?_⟩
  · rw [heffect]
    split
    · exact Or.inl rfl
    · exact Or.inr rfl
  · intro hok
    cases hresult : outcome.2 with
    | error error => rw [hresult] at hok; cases hok
    | ok answer => rw [heffect, if_pos (isSome_of_outcome_ok hresult)]

/-- The service call that was to come ends. -/
theorem DeliveryInv.finish (h : DeliveryInv message running w)
    (hregistered : Registered w nodeId event) (hnew : .applied nodeId event ∉ w.history)
    (hrunning : ∀ key, running key → key = (nodeId, event) ∨ running' key)
    (input : LifecycleInput) :
    DeliveryInv message running' (resumeHandler message (.apply nodeId event) input w).1 := by
  obtain ⟨effect, answer, hhistory, heffect, hanswer⟩ :=
    history_apply message w nodeId event input
  have hkeeps : ∀ fact ∈ w.history,
      fact ∈ (resumeHandler message (.apply nodeId event) input w).1.history := by
    intro fact hfact
    rw [hhistory]
    exact List.mem_append_left _ (List.mem_append_left _ hfact)
  have hmem : effect ∈ (resumeHandler message (.apply nodeId event) input w).1.history := by
    rw [hhistory]
    exact List.mem_append_left _ (List.mem_append_right _ (List.mem_singleton_self _))
  refine ⟨?_, ?_, h.rows, ?_, ?_⟩
  · rw [hhistory, justified_concat, justified_concat]
    refine ⟨⟨h.answers, ?_⟩, ?_⟩
    · rcases heffect with rfl | rfl <;> trivial
    · intro hok
      exact List.mem_append_right _ (List.mem_singleton.mpr (hanswer hok).symm)
  · intro n e
    rw [hhistory, List.count_append, List.count_append]
    have hlast : [LifecycleFact.answered nodeId event answer].count (.applied n e) = 0 := by simp
    rw [hlast]
    by_cases hsame : effect = .applied n e
    · -- the effect is the first one of its event
      have hnone : w.history.count (.applied n e) = 0 := by
        rw [List.count_eq_zero]
        rcases heffect with rfl | rfl
        · cases hsame
          exact hnew
        · cases hsame
      rw [hnone, hsame]
      simp
    · have hzero : [effect].count (.applied n e) = 0 := by
        rw [List.count_eq_zero, List.mem_singleton]
        exact fun heq => hsame heq.symm
      rw [hzero]
      exact h.once n e
  · intro row hrow
    rcases h.registered row hrow with happlied | hfailed | hrun
    · exact Or.inl (hkeeps _ happlied)
    · exact Or.inr (Or.inl (hkeeps _ hfailed))
    · rcases hrunning _ hrun with hthis | hother
      · obtain ⟨hnode, hevent⟩ := Prod.mk.inj hthis
        rw [hnode, hevent]
        rcases heffect with rfl | rfl
        · exact Or.inl hmem
        · exact Or.inr (Or.inl hmem)
      · exact Or.inr (Or.inr hother)
  · intro n e happlied
    rw [hhistory] at happlied
    rcases List.mem_append.mp happlied with hbefore | hlast
    · rcases List.mem_append.mp hbefore with hold | hnow
      · exact h.ofApplied n e hold
      · rw [List.mem_singleton] at hnow
        rcases heffect with rfl | rfl
        · cases hnow
          exact hregistered
        · cases hnow
    · rw [List.mem_singleton] at hlast
      cases hlast

/-- The INSERT of an event that was not registered yet. -/
theorem DeliveryInv.register (h : DeliveryInv message running w) {row : LifecycleEventEntity}
    (hrow : IsRowOf message row) (hkeeps : ∀ key, running key → running' key)
    (hruns : running' (row.nodeId, row.payload)) :
    DeliveryInv message running' { w with lifecycleEvents := w.lifecycleEvents ++ [row] } := by
  refine ⟨h.answers, h.once, ?_, ?_, ?_⟩
  · intro r hr
    rcases List.mem_append.mp hr with hold | hnew
    · exact h.rows r hold
    · rw [List.mem_singleton] at hnew
      rwa [hnew]
  · intro r hr
    rcases List.mem_append.mp hr with hold | hnew
    · exact (h.mono hkeeps).registered r hold
    · rw [List.mem_singleton] at hnew
      rw [hnew]
      exact Or.inr (Or.inr hruns)
  · intro n e happlied
    obtain ⟨r, hr, hids⟩ := h.ofApplied n e happlied
    exact ⟨r, List.mem_append_left _ hr, hids⟩

/-! ## The other handlers -/

theorem Registered.append (h : Registered w nodeId event) (row : LifecycleEventEntity) :
    Registered { w with lifecycleEvents := w.lifecycleEvents ++ [row] } nodeId event := by
  obtain ⟨r, hr, hids⟩ := h
  exact ⟨r, List.mem_append_left _ hr, hids⟩

/-- What a handler relies on outlives a step that keeps its event among those being
handled, the registered events, and the history as far as its event is concerned. -/
theorem HandlerInv.keep {w₁ : LifecycleWorld} {handler : PendingHandler}
    (h : HandlerInv message w handler) (hhandling : handler.key ∈ w₁.handling)
    (hrows : ∀ n e, Registered w n e → Registered w₁ n e)
    (hhistory : ∀ fact, fact = .applied handler.key.1 handler.key.2 ∨
      fact = .failed handler.key.1 handler.key.2 → fact ∈ w₁.history → fact ∈ w.history) :
    HandlerInv message w₁ handler := by
  cases handler with
  | register row =>
      obtain ⟨-, hrow, hnone⟩ := h
      exact ⟨hhandling, hrow, fun hfails => hnone (hhistory _ (Or.inr rfl) hfails)⟩
  | apply n e =>
      obtain ⟨-, hregistered, hnone⟩ := h
      exact ⟨hhandling, hrows n e hregistered, fun happly => hnone (hhistory _ (Or.inl rfl) happly)⟩

/-- An answer is neither an effect nor a failure. -/
theorem mem_of_mem_answer {n n' : Uuid} {e e' : ℕ} {answer : LifecycleAnswer}
    {fact : LifecycleFact} (hfact : fact = .applied n e ∨ fact = .failed n e)
    (h : fact ∈ (w.answer n' e' answer).history) : fact ∈ w.history := by
  rcases List.mem_append.mp h with hold | hnew
  · exact hold
  · rw [List.mem_singleton] at hnew
    rcases hfact with rfl | rfl <;> cases hnew

theorem mem_handled {key : Uuid × ℕ} (h : key ∈ w.handling) (hne : key ≠ (nodeId, event)) :
    key ∈ (w.handled nodeId event).handling := by
  show key ∈ w.handling.filter _
  rw [List.mem_filter, decide_eq_true_eq]
  exact ⟨h, hne⟩

/-- A service call to come is still to come when another handler moves on. -/
theorem Running.update {pending : Uuid × ℕ → Option PendingHandler} {key p : Uuid × ℕ}
    {next : Option PendingHandler} (h : Running pending key)
    (hp : pending p ≠ some (.apply key.1 key.2)) :
    Running (Function.update pending p next) key := by
  obtain ⟨q, hq⟩ := h
  have hne : q ≠ p := by
    rintro rfl
    exact hp hq
  exact ⟨q, by rw [Function.update_of_ne hne]; exact hq⟩

variable {c : LifecycleConfig} {p : Uuid × ℕ}

/-- One handler moves on. -/
theorem Delivery.move (h : Delivery message c) {w₁ : LifecycleWorld}
    {next : Option PendingHandler}
    (hworld : DeliveryInv message (Running (Function.update c.pending p next)) w₁)
    (hothers : ∀ q handler, q ≠ p → c.pending q = some handler → HandlerInv message w₁ handler)
    (hnext : ∀ handler, next = some handler → HandlerInv message w₁ handler ∧
      ∀ q other, q ≠ p → c.pending q = some other → other.key ≠ handler.key) :
    Delivery message ⟨w₁, Function.update c.pending p next⟩ := by
  have hcases : ∀ q handler, Function.update c.pending p next q = some handler →
      q = p ∧ next = some handler ∨ q ≠ p ∧ c.pending q = some handler := by
    intro q handler hq
    by_cases hqp : q = p
    · subst hqp
      rw [Function.update_self] at hq
      exact Or.inl ⟨rfl, hq⟩
    · rw [Function.update_of_ne hqp] at hq
      exact Or.inr ⟨hqp, hq⟩
  refine ⟨hworld, ?_, ?_⟩
  · intro q handler hq
    rcases hcases q handler hq with ⟨-, hsome⟩ | ⟨hne, hold⟩
    · exact (hnext handler hsome).1
    · exact hothers q handler hne hold
  · intro q r handler handler' hq hr hkey
    rcases hcases q handler hq with ⟨rfl, hsome⟩ | ⟨hqne, hqold⟩
    · rcases hcases r handler' hr with ⟨rfl, -⟩ | ⟨hrne, hrold⟩
      · rfl
      · exact absurd hkey.symm ((hnext handler hsome).2 r handler' hrne hrold)
    · rcases hcases r handler' hr with ⟨rfl, hsome⟩ | ⟨-, hrold⟩
      · exact absurd hkey ((hnext handler' hsome).2 q handler hqne hqold)
      · exact h.unique q r handler handler' hqold hrold hkey

/-! ## Steps -/

/-- A message that is answered at once. -/
theorem Delivery.answer (h : Delivery message c) (hp : c.pending p = none)
    {answer : LifecycleAnswer}
    (hanswer : answer.ok = true → .applied nodeId event ∈ c.world.history) :
    Delivery message ⟨c.world.answer nodeId event answer, Function.update c.pending p none⟩ := by
  have hworld := h.world.answer hanswer
  refine h.move (hworld.mono fun key hkey => hkey.update (by simp [hp])) ?_ (by simp)
  intro q handler _ hq
  have hinv := h.handlers q handler hq
  exact hinv.keep hinv.mem_handling (fun _ _ hregistered => hregistered)
    fun fact hfact => mem_of_mem_answer hfact

/-- **A message arrives.** -/
theorem Delivery.invoke (h : Delivery message c) (hp : c.pending p = none)
    (request : LifecycleRequest) (input : LifecycleInput)
    (harrives : ArrivesInOrder message c.world request input) :
    Delivery message ⟨(invokeHandler message request input c.world).1,
      Function.update c.pending p (invokeHandler message request input c.world).2⟩ := by
  unfold invokeHandler
  split
  · exact h.answer hp fun hok => by cases hok
  · next hsession =>
      obtain ⟨hidentified, hstale, hfree, hfailed⟩ := harrives (by simpa using hsession)
      have hkeys : ∀ q handler, c.pending q = some handler →
          handler.key ≠ (request.nodeId, request.event) := by
        intro q handler hq heq
        exact hfree (heq ▸ (h.handlers q handler hq).mem_handling)
      split
      · next hseq =>
          -- the registered event was handled to its end
          refine h.answer hp fun _ => h.world.applied_of_registered (hstale hseq) hfailed ?_
          rintro ⟨q, hq⟩
          exact hkeys q _ hq rfl
      · refine h.move ⟨h.world.answers, h.world.once, h.world.rows, ?_, h.world.ofApplied⟩ ?_ ?_
        · exact (h.world.mono fun key hkey => hkey.update (by simp [hp])).registered
        · intro q handler _ hq
          have hinv := h.handlers q handler hq
          exact hinv.keep (List.mem_cons_of_mem _ hinv.mem_handling)
            (fun _ _ hregistered => hregistered) fun _ _ hfact => hfact
        · intro handler hnext
          cases hnext
          refine ⟨⟨List.mem_cons_self, ⟨hidentified, input.now, rfl⟩, hfailed⟩, ?_⟩
          exact fun q other _ hq => hkeys q other hq

/-- A handler answers at its INSERT. -/
theorem Delivery.refuse (h : Delivery message c) {row : LifecycleEventEntity}
    (hp : c.pending p = some (.register row)) {answer : LifecycleAnswer}
    (hanswer : answer.ok = true → .applied row.nodeId row.payload ∈ c.world.history) :
    Delivery message ⟨(c.world.handled row.nodeId row.payload).answer row.nodeId row.payload
      answer, Function.update c.pending p none⟩ := by
  have hworld := (h.world.handled row.nodeId row.payload).answer hanswer
  refine h.move (hworld.mono fun key hkey => hkey.update (by simp [hp])) ?_ (by simp)
  intro q handler hne hq
  have hinv := h.handlers q handler hq
  have hkey : handler.key ≠ (row.nodeId, row.payload) :=
    fun heq => hne (h.unique q p handler _ hq hp heq)
  exact hinv.keep (mem_handled hinv.mem_handling hkey) (fun _ _ hregistered => hregistered)
    fun fact hfact => mem_of_mem_answer hfact

/-- **A handler inserts its row.** -/
theorem Delivery.register (h : Delivery message c) {row : LifecycleEventEntity}
    (hp : c.pending p = some (.register row)) (input : LifecycleInput)
    (hapart : KeysApart c.world (.register row) input) :
    Delivery message ⟨(resumeHandler message (.register row) input c.world).1,
      Function.update c.pending p (resumeHandler message (.register row) input c.world).2⟩ := by
  obtain ⟨hhandling, hrow, hfailed⟩ := h.handlers p _ hp
  have halone : ∀ q handler, q ≠ p → c.pending q = some handler →
      handler.key ≠ (row.nodeId, row.payload) :=
    fun q handler hne hq heq => hne (h.unique q p handler _ hq hp heq)
  simp only [resumeHandler]
  split
  · exact h.refuse hp fun hok => by cases hok
  · next hrefused =>
      obtain ⟨other, hother, hconflict⟩ := List.any_eq_true.mp (saveLifecycleEvent_none hrefused)
      obtain ⟨hnode, hevent⟩ := hapart other hother hconflict
      refine h.refuse hp fun _ =>
        h.world.applied_of_registered ⟨other, hother, hnode, hevent⟩ hfailed ?_
      -- the only handler of the event is still at its INSERT
      rintro ⟨q, hq⟩
      by_cases hqp : q = p
      · rw [hqp, hp] at hq
        cases hq
      · exact halone q _ hqp hq rfl
  · next rows hsaved =>
      obtain ⟨rfl, hfree⟩ := saveLifecycleEvent_some hsaved
      have hnew : ¬ Registered c.world row.nodeId row.payload := by
        rintro ⟨other, hother, hnode, hevent⟩
        have hconflict := hrow.conflicts (h.world.rows other hother) hnode hevent
        have hany : c.world.lifecycleEvents.any (conflicts · row) = true :=
          List.any_eq_true.mpr ⟨other, hother, hconflict⟩
        rw [hfree] at hany
        cases hany
      refine h.move (h.world.register hrow (fun key hkey => hkey.update (by simp [hp]))
        ⟨p, Function.update_self ..⟩) ?_ ?_
      · intro q handler hne hq
        have hinv := h.handlers q handler hq
        exact hinv.keep hinv.mem_handling (fun _ _ hregistered => hregistered.append row)
          fun _ _ hfact => hfact
      · intro handler hnext
        cases hnext
        refine ⟨⟨hhandling, ?_, fun happlied => hnew (h.world.ofApplied _ _ happlied)⟩, halone⟩
        exact ⟨row, List.mem_append_right _ (List.mem_singleton_self _), rfl, rfl⟩

/-- **A handler calls the service.** -/
theorem Delivery.apply (h : Delivery message c) (hp : c.pending p = some (.apply nodeId event))
    (input : LifecycleInput) :
    Delivery message ⟨(resumeHandler message (.apply nodeId event) input c.world).1,
      Function.update c.pending p none⟩ := by
  obtain ⟨-, hregistered, hnew⟩ := h.handlers p _ hp
  refine h.move (h.world.finish hregistered hnew ?_ input) ?_ (by simp)
  · intro key hkey
    by_cases hthis : key = (nodeId, event)
    · exact Or.inl hthis
    · refine Or.inr (hkey.update ?_)
      rw [hp]
      intro heq
      cases heq
      exact hthis rfl
  · intro q handler hne hq
    have hinv := h.handlers q handler hq
    have hkey : handler.key ≠ (nodeId, event) :=
      fun heq => hne (h.unique q p handler _ hq hp heq)
    refine hinv.keep (mem_handled hinv.mem_handling hkey) (fun _ _ hkept => hkept) ?_
    intro fact hfact hmem
    obtain ⟨effect, answer, hhistory, heffect, -⟩ :=
      history_apply message c.world nodeId event input
    rw [hhistory] at hmem
    -- what the call adds is about its own event
    rcases List.mem_append.mp hmem with hbefore | hlast
    · rcases List.mem_append.mp hbefore with hold | hnow
      · exact hold
      · rw [List.mem_singleton] at hnow
        rcases heffect with rfl | rfl <;> rcases hfact with rfl | rfl <;> cases hnow <;>
          exact absurd rfl hkey
    · rw [List.mem_singleton] at hlast
      rcases hfact with rfl | rfl <;> cases hlast

section Handlers

variable (message : ℕ → AgentTaskMessage)

/-- **One step** keeps the invariant. -/
theorem Delivery.step (h : Delivery message c) {e : LifecycleStep}
    (hapart : EventsApart message c e) : Delivery message (lifecycleStep message c e) := by
  cases e with
  | message nodeId handler event hasSession input =>
      simp only [lifecycleStep, LifecycleStep.toEvent]
      cases hp : c.pending (nodeId, handler) with
      | some l =>
          rw [step_invoke_busy hp]
          exact h
      | none =>
          rw [step_invoke hp]
          exact h.invoke hp _ input (hapart (by rw [hp]; rfl))
  | resume nodeId handler input =>
      simp only [lifecycleStep, LifecycleStep.toEvent]
      cases hp : c.pending (nodeId, handler) with
      | none =>
          rw [step_resume_idle hp]
          exact h
      | some l =>
          rw [step_resume hp]
          cases l with
          | register row => exact h.register hp input (hapart _ hp)
          | apply n e => exact h.apply hp input
  | tasks e =>
      exact ⟨⟨h.world.answers, h.world.once, h.world.rows, h.world.registered,
        h.world.ofApplied⟩, h.handlers, h.unique⟩

end Handlers

/-! ## Lines of one task -/

/-- A running task of node `n1`. -/
def runningTask : TaskTables where
  tasks := [{ id := "t1", workspaceId := "w1", nodeId := "n1", type := "shell.exec",
              status := .running, startedAt := some 0, createdAt := 0 }]
  nodes := [{ id := "n1", workspaceId := "w1", hostname := "host-1" }]

/-- Three lines of output; the first two were printed in the same millisecond. -/
def logLine : ℕ → AgentTaskMessage
  | 0 => { taskId := "t1", timestamp := some ⟨"2026-03-18T10:18:05.000Z", 1773829085000⟩
           body := .log "stdout" "Pulling image" }
  | 1 => { taskId := "t1", timestamp := some ⟨"2026-03-18T10:18:05.000Z", 1773829085000⟩
           body := .log "stdout" "Pulling digest" }
  | _ => { taskId := "t1", timestamp := some ⟨"2026-03-18T10:18:06.000Z", 1773829086000⟩
           body := .log "stdout" "Done" }

/-- One message, handled to its end. -/
def sendLine (handler event : ℕ) : List LifecycleStep :=
  [.message "n1" handler event true { now := 1773829087000 },
    .resume "n1" handler { now := 1773829087000 }, .resume "n1" handler { now := 1773829087000 }]

end AgentRealtime
