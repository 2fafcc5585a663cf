/-
# The lifecycle of a terminal session

Every handler looks at the status of the session it has loaded and updates the row later,
whatever its status is by then.

The lifecycle is monotone in the runs in which no such update finds that the session has moved
on.
-/
import NoderaxApi.TerminalHandlers

open Runs Interleaving AsyncPrograms

namespace TerminalSessionsService

/-! ## What is claimed -/

/-- The status and `closedAt` of a session. -/
def lifeOf (id : Uuid) (d : TerminalData) : Option (TerminalSessionStatus × Option ℤ) :=
  (d.sessions id).map fun rows => (rows.session.status, rows.session.closedAt)

/-- The session has the status TERMINATING. -/
def Terminating (id : Uuid) (d : TerminalData) : Prop :=
  ∃ closedAt, lifeOf id d = some (.terminating, closedAt)

/-- The session is CLOSED or FAILED. -/
def Ended (id : Uuid) (d : TerminalData) : Prop :=
  ∃ status closedAt, lifeOf id d = some (status, closedAt) ∧ isTerminal status = true

/-- The inputs that were handed over for the agent of the session. -/
def forwardedInputs (id : Uuid) (d : TerminalData) : List (List UInt8) :=
  d.messages.filterMap fun message =>
    match message.2 with
    | .sendTerminalInput payload => if message.1 = id then some payload else none
    | _ => none

/-- **A monotone lifecycle.**  `es₁` is the run up to a first point, `es₁ ++ es₂` up to a later
one. -/
structure LifecycleMonotone (id : Uuid) (c : TerminalConfig) (es : List TerminalEvent) :
    Prop where
  /-- What is TERMINATING is never OPEN again. -/
  notReopened : ∀ es₁ es₂ es₃, es = es₁ ++ es₂ ++ es₃ →
    Terminating id (run terminalStep c es₁).world.data →
    ∀ closedAt, lifeOf id (run terminalStep c (es₁ ++ es₂)).world.data ≠
      some (.opened, closedAt)
  /-- When the termination timer fires, after the session was TERMINATING, and its callback has
  returned, the session has ended. -/
  timedOut : ∀ es₁ es₂ p inp es₃ es₄,
    es = es₁ ++ es₂ ++ .invoke p (.terminationTimeout id) inp :: es₃ ++ es₄ →
    Terminating id (run terminalStep c es₁).world.data →
    (run terminalStep c (es₁ ++ es₂)).pending p = none →
    (run terminalStep c (es₁ ++ es₂)).world.memory.terminationTimers id = true →
    (run terminalStep c (es₁ ++ es₂ ++ .invoke p (.terminationTimeout id) inp :: es₃)).pending p =
      none →
    Ended id
      (run terminalStep c
        (es₁ ++ es₂ ++ .invoke p (.terminationTimeout id) inp :: es₃)).world.data
  /-- What has ended keeps its status and `closedAt`. -/
  final : ∀ es₁ es₂ es₃, es = es₁ ++ es₂ ++ es₃ →
    Ended id (run terminalStep c es₁).world.data →
    lifeOf id (run terminalStep c (es₁ ++ es₂)).world.data =
      lifeOf id (run terminalStep c es₁).world.data
  /-- No step of a call that starts after the end forwards an input. -/
  silent : ∀ es₁ es₂ p inp es₃, es = es₁ ++ es₂ ++ .resume p inp :: es₃ →
    Ended id (run terminalStep c es₁).world.data →
    (run terminalStep c es₁).pending p = none →
    forwardedInputs id (run terminalStep c (es₁ ++ es₂ ++ [.resume p inp])).world.data =
      forwardedInputs id (run terminalStep c (es₁ ++ es₂)).world.data

/-! ## Updates -/

/-- An update of a session that has moved on: it would open a session that is TERMINATING, or
give another status or `closedAt` to one that has ended. -/
def Respects (patch : TerminalSessionMetadataPatch)
    (life : TerminalSessionStatus × Option ℤ) : Prop :=
  (life.1 = .terminating → patch.status ≠ some .opened) ∧
    (isTerminal life.1 = true →
      (∀ status ∈ patch.status, status = life.1) ∧ ∀ closedAt ∈ patch.closedAt, closedAt = life.2)

/-- The next operation of a call, if it is an update of this session, respects its status. -/
def RespectsLife (id : Uuid) (s : TerminalStore) (l : TerminalCall) (_ : TerminalInput) : Prop :=
  match l.op with
  | .updateSessionMetadata id' patch => id' = id → ∀ life ∈ lifeOf id s.data, Respects patch life
  | _ => True

/-- **No update finds that the session has moved on.** -/
abbrev KeepsLifecycle (id : Uuid) : TerminalConfig → TerminalEvent → Prop :=
  ResumeGuard (RespectsLife id)

/-! ## One step -/

/-- A session that is TERMINATING or has ended does not go back, and one that has ended does not
change. -/
def Advances (before after : Option (TerminalSessionStatus × Option ℤ)) : Prop :=
  (∀ closedAt, before = some (.terminating, closedAt) →
      ∃ status closedAt', after = some (status, closedAt') ∧
        (status = .terminating ∨ isTerminal status = true)) ∧
    ∀ status closedAt, before = some (status, closedAt) → isTerminal status = true →
      after = before

theorem Advances.refl (life : Option (TerminalSessionStatus × Option ℤ)) : Advances life life :=
  ⟨fun closedAt h => ⟨_, closedAt, h, .inl rfl⟩, fun _ _ _ _ => rfl⟩

theorem Advances.trans {a b c : Option (TerminalSessionStatus × Option ℤ)} (hab : Advances a b)
    (hbc : Advances b c) : Advances a c := by
  refine ⟨fun closedAt ha => ?_, fun status closedAt ha hended => ?_⟩
  · obtain ⟨status, closedAt', hb, hstatus⟩ := hab.1 closedAt ha
    rcases hstatus with rfl | hended
    · exact hbc.1 closedAt' hb
    · exact ⟨status, closedAt', (hbc.2 status closedAt' hb hended).trans hb, .inr hended⟩
  · have hb : b = a := hab.2 status closedAt ha hended
    rw [← hb]
    exact hbc.2 status closedAt (hb.trans ha) hended

/-- What an update makes of the status and `closedAt`. -/
def patchLife (patch : TerminalSessionMetadataPatch) (life : TerminalSessionStatus × Option ℤ) :
    TerminalSessionStatus × Option ℤ :=
  (patch.status.getD life.1, patch.closedAt.getD life.2)

theorem lifeOf_updateRows (id id' : Uuid) (f : TerminalRows → TerminalRows) (d : TerminalData) :
    lifeOf id (d.updateRows id' f) =
      if id' = id then
        (d.sessions id).map fun rows => ((f rows).session.status, (f rows).session.closedAt)
      else lifeOf id d := by
  unfold lifeOf
  split
  next h =>
      subst h
      rw [TerminalData.updateRows_self, Option.map_map]
      rfl
  next h => rw [TerminalData.updateRows_of_ne d (Ne.symm h)]

/-- **Only `updateSessionMetadata` writes the status or `closedAt`.** -/
theorem execTerminal_lifeOf (id : Uuid) (op : TerminalOp) (inp : TerminalInput)
    (d : TerminalData) :
    lifeOf id (execTerminal op inp d).1 =
      match op with
      | .updateSessionMetadata id' patch =>
          if id' = id then (lifeOf id d).map (patchLife patch) else lifeOf id d
      | _ => lifeOf id d := by
  cases op with
  | updateSessionMetadata id' patch =>
      simp only [execTerminal, lifeOf_updateRows]
      split
      · rw [lifeOf, Option.map_map]
        rfl
      · rfl
  | appendChunkOnce id' origin input =>
      simp only [execTerminal]
      split
      · rfl
      · split
        next => rfl
        next rows hrows =>
            split
            next chunk rows' happend =>
                have hrecord : lifeOf id
                    ((d.updateRows id' fun _ => rows').recordChunk id' origin chunk) =
                    lifeOf id (d.updateRows id' fun _ => rows') := rfl
                rw [hrecord, lifeOf_updateRows]
                split
                next h =>
                    subst h
                    obtain ⟨-, -, -, hsession⟩ := appendChunkOnce_some happend
                    rw [lifeOf, hrows, Option.map_some, Option.map_some, hsession]
                next => rfl
            next => rfl
  | writeTranscriptState id' state =>
      simp only [execTerminal]
      split
      · rfl
      · rw [lifeOf_updateRows]
        split
        · rfl
        · rfl
  | incrementCount id' => simp [execTerminal, lifeOf]
  | decrementCount id' => simp [execTerminal, lifeOf]
  | resetCount id' =>
      simp only [execTerminal, lifeOf]
      split
      · rfl
      · split <;> rfl
  | readTranscriptState id' =>
      simp only [execTerminal]
      split <;> rfl
  | recordCommand id' command =>
      simp only [execTerminal]
      split <;> rfl
  | send id' message =>
      simp only [execTerminal]
      split <;> rfl
  | findSession id' => rfl
  | expireCount id' => rfl
  | getCount id' => rfl
  | attachCheck id' socketId => rfl
  | other => rfl

/-! ## What the handlers can do -/

/-- No update makes a session PENDING. -/
def NotToPending : TerminalOp → Prop
  | .updateSessionMetadata _ patch => patch.status ≠ some .pending
  | _ => True

/-- The handlers never make a session PENDING. -/
def notToPending : TerminalAccount where
  awaits op _ := NotToPending op

theorem notToPending_rules : HandlerRules notToPending where
  plain {op k} hop := by
    cases op with
    | updateSessionMetadata id patch => exact hop.elim
    | _ => trivial
  update hpatch _ := hpatch
  append _ hk :=
    appendChunk_always (fun _ => trivial) (fun _ => trivial) (fun _ _ => trivial) hk
  write _ _ := trivial

theorem terminalBody_notToPending (req : TerminalRequest) :
    (terminalBody req).Always notToPending := by
  refine notToPending_rules.terminalBody req (fun _ _ _ => ?_) (fun _ _ _ _ => ?_)
    (fun _ _ => ?_) fun hreq => ?_
  · exact notToPending_rules.agentOutput fun hk =>
      appendChunk_always (fun _ => trivial) (fun _ => trivial) (fun _ _ => trivial) hk
  · exact notToPending_rules.controllerInput fun _ => trivial
  · exact handleDetachTimeout_always notToPending_rules.service fun _ =>
      (by simp [detachedPatch] : detachedPatch.status ≠ some .pending)
  · refine attachment_always (fun {op k} hop => ?_) (fun _ _ => trivial) hreq
    cases op with
    | updateSessionMetadata id patch => exact hop.elim
    | _ => trivial

/-- The session has ended when it is loaded. -/
def LoadedEnded (id : Uuid) : (op : TerminalOp) → TerminalAnswer op → Prop
  | .findSession id', session => id' = id → isTerminal session.status = true
  | _, _ => True

/-- No input is forwarded for the session. -/
def NotForwarding (id : Uuid) : TerminalOp → Prop
  | .send id' (.sendTerminalInput _) => id' ≠ id
  | _ => True

/-- The handlers of an ended session. -/
def silent (id : Uuid) : TerminalAccount where
  answers := LoadedEnded id
  awaits op _ := NotForwarding id op

theorem silent_rules (id : Uuid) : HandlerRules (silent id) where
  plain {op k} hop := by
    cases op with
    | send id' message =>
        cases message with
        | sendTerminalInput payload => exact hop.elim
        | _ => trivial
    | _ => trivial
  update _ _ := trivial
  append _ hk :=
    appendChunk_always (fun _ => trivial) (fun _ => trivial) (fun _ _ => trivial) hk
  write _ _ := trivial

/-- A handler that loads an ended session forwards no input to it. -/
theorem handleControllerInput_silent (id id' : Uuid) (payload : List UInt8)
    (user : TerminalUser) : (handleControllerInput id' payload user).Always (silent id) := by
  refine ⟨trivial, fun session hended => ⟨trivial, fun _ _ => ?_⟩⟩
  refine .ite (fun _ => trivial) fun hcan => ⟨trivial, fun _ _ => ?_⟩
  refine .ite (fun _ => trivial) fun _ => ?_
  refine (silent_rules id).append (by decide) fun _ => ?_
  refine auditSubmittedTerminalCommands_always (silent_rules id).service ?_
  refine ⟨fun hid => hcan ?_, fun dispatched _ => .ite (fun _ => trivial) fun _ => ?_⟩
  · simp [canControlSession, hended hid]
  · exact markFailed_always (silent_rules id).service

theorem terminalBody_silent (id : Uuid) (req : TerminalRequest) :
    (terminalBody req).Always (silent id) := by
  refine (silent_rules id).terminalBody req (fun _ _ _ => ?_)
    (fun id' payload user _ => handleControllerInput_silent id id' payload user)
    (fun _ _ => handleDetachTimeout_always (silent_rules id).service fun _ => trivial)
    fun hreq => ?_
  · exact (silent_rules id).agentOutput fun hk =>
      appendChunk_always (fun _ => trivial) (fun _ => trivial) (fun _ _ => trivial) hk
  · refine attachment_always (fun {op k} hop => ?_) (fun _ _ => trivial) hreq
    cases op with
    | send id' message => exact hop.elim
    | _ => trivial

/-! ## Runs -/

variable {id : Uuid}

/-- No pending call makes a session PENDING. -/
def NoneToPending (c : TerminalConfig) : Prop := ∀ p, AlwaysAt notToPending p c

theorem noneToPending_step (c : TerminalConfig) (e : TerminalEvent) (hc : NoneToPending c) :
    NoneToPending (terminalStep c e) := fun p =>
  alwaysAt_step terminalBody_notToPending (hc p) e fun _ _ _ _ _ _ => trivial

theorem lifeOf_resume (id : Uuid) {c : TerminalConfig} {p : ℕ} {l : TerminalCall}
    (hp : c.pending p = some l) (inp : TerminalInput) :
    lifeOf id (terminalStep c (.resume p inp)).world.data =
      lifeOf id (execTerminal l.op inp c.world.data).1 := by
  rw [terminalStep, step_resume hp]
  exact congrArg (lifeOf id) (resumeWith_data _ _ _)

/-- The step that updates the session. -/
theorem lifeOf_update {c : TerminalConfig} {p : ℕ} {l : TerminalCall}
    {patch : TerminalSessionMetadataPatch} (hp : c.pending p = some l)
    (hop : l.op = .updateSessionMetadata id patch) (inp : TerminalInput) :
    lifeOf id (terminalStep c (.resume p inp)).world.data =
      (lifeOf id c.world.data).map (patchLife patch) := by
  rw [lifeOf_resume id hp, execTerminal_lifeOf, hop]
  exact if_pos rfl

/-- What one event does to the status and `closedAt`. -/
theorem terminalStep_lifeOf (id : Uuid) (c : TerminalConfig) (e : TerminalEvent) :
    lifeOf id (terminalStep c e).world.data = lifeOf id c.world.data ∨
      ∃ p inp l patch, e = .resume p inp ∧ c.pending p = some l ∧
        l.op = .updateSessionMetadata id patch ∧
        lifeOf id (terminalStep c e).world.data =
          (lifeOf id c.world.data).map (patchLife patch) := by
  cases e with
  | invoke p req inp =>
      cases hp : c.pending p with
      | some l => rw [terminalStep, step_invoke_busy hp]; exact .inl rfl
      | none =>
          rw [terminalStep, step_invoke hp]
          exact .inl (congrArg (lifeOf id) (settle_data _ _))
  | resume p inp =>
      cases hp : c.pending p with
      | none => rw [terminalStep, step_resume_idle hp]; exact .inl rfl
      | some l =>
          have hexec := lifeOf_resume id hp inp
          rw [execTerminal_lifeOf] at hexec
          split at hexec
          next id' patch hop =>
              split at hexec
              next hid =>
                  subst hid
                  exact .inr ⟨p, inp, l, patch, rfl, hp, hop, hexec⟩
              next => exact .inl hexec
          next => exact .inl hexec
  | env e => cases e <;> exact .inl rfl

/-- **A guarded event advances the session.** -/
theorem terminalStep_advances (c : TerminalConfig) (e : TerminalEvent) (hc : NoneToPending c)
    (hg : KeepsLifecycle id c e) :
    Advances (lifeOf id c.world.data) (lifeOf id (terminalStep c e).world.data) := by
  rcases terminalStep_lifeOf id c e with hsame | ⟨p, inp, l, patch, rfl, hp, hop, hlife⟩
  · rw [hsame]
    exact Advances.refl _
  · have hrespects : ∀ life ∈ lifeOf id c.world.data, Respects patch life := by
      have hl := hg l hp
      unfold RespectsLife at hl
      rw [hop] at hl
      exact hl rfl
    have hpending : patch.status ≠ some .pending := by
      have hl : NotToPending l.op := (hc p l hp).1
      rw [hop] at hl
      exact hl
    rw [hlife]
    refine ⟨fun closedAt hbefore => ?_, fun status closedAt hbefore hended => ?_⟩
    · have hopen := (hrespects _ hbefore).1 rfl
      refine ⟨patch.status.getD .terminating, patch.closedAt.getD closedAt, ?_, ?_⟩
      · rw [hbefore]
        rfl
      · rcases hstatus : patch.status with _ | status
        · exact .inl rfl
        · rw [hstatus] at hopen hpending
          cases status with
          | pending => exact absurd rfl hpending
          | opened => exact absurd rfl hopen
          | closed => exact .inr rfl
          | failed => exact .inr rfl
          | terminating => exact .inl rfl
    · obtain ⟨hstatus, hclosedAt⟩ := (hrespects _ hbefore).2 hended
      rw [hbefore]
      have h₁ : patch.status.getD status = status := by
        cases hs : patch.status with
        | none => rfl
        | some status' => exact hstatus status' hs
      have h₂ : patch.closedAt.getD closedAt = closedAt := by
        cases hs : patch.closedAt with
        | none => rfl
        | some closedAt' => exact hclosedAt closedAt' hs
      simp only [Option.map_some, patchLife, h₁, h₂]

/-- **A guarded run advances the session.** -/
theorem terminalRun_advances {c : TerminalConfig} {es : List TerminalEvent}
    (hc : NoneToPending c) (hes : Along terminalStep (KeepsLifecycle id) c es) :
    Advances (lifeOf id c.world.data) (lifeOf id (run terminalStep c es).world.data) := by
  have htrans : ∀ {a b d : TerminalConfig},
      Advances (lifeOf id a.world.data) (lifeOf id b.world.data) →
      Advances (lifeOf id b.world.data) (lifeOf id d.world.data) →
      Advances (lifeOf id a.world.data) (lifeOf id d.world.data) := fun hab hbd => hab.trans hbd
  exact rel_run (R := fun a b => Advances (lifeOf id a.world.data) (lifeOf id b.world.data))
    (fun _ => Advances.refl _) htrans (fun c e hc _ => noneToPending_step c e hc)
    (fun c e hc hg => terminalStep_advances c e hc hg) hc hes

theorem Ended.advances {d d' : TerminalData} (h : Ended id d)
    (hadvances : Advances (lifeOf id d) (lifeOf id d')) :
    Ended id d' ∧ lifeOf id d' = lifeOf id d := by
  obtain ⟨status, closedAt, hlife, hended⟩ := h
  have hsame := hadvances.2 status closedAt hlife hended
  exact ⟨⟨status, closedAt, hsame.trans hlife, hended⟩, hsame⟩

theorem Terminating.advances {d d' : TerminalData} (h : Terminating id d)
    (hadvances : Advances (lifeOf id d) (lifeOf id d')) : Terminating id d' ∨ Ended id d' := by
  obtain ⟨closedAt, hlife⟩ := h
  obtain ⟨status, closedAt', hlife', hstatus⟩ := hadvances.1 closedAt hlife
  rcases hstatus with rfl | hended
  · exact .inl ⟨closedAt', hlife'⟩
  · exact .inr ⟨status, closedAt', hlife', hended⟩

/-! ### Inputs after the end -/

/-- The session has ended, and the call of `p` cannot forward an input to it. -/
def Silenced (id : Uuid) (p : ℕ) (c : TerminalConfig) : Prop :=
  Ended id c.world.data ∧ AlwaysAt (silent id) p c

theorem execTerminal_loadedEnded {d : TerminalData} (h : Ended id d) (op : TerminalOp)
    (inp : TerminalInput) (answer : TerminalAnswer op)
    (hanswer : (execTerminal op inp d).2 = some answer) : LoadedEnded id op answer := by
  cases op with
  | findSession id' =>
      rintro rfl
      obtain ⟨status, closedAt, hlife, hended⟩ := h
      obtain ⟨rows, hrows, hstatus⟩ := Option.map_eq_some_iff.mp hlife
      have hanswer' : (d.sessions id').map (·.session) = some answer := hanswer
      rw [hrows] at hanswer'
      obtain rfl := Option.some.inj hanswer'
      rw [← (Prod.mk.inj hstatus).1] at hended
      exact hended
  | _ => trivial

theorem silenced_step {p : ℕ} (c : TerminalConfig) (e : TerminalEvent) (hc : Silenced id p c)
    (hnone : NoneToPending c) (hg : KeepsLifecycle id c e) :
    Silenced id p (terminalStep c e) :=
  ⟨(hc.1.advances (terminalStep_advances c e hnone hg)).1,
    alwaysAt_step (terminalBody_silent id) hc.2 e fun inp l _ _ answer =>
      execTerminal_loadedEnded hc.1 l.op inp answer⟩

theorem execTerminal_forwardedInputs {op : TerminalOp} (h : NotForwarding id op)
    (inp : TerminalInput) (d : TerminalData) :
    forwardedInputs id (execTerminal op inp d).1 = forwardedInputs id d := by
  unfold forwardedInputs
  rw [execTerminal_messages]
  cases op with
  | send id' message =>
      rw [List.filterMap_append]
      cases message with
      | sendTerminalInput payload =>
          have hne : id' ≠ id := h
          simp [hne]
      | _ => simp
  | _ => rfl

/-- A silenced call forwards nothing. -/
theorem Silenced.resume {p : ℕ} {c : TerminalConfig} (hc : Silenced id p c)
    (inp : TerminalInput) :
    forwardedInputs id (terminalStep c (.resume p inp)).world.data =
      forwardedInputs id c.world.data := by
  cases hp : c.pending p with
  | none => rw [terminalStep, step_resume_idle hp]
  | some l =>
      rw [terminalStep, step_resume hp]
      have hdata : (terminalCalls.resume l inp c.world).1.data =
          (execTerminal l.op inp c.world.data).1 := resumeWith_data l inp c.world
      exact (congrArg (forwardedInputs id) hdata).trans
        (execTerminal_forwardedInputs (hc.2 l hp).1 inp c.world.data)

/-! ### The termination timeout -/

/-- The call will end the session: it is about to load it, or to update it. -/
def WillEnd (id : Uuid) (l : TerminalCall) : Prop :=
  l = ⟨.findSession id, closeUnconfirmed id⟩ ∨
    ∃ patch status, l.op = .updateSessionMetadata id patch ∧ patch.status = some status ∧
      isTerminal status = true

/-- The session has ended, or it is TERMINATING and the call of `p` will end it. -/
def TimingOut (id : Uuid) (p : ℕ) (c : TerminalConfig) : Prop :=
  Ended id c.world.data ∨
    Terminating id c.world.data ∧ ∃ l, c.pending p = some l ∧ WillEnd id l

theorem closeUnconfirmed_willEnd (id : Uuid) {session : TerminalSessionEntity}
    (h : session.status = .terminating) (s : TerminalStore) :
    ∃ l, (settle (closeUnconfirmed id session) s).2 = some l ∧ WillEnd id l := by
  unfold closeUnconfirmed
  rw [if_neg (not_not.mpr h)]
  exact ⟨_, rfl, .inr ⟨_, .closed, rfl, rfl, rfl⟩⟩

/-- The step of the call itself. -/
theorem timingOut_resume {p : ℕ} {c : TerminalConfig} {l : TerminalCall} (inp : TerminalInput)
    (hterminating : Terminating id c.world.data) (hp : c.pending p = some l)
    (hl : WillEnd id l) : TimingOut id p (terminalStep c (.resume p inp)) := by
  obtain ⟨closedAt, hlife⟩ := hterminating
  obtain ⟨rows, hrows, hstatus⟩ := Option.map_eq_some_iff.mp hlife
  rcases hl with rfl | ⟨patch, status, hop, hpatch, hended⟩
  · rw [terminalStep, step_resume hp]
    have hresume : terminalCalls.resume ⟨.findSession id, closeUnconfirmed id⟩ inp c.world =
        settle (closeUnconfirmed id rows.session) c.world := by
      simp [programCalls, resumeWith, execTerminal, hrows]
    rw [hresume]
    obtain ⟨l', hl', hwill⟩ :=
      closeUnconfirmed_willEnd id (Prod.mk.inj hstatus).1 c.world
    refine .inr ⟨⟨closedAt, ?_⟩, l', ?_, hwill⟩
    · exact (congrArg (lifeOf id) (settle_data _ _)).trans hlife
    · exact (Function.update_self p _ c.pending).trans hl'
  · refine .inl ⟨status, patch.closedAt.getD closedAt, ?_, hended⟩
    rw [lifeOf_update hp hop, hlife]
    simp [patchLife, hpatch]

theorem timingOut_step {p : ℕ} (c : TerminalConfig) (e : TerminalEvent)
    (hc : TimingOut id p c) (hnone : NoneToPending c) (hg : KeepsLifecycle id c e) :
    TimingOut id p (terminalStep c e) := by
  have hadvances := terminalStep_advances c e hnone hg
  rcases hc with hended | ⟨hterminating, l, hp, hl⟩
  · exact .inl (hended.advances hadvances).1
  · by_cases hself : ∃ inp, e = .resume p inp
    · obtain ⟨inp, rfl⟩ := hself
      exact timingOut_resume inp hterminating hp hl
    · have hkeep : (terminalStep c e).pending p = some l :=
        step_pending_of_ne hp fun inp he => hself ⟨inp, he⟩
      rcases hterminating.advances hadvances with hterminating' | hended
      · exact .inr ⟨hterminating', l, hkeep, hl⟩
      · exact .inl hended

/-- The timer fires, and its callback loads the session. -/
theorem timingOut_fired {p : ℕ} {c : TerminalConfig} (inp : TerminalInput)
    (hidle : c.pending p = none) (harmed : c.world.memory.terminationTimers id = true)
    (hstatus : Terminating id c.world.data ∨ Ended id c.world.data) :
    TimingOut id p (terminalStep c (.invoke p (.terminationTimeout id) inp)) := by
  rw [terminalStep, step_invoke hidle]
  have hdata : (terminalCalls.invoke (.terminationTimeout id) inp c.world).1.data =
      c.world.data := settle_data _ _
  have hcall : (terminalCalls.invoke (.terminationTimeout id) inp c.world).2 =
      some ⟨.findSession id, closeUnconfirmed id⟩ := by
    simp [programCalls, terminalBody, handleTerminationTimeout, settle, harmed]
  unfold TimingOut
  simp only [hdata]
  rcases hstatus with hterminating | hended
  · exact .inr ⟨hterminating, _, (Function.update_self p _ c.pending).trans hcall, .inl rfl⟩
  · exact .inl hended

theorem timingOut_run {p : ℕ} {c : TerminalConfig} {es : List TerminalEvent}
    (hnone : NoneToPending c) (hc : TimingOut id p c)
    (hes : Along terminalStep (KeepsLifecycle id) c es) :
    TimingOut id p (run terminalStep c es) := by
  have hrun := inv_run (I := fun c => NoneToPending c ∧ TimingOut id p c)
    (fun c e hc hg => ⟨noneToPending_step c e hc.1, timingOut_step c e hc.2 hc.1 hg⟩)
    ⟨hnone, hc⟩ hes
  exact hrun.2

/-- The callback has returned. -/
theorem TimingOut.ended {p : ℕ} {c : TerminalConfig} (hc : TimingOut id p c)
    (hreturned : c.pending p = none) : Ended id c.world.data := by
  rcases hc with hended | ⟨-, l, hp, -⟩
  · exact hended
  · exact absurd (hreturned.symm.trans hp) (by simp)

theorem silenced_run {p : ℕ} {c : TerminalConfig} {es : List TerminalEvent}
    (hnone : NoneToPending c) (hc : Silenced id p c)
    (hes : Along terminalStep (KeepsLifecycle id) c es) :
    Silenced id p (run terminalStep c es) := by
  have hrun := inv_run (I := fun c => NoneToPending c ∧ Silenced id p c)
    (fun c e hc hg => ⟨noneToPending_step c e hc.1, silenced_step c e hc.2 hc.1 hg⟩)
    ⟨hnone, hc⟩ hes
  exact hrun.2

/-! ## Whole runs -/

/-- Nothing is pending to begin with. -/
theorem noneToPending_idle (w : TerminalStore) : NoneToPending (Config.idle w) :=
  fun _ _ h => absurd h (by simp)

theorem noneToPending_run {c : TerminalConfig} (hc : NoneToPending c) (es : List TerminalEvent) :
    NoneToPending (run terminalStep c es) :=
  inv_run' (fun c e hc => noneToPending_step c e hc) hc

/-- In a guarded run every point advances to every later one. -/
theorem advances_between {c : TerminalConfig} {es₁ es₂ es₃ : List TerminalEvent}
    (hc : NoneToPending c)
    (hes : Along terminalStep (KeepsLifecycle id) c (es₁ ++ es₂ ++ es₃)) :
    Advances (lifeOf id (run terminalStep c es₁).world.data)
      (lifeOf id (run terminalStep c (es₁ ++ es₂)).world.data) := by
  rw [run_append]
  exact terminalRun_advances (noneToPending_run hc es₁)
    (along_append.mp (along_append.mp hes).1).2

theorem lifecycleMonotone_of_along {c : TerminalConfig} {es : List TerminalEvent}
    (hc : NoneToPending c) (hes : Along terminalStep (KeepsLifecycle id) c es) :
    LifecycleMonotone id c es where
  notReopened := by
    rintro es₁ es₂ es₃ rfl hterminating closedAt hopen
    have hlater := hterminating.advances (advances_between hc hes)
    rcases hlater with ⟨closedAt', h⟩ | ⟨status, t, h, hend⟩
    · rw [hopen] at h
      exact absurd h (by simp)
    · rw [hopen] at h
      obtain ⟨rfl, -⟩ := Prod.mk.inj (Option.some.inj h)
      exact absurd hend (by decide)
  timedOut := by
    rintro es₁ es₂ p inp es₃ es₄ rfl hterminating hidle harmed hreturned
    have hbefore : Along terminalStep (KeepsLifecycle id) c
        (es₁ ++ es₂ ++ .invoke p (.terminationTimeout id) inp :: es₃) := (along_append.mp hes).1
    obtain ⟨-, -, hes₃⟩ := along_append.mp hbefore
    have hstatus := hterminating.advances (advances_between hc hbefore)
    have hfired := timingOut_fired inp hidle harmed hstatus
    rw [run_append, run_cons] at hreturned ⊢
    have hnone := noneToPending_step _ (.invoke p (.terminationTimeout id) inp)
      (noneToPending_run hc (es₁ ++ es₂))
    exact (timingOut_run hnone hfired hes₃).ended hreturned
  final := by
    rintro es₁ es₂ es₃ rfl hended
    exact (hended.advances (advances_between hc hes)).2
  silent := by
    rintro es₁ es₂ p inp es₃ rfl hended hidle
    have hes₂ := (along_append.mp (along_append.mp hes).1).2
    have hstart : Silenced id p (run terminalStep c es₁) :=
      ⟨hended, fun l hl => absurd (hidle.symm.trans hl) (by simp)⟩
    rw [run_concat, run_append]
    exact (silenced_run (noneToPending_run hc es₁) hstart hes₂).resume inp

end TerminalSessionsService
