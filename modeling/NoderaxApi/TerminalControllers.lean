/-
# The count of the attached controllers

The socket of a controller is attached in a map of the process, and counted in Redis (or in
another map, without Redis).  The two are written in different steps: between them the count
differs from the attachments by what the pending calls still owe it.

The count is right at rest in the runs in which every step of this bookkeeping meets the state
it is written for; `KeepsCount` says which.
-/
import NoderaxApi.PendingWeights
import NoderaxApi.TerminalHandlers

open Runs Interleaving AsyncPrograms

namespace TerminalSessionsService

/-! ## What is claimed -/

/-- What `getControllerCount` answers. -/
def controllerCount (id : Uuid) (s : TerminalStore) : ℤ :=
  if s.memory.redisEnabled then max 0 ((s.data.controllerCounts id).getD 0)
  else s.memory.localControllerCounts id

/-- How many connected sockets are attached to the session. -/
def attachedControllers (id : Uuid) (m : TerminalMemory) : ℕ :=
  m.socketToAttachment.countP fun a => a.2 = id ∧ a.1 ∈ m.connected

/-- **The count is right.** -/
structure ControllersCounted (id : Uuid) (c : TerminalConfig) (es : List TerminalEvent) :
    Prop where
  /-- When no call is under way, the count is the number of the attached sockets. -/
  atRest : ∀ es₁ es₂, es = es₁ ++ es₂ → (∀ p, (run terminalStep c es₁).pending p = none) →
    controllerCount id (run terminalStep c es₁).world =
      attachedControllers id (run terminalStep c es₁).world.memory
  /-- When `handleDetachTimeout` terminates the session, no socket is attached to it. -/
  detached : ∀ es₁ p inp es₂ l, es = es₁ ++ .resume p inp :: es₂ →
    (run terminalStep c es₁).pending p = some l →
    l.op = .updateSessionMetadata id detachedPatch →
    attachedControllers id (run terminalStep c es₁).world.memory = 0

/-! ## The condition -/

/-- A call that does not terminate the session as `handleDetachTimeout` does. -/
def notDetaching (id : Uuid) : TerminalAccount where
  awaits op _ := op ≠ .updateSessionMetadata id detachedPatch

/-- The detach timeout that is about to read the count in Redis. -/
def readsCount (id : Uuid) : TerminalCall where
  op := .getCount id
  next activeCount := if 0 < activeCount then .done else terminateDetached id

/-- A call that may terminate the session as detached only after it has read the count. -/
def Undecided (id : Uuid) (m : TerminalMemory) (l : TerminalCall) : Prop :=
  l.Always (notDetaching id) ∨ (l = readsCount id ∧ m.redisEnabled = true)

/-- **The steps of the bookkeeping meet the state they are written for.**

* A socket is registered when it is not attached to the session already; to the session itself
  only while it is connected, and while no detach timeout of the session has read the count.
* INCR and DECR take effect, and SET 0 changes nothing.
* While a socket is attached the detach timeout reads the counter in Redis, and no INCR is
  still missing there.
* The counter expires only at zero. -/
def KeepsCount (id : Uuid) (c : TerminalConfig) : TerminalEvent → Prop
  | .resume p inp => ∀ l, c.pending p = some l →
      match l.op with
      | .attachCheck id' socketId => inp.rejects = false →
          (socketId, id) ∉ c.world.memory.socketToAttachment ∧
            (id' = id → socketId ∈ c.world.memory.connected ∧
              ∀ q l', c.pending q = some l' → Undecided id c.world.memory l')
      | .incrementCount id' | .decrementCount id' =>
          id' = id → inp.rejects = false ∧ inp.redisReady = true
      | .resetCount id' => id' = id → (c.world.data.controllerCounts id).getD 0 = 0
      | .getCount id' => id' = id → inp.rejects = false →
          attachedControllers id c.world.memory ≠ 0 → inp.redisReady = true ∧
            (0 < (c.world.data.controllerCounts id).getD 0 ∨
              ∀ q l', c.pending q = some l' → l'.op ≠ .incrementCount id)
      | _ => True
  | .env (.expireCounter id') => id' = id → (c.world.data.controllerCounts id).getD 0 = 0
  | _ => True

/-- A process that has just started: no socket is attached, and no counter is there. -/
def noControllers (id : Uuid) (s : TerminalStore) : TerminalStore where
  data := { s.data with controllerCounts := Function.update s.data.controllerCounts id none }
  memory := { s.memory with
    socketToAttachment := []
    localControllerCounts := Function.update s.memory.localControllerCounts id 0 }

/-! ## What the calls can still do -/

/-- The checks of `attachController` have not passed. -/
def TerminalOp.IsCheck : TerminalOp → Prop
  | .attachCheck _ _ => True
  | _ => False

/-- What follows the checks of `attachController`. -/
def CountAwaits : (op : TerminalOp) → (TerminalAnswer op → TerminalProgram) → Prop
  | .attachCheck id' socketId, k => ∀ answer, k answer = registerController id' socketId
  | _, _ => True

/-- INCR and DECR of a counter. -/
def TerminalOp.IsCount : TerminalOp → Prop
  | .incrementCount _ | .decrementCount _ => True
  | _ => False

/-- Nothing is counted or registered any more, but for what follows the checks of
`attachController`. -/
def counting : TerminalAccount where
  answers op _ := ¬ op.IsCheck
  awaits op k := CountAwaits op k ∧ ¬ op.IsCount
  writes m m' := m'.controllers = m.controllers

/-- A pending call: INCR and DECR are awaited by themselves only. -/
def CountPending (l : TerminalCall) : Prop :=
  CountAwaits l.op l.next ∧ ∀ answer, ¬ l.op.IsCheck → (l.next answer).Always counting

variable {id : Uuid}

theorem counting_rules : HandlerRules counting where
  plain {op k} hop := by
    cases op with
    | attachCheck id' socketId => exact hop.elim
    | incrementCount id' => exact hop.elim
    | decrementCount id' => exact hop.elim
    | _ => exact ⟨trivial, not_false⟩
  update _ _ := ⟨trivial, not_false⟩
  append _ hk := appendChunk_always (fun _ => ⟨trivial, not_false⟩)
    (fun _ => ⟨trivial, not_false⟩) (fun _ _ => ⟨trivial, not_false⟩) hk
  write hf m := hf m

theorem countPending_of_always {l : TerminalCall} (h : l.Always counting) :
    CountPending l := ⟨h.1.1, h.2⟩

/-- The handlers that attach and detach nothing. -/
theorem terminalBody_counting {req : TerminalRequest} (hreq : ¬ req.IsAttachment) :
    (terminalBody req).Always counting := by
  refine counting_rules.terminalBody req (fun _ _ _ => ?_) (fun _ _ _ _ => ?_)
    (fun _ _ => ?_) fun h => absurd h hreq
  · exact counting_rules.agentOutput fun hk =>
      appendChunk_always (fun _ => ⟨trivial, not_false⟩) (fun _ => ⟨trivial, not_false⟩)
        (fun _ _ => ⟨trivial, not_false⟩) hk
  · exact counting_rules.controllerInput fun _ => ⟨trivial, not_false⟩
  · exact handleDetachTimeout_always counting_rules.service fun _ => ⟨trivial, not_false⟩

theorem attachDetached_counting (id : Uuid) (user : TerminalUser) (socketId : SocketId) :
    (attachDetached id user socketId).Always counting := by
  refine ⟨⟨trivial, not_false⟩, fun session _ => ⟨⟨trivial, not_false⟩, fun _ _ => ?_⟩⟩
  refine .ite (fun _ => trivial) fun _ => ⟨⟨fun _ => rfl, not_false⟩, fun _ h => ?_⟩
  exact absurd trivial h

/-! ### The detach timeout -/

theorem notDetaching_rules (id : Uuid) : HandlerRules (notDetaching id) where
  plain {op k} hop := by
    cases op with
    | updateSessionMetadata id' patch => exact hop.elim
    | _ => exact nofun
  update _ hpatch := fun h => hpatch (by cases h; rfl)
  append _ hk := appendChunk_always (fun _ => nofun) (fun _ => nofun) (fun _ _ => nofun) hk
  write _ _ := trivial

theorem notDetaching_attaches {op : TerminalOp} {k : TerminalAnswer op → TerminalProgram}
    (hop : op.Attaches) : (notDetaching id).awaits op k := by
  cases op with
  | updateSessionMetadata id' patch => exact hop.elim
  | _ => exact nofun

/-- Only the detach timeout of the session terminates it as such. -/
theorem terminalBody_notDetaching {req : TerminalRequest} (hreq : req ≠ .detachTimeout id) :
    (terminalBody req).Always (notDetaching id) := by
  refine (notDetaching_rules id).terminalBody req (fun _ _ _ => ?_) (fun _ _ _ _ => ?_)
    (fun id' h => ?_) fun hattachment => ?_
  · exact (notDetaching_rules id).agentOutput fun hk =>
      appendChunk_always (fun _ => nofun) (fun _ => nofun) (fun _ _ => nofun) hk
  · exact (notDetaching_rules id).controllerInput fun _ => nofun
  · refine handleDetachTimeout_always (notDetaching_rules id).service fun _ hop => hreq ?_
    cases hop
    exact h
  · exact attachment_always notDetaching_attaches (fun _ _ => trivial) hattachment

/-! ## Attachments -/

/-- How many attachments the session has. -/
def entries (id : Uuid) (attachments : List (SocketId × Uuid)) : ℕ :=
  attachments.countP fun a => a.2 = id

/-- Removing the attachment of a socket. -/
theorem entries_remove {attachments : List (SocketId × Uuid)} {socketId : SocketId} {i : Uuid}
    (hkeys : (attachments.map Prod.fst).Nodup) (hlookup : attachments.lookup socketId = some i) :
    entries id (attachments.filter (·.1 ≠ socketId)) + (if i = id then 1 else 0) =
      entries id attachments := by
  induction attachments with
  | nil => exact absurd hlookup (by simp)
  | cons a rest ih =>
      obtain ⟨hfresh, hrest⟩ := List.nodup_cons.mp hkeys
      unfold entries at ih ⊢
      rw [List.lookup_cons] at hlookup
      by_cases hself : a.1 = socketId
      · have hsome : a.2 = i := by
          simpa [hself] using hlookup
        have hnone : rest.filter (·.1 ≠ socketId) = rest := by
          refine List.filter_eq_self.mpr fun b hb => ?_
          have hne : b.1 ≠ socketId := fun h =>
            hfresh (List.mem_map.mpr ⟨b, hb, h.trans hself.symm⟩)
          simpa using hne
        rw [List.filter_cons_of_neg (by simpa using hself), hnone, List.countP_cons, hsome]
        simp
      · have hnext : rest.lookup socketId = some i := by
          simpa [beq_eq_false_iff_ne.mpr (Ne.symm hself)] using hlookup
        rw [List.filter_cons_of_pos (by simpa using hself), List.countP_cons, List.countP_cons,
          ← ih hrest hnext]
        omega

/-- Removing a socket that is not attached to the session. -/
theorem entries_remove_of_notMem {attachments : List (SocketId × Uuid)} {socketId : SocketId}
    (h : (socketId, id) ∉ attachments) :
    entries id (attachments.filter (·.1 ≠ socketId)) = entries id attachments := by
  unfold entries
  rw [List.countP_filter]
  refine List.countP_congr fun a ha => ?_
  have hne : a.2 = id → a.1 ≠ socketId := by
    rintro rfl rfl
    exact h ha
  simpa using hne

theorem entries_append (id : Uuid) (attachments : List (SocketId × Uuid)) (socketId : SocketId)
    (id' : Uuid) :
    entries id (attachments ++ [(socketId, id')]) =
      entries id attachments + if id' = id then 1 else 0 := by
  unfold entries
  rw [List.countP_append, List.countP_singleton]
  simp

theorem nodup_remove {attachments : List (SocketId × Uuid)} (socketId : SocketId)
    (hkeys : (attachments.map Prod.fst).Nodup) :
    ((attachments.filter (·.1 ≠ socketId)).map Prod.fst).Nodup :=
  hkeys.sublist (List.filter_sublist.map _)

theorem nodup_register {attachments : List (SocketId × Uuid)} (socketId : SocketId) (id' : Uuid)
    (hkeys : (attachments.map Prod.fst).Nodup) :
    ((attachments.filter (·.1 ≠ socketId) ++ [(socketId, id')]).map Prod.fst).Nodup := by
  rw [List.map_append]
  refine List.Nodup.append (nodup_remove socketId hkeys) (by simp) ?_
  intro s hs hs'
  obtain ⟨a, ha, rfl⟩ := List.mem_map.mp hs
  have hne : a.1 ≠ socketId := by simpa using (List.mem_filter.mp ha).2
  exact hne (by simpa using hs')

/-! ## The invariant -/

/-- What a pending call owes the counter. -/
def countWeight (id : Uuid) (l : TerminalCall) : ℤ :=
  match l.op with
  | .incrementCount id' => if id' = id then 1 else 0
  | .decrementCount id' => if id' = id then -1 else 0
  | _ => 0

/-- The attachments of a memory: each socket has one, and those of the session are connected. -/
structure AttachmentsGood (id : Uuid) (m : TerminalMemory) : Prop where
  keys : (m.socketToAttachment.map Prod.fst).Nodup
  connected : ∀ a ∈ m.socketToAttachment, a.2 = id → a.1 ∈ m.connected

/-- A pending call that may terminate the session as detached has not read the count yet, or no
socket is attached. -/
def DetachSound (id : Uuid) (m : TerminalMemory) (l : TerminalCall) : Prop :=
  Undecided id m l ∨ entries id m.socketToAttachment = 0

/-- **The state between two steps.** -/
structure CountInvariant (id : Uuid) (c : TerminalConfig) : Prop where
  attachments : AttachmentsGood id c.world.memory
  calls : ∀ p l, c.pending p = some l → CountPending l
  shared : c.world.memory.redisEnabled = true → Weighs (countWeight id) c.pending
    (entries id c.world.memory.socketToAttachment - (c.world.data.controllerCounts id).getD 0)
  local' : c.world.memory.redisEnabled = false →
    c.world.memory.localControllerCounts id = entries id c.world.memory.socketToAttachment
  detaching : ∀ p l, c.pending p = some l → DetachSound id c.world.memory l

theorem CountInvariant.attachedControllers_eq {c : TerminalConfig} (hc : CountInvariant id c) :
    attachedControllers id c.world.memory = entries id c.world.memory.socketToAttachment := by
  refine List.countP_congr fun a ha => ?_
  simpa using hc.attachments.connected a ha

/-- Without a pending INCR the counter in Redis is not below the attachments. -/
theorem CountInvariant.owed_nonpos {c : TerminalConfig} (hc : CountInvariant id c)
    (hredis : c.world.memory.redisEnabled = true)
    (hquiet : ∀ q l, c.pending q = some l → l.op ≠ .incrementCount id) :
    entries id c.world.memory.socketToAttachment -
      (c.world.data.controllerCounts id).getD 0 ≤ 0 := by
  refine (hc.shared hredis).nonpos fun q l hq => ?_
  have hop := hquiet q l hq
  unfold countWeight
  split
  next id' h => rw [if_neg fun hid => hop (by rw [h, hid])]
  next id' h => split <;> decide
  next => exact le_refl 0

/-- One call moved. -/
theorem CountInvariant.update {c : TerminalConfig} {p : ℕ} {s' : TerminalStore}
    {next : Option TerminalCall} (hc : CountInvariant id c)
    (hattachments : AttachmentsGood id s'.memory)
    (hredis : s'.memory.redisEnabled = c.world.memory.redisEnabled)
    (hcalls : ∀ l, next = some l → CountPending l)
    (hshared : c.world.memory.redisEnabled = true →
      (entries id s'.memory.socketToAttachment : ℤ) - (s'.data.controllerCounts id).getD 0 =
        entries id c.world.memory.socketToAttachment - (c.world.data.controllerCounts id).getD 0 -
          pendingWeight (countWeight id) (c.pending p) + pendingWeight (countWeight id) next)
    (hlocal : c.world.memory.redisEnabled = false →
      s'.memory.localControllerCounts id = entries id s'.memory.socketToAttachment)
    (hself : ∀ l, next = some l → DetachSound id s'.memory l)
    (hothers : ∀ q l, c.pending q = some l → DetachSound id s'.memory l) :
    CountInvariant id ⟨s', Function.update c.pending p next⟩ where
  attachments := hattachments
  calls := @pending_update _ _ _ _ (fun _ l => CountPending l) _ s' _ _ hcalls hc.calls
  shared h := by
    have hweighs := (hc.shared (hredis ▸ h)).update p next
    rw [← hshared (hredis ▸ h)] at hweighs
    exact hweighs
  local' h := hlocal (hredis ▸ h)
  detaching :=
    pending_update (J := fun (s : TerminalStore) l => DetachSound id s.memory l) hself hothers

/-! ## One step -/

theorem DetachSound.of_controllers {m m' : TerminalMemory} {l : TerminalCall}
    (h : DetachSound id m l) (hm : m'.controllers = m.controllers) : DetachSound id m' l := by
  have hredis : m'.redisEnabled = m.redisEnabled := congrArg (·.1) hm
  have hattachments : m'.socketToAttachment = m.socketToAttachment := congrArg (·.2.1) hm
  unfold DetachSound Undecided
  rw [hredis, hattachments]
  exact h

theorem AttachmentsGood.of_controllers {m m' : TerminalMemory} (h : AttachmentsGood id m)
    (hm : m'.controllers = m.controllers) : AttachmentsGood id m' := by
  have hattachments : m'.socketToAttachment = m.socketToAttachment := congrArg (·.2.1) hm
  have hconnected : m'.connected = m.connected := congrArg (·.2.2.2) hm
  constructor
  · rw [hattachments]
    exact h.keys
  · rw [hattachments, hconnected]
    exact h.connected

/-- A socket loses its attachment, and may lose its connection. -/
theorem AttachmentsGood.remove {m m' : TerminalMemory} {socketId : SocketId}
    (h : AttachmentsGood id m) (hconnected : ∀ s ∈ m.connected, s ≠ socketId → s ∈ m'.connected)
    (hattachments : m'.socketToAttachment = m.socketToAttachment.filter (·.1 ≠ socketId)) :
    AttachmentsGood id m' := by
  constructor
  · rw [hattachments]
    exact nodup_remove socketId h.keys
  · rw [hattachments]
    intro a ha hid
    obtain ⟨hold, hne⟩ := List.mem_filter.mp ha
    exact hconnected _ (h.connected a hold hid) (by simpa using hne)

/-- A socket gets a new attachment. -/
theorem AttachmentsGood.register {m m' : TerminalMemory} {socketId : SocketId} {id' : Uuid}
    (h : AttachmentsGood id m) (hself : id' = id → socketId ∈ m.connected)
    (hconnected : m'.connected = m.connected)
    (hattachments : m'.socketToAttachment =
      m.socketToAttachment.filter (·.1 ≠ socketId) ++ [(socketId, id')]) :
    AttachmentsGood id m' := by
  constructor
  · rw [hattachments]
    exact nodup_register socketId id' h.keys
  · rw [hattachments, hconnected]
    intro a ha hid
    rcases List.mem_append.mp ha with hold | hnew
    · exact h.connected a (List.mem_filter.mp hold).1 hid
    · obtain rfl := List.mem_singleton.mp hnew
      exact hself hid

/-- One call moved, and only the counter in Redis may have changed. -/
theorem CountInvariant.moved {c : TerminalConfig} {p : ℕ} {s' : TerminalStore}
    {next : Option TerminalCall} (hc : CountInvariant id c)
    (hmemory : s'.memory.controllers = c.world.memory.controllers)
    (hcount : (s'.data.controllerCounts id).getD 0 =
      (c.world.data.controllerCounts id).getD 0 + pendingWeight (countWeight id) (c.pending p) -
        pendingWeight (countWeight id) next)
    (hcalls : ∀ l, next = some l → CountPending l)
    (hself : ∀ l, next = some l → DetachSound id c.world.memory l) :
    CountInvariant id ⟨s', Function.update c.pending p next⟩ := by
  have hredis : s'.memory.redisEnabled = c.world.memory.redisEnabled := congrArg (·.1) hmemory
  have hattachments : s'.memory.socketToAttachment = c.world.memory.socketToAttachment :=
    congrArg (·.2.1) hmemory
  have hlocal : s'.memory.localControllerCounts = c.world.memory.localControllerCounts :=
    congrArg (·.2.2.1) hmemory
  refine hc.update (hc.attachments.of_controllers hmemory) hredis hcalls (fun _ => ?_)
    (fun h => ?_) (fun l hl => (hself l hl).of_controllers hmemory)
    fun q l hq => (hc.detaching q l hq).of_controllers hmemory
  · rw [hcount, hattachments]
    omega
  · rw [hlocal, hattachments]
    exact hc.local' h

theorem countWeight_of_counting {l : TerminalCall} (h : l.Always counting) :
    countWeight id l = 0 := by
  have hop : ¬ l.op.IsCount := h.1.2
  unfold countWeight
  split
  next id' heq => exact absurd (by rw [heq]; trivial) hop
  next id' heq => exact absurd (by rw [heq]; trivial) hop
  next => rfl

theorem pendingWeight_of_counting {next : Option TerminalCall}
    (h : ∀ l, next = some l → l.Always counting) :
    pendingWeight (countWeight id) next = 0 := by
  cases next with
  | none => rfl
  | some l => exact countWeight_of_counting (h l rfl)

theorem execTerminal_check {op : TerminalOp} {inp : TerminalInput} (hop : op.IsCheck)
    (hinp : inp.rejects = true) (d : TerminalData) : (execTerminal op inp d).2 = none := by
  cases op with
  | attachCheck id socketId => simp [execTerminal, hinp]
  | _ => exact hop.elim

/-- What a step of a call leaves, unless the checks of `attachController` pass. -/
theorem resume_counting {l : TerminalCall} {inp : TerminalInput} {s : TerminalStore}
    (hl : CountPending l) (hcheck : l.op.IsCheck → inp.rejects = true) :
    (∀ l', (resumeWith execTerminal l inp s).2 = some l' → l'.Always counting) ∧
      (resumeWith execTerminal l inp s).1.memory.controllers = s.memory.controllers := by
  have htrans : ∀ {a b d : TerminalMemory}, counting.writes a b → counting.writes b d →
      counting.writes a d := fun hab hbd => hbd.trans hab
  unfold resumeWith
  simp only
  split
  next answer hsome =>
      have hpassed : ¬ l.op.IsCheck := fun h =>
        absurd ((execTerminal_check h (hcheck h) s.data).symm.trans hsome) (by simp)
      have hnext := hl.2 answer hpassed
      exact ⟨fun l' hl' => settle_always hnext _ hl',
        settle_writes (fun _ => rfl) htrans hnext _⟩
  next => exact ⟨fun l' hl' => absurd hl' (by simp), rfl⟩

theorem detachSound_resume {l l' : TerminalCall} {inp : TerminalInput} {s : TerminalStore}
    (h : DetachSound id s.memory l) (hreads : l ≠ readsCount id)
    (hl' : (resumeWith execTerminal l inp s).2 = some l') : DetachSound id s.memory l' := by
  rcases h with (halways | ⟨hl, -⟩) | hnone
  · exact .inl (.inl (resumeWith_always halways (fun _ _ => trivial) hl'))
  · exact absurd hl hreads
  · exact .inr hnone

theorem addToCount_of_ne {id' : Uuid} (h : id' ≠ id) (inp : TerminalInput) (n : ℤ)
    (d : TerminalData) :
    (d.addToCount inp id' n).1.controllerCounts id = d.controllerCounts id := by
  unfold TerminalData.addToCount
  split
  · rfl
  · split
    · rfl
    · exact Function.update_of_ne (Ne.symm h) _ _

/-- Redis adds to the counter. -/
theorem addToCount_ready {inp : TerminalInput} (hrejects : inp.rejects = false)
    (hready : inp.redisReady = true) (n : ℤ) (d : TerminalData) :
    ((d.addToCount inp id n).1.controllerCounts id).getD 0 =
      (d.controllerCounts id).getD 0 + n := by
  simp [TerminalData.addToCount, TerminalData.setCount, hrejects, hready]

/-- SET 0 of a counter that is zero. -/
theorem resetCount_zero {d : TerminalData} (hzero : (d.controllerCounts id).getD 0 = 0)
    (inp : TerminalInput) :
    ((execTerminal (.resetCount id) inp d).1.controllerCounts id).getD 0 =
      (d.controllerCounts id).getD 0 := by
  simp only [execTerminal]
  split
  · rfl
  · split
    · simp [TerminalData.setCount, hzero]
    · rfl

/-- Most operations leave the counter of the session alone. -/
theorem execTerminal_counts (op : TerminalOp) (inp : TerminalInput) (d : TerminalData)
    (hincrement : op ≠ .incrementCount id) (hdecrement : op ≠ .decrementCount id)
    (hreset : op ≠ .resetCount id) :
    (execTerminal op inp d).1.controllerCounts id = d.controllerCounts id := by
  cases op with
  | incrementCount id' => exact addToCount_of_ne (fun h => hincrement (by rw [h])) inp 1 d
  | decrementCount id' => exact addToCount_of_ne (fun h => hdecrement (by rw [h])) inp (-1) d
  | resetCount id' =>
      have hne : id ≠ id' := fun h => hreset (by rw [h])
      simp only [execTerminal]
      split
      · rfl
      · split
        · exact Function.update_of_ne hne _ _
        · rfl
  | appendChunkOnce id' origin input =>
      simp only [execTerminal]
      split
      · rfl
      · split
        · rfl
        · split <;> rfl
  | readTranscriptState id' | writeTranscriptState id' state | recordCommand id' command
  | send id' message =>
      simp only [execTerminal]
      split <;> rfl
  | findSession id' | updateSessionMetadata id' patch | expireCount id' | getCount id'
  | attachCheck id' socketId | other => rfl

/-- The step of a call that neither registers a socket nor reads the count for a timeout. -/
theorem countInvariant_resumed {c : TerminalConfig} {p : ℕ} {l : TerminalCall}
    {inp : TerminalInput} (hc : CountInvariant id c) (hp : c.pending p = some l)
    (hreads : l ≠ readsCount id) (hcheck : l.op.IsCheck → inp.rejects = true)
    (hcount : ((execTerminal l.op inp c.world.data).1.controllerCounts id).getD 0 =
      (c.world.data.controllerCounts id).getD 0 + countWeight id l) :
    CountInvariant id (terminalStep c (.resume p inp)) := by
  obtain ⟨hnext, hmemory⟩ := resume_counting (s := c.world) (hc.calls p l hp) hcheck
  rw [terminalStep, step_resume hp]
  refine hc.moved hmemory ?_ (fun l' hl' => countPending_of_always (hnext l' hl'))
    fun l' hl' => detachSound_resume (hc.detaching p l hp) hreads hl'
  have hweight : pendingWeight (countWeight id) (resumeWith execTerminal l inp c.world).2 = 0 :=
    pendingWeight_of_counting hnext
  have hdata : (resumeWith execTerminal l inp c.world).1.data =
      (execTerminal l.op inp c.world.data).1 := resumeWith_data l inp c.world
  have hbefore : pendingWeight (countWeight id) (c.pending p) = countWeight id l := by
    rw [hp]
    rfl
  rw [hbefore]
  refine (congrArg (fun d : TerminalData => (d.controllerCounts id).getD 0) hdata).trans ?_
  refine hcount.trans ?_
  have hweight' : pendingWeight (countWeight id) (terminalCalls.resume l inp c.world).2 = 0 :=
    hweight
  omega

/-- The step of a call that leaves the counter of the session alone. -/
theorem countInvariant_plain {c : TerminalConfig} {p : ℕ} {l : TerminalCall}
    {inp : TerminalInput} (hc : CountInvariant id c) (hp : c.pending p = some l)
    (hreads : l ≠ readsCount id) (hcheck : l.op.IsCheck → inp.rejects = true)
    (hincrement : l.op ≠ .incrementCount id) (hdecrement : l.op ≠ .decrementCount id)
    (hreset : l.op ≠ .resetCount id) : CountInvariant id (terminalStep c (.resume p inp)) := by
  refine countInvariant_resumed hc hp hreads hcheck ?_
  have hweight : countWeight id l = 0 := by
    unfold countWeight
    split
    next id' hop => exact if_neg fun h => hincrement (by rw [hop, h])
    next id' hop => exact if_neg fun h => hdecrement (by rw [hop, h])
    next => rfl
  rw [execTerminal_counts l.op inp _ hincrement hdecrement hreset, hweight, add_zero]

/-- A socket is registered. -/
theorem countInvariant_register {c : TerminalConfig} {p : ℕ} {id' : Uuid} {socketId : SocketId}
    {k : TerminalAnswer (.attachCheck id' socketId) → TerminalProgram} {inp : TerminalInput}
    (hc : CountInvariant id c) (hp : c.pending p = some ⟨.attachCheck id' socketId, k⟩)
    (hinp : inp.rejects = false) (hnew : (socketId, id) ∉ c.world.memory.socketToAttachment)
    (hself : id' = id → socketId ∈ c.world.memory.connected ∧
      ∀ q l', c.pending q = some l' → Undecided id c.world.memory l') :
    CountInvariant id (terminalStep c (.resume p inp)) := by
  have hk : k () = registerController id' socketId := (hc.calls p _ hp).1 ()
  have hresume : terminalCalls.resume ⟨.attachCheck id' socketId, k⟩ inp c.world =
      settle (registerController id' socketId) c.world := by
    simp [programCalls, resumeWith, execTerminal, hinp, hk]
  rw [terminalStep, step_resume hp, hresume]
  have hentries : entries id (c.world.memory.socketToAttachment.filter (·.1 ≠ socketId) ++
      [(socketId, id')]) = entries id c.world.memory.socketToAttachment +
        if id' = id then 1 else 0 := by
    rw [entries_append, entries_remove_of_notMem hnew]
  have hothers : ∀ m : TerminalMemory, m.redisEnabled = c.world.memory.redisEnabled →
      m.socketToAttachment = c.world.memory.socketToAttachment.filter (·.1 ≠ socketId) ++
        [(socketId, id')] → ∀ q l, c.pending q = some l → DetachSound id m l := by
    intro m hredis hattachments q l hq
    unfold DetachSound Undecided
    rw [hredis]
    by_cases hid : id' = id
    · exact .inl ((hself hid).2 q l hq)
    · have hsame : entries id m.socketToAttachment =
          entries id c.world.memory.socketToAttachment := by
        rw [hattachments, hentries, if_neg hid, add_zero]
      rw [hsame]
      exact hc.detaching q l hq
  have hbefore : pendingWeight (countWeight id) (c.pending p) = 0 := by
    rw [hp]
    rfl
  cases hredis : c.world.memory.redisEnabled with
  | true =>
      have hsettle : settle (registerController id' socketId) c.world =
          (⟨c.world.data, { clearDetachTimer id' c.world.memory with
              socketToAttachment := c.world.memory.socketToAttachment.filter (·.1 ≠ socketId) ++
                [(socketId, id')] }⟩,
            some ⟨.incrementCount id', fun _ => .await (.expireCount id') fun _ => .done⟩) := by
        simp [registerController, incrementControllerCount, settle, clearDetachTimer, hredis]
      rw [hsettle]
      refine hc.update (hc.attachments.register (fun h => (hself h).1) rfl rfl) rfl
        (fun l hl => ?_) (fun _ => ?_) (fun h => absurd (hredis.symm.trans h) (by simp))
        (fun l hl => ?_) (hothers _ rfl rfl)
      · cases hl
        exact ⟨trivial, fun _ _ => ⟨⟨trivial, not_false⟩, fun _ _ => trivial⟩⟩
      · -- the increment weighs 1 until it is answered, as much as the new attachment
        rw [hbefore, hentries]
        simp only [pendingWeight, countWeight]
        push_cast
        omega
      · cases hl
        exact .inl (.inl ⟨by rintro ⟨⟩, fun _ _ =>
          ⟨by rintro ⟨⟩, fun _ _ => trivial⟩⟩)
  | false =>
      have hsettle : settle (registerController id' socketId) c.world =
          (⟨c.world.data, { clearDetachTimer id' c.world.memory with
              socketToAttachment := c.world.memory.socketToAttachment.filter (·.1 ≠ socketId) ++
                [(socketId, id')]
              localControllerCounts := Function.update c.world.memory.localControllerCounts id'
                (c.world.memory.localControllerCounts id' + 1) }⟩,
            some ⟨.other, fun _ => .done⟩) := by
        simp [registerController, incrementControllerCount, settle, clearDetachTimer, hredis]
      rw [hsettle]
      refine hc.update (hc.attachments.register (fun h => (hself h).1) rfl rfl) rfl
        (fun l hl => ?_) (fun h => absurd (hredis.symm.trans h) (by simp)) (fun _ => ?_)
        (fun l hl => ?_) (hothers _ rfl rfl)
      · cases hl
        exact ⟨trivial, fun _ _ => trivial⟩
      · have hlocal := hc.local' hredis
        rw [hentries]
        by_cases hid : id' = id
        · subst hid
          simp [hlocal]
        · simp [hid, Function.update_of_ne (Ne.symm hid), hlocal]
      · cases hl
        exact .inl (.inl ⟨by rintro ⟨⟩, fun _ _ => trivial⟩)

/-- The detach timeout reads the count. -/
theorem countInvariant_readsCount {c : TerminalConfig} {p : ℕ} {inp : TerminalInput}
    (hc : CountInvariant id c) (hp : c.pending p = some (readsCount id))
    (hread : inp.rejects = false → attachedControllers id c.world.memory ≠ 0 →
      inp.redisReady = true ∧ (0 < (c.world.data.controllerCounts id).getD 0 ∨
        ∀ q l', c.pending q = some l' → l'.op ≠ .incrementCount id)) :
    CountInvariant id (terminalStep c (.resume p inp)) := by
  have hcheck : (readsCount id).op.IsCheck → inp.rejects = true := fun h => h.elim
  have hanswers := resume_counting (s := c.world) (hc.calls p _ hp) hcheck
  have hbefore : pendingWeight (countWeight id) (c.pending p) = 0 := by
    rw [hp]
    rfl
  rw [terminalStep, step_resume hp]
  refine hc.moved hanswers.2 ?_ (fun l' hl' => countPending_of_always (hanswers.1 l' hl'))
    fun l' hl' => ?_
  · have hafter : pendingWeight (countWeight id)
        (terminalCalls.resume (readsCount id) inp c.world).2 = 0 :=
      pendingWeight_of_counting hanswers.1
    rw [hbefore, hafter, add_zero, sub_zero]
    have hdata : (resumeWith execTerminal (readsCount id) inp c.world).1.data = c.world.data :=
      resumeWith_data (readsCount id) inp c.world
    exact congrArg (fun d : TerminalData => (d.controllerCounts id).getD 0) hdata
  · rcases hc.detaching p _ hp with (halways | ⟨-, hredis⟩) | hnone
    · exact .inl (.inl (resumeWith_always halways (fun _ _ => trivial) hl'))
    · by_cases hattached : attachedControllers id c.world.memory = 0
      · exact .inr (hc.attachedControllers_eq.symm.trans hattached)
      · have hstops : (terminalCalls.resume (readsCount id) inp c.world).2 = none := by
          cases hinp : inp.rejects with
          | true => simp [programCalls, resumeWith, readsCount, execTerminal, hinp]
          | false =>
              obtain ⟨hready, hcounted⟩ := hread hinp hattached
              have hpositive : 0 < (c.world.data.controllerCounts id).getD 0 := by
                rcases hcounted with hpositive | hquiet
                · exact hpositive
                · -- nothing but DECR is owed, so the counter is not below the attachments
                  have howed := hc.owed_nonpos hredis hquiet
                  rw [hc.attachedControllers_eq] at hattached
                  omega
              have hactive := lt_max_of_lt_right (b := 0) hpositive
              simp only [programCalls, resumeWith, readsCount, execTerminal, hinp, hready, if_true,
                Bool.false_eq_true, if_false, if_pos hactive, settle]
        exact absurd (hstops.symm.trans hl') (by simp)
    · exact .inr hnone

theorem countInvariant_resume {c : TerminalConfig} {p : ℕ} {inp : TerminalInput}
    (hc : CountInvariant id c) (hg : KeepsCount id c (.resume p inp)) :
    CountInvariant id (terminalStep c (.resume p inp)) := by
  cases hp : c.pending p with
  | none =>
      rw [terminalStep, step_resume_idle hp]
      exact hc
  | some l =>
      have hguard := hg l hp
      by_cases hreads : l = readsCount id
      · subst hreads
        exact countInvariant_readsCount hc hp (hguard rfl)
      · obtain ⟨op, k⟩ := l
        cases op with
        | attachCheck id' socketId =>
            cases hinp : inp.rejects with
            | false => exact countInvariant_register hc hp hinp (hguard hinp).1 (hguard hinp).2
            | true =>
                exact countInvariant_plain hc hp hreads (fun _ => hinp) (by simp) (by simp)
                  (by simp)
        | incrementCount id' =>
            by_cases hid : id' = id
            · subst hid
              obtain ⟨hrejects, hready⟩ := hguard rfl
              refine countInvariant_resumed hc hp hreads (fun h => h.elim) ?_
              refine (addToCount_ready hrejects hready 1 _).trans ?_
              simp [countWeight]
            · exact countInvariant_plain hc hp hreads (fun h => h.elim) (by simpa using hid)
                (by simp) (by simp)
        | decrementCount id' =>
            by_cases hid : id' = id
            · subst hid
              obtain ⟨hrejects, hready⟩ := hguard rfl
              refine countInvariant_resumed hc hp hreads (fun h => h.elim) ?_
              refine (addToCount_ready hrejects hready (-1) _).trans ?_
              simp [countWeight]
            · exact countInvariant_plain hc hp hreads (fun h => h.elim) (by simp)
                (by simpa using hid) (by simp)
        | resetCount id' =>
            by_cases hid : id' = id
            · subst hid
              refine countInvariant_resumed hc hp hreads (fun h => h.elim) ?_
              refine (resetCount_zero (hguard rfl) inp).trans ?_
              simp [countWeight]
            · exact countInvariant_plain hc hp hreads (fun h => h.elim) (by simp) (by simp)
                (by simpa using hid)
        | findSession | updateSessionMetadata | appendChunkOnce | readTranscriptState
        | writeTranscriptState | recordCommand | send | expireCount | getCount | other =>
            exact countInvariant_plain hc hp hreads (fun h => h.elim) (by simp) (by simp)
              (by simp)

/-! ### Requests -/

/-- A call that starts without an attachment to change. -/
theorem countInvariant_settled {c : TerminalConfig} {p : ℕ} {program : TerminalProgram}
    {s : TerminalStore} (hc : CountInvariant id c) (hp : c.pending p = none)
    (hdata : s.data = c.world.data) (hgood : AttachmentsGood id s.memory)
    (hredis : s.memory.redisEnabled = c.world.memory.redisEnabled)
    (hattachments : s.memory.socketToAttachment = c.world.memory.socketToAttachment)
    (hlocal : s.memory.localControllerCounts = c.world.memory.localControllerCounts)
    (hcounting : program.Always counting)
    (hself : ∀ l, (settle program s).2 = some l → DetachSound id s.memory l) :
    CountInvariant id ⟨(settle program s).1, Function.update c.pending p (settle program s).2⟩ := by
  have htrans : ∀ {a b d : TerminalMemory}, counting.writes a b → counting.writes b d →
      counting.writes a d := fun hab hbd => hbd.trans hab
  have hmemory : (settle program s).1.memory.controllers = s.memory.controllers :=
    settle_writes (fun _ => rfl) htrans hcounting s
  have hnext : ∀ l, (settle program s).2 = some l → l.Always counting := fun l hl =>
    settle_always hcounting s hl
  have hdata' := (settle_data program s).trans hdata
  generalize settle program s = result at hmemory hnext hdata' hself ⊢
  obtain ⟨s', next⟩ := result
  have hredis' : s'.memory.redisEnabled = c.world.memory.redisEnabled :=
    (congrArg (·.1) hmemory).trans hredis
  have hattachments' : s'.memory.socketToAttachment = c.world.memory.socketToAttachment :=
    (congrArg (·.2.1) hmemory).trans hattachments
  have hlocal' : s'.memory.localControllerCounts = c.world.memory.localControllerCounts :=
    (congrArg (·.2.2.1) hmemory).trans hlocal
  refine hc.update (hgood.of_controllers hmemory) hredis'
    (fun l hl => countPending_of_always (hnext l hl)) (fun _ => ?_) (fun h => ?_)
    (fun l hl => (hself l hl).of_controllers hmemory) fun q l hq => ?_
  · rw [hp, pendingWeight_of_counting hnext, hdata', hattachments']
    simp [pendingWeight]
  · rw [hlocal', hattachments']
    exact hc.local' h
  · have hold := hc.detaching q l hq
    unfold DetachSound Undecided at hold ⊢
    rw [hredis', hattachments']
    exact hold

/-- The socket of a controller is detached, and may be disconnected as well. -/
theorem countInvariant_detach {c : TerminalConfig} {p : ℕ} {socketId : SocketId}
    {connected : List SocketId} {k : TerminalProgram} (hc : CountInvariant id c)
    (hp : c.pending p = none)
    (hconnected : ∀ s ∈ c.world.memory.connected, s ≠ socketId → s ∈ connected)
    (hcounting : k.Always counting) (hdetaching : k.Always (notDetaching id)) :
    let s : TerminalStore := ⟨c.world.data, { c.world.memory with connected := connected }⟩
    CountInvariant id ⟨(settle (detachController socketId k) s).1,
      Function.update c.pending p (settle (detachController socketId k) s).2⟩ := by
  intro s
  cases hlookup : c.world.memory.socketToAttachment.lookup socketId with
  | none =>
      -- the socket controls no session, so only the rest of the program runs
      have hsettle : settle (detachController socketId k) s = settle k s := by
        simp [detachController, settle, s, hlookup]
      rw [hsettle]
      refine countInvariant_settled hc hp rfl ⟨hc.attachments.keys, fun a ha hid => ?_⟩ rfl rfl
        rfl hcounting fun l hl => .inl (.inl (settle_always hdetaching _ hl))
      refine hconnected _ (hc.attachments.connected a ha hid) fun hself => ?_
      have hfree := List.lookup_eq_none_iff.mp hlookup a ha
      simp [hself] at hfree
  | some i =>
      -- what both ways of counting share: the attachments, and the calls that read the count
      have hentries : entries id (c.world.memory.socketToAttachment.filter (·.1 ≠ socketId)) +
          (if i = id then 1 else 0) = entries id c.world.memory.socketToAttachment :=
        entries_remove hc.attachments.keys hlookup
      have hothers : ∀ m : TerminalMemory, m.redisEnabled = c.world.memory.redisEnabled →
          m.socketToAttachment =
            c.world.memory.socketToAttachment.filter (·.1 ≠ socketId) →
          ∀ q l, c.pending q = some l → DetachSound id m l := by
        intro m hredis hattachments q l hq
        unfold DetachSound Undecided
        rw [hredis, hattachments]
        rcases hc.detaching q l hq with hundecided | hnone
        · exact .inl hundecided
        · refine .inr ?_
          omega
      have hfree : pendingWeight (countWeight id) (c.pending p) = 0 := by
        rw [hp]
        rfl
      have hafter : ∀ n : ℤ, (if n ≤ 0 then .write (scheduleDetachTermination i) k else k :
          TerminalProgram).Always counting := fun n =>
        .ite (fun _ => ⟨fun _ => rfl, hcounting⟩) fun _ => hcounting
      have hafter' : ∀ n : ℤ, (if n ≤ 0 then .write (scheduleDetachTermination i) k else k :
          TerminalProgram).Always (notDetaching id) := fun n =>
        .ite (fun _ => ⟨fun _ => trivial, hdetaching⟩) fun _ => hdetaching
      cases hredis : c.world.memory.redisEnabled with
      | true =>
          have hsettle : settle (detachController socketId k) s =
              (⟨s.data, { s.memory with
                  socketToAttachment := s.memory.socketToAttachment.filter (·.1 ≠ socketId) }⟩,
                some ⟨.decrementCount i, fun nextValue => .await (.expireCount i) fun _ =>
                  if nextValue < 0 then
                    .await (.resetCount i) fun _ =>
                      if (0 : ℤ) ≤ 0 then .write (scheduleDetachTermination i) k else k
                  else if nextValue ≤ 0 then .write (scheduleDetachTermination i) k else k⟩) := by
            simp [detachController, decrementControllerCount, settle, s, hlookup, hredis]
          rw [hsettle]
          refine hc.update (hc.attachments.remove hconnected rfl) rfl (fun l hl => ?_) (fun _ => ?_)
            (fun h => absurd (hredis.symm.trans h) (by simp)) (fun l hl => ?_)
            (hothers _ rfl rfl)
          · cases hl
            refine ⟨trivial, fun n _ => ⟨⟨trivial, not_false⟩, fun _ _ => ?_⟩⟩
            exact .ite (fun _ => ⟨⟨trivial, not_false⟩, fun _ _ => hafter 0⟩) fun _ => hafter n
          · -- the decrement weighs -1 until it is answered, as much as the attachment that is gone
            rw [hfree]
            have hweight : pendingWeight (countWeight id)
                (some (⟨.decrementCount i, fun nextValue => .await (.expireCount i) fun _ =>
                  if nextValue < 0 then
                    .await (.resetCount i) fun _ =>
                      if (0 : ℤ) ≤ 0 then .write (scheduleDetachTermination i) k else k
                  else if nextValue ≤ 0 then .write (scheduleDetachTermination i) k else k⟩ :
                    TerminalCall)) = if i = id then -1 else 0 := rfl
            rw [hweight, ← hentries]
            simp only [s]
            split <;> push_cast <;> omega
          · cases hl
            refine .inl (.inl ⟨by rintro ⟨⟩, fun n _ =>
              ⟨by rintro ⟨⟩, fun _ _ => ?_⟩⟩)
            exact .ite (fun _ => ⟨by rintro ⟨⟩, fun _ _ => hafter' 0⟩) fun _ =>
              hafter' n
      | false =>
          have hsettle : settle (detachController socketId k) s =
              (⟨s.data, { s.memory with
                  socketToAttachment := s.memory.socketToAttachment.filter (·.1 ≠ socketId)
                  localControllerCounts := Function.update s.memory.localControllerCounts i
                    (max 0 (s.memory.localControllerCounts i - 1)) }⟩,
                some ⟨.other, fun _ =>
                  if max 0 (s.memory.localControllerCounts i - 1) ≤ 0 then
                    .write (scheduleDetachTermination i) k
                  else k⟩) := by
            simp [detachController, decrementControllerCount, settle, s, hlookup, hredis]
          rw [hsettle]
          refine hc.update (hc.attachments.remove hconnected rfl) rfl (fun l hl => ?_)
            (fun h => absurd (hredis.symm.trans h) (by simp)) (fun _ => ?_) (fun l hl => ?_)
            (hothers _ rfl rfl)
          · cases hl
            exact ⟨trivial, fun _ _ => hafter _⟩
          · -- without Redis the count goes down in the same step
            have hlocal := hc.local' hredis
            by_cases hid : i = id
            · subst hid
              rw [if_pos rfl] at hentries
              simp only [s, Function.update_self, hlocal]
              omega
            · rw [if_neg hid] at hentries
              simp only [s, Function.update_of_ne (Ne.symm hid), hlocal]
              omega
          · cases hl
            exact .inl (.inl ⟨by rintro ⟨⟩, fun _ _ => hafter' _⟩)

/-- The detach timeout starts. -/
theorem countInvariant_detachTimeout {c : TerminalConfig} {p : ℕ} (hc : CountInvariant id c)
    (hp : c.pending p = none) :
    CountInvariant id ⟨(settle (handleDetachTimeout id) c.world).1,
      Function.update c.pending p (settle (handleDetachTimeout id) c.world).2⟩ := by
  have hcounting : (terminalBody (.detachTimeout id)).Always counting :=
    terminalBody_counting not_false
  refine countInvariant_settled hc hp rfl hc.attachments rfl rfl rfl hcounting fun l hl => ?_
  cases harmed : c.world.memory.detachTimers id with
  | false =>
      have hsettle : (settle (handleDetachTimeout id) c.world).2 = none := by
        simp [handleDetachTimeout, settle, harmed]
      exact absurd (hsettle.symm.trans hl) (by simp)
  | true =>
      cases hredis : c.world.memory.redisEnabled with
      | true =>
          have hsettle : (settle (handleDetachTimeout id) c.world).2 = some (readsCount id) := by
            simp [handleDetachTimeout, getControllerCount, settle, clearDetachTimer, harmed, hredis,
              readsCount]
          cases hsettle.symm.trans hl
          exact .inl (.inr ⟨rfl, hredis⟩)
      | false =>
          have hsettle : (settle (handleDetachTimeout id) c.world).2 = some ⟨.other, fun _ =>
              if 0 < c.world.memory.localControllerCounts id then .done
              else terminateDetached id⟩ := by
            simp [handleDetachTimeout, getControllerCount, settle, clearDetachTimer, harmed, hredis]
          cases hsettle.symm.trans hl
          have hlocal := hc.local' hredis
          by_cases hactive : 0 < c.world.memory.localControllerCounts id
          · refine .inl (.inl ⟨by rintro ⟨⟩, fun _ _ => ?_⟩)
            exact .ite (fun _ => trivial) fun hnone => absurd hactive hnone
          · refine .inr ?_
            omega

/-- A call starts. -/
theorem countInvariant_invoke {c : TerminalConfig} {p : ℕ} {req : TerminalRequest}
    (hc : CountInvariant id c) (hp : c.pending p = none) (inp : TerminalInput) :
    CountInvariant id (terminalStep c (.invoke p req inp)) := by
  rw [terminalStep, step_invoke hp]
  by_cases hreq : req.IsAttachment
  · cases req with
    | connect socketId =>
        have hgood : AttachmentsGood id { c.world.memory with
            connected := c.world.memory.connected ++ [socketId] } :=
          ⟨hc.attachments.keys, fun a ha hid =>
            List.mem_append_left _ (hc.attachments.connected a ha hid)⟩
        have hdone : (Program.done : TerminalProgram).Always counting := trivial
        exact countInvariant_settled
          (s := ⟨c.world.data, { c.world.memory with
            connected := c.world.memory.connected ++ [socketId] }⟩)
          hc hp rfl hgood rfl rfl rfl hdone fun _ hl => absurd hl (by simp [settle])
    | disconnect socketId =>
        refine countInvariant_detach hc hp (fun s hs hne => ?_) trivial trivial
        exact List.mem_filter.mpr ⟨hs, by simpa using hne⟩
    | detach socketId => exact countInvariant_detach hc hp (fun _ hs _ => hs) trivial trivial
    | attach id' user socketId =>
        have hcounting := attachDetached_counting id' user socketId
        have hdetaching : (attachDetached id' user socketId).Always (notDetaching id) :=
          attachDetached_always notDetaching_attaches fun _ _ => trivial
        cases hlookup : c.world.memory.socketToAttachment.lookup socketId with
        | none =>
            have hbody : terminalCalls.invoke (.attach id' user socketId) inp c.world =
                settle (attachDetached id' user socketId) c.world := by
              simp [programCalls, terminalBody, attachController, settle, hlookup]
            rw [hbody]
            exact countInvariant_settled hc hp rfl hc.attachments rfl rfl rfl hcounting
              fun l hl => .inl (.inl (settle_always hdetaching _ hl))
        | some attached =>
            have hbody : terminalCalls.invoke (.attach id' user socketId) inp c.world =
                settle (detachController socketId (attachDetached id' user socketId)) c.world := by
              simp [programCalls, terminalBody, attachController, settle, hlookup]
            rw [hbody]
            exact countInvariant_detach hc hp (fun _ hs _ => hs) hcounting hdetaching
    | _ => exact hreq.elim
  · by_cases hself : req = .detachTimeout id
    · subst hself
      exact countInvariant_detachTimeout hc hp
    · exact countInvariant_settled hc hp rfl hc.attachments rfl rfl rfl
        (terminalBody_counting hreq) fun l hl =>
          .inl (.inl (settle_always (terminalBody_notDetaching hself) _ hl))

/-! ### All events -/

theorem countInvariant_env {c : TerminalConfig} {e : TerminalEnv} (hc : CountInvariant id c)
    (hg : KeepsCount id c (.env e)) : CountInvariant id (terminalStep c (.env e)) := by
  rw [terminalStep, step_env]
  cases e with
  | setClock now =>
      have hgood : AttachmentsGood id (terminalEnv (.setClock now) c.world).memory :=
        hc.attachments.of_controllers rfl
      exact ⟨hgood, hc.calls, hc.shared, hc.local', hc.detaching⟩
  | expireCounter id' =>
      refine ⟨hc.attachments, hc.calls, fun hredis => ?_, hc.local', hc.detaching⟩
      have hsame : ((terminalEnv (.expireCounter id') c.world).data.controllerCounts id).getD 0 =
          (c.world.data.controllerCounts id).getD 0 := by
        by_cases hid : id' = id
        · subst hid
          rw [hg rfl]
          simp [terminalEnv]
        · simp [terminalEnv, Function.update_of_ne (Ne.symm hid)]
      rw [hsame]
      exact hc.shared hredis

/-- **One event.** -/
theorem countInvariant_step (c : TerminalConfig) (e : TerminalEvent) (hc : CountInvariant id c)
    (hg : KeepsCount id c e) : CountInvariant id (terminalStep c e) := by
  cases e with
  | invoke p req inp =>
      cases hp : c.pending p with
      | some l =>
          rw [terminalStep, step_invoke_busy hp]
          exact hc
      | none => exact countInvariant_invoke hc hp inp
  | resume p inp => exact countInvariant_resume hc hg
  | env e => exact countInvariant_env hc hg

/-! ## The theorem -/

theorem countInvariant_start (id : Uuid) (s : TerminalStore) :
    CountInvariant id (Config.idle (noControllers id s)) where
  attachments := ⟨List.nodup_nil, fun _ h => absurd h (by simp [noControllers])⟩
  calls _ _ h := absurd h (by simp)
  shared _ := by
    have hnone : (entries id [] : ℤ) -
        (Function.update s.data.controllerCounts id none id).getD 0 = 0 := by
      simp [entries]
    have howed : Weighs (countWeight id) (fun _ : ℕ => none) ((entries id [] : ℤ) -
        (Function.update s.data.controllerCounts id none id).getD 0) := by
      rw [hnone]
      exact weighs_idle
    exact howed
  local' _ := by simp [noControllers, entries]
  detaching _ _ h := absurd h (by simp)

/-- The count is right when nothing is owed. -/
theorem CountInvariant.atRest {c : TerminalConfig} (hc : CountInvariant id c)
    (hidle : ∀ p, c.pending p = none) :
    controllerCount id c.world = attachedControllers id c.world.memory := by
  rw [hc.attachedControllers_eq]
  unfold controllerCount
  split
  next hredis =>
      have howed := (hc.shared hredis).eq_zero hidle
      omega
  next hredis => exact hc.local' (Bool.eq_false_of_not_eq_true hredis)

/-- No socket is attached when the detach timeout terminates the session. -/
theorem CountInvariant.detached {c : TerminalConfig} (hc : CountInvariant id c) {p : ℕ}
    {l : TerminalCall} (hp : c.pending p = some l)
    (hop : l.op = .updateSessionMetadata id detachedPatch) :
    attachedControllers id c.world.memory = 0 := by
  rw [hc.attachedControllers_eq]
  rcases hc.detaching p l hp with (halways | ⟨rfl, -⟩) | hnone
  · exact absurd hop halways.1
  · exact absurd hop (by simp [readsCount])
  · exact hnone

/-- **The count of the attached controllers**: at rest it is right, and the detach timeout
terminates no session with an attached socket, in every run in which the bookkeeping meets the
state it is written for. -/
theorem controllers_counted (id : Uuid) (s : TerminalStore) (es : List TerminalEvent)
    (hes : Along terminalStep (KeepsCount id) (Config.idle (noControllers id s)) es) :
    ControllersCounted id (Config.idle (noControllers id s)) es := by
  have hinv : ∀ es₁ es₂, es = es₁ ++ es₂ →
      CountInvariant id (run terminalStep (Config.idle (noControllers id s)) es₁) := by
    rintro es₁ es₂ rfl
    exact inv_run countInvariant_step (countInvariant_start id s) (along_append.mp hes).1
  exact
    { atRest := fun es₁ es₂ hsplit hidle => (hinv es₁ es₂ hsplit).atRest hidle
      detached := fun es₁ p inp es₂ l hsplit hp hop => (hinv es₁ _ hsplit).detached hp hop }

/-! ## Attaching a socket -/

/-- An open session, and nothing else. -/
def attachableSession : TerminalStore where
  data :=
    { sessions := Function.update (fun _ => none) "s" (some
        { session :=
            { id := "s", workspaceId := "w", nodeId := "n", createdByUserId := some "u"
              status := .opened } }) }
  memory := {}

/-- Its creator connects, and attaches the socket up to the last check. -/
def attaching : List TerminalEvent :=
  [.invoke 0 (.connect "k") {}, .invoke 0 (.attach "s" ⟨"u", "u@example.org"⟩ "k") {},
    .resume 0 {}, .resume 0 {}]

/-- The check passes, and the socket is registered and counted. -/
def attached : List TerminalEvent := List.replicate 3 (.resume 0 {})

theorem attached_keepsCount : Along terminalStep (KeepsCount "s")
    (Config.idle (noControllers "s" attachableSession)) (attaching ++ attached) := by
  refine ⟨trivial, trivial, ?_, ?_, ?_, ?_, ?_, trivial⟩
  · intro l hl
    cases hl
    trivial
  · intro l hl
    cases hl
    trivial
  · intro l hl
    cases hl
    have hnone : ("k", "s") ∉ ([] : List (SocketId × Uuid)) := List.not_mem_nil
    have hconnected : "k" ∈ ["k"] := List.mem_singleton_self "k"
    refine fun _ => ⟨hnone, fun _ => ⟨hconnected, fun q l' hq => ?_⟩⟩
    match q, hq with
    | 0, hq =>
        cases hq
        refine .inl ⟨nofun, fun _ _ => ?_⟩
        exact registerController_always notDetaching_attaches fun _ _ => trivial
    | q + 1, hq =>
        have hfree : (none : Option TerminalCall) = some l' := hq
        exact nomatch hfree
  · intro l hl
    cases hl
    exact fun _ => ⟨rfl, rfl⟩
  · intro l hl
    cases hl
    trivial

theorem controllers_counted_attached : ControllersCounted "s"
    (Config.idle (noControllers "s" attachableSession)) (attaching ++ attached) :=
  controllers_counted "s" attachableSession (attaching ++ attached) attached_keepsCount

/-- The socket disconnects before the last check has passed. -/
def disconnectedEarly : List TerminalEvent :=
  attaching ++ .invoke 1 (.disconnect "k") {} :: attached

/-- **It stays counted.** -/
theorem disconnected_counted : ¬ ControllersCounted "s"
    (Config.idle (noControllers "s" attachableSession)) disconnectedEarly := by
  intro h
  have hcount := h.atRest disconnectedEarly [] (List.append_nil _).symm fun p => by
    match p with
    | 0 => rfl
    | 1 => rfl
    | p + 2 => rfl
  have hcounted : controllerCount "s" (run terminalStep
      (Config.idle (noControllers "s" attachableSession)) disconnectedEarly).world = 1 := rfl
  have hattached : attachedControllers "s" (run terminalStep
      (Config.idle (noControllers "s" attachableSession)) disconnectedEarly).world.memory = 0 :=
    rfl
  rw [hcounted, hattached] at hcount
  exact absurd hcount (by decide)

end TerminalSessionsService
