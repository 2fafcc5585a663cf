/-
# Stale disconnections of a node

The node of a socket is marked ONLINE, and its route stored, after the socket is registered; a
disconnection deletes the route and marks the node OFFLINE.  A disconnection checks only the
map of its own instance, and only once: a socket that is registered on another instance, or
after the check, can find the node OFFLINE.

Each OFFLINE and each deleted route is recorded with the registration whose disconnection it
is from.
-/
import NoderaxApi.AgentSocketMaps

open Runs Interleaving

namespace AgentRealtimeService

/-! ## What is claimed -/

/-- The sockets of the node that were registered after `number` are closed. -/
def NoneConnectedSince (w : AgentWorld) (nodeId : Uuid) (number : ℕ) : Prop :=
  ∀ r ∈ w.registrations, r.nodeId = nodeId → number < r.number →
    w.closed (r.instanceId, r.socketId) = true

/-- **No older disconnection has taken the node away from a connected socket.** -/
structure StaleHarmless (w : AgentWorld) (nodeId : Uuid) : Prop where
  status : ∀ row number, w.nodes nodeId = some row → row.status = .offline →
    row.offlineBy = some number → NoneConnectedSince w nodeId number
  route : ∀ number, w.nodeRoutes nodeId = none → w.clearedBy nodeId = some number →
    NoneConnectedSince w nodeId number

/-- So it is at every point of a run at which no call is under way. -/
def HarmlessAtRest (c : AgentConfig) (es : List AgentEvent) : Prop :=
  ∀ es₁ es₂, es = es₁ ++ es₂ → (∀ p, (run agentStep c es₁).pending p = none) →
    ∀ nodeId, StaleHarmless (run agentStep c es₁).world nodeId

/-- Instances that have just started, and no disconnection yet. -/
def noDisconnections (w : AgentWorld) : AgentWorld :=
  { noSockets w with
    nodes := fun nodeId => (w.nodes nodeId).map fun row => { row with offlineBy := none }
    clearedBy := fun _ => none }

/-! ## The condition -/

/-- The call marks the node of a registration ONLINE later on. -/
def AgentCall.MarksOnline (r : Registration) : AgentCall → Prop
  | .upsertingRoute r' _ | .updatingOnline r' _ | .findingOnline r' _ | .savingOnline r' _ =>
      r' = r
  | _ => False

/-- The call stores the route of a registration later on. -/
def AgentCall.StoresRoute (r : Registration) : AgentCall → Prop
  | .upsertingRoute r' _ => r' = r
  | _ => False

/-- The socket of a registration is closed, or its call is still going to write. -/
def Awaited (writes : Registration → AgentCall → Prop) (c : AgentConfig) (r : Registration) :
    Prop :=
  c.world.closed (r.instanceId, r.socketId) = true ∨
    ∃ p l, c.pending p = some l ∧ writes r l

/-- So it is for all registrations of the node after `number`. -/
def AwaitedSince (writes : Registration → AgentCall → Prop) (c : AgentConfig) (nodeId : Uuid)
    (number : ℕ) : Prop :=
  ∀ r ∈ c.world.registrations, r.nodeId = nodeId → number < r.number → Awaited writes c r

/-- So it is for those that a disconnection cannot see: the ones on other instances, and the
ones after its check. -/
def UnseenAwaited (writes : Registration → AgentCall → Prop) (c : AgentConfig)
    (h : Disconnection) : Prop :=
  ∀ r ∈ c.world.registrations, r.nodeId = h.session.nodeId →
    h.session.authenticatedAt < r.number →
    r.instanceId ≠ h.instanceId ∨ h.checkedAt ≤ r.number → Awaited writes c r

/-- The node is ONLINE. -/
def AgentWorld.isOnline (w : AgentWorld) (nodeId : Uuid) : Prop :=
  ∃ row, w.nodes nodeId = some row ∧ row.status = .online

/-- **A disconnection does not overtake a socket that it cannot see.**

* When it deletes the route, or makes an ONLINE node OFFLINE, every connected socket of the node
  that is on another instance or was registered after its check, and after its own socket, is
  still going to store the route or to mark the node ONLINE.
* When the root access of a node is saved that was loaded as OFFLINE and is ONLINE, the same
  holds of all sockets registered after the disconnection that it was OFFLINE by. -/
def KeepsNewer (c : AgentConfig) : AgentEvent → Prop
  | .resume p inp => ∀ l, c.pending p = some l → inp.rejects = false →
      match l with
      | .deletingRoute h => c.world.nodeRoutes h.session.nodeId ≠ none →
          UnseenAwaited AgentCall.StoresRoute c h
      | .updatingOffline h | .savingOffline h => c.world.isOnline h.session.nodeId →
          UnseenAwaited AgentCall.MarksOnline c h
      | .savingRootAccess r row => c.world.isOnline r.nodeId → row.status = .offline →
          ∀ number, row.offlineBy = some number →
            AwaitedSince AgentCall.MarksOnline c r.nodeId number
      | _ => True
  | _ => True

/-! ## The invariant -/

/-- The disconnection of a call. -/
def AgentCall.disconnection : AgentCall → Option Disconnection
  | .readingRoute h | .deletingRoute h | .updatingOffline h | .findingOffline h
  | .savingOffline h => some h
  | _ => none

/-- When a disconnection passed its check, its socket was the last one registered for the node
on its instance. -/
def CheckSound (w : AgentWorld) (h : Disconnection) : Prop :=
  h.checkedAt ≤ w.registrations.length ∧
    ∀ r ∈ w.registrations, r.instanceId = h.instanceId → r.nodeId = h.session.nodeId →
      r.number < h.checkedAt → r.number ≤ h.session.authenticatedAt

/-- **The state between two steps.** -/
structure RouteInvariant (c : AgentConfig) : Prop where
  maps : MapsSound c.world
  checks : ∀ p l, c.pending p = some l → ∀ h ∈ l.disconnection, CheckSound c.world h
  status : ∀ nodeId row number, c.world.nodes nodeId = some row → row.status = .offline →
    row.offlineBy = some number → AwaitedSince AgentCall.MarksOnline c nodeId number
  route : ∀ nodeId number, c.world.clearedBy nodeId = some number →
    AwaitedSince AgentCall.StoresRoute c nodeId number

/-- What a disconnection cannot see is all that is more recent than its socket. -/
theorem UnseenAwaited.awaitedSince {writes : Registration → AgentCall → Prop} {c : AgentConfig}
    {h : Disconnection} (hunseen : UnseenAwaited writes c h) (hcheck : CheckSound c.world h) :
    AwaitedSince writes c h.session.nodeId h.session.authenticatedAt := by
  intro r hr hn hnewer
  refine hunseen r hr hn hnewer ?_
  by_contra hseen
  obtain ⟨hinstance, hbefore⟩ := not_or.mp hseen
  have hle := hcheck.2 r hr (not_not.mp hinstance) hn (not_le.mp hbefore)
  omega

/-- The call that moves has written, or is still going to. -/
def GoesOn (writes : Registration → AgentCall → Prop) (c : AgentConfig) (p : ℕ)
    (w' : AgentWorld) (next : Option AgentCall) (nodeId : Uuid) : Prop :=
  ∀ l r, c.pending p = some l → writes r l → r.nodeId = nodeId →
    w'.closed (r.instanceId, r.socketId) = true ∨ ∃ l', next = some l' ∧ writes r l'

theorem Awaited.update {writes : Registration → AgentCall → Prop} {c : AgentConfig} {p : ℕ}
    {w' : AgentWorld} {next : Option AgentCall} {r : Registration} (h : Awaited writes c r)
    (hclosed : ∀ x, c.world.closed x = true → w'.closed x = true)
    (hgoes : GoesOn writes c p w' next r.nodeId) :
    Awaited writes ⟨w', Function.update c.pending p next⟩ r := by
  rcases h with hclosed' | ⟨q, l, hq, hwrites⟩
  · exact .inl (hclosed _ hclosed')
  · by_cases hqp : q = p
    · subst hqp
      rcases hgoes l r hq hwrites rfl with hclosed' | ⟨l', rfl, hwrites'⟩
      · exact .inl hclosed'
      · exact .inr ⟨q, l', Function.update_self q _ _, hwrites'⟩
    · exact .inr ⟨q, l, (Function.update_of_ne hqp _ _).trans hq, hwrites⟩

/-- One call moved; it may have registered a socket. -/
theorem AwaitedSince.update {writes : Registration → AgentCall → Prop} {c : AgentConfig} {p : ℕ}
    {w' : AgentWorld} {next : Option AgentCall} {nodeId : Uuid} {number : ℕ}
    (h : AwaitedSince writes c nodeId number)
    (hclosed : ∀ x, c.world.closed x = true → w'.closed x = true)
    (hregistered : ∀ r ∈ w'.registrations, r ∈ c.world.registrations ∨
      ∃ l, next = some l ∧ writes r l)
    (hgoes : GoesOn writes c p w' next nodeId) :
    AwaitedSince writes ⟨w', Function.update c.pending p next⟩ nodeId number := by
  intro r hr hn hnewer
  rcases hregistered r hr with hold | ⟨l, rfl, hwrites⟩
  · subst hn
    exact (h r hold rfl hnewer).update hclosed hgoes
  · exact .inr ⟨p, l, Function.update_self p _ _, hwrites⟩

/-- **One call moved.** -/
theorem RouteInvariant.update {c : AgentConfig} {p : ℕ} {w' : AgentWorld}
    {next : Option AgentCall} (hc : RouteInvariant c) (hmaps : MapsSound w')
    (hclosed : ∀ x, c.world.closed x = true → w'.closed x = true)
    (hregistrations : w'.registrations = c.world.registrations ∨
      ∃ r rootAccess, w'.registrations = c.world.registrations ++ [r] ∧
        r.number = c.world.registrations.length ∧ next = some (.upsertingRoute r rootAccess))
    (hcheck : ∀ l, next = some l → ∀ h ∈ l.disconnection, CheckSound c.world h)
    (hstatus : ∀ nodeId row number, w'.nodes nodeId = some row → row.status = .offline →
      row.offlineBy = some number → AwaitedSince AgentCall.MarksOnline c nodeId number ∧
        GoesOn AgentCall.MarksOnline c p w' next nodeId)
    (hroute : ∀ nodeId number, w'.clearedBy nodeId = some number →
      AwaitedSince AgentCall.StoresRoute c nodeId number ∧
        GoesOn AgentCall.StoresRoute c p w' next nodeId) :
    RouteInvariant ⟨w', Function.update c.pending p next⟩ := by
  have hregistered : ∀ writes : Registration → AgentCall → Prop,
      (∀ r rootAccess, writes r (.upsertingRoute r rootAccess)) →
      ∀ r ∈ w'.registrations, r ∈ c.world.registrations ∨ ∃ l, next = some l ∧ writes r l := by
    intro writes hwrites r hr
    rcases hregistrations with hsame | ⟨r', rootAccess, hnew, -, hnext⟩
    · exact .inl (hsame ▸ hr)
    · rw [hnew] at hr
      rcases List.mem_append.mp hr with hold | hr
      · exact .inl hold
      · obtain rfl := List.mem_singleton.mp hr
        exact .inr ⟨_, hnext, hwrites r rootAccess⟩
  have hsound : ∀ h, CheckSound c.world h → CheckSound w' h := by
    intro h hh
    rcases hregistrations with hsame | ⟨r', rootAccess, hnew, hnumber, -⟩
    · unfold CheckSound
      rw [hsame]
      exact hh
    · unfold CheckSound
      rw [hnew, List.length_append]
      refine ⟨hh.1.trans (Nat.le_add_right _ _), fun r hr hi hn hbefore => ?_⟩
      rcases List.mem_append.mp hr with hold | hr
      · exact hh.2 r hold hi hn hbefore
      · obtain rfl := List.mem_singleton.mp hr
        have hle := hh.1
        omega
  constructor
  · exact hmaps
  · exact pending_update (J := fun w l => ∀ h ∈ l.disconnection, CheckSound w h)
      (fun l hl h hh => hsound h (hcheck l hl h hh))
      fun q l hq h hh => hsound h (hc.checks q l hq h hh)
  · intro nodeId row number hrow hoffline hby
    obtain ⟨hawaited, hgoes⟩ := hstatus nodeId row number hrow hoffline hby
    exact hawaited.update hclosed
      (hregistered AgentCall.MarksOnline fun _ _ => rfl) hgoes
  · intro nodeId number hby
    obtain ⟨hawaited, hgoes⟩ := hroute nodeId number hby
    exact hawaited.update hclosed
      (hregistered AgentCall.StoresRoute fun _ _ => rfl) hgoes

/-- A call moved that writes neither a status nor a route. -/
theorem RouteInvariant.quiet {c : AgentConfig} {p : ℕ} {w' : AgentWorld}
    {next : Option AgentCall} (hc : RouteInvariant c) (hmaps : MapsSound w')
    (hregistrations : w'.registrations = c.world.registrations)
    (hnodes : w'.nodes = c.world.nodes) (hcleared : w'.clearedBy = c.world.clearedBy)
    (hclosed : ∀ x, c.world.closed x = true → w'.closed x = true)
    (hcheck : ∀ l, next = some l → ∀ h ∈ l.disconnection, CheckSound c.world h)
    (hmarks : ∀ nodeId, GoesOn AgentCall.MarksOnline c p w' next nodeId)
    (hstores : ∀ nodeId, GoesOn AgentCall.StoresRoute c p w' next nodeId) :
    RouteInvariant ⟨w', Function.update c.pending p next⟩ := by
  refine hc.update hmaps hclosed (.inl hregistrations) hcheck ?_ ?_
  · intro nodeId row number hrow hoffline hby
    rw [hnodes] at hrow
    exact ⟨hc.status nodeId row number hrow hoffline hby, hmarks nodeId⟩
  · intro nodeId number hby
    rw [hcleared] at hby
    exact ⟨hc.route nodeId number hby, hstores nodeId⟩

theorem close_closed (w : AgentWorld) (i : InstanceId) (s : SocketId)
    (x : InstanceId × SocketId) (hx : w.closed x = true) : (w.close i s).closed x = true := by
  simp only [AgentWorld.close, Function.update_apply]
  split
  · rfl
  · exact hx

/-- The call of a socket ends, and the socket is closed. -/
theorem RouteInvariant.close {c : AgentConfig} {p : ℕ} {l : AgentCall} {i : InstanceId}
    {s : SocketId} (hc : RouteInvariant c) (hp : c.pending p = some l)
    (hl : ∀ r, l.MarksOnline r ∨ l.StoresRoute r → r.instanceId = i ∧ r.socketId = s) :
    RouteInvariant ⟨c.world.close i s, Function.update c.pending p none⟩ := by
  have hself : ∀ r : Registration, r.instanceId = i ∧ r.socketId = s →
      (c.world.close i s).closed (r.instanceId, r.socketId) = true := by
    rintro r ⟨rfl, rfl⟩
    exact Function.update_self (r.instanceId, r.socketId) true c.world.closed
  refine hc.quiet (hc.maps.of_sockets rfl) rfl rfl rfl (close_closed c.world _ _)
    (fun _ h => absurd h (by simp)) (fun n l' r hl' hwrites _ => .inl ?_)
    fun n l' r hl' hwrites _ => .inl ?_
  · obtain rfl := Option.some.inj (hp.symm.trans hl')
    exact hself r (hl r (.inl hwrites))
  · obtain rfl := Option.some.inj (hp.symm.trans hl')
    exact hself r (hl r (.inr hwrites))

/-- A call moved that neither registers a socket nor writes, and goes on as it was. -/
theorem RouteInvariant.wait {c : AgentConfig} {p : ℕ} {l : AgentCall} {next : Option AgentCall}
    (hc : RouteInvariant c) (hp : c.pending p = some l)
    (hcheck : ∀ l', next = some l' → ∀ h ∈ l'.disconnection, h ∈ l.disconnection)
    (hmarks : ∀ r, l.MarksOnline r → ∃ l', next = some l' ∧ l'.MarksOnline r)
    (hstores : ∀ r, ¬ l.StoresRoute r) :
    RouteInvariant ⟨c.world, Function.update c.pending p next⟩ := by
  refine hc.quiet hc.maps rfl rfl rfl (fun _ h => h)
    (fun l' hl' h hh => hc.checks p l hp h (hcheck l' hl' h hh))
    (fun n l' r hl' hwrites _ => .inr ?_) fun n l' r hl' hwrites _ => ?_
  · obtain rfl := Option.some.inj (hp.symm.trans hl')
    exact hmarks r hwrites
  · obtain rfl := Option.some.inj (hp.symm.trans hl')
    exact absurd hwrites (hstores r)

/-- A row after a save: it is as before, with the saved status if it is the row of the node, or
it is the saved one, with another status than before. -/
theorem saveStatus_row {w : AgentWorld} {nodeId nodeId' : Uuid} {row row' : NodeStatusRow}
    (h : (w.saveStatus nodeId row).nodes nodeId' = some row') :
    (w.nodes nodeId' = some row' ∧ (nodeId' = nodeId → row'.status = row.status)) ∨
      (nodeId' = nodeId ∧ row' = row ∧
        ∃ current, w.nodes nodeId = some current ∧ current.status ≠ row.status) := by
  unfold AgentWorld.saveStatus at h
  split at h
  next hnone =>
      refine .inl ⟨h, ?_⟩
      rintro rfl
      rw [hnone] at h
      exact absurd h (by simp)
  next current hcurrent =>
      split at h
      next hsame =>
          refine .inl ⟨h, ?_⟩
          rintro rfl
          rw [hcurrent] at h
          cases h
          exact hsame
      next hchanged =>
          simp only [Function.update_apply] at h
          split at h
          next hnode => exact .inr ⟨hnode, (Option.some.inj h).symm, current, hcurrent, hchanged⟩
          next hnode => exact .inl ⟨h, fun heq => absurd heq hnode⟩

/-- The status of a node is saved by a call: either it is ONLINE then, or all more recent
sockets are still awaited. -/
theorem RouteInvariant.save {c : AgentConfig} {p : ℕ} {l : AgentCall} {next : Option AgentCall}
    {nodeId : Uuid} {row : NodeStatusRow} (hc : RouteInvariant c) (hp : c.pending p = some l)
    (hcheck : ∀ l', next = some l' → ∀ h ∈ l'.disconnection, h ∈ l.disconnection)
    (hmarks : ∀ r, l.MarksOnline r → r.nodeId = nodeId ∧ row.status = .online)
    (hstores : ∀ r, ¬ l.StoresRoute r)
    (hrow : c.world.isOnline nodeId → row.status = .offline → ∀ number,
      row.offlineBy = some number → AwaitedSince AgentCall.MarksOnline c nodeId number) :
    RouteInvariant ⟨c.world.saveStatus nodeId row, Function.update c.pending p next⟩ := by
  have hframe : (c.world.saveStatus nodeId row).sockets = c.world.sockets :=
    (saveStatus_frame c.world nodeId row).1
  have hrecords : (c.world.saveStatus nodeId row).closed = c.world.closed ∧
      (c.world.saveStatus nodeId row).clearedBy = c.world.clearedBy := by
    unfold AgentWorld.saveStatus
    split
    · exact ⟨rfl, rfl⟩
    · split <;> exact ⟨rfl, rfl⟩
  refine hc.update (hc.maps.of_sockets hframe) (fun x hx => hrecords.1 ▸ hx)
    (.inl (congrArg (·.2.2) hframe))
    (fun l' hl' h hh => hc.checks p l hp h (hcheck l' hl' h hh)) ?_ ?_
  · intro nodeId' row' number hrow' hoffline hby
    rcases saveStatus_row hrow' with ⟨hbefore, hstatus⟩ | ⟨rfl, rfl, current, hcurrent, hchanged⟩
    · refine ⟨hc.status nodeId' row' number hbefore hoffline hby, fun l' r hl' hwrites hr => ?_⟩
      obtain rfl := Option.some.inj (hp.symm.trans hl')
      obtain ⟨hnode, honline⟩ := hmarks r hwrites
      rw [hstatus (hr.symm.trans hnode), honline] at hoffline
      exact absurd hoffline (by decide)
    · have honline : c.world.isOnline nodeId' := by
        refine ⟨current, hcurrent, ?_⟩
        cases hstatus : current.status with
        | online => rfl
        | offline => exact absurd (hstatus.trans hoffline.symm) hchanged
      refine ⟨hrow honline hoffline number hby, fun l' r hl' hwrites hr => ?_⟩
      obtain rfl := Option.some.inj (hp.symm.trans hl')
      have hsaved := (hmarks r hwrites).2
      rw [hoffline] at hsaved
      exact absurd hsaved (by decide)
  · intro nodeId' number hby
    rw [hrecords.2] at hby
    refine ⟨hc.route nodeId' number hby, fun l' r hl' hwrites _ => ?_⟩
    obtain rfl := Option.some.inj (hp.symm.trans hl')
    exact absurd hwrites (hstores r)

/-- The route of a registration is stored. -/
theorem RouteInvariant.store {c : AgentConfig} {p : ℕ} {r : Registration} {rootAccess : Bool}
    (hc : RouteInvariant c) (hp : c.pending p = some (.upsertingRoute r rootAccess)) :
    RouteInvariant ⟨c.world.upsertNodeRoute r,
      Function.update c.pending p (some (.updatingOnline r rootAccess))⟩ := by
  refine hc.update (hc.maps.of_sockets rfl) (fun _ h => h) (.inl rfl) ?_ ?_ ?_
  · intro l hl h hh
    cases hl
    exact absurd hh (by simp [AgentCall.disconnection])
  · intro nodeId row number hrow hoffline hby
    refine ⟨hc.status nodeId row number hrow hoffline hby, fun l r' hl hwrites _ => .inr ?_⟩
    obtain rfl := Option.some.inj (hp.symm.trans hl)
    exact ⟨_, rfl, hwrites⟩
  · intro nodeId number hby
    simp only [AgentWorld.upsertNodeRoute, Function.update_apply] at hby
    split at hby
    · exact absurd hby (by simp)
    next hother =>
        refine ⟨hc.route nodeId number hby, fun l r' hl hwrites hn => ?_⟩
        obtain rfl := Option.some.inj (hp.symm.trans hl)
        obtain rfl : r = r' := hwrites
        exact absurd hn.symm hother

/-- A disconnection deletes the route. -/
theorem RouteInvariant.delete {c : AgentConfig} {p : ℕ} {h : Disconnection}
    (hc : RouteInvariant c) (hp : c.pending p = some (.deletingRoute h))
    (hunseen : c.world.nodeRoutes h.session.nodeId ≠ none →
      UnseenAwaited AgentCall.StoresRoute c h) :
    RouteInvariant ⟨c.world.deleteNodeRoute h.session.nodeId h.session.authenticatedAt,
      Function.update c.pending p (some (.updatingOffline h))⟩ := by
  have hcheck : CheckSound c.world h := hc.checks p _ hp h rfl
  unfold AgentWorld.deleteNodeRoute
  split
  · refine hc.wait hp (fun l hl h' hh => ?_) (fun r hr => hr.elim) fun r hr => hr.elim
    cases hl
    exact hh
  next hroute =>
      refine hc.update (hc.maps.of_sockets rfl) (fun _ h => h) (.inl rfl) ?_ ?_ ?_
      · intro l hl h' hh
        cases hl
        cases hh
        exact hcheck
      · intro nodeId row number hrow hoffline hby
        refine ⟨hc.status nodeId row number hrow hoffline hby, fun l r hl hwrites _ => ?_⟩
        obtain rfl := Option.some.inj (hp.symm.trans hl)
        exact hwrites.elim
      · intro nodeId number hby
        refine ⟨?_, fun l r hl hwrites _ => ?_⟩
        · simp only [Function.update_apply] at hby
          split at hby
          next hnode =>
              cases hby
              rw [hnode]
              exact (hunseen (by rw [hroute]; simp)).awaitedSince hcheck
          next => exact hc.route nodeId number hby
        · obtain rfl := Option.some.inj (hp.symm.trans hl)
          exact hwrites.elim

/-- An OFFLINE is saved by a disconnection. -/
theorem RouteInvariant.saveOffline {c : AgentConfig} {p : ℕ} {l : AgentCall} {h : Disconnection}
    (hc : RouteInvariant c) (hp : c.pending p = some l) (hl : l.disconnection = some h)
    (hunseen : c.world.isOnline h.session.nodeId → UnseenAwaited AgentCall.MarksOnline c h)
    (hmarks : ∀ r, ¬ l.MarksOnline r) (hstores : ∀ r, ¬ l.StoresRoute r) :
    RouteInvariant
      ⟨c.world.saveStatus h.session.nodeId ⟨.offline, some h.session.authenticatedAt⟩,
        Function.update c.pending p none⟩ := by
  refine hc.save hp (fun _ h => absurd h (by simp)) (fun r hr => absurd hr (hmarks r)) hstores
    fun honline _ number hby => ?_
  cases hby
  exact (hunseen honline).awaitedSince (hc.checks p l hp h hl)

/-- A socket is registered. -/
theorem RouteInvariant.register {c : AgentConfig} {p : ℕ} {i : InstanceId} {s : SocketId}
    {n : Uuid} {rootAccess : Bool} (hc : RouteInvariant c)
    (hp : c.pending p = some (.authenticating i s n rootAccess)) :
    RouteInvariant ⟨c.world.register ⟨i, s, n, c.world.registrations.length⟩,
      Function.update c.pending p
        (some (.upsertingRoute ⟨i, s, n, c.world.registrations.length⟩ rootAccess))⟩ := by
  refine hc.update (hc.maps.register rfl) (fun _ h => h) (.inr ⟨_, rootAccess, rfl, rfl, rfl⟩)
    ?_ ?_ ?_
  · intro l hl h hh
    cases hl
    exact absurd hh (by simp [AgentCall.disconnection])
  · intro nodeId row number hrow hoffline hby
    refine ⟨hc.status nodeId row number hrow hoffline hby, fun l r hl hwrites _ => ?_⟩
    obtain rfl := Option.some.inj (hp.symm.trans hl)
    exact hwrites.elim
  · intro nodeId number hby
    refine ⟨hc.route nodeId number hby, fun l r hl hwrites _ => ?_⟩
    obtain rfl := Option.some.inj (hp.symm.trans hl)
    exact hwrites.elim

/-- The registration that a call is from. -/
def AgentCall.registration : AgentCall → Option Registration
  | .upsertingRoute r _ | .updatingOnline r _ | .findingOnline r _ | .savingOnline r _
  | .markedOnline r _ | .findingRootAccess r | .savingRootAccess r _ | .finishing r => some r
  | _ => none

/-- A call writes for the registration that it is from. -/
theorem AgentCall.writes_registration {l : AgentCall} {r r' : Registration}
    (hl : l.registration = some r) (h : l.MarksOnline r' ∨ l.StoresRoute r') :
    r'.instanceId = r.instanceId ∧ r'.socketId = r.socketId := by
  have hsame : r = r' := by
    cases l with
    | upsertingRoute r₀ rootAccess =>
        cases hl
        exact h.elim id id
    | updatingOnline r₀ rootAccess | findingOnline r₀ rootAccess | savingOnline r₀ rootAccess =>
        cases hl
        exact h.elim id False.elim
    | _ => exact h.elim False.elim False.elim
  rw [hsame]
  exact ⟨rfl, rfl⟩

/-- A step of `authenticateSocket` after the registration. -/
theorem routeInvariant_registered {c : AgentConfig} {p : ℕ} {l : AgentCall} {r : Registration}
    {inp : AgentInput} (hc : RouteInvariant c) (hp : c.pending p = some l)
    (hl : l.registration = some r)
    (hsave : ∀ row, l = .savingRootAccess r row → inp.rejects = false →
      c.world.isOnline r.nodeId → row.status = .offline → ∀ number,
        row.offlineBy = some number → AwaitedSince AgentCall.MarksOnline c r.nodeId number) :
    RouteInvariant ⟨(resumeRegistered l r inp c.world).1,
      Function.update c.pending p (resumeRegistered l r inp c.world).2⟩ := by
  have hclose : RouteInvariant
      ⟨c.world.close r.instanceId r.socketId, Function.update c.pending p none⟩ :=
    hc.close hp fun r' h => AgentCall.writes_registration hl h
  have hnone : ∀ l' : AgentCall, l'.registration = some r → ∀ h, h ∉ l'.disconnection := by
    intro l' hl' h hh
    cases l' <;> simp [AgentCall.registration, AgentCall.disconnection] at hl' hh
  have hcheck : ∀ l' : AgentCall, l'.registration = some r → ∀ l'' : AgentCall,
      some l' = some l'' → ∀ h ∈ l''.disconnection, h ∈ l.disconnection := by
    intro l' hl' l'' hsame h hh
    cases hsame
    exact absurd hh (hnone l' hl' h)
  unfold resumeRegistered
  split
  · exact hclose
  next hinp =>
      cases l with
      | upsertingRoute r₀ rootAccess =>
          cases hl
          exact hc.store hp
      | updatingOnline r₀ rootAccess =>
          cases hl
          simp only
          split
          · exact hc.save hp (hcheck _ rfl) (fun r' hr' => ⟨by rw [← hr'], rfl⟩)
              (fun r' hr' => hr'.elim) fun _ h => absurd h (by decide)
          · exact hc.wait hp (hcheck _ rfl) (fun r' hr' => ⟨_, rfl, hr'⟩) fun r' hr' => hr'.elim
      | findingOnline r₀ rootAccess =>
          cases hl
          simp only
          split
          · exact hclose
          · exact hc.wait hp (hcheck _ rfl) (fun r' hr' => ⟨_, rfl, hr'⟩) fun r' hr' => hr'.elim
      | savingOnline r₀ rootAccess =>
          cases hl
          exact hc.save hp (hcheck _ rfl) (fun r' hr' => ⟨by rw [← hr'], rfl⟩)
            (fun r' hr' => hr'.elim) fun _ h => absurd h (by decide)
      | markedOnline r₀ rootAccess =>
          cases hl
          refine hc.wait hp (hcheck _ ?_) (fun r' hr' => hr'.elim) fun r' hr' => hr'.elim
          split <;> rfl
      | findingRootAccess r₀ =>
          cases hl
          simp only
          split
          · exact hclose
          · refine hc.wait hp (hcheck _ ?_) (fun r' hr' => hr'.elim) fun r' hr' => hr'.elim
            split <;> rfl
      | savingRootAccess r₀ row =>
          cases hl
          exact hc.save hp (hcheck _ rfl) (fun r' hr' => hr'.elim) (fun r' hr' => hr'.elim)
            (hsave row rfl (by simpa using hinp))
      | finishing r₀ =>
          cases hl
          exact hc.wait hp (fun _ h => absurd h (by simp)) (fun r' hr' => hr'.elim)
            fun r' hr' => hr'.elim
      | _ => exact absurd hl (by simp [AgentCall.registration])

/-- A step of a disconnection. -/
theorem routeInvariant_disconnection {c : AgentConfig} {p : ℕ} {l : AgentCall}
    {h : Disconnection} {inp : AgentInput} (hc : RouteInvariant c) (hp : c.pending p = some l)
    (hl : l.disconnection = some h) (hg : KeepsNewer c (.resume p inp)) :
    RouteInvariant ⟨(resumeDisconnection l h inp c.world).1,
      Function.update c.pending p (resumeDisconnection l h inp c.world).2⟩ := by
  have hmarks : ∀ r, ¬ l.MarksOnline r := by
    intro r hr
    cases l <;> simp [AgentCall.disconnection, AgentCall.MarksOnline] at hl hr
  have hstores : ∀ r, ¬ l.StoresRoute r := by
    intro r hr
    cases l <;> simp [AgentCall.disconnection, AgentCall.StoresRoute] at hl hr
  have hwait : ∀ next : Option AgentCall,
      (∀ l', next = some l' → l'.disconnection = some h) →
        RouteInvariant ⟨c.world, Function.update c.pending p next⟩ := by
    intro next hnext
    refine hc.wait hp (fun l' hl' h' hh' => ?_) (fun r hr => absurd hr (hmarks r)) hstores
    rw [hnext l' hl'] at hh'
    rw [hl]
    exact hh'
  have hguard := hg l hp
  unfold resumeDisconnection
  split
  · exact hwait none fun _ h => absurd h (by simp)
  next hinp =>
      have haccepted : inp.rejects = false := by simpa using hinp
      cases l with
      | readingRoute h₀ =>
          cases hl
          simp only
          split
          · exact hwait _ fun l' hl' => by cases hl'; rfl
          · exact hwait _ fun l' hl' => by cases hl'; rfl
      | deletingRoute h₀ =>
          cases hl
          exact hc.delete hp (hguard haccepted)
      | updatingOffline h₀ =>
          cases hl
          simp only
          split
          · exact hc.saveOffline hp rfl (hguard haccepted) hmarks hstores
          · exact hwait _ fun l' hl' => by cases hl'; rfl
      | findingOffline h₀ =>
          cases hl
          simp only
          split
          · exact hwait _ fun l' hl' => by cases hl'; rfl
          · exact hwait none fun _ h => absurd h (by simp)
      | savingOffline h₀ =>
          cases hl
          exact hc.saveOffline hp rfl (hguard haccepted) hmarks hstores
      | _ => exact absurd hl (by simp [AgentCall.disconnection])

/-- A step of a call. -/
theorem routeInvariant_resume {c : AgentConfig} {p : ℕ} {inp : AgentInput}
    (hc : RouteInvariant c) (hg : KeepsNewer c (.resume p inp)) :
    RouteInvariant (agentStep c (.resume p inp)) := by
  cases hp : c.pending p with
  | none =>
      rw [agentStep, step_resume_idle hp]
      exact hc
  | some l =>
      rw [agentStep, step_resume hp]
      cases l with
      | authenticating i s n rootAccess =>
          simp only [agentCalls, resumeAgentCall]
          split
          · exact hc.close hp fun r h => h.elim False.elim False.elim
          · exact hc.register hp
      | savingRootAccess r row =>
          refine routeInvariant_registered hc hp rfl fun row' hrow hinp => ?_
          cases hrow
          exact hg _ hp hinp
      | upsertingRoute r rootAccess | updatingOnline r rootAccess | findingOnline r rootAccess
      | savingOnline r rootAccess | markedOnline r rootAccess | findingRootAccess r
      | finishing r => exact routeInvariant_registered hc hp rfl fun row hrow => by cases hrow
      | readingRoute h | deletingRoute h | updatingOffline h | findingOffline h
      | savingOffline h => exact routeInvariant_disconnection hc hp rfl hg
      | routing i n event payload =>
          have hidle : ∀ w' : AgentWorld, w'.sockets = c.world.sockets →
              w'.nodes = c.world.nodes → w'.clearedBy = c.world.clearedBy →
              w'.closed = c.world.closed →
              RouteInvariant ⟨w', Function.update c.pending p none⟩ := by
            intro w' hsockets hnodes hcleared hclosed
            refine hc.quiet (hc.maps.of_sockets hsockets) (congrArg (·.2.2) hsockets) hnodes
              hcleared (fun x hx => hclosed ▸ hx) (fun _ h => absurd h (by simp))
              (fun n' l r hl hwrites _ => ?_) fun n' l r hl hwrites _ => ?_
            · obtain rfl := Option.some.inj (hp.symm.trans hl)
              exact hwrites.elim
            · obtain rfl := Option.some.inj (hp.symm.trans hl)
              exact hwrites.elim
          simp only [agentCalls, resumeAgentCall]
          split
          · exact hidle _ rfl rfl rfl rfl
          · split
            · exact hidle _ rfl rfl rfl rfl
            · split <;> exact hidle _ rfl rfl rfl rfl

/-- A disconnection that passes its check finds its socket the last one registered. -/
theorem checkSound_of_current {w : AgentWorld} (h : MapsSound w) {i : InstanceId} {s : SocketId}
    {session : AgentSocketSession} (hsession : w.socketToSession (i, s) = some session)
    (hcurrent : w.nodeToSocketId (i, session.nodeId) = some s) :
    CheckSound w ⟨i, s, session, w.registrations.length⟩ := by
  refine ⟨le_refl _, fun r hr hi hn _ => ?_⟩
  obtain ⟨k, hk, hlatest⟩ := h.current i session.nodeId s hcurrent
  have hle : k ≤ session.authenticatedAt :=
    (h.session i s session hsession).2.1 ⟨i, s, session.nodeId, k⟩ hk rfl rfl
  exact (hlatest r hr hi hn).trans hle

/-- A call starts. -/
theorem routeInvariant_invoke {c : AgentConfig} {p : ℕ} {req : AgentRequest} {inp : AgentInput}
    (hc : RouteInvariant c) : RouteInvariant (agentStep c (.invoke p req inp)) := by
  cases hp : c.pending p with
  | some l =>
      rw [agentStep, step_invoke_busy hp]
      exact hc
  | none =>
      have hmaps : MapsSound (agentStep c (.invoke p req inp)).world :=
        mapsSound_step c (.invoke p req inp) hc.maps
      have hfree : ∀ (writes : Registration → AgentCall → Prop) (w' : AgentWorld)
          (next : Option AgentCall) (n : Uuid), GoesOn writes c p w' next n :=
        fun writes w' next n l r hl => absurd (hp.symm.trans hl) (by simp)
      rw [agentStep, step_invoke hp] at hmaps ⊢
      have hstart : ∀ w' next, MapsSound w' → w'.registrations = c.world.registrations →
          w'.nodes = c.world.nodes → w'.clearedBy = c.world.clearedBy →
          (∀ x, c.world.closed x = true → w'.closed x = true) →
          (∀ l, next = some l → ∀ h ∈ l.disconnection, CheckSound c.world h) →
          RouteInvariant (⟨w', Function.update c.pending p next⟩ : AgentConfig) :=
        fun w' next hw' hregistrations hnodes hcleared hclosed hcheck =>
          hc.quiet hw' hregistrations hnodes hcleared hclosed hcheck
            (fun n => hfree _ _ _ n) fun n => hfree _ _ _ n
      cases req with
      | authenticateSocket i s n rootAccess =>
          refine hstart _ _ hmaps rfl rfl rfl (fun _ h => h) fun l hl h hh => ?_
          cases hl
          exact absurd hh (by simp [AgentCall.disconnection])
      | handleSocketDisconnect i s =>
          revert hmaps
          simp only [agentCalls, invokeAgentCall]
          split
          · exact fun hmaps => hstart _ _ hmaps rfl rfl rfl (close_closed c.world i s)
              fun _ h => absurd h (by simp)
          next session hsession =>
              split
              · exact fun hmaps => hstart _ _ hmaps rfl rfl rfl (close_closed c.world i s)
                  fun _ h => absurd h (by simp)
              next hcurrent =>
                  intro hmaps
                  refine hstart _ _ hmaps rfl rfl rfl (close_closed c.world i s)
                    fun l hl h hh => ?_
                  cases hl
                  cases hh
                  -- the check was made against the session that is current now
                  exact checkSound_of_current hc.maps hsession (not_not.mp hcurrent)
      | emitEventToNode i n event payload =>
          revert hmaps
          simp only [agentCalls, invokeAgentCall]
          split
          · exact fun hmaps => hstart _ _ hmaps rfl rfl rfl (fun _ h => h)
              fun _ h => absurd h (by simp)
          · intro hmaps
            refine hstart _ _ hmaps rfl rfl rfl (fun _ h => h) fun l hl h hh => ?_
            cases hl
            exact absurd hh (by simp [AgentCall.disconnection])
      | handleRoutedEventMessage i message =>
          have hend : ∀ w', MapsSound w' → w'.registrations = c.world.registrations →
              w'.nodes = c.world.nodes → w'.clearedBy = c.world.clearedBy →
              w'.closed = c.world.closed →
              RouteInvariant (⟨w', Function.update c.pending p none⟩ : AgentConfig) :=
            fun w' hw' hregistrations hnodes hcleared hclosed =>
              hstart w' none hw' hregistrations hnodes hcleared (fun x hx => hclosed ▸ hx)
                fun _ h => absurd h (by simp)
          revert hmaps
          simp only [agentCalls, invokeAgentCall]
          split
          · exact fun hmaps => hend _ hmaps rfl rfl rfl rfl
          · split
            · exact fun hmaps => hend _ hmaps rfl rfl rfl rfl
            · split
              · exact fun hmaps => hend _ hmaps rfl rfl rfl rfl
              · split <;> exact fun hmaps => hend _ hmaps rfl rfl rfl rfl

/-- **One event.** -/
theorem routeInvariant_step (c : AgentConfig) (e : AgentEvent) (hc : RouteInvariant c)
    (hg : KeepsNewer c e) : RouteInvariant (agentStep c e) := by
  cases e with
  | invoke p req inp => exact routeInvariant_invoke hc
  | resume p inp => exact routeInvariant_resume hc hg
  | env e => exact ⟨hc.maps.of_sockets rfl, hc.checks, hc.status, hc.route⟩

/-! ## The theorem -/

theorem routeInvariant_start (w : AgentWorld) :
    RouteInvariant (Config.idle (noDisconnections w)) where
  maps := (mapsSound_noSockets w).of_sockets rfl
  checks _ _ h := absurd h (by simp)
  status nodeId row number hrow _ hby := by
    obtain ⟨row', -, rfl⟩ := Option.map_eq_some_iff.mp hrow
    exact absurd hby (by simp)
  route _ _ h := absurd h (by simp [noDisconnections])

/-- When nothing is under way, no write is awaited. -/
theorem AwaitedSince.atRest {writes : Registration → AgentCall → Prop} {c : AgentConfig}
    {nodeId : Uuid} {number : ℕ} (h : AwaitedSince writes c nodeId number)
    (hidle : ∀ p, c.pending p = none) : NoneConnectedSince c.world nodeId number := by
  intro r hr hn hnewer
  rcases h r hr hn hnewer with hclosed | ⟨p, l, hp, -⟩
  · exact hclosed
  · exact absurd ((hidle p).symm.trans hp) (by simp)

/-- **A stale disconnection takes no node away from a connected socket**, in every run in which
no disconnection overtakes a socket that it cannot see. -/
theorem staleDisconnections_harmless (w : AgentWorld) (es : List AgentEvent)
    (hes : Along agentStep KeepsNewer (Config.idle (noDisconnections w)) es) :
    HarmlessAtRest (Config.idle (noDisconnections w)) es := by
  rintro es₁ es₂ rfl hidle nodeId
  have hinv : RouteInvariant (run agentStep (Config.idle (noDisconnections w)) es₁) :=
    inv_run routeInvariant_step (routeInvariant_start w) (along_append.mp hes).1
  constructor
  · intro row number hrow hoffline hby
    exact (hinv.status nodeId row number hrow hoffline hby).atRest hidle
  · intro number _ hby
    exact (hinv.route nodeId number hby).atRest hidle

/-! ## Two sockets of a node -/

/-- A node that is OFFLINE, and no sockets. -/
def oneNode : AgentWorld where
  nodes nodeId := if nodeId = "n" then some { status := .offline } else none

/-- A socket of the node authenticates on an instance, and another one later. -/
def reconnects (first second : InstanceId) : List AgentEvent :=
  .invoke 0 (.authenticateSocket first "a" "n" false) {} :: List.replicate 5 (.resume 0 {}) ++
    (.invoke 0 (.authenticateSocket second "b" "n" false) {} :: List.replicate 7 (.resume 0 {}))

/-- The first one disconnects. -/
def staleDisconnect (i : InstanceId) : List AgentEvent :=
  .invoke 0 (.handleSocketDisconnect i "a") {} :: List.replicate 2 (.resume 0 {})

theorem staleDisconnections_harmless_replaced :
    HarmlessAtRest (Config.idle (noDisconnections oneNode))
      (reconnects "A" "A" ++ staleDisconnect "A") :=
  staleDisconnections_harmless oneNode (reconnects "A" "A" ++ staleDisconnect "A") (by
    refine ⟨trivial, ?_, ?_, ?_, ?_, ?_, trivial, ?_, ?_, ?_, ?_, ?_, ?_, ?_, trivial, ?_, ?_,
      trivial⟩
    all_goals
      intro l hl _
      cases hl <;> trivial)

/-- **The node is OFFLINE with the second socket connected**, when that is on another
instance. -/
theorem staleDisconnect_marksOffline :
    ¬ HarmlessAtRest (Config.idle (noDisconnections oneNode))
      (reconnects "A" "B" ++ staleDisconnect "A") := by
  intro h
  have hharmless := h _ [] (List.append_nil _).symm (fun p => by
    match p with
    | 0 => rfl
    | p + 1 => rfl) "n"
  have hclosed := hharmless.status ⟨.offline, some 0⟩ 0 rfl rfl rfl ⟨"B", "b", "n", 1⟩
    (List.mem_of_elem_eq_true rfl) rfl (by decide)
  exact absurd hclosed (by decide)

end AgentRealtimeService
