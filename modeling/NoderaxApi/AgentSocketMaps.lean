/-
# The maps between nodes and sockets

An instance keeps the socket of each node and the session of each socket.  A socket that
authenticates again for another node leaves its entry for the first one behind; in every other
run the two maps are inverse to each other.
-/
import NoderaxApi.AgentSockets

open Runs Interleaving

namespace AgentRealtimeService

/-! ## What is claimed -/

/-- The registrations of an instance for a node are not more recent than a number. -/
def LatestFor (w : AgentWorld) (i : InstanceId) (nodeId : Uuid) (number : ℕ) : Prop :=
  ∀ r ∈ w.registrations, r.instanceId = i → r.nodeId = nodeId → r.number ≤ number

/-- **The maps are inverse to each other.** -/
structure MapsInverse (w : AgentWorld) : Prop where
  /-- The socket of a node is the one whose session is the latest of the node. -/
  current_iff : ∀ i n s, w.nodeToSocketId (i, n) = some s ↔
    ∃ session, w.socketToSession (i, s) = some session ∧ session.nodeId = n ∧
      LatestFor w i n session.authenticatedAt
  /-- Each message went to a socket with a session of the node that it was meant for. -/
  delivered : ∀ e ∈ w.emitted, e.session = some e.nodeId

/-- A socket that is registered has no session of another node. -/
def KeepsNode (w : AgentWorld) (l : AgentCall) (inp : AgentInput) : Prop :=
  match l with
  | .authenticating i s n _ => inp.rejects = false →
      ∀ session ∈ w.socketToSession (i, s), session.nodeId = n
  | _ => True

/-- Instances that have just started. -/
def noSockets (w : AgentWorld) : AgentWorld :=
  { w with
    nodeToSocketId := fun _ => none
    socketToSession := fun _ => none
    registrations := []
    emitted := [] }

/-! ## What always holds of the maps -/

/-- **The maps come from the registrations.** -/
structure MapsSound (w : AgentWorld) : Prop where
  numbered : ∀ r ∈ w.registrations, r.number < w.registrations.length
  /-- The socket of a node is the one that was registered last. -/
  current : ∀ i n s, w.nodeToSocketId (i, n) = some s →
    ∃ k, ⟨i, s, n, k⟩ ∈ w.registrations ∧ LatestFor w i n k
  /-- The session of a socket is from its last registration, and is the current one of its
  node. -/
  session : ∀ i s session, w.socketToSession (i, s) = some session →
    ⟨i, s, session.nodeId, session.authenticatedAt⟩ ∈ w.registrations ∧
      (∀ r ∈ w.registrations, r.instanceId = i → r.socketId = s →
        r.number ≤ session.authenticatedAt) ∧
      w.nodeToSocketId (i, session.nodeId) = some s

/-- The maps and the registrations. -/
def AgentWorld.sockets (w : AgentWorld) : (InstanceId × Uuid → Option SocketId) ×
    (InstanceId × SocketId → Option AgentSocketSession) × List Registration :=
  (w.nodeToSocketId, w.socketToSession, w.registrations)

theorem MapsSound.of_sockets {w w' : AgentWorld} (h : MapsSound w)
    (hw : w'.sockets = w.sockets) : MapsSound w' := by
  have hnodes : w'.nodeToSocketId = w.nodeToSocketId := congrArg (·.1) hw
  have hsessions : w'.socketToSession = w.socketToSession := congrArg (·.2.1) hw
  have hregistrations : w'.registrations = w.registrations := congrArg (·.2.2) hw
  constructor
  · rw [hregistrations]
    exact h.numbered
  · unfold LatestFor
    rw [hnodes, hregistrations]
    exact h.current
  · rw [hnodes, hsessions, hregistrations]
    exact h.session

/-! ### The writes leave the maps alone -/

theorem saveStatus_frame (w : AgentWorld) (nodeId : Uuid) (row : NodeStatusRow) :
    (w.saveStatus nodeId row).sockets = w.sockets ∧
      (w.saveStatus nodeId row).emitted = w.emitted := by
  unfold AgentWorld.saveStatus
  split
  · exact ⟨rfl, rfl⟩
  · split <;> exact ⟨rfl, rfl⟩

theorem deleteNodeRoute_frame (w : AgentWorld) (nodeId : Uuid) (number : ℕ) :
    (w.deleteNodeRoute nodeId number).sockets = w.sockets ∧
      (w.deleteNodeRoute nodeId number).emitted = w.emitted := by
  unfold AgentWorld.deleteNodeRoute
  split <;> exact ⟨rfl, rfl⟩

theorem resumeRegistered_frame (l : AgentCall) (r : Registration) (inp : AgentInput)
    (w : AgentWorld) : (resumeRegistered l r inp w).1.sockets = w.sockets ∧
      (resumeRegistered l r inp w).1.emitted = w.emitted := by
  unfold resumeRegistered
  split
  · exact ⟨rfl, rfl⟩
  · cases l with
    | updatingOnline r' rootAccess =>
        simp only
        split
        · exact saveStatus_frame w _ _
        · exact ⟨rfl, rfl⟩
    | savingOnline r' rootAccess => exact saveStatus_frame w _ _
    | savingRootAccess r' row => exact saveStatus_frame w _ _
    | findingOnline r' rootAccess =>
        simp only
        split <;> exact ⟨rfl, rfl⟩
    | findingRootAccess r' =>
        simp only
        split <;> exact ⟨rfl, rfl⟩
    | _ => exact ⟨rfl, rfl⟩

theorem resumeDisconnection_frame (l : AgentCall) (h : Disconnection) (inp : AgentInput)
    (w : AgentWorld) : (resumeDisconnection l h inp w).1.sockets = w.sockets ∧
      (resumeDisconnection l h inp w).1.emitted = w.emitted := by
  unfold resumeDisconnection
  split
  · exact ⟨rfl, rfl⟩
  · cases l with
    | readingRoute h' =>
        simp only
        split <;> exact ⟨rfl, rfl⟩
    | deletingRoute h' => exact deleteNodeRoute_frame w _ _
    | updatingOffline h' =>
        simp only
        split
        · exact saveStatus_frame w _ _
        · exact ⟨rfl, rfl⟩
    | findingOffline h' =>
        simp only
        split <;> exact ⟨rfl, rfl⟩
    | savingOffline h' => exact saveStatus_frame w _ _
    | _ => exact ⟨rfl, rfl⟩

/-- Only the first step of a call after `authenticateAgent` touches the maps. -/
theorem resumeAgentCall_frame {l : AgentCall} (inp : AgentInput) (w : AgentWorld)
    (hl : ∀ i s n rootAccess, l = .authenticating i s n rootAccess → inp.rejects = true) :
    (resumeAgentCall l inp w).1.sockets = w.sockets ∧
      (resumeAgentCall l inp w).1.emitted = w.emitted := by
  cases l with
  | authenticating i s n rootAccess =>
      have hrejects := hl i s n rootAccess rfl
      simp only [resumeAgentCall, hrejects, if_true]
      exact ⟨rfl, rfl⟩
  | upsertingRoute r rootAccess | updatingOnline r rootAccess | findingOnline r rootAccess
  | savingOnline r rootAccess | markedOnline r rootAccess | findingRootAccess r
  | savingRootAccess r row | finishing r => exact resumeRegistered_frame _ r inp w
  | readingRoute h | deletingRoute h | updatingOffline h | findingOffline h | savingOffline h =>
      exact resumeDisconnection_frame _ h inp w
  | routing i n event payload =>
      simp only [resumeAgentCall]
      split
      · exact ⟨rfl, rfl⟩
      · split
        · exact ⟨rfl, rfl⟩
        · split <;> exact ⟨rfl, rfl⟩

/-! ### The writes to the maps -/

theorem register_node (w : AgentWorld) (r : Registration) (i : InstanceId) (n : Uuid) :
    (w.register r).nodeToSocketId (i, n) =
      if i = r.instanceId ∧ n = r.nodeId then some r.socketId else w.nodeToSocketId (i, n) := by
  simp only [AgentWorld.register, Function.update_apply, Prod.mk.injEq]

theorem register_session (w : AgentWorld) (r : Registration) (i : InstanceId) (s : SocketId) :
    (w.register r).socketToSession (i, s) =
      if i = r.instanceId ∧ s = r.socketId then some ⟨r.nodeId, r.number⟩
      else if i = r.instanceId ∧ w.nodeToSocketId (i, r.nodeId) = some s then none
      else w.socketToSession (i, s) := by
  simp only [AgentWorld.register, Function.update_apply, Prod.mk.injEq]
  by_cases hself : i = r.instanceId ∧ s = r.socketId
  · rw [if_pos hself, if_pos hself]
  · rw [if_neg hself, if_neg hself]
    cases hprevious : w.nodeToSocketId (r.instanceId, r.nodeId) with
    | none =>
        have hfree : ¬ (i = r.instanceId ∧ w.nodeToSocketId (i, r.nodeId) = some s) := by
          rintro ⟨rfl, h⟩
          rw [hprevious] at h
          exact absurd h (by simp)
        rw [if_neg hfree, Option.filter_none]
    | some previous =>
        by_cases hreplaced : i = r.instanceId ∧ s = previous
        · obtain ⟨rfl, rfl⟩ := hreplaced
          have hne : s ≠ r.socketId := fun h => hself ⟨rfl, h⟩
          rw [if_pos ⟨rfl, hprevious⟩, Option.filter_some_pos (by simpa using hne)]
          simp
        · have hkept : ¬ (i = r.instanceId ∧ w.nodeToSocketId (i, r.nodeId) = some s) := by
            rintro ⟨rfl, h⟩
            rw [hprevious] at h
            exact hreplaced ⟨rfl, (Option.some.inj h).symm⟩
          rw [if_neg hkept]
          by_cases hsame : previous = r.socketId
          · rw [Option.filter_some_neg (by simpa using hsame)]
          · rw [Option.filter_some_pos (by simpa using hsame)]
            simp only [Function.update_apply, Prod.mk.injEq, if_neg hreplaced]

theorem latestFor_register {w : AgentWorld} {r : Registration} {i : InstanceId} {n : Uuid} {k : ℕ} :
    LatestFor (w.register r) i n k ↔
      LatestFor w i n k ∧ (r.instanceId = i → r.nodeId = n → r.number ≤ k) := by
  unfold LatestFor
  have hregistrations : (w.register r).registrations = w.registrations ++ [r] := rfl
  rw [hregistrations]
  constructor
  · intro h
    exact ⟨fun r' hr' => h r' (List.mem_append_left _ hr'),
      h r (List.mem_append_right _ (List.mem_singleton_self r))⟩
  · rintro ⟨hold, hnew⟩ r' hr'
    rcases List.mem_append.mp hr' with hr' | hr'
    · exact hold r' hr'
    · obtain rfl := List.mem_singleton.mp hr'
      exact hnew

/-- A socket is registered. -/
theorem MapsSound.register {w : AgentWorld} (h : MapsSound w) {r : Registration}
    (hr : r.number = w.registrations.length) : MapsSound (w.register r) := by
  have hregistrations : (w.register r).registrations = w.registrations ++ [r] := rfl
  have hself : r ∈ (w.register r).registrations :=
    List.mem_append_right _ (List.mem_singleton_self r)
  have hnewest : ∀ r' ∈ w.registrations, r'.number ≤ r.number := fun r' hr' =>
    ((h.numbered r' hr').trans_eq hr.symm).le
  constructor
  · intro r' hr'
    rw [hregistrations, List.length_append, List.length_singleton]
    rcases List.mem_append.mp hr' with hr' | hr'
    · exact (h.numbered r' hr').trans (Nat.lt_succ_self _)
    · obtain rfl := List.mem_singleton.mp hr'
      omega
  · intro i n s hs
    rw [register_node] at hs
    split at hs
    next hnode =>
        obtain ⟨rfl, rfl⟩ := hnode
        cases hs
        refine ⟨r.number, hself, latestFor_register.mpr ⟨?_, fun _ _ => le_refl _⟩⟩
        exact fun r' hr' _ _ => hnewest r' hr'
    next hnode =>
        obtain ⟨k, hk, hlatest⟩ := h.current i n s hs
        refine ⟨k, List.mem_append_left _ hk, latestFor_register.mpr ⟨hlatest, fun hi hn => ?_⟩⟩
        exact absurd ⟨hi.symm, hn.symm⟩ hnode
  · intro i s session hs
    rw [register_session] at hs
    split at hs
    next hsocket =>
        obtain ⟨rfl, rfl⟩ := hsocket
        cases hs
        refine ⟨hself, fun r' hr' _ _ => ?_, ?_⟩
        · rcases List.mem_append.mp hr' with hr' | hr'
          · exact hnewest r' hr'
          · obtain rfl := List.mem_singleton.mp hr'
            exact le_refl _
        · rw [register_node, if_pos ⟨rfl, rfl⟩]
    next hsocket =>
        split at hs
        · exact absurd hs (by simp)
        next hreplaced =>
            obtain ⟨hk, hlatest, hcurrent⟩ := h.session i s session hs
            refine ⟨List.mem_append_left _ hk, fun r' hr' hi hs' => ?_, ?_⟩
            · rcases List.mem_append.mp hr' with hr' | hr'
              · exact hlatest r' hr' hi hs'
              · obtain rfl := List.mem_singleton.mp hr'
                exact absurd ⟨hi.symm, hs'.symm⟩ hsocket
            · have hother : ¬ (i = r.instanceId ∧ session.nodeId = r.nodeId) := by
                rintro ⟨hi, hn⟩
                exact hreplaced ⟨hi, by rw [← hn]; exact hcurrent⟩
              rw [register_node, if_neg hother]
              exact hcurrent

/-- What a disconnection leaves of the maps. -/
theorem disconnect_maps (w : AgentWorld) (i : InstanceId) (s : SocketId) :
    let w' := (invokeAgentCall (.handleSocketDisconnect i s) w).1
    (∀ i' s', w'.socketToSession (i', s') =
        if i' = i ∧ s' = s then none else w.socketToSession (i', s')) ∧
      (∀ i' n, w'.nodeToSocketId (i', n) =
        if i' = i ∧ n ∈ (w.socketToSession (i, s)).map (·.nodeId) ∧
            w.nodeToSocketId (i, n) = some s then none
        else w.nodeToSocketId (i', n)) ∧
      w'.registrations = w.registrations ∧ w'.emitted = w.emitted := by
  simp only [invokeAgentCall, AgentWorld.close]
  cases hsession : w.socketToSession (i, s) with
  | none =>
      refine ⟨fun i' s' => ?_, fun i' n => by simp, rfl, rfl⟩
      by_cases hsocket : i' = i ∧ s' = s
      · rw [if_pos hsocket, hsocket.1, hsocket.2]
        exact hsession
      · rw [if_neg hsocket]
  | some session =>
      by_cases hcurrent : w.nodeToSocketId (i, session.nodeId) = some s
      · simp only [hcurrent, ne_eq, not_true_eq_false, if_false]
        refine ⟨fun i' s' => ?_, fun i' n => ?_, trivial, trivial⟩
        · simp only [Function.update_apply, Prod.mk.injEq]
        · simp only [Function.update_apply, Prod.mk.injEq, Option.map_some, Option.mem_some_iff]
          by_cases hnode : i' = i ∧ n = session.nodeId
          · rw [if_pos hnode, if_pos ⟨hnode.1, hnode.2.symm, by rw [hnode.2]; exact hcurrent⟩]
          · rw [if_neg hnode, if_neg fun h => hnode ⟨h.1, h.2.1.symm⟩]
      · simp only [hcurrent, ne_eq, not_false_eq_true, if_true]
        refine ⟨fun i' s' => ?_, fun i' n => ?_, trivial, trivial⟩
        · simp only [Function.update_apply, Prod.mk.injEq]
        · rw [if_neg]
          rintro ⟨-, hn, hs⟩
          obtain rfl : session.nodeId = n := by simpa using hn
          exact hcurrent hs

/-- A socket is disconnected. -/
theorem MapsSound.disconnect {w : AgentWorld} (h : MapsSound w) (i : InstanceId) (s : SocketId) :
    MapsSound (invokeAgentCall (.handleSocketDisconnect i s) w).1 := by
  obtain ⟨hsessions, hnodes, hregistrations, -⟩ := disconnect_maps w i s
  constructor
  · rw [hregistrations]
    exact h.numbered
  · intro i' n s' hs'
    rw [hnodes] at hs'
    unfold LatestFor
    rw [hregistrations]
    split at hs'
    · exact absurd hs' (by simp)
    · exact h.current i' n s' hs'
  · intro i' s' session hs'
    rw [hsessions] at hs'
    rw [hregistrations]
    split at hs'
    · exact absurd hs' (by simp)
    next hother =>
        obtain ⟨hk, hlatest, hcurrent⟩ := h.session i' s' session hs'
        refine ⟨hk, hlatest, ?_⟩
        rw [hnodes, if_neg]
        · exact hcurrent
        · rintro ⟨rfl, -, hs⟩
          have hsame : some s' = some s := hcurrent.symm.trans hs
          exact hother ⟨rfl, Option.some.inj hsame⟩

/-- **The maps come from the registrations**, in every reachable state. -/
theorem mapsSound_step (c : AgentConfig) (e : AgentEvent) (hc : MapsSound c.world) :
    MapsSound (agentStep c e).world := by
  cases e with
  | env e => exact hc.of_sockets rfl
  | invoke p req inp =>
      cases hp : c.pending p with
      | some l =>
          rw [agentStep, step_invoke_busy hp]
          exact hc
      | none =>
          rw [agentStep, step_invoke hp]
          cases req with
          | authenticateSocket i s n rootAccess => exact hc.of_sockets rfl
          | handleSocketDisconnect i s => exact hc.disconnect i s
          | emitEventToNode i n event payload =>
              refine hc.of_sockets ?_
              simp only [agentCalls, invokeAgentCall]
              split <;> rfl
          | handleRoutedEventMessage i message =>
              refine hc.of_sockets ?_
              simp only [agentCalls, invokeAgentCall]
              split
              · rfl
              · split
                · rfl
                · split
                  · rfl
                  · split <;> rfl
  | resume p inp =>
      cases hp : c.pending p with
      | none =>
          rw [agentStep, step_resume_idle hp]
          exact hc
      | some l =>
          rw [agentStep, step_resume hp]
          by_cases hauth : ∃ i s n rootAccess, l = .authenticating i s n rootAccess ∧
              inp.rejects = false
          · obtain ⟨i, s, n, rootAccess, rfl, hinp⟩ := hauth
            simp only [agentCalls, resumeAgentCall, hinp, Bool.false_eq_true, if_false]
            exact hc.register rfl
          · refine hc.of_sockets (resumeAgentCall_frame inp c.world ?_).1
            intro i s n rootAccess hl
            by_contra hinp
            exact hauth ⟨i, s, n, rootAccess, hl, by simpa using hinp⟩

theorem mapsSound_noSockets (w : AgentWorld) : MapsSound (noSockets w) where
  numbered r hr := absurd hr List.not_mem_nil
  current i n s h := absurd h (by simp [noSockets])
  session i s session h := absurd h (by simp [noSockets])

/-! ## When the maps are inverse -/

/-- The socket of a node has a session of the node. -/
def NoStaleEntry (w : AgentWorld) : Prop :=
  ∀ i n s, w.nodeToSocketId (i, n) = some s →
    ∃ session, w.socketToSession (i, s) = some session ∧ session.nodeId = n

/-- Only stale entries keep the maps from being inverse. -/
theorem MapsSound.mapsInverse_iff {w : AgentWorld} (h : MapsSound w) :
    MapsInverse w ↔ NoStaleEntry w ∧ ∀ e ∈ w.emitted, e.session = some e.nodeId := by
  constructor
  · intro hinverse
    refine ⟨fun i n s hs => ?_, hinverse.delivered⟩
    obtain ⟨session, hsession, hn, -⟩ := (hinverse.current_iff i n s).mp hs
    exact ⟨session, hsession, hn⟩
  · rintro ⟨hfresh, hdelivered⟩
    refine ⟨fun i n s => ⟨fun hs => ?_, ?_⟩, hdelivered⟩
    · obtain ⟨session, hsession, hn⟩ := hfresh i n s hs
      obtain ⟨k, hk, hlatest⟩ := h.current i n s hs
      have hle : k ≤ session.authenticatedAt :=
        (h.session i s session hsession).2.1 ⟨i, s, n, k⟩ hk rfl rfl
      exact ⟨session, hsession, hn, fun r hr hi hrn => (hlatest r hr hi hrn).trans hle⟩
    · rintro ⟨session, hsession, rfl, -⟩
      exact (h.session i s session hsession).2.2

theorem NoStaleEntry.of_sockets {w w' : AgentWorld} (h : NoStaleEntry w)
    (hw : w'.sockets = w.sockets) : NoStaleEntry w' := by
  have hnodes : w'.nodeToSocketId = w.nodeToSocketId := congrArg (·.1) hw
  have hsessions : w'.socketToSession = w.socketToSession := congrArg (·.2.1) hw
  unfold NoStaleEntry
  rw [hnodes, hsessions]
  exact h

/-- **A registration leaves no stale entry if and only if its socket has no session of another
node.** -/
theorem noStaleEntry_register {w : AgentWorld} (h : MapsSound w) (hfresh : NoStaleEntry w)
    (r : Registration) : NoStaleEntry (w.register r) ↔
      ∀ session ∈ w.socketToSession (r.instanceId, r.socketId), session.nodeId = r.nodeId := by
  constructor
  · intro hafter session hsession
    by_contra hne
    -- the entry of the old node still names the socket, whose session is of the new one
    have hstale : (w.register r).nodeToSocketId (r.instanceId, session.nodeId) =
        some r.socketId := by
      rw [register_node, if_neg fun hnode => hne hnode.2]
      exact (h.session _ _ session hsession).2.2
    obtain ⟨session', hsession', hn⟩ := hafter _ _ _ hstale
    rw [register_session, if_pos ⟨rfl, rfl⟩] at hsession'
    cases hsession'
    exact hne hn.symm
  · intro hkeeps i n s hs
    rw [register_node] at hs
    split at hs
    next hnode =>
        obtain ⟨rfl, rfl⟩ := hnode
        cases hs
        exact ⟨⟨r.nodeId, r.number⟩, by rw [register_session, if_pos ⟨rfl, rfl⟩], rfl⟩
    next hnode =>
        obtain ⟨session, hsession, rfl⟩ := hfresh i n s hs
        refine ⟨session, ?_, rfl⟩
        rw [register_session, if_neg, if_neg]
        · exact hsession
        · rintro ⟨rfl, hreplaced⟩
          obtain ⟨session', hsession', hn⟩ := hfresh _ _ s hreplaced
          rw [hsession] at hsession'
          cases hsession'
          exact hnode ⟨rfl, hn⟩
        · rintro ⟨rfl, rfl⟩
          exact hnode ⟨rfl, hkeeps session hsession⟩

/-- A disconnection leaves no stale entry. -/
theorem NoStaleEntry.disconnect {w : AgentWorld} (hfresh : NoStaleEntry w) (i : InstanceId)
    (s : SocketId) : NoStaleEntry (invokeAgentCall (.handleSocketDisconnect i s) w).1 := by
  obtain ⟨hsessions, hnodes, -, -⟩ := disconnect_maps w i s
  intro i' n s' hs'
  rw [hnodes] at hs'
  split at hs'
  · exact absurd hs' (by simp)
  next hkept =>
      obtain ⟨session, hsession, rfl⟩ := hfresh i' n s' hs'
      refine ⟨session, ?_, rfl⟩
      rw [hsessions, if_neg]
      · exact hsession
      · rintro ⟨rfl, rfl⟩
        exact hkept ⟨rfl, by rw [hsession]; simp, hs'⟩

/-- A message goes to a socket with a session of its node. -/
theorem MapsInverse.emit {w : AgentWorld} (h : MapsSound w) (hw : MapsInverse w)
    {i : InstanceId} {n : Uuid} {s : SocketId} (hs : w.nodeToSocketId (i, n) = some s)
    (event : String) (payload : JsonObject) : MapsInverse (w.emit i s n event payload) := by
  have hsockets : (w.emit i s n event payload).sockets = w.sockets := rfl
  obtain ⟨hfresh, hdelivered⟩ := h.mapsInverse_iff.mp hw
  refine (h.of_sockets hsockets).mapsInverse_iff.mpr ⟨hfresh.of_sockets hsockets, ?_⟩
  intro e he
  rcases List.mem_append.mp he with he | he
  · exact hdelivered e he
  · obtain rfl := List.mem_singleton.mp he
    obtain ⟨session, hsession, rfl⟩ := hfresh i n s hs
    simp only [hsession, Option.map_some]

/-- The beginning of a call keeps the maps inverse. -/
theorem MapsInverse.invoke {w : AgentWorld} (h : MapsSound w) (hw : MapsInverse w)
    (req : AgentRequest) : MapsInverse (invokeAgentCall req w).1 := by
  cases req with
  | authenticateSocket i s n rootAccess => exact hw
  | handleSocketDisconnect i s =>
      obtain ⟨hfresh, hdelivered⟩ := h.mapsInverse_iff.mp hw
      refine (h.disconnect i s).mapsInverse_iff.mpr ⟨hfresh.disconnect i s, ?_⟩
      rw [(disconnect_maps w i s).2.2.2]
      exact hdelivered
  | emitEventToNode i n event payload =>
      simp only [invokeAgentCall]
      split
      next s hs =>
          have hcurrent : w.nodeToSocketId (i, n) = some s := (Option.filter_eq_some_iff.mp hs).1
          exact hw.emit h hcurrent event payload
      next => exact hw
  | handleRoutedEventMessage i message =>
      simp only [invokeAgentCall]
      split
      · exact hw
      · split
        · exact hw
        next s hs =>
            split
            · exact hw
            · split
              · exact hw.emit h hs _ _
              · exact hw

/-- **A step of a call keeps the maps inverse if and only if it registers no socket with a
session of another node.** -/
theorem mapsInverse_resume {w : AgentWorld} (h : MapsSound w) (hw : MapsInverse w)
    (l : AgentCall) (inp : AgentInput) :
    MapsInverse (resumeAgentCall l inp w).1 ↔ KeepsNode w l inp := by
  obtain ⟨hfresh, hdelivered⟩ := h.mapsInverse_iff.mp hw
  by_cases hauth : ∃ i s n rootAccess, l = .authenticating i s n rootAccess ∧
      inp.rejects = false
  · obtain ⟨i, s, n, rootAccess, rfl, hinp⟩ := hauth
    simp only [resumeAgentCall, hinp, Bool.false_eq_true, if_false]
    have hregister := noStaleEntry_register h hfresh ⟨i, s, n, w.registrations.length⟩
    refine (h.register rfl).mapsInverse_iff.trans ⟨fun hafter _ => hregister.mp hafter.1, ?_⟩
    exact fun hkeeps => ⟨hregister.mpr (hkeeps hinp), hdelivered⟩
  · have hother : ∀ i s n rootAccess, l = .authenticating i s n rootAccess →
        inp.rejects = true := by
      intro i s n rootAccess hl
      by_contra hinp
      exact hauth ⟨i, s, n, rootAccess, hl, by simpa using hinp⟩
    obtain ⟨hsockets, hemitted⟩ := resumeAgentCall_frame inp w hother
    refine iff_of_true ?_ ?_
    · refine (h.of_sockets hsockets).mapsInverse_iff.mpr ⟨hfresh.of_sockets hsockets, ?_⟩
      rw [hemitted]
      exact hdelivered
    · unfold KeepsNode
      split
      next i s n rootAccess =>
          exact fun hinp => absurd (hother i s n rootAccess rfl) (by simp [hinp])
      next => trivial

/-- **The maps are inverse in exactly the runs in which no socket that has a session of one node
is registered for another.** -/
theorem mapsInverse_iff_keepsNode (w : AgentWorld) (es : List AgentEvent) :
    (∀ es₁ es₂, es = es₁ ++ es₂ →
        MapsInverse (run agentStep (Config.idle (noSockets w)) es₁).world) ↔
      Along agentStep (ResumeGuard KeepsNode) (Config.idle (noSockets w)) es := by
  have hstart : MapsInverse (noSockets w) := by
    refine (mapsSound_noSockets w).mapsInverse_iff.mpr ⟨fun i n s h => ?_, fun e he => ?_⟩
    · exact absurd h (by simp [noSockets])
    · exact absurd he List.not_mem_nil
  refine prefixes_iff_along (A := fun c => MapsSound c.world)
    (I := fun c => MapsInverse c.world) (s := Config.idle (noSockets w))
    (fun c e hc _ _ => mapsSound_step c e hc) (fun c e hc hI => ?_) (mapsSound_noSockets w) hstart
  exact world_step_iff hI (fun req _ => iff_of_true (hI.invoke hc req) trivial)
    (fun l inp => mapsInverse_resume hc hI l inp)
    (fun e => iff_of_true ⟨hI.current_iff, hI.delivered⟩ trivial) e

/-! ## A socket that changes its node -/

/-- A socket authenticates for a node and then for another, and a task of the first node is
dispatched. -/
def changesNode : List AgentEvent :=
  [.invoke 0 (.authenticateSocket "A" "k" "n1" false) {}, .resume 0 {},
    .invoke 1 (.authenticateSocket "A" "k" "n2" false) {}, .resume 1 {},
    .invoke 2 (.emitEventToNode "A" "n1" "task.dispatch" []) {}]

/-- **The task goes to a socket whose session is of the other node.** -/
theorem changesNode_delivers : ¬ ∀ es₁ es₂, changesNode = es₁ ++ es₂ →
    MapsInverse (run agentStep (Config.idle (noSockets {})) es₁).world := by
  intro h
  have hdelivered := (h changesNode [] (List.append_nil _).symm).delivered
  exact absurd (hdelivered ⟨"A", "k", "n1", "task.dispatch", [], some "n2"⟩
    (List.mem_singleton_self _)) (by decide)

end AgentRealtimeService
