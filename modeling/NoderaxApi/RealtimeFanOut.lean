/-
# Fan-out of realtime events over the API instances

A producer writes the payload of a `task.created`, `task.updated` or
`event.created` event to the outbox, stamped with its own instance id.  Whichever
instance dispatches the event emits the payload to its own websocket clients and
publishes it unchanged.  The bridge of every instance drops a message stamped
with its own id and emits all others.

So the instance that must not emit twice is the dispatcher, but the one whose
bridge stays silent is the producer.  And a gateway emits to the room of the node
and then to the room of the workspace, so a client in both is sent an event twice.
-/
import NoderaxApi.Runs
import NoderaxApi.Common
import Mathlib.Data.List.Nodup
import Mathlib.Data.List.Perm.Basic

namespace RealtimeFanOut

open Runs

/-! ## Payloads -/

/-- An instance id: `RedisService.instanceId`. -/
abbrev InstanceId := String

/-- The outbox events that are fanned out. -/
inductive RealtimeKind
  | taskCreated
  | taskUpdated
  | eventCreated
  deriving DecidableEq, Repr

/-- The outbox type of an event, which is also its websocket event name. -/
def RealtimeKind.type : RealtimeKind → String
  | .taskCreated => "task.created"
  | .taskUpdated => "task.updated"
  | .eventCreated => "event.created"

/-- The field of the outbox payload that holds the realtime payload. -/
def RealtimeKind.field : RealtimeKind → String
  | .taskCreated | .taskUpdated => "task"
  | .eventCreated => "event"

/-- The outbox payload a producer enqueues (`queueTask`, `publishTaskUpdated`,
`EventsService.record`): the row, stamped with the producer's instance id. -/
def enqueuedPayload (kind : RealtimeKind) (enqueuer : InstanceId) (row : JsonObject) : JsonObject :=
  [(kind.field, .obj (row.set "sourceInstanceId" (.str enqueuer)))]

/-- `asPayload`. -/
def asPayload : Option Json → JsonObject
  | some (.obj fields) => fields
  | _ => []

/-- The instance id a payload is stamped with. -/
def sourceOf (payload : JsonObject) : Option InstanceId := payload.string? "sourceInstanceId"

/-! ## The gateway -/

/-- `withRealtimeMeta`, with the gateway's sequence counter.  It writes into the
payload it is given. -/
def withRealtimeMeta (sequence : ℕ) (payload : JsonObject) : ℕ × JsonObject :=
  let (sequence, payload) :=
    match payload.get "sequence" with
    | some (.num _) => (sequence, payload)
    | _ => (sequence + 1, payload.set "sequence" (.num (sequence + 1)))
  let sourceInstance := (payload.string? "sourceInstance").or (sourceOf payload)
  let payload :=
    match sourceInstance with
    | none | some "" => payload
    | some source => payload.set "sourceInstance" (.str source)
  let metadata := (asPayload (payload.get "meta")).set "sequence"
    ((payload.get "sequence").getD .null)
  (sequence, payload.set "meta"
    (.obj (metadata.set "sourceInstance" (Json.ofString? sourceInstance))))

/-- The room a payload's node or workspace field names. -/
def roomOf (roomPrefix field : String) (payload : JsonObject) : Option String :=
  match payload.string? field with
  | none | some "" => none
  | some id => some (roomPrefix ++ id)

/-- `emitToNodeRoom` and `emitToWorkspaceRoom` differ in the field and the room. -/
def emitToRoom (roomPrefix field : String) (sequence : ℕ) (payload : JsonObject) :
    ℕ × JsonObject × List String :=
  match roomOf roomPrefix field payload with
  | none => (sequence, payload, [])
  | some room =>
      let marked := withRealtimeMeta sequence payload
      (marked.1, marked.2, [room])

/-- `emitTaskCreated`, `emitTaskUpdated` and `emitEventCreated`: the counter, the
payload as left behind, and the rooms the event went to. -/
def emit (sequence : ℕ) (payload : JsonObject) : ℕ × JsonObject × List String :=
  let toNode := emitToRoom "node:" "nodeId" sequence payload
  let toWorkspace := emitToRoom "workspace:" "workspaceId" toNode.1 toNode.2.1
  (toWorkspace.1, toWorkspace.2.1, toNode.2.2 ++ toWorkspace.2.2)

/-- The rooms of an event: of its node and of its workspace. -/
def roomsOf (payload : JsonObject) : List String :=
  (roomOf "node:" "nodeId" payload).toList ++ (roomOf "workspace:" "workspaceId" payload).toList

/-! Emitting a payload changes neither its stamp nor its rooms. -/

theorem string?_set {payload : JsonObject} {key key' : String} {value : Json} (h : key ≠ key') :
    (payload.set key value).string? key' = payload.string? key' := by
  unfold JsonObject.string?
  rw [JsonObject.get_set_of_ne _ _ (Ne.symm h)]

theorem string?_withRealtimeMeta (sequence : ℕ) (payload : JsonObject) {key : String}
    (hsequence : "sequence" ≠ key) (hsource : "sourceInstance" ≠ key) (hmeta : "meta" ≠ key) :
    (withRealtimeMeta sequence payload).2.string? key = payload.string? key := by
  have hmarked : ∀ (p : JsonObject) (source : Option String),
      (match source with
        | none | some "" => p
        | some source => p.set "sourceInstance" (.str source)).string? key = p.string? key := by
    intro p source
    split
    · rfl
    · rfl
    · exact string?_set hsource
  unfold withRealtimeMeta
  split
  simp only
  rw [string?_set hmeta, hmarked]
  next heq =>
    split at heq
    · rw [(Prod.mk.inj heq).2]
    · rw [← (Prod.mk.inj heq).2, string?_set hsequence]

theorem sourceOf_emitToRoom (roomPrefix field : String) (sequence : ℕ) (payload : JsonObject) :
    sourceOf (emitToRoom roomPrefix field sequence payload).2.1 = sourceOf payload := by
  unfold emitToRoom
  split
  · rfl
  · exact string?_withRealtimeMeta sequence payload (by decide) (by decide) (by decide)

theorem sourceOf_emit (sequence : ℕ) (payload : JsonObject) :
    sourceOf (emit sequence payload).2.1 = sourceOf payload := by
  simp only [emit]
  rw [sourceOf_emitToRoom, sourceOf_emitToRoom]

theorem roomOf_emitToRoom (roomPrefix field : String) (sequence : ℕ) (payload : JsonObject)
    {roomPrefix' field' : String} (hfield : field' ∈ ["nodeId", "workspaceId"]) :
    roomOf roomPrefix' field' (emitToRoom roomPrefix field sequence payload).2.1 =
      roomOf roomPrefix' field' payload := by
  unfold emitToRoom
  split
  · rfl
  · have hne : "sequence" ≠ field' ∧ "sourceInstance" ≠ field' ∧ "meta" ≠ field' := by
      simp only [List.mem_cons, List.not_mem_nil, or_false] at hfield
      rcases hfield with rfl | rfl <;> decide
    simp only [roomOf]
    rw [string?_withRealtimeMeta sequence payload hne.1 hne.2.1 hne.2.2]

theorem roomsOf_emit (sequence : ℕ) (payload : JsonObject) :
    roomsOf (emit sequence payload).2.1 = roomsOf payload := by
  have hnode : "nodeId" ∈ ["nodeId", "workspaceId"] := by decide
  have hworkspace : "workspaceId" ∈ ["nodeId", "workspaceId"] := by decide
  simp only [emit, roomsOf]
  rw [roomOf_emitToRoom _ _ _ _ hnode, roomOf_emitToRoom _ _ _ _ hnode,
    roomOf_emitToRoom _ _ _ _ hworkspace, roomOf_emitToRoom _ _ _ _ hworkspace]

/-- An event goes to the rooms of its payload. -/
theorem rooms_emit (sequence : ℕ) (payload : JsonObject) :
    (emit sequence payload).2.2 = roomsOf payload := by
  have hrooms : ∀ roomPrefix field sequence payload,
      (emitToRoom roomPrefix field sequence payload).2.2 =
        (roomOf roomPrefix field payload).toList := by
    intro roomPrefix field sequence payload
    unfold emitToRoom
    split
    next hnone => rw [hnone, Option.toList_none]
    next room hroom => rw [hroom, Option.toList_some]
  simp only [emit, roomsOf]
  rw [hrooms, hrooms, roomOf_emitToRoom _ _ _ _ (by decide)]

theorem sourceOf_enqueuedPayload (kind : RealtimeKind) (enqueuer : InstanceId) (row : JsonObject) :
    sourceOf (asPayload ((enqueuedPayload kind enqueuer row).get kind.field)) = some enqueuer := by
  have hget : (enqueuedPayload kind enqueuer row).get kind.field
      = some (.obj (row.set "sourceInstanceId" (.str enqueuer))) := by
    simp [enqueuedPayload, JsonObject.get]
  rw [hget]
  simp only [asPayload, sourceOf, JsonObject.string?, JsonObject.get_set_self]

/-! ## The system -/

/-- The instances connected through the pub/sub channel. -/
structure Cluster where
  instances : List InstanceId
  distinct : instances.Nodup

/-- An outbox event that waits for its dispatch. -/
structure OutboxMessage where
  outboxId : Uuid
  kind : RealtimeKind
  enqueuer : InstanceId
  payload : JsonObject

/-- A published message on its way to one subscriber.  Each kind has its channel,
and the bridge subscribes one forward function to each.  The outbox id is not part
of the message; it says which event the message stems from. -/
structure PubsubMessage where
  outboxId : Uuid
  receiver : InstanceId
  kind : RealtimeKind
  payload : JsonObject

/-- A client of an instance: a socket that is connected to it. -/
abbrev ClientId := String

/-- One event a gateway emitted to the rooms of the event, and the clients it was sent to: those
in the first of the rooms, then those in the next. -/
structure Emission where
  outboxId : Uuid
  emitter : InstanceId
  eventName : String
  receivers : List ClientId

/-- Who enqueued a dispatched event, and whose worker dispatched it. -/
structure DispatchRecord where
  outboxId : Uuid
  enqueuer : InstanceId
  dispatcher : InstanceId

/-- The outbox, the channel, the gateways with the clients in each room, and the dispatches that
have happened. -/
structure FanOut where
  outbox : List OutboxMessage := []
  inFlight : List PubsubMessage := []
  sequences : InstanceId → ℕ := fun _ => 0
  members : InstanceId → String → List ClientId := fun _ _ => []
  emissions : List Emission := []
  dispatches : List DispatchRecord := []

/-- What happens next: an instance enqueues a row, an instance's worker dispatches
a waiting event, the channel delivers the message at a position, or a client of an
instance joins or leaves a room. -/
inductive FanOutEvent
  | enqueue (enqueuer : InstanceId) (kind : RealtimeKind) (outboxId : Uuid) (row : JsonObject)
  | dispatch (dispatcher : InstanceId) (outboxId : Uuid)
  | deliver (position : ℕ)
  | join (instanceId : InstanceId) (room : String) (client : ClientId)
  | leave (instanceId : InstanceId) (room : String) (client : ClientId)

/-- The gateway of `emitter` emits a payload. -/
def FanOut.emit (s : FanOut) (emitter : InstanceId) (outboxId : Uuid) (eventName : String)
    (payload : JsonObject) : FanOut × JsonObject :=
  let emitted := RealtimeFanOut.emit (s.sequences emitter) payload
  ({ s with
      sequences := Function.update s.sequences emitter emitted.1
      emissions :=
        ⟨outboxId, emitter, eventName, emitted.2.2.flatMap (s.members emitter)⟩ :: s.emissions },
    emitted.2.1)

/-- The clients of a room. -/
def FanOut.setRoom (s : FanOut) (i : InstanceId) (room : String) (clients : List ClientId) :
    FanOut :=
  { s with members := fun i' room' =>
      if i' = i ∧ room' = room then clients else s.members i' room' }

/-- An event id that is in use. -/
def FanOut.isUsed (s : FanOut) (outboxId : Uuid) : Bool :=
  s.outbox.any (fun m => m.outboxId = outboxId) || s.dispatches.any fun r => r.outboxId = outboxId

/-- `dispatchTaskCreated`, `dispatchTaskUpdated` and the first two effects of
`dispatchCreatedEvent`: emit, then publish the same payload. -/
def dispatchMessage (cluster : Cluster) (dispatcher : InstanceId) (m : OutboxMessage)
    (s : FanOut) : FanOut :=
  let emitted := s.emit dispatcher m.outboxId m.kind.type (asPayload (m.payload.get m.kind.field))
  { emitted.1 with
    outbox := s.outbox.filter fun m' => m'.outboxId ≠ m.outboxId
    inFlight := s.inFlight ++ cluster.instances.map fun receiver =>
      ⟨m.outboxId, receiver, m.kind, emitted.2⟩
    dispatches := ⟨m.outboxId, m.enqueuer, dispatcher⟩ :: s.dispatches }

/-- `isSameInstance`. -/
def isSameInstance (payload : JsonObject) (instanceId : InstanceId) : Bool :=
  sourceOf payload = some instanceId

/-- `forwardTaskCreated`, `forwardTaskUpdated` and `forwardEventCreated`. -/
def forward (m : PubsubMessage) (s : FanOut) : FanOut :=
  if isSameInstance m.payload m.receiver then s
  else (s.emit m.receiver m.outboxId m.kind.type m.payload).1

/-- One step of the cluster. -/
def step (cluster : Cluster) (s : FanOut) : FanOutEvent → FanOut
  | .enqueue enqueuer kind outboxId row =>
      if s.isUsed outboxId ∨ enqueuer ∉ cluster.instances then s
      else { s with
        outbox := s.outbox ++ [⟨outboxId, kind, enqueuer, enqueuedPayload kind enqueuer row⟩] }
  | .dispatch dispatcher outboxId =>
      match s.outbox.find? fun m => m.outboxId = outboxId with
      | none => s
      | some m =>
          if dispatcher ∈ cluster.instances then dispatchMessage cluster dispatcher m s else s
  | .deliver position =>
      match s.inFlight[position]? with
      | none => s
      | some m => forward m { s with inFlight := s.inFlight.eraseIdx position }
  | .join i room client =>
      if client ∈ s.members i room then s else s.setRoom i room (client :: s.members i room)
  | .leave i room client => s.setRoom i room ((s.members i room).filter (· ≠ client))

/-! ## Counting -/

/-- How often a client of an instance was sent an event. -/
def FanOut.received (s : FanOut) (i : InstanceId) (client : ClientId) (outboxId : Uuid) : ℕ :=
  ((s.emissions.filter fun e => e.emitter = i ∧ e.outboxId = outboxId).map fun e =>
    e.receivers.count client).sum

/-- How often the gateway of an instance emitted an event. -/
def FanOut.emitted (s : FanOut) (i : InstanceId) (outboxId : Uuid) : ℕ :=
  s.emissions.countP fun e => e.emitter = i ∧ e.outboxId = outboxId

/-- How many messages of an event are on their way to an instance. -/
def FanOut.pending (s : FanOut) (i : InstanceId) (outboxId : Uuid) : ℕ :=
  s.inFlight.countP fun m => m.receiver = i ∧ m.outboxId = outboxId

/-- The emissions and pending messages of a dispatched event, per instance: one
emission by the dispatcher's own worker, and one, made or still to be made, by
every bridge but the producer's. -/
def Balanced (cluster : Cluster) (s : FanOut) (r : DispatchRecord) : Prop :=
  ∀ i ∈ cluster.instances,
    s.emitted i r.outboxId + (if i = r.enqueuer then 0 else s.pending i r.outboxId)
      = (if i = r.dispatcher then 1 else 0) + (if i = r.enqueuer then 0 else 1)

/-- The invariant of the cluster. -/
structure FanOutInv (cluster : Cluster) (s : FanOut) : Prop where
  balanced : ∀ r ∈ s.dispatches, Balanced cluster s r
  -- an event that was not dispatched has left no trace
  untouched : ∀ id, id ∉ s.dispatches.map (·.outboxId) →
    (∀ i, s.emitted i id = 0) ∧ ∀ m ∈ s.inFlight, m.outboxId ≠ id
  fresh : ∀ m ∈ s.outbox, m.outboxId ∉ s.dispatches.map (·.outboxId)
  stamped : ∀ m ∈ s.outbox, sourceOf (asPayload (m.payload.get m.kind.field)) = some m.enqueuer
  members : ∀ m ∈ s.outbox, m.enqueuer ∈ cluster.instances
  -- a message on its way carries the stamp of its producer
  carried : ∀ m ∈ s.inFlight, ∀ r ∈ s.dispatches, r.outboxId = m.outboxId →
    sourceOf m.payload = some r.enqueuer
  joined : ∀ r ∈ s.dispatches, r.enqueuer ∈ cluster.instances ∧ r.dispatcher ∈ cluster.instances
  unique : (s.dispatches.map (·.outboxId)).Nodup
  -- a client is in a room or not
  distinct : ∀ i room, (s.members i room).Nodup

/-! ## One step -/

@[simp] theorem emit_inFlight (s : FanOut) (i : InstanceId) (id : Uuid) (name : String)
    (payload : JsonObject) : (s.emit i id name payload).1.inFlight = s.inFlight := rfl

theorem emitted_emit (s : FanOut) (e : InstanceId) (id : Uuid) (name : String)
    (payload : JsonObject) (i : InstanceId) (id' : Uuid) :
    (s.emit e id name payload).1.emitted i id'
      = s.emitted i id' + if e = i ∧ id = id' then 1 else 0 := by
  simp only [FanOut.emitted, FanOut.emit, List.countP_cons, decide_eq_true_eq]

theorem inv_init (cluster : Cluster) : FanOutInv cluster {} := by
  constructor <;> simp [FanOut.emitted]

theorem inv_enqueue {cluster : Cluster} {s : FanOut} (h : FanOutInv cluster s)
    (enqueuer : InstanceId) (kind : RealtimeKind) (outboxId : Uuid) (row : JsonObject) :
    FanOutInv cluster (step cluster s (.enqueue enqueuer kind outboxId row)) := by
  simp only [step]
  split
  · exact h
  · next hok =>
      rw [not_or, not_not] at hok
      obtain ⟨hunused, hmember⟩ := hok
      rw [FanOut.isUsed, Bool.or_eq_true, not_or] at hunused
      refine { h with fresh := ?_, stamped := ?_, members := ?_ }
      · intro m hm
        rcases List.mem_append.mp hm with hold | hnew
        · exact h.fresh m hold
        · rw [List.mem_singleton.mp hnew]
          intro hmem
          obtain ⟨r, hr, hid⟩ := List.mem_map.mp hmem
          exact hunused.2 (List.any_eq_true.mpr ⟨r, hr, decide_eq_true hid⟩)
      · intro m hm
        rcases List.mem_append.mp hm with hold | hnew
        · exact h.stamped m hold
        · rw [List.mem_singleton.mp hnew]
          exact sourceOf_enqueuedPayload kind enqueuer row
      · intro m hm
        rcases List.mem_append.mp hm with hold | hnew
        · exact h.members m hold
        · rw [List.mem_singleton.mp hnew]
          exact hmember

/-- The messages of one publication: one for each instance. -/
theorem countP_published {cluster : Cluster} (id : Uuid) (kind : RealtimeKind)
    (payload : JsonObject) {i : InstanceId} (hi : i ∈ cluster.instances) (id' : Uuid) :
    (cluster.instances.map fun receiver =>
        (⟨id, receiver, kind, payload⟩ : PubsubMessage)).countP
          (fun m => m.receiver = i ∧ m.outboxId = id')
      = if id = id' then 1 else 0 := by
  rw [List.countP_map]
  by_cases hid : id = id'
  · have hone := List.count_eq_one_of_mem cluster.distinct hi
    rw [if_pos hid, ← hone, List.count]
    refine List.countP_congr fun receiver _ => ?_
    simp [hid]
  · rw [if_neg hid, List.countP_eq_zero]
    intro receiver _
    simp [hid]

theorem inv_dispatch {cluster : Cluster} {s : FanOut} (h : FanOutInv cluster s)
    {dispatcher : InstanceId} (hdispatcher : dispatcher ∈ cluster.instances) {m : OutboxMessage}
    (hm : m ∈ s.outbox) : FanOutInv cluster (dispatchMessage cluster dispatcher m s) := by
  have hnew : m.outboxId ∉ s.dispatches.map (·.outboxId) := h.fresh m hm
  obtain ⟨hunsent, hunpublished⟩ := h.untouched m.outboxId hnew
  have hother : ∀ r ∈ s.dispatches, r.outboxId ≠ m.outboxId := by
    intro r hr heq
    exact hnew (heq ▸ List.mem_map_of_mem hr)
  -- what the dispatch adds to the counts of an event
  have hemitted : ∀ i id, (dispatchMessage cluster dispatcher m s).emitted i id
      = s.emitted i id + if dispatcher = i ∧ m.outboxId = id then 1 else 0 := by
    intro i id
    exact emitted_emit s dispatcher m.outboxId m.kind.type _ i id
  have hpending : ∀ i ∈ cluster.instances, ∀ id,
      (dispatchMessage cluster dispatcher m s).pending i id
        = s.pending i id + if m.outboxId = id then 1 else 0 := by
    intro i hi id
    simp only [dispatchMessage, FanOut.pending, List.countP_append]
    rw [countP_published m.outboxId m.kind _ hi id]
  constructor
  · intro r hr i hi
    rcases List.mem_cons.mp hr with rfl | hold
    · have hnone : s.pending i m.outboxId = 0 := by
        rw [FanOut.pending, List.countP_eq_zero]
        intro m' hm'
        simp [hunpublished m' hm']
      rw [hemitted, hpending i hi, hunsent i, hnone]
      by_cases hd : dispatcher = i
      · simp [hd]
      · simp [hd, Ne.symm hd]
    · have hne : m.outboxId ≠ r.outboxId := Ne.symm (hother r hold)
      rw [hemitted, hpending i hi, if_neg hne, if_neg (fun hboth => hne hboth.2)]
      exact h.balanced r hold i hi
  · intro id hid
    obtain ⟨hne, hold⟩ := not_or.mp fun hor => hid (List.mem_cons.mpr hor)
    obtain ⟨hnone, hflight⟩ := h.untouched id hold
    constructor
    · intro i
      rw [hemitted, hnone i, if_neg (fun hboth => hne hboth.2.symm)]
    · intro m' hm'
      rcases List.mem_append.mp hm' with hm' | hm'
      · exact hflight m' hm'
      · obtain ⟨receiver, _, rfl⟩ := List.mem_map.mp hm'
        exact Ne.symm hne
  · intro m' hm'
    obtain ⟨hmem, hne⟩ := List.mem_filter.mp hm'
    intro hin
    rcases List.mem_cons.mp hin with heq | hold
    · exact of_decide_eq_true hne heq
    · exact h.fresh m' hmem hold
  · intro m' hm'
    exact h.stamped m' (List.mem_filter.mp hm').1
  · intro m' hm'
    exact h.members m' (List.mem_filter.mp hm').1
  · intro m' hm' r hr heq
    rcases List.mem_append.mp hm' with hm' | hm'
    · rcases List.mem_cons.mp hr with rfl | hold
      · exact absurd heq.symm (hunpublished m' hm')
      · exact h.carried m' hm' r hold heq
    · obtain ⟨receiver, _, rfl⟩ := List.mem_map.mp hm'
      rcases List.mem_cons.mp hr with rfl | hold
      · -- the gateway leaves the producer's stamp in the payload it hands on
        exact (sourceOf_emit _ _).trans (h.stamped m hm)
      · exact absurd heq (hother r hold)
  · intro r hr
    rcases List.mem_cons.mp hr with rfl | hold
    · exact ⟨h.members m hm, hdispatcher⟩
    · exact h.joined r hold
  · exact List.nodup_cons.mpr ⟨hnew, h.unique⟩
  · exact h.distinct

/-- A record of a dispatch is determined by its event. -/
theorem FanOutInv.eq_of_outboxId {cluster : Cluster} {s : FanOut} (h : FanOutInv cluster s)
    {r r' : DispatchRecord} (hr : r ∈ s.dispatches) (hr' : r' ∈ s.dispatches)
    (heq : r.outboxId = r'.outboxId) : r = r' :=
  List.inj_on_of_nodup_map h.unique hr hr' heq

theorem inv_deliver {cluster : Cluster} {s : FanOut} (h : FanOutInv cluster s) {position : ℕ}
    {m : PubsubMessage} (hm : s.inFlight[position]? = some m) :
    FanOutInv cluster (forward m { s with inFlight := s.inFlight.eraseIdx position }) := by
  obtain ⟨hlt, hget⟩ := List.getElem?_eq_some_iff.mp hm
  have hperm : (m :: s.inFlight.eraseIdx position).Perm s.inFlight := by
    have hperm := List.getElem_cons_eraseIdx_perm hlt
    rwa [hget] at hperm
  have hmem : m ∈ s.inFlight := hperm.mem_iff.mp List.mem_cons_self
  have hrest : ∀ m' ∈ s.inFlight.eraseIdx position, m' ∈ s.inFlight := fun m' hm' =>
    hperm.mem_iff.mp (List.mem_cons_of_mem m hm')
  -- the message belongs to a dispatched event, whose producer stamped it
  obtain ⟨r, hr, hid⟩ : ∃ r ∈ s.dispatches, r.outboxId = m.outboxId := by
    by_contra hnone
    have hnot : m.outboxId ∉ s.dispatches.map (·.outboxId) := by
      intro hin
      obtain ⟨r, hr, hid⟩ := List.mem_map.mp hin
      exact hnone ⟨r, hr, hid⟩
    exact (h.untouched m.outboxId hnot).2 m hmem rfl
  have hstamp : sourceOf m.payload = some r.enqueuer := h.carried m hmem r hr hid
  have hpending : ∀ i id, s.pending i id
      = (s.inFlight.eraseIdx position).countP (fun m' => m'.receiver = i ∧ m'.outboxId = id)
        + if m.receiver = i ∧ m.outboxId = id then 1 else 0 := by
    intro i id
    rw [FanOut.pending, ← hperm.countP_eq, List.countP_cons]
    simp only [decide_eq_true_eq]
  by_cases hsame : isSameInstance m.payload m.receiver = true
  · -- the producer's own bridge drops the message
    have hreceiver : m.receiver = r.enqueuer := by
      rw [isSameInstance, hstamp] at hsame
      exact (Option.some.inj (of_decide_eq_true hsame)).symm
    rw [forward, if_pos hsame]
    refine { h with balanced := ?_, untouched := ?_, carried := ?_ }
    · intro r' hr' i hi
      have hold := h.balanced r' hr' i hi
      by_cases hi' : i = r'.enqueuer
      · simp only [hi', if_true] at hold ⊢
        exact hold
      · have hnot : ¬(m.receiver = i ∧ m.outboxId = r'.outboxId) := by
          rintro ⟨hrec, hout⟩
          have hrr := h.eq_of_outboxId hr hr' (hid.trans hout)
          exact hi' (by rw [← hrec, hreceiver, hrr])
        rw [hpending, if_neg hnot] at hold
        exact hold
    · intro id hnot
      exact ⟨(h.untouched id hnot).1, fun m' hm' => (h.untouched id hnot).2 m' (hrest m' hm')⟩
    · intro m' hm' r' hr'
      exact h.carried m' (hrest m' hm') r' hr'
  · have hreceiver : m.receiver ≠ r.enqueuer := by
      intro heq
      rw [isSameInstance, hstamp, heq] at hsame
      exact hsame (decide_eq_true rfl)
    rw [forward, if_neg hsame]
    refine { h with balanced := ?_, untouched := ?_, carried := ?_ }
    · intro r' hr' i hi
      have hold := h.balanced r' hr' i hi
      rw [emitted_emit]
      rw [hpending] at hold
      simp only [FanOut.emitted, FanOut.pending, emit_inFlight] at hold ⊢
      by_cases hi' : i = r'.enqueuer
      · have hnot : ¬(m.receiver = i ∧ m.outboxId = r'.outboxId) := by
          rintro ⟨hrec, hout⟩
          have hrr := h.eq_of_outboxId hr hr' (hid.trans hout)
          exact hreceiver (by rw [hrec, hi', hrr])
        simp only [if_pos hi', if_neg hnot] at hold ⊢
        omega
      · simp only [if_neg hi'] at hold ⊢
        omega
    · intro id hnot
      obtain ⟨hnone, hflight⟩ := h.untouched id hnot
      refine ⟨fun i => ?_, fun m' hm' => hflight m' (hrest m' hm')⟩
      rw [emitted_emit, if_neg (fun hboth => hflight m hmem hboth.2)]
      exact hnone i
    · intro m' hm' r' hr'
      exact h.carried m' (hrest m' hm') r' hr'

theorem inv_setRoom {cluster : Cluster} {s : FanOut} (h : FanOutInv cluster s) (i : InstanceId)
    (room : String) {clients : List ClientId} (hclients : clients.Nodup) :
    FanOutInv cluster (s.setRoom i room clients) where
  balanced := h.balanced
  untouched := h.untouched
  fresh := h.fresh
  stamped := h.stamped
  members := h.members
  carried := h.carried
  joined := h.joined
  unique := h.unique
  distinct := by
    intro i' room'
    simp only [FanOut.setRoom]
    split
    · exact hclients
    · exact h.distinct i' room'

/-- **One step keeps the balance.** -/
theorem inv_step {cluster : Cluster} (s : FanOut) (e : FanOutEvent) (h : FanOutInv cluster s) :
    FanOutInv cluster (step cluster s e) := by
  cases e with
  | enqueue enqueuer kind outboxId row => exact inv_enqueue h enqueuer kind outboxId row
  | dispatch dispatcher outboxId =>
      simp only [step]
      split
      · exact h
      · next m hfind =>
          split
          · next hdispatcher => exact inv_dispatch h hdispatcher (List.mem_of_find?_eq_some hfind)
          · exact h
  | deliver position =>
      simp only [step]
      split
      · exact h
      · next m hm => exact inv_deliver h hm
  | join i room client =>
      simp only [step]
      split
      · exact h
      · next hnew => exact inv_setRoom h i room (List.nodup_cons.mpr ⟨hnew, h.distinct i room⟩)
  | leave i room client => exact inv_setRoom h i room ((h.distinct i room).filter _)

/-! ## What a client is sent -/

/-- The rooms of an outbox event. -/
def OutboxMessage.rooms (m : OutboxMessage) : List String :=
  roomsOf (asPayload (m.payload.get m.kind.field))

/-- Those of the rooms that a client of an instance is in. -/
def FanOut.roomsHeld (s : FanOut) (i : InstanceId) (client : ClientId) (rooms : List String) :
    List String :=
  rooms.filter fun room => client ∈ s.members i room

/-- The client of the instance joins or leaves the room. -/
def FanOutEvent.Moves (i : InstanceId) (client : ClientId) (room : String) : FanOutEvent → Prop
  | .join i' room' client' | .leave i' room' client' => i' = i ∧ room' = room ∧ client' = client
  | _ => False

/-- An emission reaches a client once for each of its rooms. -/
theorem count_flatMap_members {cluster : Cluster} {s : FanOut} (h : FanOutInv cluster s)
    (i : InstanceId) (client : ClientId) (rooms : List String) :
    (rooms.flatMap (s.members i)).count client = (s.roomsHeld i client rooms).length := by
  induction rooms with
  | nil => rfl
  | cons room rooms ih =>
      have hcount := (h.distinct i room).count (a := client)
      rw [List.flatMap_cons, List.count_append, ih, hcount, FanOut.roomsHeld, FanOut.roomsHeld,
        List.filter_cons]
      by_cases hmem : client ∈ s.members i room
      · simp [hmem, Nat.add_comm]
      · simp [hmem]

/-- What is so from the dispatch of an event on, for a client that stays in the rooms of the event
in which it is: `k` of them. -/
structure Sends (i : InstanceId) (client : ClientId) (outboxId : Uuid) (rooms : List String) (k : ℕ)
    (s : FanOut) : Prop where
  receivers : ∀ e ∈ s.emissions, e.emitter = i → e.outboxId = outboxId →
    e.receivers.count client = k
  carried : ∀ m ∈ s.inFlight, m.outboxId = outboxId → roomsOf m.payload = rooms
  held : (s.roomsHeld i client rooms).length = k
  dispatched : outboxId ∈ s.dispatches.map (·.outboxId)

section Sends

variable {cluster : Cluster} {s : FanOut} {i : InstanceId} {client : ClientId} {outboxId : Uuid}
  {rooms : List String} {k : ℕ}

theorem Sends.received_eq (h : Sends i client outboxId rooms k s) :
    s.received i client outboxId = s.emitted i outboxId * k := by
  have hconst : ((s.emissions.filter fun e => e.emitter = i ∧ e.outboxId = outboxId).map fun e =>
      e.receivers.count client) =
        List.replicate (s.emissions.filter fun e => e.emitter = i ∧ e.outboxId = outboxId).length
          k := by
    refine List.eq_replicate_iff.mpr ⟨List.length_map _, fun n hn => ?_⟩
    obtain ⟨e, he, rfl⟩ := List.mem_map.mp hn
    obtain ⟨hmem, hof⟩ := List.mem_filter.mp he
    obtain ⟨hemitter, hid⟩ := of_decide_eq_true hof
    exact h.receivers e hmem hemitter hid
  rw [FanOut.received, hconst, List.sum_replicate_nat, FanOut.emitted,
    List.countP_eq_length_filter]

/-- The dispatch of the event itself. -/
theorem sends_dispatch (hinv : FanOutInv cluster s) {dispatcher : InstanceId} {m : OutboxMessage}
    (hm : m ∈ s.outbox) : Sends i client m.outboxId m.rooms (s.roomsHeld i client m.rooms).length
      (dispatchMessage cluster dispatcher m s) where
  receivers := by
    intro e he hemitter hid
    rcases List.mem_cons.mp he with rfl | hold
    · obtain rfl : dispatcher = i := hemitter
      exact (congrArg (List.count client)
        (congrArg (List.flatMap (s.members dispatcher)) (rooms_emit _ _))).trans
          (count_flatMap_members hinv dispatcher client m.rooms)
    · have hnone := (hinv.untouched m.outboxId (hinv.fresh m hm)).1 i
      rw [FanOut.emitted, List.countP_eq_zero] at hnone
      exact absurd (decide_eq_true ⟨hemitter, hid⟩) (hnone e hold)
  carried := by
    intro m' hm' hid
    rcases List.mem_append.mp hm' with hold | hnew
    · exact absurd hid ((hinv.untouched m.outboxId (hinv.fresh m hm)).2 m' hold)
    · obtain ⟨receiver, -, rfl⟩ := List.mem_map.mp hnew
      exact roomsOf_emit _ _
  held := rfl
  dispatched := List.mem_cons_self

theorem Sends.setRoom (h : Sends i client outboxId rooms k s) {i' : InstanceId} {room' : String}
    {clients : List ClientId}
    (hsame : i' = i → room' ∈ rooms → (client ∈ clients ↔ client ∈ s.members i' room')) :
    Sends i client outboxId rooms k (s.setRoom i' room' clients) where
  receivers := h.receivers
  carried := h.carried
  dispatched := h.dispatched
  held := by
    rw [← h.held]
    refine congrArg List.length (List.filter_congr fun room hroom => decide_eq_decide.mpr ?_)
    simp only [FanOut.setRoom]
    split
    next heq =>
      obtain ⟨rfl, rfl⟩ := heq
      exact hsame rfl hroom
    next => exact Iff.rfl

/-- **A later step does not change what the client is sent of each emission.** -/
theorem Sends.step (hinv : FanOutInv cluster s) (h : Sends i client outboxId rooms k s)
    {e : FanOutEvent} (hstays : ∀ room ∈ rooms, ¬ e.Moves i client room) :
    Sends i client outboxId rooms k (RealtimeFanOut.step cluster s e) := by
  cases e with
  | enqueue enqueuer kind id row =>
      simp only [RealtimeFanOut.step]
      split
      · exact h
      · exact ⟨h.receivers, h.carried, h.held, h.dispatched⟩
  | dispatch dispatcher id =>
      simp only [RealtimeFanOut.step]
      split
      · exact h
      next m hfind =>
        split
        · -- another event: this one has been dispatched before
          have hne : m.outboxId ≠ outboxId := by
            intro heq
            exact hinv.fresh m (List.mem_of_find?_eq_some hfind) (heq ▸ h.dispatched)
          refine ⟨fun e' he' hemitter hid => ?_, fun m' hm' hid => ?_, h.held,
            List.mem_cons_of_mem _ h.dispatched⟩
          · rcases List.mem_cons.mp he' with rfl | hold
            · exact absurd hid hne
            · exact h.receivers e' hold hemitter hid
          · rcases List.mem_append.mp hm' with hold | hnew
            · exact h.carried m' hold hid
            · obtain ⟨receiver, -, rfl⟩ := List.mem_map.mp hnew
              exact absurd hid hne
        · exact h
  | deliver position =>
      simp only [RealtimeFanOut.step]
      split
      · exact h
      next m hm =>
        have hmem : m ∈ s.inFlight := List.mem_of_getElem? hm
        have hrest : ∀ m' ∈ s.inFlight.eraseIdx position, m' ∈ s.inFlight := fun m' hm' =>
          List.eraseIdx_subset hm'
        unfold forward
        split
        · exact ⟨h.receivers, fun m' hm' => h.carried m' (hrest m' hm'), h.held, h.dispatched⟩
        · refine ⟨fun e' he' hemitter hid => ?_, fun m' hm' => h.carried m' (hrest m' hm'), h.held,
            h.dispatched⟩
          rcases List.mem_cons.mp he' with rfl | hold
          · obtain rfl : m.receiver = i := hemitter
            have hrooms := (rooms_emit (s.sequences m.receiver) m.payload).trans
              (h.carried m hmem hid)
            exact (congrArg (List.count client)
              (congrArg (List.flatMap (s.members m.receiver)) hrooms)).trans
                ((count_flatMap_members hinv m.receiver client rooms).trans h.held)
          · exact h.receivers e' hold hemitter hid
  | join i' room' client' =>
      simp only [RealtimeFanOut.step]
      split
      · exact h
      · refine h.setRoom fun hi hroom => ?_
        have hne : client ≠ client' := fun heq => hstays room' hroom ⟨hi, rfl, heq.symm⟩
        rw [List.mem_cons, or_iff_right hne]
  | leave i' room' client' =>
      refine h.setRoom fun hi hroom => ?_
      have hne : client ≠ client' := fun heq => hstays room' hroom ⟨hi, rfl, heq.symm⟩
      rw [List.mem_filter, and_iff_left (decide_eq_true hne)]

end Sends

/-! ## The theorem -/

/-- The state after the events `es`. -/
abbrev fanOutRun (cluster : Cluster) (es : List FanOutEvent) : FanOut := run (step cluster) {} es

theorem inv_fanOutRun (cluster : Cluster) (es : List FanOutEvent) :
    FanOutInv cluster (fanOutRun cluster es) :=
  inv_run' inv_step (inv_init cluster)

/-- What has been dispatched stays so. -/
theorem dispatches_run {cluster : Cluster} {s : FanOut} {r : DispatchRecord}
    (hr : r ∈ s.dispatches) (es : List FanOutEvent) : r ∈ (run (step cluster) s es).dispatches := by
  refine inv_run' (I := fun s : FanOut => r ∈ s.dispatches) (fun s e hr => ?_) hr
  cases e with
  | enqueue enqueuer kind id row =>
      simp only [step]
      split <;> exact hr
  | dispatch dispatcher id =>
      simp only [step]
      split
      · exact hr
      · split
        · exact List.mem_cons_of_mem _ hr
        · exact hr
  | deliver position =>
      simp only [step]
      split
      · exact hr
      · unfold forward
        split <;> exact hr
  | join i room client =>
      simp only [step]
      split <;> exact hr
  | leave i room client => exact hr

/-- How often the gateways emit an event that was dispatched, once all of its messages are
delivered: the dispatcher's worker once, and every bridge but the producer's once. -/
theorem emitted_eq {cluster : Cluster} {s : FanOut} (hinv : FanOutInv cluster s)
    {r : DispatchRecord} (hr : r ∈ s.dispatches)
    (hquiet : ∀ m ∈ s.inFlight, m.outboxId ≠ r.outboxId) {i : InstanceId}
    (hi : i ∈ cluster.instances) : s.emitted i r.outboxId =
      (if i = r.dispatcher then 1 else 0) + (if i = r.enqueuer then 0 else 1) := by
  have hnone : s.pending i r.outboxId = 0 := by
    rw [FanOut.pending, List.countP_eq_zero]
    intro m hm
    simp [hquiet m hm]
  have hbalanced := hinv.balanced r hr i hi
  rw [hnone] at hbalanced
  simpa using hbalanced

/-- **A client is sent an event exactly once iff its producer dispatched it, or the client is of
neither instance, and the client is in exactly one of its rooms.**  In every run in which a waiting
event is dispatched and its messages are delivered, for each client that neither joins nor leaves a
room of the event meanwhile. -/
theorem fan_out_exactly_once_iff (cluster : Cluster) (es₁ es₂ : List FanOutEvent)
    (dispatcher : InstanceId) (m : OutboxMessage)
    (hwaits : (fanOutRun cluster es₁).outbox.find? (fun m' => m'.outboxId = m.outboxId) = some m)
    (hdispatcher : dispatcher ∈ cluster.instances)
    (hquiet : ∀ m' ∈ (fanOutRun cluster (es₁ ++ .dispatch dispatcher m.outboxId :: es₂)).inFlight,
      m'.outboxId ≠ m.outboxId)
    (i : InstanceId) (hi : i ∈ cluster.instances) (client : ClientId)
    (hstays : ∀ e ∈ es₂, ∀ room ∈ m.rooms, ¬ e.Moves i client room) :
    (fanOutRun cluster (es₁ ++ .dispatch dispatcher m.outboxId :: es₂)).received i client
        m.outboxId = 1 ↔
      (dispatcher = m.enqueuer ∨ i ≠ dispatcher ∧ i ≠ m.enqueuer) ∧
        ((fanOutRun cluster es₁).roomsHeld i client m.rooms).length = 1 := by
  have hm := List.mem_of_find?_eq_some hwaits
  have hinv := inv_fanOutRun cluster es₁
  have hstep : step cluster (fanOutRun cluster es₁) (.dispatch dispatcher m.outboxId) =
      dispatchMessage cluster dispatcher m (fanOutRun cluster es₁) := by
    simp only [step, hwaits, if_pos hdispatcher]
  have hinv' := inv_fanOutRun cluster (es₁ ++ .dispatch dispatcher m.outboxId :: es₂)
  rw [fanOutRun, run_append, run_cons, hstep] at hquiet hinv' ⊢
  have hafter := inv_dispatch hinv hdispatcher hm
  have hsends : Sends i client m.outboxId m.rooms
      ((fanOutRun cluster es₁).roomsHeld i client m.rooms).length
      (run (step cluster) (dispatchMessage cluster dispatcher m (fanOutRun cluster es₁)) es₂) := by
    have halong : Along (step cluster) (fun _ e => ∀ room ∈ m.rooms, ¬ e.Moves i client room)
        (dispatchMessage cluster dispatcher m (fanOutRun cluster es₁)) es₂ := by
      refine along_iff.mpr fun es e es' hsplit => hstays e ?_
      rw [hsplit]
      exact List.mem_append_right es List.mem_cons_self
    have hboth := inv_run (I := fun s => FanOutInv cluster s ∧ Sends i client m.outboxId m.rooms
        ((fanOutRun cluster es₁).roomsHeld i client m.rooms).length s)
      (fun s e h hP => ⟨inv_step s e h.1, h.2.step h.1 hP⟩) ⟨hafter, sends_dispatch hinv hm⟩ halong
    exact hboth.2
  have hrecord : (⟨m.outboxId, m.enqueuer, dispatcher⟩ : DispatchRecord) ∈
      (run (step cluster) (dispatchMessage cluster dispatcher m (fanOutRun cluster es₁))
        es₂).dispatches := dispatches_run List.mem_cons_self es₂
  rw [hsends.received_eq, emitted_eq hinv' hrecord hquiet hi]
  generalize ((fanOutRun cluster es₁).roomsHeld i client m.rooms).length = k
  simp only
  by_cases hd : i = dispatcher
  · by_cases he : i = m.enqueuer
    · rw [if_pos hd, if_pos he, and_iff_right (Or.inl (hd.symm.trans he))]
      omega
    · rw [if_pos hd, if_neg he]
      refine iff_of_false (by omega) ?_
      rintro ⟨hown | ⟨hother, -⟩, -⟩
      · exact he (hd.trans hown)
      · exact hother hd
  · by_cases he : i = m.enqueuer
    · rw [if_neg hd, if_pos he]
      refine iff_of_false (by omega) ?_
      rintro ⟨hown | ⟨-, hother⟩, -⟩
      · exact hd (he.trans hown.symm)
      · exact hother he
    · rw [if_neg hd, if_neg he, and_iff_right (Or.inr ⟨hd, he⟩)]
      omega

/-- Three instances. -/
def threeInstances : Cluster := ⟨["a", "b", "c"], by decide⟩

/-- A task update of instance `a`. -/
def oneUpdate : OutboxMessage where
  outboxId := "e1"
  kind := .taskUpdated
  enqueuer := "a"
  payload := enqueuedPayload .taskUpdated "a" [("id", .str "t1"), ("nodeId", .str "n1"),
    ("workspaceId", .str "w1")]

/-- A client of each instance watches the node or the workspace; `a` enqueues the update. -/
def watched : List FanOutEvent :=
  [.join "a" "node:n1" "x", .join "b" "workspace:w1" "y", .join "c" "workspace:w1" "z",
    .enqueue "a" .taskUpdated "e1" [("id", .str "t1"), ("nodeId", .str "n1"),
      ("workspaceId", .str "w1")]]

/-- The channel delivers the update to all. -/
def deliveries : List FanOutEvent := [.deliver 2, .deliver 0, .deliver 0]

/-- The producer's own worker dispatches: its client is sent the update once. -/
theorem fan_out_exactly_once_own :
    (fanOutRun threeInstances (watched ++ .dispatch "a" "e1" :: deliveries)).received "a" "x"
      "e1" = 1 := by
  refine (fan_out_exactly_once_iff threeInstances watched deliveries "a" oneUpdate rfl (by decide)
    (fun m hm => absurd hm List.not_mem_nil) "a" (by decide) "x" ?_).mpr
    ⟨Or.inl rfl, by decide⟩
  intro e he room _ hmoves
  simp only [deliveries, List.mem_cons, List.not_mem_nil, or_false] at he
  rcases he with rfl | rfl | rfl <;> exact hmoves

/-- Another instance dispatches: its client is sent the update twice, and the
producer's not at all. -/
theorem fan_out_misses_producer :
    ¬ ∀ (cluster : Cluster) (es₁ es₂ : List FanOutEvent) (dispatcher : InstanceId)
      (m : OutboxMessage),
      (fanOutRun cluster es₁).outbox.find? (fun m' => m'.outboxId = m.outboxId) = some m →
      dispatcher ∈ cluster.instances →
      (∀ m' ∈ (fanOutRun cluster (es₁ ++ .dispatch dispatcher m.outboxId :: es₂)).inFlight,
        m'.outboxId ≠ m.outboxId) →
      ∀ i ∈ cluster.instances, ∀ client, (∀ e ∈ es₂, ∀ room ∈ m.rooms, ¬ e.Moves i client room) →
        (fanOutRun cluster es₁).roomsHeld i client m.rooms ≠ [] →
        (fanOutRun cluster (es₁ ++ .dispatch dispatcher m.outboxId :: es₂)).received i client
          m.outboxId = 1 := by
  intro hall
  have hmissed := hall threeInstances watched deliveries "b" oneUpdate rfl (by decide)
    (fun m hm => absurd hm List.not_mem_nil) "a" (by decide) "x" ?_ (by decide)
  · revert hmissed
    decide
  · intro e he room _ hmoves
    simp only [deliveries, List.mem_cons, List.not_mem_nil, or_false] at he
    rcases he with rfl | rfl | rfl <;> exact hmoves

end RealtimeFanOut
