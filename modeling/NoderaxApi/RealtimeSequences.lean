/-
# The numbers of realtime events

The gateway numbers a payload that has no `sequence` from the counter of its instance, and
names as its source the instance that the payload is stamped with.  An instance publishes
what it has emitted, number included, so a bridge has nothing to number; but the payload of a
node install is published as a copy made before the emission, and an event of the outbox may
be dispatched by another instance than the one that stamped it.

Each client receives increasing numbers from each source in every run in which no instance
numbers the event of another one, and no client is in both rooms of an event.
-/
import NoderaxApi.RealtimeFanOut
import Mathlib.Algebra.Order.Ring.Rat
import Mathlib.Data.Nat.Cast.Order.Ring
import Mathlib.Data.Fintype.Basic

open Runs RealtimeFanOut

namespace RealtimeSequences

/-! ## Envelopes -/

/-- The `sequence` of a payload, if it is a number. -/
def sequenceOf (payload : JsonObject) : Option ℚ :=
  match payload.get "sequence" with
  | some (.num n) => some n
  | _ => none

/-- The instance that `withRealtimeMeta` names as the source. -/
def sourceInstanceOf (payload : JsonObject) : Option InstanceId :=
  (payload.string? "sourceInstance").or (sourceOf payload)

/-- The source and the number that a client reads in `meta`. -/
structure Delivery where
  sourceInstance : Option InstanceId
  sequence : ℚ
  deriving DecidableEq

def deliveryOf (payload : JsonObject) : Option Delivery :=
  let metadata := asPayload (payload.get "meta")
  (sequenceOf metadata).map fun sequence => ⟨metadata.string? "sourceInstance", sequence⟩

theorem sequenceOf_set_of_ne {payload : JsonObject} {key : String} {value : Json}
    (h : key ≠ "sequence") : sequenceOf (payload.set key value) = sequenceOf payload := by
  unfold sequenceOf
  rw [JsonObject.get_set_of_ne _ _ (Ne.symm h)]

theorem string?_set_of_ne {payload : JsonObject} {key key' : String} {value : Json}
    (h : key' ≠ key) : (payload.set key value).string? key' = payload.string? key' := by
  unfold JsonObject.string?
  rw [JsonObject.get_set_of_ne _ _ h]

/-- The payload once it has a number. -/
def withSequence (sequence : ℕ) (payload : JsonObject) : JsonObject :=
  match sequenceOf payload with
  | some _ => payload
  | none => payload.set "sequence" (.num (sequence + 1))

/-- The payload once its source is named. -/
def withSource (payload : JsonObject) : JsonObject :=
  match sourceInstanceOf payload with
  | none | some "" => payload
  | some source => payload.set "sourceInstance" (.str source)

/-- The payload with its `meta`. -/
def withMeta (payload : JsonObject) (source : Option InstanceId) : JsonObject :=
  payload.set "meta" (.obj (((asPayload (payload.get "meta")).set "sequence"
    ((payload.get "sequence").getD .null)).set "sourceInstance" (Json.ofString? source)))

/-- `withRealtimeMeta` numbers the payload, names its source and writes its `meta`. -/
theorem withRealtimeMeta_eq (sequence : ℕ) (payload : JsonObject) :
    withRealtimeMeta sequence payload
      = (if (sequenceOf payload).isSome then sequence else sequence + 1,
          withMeta (withSource (withSequence sequence payload))
            (sourceInstanceOf (withSequence sequence payload))) := by
  unfold withRealtimeMeta withSequence sequenceOf
  rcases payload.get "sequence" with _ | _ | _ | n | _ | _ | _ <;> rfl

/-! Each part leaves what the others write. -/

theorem sequenceOf_withSequence (sequence : ℕ) (payload : JsonObject) :
    sequenceOf (withSequence sequence payload)
      = some ((sequenceOf payload).getD (sequence + 1)) := by
  unfold withSequence
  cases hnumber : sequenceOf payload with
  | some n => exact hnumber
  | none =>
      unfold sequenceOf
      rw [JsonObject.get_set_self]
      rfl

theorem string?_withSequence {sequence : ℕ} {payload : JsonObject} {key : String}
    (h : key ≠ "sequence") :
    (withSequence sequence payload).string? key = payload.string? key := by
  unfold withSequence
  split
  · rfl
  · exact string?_set_of_ne h

theorem sourceInstanceOf_withSequence (sequence : ℕ) (payload : JsonObject) :
    sourceInstanceOf (withSequence sequence payload) = sourceInstanceOf payload := by
  unfold sourceInstanceOf sourceOf
  rw [string?_withSequence (by decide), string?_withSequence (by decide)]

theorem sequenceOf_withSource (payload : JsonObject) :
    sequenceOf (withSource payload) = sequenceOf payload := by
  unfold withSource
  split
  · rfl
  · rfl
  · exact sequenceOf_set_of_ne (by decide)

theorem string?_withSource {payload : JsonObject} {key : String} (h : key ≠ "sourceInstance") :
    (withSource payload).string? key = payload.string? key := by
  unfold withSource
  split
  · rfl
  · rfl
  · exact string?_set_of_ne h

/-- Naming the source does not change it. -/
theorem sourceInstanceOf_withSource (payload : JsonObject) :
    sourceInstanceOf (withSource payload) = sourceInstanceOf payload := by
  unfold withSource
  split
  · rfl
  · rfl
  next source _ hsource =>
      have hset : (payload.set "sourceInstance" (.str source)).string? "sourceInstance"
          = some source := by
        rw [JsonObject.string?, JsonObject.get_set_self]
      rw [hsource, sourceInstanceOf, hset, Option.some_or]

/-- What a client reads. -/
theorem deliveryOf_withMeta {payload : JsonObject} {n : ℚ} (h : sequenceOf payload = some n)
    (source : Option InstanceId) : deliveryOf (withMeta payload source) = some ⟨source, n⟩ := by
  have hnumber : payload.get "sequence" = some (.num n) := by
    unfold sequenceOf at h
    split at h
    next m hm =>
        rw [hm, Option.some.inj h]
    next => exact absurd h (by simp)
  unfold deliveryOf withMeta
  rw [JsonObject.get_set_self]
  simp only [asPayload]
  rw [sequenceOf_set_of_ne (by decide), sequenceOf, JsonObject.get_set_self, hnumber,
    JsonObject.string?, JsonObject.get_set_self]
  cases source <;> rfl

/-- **What `withRealtimeMeta` leaves**: the payload has its number, or the next one of the
counter, and keeps its source and its rooms. -/
structure Numbered (sequence : ℕ) (payload marked : JsonObject) : Prop where
  number : sequenceOf marked = some ((sequenceOf payload).getD (sequence + 1))
  source : sourceInstanceOf marked = sourceInstanceOf payload
  stamp : sourceOf marked = sourceOf payload
  room : ∀ roomPrefix field, field ∈ ["nodeId", "workspaceId"] →
    roomOf roomPrefix field marked = roomOf roomPrefix field payload

theorem withRealtimeMeta_numbered (sequence : ℕ) (payload : JsonObject) :
    Numbered sequence payload (withRealtimeMeta sequence payload).2 := by
  rw [withRealtimeMeta_eq]
  have hstring : ∀ key, key ≠ "meta" → key ≠ "sourceInstance" → key ≠ "sequence" →
      ∀ source, (withMeta (withSource (withSequence sequence payload)) source).string? key
        = payload.string? key := fun key h₁ h₂ h₃ source =>
    (string?_set_of_ne h₁).trans ((string?_withSource h₂).trans (string?_withSequence h₃))
  refine ⟨?_, ?_, hstring _ (by decide) (by decide) (by decide) _,
    fun roomPrefix field hfield => ?_⟩
  · exact (sequenceOf_set_of_ne (by decide)).trans
      ((sequenceOf_withSource _).trans (sequenceOf_withSequence sequence payload))
  · refine Eq.trans ?_ ((sourceInstanceOf_withSource _).trans
      (sourceInstanceOf_withSequence sequence payload))
    unfold sourceInstanceOf sourceOf withMeta
    rw [string?_set_of_ne (by decide), string?_set_of_ne (by decide)]
  · unfold roomOf
    have hne : field ≠ "meta" ∧ field ≠ "sourceInstance" ∧ field ≠ "sequence" := by
      simp only [List.mem_cons, List.not_mem_nil, or_false] at hfield
      rcases hfield with rfl | rfl <;> decide
    rw [hstring field hne.1 hne.2.1 hne.2.2]

/-- What a client reads in a payload that has been numbered. -/
theorem deliveryOf_withRealtimeMeta (sequence : ℕ) (payload : JsonObject) :
    deliveryOf (withRealtimeMeta sequence payload).2
      = some ⟨sourceInstanceOf payload, (sequenceOf payload).getD (sequence + 1)⟩ := by
  have hnumber : sequenceOf (withSource (withSequence sequence payload))
      = some ((sequenceOf payload).getD (sequence + 1)) :=
    (sequenceOf_withSource _).trans (sequenceOf_withSequence sequence payload)
  rw [withRealtimeMeta_eq, deliveryOf_withMeta hnumber, sourceInstanceOf_withSequence]

/-- A payload that is numbered again keeps its number. -/
theorem Numbered.again {n m : ℕ} {payload marked marked' : JsonObject}
    (h : Numbered n payload marked) (h' : Numbered m marked marked') :
    Numbered n payload marked' where
  number := by rw [h'.number, h.number]; rfl
  source := h'.source.trans h.source
  stamp := h'.stamp.trans h.stamp
  room := fun roomPrefix field hfield =>
    (h'.room roomPrefix field hfield).trans (h.room roomPrefix field hfield)

/-! ## The system -/

/-- `REALTIME_EVENTS` that the bridge forwards. -/
inductive RealtimeEventName
  | nodeStatusUpdated
  | nodeRootAccessUpdated
  | metricsIngested
  | taskCreated
  | taskUpdated
  | eventCreated
  | nodeInstallUpdated
  deriving DecidableEq, Repr

/-- The rooms an event goes to: the prefix of the room and the field of its id. -/
def RealtimeEventName.routes : RealtimeEventName → List (String × String)
  | .nodeInstallUpdated => [("workspace:", "workspaceId")]
  | _ => [("node:", "nodeId"), ("workspace:", "workspaceId")]

/-- A row of the database as a payload.  No row has a column of these names. -/
structure RealtimeRow where
  fields : JsonObject
  no_sequence : fields.get "sequence" = none
  no_source : fields.get "sourceInstance" = none
  no_stamp : fields.get "sourceInstanceId" = none

/-- The row stamped with an instance id. -/
def RealtimeRow.stamped (row : RealtimeRow) (source : InstanceId) : JsonObject :=
  row.fields.set "sourceInstanceId" (.str source)

/-- A published message: the channel, by its event, and the payload. -/
abbrev RealtimeMessage := RealtimeEventName × JsonObject

/-- The gateways with their clients, and the messages: those an instance has published and
Redis has not yet seen, and those on their way to its subscriber, each in order. -/
structure RealtimeWorld (Client : Type) where
  sequences : InstanceId → ℕ := fun _ => 0
  rooms : Client → List String := fun _ => []
  delivered : Client → List Delivery := fun _ => []
  outgoing : InstanceId → List RealtimeMessage := fun _ => []
  inbox : InstanceId → List RealtimeMessage := fun _ => []

section System

variable {Client : Type} (home : Client → InstanceId)

/-- `emitToNodeRoom` and `emitToWorkspaceRoom` on an instance: the world, and the payload as
left behind. -/
def emitRoom (i : InstanceId) (roomPrefix field : String) (payload : JsonObject)
    (w : RealtimeWorld Client) : RealtimeWorld Client × JsonObject :=
  let emitted := emitToRoom roomPrefix field (w.sequences i) payload
  ({ w with
      sequences := Function.update w.sequences i emitted.1
      delivered := fun k =>
        if home k = i ∧ ∃ room ∈ emitted.2.2, room ∈ w.rooms k then
          w.delivered k ++ (deliveryOf emitted.2.1).toList
        else w.delivered k }, emitted.2.1)

/-- The gateway's emission of an event, along its routes. -/
def emitRoutes (i : InstanceId) : List (String × String) → JsonObject → RealtimeWorld Client →
    RealtimeWorld Client × JsonObject
  | [], payload, w => (w, payload)
  | (roomPrefix, field) :: routes, payload, w =>
      let emitted := emitRoom home i roomPrefix field payload w
      emitRoutes i routes emitted.2 emitted.1

def emitEvent (i : InstanceId) (name : RealtimeEventName) (payload : JsonObject)
    (w : RealtimeWorld Client) : RealtimeWorld Client × JsonObject :=
  emitRoutes home i name.routes payload w

/-- `redisService.publish`. -/
def publish (i : InstanceId) (message : RealtimeMessage) (w : RealtimeWorld Client) :
    RealtimeWorld Client :=
  { w with outgoing := Function.update w.outgoing i (w.outgoing i ++ [message]) }

/-- What happens next. -/
inductive RealtimeStep (Client : Type)
  /-- The producers of all events but the node installs, and the dispatcher of the outbox: the
  row is stamped by the instance that has produced it, emitted, and published as emitted. -/
  | emit (i : InstanceId) (name : RealtimeEventName) (source : InstanceId) (row : RealtimeRow)
  /-- `EnrollmentsService.emitNodeInstallUpdated` -/
  | emitNodeInstallUpdated (i : InstanceId) (nodeInstall : RealtimeRow)
  /-- The oldest message an instance has published reaches Redis, or is skipped. -/
  | transmit (i : InstanceId)
  | skip (i : InstanceId)
  /-- The oldest message on its way to an instance reaches its bridge. -/
  | forward (i : InstanceId)
  | join (k : Client) (room : String)
  | leave (k : Client) (room : String)

variable [DecidableEq Client]

/-- One step of the cluster. -/
def realtimeStep (w : RealtimeWorld Client) : RealtimeStep Client → RealtimeWorld Client
  | .emit i name source row =>
      let emitted := emitEvent home i name (row.stamped source) w
      publish i (name, emitted.2) emitted.1
  | .emitNodeInstallUpdated i nodeInstall =>
      let redisPayload := nodeInstall.stamped i
      publish i (.nodeInstallUpdated, redisPayload)
        (emitEvent home i .nodeInstallUpdated nodeInstall.fields w).1
  | .transmit i =>
      match w.outgoing i with
      | [] => w
      | message :: rest =>
          { w with
            outgoing := Function.update w.outgoing i rest
            inbox := fun j => w.inbox j ++ [message] }
  | .skip i => { w with outgoing := Function.update w.outgoing i (w.outgoing i).tail }
  | .forward i =>
      match w.inbox i with
      | [] => w
      | (name, payload) :: rest =>
          let w := { w with inbox := Function.update w.inbox i rest }
          if isSameInstance payload i then w else (emitEvent home i name payload w).1
  | .join k room => { w with rooms := Function.update w.rooms k (room :: w.rooms k) }
  | .leave k room =>
      { w with rooms := Function.update w.rooms k ((w.rooms k).filter (· ≠ room)) }

/-! ## What is claimed -/

/-- **Unique and increasing numbers.**  From each source, a client receives greater and greater
numbers; so no two deliveries carry the same source and number. -/
structure UniquelyNumbered (w : RealtimeWorld Client) : Prop where
  increasing : ∀ k, (w.delivered k).Pairwise fun earlier later =>
    earlier.sourceInstance = later.sourceInstance → earlier.sequence < later.sequence
  unique : ∀ k, (w.delivered k).Nodup

/-- The rooms that a payload reaches. -/
def roomsReached (name : RealtimeEventName) (payload : JsonObject) : List String :=
  name.routes.filterMap fun route => roomOf route.1 route.2 payload

/-- No client of the instance is in both rooms of an event. -/
def OneRoomEach (i : InstanceId) (name : RealtimeEventName) (payload : JsonObject)
    (w : RealtimeWorld Client) : Prop :=
  ∀ k, home k = i → (roomsReached name payload).countP (fun room => room ∈ w.rooms k) ≤ 1

/-- An instance numbers its own events only.  What it emits under the stamp of another one has
a number or no room, or, if it comes from the bridge, no client to go to; and no client is in
both rooms of an event. -/
def NumbersOwn (w : RealtimeWorld Client) : RealtimeStep Client → Prop
  | .emit i name source row =>
      (source = i ∨ roomsReached name (row.stamped source) = []) ∧
        OneRoomEach home i name (row.stamped source) w
  | .emitNodeInstallUpdated i nodeInstall =>
      OneRoomEach home i .nodeInstallUpdated nodeInstall.fields w
  | .forward i =>
      ∀ message ∈ (w.inbox i).head?, isSameInstance message.2 i = false →
        (sequenceOf message.2 = none →
          ∀ k, home k = i → ∀ room ∈ roomsReached message.1 message.2, room ∉ w.rooms k) ∧
        OneRoomEach home i message.1 message.2 w
  | _ => True

end System

/-! ## One emission -/

section Emission

variable {Client : Type} (home : Client → InstanceId)

/-- Every route of an event reads one of these fields. -/
theorem RealtimeEventName.field_mem (name : RealtimeEventName) :
    ∀ route ∈ name.routes, route.2 ∈ ["nodeId", "workspaceId"] := by
  cases name <;> decide

/-- The number that an instance emits a payload under. -/
def numberAt (i : InstanceId) (payload : JsonObject) (w : RealtimeWorld Client) : ℚ :=
  (sequenceOf payload).getD (w.sequences i + 1)

/-- The deliveries of an emission along `rooms` to one client. -/
def deliveries (i : InstanceId) (rooms : List String) (payload : JsonObject)
    (w : RealtimeWorld Client) (k : Client) : List Delivery :=
  List.replicate (if home k = i then rooms.countP (fun room => room ∈ w.rooms k) else 0)
    ⟨sourceInstanceOf payload, numberAt i payload w⟩

/-- **What an emission does**: `payload`, emitted by `i` to `rooms`, becomes `left`. -/
structure Emitted (i : InstanceId) (rooms : List String) (payload : JsonObject)
    (w w' : RealtimeWorld Client) (left : JsonObject) : Prop where
  joined : w'.rooms = w.rooms
  outgoing : w'.outgoing = w.outgoing
  inbox : w'.inbox = w.inbox
  delivered : ∀ k, w'.delivered k = w.delivered k ++ deliveries home i rooms payload w k
  others : ∀ j, j ≠ i → w'.sequences j = w.sequences j
  unreached : rooms = [] → w'.sequences = w.sequences ∧ left = payload
  reached : rooms ≠ [] → Numbered (w.sequences i) payload left ∧
    w'.sequences i = if (sequenceOf payload).isSome then w.sequences i else w.sequences i + 1

/-- An emission to one room. -/
theorem emitRoom_emitted (i : InstanceId) (roomPrefix field : String) (payload : JsonObject)
    (w : RealtimeWorld Client) :
    Emitted home i (roomOf roomPrefix field payload).toList payload w
      (emitRoom home i roomPrefix field payload w).1
      (emitRoom home i roomPrefix field payload w).2 := by
  unfold emitRoom emitToRoom
  cases hroom : roomOf roomPrefix field payload with
  | none =>
      refine ⟨rfl, rfl, rfl, fun k => ?_, fun j _ => ?_, fun _ => ⟨?_, rfl⟩,
        fun h => absurd rfl h⟩
      · simp [deliveries]
      · simp only [Function.update_eq_self]
      · simp only [Function.update_eq_self]
  | some room =>
      refine ⟨rfl, rfl, rfl, fun k => ?_, fun j hj => Function.update_of_ne hj _ _,
        fun h => absurd h (List.cons_ne_nil _ _),
        fun _ => ⟨withRealtimeMeta_numbered _ _, ?_⟩⟩
      · by_cases hk : home k = i
        · by_cases hin : room ∈ w.rooms k
          · simp [deliveries, numberAt, hk, hin, deliveryOf_withRealtimeMeta]
          · simp [deliveries, hk, hin]
        · simp [deliveries, hk]
      · simp only [Function.update_self, withRealtimeMeta_eq]

/-- An emission that is followed by another one of the payload it has left. -/
theorem Emitted.trans {i : InstanceId} {rooms rooms' : List String}
    {payload left left' : JsonObject}
    {w w' w'' : RealtimeWorld Client} (h : Emitted home i rooms payload w w' left)
    (h' : Emitted home i rooms' left w' w'' left') :
    Emitted home i (rooms ++ rooms') payload w w'' left' := by
  have hsame : ∀ k, deliveries home i rooms' left w' k
      = deliveries home i rooms' payload w k := by
    intro k
    unfold deliveries numberAt
    by_cases hrooms : rooms = []
    · rw [(h.unreached hrooms).1, (h.unreached hrooms).2, h.joined]
    · rw [h.joined, (h.reached hrooms).1.source, (h.reached hrooms).1.number]
      rfl
  refine ⟨h'.joined.trans h.joined, h'.outgoing.trans h.outgoing, h'.inbox.trans h.inbox,
    fun k => ?_, fun j hj => (h'.others j hj).trans (h.others j hj), fun hnil => ?_,
    fun hne => ?_⟩
  · rw [h'.delivered, h.delivered, hsame, List.append_assoc]
    unfold deliveries
    rw [List.replicate_append_replicate, List.countP_append]
    split <;> rfl
  · obtain ⟨h₁, h₂⟩ := List.append_eq_nil_iff.mp hnil
    exact ⟨(h'.unreached h₂).1.trans (h.unreached h₁).1,
      (h'.unreached h₂).2.trans (h.unreached h₁).2⟩
  · by_cases hrooms : rooms = []
    · obtain ⟨hseq, rfl⟩ := h.unreached hrooms
      rw [hrooms, List.nil_append] at hne
      rw [← hseq]
      exact h'.reached hne
    · obtain ⟨hnumbered, hseq⟩ := h.reached hrooms
      by_cases hrooms' : rooms' = []
      · obtain ⟨hseq', rfl⟩ := h'.unreached hrooms'
        exact ⟨hnumbered, by rw [hseq', hseq]⟩
      · obtain ⟨hnumbered', hseq'⟩ := h'.reached hrooms'
        refine ⟨hnumbered.again hnumbered', ?_⟩
        rw [hseq', hnumbered.number, hseq]
        rfl

/-- The emission of an event along its routes. -/
theorem emitRoutes_emitted (i : InstanceId) (routes : List (String × String))
    (hfields : ∀ route ∈ routes, route.2 ∈ ["nodeId", "workspaceId"]) (payload : JsonObject)
    (w : RealtimeWorld Client) :
    Emitted home i (routes.filterMap fun route => roomOf route.1 route.2 payload) payload w
      (emitRoutes home i routes payload w).1 (emitRoutes home i routes payload w).2 := by
  induction routes generalizing payload w with
  | nil =>
      exact ⟨rfl, rfl, rfl, fun k => by simp [emitRoutes, deliveries], fun _ _ => rfl,
        fun _ => ⟨rfl, rfl⟩, fun h => absurd rfl h⟩
  | cons route routes ih =>
      have hfirst := emitRoom_emitted home i route.1 route.2 payload w
      have hrest := ih (fun r hr => hfields r (List.mem_cons_of_mem _ hr))
        (emitRoom home i route.1 route.2 payload w).2 (emitRoom home i route.1 route.2 payload w).1
      have hrooms : (routes.filterMap fun r => roomOf r.1 r.2
            (emitRoom home i route.1 route.2 payload w).2)
          = routes.filterMap fun r => roomOf r.1 r.2 payload := by
        refine List.filterMap_congr fun r hr => ?_
        by_cases hnil : (roomOf route.1 route.2 payload).toList = []
        · rw [(hfirst.unreached hnil).2]
        · exact (hfirst.reached hnil).1.room r.1 r.2 (hfields r (List.mem_cons_of_mem _ hr))
      rw [hrooms] at hrest
      have hall := hfirst.trans home hrest
      have hcons : ((route :: routes).filterMap fun r => roomOf r.1 r.2 payload)
          = (roomOf route.1 route.2 payload).toList
            ++ routes.filterMap fun r => roomOf r.1 r.2 payload := by
        rw [List.filterMap_cons]
        cases roomOf route.1 route.2 payload <;> rfl
      rw [hcons]
      exact hall

theorem emitEvent_emitted (i : InstanceId) (name : RealtimeEventName) (payload : JsonObject)
    (w : RealtimeWorld Client) :
    Emitted home i (roomsReached name payload) payload w (emitEvent home i name payload w).1
      (emitEvent home i name payload w).2 :=
  emitRoutes_emitted home i name.routes name.field_mem payload w

end Emission

/-! ## What holds in every run -/

section Invariant

variable {Client : Type} (home : Client → InstanceId)

/-- The numbers of an instance's events among the messages. -/
def numbersOf (a : InstanceId) (messages : List RealtimeMessage) : List ℚ :=
  messages.filterMap fun message =>
    if sourceOf message.2 = some a then sequenceOf message.2 else none

theorem numbersOf_append (a : InstanceId) (messages messages' : List RealtimeMessage) :
    numbersOf a (messages ++ messages') = numbersOf a messages ++ numbersOf a messages' :=
  List.filterMap_append

theorem numbersOf_eq_nil {a : InstanceId} {message : RealtimeMessage}
    (h : sourceOf message.2 = some a → sequenceOf message.2 = none) :
    numbersOf a [message] = [] := by
  unfold numbersOf
  by_cases hsource : sourceOf message.2 = some a
  · simp [hsource, h hsource]
  · simp [hsource]

theorem numbersOf_single {a : InstanceId} {message : RealtimeMessage} {n : ℚ}
    (hsource : sourceOf message.2 = some a) (hnumber : sequenceOf message.2 = some n) :
    numbersOf a [message] = [n] := by
  simp [numbersOf, hsource, hnumber]

/-- The numbers of the events of `a` on their way to `h`, in order. -/
def underWay (a h : InstanceId) (w : RealtimeWorld Client) : List ℚ :=
  numbersOf a (w.inbox h) ++ numbersOf a (w.outgoing a)

/-- A payload names the same instance as its source and in its stamp. -/
def Stamped (a : InstanceId) (payload : JsonObject) : Prop :=
  sourceOf payload = some a ∧ sourceInstanceOf payload = some a

/-- **The order of the numbers.**  What is under way from an instance is numbered in order, and
after all that a client of another instance has received from it. -/
structure InOrder (w : RealtimeWorld Client) : Prop where
  published : ∀ i, ∀ message ∈ w.outgoing i, ∃ a, Stamped a message.2 ∧
    (sequenceOf message.2 = none ∨ a = i)
  received : ∀ i, ∀ message ∈ w.inbox i, ∃ a, Stamped a message.2
  ascending : ∀ a i, (underWay a i w).Pairwise (· < ·)
  drawn : ∀ a i, ∀ n ∈ underWay a i w, n ≤ w.sequences a
  increasing : ∀ k, (w.delivered k).Pairwise fun earlier later =>
    earlier.sourceInstance = later.sourceInstance → earlier.sequence < later.sequence
  delivered_drawn : ∀ k, ∀ d ∈ w.delivered k,
    d.sequence ≤ w.sequences (d.sourceInstance.getD (home k))
  ahead : ∀ k, ∀ d ∈ w.delivered k, ∀ a, d.sourceInstance = some a → a ≠ home k →
    ∀ n ∈ underWay a (home k) w, d.sequence < n

/-- Numbers in order are unique. -/
theorem InOrder.uniquelyNumbered {w : RealtimeWorld Client} (h : InOrder home w) :
    UniquelyNumbered w where
  increasing := h.increasing
  unique := fun k => (h.increasing k).imp fun hlt heq => absurd (hlt (by rw [heq])) (by
    rw [heq]
    exact lt_irrefl _)

/-- A delivery at `i` that keeps the order: above what the clients have received from its source,
and before what is still under way to them. -/
structure Deliverable (i : InstanceId) (d : Delivery) (w w' : RealtimeWorld Client) : Prop where
  above : ∀ k, home k = i → ∀ d' ∈ w.delivered k, d'.sourceInstance = d.sourceInstance →
    d'.sequence < d.sequence
  drawn : d.sequence ≤ w'.sequences (d.sourceInstance.getD i)
  ahead : ∀ a, d.sourceInstance = some a → a ≠ i → ∀ n ∈ underWay a i w, d.sequence < n

theorem Emitted.sequences_le {i : InstanceId} {rooms : List String} {payload left : JsonObject}
    {w w' : RealtimeWorld Client} (h : Emitted home i rooms payload w w' left) (j : InstanceId) :
    w.sequences j ≤ w'.sequences j := by
  by_cases hj : j = i
  · by_cases hrooms : rooms = []
    · rw [(h.unreached hrooms).1]
    · rw [hj, (h.reached hrooms).2]
      split
      · exact le_refl _
      · exact Nat.le_succ _
  · rw [h.others j hj]

/-- **The emission rule.**  An emission to at most one room of each client keeps the order, if
what it delivers does. -/
theorem InOrder.emitted {i : InstanceId} {rooms : List String} {payload left : JsonObject}
    {w w' : RealtimeWorld Client} (h : InOrder home w)
    (he : Emitted home i rooms payload w w' left)
    (hone : ∀ k, home k = i → rooms.countP (fun room => room ∈ w.rooms k) ≤ 1)
    (hnew : (∃ k, home k = i ∧ ∃ room ∈ rooms, room ∈ w.rooms k) →
      Deliverable home i ⟨sourceInstanceOf payload, numberAt i payload w⟩ w w') :
    InOrder home w' := by
  have hway : ∀ a j, underWay a j w' = underWay a j w := by
    intro a j
    rw [underWay, underWay, he.inbox, he.outgoing]
  have hle : ∀ j, (w.sequences j : ℚ) ≤ w'.sequences j := fun j =>
    Nat.cast_le.mpr (he.sequences_le home j)
  -- a client gets nothing, or one deliverable message
  have hcases : ∀ k, w'.delivered k = w.delivered k ∨
      home k = i ∧ ∃ d, Deliverable home i d w w' ∧ w'.delivered k = w.delivered k ++ [d] := by
    intro k
    rw [he.delivered, deliveries]
    by_cases hk : home k = i
    · rw [if_pos hk]
      rcases Nat.le_one_iff_eq_zero_or_eq_one.mp (hone k hk) with hzero | hcount
      · exact Or.inl (by rw [hzero, List.replicate_zero, List.append_nil])
      · have hpos : 0 < rooms.countP (fun room => room ∈ w.rooms k) := by omega
        obtain ⟨room, hroom, hin⟩ := List.countP_pos_iff.mp hpos
        exact Or.inr ⟨hk, _, hnew ⟨k, hk, room, hroom, of_decide_eq_true hin⟩, by rw [hcount]; rfl⟩
    · exact Or.inl (by rw [if_neg hk, List.replicate_zero, List.append_nil])
  refine ⟨fun j => ?_, fun j => ?_, fun a j => ?_, fun a j n hn => ?_, fun k => ?_,
    fun k d hd => ?_, fun k d hd a ha hak n hn => ?_⟩
  · rw [he.outgoing]
    exact h.published j
  · rw [he.inbox]
    exact h.received j
  · rw [hway]
    exact h.ascending a j
  · rw [hway] at hn
    exact (h.drawn a j n hn).trans (hle a)
  · obtain hsame | ⟨hk, d, hd, hmore⟩ := hcases k
    · rw [hsame]
      exact h.increasing k
    · rw [hmore, List.pairwise_append]
      refine ⟨h.increasing k, List.pairwise_singleton _ _, fun d' hd' d'' hd'' => ?_⟩
      rw [List.mem_singleton.mp hd'']
      exact hd.above k hk d' hd'
  · obtain hsame | ⟨hk, d', hd', hmore⟩ := hcases k
    · rw [hsame] at hd
      exact (h.delivered_drawn k d hd).trans (hle _)
    · rw [hmore] at hd
      rcases List.mem_append.mp hd with hold | hlast
      · exact (h.delivered_drawn k d hold).trans (hle _)
      · rw [List.mem_singleton.mp hlast, hk]
        exact hd'.drawn
  · rw [hway] at hn
    obtain hsame | ⟨hk, d', hd', hmore⟩ := hcases k
    · rw [hsame] at hd
      exact h.ahead k d hd a ha hak n hn
    · rw [hmore] at hd
      rcases List.mem_append.mp hd with hold | hlast
      · exact h.ahead k d hold a ha hak n hn
      · rw [List.mem_singleton.mp hlast] at ha ⊢
        rw [hk] at hak hn
        exact hd'.ahead a ha hak n hn

/-- The next number of an instance, for an event of its own. -/
theorem InOrder.deliverable_own {i : InstanceId} {rooms : List String}
    {payload left : JsonObject} {w w' : RealtimeWorld Client} (h : InOrder home w)
    (he : Emitted home i rooms payload w w' left) (hrooms : rooms ≠ [])
    (hnumber : sequenceOf payload = none) (hsource : (sourceInstanceOf payload).getD i = i) :
    Deliverable home i ⟨sourceInstanceOf payload, numberAt i payload w⟩ w w' := by
  have hnext : numberAt i payload w = w.sequences i + 1 := by
    rw [numberAt, hnumber]
    rfl
  refine ⟨fun k hk d hd heq => ?_, ?_, fun a ha hne => ?_⟩
  · have hle := h.delivered_drawn k d hd
    rw [heq, hk, hsource] at hle
    rw [hnext]
    exact lt_of_le_of_lt hle (lt_add_one _)
  · rw [hsource, (he.reached hrooms).2, hnumber, hnext]
    exact le_of_eq (Nat.cast_succ _).symm
  · simp only at ha
    rw [ha] at hsource
    exact absurd hsource hne

/-! The messages. -/

/-- Messages that go on, or are lost, leave the others in order. -/
theorem InOrder.messages {w w' : RealtimeWorld Client} (h : InOrder home w)
    (hpublished : ∀ i, ∀ message ∈ w'.outgoing i, ∃ a, Stamped a message.2 ∧
      (sequenceOf message.2 = none ∨ a = i))
    (hreceived : ∀ i, ∀ message ∈ w'.inbox i, ∃ a, Stamped a message.2)
    (hway : ∀ a i, (underWay a i w').Sublist (underWay a i w))
    (hsequences : w'.sequences = w.sequences) (hdelivered : w'.delivered = w.delivered) :
    InOrder home w' := by
  refine ⟨hpublished, hreceived, fun a i => (h.ascending a i).sublist (hway a i),
    fun a i n hn => ?_, fun k => ?_, fun k d hd => ?_, fun k d hd a ha hne n hn => ?_⟩
  · rw [hsequences]
    exact h.drawn a i n ((hway a i).subset hn)
  · rw [hdelivered]
    exact h.increasing k
  · rw [hdelivered] at hd
    rw [hsequences]
    exact h.delivered_drawn k d hd
  · rw [hdelivered] at hd
    exact h.ahead k d hd a ha hne n ((hway a (home k)).subset hn)

theorem mem_publish {i j : InstanceId} {message message' : RealtimeMessage}
    {w : RealtimeWorld Client} (h : message' ∈ (publish i message w).outgoing j) :
    message' ∈ w.outgoing j ∨ j = i ∧ message' = message := by
  simp only [publish] at h
  by_cases hj : j = i
  · subst hj
    rw [Function.update_self] at h
    rcases List.mem_append.mp h with hold | hnew
    · exact Or.inl hold
    · exact Or.inr ⟨rfl, List.mem_singleton.mp hnew⟩
  · rw [Function.update_of_ne hj] at h
    exact Or.inl h

theorem underWay_publish_self (i j : InstanceId) (message : RealtimeMessage)
    (w : RealtimeWorld Client) :
    underWay i j (publish i message w) = underWay i j w ++ numbersOf i [message] := by
  simp only [underWay, publish]
  rw [Function.update_self, numbersOf_append, List.append_assoc]

theorem underWay_publish_of_ne {a i : InstanceId} (h : a ≠ i) (j : InstanceId)
    (message : RealtimeMessage) (w : RealtimeWorld Client) :
    underWay a j (publish i message w) = underWay a j w := by
  simp only [underWay, publish]
  rw [Function.update_of_ne h]

/-- A message without a number may be published at any time. -/
theorem InOrder.publish_unnumbered {i a : InstanceId} {message : RealtimeMessage}
    {w : RealtimeWorld Client} (h : InOrder home w) (hstamped : Stamped a message.2)
    (hnumber : sequenceOf message.2 = none) : InOrder home (publish i message w) := by
  refine h.messages home (fun j m hm => ?_) h.received (fun a' j => ?_) rfl rfl
  · obtain hold | ⟨-, rfl⟩ := mem_publish hm
    · exact h.published j m hold
    · exact ⟨a, hstamped, Or.inl hnumber⟩
  · by_cases ha : a' = i
    · rw [ha, underWay_publish_self, numbersOf_eq_nil fun _ => hnumber, List.append_nil]
    · rw [underWay_publish_of_ne ha]

/-- An instance publishes an event of its own under a number above all that it has sent. -/
theorem InOrder.publish_numbered {i : InstanceId} {message : RealtimeMessage} {n : ℚ}
    {w : RealtimeWorld Client} (h : InOrder home w) (hstamped : Stamped i message.2)
    (hnumber : sequenceOf message.2 = some n) (hdrawn : n ≤ w.sequences i)
    (hway : ∀ j, ∀ m ∈ underWay i j w, m < n)
    (hdelivered : ∀ k, ∀ d ∈ w.delivered k, d.sourceInstance = some i → i ≠ home k →
      d.sequence < n) : InOrder home (publish i message w) := by
  have hself : ∀ j, underWay i j (publish i message w) = underWay i j w ++ [n] := fun j => by
    rw [underWay_publish_self, numbersOf_single hstamped.1 hnumber]
  refine ⟨fun j m hm => ?_, h.received, fun a j => ?_, fun a j m hm => ?_, h.increasing,
    h.delivered_drawn, fun k d hd a ha hne m hm => ?_⟩
  · obtain hold | ⟨rfl, rfl⟩ := mem_publish hm
    · exact h.published j m hold
    · exact ⟨j, hstamped, Or.inr rfl⟩
  · by_cases ha : a = i
    · rw [ha, hself, List.pairwise_append]
      refine ⟨h.ascending i j, List.pairwise_singleton _ _, fun m hm m' hm' => ?_⟩
      rw [List.mem_singleton.mp hm']
      exact hway j m hm
    · rw [underWay_publish_of_ne ha]
      exact h.ascending a j
  · by_cases ha : a = i
    · rw [ha, hself] at hm
      rw [ha]
      rcases List.mem_append.mp hm with hold | hnew
      · exact h.drawn i j m hold
      · rw [List.mem_singleton.mp hnew]
        exact hdrawn
    · rw [underWay_publish_of_ne ha] at hm
      exact h.drawn a j m hm
  · by_cases hai : a = i
    · subst hai
      rw [hself] at hm
      rcases List.mem_append.mp hm with hold | hnew
      · exact h.ahead k d hd a ha hne m hold
      · rw [List.mem_singleton.mp hnew]
        exact hdelivered k d hd ha hne
    · rw [underWay_publish_of_ne hai] at hm
      exact h.ahead k d hd a ha hne m hm

/-! The rows. -/

theorem RealtimeRow.sequenceOf_stamped (row : RealtimeRow) (source : InstanceId) :
    sequenceOf (row.stamped source) = none := by
  rw [RealtimeRow.stamped, sequenceOf_set_of_ne (by decide), sequenceOf, row.no_sequence]

theorem RealtimeRow.stamped_stamped (row : RealtimeRow) (source : InstanceId) :
    Stamped source (row.stamped source) := by
  have hstamp : sourceOf (row.stamped source) = some source := by
    rw [sourceOf, JsonObject.string?, RealtimeRow.stamped, JsonObject.get_set_self]
  refine ⟨hstamp, ?_⟩
  rw [sourceInstanceOf, hstamp, RealtimeRow.stamped, string?_set_of_ne (by decide),
    JsonObject.string?, row.no_source]
  rfl

theorem RealtimeRow.sourceInstanceOf_fields (row : RealtimeRow) :
    sourceInstanceOf row.fields = none := by
  rw [sourceInstanceOf, sourceOf, JsonObject.string?, JsonObject.string?, row.no_source,
    row.no_stamp]
  rfl

theorem Numbered.stamped {n : ℕ} {payload marked : JsonObject} {a : InstanceId}
    (h : Numbered n payload marked) (ha : Stamped a payload) : Stamped a marked :=
  ⟨h.stamp.trans ha.1, h.source.trans ha.2⟩

/-! The steps. -/

/-- An instance emits and publishes an event of its own. -/
theorem InOrder.emit {w : RealtimeWorld Client} (h : InOrder home w) (i : InstanceId)
    (name : RealtimeEventName) (source : InstanceId) (row : RealtimeRow)
    (hown : source = i ∨ roomsReached name (row.stamped source) = [])
    (hone : OneRoomEach home i name (row.stamped source) w) :
    InOrder home (publish i (name, (emitEvent home i name (row.stamped source) w).2)
      (emitEvent home i name (row.stamped source) w).1) := by
  have he := emitEvent_emitted home i name (row.stamped source) w
  have hstamped := row.stamped_stamped source
  have hnumber := row.sequenceOf_stamped source
  by_cases hrooms : roomsReached name (row.stamped source) = []
  · have hafter := h.emitted home he hone fun hex => by
      obtain ⟨_, _, room, hroom, _⟩ := hex
      rw [hrooms] at hroom
      exact absurd hroom List.not_mem_nil
    rw [(he.unreached hrooms).2]
    exact hafter.publish_unnumbered home hstamped hnumber
  · obtain rfl : source = i := hown.resolve_right hrooms
    have hafter := h.emitted home he hone fun _ => h.deliverable_own home he hrooms hnumber (by
      rw [hstamped.2]
      rfl)
    obtain ⟨hnumbered, hsequence⟩ := he.reached hrooms
    have hlt : ∀ q : ℚ, q ≤ w.sequences source → q < w.sequences source + 1 := fun q hq =>
      lt_of_le_of_lt hq (lt_add_one _)
    refine hafter.publish_numbered home (hnumbered.stamped hstamped)
      (by rw [hnumbered.number, hnumber]; rfl) ?_ (fun j m hm => hlt m ?_)
      (fun k d hd ha hne => hlt d.sequence ?_)
    · rw [hsequence, hnumber]
      exact le_of_eq (Nat.cast_succ _).symm
    · rw [underWay, he.inbox, he.outgoing] at hm
      exact h.drawn source j m hm
    · rw [he.delivered, deliveries, if_neg (Ne.symm hne), List.replicate_zero,
        List.append_nil] at hd
      have hle := h.delivered_drawn k d hd
      rw [ha] at hle
      exact hle

/-- An instance emits a node install, which names no source, and publishes its stamped copy. -/
theorem InOrder.emitNodeInstallUpdated {w : RealtimeWorld Client} (h : InOrder home w)
    (i : InstanceId) (nodeInstall : RealtimeRow)
    (hone : OneRoomEach home i .nodeInstallUpdated nodeInstall.fields w) :
    InOrder home (publish i (.nodeInstallUpdated, nodeInstall.stamped i)
      (emitEvent home i .nodeInstallUpdated nodeInstall.fields w).1) := by
  have he := emitEvent_emitted home i .nodeInstallUpdated nodeInstall.fields w
  have hafter := h.emitted home he hone fun hex => by
    obtain ⟨_, _, room, hroom, _⟩ := hex
    refine h.deliverable_own home he (List.ne_nil_of_mem hroom) ?_ ?_
    · rw [sequenceOf, nodeInstall.no_sequence]
    · rw [nodeInstall.sourceInstanceOf_fields]
      rfl
  exact hafter.publish_unnumbered home (nodeInstall.stamped_stamped i)
    (nodeInstall.sequenceOf_stamped i)

theorem numbersOf_cons (a : InstanceId) (message : RealtimeMessage)
    (messages : List RealtimeMessage) :
    numbersOf a (message :: messages) = numbersOf a [message] ++ numbersOf a messages :=
  numbersOf_append a [message] messages

theorem update_sublist {f : InstanceId → List RealtimeMessage} {i : InstanceId}
    {messages : List RealtimeMessage} (h : messages.Sublist (f i)) (j : InstanceId) :
    (Function.update f i messages j).Sublist (f j) := by
  by_cases hj : j = i
  · subst hj
    rwa [Function.update_self]
  · rw [Function.update_of_ne hj]

/-- A message that reaches Redis is still under way. -/
theorem InOrder.transmit {w : RealtimeWorld Client} (h : InOrder home w) {i : InstanceId}
    {message : RealtimeMessage} {rest : List RealtimeMessage}
    (hout : w.outgoing i = message :: rest) :
    InOrder home { w with
      outgoing := Function.update w.outgoing i rest
      inbox := fun j => w.inbox j ++ [message] } := by
  obtain ⟨source, hstamped, hown⟩ := h.published i message (by rw [hout]; exact List.mem_cons_self)
  refine h.messages home (fun j m hm => ?_) (fun j m hm => ?_) (fun a j => ?_) rfl rfl
  · refine h.published j m ((update_sublist ?_ j).subset hm)
    rw [hout]
    exact List.sublist_cons_self _ _
  · rcases List.mem_append.mp hm with hold | hnew
    · exact h.received j m hold
    · rw [List.mem_singleton.mp hnew]
      exact ⟨source, hstamped⟩
  · simp only [underWay]
    by_cases ha : a = i
    · subst ha
      rw [Function.update_self, hout, numbersOf_append, numbersOf_cons _ _ rest,
        List.append_assoc]
    · rw [Function.update_of_ne ha, numbersOf_append, numbersOf_eq_nil fun hsource => ?_,
        List.append_nil]
      refine hown.resolve_right fun heq => ha ?_
      rw [← heq]
      exact (Option.some.inj (hsource.symm.trans hstamped.1))

/-- A message may be lost. -/
theorem InOrder.skip {w : RealtimeWorld Client} (h : InOrder home w) (i : InstanceId) :
    InOrder home { w with outgoing := Function.update w.outgoing i (w.outgoing i).tail } := by
  have hsub : ∀ j, (Function.update w.outgoing i (w.outgoing i).tail j).Sublist (w.outgoing j) :=
    update_sublist (List.tail_sublist _)
  exact h.messages home (fun j m hm => h.published j m ((hsub j).subset hm)) h.received
    (fun a j => (List.Sublist.refl _).append ((hsub a).filterMap _)) rfl rfl

/-- A message has reached the bridge. -/
theorem InOrder.forwarded {w : RealtimeWorld Client} (h : InOrder home w) {i : InstanceId}
    {message : RealtimeMessage} {rest : List RealtimeMessage}
    (hin : w.inbox i = message :: rest) :
    InOrder home { w with inbox := Function.update w.inbox i rest } := by
  have hsub : ∀ j, (Function.update w.inbox i rest j).Sublist (w.inbox j) :=
    update_sublist (by
      rw [hin]
      exact List.sublist_cons_self _ _)
  exact h.messages home h.published (fun j m hm => h.received j m ((hsub j).subset hm))
    (fun a j => ((hsub j).filterMap _).append (List.Sublist.refl _)) rfl rfl

/-- The bridge emits the message of another instance. -/
theorem InOrder.forward {w : RealtimeWorld Client} (h : InOrder home w) {i : InstanceId}
    {name : RealtimeEventName} {payload : JsonObject} {rest : List RealtimeMessage}
    (hin : w.inbox i = (name, payload) :: rest) (hother : isSameInstance payload i = false)
    (hnumbered : sequenceOf payload = none →
      ∀ k, home k = i → ∀ room ∈ roomsReached name payload, room ∉ w.rooms k)
    (hone : OneRoomEach home i name payload w) :
    InOrder home (emitEvent home i name payload
      { w with inbox := Function.update w.inbox i rest }).1 := by
  have hmem : (name, payload) ∈ w.inbox i := by
    rw [hin]
    exact List.mem_cons_self
  obtain ⟨a, hstamp, hsource⟩ := h.received i (name, payload) hmem
  have hne : a ≠ i := by
    rintro rfl
    simp [isSameInstance, hstamp] at hother
  have he := emitEvent_emitted home i name payload
    { w with inbox := Function.update w.inbox i rest }
  refine (h.forwarded home hin).emitted home he hone fun hex => ?_
  obtain ⟨k, hk, room, hroom, hjoined⟩ := hex
  cases hnumber : sequenceOf payload with
  | none => exact absurd hjoined (hnumbered hnumber k hk room hroom)
  | some n =>
      -- the number was drawn by its source, and heads what is under way from there
      have hway : underWay a i w
          = n :: underWay a i { w with inbox := Function.update w.inbox i rest } := by
        simp only [underWay]
        rw [hin, numbersOf_cons, numbersOf_single hstamp hnumber, Function.update_self]
        rfl
      have hascending := h.ascending a i
      rw [hway, List.pairwise_cons] at hascending
      have hmem : n ∈ underWay a i w := by
        rw [hway]
        exact List.mem_cons_self
      simp only [numberAt, hnumber, hsource, Option.getD_some]
      refine ⟨fun k' hk' d hd heq => ?_, ?_, fun a' ha' _ m hm => ?_⟩
      · refine h.ahead k' d hd a heq ?_ n ?_
        · rw [hk']
          exact hne
        · rw [hk']
          exact hmem
      · refine (h.drawn a i n hmem).trans ?_
        exact Nat.cast_le.mpr (he.sequences_le home a)
      · obtain rfl := Option.some.inj ha'
        exact hascending.1 m hm

/-- **The step lemma.** -/
theorem InOrder.step [DecidableEq Client] (w : RealtimeWorld Client) (step : RealtimeStep Client)
    (h : InOrder home w) (hown : NumbersOwn home w step) :
    InOrder home (realtimeStep home w step) := by
  cases step with
  | emit i name source row => exact h.emit home i name source row hown.1 hown.2
  | emitNodeInstallUpdated i nodeInstall =>
      exact h.emitNodeInstallUpdated home i nodeInstall hown
  | transmit i =>
      simp only [realtimeStep]
      split
      next => exact h
      next message rest hout => exact h.transmit home hout
  | skip i => exact h.skip home i
  | forward i =>
      simp only [realtimeStep]
      split
      next => exact h
      next name payload rest hin =>
        cases hsame : isSameInstance payload i with
        | true => exact h.forwarded home hin
        | false =>
            have hguard := hown (name, payload) (by rw [hin]; rfl) hsame
            exact h.forward home hin hsame hguard.1 hguard.2
  | join k room =>
      exact h.messages home h.published h.received (fun _ _ => List.Sublist.refl _) rfl rfl
  | leave k room =>
      exact h.messages home h.published h.received (fun _ _ => List.Sublist.refl _) rfl rfl

/-- Nothing has been sent. -/
theorem InOrder.start (rooms : Client → List String) : InOrder home { rooms } where
  published := fun _ _ hm => absurd hm List.not_mem_nil
  received := fun _ _ hm => absurd hm List.not_mem_nil
  ascending := fun _ _ => List.Pairwise.nil
  drawn := fun _ _ _ hn => absurd hn List.not_mem_nil
  increasing := fun _ => List.Pairwise.nil
  delivered_drawn := fun _ _ hd => absurd hd List.not_mem_nil
  ahead := fun _ _ hd => absurd hd List.not_mem_nil

/-- **Numbers of their own.**  In a run in which no instance numbers the event of another one, and
no client is in both rooms of an event, every client receives unique and increasing numbers from
each source. -/
theorem uniquelyNumbered_along [DecidableEq Client] (rooms : Client → List String)
    (steps : List (RealtimeStep Client))
    (hown : Along (realtimeStep home) (NumbersOwn home) { rooms } steps) :
    UniquelyNumbered (run (realtimeStep home) { rooms } steps) := by
  have hinv : InOrder home (run (realtimeStep home) { rooms } steps) :=
    inv_run (InOrder.step home) (InOrder.start home rooms) hown
  exact hinv.uniquelyNumbered

end Invariant

/-! Two runs. -/

instance {Client : Type} [Fintype Client] (home : Client → InstanceId) (i : InstanceId)
    (name : RealtimeEventName) (payload : JsonObject) (w : RealtimeWorld Client) :
    Decidable (OneRoomEach home i name payload w) :=
  inferInstanceAs (Decidable (∀ k, home k = i →
    (roomsReached name payload).countP (fun room => room ∈ w.rooms k) ≤ 1))

instance {Client : Type} [Fintype Client] (home : Client → InstanceId)
    (w : RealtimeWorld Client) (step : RealtimeStep Client) : Decidable (NumbersOwn home w step) :=
  match step with
  | .emit i name source row => inferInstanceAs (Decidable
      ((source = i ∨ roomsReached name (row.stamped source) = []) ∧
        OneRoomEach home i name (row.stamped source) w))
  | .emitNodeInstallUpdated i nodeInstall =>
      inferInstanceAs (Decidable (OneRoomEach home i .nodeInstallUpdated nodeInstall.fields w))
  | .forward i => inferInstanceAs (Decidable
      (∀ message ∈ (w.inbox i).head?, isSameInstance message.2 i = false →
        (sequenceOf message.2 = none →
          ∀ k, home k = i → ∀ room ∈ roomsReached message.1 message.2, room ∉ w.rooms k) ∧
        OneRoomEach home i message.1 message.2 w))
  | .transmit _ | .skip _ | .join _ _ | .leave _ _ => .isTrue trivial

/-- A metric of a node, and a node install, in one workspace. -/
def metricRow : RealtimeRow where
  fields := [("nodeId", .str "n"), ("workspaceId", .str "w"), ("cpu", .num 7)]
  no_sequence := by decide
  no_source := by decide
  no_stamp := by decide

def nodeInstallRow : RealtimeRow where
  fields := [("installId", .str "i"), ("workspaceId", .str "w"), ("stage", .str "started")]
  no_sequence := by decide
  no_source := by decide
  no_stamp := by decide

/-- Two metrics of one instance, for a client of each instance. -/
theorem uniquelyNumbered_along_metrics :
    UniquelyNumbered (run (realtimeStep fun k : Fin 2 => if k = 0 then "a" else "b")
      { rooms := fun _ => ["workspace:w"] }
      [.emit "a" .metricsIngested "a" metricRow, .transmit "a", .forward "a", .forward "b",
        .emit "a" .metricsIngested "a" metricRow, .transmit "a", .forward "b"]) :=
  uniquelyNumbered_along _ _ _ (by decide +kernel)

/-- A metric of `a` and a node install of `a` reach the bridge of `b`. -/
def metricThenNodeInstall : List (RealtimeStep (Fin 1)) :=
  [.emit "a" .metricsIngested "a" metricRow, .transmit "a", .forward "b",
    .emitNodeInstallUpdated "a" nodeInstallRow, .transmit "a", .forward "b"]

/-- **The copy of a node install.**  The instance `b` numbers the copy that `a` has published: its
client receives the number 1 from `a` for the metric, and again for the node install. -/
theorem nodeInstallCopy_renumbered :
    (run (realtimeStep fun _ => "b") { rooms := fun _ => ["workspace:w"] }
      metricThenNodeInstall).delivered 0 = [⟨some "a", 1⟩, ⟨some "a", 1⟩] ∧
    ¬ ∀ steps, UniquelyNumbered (run (realtimeStep fun _ : Fin 1 => "b")
      { rooms := fun _ => ["workspace:w"] } steps) := by
  have hdelivered : (run (realtimeStep fun _ => "b") { rooms := fun _ => ["workspace:w"] }
      metricThenNodeInstall).delivered 0 = [⟨some "a", 1⟩, ⟨some "a", 1⟩] := by
    decide +kernel
  refine ⟨hdelivered, fun hall => ?_⟩
  have hunique := (hall metricThenNodeInstall).unique 0
  rw [hdelivered] at hunique
  exact absurd hunique (by decide)

end RealtimeSequences
