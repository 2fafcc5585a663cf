/-
# Realtime rooms

The gateway of `realtime.gateway.ts` with its guards and services: sockets that authenticate,
join the rooms of their workspaces and subscribe to others, and the events that go to the rooms.
The calls are cut at their queries; while one waits, memberships, nodes and users may change, and
the socket may disconnect.  A room is not left when the membership that opened it ends.

**`outsider_hears_nothing`**: a user who is never a member of a workspace, and never a platform
administrator, receives no event of the workspace or of its nodes.

The sockets are those of one instance, numbered as they connect; an event that comes over Redis
is emitted like one of the instance itself.
-/
import NoderaxApi.AuthService
import NoderaxApi.Interleaving
import NoderaxApi.Notifications
import NoderaxApi.RealtimeSequences
import NoderaxApi.TokenPurposes

namespace RealtimeGateway

open AuthService Interleaving NotificationsService RealtimeFanOut RealtimeSequences Runs

/-! ## Tables and sockets -/

/-- The columns of a node that the authorization reads. -/
structure RealtimeNode where
  id : Uuid
  workspaceId : Uuid
  deriving DecidableEq, Repr

/-- The tables. -/
structure RealtimeTables where
  users : List UserEntity
  workspaces : List Uuid
  memberships : List WorkspaceMembershipEntity
  nodes : List RealtimeNode

/-- A socket that has authenticated: `client.data.user`, and the rooms it is in. -/
structure RealtimeSocket where
  user : AuthenticatedUser
  rooms : List String := []
  connected : Bool := true
  deriving DecidableEq, Repr

/-- `REALTIME_ERROR_CODES` of the guards. -/
inductive RealtimeErrorCode
  | badRequest
  | forbidden
  | notFound
  deriving DecidableEq, Repr

/-- A `WsException`. -/
structure WsException where
  code : RealtimeErrorCode
  message : String
  deriving DecidableEq, Repr

/-- What a socket receives. -/
structure RoomDelivery where
  socket : ℕ
  user : AuthenticatedUser
  payload : JsonObject

/-- The tables, the sockets, the counter of the gateway, what the sockets have received, the
answers to their subscriptions, and the messages of refused connections. -/
structure RoomsWorld where
  tables : RealtimeTables
  sockets : List RealtimeSocket := []
  sequence : ℕ := 0
  delivered : List RoomDelivery := []
  answers : List (ℕ × Except WsException String) := []
  refused : List String := []

/-! ## Authentication -/

/-- The parts of a handshake that can carry a token. -/
structure Handshake where
  auth : JsonObject := []
  authorization : Option String := none

/-- `normalizeToken`.  Only ASCII letters have a lower case among those of `bearer`. -/
def normalizeToken : Option Json → Option String
  | some (.str value) =>
      let trimmedValue := jsTrim value
      if trimmedValue = "" then none
      else if (trimmedValue.toList.take 7).map Char.toLower = "bearer ".toList then
        let bearerToken := jsTrim (String.ofList (trimmedValue.toList.drop 7))
        if bearerToken = "" then none else some bearerToken
      else some trimmedValue
  | _ => none

/-- `auth?.token ?? auth?.accessToken ?? auth?.authorization`. -/
def handshakeToken (auth : JsonObject) : Option Json :=
  ["token", "accessToken", "authorization"].findSome? fun key =>
    match auth.get key with
    | none | some .null => none
    | some value => some value

/-- `extractAccessToken`. -/
def extractAccessToken (handshake : Handshake) : Option String :=
  (normalizeToken (handshakeToken handshake.auth)).or
    (normalizeToken (handshake.authorization.map .str))

/-- The message of a refused connection. -/
def refusalMessage : ThrownError → String
  | .http error => error.message
  | _ => "Authentication failed"

/-! ## Rooms -/

/-- `client.join`, which a socket that has gone does not do any more. -/
def RealtimeSocket.join (room : String) (socket : RealtimeSocket) : RealtimeSocket :=
  if socket.connected then { socket with rooms := room :: socket.rooms } else socket

/-- `client.leave`. -/
def RealtimeSocket.leave (room : String) (socket : RealtimeSocket) : RealtimeSocket :=
  { socket with rooms := socket.rooms.filter (· ≠ room) }

/-- A disconnected socket is in no room. -/
def RealtimeSocket.disconnect (socket : RealtimeSocket) : RealtimeSocket :=
  { socket with rooms := [], connected := false }

/-- A change of one socket. -/
def RoomsWorld.modify (w : RoomsWorld) (s : ℕ) (f : RealtimeSocket → RealtimeSocket) : RoomsWorld :=
  { w with sockets := w.sockets.modify s f }

/-- `.to(room).emit(…)`: every socket in the room receives the payload. -/
def RoomsWorld.deliver (w : RoomsWorld) (room : String) (payload : JsonObject) : RoomsWorld :=
  { w with
    delivered := w.delivered ++ w.sockets.zipIdx.filterMap fun entry =>
      if room ∈ entry.1.rooms then some ⟨entry.2, entry.1.user, payload⟩ else none }

/-- The emission of an event along its routes. -/
def emitRoutes : List (String × String) → JsonObject → RoomsWorld → RoomsWorld
  | [], _, w => w
  | (roomPrefix, field) :: routes, payload, w =>
      let emitted := emitToRoom roomPrefix field w.sequence payload
      emitRoutes routes emitted.2.1
        (emitted.2.2.foldl (fun w room => w.deliver room emitted.2.1)
          { w with sequence := emitted.1 })

/-! ## Calls -/

/-- The four messages of a client that name a room. -/
inductive SubscriptionMessage
  | subscribeNode
  | unsubscribeNode
  | subscribeWorkspace
  | unsubscribeWorkspace
  deriving DecidableEq, Repr

/-- Whether the message is about a node; else it is about a workspace. -/
def SubscriptionMessage.ofNode : SubscriptionMessage → Bool
  | .subscribeNode | .unsubscribeNode => true
  | .subscribeWorkspace | .unsubscribeWorkspace => false

/-- The word for what it is about. -/
def SubscriptionMessage.noun (message : SubscriptionMessage) : String :=
  if message.ofNode then "node" else "workspace"

/-- The field of its id. -/
def SubscriptionMessage.field (message : SubscriptionMessage) : String := message.noun ++ "Id"

/-- The room of an id. -/
def SubscriptionMessage.room (message : SubscriptionMessage) (id : Uuid) : String :=
  message.noun ++ ":" ++ id

/-- What the handler does with the socket. -/
def SubscriptionMessage.handle (message : SubscriptionMessage) (id : Uuid) :
    RealtimeSocket → RealtimeSocket :=
  match message with
  | .subscribeNode | .subscribeWorkspace => RealtimeSocket.join (message.room id)
  | .unsubscribeNode | .unsubscribeWorkspace => RealtimeSocket.leave (message.room id)

/-- A connection, or a message of a socket. -/
inductive RealtimeRequest
  | connect (handshake : Handshake)
  | subscription (message : SubscriptionMessage) (socket : ℕ) (payload : JsonObject)

/-- What a call awaits. -/
inductive PendingRealtimeCall
  /-- `verifyAccessToken`. -/
  | authenticating (token : String)
  /-- The two queries of `findAccessibleWorkspaces`. -/
  | findingWorkspaces (socket : ℕ) (user : AuthenticatedUser)
  | findingRoles (socket : ℕ) (user : AuthenticatedUser) (workspaces : List Uuid)
  /-- A join of `joinAccessibleWorkspaceRooms`, with the workspaces that are left. -/
  | joining (socket : ℕ) (user : AuthenticatedUser) (workspaces : List Uuid)
  /-- The queries of `assertCanAccessNode` and `assertCanAccessWorkspace`. -/
  | findingNode (message : SubscriptionMessage) (socket : ℕ) (user : AuthenticatedUser) (id : Uuid)
  | findingWorkspace (message : SubscriptionMessage) (socket : ℕ) (user : AuthenticatedUser)
      (id : Uuid)
  | findingMembership (message : SubscriptionMessage) (socket : ℕ) (user : AuthenticatedUser)
      (id workspaceId : Uuid)

/-- The clock, and whether the query fails. -/
structure RealtimeInput where
  now : ℤ := 0
  fails : Bool := false

/-- A step of a call. -/
abbrev RealtimeCallStep := RoomsWorld × Option PendingRealtimeCall

/-- The answer to a message. -/
def RoomsWorld.answer (w : RoomsWorld) (s : ℕ) (answer : Except WsException String) : RoomsWorld :=
  { w with answers := w.answers ++ [(s, answer)] }

/-- The guards let the message through, and its handler runs. -/
def handleMessage (message : SubscriptionMessage) (s : ℕ) (id : Uuid) (w : RoomsWorld) :
    RealtimeCallStep :=
  ((w.modify s (message.handle id)).answer s (.ok id), none)

/-- A guard throws. -/
def denyMessage (s : ℕ) (code : RealtimeErrorCode) (text : String) (w : RoomsWorld) :
    RealtimeCallStep :=
  (w.answer s (.error ⟨code, text⟩), none)

/-- The next round of `joinAccessibleWorkspaceRooms`. -/
def joinNext (s : ℕ) (user : AuthenticatedUser) (w : RoomsWorld) : List Uuid → RealtimeCallStep
  | [] => (w, none)
  | workspaceId :: rest =>
      (w.modify s (RealtimeSocket.join ("workspace:" ++ workspaceId)), some (.joining s user rest))

/-- Whether `findMembershipForUser` finds a row. -/
def hasMembership (tables : RealtimeTables) (workspaceId userId : Uuid) : Bool :=
  tables.memberships.any fun row => row.workspaceId = workspaceId && row.userId = userId

section

variable (platform : AuthPlatform String)

/-- The start of a call. -/
def invokeRealtime (request : RealtimeRequest) (_ : RealtimeInput) (w : RoomsWorld) :
    RealtimeCallStep :=
  match request with
  | .connect handshake =>
      match extractAccessToken handshake with
      | none => ({ w with refused := w.refused ++ ["Missing authentication token"] }, none)
      | some token => (w, some (.authenticating token))
  | .subscription message s payload =>
      match w.sockets[s]? with
      | none => (w, none)
      | some socket =>
          if !socket.connected then (w, none)
          else
            match payload.string? message.field with
            | none | some "" =>
                denyMessage s .badRequest
                  s!"{message.field} is required for {message.noun} subscriptions" w
            | some id =>
                if message.ofNode then (w, some (.findingNode message s socket.user id))
                else (w, some (.findingWorkspace message s socket.user id))

/-- A query of a call is answered. -/
def answerRealtime (call : PendingRealtimeCall) (input : RealtimeInput) (w : RoomsWorld) :
    RealtimeCallStep :=
  match call with
  | .authenticating token =>
      match verifyAccessToken platform w.tables.users token input.now with
      | .error error => ({ w with refused := w.refused ++ [refusalMessage error] }, none)
      | .ok user =>
          ({ w with sockets := w.sockets ++ [{ user }] },
            some (.findingWorkspaces w.sockets.length user))
  | .findingWorkspaces s user =>
      if user.role = .platformAdmin then joinNext s user w w.tables.workspaces
      else
        match w.tables.workspaces.filter fun id => hasMembership w.tables id user.id with
        | [] => (w, none)
        | workspaces => (w, some (.findingRoles s user workspaces))
  | .findingRoles s user workspaces => joinNext s user w workspaces
  | .joining s user workspaces => joinNext s user w workspaces
  | .findingNode message s user id =>
      match w.tables.nodes.find? (·.id = id) with
      | none => denyMessage s .notFound s!"Node {id} was not found" w
      | some node =>
          if user.role = .platformAdmin then handleMessage message s id w
          else (w, some (.findingMembership message s user id node.workspaceId))
  | .findingWorkspace message s user id =>
      if id ∉ w.tables.workspaces then denyMessage s .notFound s!"Workspace {id} was not found" w
      else if user.role = .platformAdmin then handleMessage message s id w
      else (w, some (.findingMembership message s user id id))
  | .findingMembership message s user id workspaceId =>
      if hasMembership w.tables workspaceId user.id then handleMessage message s id w
      else denyMessage s .forbidden s!"You are not allowed to access this {message.noun}" w

/-- A query of a call fails. -/
def failRealtime (call : PendingRealtimeCall) (w : RoomsWorld) : RealtimeCallStep :=
  match call with
  | .authenticating _ => ({ w with refused := w.refused ++ [refusalMessage .other] }, none)
  | .findingWorkspaces .. | .findingRoles .. | .joining .. => (w, none)
  | .findingNode message s _ _ | .findingWorkspace message s _ _
  | .findingMembership message s _ _ _ =>
      denyMessage s .forbidden s!"Unable to authorize {message.noun} subscription" w

/-- A step of a call that waits. -/
def resumeRealtime (call : PendingRealtimeCall) (input : RealtimeInput) (w : RoomsWorld) :
    RealtimeCallStep :=
  if input.fails then failRealtime call w else answerRealtime platform call input w

/-- What else happens: the tables change, a socket disconnects, an event is emitted. -/
inductive RealtimeChange
  | setUsers (users : List UserEntity)
  | addMembership (row : WorkspaceMembershipEntity)
  | removeMembership (workspaceId userId : Uuid)
  | createWorkspace (id : Uuid)
  | deleteWorkspace (id : Uuid)
  | createNode (node : RealtimeNode)
  | deleteNode (id : Uuid)
  | disconnect (socket : ℕ)
  | emit (name : RealtimeEventName) (payload : JsonObject)

/-- One change. -/
def realtimeEnv (change : RealtimeChange) (w : RoomsWorld) : RoomsWorld :=
  match change with
  | .setUsers users => { w with tables := { w.tables with users } }
  | .addMembership row =>
      { w with tables := { w.tables with memberships := w.tables.memberships ++ [row] } }
  | .removeMembership workspaceId userId =>
      { w with tables := { w.tables with memberships := w.tables.memberships.filter fun row =>
          ¬ (row.workspaceId = workspaceId ∧ row.userId = userId) } }
  | .createWorkspace id =>
      { w with tables := { w.tables with workspaces := w.tables.workspaces ++ [id] } }
  | .deleteWorkspace id =>
      { w with tables := { w.tables with
          workspaces := w.tables.workspaces.filter (· ≠ id)
          memberships := w.tables.memberships.filter fun row => row.workspaceId ≠ id
          nodes := w.tables.nodes.filter fun node => node.workspaceId ≠ id } }
  | .createNode node => { w with tables := { w.tables with nodes := w.tables.nodes ++ [node] } }
  | .deleteNode id =>
      { w with tables := { w.tables with nodes := w.tables.nodes.filter fun node => node.id ≠ id } }
  | .disconnect s => w.modify s RealtimeSocket.disconnect
  | .emit name payload => emitRoutes name.routes payload w

/-- The calls of the gateway. -/
def realtimeCalls : Calls RoomsWorld RealtimeRequest PendingRealtimeCall RealtimeInput :=
  ⟨invokeRealtime, resumeRealtime platform⟩

/-- The calls under way. -/
abbrev RealtimeConfig := Config ℕ RoomsWorld PendingRealtimeCall

/-- What happens next. -/
abbrev RealtimeEvent := Event ℕ RealtimeRequest RealtimeInput RealtimeChange

/-- One event. -/
abbrev roomsStep : RealtimeConfig → RealtimeEvent → RealtimeConfig :=
  step (realtimeCalls platform) realtimeEnv

end

/-! ## What an outsider hears -/

section

variable (home : Uuid → Uuid) (userId workspaceId : Uuid)

/-- The payload is about the workspace, or about one of its nodes. -/
def Concerns (payload : JsonObject) : Prop :=
  payload.string? "workspaceId" = some workspaceId ∨
    ∃ nodeId, payload.string? "nodeId" = some nodeId ∧ home nodeId = workspaceId

/-- The room hears of the workspace. -/
def RoomOf (room : String) : Prop :=
  room = "workspace:" ++ workspaceId ∨
    ∃ nodeId, home nodeId = workspaceId ∧ room = "node:" ++ nodeId

/-- The user is not an administrator of the platform and not a member of the workspace, and every
node is in its workspace. -/
structure Outside (tables : RealtimeTables) : Prop where
  users : ∀ user ∈ tables.users, user.id = userId → user.role ≠ .platformAdmin
  memberships : ∀ row ∈ tables.memberships, ¬ (row.workspaceId = workspaceId ∧ row.userId = userId)
  nodes : ∀ node ∈ tables.nodes, node.workspaceId = home node.id

/-- A change that leaves the user outside.  The nodes that are created stay in their workspace,
and events of a node are events of its workspace. -/
def LeavesOutside : RealtimeChange → Prop
  | .setUsers users => ∀ user ∈ users, user.id = userId → user.role ≠ .platformAdmin
  | .addMembership row => ¬ (row.workspaceId = workspaceId ∧ row.userId = userId)
  | .createNode node => node.workspaceId = home node.id
  | .emit _ payload => ∀ nodeId, payload.string? "nodeId" = some nodeId →
      ∀ id, payload.string? "workspaceId" = some id → id = home nodeId
  | _ => True

/-- The user's sockets are in no room of the workspace, and have received nothing about it. -/
structure KeptOut (w : RoomsWorld) : Prop where
  tables : Outside home userId workspaceId w.tables
  sockets : ∀ socket ∈ w.sockets, socket.user.id = userId →
    socket.user.role ≠ .platformAdmin ∧ ∀ room ∈ socket.rooms, ¬ RoomOf home workspaceId room
  delivered : ∀ delivery ∈ w.delivered, delivery.user.id = userId →
    ¬ Concerns home workspaceId delivery.payload

/-- The socket is the user's. -/
def SocketOf (w : RoomsWorld) (s : ℕ) (user : AuthenticatedUser) : Prop :=
  (w.sockets.map (·.user))[s]? = some user

/-- What a call that waits has found out. -/
def Found (w : RoomsWorld) : PendingRealtimeCall → Prop
  | .authenticating _ => True
  | .findingWorkspaces s user => SocketOf w s user
  | .findingRoles s user workspaces | .joining s user workspaces =>
      SocketOf w s user ∧ (user.id = userId → workspaceId ∉ workspaces)
  | .findingNode message s user _ => SocketOf w s user ∧ message.ofNode = true
  | .findingWorkspace message s user _ => SocketOf w s user ∧ message.ofNode = false
  | .findingMembership message s user id found =>
      SocketOf w s user ∧ found = if message.ofNode then home id else id

/-! Changes of sockets and of what they have received. -/

variable {home userId workspaceId} {w : RoomsWorld}

theorem mem_modify {α : Type} {l : List α} {i : ℕ} {f : α → α} {x : α} (h : x ∈ l.modify i f) :
    x ∈ l ∨ ∃ y, l[i]? = some y ∧ x = f y := by
  obtain ⟨j, hj⟩ := List.mem_iff_getElem?.mp h
  by_cases hij : i = j
  · subst hij
    rw [List.getElem?_modify_eq] at hj
    obtain ⟨y, hy, rfl⟩ := Option.map_eq_some_iff.mp hj
    exact Or.inr ⟨y, hy, rfl⟩
  · rw [List.getElem?_modify_ne f l hij] at hj
    exact Or.inl (List.mem_of_getElem? hj)

theorem users_modify {s : ℕ} {f : RealtimeSocket → RealtimeSocket} (hf : ∀ x, (f x).user = x.user) :
    (w.modify s f).sockets.map (·.user) = w.sockets.map (·.user) := by
  apply List.ext_getElem?
  intro i
  show ((w.sockets.modify s f).map (·.user))[i]? = _
  rw [List.getElem?_map, List.getElem?_map]
  by_cases hi : s = i
  · subst hi
    rw [List.getElem?_modify_eq]
    cases w.sockets[s]? with
    | none => rfl
    | some socket => exact congrArg some (hf socket)
  · rw [List.getElem?_modify_ne f _ hi]

/-- The change of one socket that keeps its user, and its rooms within bounds. -/
theorem KeptOut.modify (h : KeptOut home userId workspaceId w) {s : ℕ}
    {f : RealtimeSocket → RealtimeSocket} (hf : ∀ x, (f x).user = x.user)
    (hrooms : ∀ socket, w.sockets[s]? = some socket → socket.user.id = userId →
      ∀ room ∈ (f socket).rooms, room ∈ socket.rooms ∨ ¬ RoomOf home workspaceId room) :
    KeptOut home userId workspaceId (w.modify s f) where
  tables := h.tables
  sockets := by
    intro socket' hsocket' huser
    rcases mem_modify hsocket' with hold | ⟨socket, hsocket, rfl⟩
    · exact h.sockets socket' hold huser
    · rw [hf] at huser ⊢
      obtain ⟨hrole, hold⟩ := h.sockets socket (List.mem_of_getElem? hsocket) huser
      refine ⟨hrole, fun room hroom => ?_⟩
      rcases hrooms socket hsocket huser room hroom with hmem | hnot
      · exact hold room hmem
      · exact hnot
  delivered := h.delivered

theorem RealtimeSocket.join_user (room : String) (socket : RealtimeSocket) :
    (socket.join room).user = socket.user := by
  unfold RealtimeSocket.join
  split <;> rfl

theorem KeptOut.join (h : KeptOut home userId workspaceId w) {s : ℕ} {user : AuthenticatedUser}
    (hsocket : SocketOf w s user) {room : String}
    (hroom : user.id = userId → ¬ RoomOf home workspaceId room) :
    KeptOut home userId workspaceId (w.modify s (RealtimeSocket.join room)) := by
  refine h.modify (RealtimeSocket.join_user room) fun socket hs huser other hother => ?_
  have hsame : socket.user = user := by
    unfold SocketOf at hsocket
    rw [List.getElem?_map, hs] at hsocket
    exact Option.some.inj hsocket
  unfold RealtimeSocket.join at hother
  split at hother
  · rcases List.mem_cons.mp hother with rfl | hmem
    · exact Or.inr (hroom (hsame ▸ huser))
    · exact Or.inl hmem
  · exact Or.inl hother

theorem KeptOut.leave (h : KeptOut home userId workspaceId w) (s : ℕ) (room : String) :
    KeptOut home userId workspaceId (w.modify s (RealtimeSocket.leave room)) :=
  h.modify (fun _ => rfl) fun _ _ _ _ hother => Or.inl (List.mem_of_mem_filter hother)

/-- A room of the workspace is not one that the user's sockets are in. -/
theorem KeptOut.deliver (h : KeptOut home userId workspaceId w) {room : String}
    {payload : JsonObject}
    (hroom : Concerns home workspaceId payload → RoomOf home workspaceId room) :
    KeptOut home userId workspaceId (w.deliver room payload) where
  tables := h.tables
  sockets := h.sockets
  delivered := by
    intro delivery hdelivery huser hconcerns
    rcases List.mem_append.mp hdelivery with hold | hnew
    · exact h.delivered delivery hold huser hconcerns
    · obtain ⟨⟨socket, s⟩, hentry, hreceived⟩ := List.mem_filterMap.mp hnew
      split at hreceived
      next hmem =>
        obtain rfl := Option.some.inj hreceived
        have hsocket : socket ∈ w.sockets := List.fst_mem_of_mem_zipIdx hentry
        exact (h.sockets socket hsocket huser).2 room hmem (hroom hconcerns)
      next => exact absurd hreceived (by simp)

/-- The marks of the gateway leave the other fields alone. -/
theorem string?_withRealtimeMeta {sequence : ℕ} {payload : JsonObject} {key : String}
    (h : key ∈ ["nodeId", "workspaceId"]) :
    (withRealtimeMeta sequence payload).2.string? key = payload.string? key := by
  have hne : key ≠ "meta" ∧ key ≠ "sourceInstance" ∧ key ≠ "sequence" := by
    simp only [List.mem_cons, List.not_mem_nil, or_false] at h
    rcases h with rfl | rfl <;> decide
  rw [withRealtimeMeta_eq]
  exact (string?_set_of_ne hne.1).trans
    ((string?_withSource hne.2.1).trans (string?_withSequence hne.2.2))

/-- The routes of the events. -/
def isRoute (route : String × String) : Prop :=
  route = ("node:", "nodeId") ∨ route = ("workspace:", "workspaceId")

theorem KeptOut.emitRoutes {routes : List (String × String)}
    (hroutes : ∀ route ∈ routes, isRoute route) {payload : JsonObject}
    (hpayload : ∀ nodeId, payload.string? "nodeId" = some nodeId →
      ∀ id, payload.string? "workspaceId" = some id → id = home nodeId)
    (h : KeptOut home userId workspaceId w) :
    KeptOut home userId workspaceId (emitRoutes routes payload w) := by
  induction routes generalizing payload w with
  | nil => exact h
  | cons route routes ih =>
      obtain ⟨roomPrefix, field⟩ := route
      have hrest : ∀ r ∈ routes, isRoute r := fun r hr => hroutes r (List.mem_cons_of_mem _ hr)
      unfold RealtimeGateway.emitRoutes emitToRoom
      split
      next => exact ih hrest hpayload h
      next room hroom =>
          have hnode : (withRealtimeMeta w.sequence payload).2.string? "nodeId"
              = payload.string? "nodeId" := string?_withRealtimeMeta (by simp)
          have hworkspace : (withRealtimeMeta w.sequence payload).2.string? "workspaceId"
              = payload.string? "workspaceId" := string?_withRealtimeMeta (by simp)
          refine ih hrest (by rw [hnode, hworkspace]; exact hpayload) ?_
          have hcounted : KeptOut home userId workspaceId
              { w with sequence := (withRealtimeMeta w.sequence payload).1 } :=
            ⟨h.tables, h.sockets, h.delivered⟩
          refine hcounted.deliver fun hconcerns => ?_
          unfold Concerns at hconcerns
          rw [hnode, hworkspace] at hconcerns
          unfold roomOf at hroom
          split at hroom
          next => exact absurd hroom (by simp)
          next => exact absurd hroom (by simp)
          next id _ hid =>
            obtain rfl := Option.some.inj hroom
            rcases hroutes _ List.mem_cons_self with hroute | hroute
            · obtain ⟨rfl, rfl⟩ := Prod.mk.inj hroute
              refine Or.inr ⟨id, ?_, rfl⟩
              rcases hconcerns with hself | ⟨nodeId, hnodeId, hhome⟩
              · exact (hpayload id hid _ hself).symm
              · rw [hid] at hnodeId
                rw [Option.some.inj hnodeId]
                exact hhome
            · obtain ⟨rfl, rfl⟩ := Prod.mk.inj hroute
              refine Or.inl ?_
              rcases hconcerns with hself | ⟨nodeId, hnodeId, hhome⟩
              · rw [hid] at hself
                rw [Option.some.inj hself]
              · rw [hpayload nodeId hnodeId id hid, hhome]

/-! Rooms. -/

theorem not_roomOf_workspace {id : Uuid} (h : id ≠ workspaceId) :
    ¬ RoomOf home workspaceId ("workspace:" ++ id) := by
  rintro (heq | ⟨nodeId, _, heq⟩)
  · exact h (String.append_right_inj _ |>.mp heq)
  · have hlist := congrArg String.toList heq
    rw [String.toList_append, String.toList_append] at hlist
    exact absurd (List.cons.inj hlist).1 (by decide)

theorem not_roomOf_node {id : Uuid} (h : home id ≠ workspaceId) :
    ¬ RoomOf home workspaceId ("node:" ++ id) := by
  rintro (heq | ⟨nodeId, hhome, heq⟩)
  · have hlist := congrArg String.toList heq
    rw [String.toList_append, String.toList_append] at hlist
    exact absurd (List.cons.inj hlist).1 (by decide)
  · obtain rfl := String.append_right_inj _ |>.mp heq
    exact h hhome

/-- The room of a subscription, where its id is that of another workspace. -/
theorem SubscriptionMessage.not_roomOf_room {message : SubscriptionMessage} {id found : Uuid}
    (hfound : found = if message.ofNode then home id else id) (h : found ≠ workspaceId) :
    ¬ RoomOf home workspaceId (message.room id) := by
  subst hfound
  cases message with
  | subscribeNode => exact not_roomOf_node h
  | unsubscribeNode => exact not_roomOf_node h
  | subscribeWorkspace => exact not_roomOf_workspace h
  | unsubscribeWorkspace => exact not_roomOf_workspace h

/-! Sockets. -/

/-- The sockets that are there stay, and their users. -/
def KeepsSockets (w w' : RoomsWorld) : Prop :=
  w.sockets.map (·.user) <+: w'.sockets.map (·.user)

theorem KeepsSockets.of_eq {w' : RoomsWorld}
    (h : w'.sockets.map (·.user) = w.sockets.map (·.user)) : KeepsSockets w w' := by
  unfold KeepsSockets
  rw [h]

theorem SocketOf.mono {w' : RoomsWorld} (h : KeepsSockets w w') {s : ℕ} {user : AuthenticatedUser}
    (hsocket : SocketOf w s user) : SocketOf w' s user := by
  obtain ⟨later, hlater⟩ := h
  unfold SocketOf at hsocket ⊢
  rw [← hlater, List.getElem?_append_left (List.getElem?_eq_some_iff.mp hsocket).1]
  exact hsocket

theorem Found.mono {w' : RoomsWorld} (h : KeepsSockets w w') {call : PendingRealtimeCall}
    (hfound : Found home userId workspaceId w call) : Found home userId workspaceId w' call := by
  cases call with
  | authenticating token => trivial
  | findingWorkspaces s user => exact SocketOf.mono h hfound
  | findingRoles s user workspaces => exact ⟨hfound.1.mono h, hfound.2⟩
  | joining s user workspaces => exact ⟨hfound.1.mono h, hfound.2⟩
  | findingNode message s user id => exact ⟨hfound.1.mono h, hfound.2⟩
  | findingWorkspace message s user id => exact ⟨hfound.1.mono h, hfound.2⟩
  | findingMembership message s user id found => exact ⟨hfound.1.mono h, hfound.2⟩

theorem SocketOf.socket {s : ℕ} {user : AuthenticatedUser} (h : SocketOf w s user) :
    ∃ socket ∈ w.sockets, socket.user = user := by
  unfold SocketOf at h
  rw [List.getElem?_map, Option.map_eq_some_iff] at h
  obtain ⟨socket, hsocket, huser⟩ := h
  exact ⟨socket, List.mem_of_getElem? hsocket, huser⟩

theorem KeptOut.notAdmin (h : KeptOut home userId workspaceId w) {s : ℕ} {user : AuthenticatedUser}
    (hsocket : SocketOf w s user) (hid : user.id = userId) : user.role ≠ .platformAdmin := by
  obtain ⟨socket, hmem, rfl⟩ := hsocket.socket
  exact (h.sockets socket hmem hid).1

theorem sockets_emitRoutes (routes : List (String × String)) (payload : JsonObject)
    (w : RoomsWorld) : (emitRoutes routes payload w).sockets = w.sockets := by
  induction routes generalizing payload w with
  | nil => rfl
  | cons route routes ih =>
      unfold RealtimeGateway.emitRoutes emitToRoom
      rw [ih]
      split <;> rfl

theorem verified_from_row {platform : AuthPlatform String} {users : List UserEntity}
    {token : String} {now : ℤ} {user : AuthenticatedUser}
    (h : verifyAccessToken platform users token now = .ok user) :
    ∃ row ∈ users, user.id = row.id ∧ user.role = row.role := by
  obtain ⟨payload, -, hvalid⟩ := bind_eq_ok.mp (verifying_eq_ok.mp h)
  have hrow : ∃ row ∈ users, findOneOrFail users payload.sub = .ok row := by
    unfold validateJwtPayload findOneOrFail at hvalid
    unfold findOneOrFail
    cases hsub : payload.sub with
    | none =>
        rw [hsub] at hvalid
        cases hhead : users.head? with
        | none =>
            rw [hhead] at hvalid
            cases hvalid
        | some row => exact ⟨row, List.mem_of_head? hhead, rfl⟩
    | some id =>
        rw [hsub] at hvalid
        cases hfind : KeyedTable.find UserEntity.id users id with
        | none =>
            simp only [hfind] at hvalid
            cases hvalid
        | some row => exact ⟨row, KeyedTable.mem_of_find hfind, by simp only [hfind]⟩
  obtain ⟨row, hmem, hfound⟩ := hrow
  unfold validateJwtPayload at hvalid
  rw [hfound] at hvalid
  refine ⟨row, hmem, ?_⟩
  simp only at hvalid
  split at hvalid
  · cases hvalid
  · obtain rfl := Except.ok.inj hvalid
    exact ⟨rfl, rfl⟩

/-! Steps. -/

/-- A step that keeps the outsider out. -/
abbrev KeepsOut (home : Uuid → Uuid) (userId workspaceId : Uuid) (w : RoomsWorld)
    (next : RealtimeCallStep) : Prop :=
  Ascends KeepsSockets (KeptOut home userId workspaceId) (Found home userId workspaceId) w next

theorem KeepsOut.wait (h : KeptOut home userId workspaceId w) {call : PendingRealtimeCall}
    (hfound : Found home userId workspaceId w call) :
    KeepsOut home userId workspaceId w (w, some call) :=
  ⟨h, KeepsSockets.of_eq rfl, fun _ hl => Option.some.inj hl ▸ hfound⟩

theorem KeepsOut.done {w' : RoomsWorld} (h : KeptOut home userId workspaceId w')
    (hsockets : w'.sockets.map (·.user) = w.sockets.map (·.user)) :
    KeepsOut home userId workspaceId w (w', none) :=
  ⟨h, KeepsSockets.of_eq hsockets, fun _ hl => absurd hl (by simp)⟩

theorem KeptOut.deny (h : KeptOut home userId workspaceId w) (s : ℕ) (code : RealtimeErrorCode)
    (text : String) :
    KeepsOut home userId workspaceId w
      (denyMessage s code text w) :=
  KeepsOut.done ⟨h.tables, h.sockets, h.delivered⟩ rfl

theorem SubscriptionMessage.handle_user (message : SubscriptionMessage) (id : Uuid)
    (socket : RealtimeSocket) : (message.handle id socket).user = socket.user := by
  cases message with
  | subscribeNode => exact RealtimeSocket.join_user _ socket
  | unsubscribeNode => rfl
  | subscribeWorkspace => exact RealtimeSocket.join_user _ socket
  | unsubscribeWorkspace => rfl

theorem KeptOut.handle (h : KeptOut home userId workspaceId w) {message : SubscriptionMessage}
    {s : ℕ} {user : AuthenticatedUser} (hsocket : SocketOf w s user) {id : Uuid}
    (hroom : user.id = userId → ¬ RoomOf home workspaceId (message.room id)) :
    KeepsOut home userId workspaceId w
      (handleMessage message s id w) := by
  have hkept : KeptOut home userId workspaceId (w.modify s (message.handle id)) := by
    cases message with
    | subscribeNode => exact h.join hsocket hroom
    | unsubscribeNode => exact h.leave s _
    | subscribeWorkspace => exact h.join hsocket hroom
    | unsubscribeWorkspace => exact h.leave s _
  exact KeepsOut.done ⟨hkept.tables, hkept.sockets, hkept.delivered⟩
    (users_modify (message.handle_user id))

theorem KeptOut.joinNext (h : KeptOut home userId workspaceId w) {s : ℕ} {user : AuthenticatedUser}
    (hsocket : SocketOf w s user) {workspaces : List Uuid}
    (hnot : user.id = userId → workspaceId ∉ workspaces) :
    KeepsOut home userId workspaceId w
      (joinNext s user w workspaces) := by
  cases workspaces with
  | nil => exact KeepsOut.done h rfl
  | cons id rest =>
      have husers : (w.modify s (RealtimeSocket.join ("workspace:" ++ id))).sockets.map (·.user)
          = w.sockets.map (·.user) := users_modify (RealtimeSocket.join_user _)
      have hascent : KeepsSockets w (w.modify s (RealtimeSocket.join ("workspace:" ++ id))) :=
        KeepsSockets.of_eq husers
      refine ⟨h.join hsocket fun hid => ?_, hascent, fun l hl => ?_⟩
      · exact not_roomOf_workspace fun heq => hnot hid (heq ▸ List.mem_cons_self)
      · obtain rfl := Option.some.inj hl
        exact ⟨hsocket.mono hascent, fun hid hmem => hnot hid (List.mem_cons_of_mem id hmem)⟩

theorem Outside.hasMembership {tables : RealtimeTables}
    (h : Outside home userId workspaceId tables) :
    hasMembership tables workspaceId userId = false := by
  unfold RealtimeGateway.hasMembership
  rw [List.any_eq_false]
  intro row hrow
  have hnot := h.memberships row hrow
  simpa using hnot

theorem keepsOut_invoke (h : KeptOut home userId workspaceId w) (request : RealtimeRequest)
    (input : RealtimeInput) :
    KeepsOut home userId workspaceId w (invokeRealtime request input w) := by
  cases request with
  | connect handshake =>
      simp only [invokeRealtime]
      split
      · exact KeepsOut.done ⟨h.tables, h.sockets, h.delivered⟩ rfl
      · exact KeepsOut.wait h trivial
  | subscription message s payload =>
      simp only [invokeRealtime]
      split
      · exact KeepsOut.done h rfl
      next socket hs =>
        have hsocket : SocketOf w s socket.user := by
          unfold SocketOf
          rw [List.getElem?_map, hs]
          rfl
        split
        · exact KeepsOut.done h rfl
        split
        · exact h.deny s _ _
        · exact h.deny s _ _
        split
        next hnode => exact KeepsOut.wait h ⟨hsocket, hnode⟩
        next hnode => exact KeepsOut.wait h ⟨hsocket, Bool.eq_false_iff.mpr hnode⟩

theorem keepsOut_fail (h : KeptOut home userId workspaceId w) (call : PendingRealtimeCall) :
    KeepsOut home userId workspaceId w (failRealtime call w) := by
  cases call with
  | authenticating token => exact KeepsOut.done ⟨h.tables, h.sockets, h.delivered⟩ rfl
  | findingWorkspaces s user => exact KeepsOut.done h rfl
  | findingRoles s user workspaces => exact KeepsOut.done h rfl
  | joining s user workspaces => exact KeepsOut.done h rfl
  | findingNode message s user id => exact h.deny s _ _
  | findingWorkspace message s user id => exact h.deny s _ _
  | findingMembership message s user id found => exact h.deny s _ _

/-- A socket that has just authenticated is in no room. -/
theorem KeptOut.connect (h : KeptOut home userId workspaceId w) {user : AuthenticatedUser}
    (hrole : user.id = userId → user.role ≠ .platformAdmin) :
    KeepsOut home userId workspaceId w
      ({ w with sockets := w.sockets ++ [{ user }] },
        some (.findingWorkspaces w.sockets.length user)) := by
  refine ⟨⟨h.tables, fun socket hsocket hid => ?_, h.delivered⟩, ?_, fun l hl => ?_⟩
  · rcases List.mem_append.mp hsocket with hold | hnew
    · exact h.sockets socket hold hid
    · obtain rfl := List.mem_singleton.mp hnew
      exact ⟨hrole hid, fun room hroom => absurd hroom List.not_mem_nil⟩
  · unfold KeepsSockets
    rw [List.map_append]
    exact List.prefix_append _ _
  · obtain rfl := Option.some.inj hl
    show SocketOf _ _ _
    unfold SocketOf
    rw [List.map_append, List.getElem?_append_right (by simp)]
    simp

theorem keepsOut_answer {platform : AuthPlatform String} (h : KeptOut home userId workspaceId w)
    {call : PendingRealtimeCall} (hfound : Found home userId workspaceId w call)
    (input : RealtimeInput) :
    KeepsOut home userId workspaceId w (answerRealtime platform call input w) := by
  cases call with
  | authenticating token =>
      simp only [answerRealtime]
      split
      · exact KeepsOut.done ⟨h.tables, h.sockets, h.delivered⟩ rfl
      next user hverified =>
        obtain ⟨row, hrow, hid, hrole⟩ := verified_from_row hverified
        refine h.connect fun huser => ?_
        rw [hrole]
        exact h.tables.users row hrow (hid ▸ huser)
  | findingWorkspaces s user =>
      simp only [answerRealtime]
      split
      next hadmin => exact h.joinNext hfound fun hid => absurd hadmin (h.notAdmin hfound hid)
      next =>
        have hnot : user.id = userId → workspaceId ∉
            w.tables.workspaces.filter fun id => hasMembership w.tables id user.id := by
          intro hid hmem
          have hmember := (List.mem_filter.mp hmem).2
          rw [hid, h.tables.hasMembership] at hmember
          cases hmember
        split
        · exact KeepsOut.done h rfl
        · exact KeepsOut.wait h ⟨hfound, hnot⟩
  | findingRoles s user workspaces => exact h.joinNext hfound.1 hfound.2
  | joining s user workspaces => exact h.joinNext hfound.1 hfound.2
  | findingNode message s user id =>
      simp only [answerRealtime]
      split
      · exact h.deny s _ _
      next node hnode =>
        split
        next hadmin => exact h.handle hfound.1 fun hid => absurd hadmin (h.notAdmin hfound.1 hid)
        next =>
          have hmem : node ∈ w.tables.nodes := List.mem_of_find?_eq_some hnode
          have hkey : node.id = id := by simpa using List.find?_some hnode
          refine KeepsOut.wait h ⟨hfound.1, ?_⟩
          rw [if_pos hfound.2, ← hkey]
          exact h.tables.nodes node hmem
  | findingWorkspace message s user id =>
      simp only [answerRealtime]
      split
      · exact h.deny s _ _
      split
      next hadmin => exact h.handle hfound.1 fun hid => absurd hadmin (h.notAdmin hfound.1 hid)
      next =>
        refine KeepsOut.wait h ⟨hfound.1, ?_⟩
        rw [if_neg (Bool.eq_false_iff.mp hfound.2)]
  | findingMembership message s user id found =>
      simp only [answerRealtime]
      split
      next hmember =>
        refine h.handle hfound.1 fun hid => message.not_roomOf_room hfound.2 fun heq => ?_
        rw [heq, hid, h.tables.hasMembership] at hmember
        cases hmember
      next => exact h.deny s _ _

theorem KeptOut.change (h : KeptOut home userId workspaceId w) {change : RealtimeChange}
    (hchange : LeavesOutside home userId workspaceId change) :
    KeptOut home userId workspaceId (realtimeEnv change w) := by
  have hkeep : ∀ tables, Outside home userId workspaceId tables →
      KeptOut home userId workspaceId { w with tables } := fun tables hout =>
    ⟨hout, h.sockets, h.delivered⟩
  have hout := h.tables
  cases change with
  | setUsers users => exact hkeep _ ⟨hchange, hout.memberships, hout.nodes⟩
  | addMembership row =>
      refine hkeep _ ⟨hout.users, fun other hother => ?_, hout.nodes⟩
      rcases List.mem_append.mp hother with hold | hnew
      · exact hout.memberships other hold
      · obtain rfl := List.mem_singleton.mp hnew
        exact hchange
  | removeMembership workspace user =>
      exact hkeep _ ⟨hout.users, fun other hother =>
        hout.memberships other (List.mem_of_mem_filter hother), hout.nodes⟩
  | createWorkspace id => exact hkeep _ ⟨hout.users, hout.memberships, hout.nodes⟩
  | deleteWorkspace id =>
      exact hkeep _ ⟨hout.users,
        fun other hother => hout.memberships other (List.mem_of_mem_filter hother),
        fun node hnode => hout.nodes node (List.mem_of_mem_filter hnode)⟩
  | createNode node =>
      refine hkeep _ ⟨hout.users, hout.memberships, fun other hother => ?_⟩
      rcases List.mem_append.mp hother with hold | hnew
      · exact hout.nodes other hold
      · obtain rfl := List.mem_singleton.mp hnew
        exact hchange
  | deleteNode id =>
      exact hkeep _ ⟨hout.users, hout.memberships, fun node hnode =>
        hout.nodes node (List.mem_of_mem_filter hnode)⟩
  | disconnect s =>
      refine h.modify (fun _ => rfl) fun socket _ _ room hroom => ?_
      exact absurd hroom List.not_mem_nil
  | emit name payload =>
      refine KeptOut.emitRoutes (fun route hroute => ?_) hchange h
      cases name <;>
        simp only [RealtimeEventName.routes, List.mem_cons, List.not_mem_nil, or_false] at hroute
      all_goals first | exact hroute | exact Or.inr hroute

theorem keepsSockets_change (change : RealtimeChange) (w : RoomsWorld) :
    KeepsSockets w (realtimeEnv change w) := by
  apply KeepsSockets.of_eq
  cases change with
  | disconnect s => exact users_modify fun _ => rfl
  | emit name payload => exact congrArg _ (sockets_emitRoutes name.routes payload w)
  | _ => rfl

variable (home userId workspaceId)

theorem rooms_outline (platform : AuthPlatform String) :
    MonotoneOutline (realtimeCalls platform) realtimeEnv (fun _ _ _ => True) (fun _ _ _ => True)
      (fun _ change => LeavesOutside home userId workspaceId change) KeepsSockets
      (KeptOut home userId workspaceId) (Found home userId workspaceId) where
  refl := fun _ => KeepsSockets.of_eq rfl
  trans := List.IsPrefix.trans
  mono := fun h hfound => Found.mono h hfound
  invoke := fun {w request input} h _ => keepsOut_invoke h request input
  resume := by
    intro w call input h hfound _
    show KeepsOut home userId workspaceId w (resumeRealtime platform call input w)
    unfold resumeRealtime
    split
    · exact keepsOut_fail h call
    · exact keepsOut_answer h hfound input
  environment := fun {w change} h hchange => ⟨h.change hchange, keepsSockets_change change w⟩

/-- **An outsider hears nothing.**  In every interleaving of connections, subscriptions and
changes of the tables, the sockets of a user who is never made a member of the workspace or an
administrator of the platform receive no event about the workspace or its nodes. -/
theorem outsider_hears_nothing (platform : AuthPlatform String) {tables : RealtimeTables}
    (hout : Outside home userId workspaceId tables) {es : List RealtimeEvent}
    (hes : ∀ change, .env change ∈ es → LeavesOutside home userId workspaceId change) :
    ∀ delivery ∈ (run (roomsStep platform) (Config.idle { tables }) es).world.delivered,
      delivery.user.id = userId → ¬ Concerns home workspaceId delivery.payload := by
  have hstart : KeptOut home userId workspaceId { tables } :=
    ⟨hout, fun _ hsocket => absurd hsocket List.not_mem_nil,
      fun _ hdelivery => absurd hdelivery List.not_mem_nil⟩
  have hguard : Along (roomsStep platform)
      (Guard (fun _ _ _ => True) (fun _ _ _ => True) fun _ change =>
        LeavesOutside home userId workspaceId change) (Config.idle { tables }) es := by
    refine along_iff.mpr fun es₁ e es₂ hsplit => ?_
    cases e with
    | invoke p request input => exact fun _ => trivial
    | resume p input => exact fun _ _ => trivial
    | env change => exact hes change (hsplit ▸ by simp)
  exact ((rooms_outline home userId workspaceId platform).run (good_idle hstart)
    hguard).1.1.delivered

end

/-- Tokens that name their user. -/
def namePlatform : AuthPlatform String where
  jwt := ⟨fun payload _ _ => payload.sub.getD "", fun _ token =>
    .ok { sub := some token, sessionVersion := some 0 }⟩
  timespan _ := 86400
  compare _ _ := false
  encryptSecretValue _ value _ := value
  decryptSecretValue encryptedValue _ := some encryptedValue
  hmacSha1 _ _ := Vector.replicate 20 0
  lower text := text

/-- A workspace with a node and a member, and a user who is not one. -/
def outsiderTables : RealtimeTables where
  users := [{ id := "u1", email := "member@example.com" },
    { id := "u2", email := "outsider@example.com" }]
  workspaces := ["w1"]
  memberships := [⟨"w1", "u1", .member⟩]
  nodes := [⟨"n1", "w1"⟩]

/-- Both connect and subscribe to the node, whose status then changes. -/
def outsiderRun : List RealtimeEvent :=
  [.invoke 0 (.connect { auth := [("token", .str "u1")] }) {}, .resume 0 {}, .resume 0 {},
    .resume 0 {}, .resume 0 {},
    .invoke 1 (.connect { authorization := some "Bearer u2" }) {}, .resume 1 {}, .resume 1 {},
    .invoke 2 (.subscription .subscribeNode 1 [("nodeId", .str "n1")]) {}, .resume 2 {},
    .resume 2 {},
    .invoke 3 (.subscription .subscribeNode 0 [("nodeId", .str "n1")]) {}, .resume 3 {},
    .resume 3 {},
    .env (.emit .nodeStatusUpdated [("nodeId", .str "n1"), ("workspaceId", .str "w1")])]

theorem outsider_hears_nothing_member :
    ((run (roomsStep namePlatform) (Config.idle { tables := outsiderTables })
        outsiderRun).world.delivered.map (·.user.id) = ["u1", "u1"] ∧
      (run (roomsStep namePlatform) (Config.idle { tables := outsiderTables })
        outsiderRun).world.answers
        = [(1, .error ⟨.forbidden, "You are not allowed to access this node"⟩), (0, .ok "n1")]) ∧
    ∀ delivery ∈ (run (roomsStep namePlatform) (Config.idle { tables := outsiderTables })
        outsiderRun).world.delivered,
      delivery.user.id = "u2" → ¬ Concerns (fun _ => "w1") "w1" delivery.payload := by
  refine ⟨⟨by decide +kernel, by decide +kernel⟩,
    outsider_hears_nothing (fun _ => "w1") "u2" "w1" namePlatform ⟨by decide, by decide, by decide⟩
      fun change hchange => ?_⟩
  have hemit : change = .emit .nodeStatusUpdated
      [("nodeId", .str "n1"), ("workspaceId", .str "w1")] := by
    simpa [outsiderRun] using hchange
  subst hemit
  intro nodeId _ id hid
  exact (Option.some.inj hid).symm

end RealtimeGateway
