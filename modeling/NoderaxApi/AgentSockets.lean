/-
# The sockets of the agents

`agent-realtime.service.ts`: the maps of each instance of the API between nodes and sockets,
the route of a node in Redis, and the status of its row.  `authenticateSocket`,
`handleSocketDisconnect`, `emitEventToNode` and `handleRoutedEventMessage` are cut at their
awaits.  An await that rejects ends the call; after a failed authentication the gateway closes
the socket.  The Redis client is taken to be ready, and routes do not expire.
-/
import NoderaxApi.Common
import NoderaxApi.Interleaving
import NoderaxApi.NodeEntity

open Runs Interleaving

namespace AgentRealtimeService

/-! ## The shared world -/

/-- The id of an instance of the API. -/
abbrev InstanceId := String

/-- The id of a socket. -/
abbrev SocketId := String

/-- A successful authentication.  They are numbered in the order in which the sockets are
registered. -/
structure Registration where
  instanceId : InstanceId
  socketId : SocketId
  nodeId : Uuid
  number : ℕ
  deriving DecidableEq, Repr

/-- The session of a socket: its node, and the registration that it is from, which stands for
`authenticatedAt`. -/
structure AgentSocketSession where
  nodeId : Uuid
  authenticatedAt : ℕ
  deriving DecidableEq, Repr

/-- The route of a node. -/
structure AgentNodeRoute where
  instanceId : InstanceId
  socketId : SocketId
  deriving DecidableEq, Repr

/-- The status of a node.  `offlineBy` is the registration whose disconnection made it OFFLINE;
it goes along with the status. -/
structure NodeStatusRow where
  status : NodeStatus
  offlineBy : Option ℕ := none
  deriving DecidableEq, Repr

/-- A message to a socket, meant for a node.  `session` is the node of the socket's session at
that time. -/
structure Emission where
  instanceId : InstanceId
  socketId : SocketId
  nodeId : Uuid
  event : String
  payload : JsonObject
  session : Option Uuid

/-- A message to another instance. -/
structure RoutedAgentEventMessage where
  targetInstanceId : InstanceId
  nodeId : Uuid
  event : String
  payload : JsonObject

/-- The maps of the instances, Redis and the rows of the nodes.  `reachable` says which sockets
take a message.  The last four fields are records: no step reads them. -/
structure AgentWorld where
  nodeToSocketId : InstanceId × Uuid → Option SocketId := fun _ => none
  socketToSession : InstanceId × SocketId → Option AgentSocketSession := fun _ => none
  reachable : InstanceId × SocketId → Bool := fun _ => true
  nodeRoutes : Uuid → Option AgentNodeRoute := fun _ => none
  nodes : Uuid → Option NodeStatusRow := fun _ => none
  published : List RoutedAgentEventMessage := []
  registrations : List Registration := []
  closed : InstanceId × SocketId → Bool := fun _ => false
  clearedBy : Uuid → Option ℕ := fun _ => none
  emitted : List Emission := []

/-! ## The writes -/

/-- The socket has been closed. -/
def AgentWorld.close (w : AgentWorld) (i : InstanceId) (socketId : SocketId) : AgentWorld :=
  { w with closed := Function.update w.closed (i, socketId) true }

/-- What `authenticateSocket` does to the maps. -/
def AgentWorld.register (w : AgentWorld) (r : Registration) : AgentWorld :=
  let previous := (w.nodeToSocketId (r.instanceId, r.nodeId)).filter (· ≠ r.socketId)
  let sessions :=
    match previous with
    | some previousSocketId =>
        Function.update w.socketToSession (r.instanceId, previousSocketId) none
    | none => w.socketToSession
  { w with
    nodeToSocketId :=
      Function.update w.nodeToSocketId (r.instanceId, r.nodeId) (some r.socketId)
    socketToSession :=
      Function.update sessions (r.instanceId, r.socketId) (some ⟨r.nodeId, r.number⟩)
    registrations := w.registrations ++ [r] }

/-- `upsertNodeRoute`. -/
def AgentWorld.upsertNodeRoute (w : AgentWorld) (r : Registration) : AgentWorld :=
  { w with
    nodeRoutes := Function.update w.nodeRoutes r.nodeId (some ⟨r.instanceId, r.socketId⟩)
    clearedBy := Function.update w.clearedBy r.nodeId none }

/-- DEL of the route of a node, after a disconnection. -/
def AgentWorld.deleteNodeRoute (w : AgentWorld) (nodeId : Uuid) (number : ℕ) : AgentWorld :=
  match w.nodeRoutes nodeId with
  | none => w
  | some _ =>
      { w with
        nodeRoutes := Function.update w.nodeRoutes nodeId none
        clearedBy := Function.update w.clearedBy nodeId (some number) }

/-- The row of a node is saved with a status; a column that has not changed is not written. -/
def AgentWorld.saveStatus (w : AgentWorld) (nodeId : Uuid) (row : NodeStatusRow) : AgentWorld :=
  match w.nodes nodeId with
  | none => w
  | some current =>
      if current.status = row.status then w
      else { w with nodes := Function.update w.nodes nodeId (some row) }

/-- A message is given to a socket, if that takes it. -/
def AgentWorld.emit (w : AgentWorld) (i : InstanceId) (socketId : SocketId) (nodeId : Uuid)
    (event : String) (payload : JsonObject) : AgentWorld :=
  { w with
    emitted := w.emitted ++
      [⟨i, socketId, nodeId, event, payload, (w.socketToSession (i, socketId)).map (·.nodeId)⟩] }

/-! ## The calls -/

/-- A call of the service, on an instance.  `rootAccess` says whether the agent reports its root
access. -/
inductive AgentRequest
  | authenticateSocket (i : InstanceId) (socketId : SocketId) (nodeId : Uuid)
      (rootAccess : Bool)
  | handleSocketDisconnect (i : InstanceId) (socketId : SocketId)
  | emitEventToNode (i : InstanceId) (nodeId : Uuid) (event : String) (payload : JsonObject)
  | handleRoutedEventMessage (i : InstanceId) (message : RoutedAgentEventMessage)

/-- What a step receives: whether the awaited operation rejects, and whether the reported root
access differs from the stored one. -/
structure AgentInput where
  rejects : Bool := false
  rootAccessChanged : Bool := true

/-- A disconnection that has passed the check of its instance.  `checkedAt` is the number of the
registrations before the check; no step reads it. -/
structure Disconnection where
  instanceId : InstanceId
  socketId : SocketId
  session : AgentSocketSession
  checkedAt : ℕ
  deriving DecidableEq, Repr

/-- What a call awaits.  `authenticateSocket` goes from `authenticating` to `finishing`,
`handleSocketDisconnect` from `readingRoute` to `savingOffline`. -/
inductive AgentCall
  | authenticating (i : InstanceId) (socketId : SocketId) (nodeId : Uuid) (rootAccess : Bool)
  | upsertingRoute (r : Registration) (rootAccess : Bool)
  | updatingOnline (r : Registration) (rootAccess : Bool)
  | findingOnline (r : Registration) (rootAccess : Bool)
  | savingOnline (r : Registration) (rootAccess : Bool)
  | markedOnline (r : Registration) (rootAccess : Bool)
  | findingRootAccess (r : Registration)
  | savingRootAccess (r : Registration) (row : NodeStatusRow)
  | finishing (r : Registration)
  | readingRoute (h : Disconnection)
  | deletingRoute (h : Disconnection)
  | updatingOffline (h : Disconnection)
  | findingOffline (h : Disconnection)
  | savingOffline (h : Disconnection)
  | routing (i : InstanceId) (nodeId : Uuid) (event : String) (payload : JsonObject)

/-- The awaits after the registration; a call that rejects there leaves the socket closed. -/
def resumeRegistered (l : AgentCall) (r : Registration) (inp : AgentInput) (w : AgentWorld) :
    AgentWorld × Option AgentCall :=
  if inp.rejects then (w.close r.instanceId r.socketId, none)
  else
    match l with
    | .upsertingRoute _ rootAccess =>
        (w.upsertNodeRoute r, some (.updatingOnline r rootAccess))
    | .updatingOnline _ rootAccess =>
        -- UPDATE … WHERE status = OFFLINE, and the count of the rows
        if (w.nodes r.nodeId).any fun row => row.status = .offline then
          (w.saveStatus r.nodeId ⟨.online, none⟩, some (.markedOnline r rootAccess))
        else (w, some (.findingOnline r rootAccess))
    | .findingOnline _ rootAccess =>
        match w.nodes r.nodeId with
        | none => (w.close r.instanceId r.socketId, none)
        | some _ => (w, some (.savingOnline r rootAccess))
    | .savingOnline _ rootAccess =>
        (w.saveStatus r.nodeId ⟨.online, none⟩, some (.markedOnline r rootAccess))
    | .markedOnline _ rootAccess =>
        (w, some (if rootAccess then .findingRootAccess r else .finishing r))
    | .findingRootAccess _ =>
        match w.nodes r.nodeId with
        | none => (w.close r.instanceId r.socketId, none)
        | some row =>
            (w, some (if inp.rootAccessChanged then .savingRootAccess r row else .finishing r))
    | .savingRootAccess _ row => (w.saveStatus r.nodeId row, some (.finishing r))
    | _ => (w, none)

/-- The awaits of a disconnection. -/
def resumeDisconnection (l : AgentCall) (h : Disconnection) (inp : AgentInput) (w : AgentWorld) :
    AgentWorld × Option AgentCall :=
  if inp.rejects then (w, none)
  else
    match l with
    | .readingRoute _ =>
        if w.nodeRoutes h.session.nodeId = some ⟨h.instanceId, h.socketId⟩ then
          (w, some (.deletingRoute h))
        else (w, some (.updatingOffline h))
    | .deletingRoute _ =>
        (w.deleteNodeRoute h.session.nodeId h.session.authenticatedAt,
          some (.updatingOffline h))
    | .updatingOffline _ =>
        -- UPDATE … WHERE status = ONLINE, and the count of the rows
        if (w.nodes h.session.nodeId).any fun row => row.status = .online then
          (w.saveStatus h.session.nodeId ⟨.offline, some h.session.authenticatedAt⟩, none)
        else (w, some (.findingOffline h))
    | .findingOffline _ =>
        if (w.nodes h.session.nodeId).any fun row => row.status ≠ .offline then
          (w, some (.savingOffline h))
        else (w, none)
    | .savingOffline _ =>
        (w.saveStatus h.session.nodeId ⟨.offline, some h.session.authenticatedAt⟩, none)
    | _ => (w, none)

/-- A step of a call. -/
def resumeAgentCall (l : AgentCall) (inp : AgentInput) (w : AgentWorld) :
    AgentWorld × Option AgentCall :=
  match l with
  | .authenticating i socketId nodeId rootAccess =>
      if inp.rejects then (w.close i socketId, none)
      else
        let r : Registration := ⟨i, socketId, nodeId, w.registrations.length⟩
        (w.register r, some (.upsertingRoute r rootAccess))
  | .upsertingRoute r _ | .updatingOnline r _ | .findingOnline r _ | .savingOnline r _
  | .markedOnline r _ | .findingRootAccess r | .savingRootAccess r _ | .finishing r =>
      resumeRegistered l r inp w
  | .readingRoute h | .deletingRoute h | .updatingOffline h | .findingOffline h
  | .savingOffline h => resumeDisconnection l h inp w
  | .routing i nodeId event payload =>
      if inp.rejects then (w, none)
      else
        match w.nodeRoutes nodeId with
        | none => (w, none)
        | some route =>
            if route.instanceId = i then (w, none)
            else
              ({ w with published := w.published ++ [⟨route.instanceId, nodeId, event, payload⟩] },
                none)

/-- The beginning of a call.  Disconnecting a socket on a routed message is left to the socket,
whose disconnection is a call of its own. -/
def invokeAgentCall (req : AgentRequest) (w : AgentWorld) : AgentWorld × Option AgentCall :=
  match req with
  | .authenticateSocket i socketId nodeId rootAccess =>
      (w, some (.authenticating i socketId nodeId rootAccess))
  | .handleSocketDisconnect i socketId =>
      let w := w.close i socketId
      match w.socketToSession (i, socketId) with
      | none => (w, none)
      | some session =>
          let w := { w with
            socketToSession := Function.update w.socketToSession (i, socketId) none }
          -- a stale disconnect after another socket has replaced this one is ignored
          if w.nodeToSocketId (i, session.nodeId) ≠ some socketId then (w, none)
          else
            ({ w with
                nodeToSocketId := Function.update w.nodeToSocketId (i, session.nodeId) none },
              some (.readingRoute ⟨i, socketId, session, w.registrations.length⟩))
  | .emitEventToNode i nodeId event payload =>
      match (w.nodeToSocketId (i, nodeId)).filter fun s => w.reachable (i, s) with
      | some socketId => (w.emit i socketId nodeId event payload, none)
      | none => (w, some (.routing i nodeId event payload))
  | .handleRoutedEventMessage i message =>
      if message.targetInstanceId ≠ i ∨ message.nodeId = "" then (w, none)
      else
        match w.nodeToSocketId (i, message.nodeId) with
        | none => (w, none)
        | some socketId =>
            if message.event = "agent.disconnect" then (w, none)
            else if w.reachable (i, socketId) then
              (w.emit i socketId message.nodeId message.event message.payload, none)
            else (w, none)

/-- The calls of the service. -/
def agentCalls : Calls AgentWorld AgentRequest AgentCall AgentInput where
  invoke req _ w := invokeAgentCall req w
  resume := resumeAgentCall

/-- A socket starts or ceases to take messages. -/
structure SetReachable where
  i : InstanceId
  socketId : SocketId
  reachable : Bool

/-- A step of the environment. -/
def agentEnv (e : SetReachable) (w : AgentWorld) : AgentWorld :=
  { w with reachable := Function.update w.reachable (e.i, e.socketId) e.reachable }

/-- The world and the pending calls. -/
abbrev AgentConfig := Config ℕ AgentWorld AgentCall

/-- An event. -/
abbrev AgentEvent := Event ℕ AgentRequest AgentInput SetReachable

/-- One step of a call or of the environment. -/
abbrev agentStep : AgentConfig → AgentEvent → AgentConfig := step agentCalls agentEnv

end AgentRealtimeService
