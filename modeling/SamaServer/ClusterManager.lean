/-
The connections between the nodes of a cluster.  A node keeps at most one
outgoing websocket for each peer in a map by endpoint, and a second map names
the manager that retries a lost connection.  Everything between two events of
the network or of a timer runs without a pause, so an event is one step.
-/
import Mathlib.Data.List.Basic
import SamaServer.OrderedMap

namespace SamaServer

/-- The endpoint of a peer; a local socket that closes before its handshake
has none. -/
abbrev NodeEndpoint := Option String

/-- Who waits for the result of `createOrRetrieveConnectionWithNode`. -/
inductive ConnectionCaller
  | syncing
  | delivering
  | receiving
  | reconnecting (manager : Nat)
deriving DecidableEq

/-- The state of a websocket; `closing` is from the first close or error to
the close event. -/
inductive SocketPhase
  | connecting
  | established
  | closing
  | closed
deriving DecidableEq

/-- An outgoing websocket.  `isSettled` tells whether the promise of
`createConnectionWithNode` is resolved or rejected, `isDiscarded` whether the
websocket was closed as a duplicate and `isCloseRejected` whether that close
threw. -/
structure NodeSocket where
  nodeEndpoint : NodeEndpoint
  caller : ConnectionCaller
  phase : SocketPhase
  isWasOpened : Bool
  isSettled : Bool
  isDiscarded : Bool
  isCloseRejected : Bool
deriving DecidableEq

/-- What the queue of tries of a manager is doing. -/
inductive RetryPhase
  | waiting
  | trying (socket : Nat)
  | ended
deriving DecidableEq

/-- A reconnect manager with its queue; the queue is canceled exactly when
the manager is finished. -/
structure ReconnectManager where
  nodeEndpoint : NodeEndpoint
  isFinished : Bool
  triesLeft : Nat
  retry : RetryPhase
deriving DecidableEq

namespace ReconnectManager

def tryCount : Nat := 3

/-- A manager whose queue was started: the first delay is running. -/
def start (nodeEndpoint : NodeEndpoint) : ReconnectManager :=
  ⟨nodeEndpoint, false, tryCount - 1, .waiting⟩

def cancel (manager : ReconnectManager) : ReconnectManager :=
  { manager with isFinished := true }

/-- A try that failed: the next delay is started, unless the queue was
canceled or has no delay left; then its promise is rejected and
`startNodeReconnecting` cancels the manager. -/
def tryFailed (manager : ReconnectManager) : ReconnectManager :=
  if manager.isFinished ∨ manager.triesLeft = 0 then
    { manager.cancel with retry := .ended }
  else
    { manager with triesLeft := manager.triesLeft - 1, retry := .waiting }

end ReconnectManager

namespace NodeSocket

/-- A websocket that was just created for a call. -/
def connect (nodeEndpoint : NodeEndpoint) (caller : ConnectionCaller) :
    NodeSocket :=
  ⟨nodeEndpoint, caller, .connecting, false, false, false, false⟩

/-- `close` of the websocket: nothing happens to one that is closed. -/
def close (socket : NodeSocket) : NodeSocket :=
  if socket.phase = .closed then socket
  else { socket with phase := .closing }

def settle (socket : NodeSocket) : NodeSocket :=
  { socket with isSettled := true }

@[simp] theorem nodeEndpoint_close (socket : NodeSocket) :
    socket.close.nodeEndpoint = socket.nodeEndpoint := by
  rw [close]
  split <;> rfl

@[simp] theorem caller_close (socket : NodeSocket) :
    socket.close.caller = socket.caller := by
  rw [close]
  split <;> rfl

@[simp] theorem isSettled_close (socket : NodeSocket) :
    socket.close.isSettled = socket.isSettled := by
  rw [close]
  split <;> rfl

@[simp] theorem isDiscarded_close (socket : NodeSocket) :
    socket.close.isDiscarded = socket.isDiscarded := by
  rw [close]
  split <;> rfl

@[simp] theorem phase_close_eq_closed (socket : NodeSocket) :
    socket.close.phase = .closed ↔ socket.phase = .closed := by
  rw [close]
  split <;> simp_all

@[simp] theorem phase_close_ne_established (socket : NodeSocket) :
    socket.close.phase ≠ .established := by
  rw [close]
  split <;> simp_all

@[simp] theorem phase_close_ne_connecting (socket : NodeSocket) :
    socket.close.phase ≠ .connecting := by
  rw [close]
  split <;> simp_all

@[simp] theorem nodeEndpoint_settle (socket : NodeSocket) :
    socket.settle.nodeEndpoint = socket.nodeEndpoint := rfl

@[simp] theorem caller_settle (socket : NodeSocket) :
    socket.settle.caller = socket.caller := rfl

@[simp] theorem isSettled_settle (socket : NodeSocket) :
    socket.settle.isSettled = true := rfl

@[simp] theorem isDiscarded_settle (socket : NodeSocket) :
    socket.settle.isDiscarded = socket.isDiscarded := rfl

@[simp] theorem phase_settle (socket : NodeSocket) :
    socket.settle.phase = socket.phase := rfl

end NodeSocket

/-- The status codes that the websocket library sends in a close frame. -/
def isValidStatusCode (code : Nat) : Bool :=
  (1000 ≤ code ∧ code ≤ 1003) ∨ (1007 ≤ code ∧ code ≤ 1014) ∨
    (3000 ≤ code ∧ code ≤ 4999)

def duplicateCloseWsCode : Nat := 1004

def duplicateCloseWsReason : String := "Duplicate"

/-- A close with a code that the library rejects throws before a frame is
sent. -/
def NodeSocket.discard (socket : NodeSocket) (code : Nat) : NodeSocket :=
  if isValidStatusCode code then { socket.close with isDiscarded := true }
  else { socket with isDiscarded := true, isCloseRejected := true }

/-- What the node is configured with: its own endpoint and the texts that the
websocket library takes for a url. -/
structure ClusterConfig where
  endpoint : NodeEndpoint
  isUrl : NodeEndpoint → Bool

/-- The state of the manager; websockets and reconnect managers are named by
their place in the order of creation. -/
structure ClusterManager where
  clusterNodesConnections : OrderedMap NodeEndpoint Nat
  reconnectingNodesConnections : OrderedMap NodeEndpoint Nat
  sockets : List NodeSocket
  managers : List ReconnectManager

/-- What can happen at a node. -/
inductive ClusterEvent
  | opened (socket : Nat)
  | answered (socket : Nat)
  | failed (socket : Nat)
  | closed (socket code : Nat) (reason : String)
  | timer (manager : Nat)
  | syncVisit (nodeEndpoint : NodeEndpoint)
  | deliver (nodeEndpoint : NodeEndpoint)
  | handshake (nodeEndpoint : NodeEndpoint)
  | localClosed (nodeEndpoint : NodeEndpoint) (code : Nat) (reason : String)
  | destroyed (nodeEndpoint : NodeEndpoint)
deriving DecidableEq

namespace ClusterManager

def empty : ClusterManager := ⟨.empty, .empty, [], []⟩

def updateSocket (s : ClusterManager) (socket : Nat)
    (f : NodeSocket → NodeSocket) : ClusterManager :=
  { s with sockets := s.sockets.modify socket f }

def updateManager (s : ClusterManager) (manager : Nat)
    (f : ReconnectManager → ReconnectManager) : ClusterManager :=
  { s with managers := s.managers.modify manager f }

/-- `existingReconnectManager?.cancel?.()`. -/
def cancelManager (s : ClusterManager) (nodeEndpoint : NodeEndpoint) :
    ClusterManager :=
  match s.reconnectingNodesConnections.get? nodeEndpoint with
  | some manager => s.updateManager manager ReconnectManager.cancel
  | none => s

def cancelNodeReconnecting (s : ClusterManager) (nodeEndpoint : NodeEndpoint)
    (isSuccess : Bool) : ClusterManager :=
  let canceled := if isSuccess then s else s.cancelManager nodeEndpoint
  { canceled with
    reconnectingNodesConnections :=
      canceled.reconnectingNodesConnections.erase nodeEndpoint }

/-- The manager is put in the map and its queue started; what follows the
queue is in `callFailed` and `callSucceeded`. -/
def startNodeReconnecting (s : ClusterManager) (nodeEndpoint : NodeEndpoint)
    (skipIfHashActiveReconnection : Bool) : ClusterManager :=
  if skipIfHashActiveReconnection ∧
      (s.reconnectingNodesConnections.get? nodeEndpoint).isSome then s
  else
    let canceled := s.cancelNodeReconnecting nodeEndpoint false
    { canceled with
      managers := canceled.managers ++ [.start nodeEndpoint]
      reconnectingNodesConnections :=
        canceled.reconnectingNodesConnections.set nodeEndpoint
          canceled.managers.length }

/-- What the caller does when the call throws. -/
def callFailed (s : ClusterManager) (nodeEndpoint : NodeEndpoint) :
    ConnectionCaller → ClusterManager
  | .syncing => s.startNodeReconnecting nodeEndpoint false
  | .delivering => s
  | .receiving => s
  | .reconnecting manager =>
      s.updateManager manager ReconnectManager.tryFailed

/-- What the caller does when the call returns a websocket. -/
def callSucceeded (s : ClusterManager) (nodeEndpoint : NodeEndpoint) :
    ConnectionCaller → ClusterManager
  | .syncing => s
  | .delivering => s
  | .receiving => s
  | .reconnecting manager =>
      (s.updateManager manager (fun r => { r with retry := .ended })
        ).cancelNodeReconnecting nodeEndpoint true

/-- The call now waits for the promise of that websocket. -/
def waitFor (s : ClusterManager) (socket : Nat) :
    ConnectionCaller → ClusterManager
  | .syncing => s
  | .delivering => s
  | .receiving => s
  | .reconnecting manager =>
      s.updateManager manager (fun r => { r with retry := .trying socket })

def createConnectionWithNode (s : ClusterManager)
    (nodeEndpoint : NodeEndpoint) (caller : ConnectionCaller) :
    ClusterManager :=
  { s with
    sockets := s.sockets ++ [NodeSocket.connect nodeEndpoint caller]
    }.waitFor s.sockets.length caller

/-- The call up to its first pause. -/
def createOrRetrieveConnectionWithNode (config : ClusterConfig)
    (s : ClusterManager) (nodeEndpoint : NodeEndpoint)
    (throwIfActiveReconnect : Bool) (caller : ConnectionCaller) :
    ClusterManager :=
  if (s.clusterNodesConnections.get? nodeEndpoint).isSome then
    s.callSucceeded nodeEndpoint caller
  else if throwIfActiveReconnect ∧
      (s.reconnectingNodesConnections.get? nodeEndpoint).isSome then
    s.callFailed nodeEndpoint caller
  else if config.isUrl nodeEndpoint then
    s.createConnectionWithNode nodeEndpoint caller
  else s.callFailed nodeEndpoint caller

/-- The rest of the call, once its websocket has the handshake answer.  A
close that throws makes the call throw. -/
def finishConnection (s : ClusterManager) (socket : Nat)
    (nodeEndpoint : NodeEndpoint) (caller : ConnectionCaller) :
    ClusterManager :=
  let canceled := s.cancelNodeReconnecting nodeEndpoint false
  if (canceled.clusterNodesConnections.get? nodeEndpoint).isSome then
    let discarded := canceled.updateSocket socket
      (fun ws => ws.discard duplicateCloseWsCode)
    if isValidStatusCode duplicateCloseWsCode then
      discarded.callSucceeded nodeEndpoint caller
    else discarded.callFailed nodeEndpoint caller
  else
    { canceled with
      clusterNodesConnections :=
        canceled.clusterNodesConnections.set nodeEndpoint socket
      }.callSucceeded nodeEndpoint caller

def deleteClusterConnection (s : ClusterManager)
    (nodeEndpoint : NodeEndpoint) : ClusterManager :=
  match s.clusterNodesConnections.get? nodeEndpoint with
  | some socket =>
      { s with
        clusterNodesConnections :=
          s.clusterNodesConnections.erase nodeEndpoint
        }.updateSocket socket NodeSocket.close
  | none => s

def onCloseNode (s : ClusterManager) (nodeEndpoint : NodeEndpoint)
    (closeCode : Nat) (reason : String) : ClusterManager :=
  if closeCode = duplicateCloseWsCode ∧ reason = duplicateCloseWsReason then s
  else (s.deleteClusterConnection nodeEndpoint).startNodeReconnecting
    nodeEndpoint true

/-- The open handler; only a connecting websocket opens. -/
def onOpened (s : ClusterManager) (socket : Nat) : ClusterManager :=
  s.updateSocket socket (fun ws =>
    if ws.phase = .connecting then
      { ws with phase := .established, isWasOpened := true }
    else ws)

/-- The message handler for the node info of the peer. -/
def onAnswered (s : ClusterManager) (socket : Nat) : ClusterManager :=
  match s.sockets[socket]? with
  | none => s
  | some ws =>
      if ws.phase = .established ∧ ws.isSettled = false then
        (s.updateSocket socket NodeSocket.settle).finishConnection socket
          ws.nodeEndpoint ws.caller
      else s

/-- The error handler; a websocket with an error is about to close. -/
def onFailed (s : ClusterManager) (socket : Nat) : ClusterManager :=
  match s.sockets[socket]? with
  | none => s
  | some ws =>
      if ws.phase = .closed then s
      else if ws.isSettled then s.updateSocket socket NodeSocket.close
      else
        (s.updateSocket socket (fun ws => ws.close.settle)).callFailed
          ws.nodeEndpoint ws.caller

/-- The close handler.  It settles nothing. -/
def onClosed (s : ClusterManager) (socket code : Nat) (reason : String) :
    ClusterManager :=
  match s.sockets[socket]? with
  | none => s
  | some ws =>
      if ws.phase = .closed then s
      else
        let closed := s.updateSocket socket
          (fun ws => { ws with phase := .closed })
        if ws.isWasOpened then closed.onCloseNode ws.nodeEndpoint code reason
        else closed

/-- The end of a delay of a queue. -/
def onTimer (config : ClusterConfig) (s : ClusterManager) (manager : Nat) :
    ClusterManager :=
  match s.managers[manager]? with
  | none => s
  | some r =>
      if r.retry ≠ .waiting then s
      else if r.isFinished then
        s.updateManager manager (fun r => { r with retry := .ended })
      else s.createOrRetrieveConnectionWithNode config r.nodeEndpoint false
        (.reconnecting manager)

/-- Whether the sync loop passes over a peer. -/
def isReconnecting (s : ClusterManager) (nodeEndpoint : NodeEndpoint) :
    Bool :=
  ((s.reconnectingNodesConnections.get? nodeEndpoint).bind
    (fun manager => s.managers[manager]?)).any (fun r => !r.isFinished)

/-- One peer in the loop of `connectToExistingClusterNodes`. -/
def syncVisit (config : ClusterConfig) (s : ClusterManager)
    (nodeEndpoint : NodeEndpoint) : ClusterManager :=
  if config.endpoint = nodeEndpoint then s
  else if s.isReconnecting nodeEndpoint then s
  else s.createOrRetrieveConnectionWithNode config nodeEndpoint true .syncing

/-- The effect of `cleanDestroyedNodeData` on the connections. -/
def cleanConnections (s : ClusterManager) (nodeEndpoint : NodeEndpoint) :
    ClusterManager :=
  (s.deleteClusterConnection nodeEndpoint).cancelNodeReconnecting
    nodeEndpoint false

/-- An event that cannot happen in a state leaves it as it is. -/
def step (config : ClusterConfig) (s : ClusterManager) :
    ClusterEvent → ClusterManager
  | .opened socket => s.onOpened socket
  | .answered socket => s.onAnswered socket
  | .failed socket => s.onFailed socket
  | .closed socket code reason => s.onClosed socket code reason
  | .timer manager => s.onTimer config manager
  | .syncVisit nodeEndpoint => s.syncVisit config nodeEndpoint
  | .deliver nodeEndpoint =>
      s.createOrRetrieveConnectionWithNode config nodeEndpoint true
        .delivering
  | .handshake nodeEndpoint =>
      s.createOrRetrieveConnectionWithNode config nodeEndpoint true .receiving
  | .localClosed nodeEndpoint code reason =>
      s.onCloseNode nodeEndpoint code reason
  | .destroyed nodeEndpoint => s.cleanConnections nodeEndpoint

def run (config : ClusterConfig) (events : List ClusterEvent) :
    ClusterManager :=
  events.foldl (step config) empty

end ClusterManager

end SamaServer
