/-
The packet manager: a packet for a list of users goes to their sockets on this
node, to the other nodes they are registered on, to the operation log and to
the push queue.
-/
import SamaServer.SessionService

namespace SamaServer

/-- The sender as the recipients see it.  A socket stands for its API type.  A
sender without a session is known by the organization alone, and its device is
looked up under the property name `undefined`. -/
structure SenderInfo where
  organizationId : OrganizationId
  socket : Option Socket
  session : Option Session
  node : Endpoint
  deviceId : Option DeviceId

structure RecipientInfo where
  socket : Socket
  session : Option Session
  deviceId : DeviceId

structure SourceOptions where
  organizationId : OrganizationId
  socket : Option Socket

structure PayloadOptions (Packet Push : Type) where
  packet : Packet
  notSaveInOfflineStorage : Bool
  ignoreSelf : Bool
  pushQueueMessage : Option Push

/-- The packet mapper gives the messages that one recipient is sent. -/
def PacketMapper (Packet Message : Type) :=
  SenderInfo → RecipientInfo → Packet → List Message

structure ClusterPacket (Packet : Type) where
  userId : UserId
  packet : Packet
  senderInfo : SenderInfo

/-- Everything a delivery hands on. -/
structure Delivery (Packet Message Push : Type) where
  savedPackets : List (UserId × Packet)
  socketSends : List (Socket × Message)
  clusterPackets : List (Endpoint × ClusterPacket Packet)
  createdPush : Option (Push × List UserId)

namespace PacketManager

variable {Packet Message Push : Type}

/-- The three filters of `deliverToUserOnThisNode`.  A connection always has a
socket, so the second of them keeps everything. -/
def activeDevices (active : ActiveSessions) (userId : UserId)
    (exceptDeviceId : Option DeviceId) : List Connection :=
  ((active.getUserDevices userId).filter
    (fun activeDevice => activeDevice.deviceId ≠ httpDeviceId)).filter
    (fun activeDevice => some activeDevice.deviceId ≠ exceptDeviceId)

def deliverToUserOnThisNode (mapper : PacketMapper Packet Message)
    (active : ActiveSessions) (userId : UserId)
    (exceptDeviceId : Option DeviceId) (packet : Packet)
    (senderInfo : SenderInfo) : List (Socket × Message) :=
  (activeDevices active userId exceptDeviceId).flatMap (fun recipient =>
    let recipientInfo : RecipientInfo :=
      ⟨recipient.socket, active.getSession recipient.socket,
        recipient.deviceId⟩
    (mapper senderInfo recipientInfo packet).map
      (fun message => (recipient.socket, message)))

def senderInfoOf (endpoint : Endpoint) (sourceOptions : SourceOptions)
    (active : ActiveSessions) : SenderInfo :=
  match sourceOptions.socket with
  | none => ⟨sourceOptions.organizationId, none, none, endpoint, none⟩
  | some socket =>
      let session := active.getSession socket
      ⟨sourceOptions.organizationId, some socket, session, endpoint,
        active.getDeviceId socket
          ((session.map Session.userId).getD undefinedText)⟩

abbrev CurrentNode := OrderedMap UserId Endpoint

abbrev OtherNodes := OrderedMap Endpoint (OrderedMap UserId Endpoint)

/-- One turn of the loop in `reduceUserNodeConnections`. -/
def reduceConnection (deployment : Deployment) (targetNodeEndpoint : Endpoint)
    (userId : UserId) (nodes : CurrentNode × OtherNodes)
    (connectionsParams : ExtraParams) : CurrentNode × OtherNodes :=
  match connectionsParams.nodeEndpoint with
  | none => nodes
  | some connectionEndpoint =>
      if connectionEndpoint = targetNodeEndpoint ∨
          deployment.isStandAloneNode then
        (nodes.1.set userId connectionEndpoint, nodes.2)
      else
        (nodes.1, nodes.2.set connectionEndpoint
          (((nodes.2.get? connectionEndpoint).getD .empty).set userId
            connectionEndpoint))

def reduceUserNodeConnections (deployment : Deployment)
    (targetNodeEndpoint : Endpoint) (userId : UserId)
    (nodeConnections : List ExtraParams) (nodes : CurrentNode × OtherNodes) :
    CurrentNode × OtherNodes :=
  nodeConnections.foldl (reduceConnection deployment targetNodeEndpoint
    userId) nodes

/-- The accumulators of `deliverToUserOrUsers`. -/
structure Destinations where
  savedUserIds : List UserId
  offlineUsersIds : List UserId
  nodes : CurrentNode × OtherNodes

def Destinations.none : Destinations := ⟨[], [], .empty, .empty⟩

/-- The turn of the loop for one destination user, once its connections are
known. -/
def sortDestination (deployment : Deployment) (endpoint : Endpoint)
    (notSaveInOfflineStorage : Bool) (destinations : Destinations)
    (userId : UserId) (userConnections : OrderedMap DeviceId ExtraParams) :
    Destinations :=
  let connections := (propertyOrder (fun entry => entry.1.value)
    userConnections.entries).map Prod.snd
  let isOffline := connections.isEmpty
  let isInactive := connections.any ExtraParams.mobileInactive
  { savedUserIds :=
      if isOffline && !notSaveInOfflineStorage then
        destinations.savedUserIds ++ [userId]
      else destinations.savedUserIds
    offlineUsersIds :=
      if isOffline || isInactive then
        destinations.offlineUsersIds ++ [userId]
      else destinations.offlineUsersIds
    nodes :=
      if isOffline then destinations.nodes
      else reduceUserNodeConnections deployment endpoint userId connections
        destinations.nodes }

def sortDestinations (deployment : Deployment) (endpoint : Endpoint)
    (organizationId : OrganizationId) (notSaveInOfflineStorage : Bool) :
    List UserId → Destinations → Service Destinations
  | [], destinations => pure destinations
  | userId :: userIds, destinations => do
      let userConnections ← SessionService.listUserData deployment endpoint
        organizationId userId
      sortDestinations deployment endpoint organizationId
        notSaveInOfflineStorage userIds
        (sortDestination deployment endpoint notSaveInOfflineStorage
          destinations userId userConnections)

/-- The deliveries that follow the loop. -/
def handOver (mapper : PacketMapper Packet Message)
    (payloadOptions : PayloadOptions Packet Push) (senderInfo : SenderInfo)
    (destinations : Destinations) (active : ActiveSessions) :
    Delivery Packet Message Push :=
  let exceptDeviceId :=
    if payloadOptions.ignoreSelf then senderInfo.deviceId else none
  { savedPackets := destinations.savedUserIds.map
      (fun userId => (userId, payloadOptions.packet))
    socketSends :=
      (propertyOrder Identifier.value destinations.nodes.1.keys).flatMap
        (fun userId => deliverToUserOnThisNode mapper active userId
          exceptDeviceId payloadOptions.packet senderInfo)
    clusterPackets :=
      (propertyOrder (fun entry => entry.1.value)
        destinations.nodes.2.entries).flatMap (fun entry =>
          (propertyOrder Identifier.value entry.2.keys).map (fun userId =>
            (entry.1, ⟨userId, payloadOptions.packet, senderInfo⟩)))
    createdPush :=
      match payloadOptions.pushQueueMessage with
      | none => none
      | some pushQueueMessage =>
          if destinations.offlineUsersIds.isEmpty then none
          else some (pushQueueMessage, destinations.offlineUsersIds) }

def deliverToUserOrUsers (deployment : Deployment) (endpoint : Endpoint)
    (mapper : PacketMapper Packet Message) (sourceOptions : SourceOptions)
    (destinationUserIds : List UserId)
    (payloadOptions : PayloadOptions Packet Push) :
    Service (Delivery Packet Message Push) := do
  let senderInfo ← nodeBlock .lookup endpoint (fun active =>
    (senderInfoOf endpoint sourceOptions active, active))
  let destinations ← sortDestinations deployment endpoint
    sourceOptions.organizationId payloadOptions.notSaveInOfflineStorage
    destinationUserIds .none
  nodeBlock .lookup endpoint (fun active =>
    (handOver mapper payloadOptions senderInfo destinations active, active))

end PacketManager

end SamaServer
