/-
The two stores behind the session service.  Each node keeps in memory who is
logged in on which socket and which sockets a user is connected with; all
nodes of a deployment share one Redis, which says on which node each device of
a user is registered.
-/
import SamaServer.OrderedMap

namespace SamaServer

/-- A non-empty string.  The service tests identifiers for being present by
their truth value, so an empty one would count as a missing one. -/
structure Identifier where
  value : String
  nonempty : value ≠ ""
deriving DecidableEq

abbrev OrganizationId := Identifier

abbrev UserId := Identifier

abbrev DeviceId := Identifier

abbrev Endpoint := Identifier

/-- Sockets and HTTP response objects are compared by object identity only. -/
abbrev Socket := Nat

/-- The device id every HTTP request of a user is bound to. -/
def httpDeviceId : DeviceId := ⟨"SAMA_HTTP_CLIENT_DEVICE_ID", by decide⟩

/-- How missing values are written into a Redis key. -/
def undefinedText : Identifier := ⟨"undefined", by decide⟩

def nullText : Identifier := ⟨"null", by decide⟩

/-- The keys `NODE_ENDPOINT`, `MOBILE_INACTIVE` and `DEVICE_ID`. -/
structure ExtraParams where
  nodeEndpoint : Option Endpoint := none
  mobileInactive : Bool := false
  deviceId : Option DeviceId := none
deriving DecidableEq

structure Session where
  organizationId : OrganizationId
  userId : UserId
  extraParams : ExtraParams
deriving DecidableEq

structure Connection where
  socket : Socket
  deviceId : DeviceId
  organizationId : OrganizationId
deriving DecidableEq

/-- The tables `SESSIONS` and `DEVICES` of one node. -/
structure ActiveSessions where
  sessions : OrderedMap Socket Session
  devices : OrderedMap UserId (List Connection)

namespace ActiveSessions

def empty : ActiveSessions := ⟨.empty, .empty⟩

def getSession (active : ActiveSessions) (socket : Socket) : Option Session :=
  active.sessions.get? socket

def getSessionUserId (active : ActiveSessions) (socket : Socket) :
    Option UserId :=
  (active.getSession socket).map Session.userId

def getUserDevices (active : ActiveSessions) (userId : UserId) :
    List Connection :=
  active.devices.members userId

def getDeviceId (active : ActiveSessions) (socket : Socket)
    (userId : UserId) : Option DeviceId :=
  ((active.getUserDevices userId).find?
    (fun connection => connection.socket = socket)).map Connection.deviceId

/-- The result of `getDeviceId` as it is written into a Redis key: a user
without connections gives `null`, a socket that is not among them gives
`undefined`. -/
def deviceIdText (active : ActiveSessions) (socket : Socket)
    (userId : UserId) : DeviceId :=
  if (active.devices.get? userId).isSome then
    (active.getDeviceId socket userId).getD undefinedText
  else nullText

def setSession (active : ActiveSessions) (socket : Socket)
    (organizationId : OrganizationId) (userId : UserId)
    (extraParams : ExtraParams) : ActiveSessions :=
  { active with
    sessions := active.sessions.set socket
      ⟨organizationId, userId, extraParams⟩ }

def deleteSession (active : ActiveSessions) (socket : Socket) :
    ActiveSessions :=
  { active with sessions := active.sessions.erase socket }

def setSessionUserId (active : ActiveSessions) (socket : Socket)
    (organizationId : OrganizationId) (userId : UserId)
    (extraParams : ExtraParams) : ActiveSessions :=
  let active := if (active.getSession socket).isSome then
      active.deleteSession socket else active
  active.setSession socket organizationId userId extraParams

/-- Everything but the first connection of the socket and the first
connection of the device.  The source compares connection objects by
reference, which is comparing their places in the list. -/
def otherDeviceConnections (connections : List Connection) (socket : Socket)
    (deviceId : DeviceId) : List Connection :=
  let sameSocket := connections.findIdx?
    (fun connection => connection.socket = socket)
  let sameDevice := connections.findIdx?
    (fun connection => connection.deviceId = deviceId)
  (connections.zipIdx.filter (fun entry =>
    some entry.2 ≠ sameSocket ∧ some entry.2 ≠ sameDevice)).map Prod.fst

structure ReplacedConnections where
  sameDeviceConnection : Option Connection
  sameSocketConnection : Option Connection
deriving DecidableEq

def addUserDeviceConnection (active : ActiveSessions) (socket : Socket)
    (organizationId : OrganizationId) (userId : UserId)
    (deviceId : DeviceId) : ReplacedConnections × ActiveSessions :=
  let activeConnections := active.getUserDevices userId
  let sameSocketConnection := activeConnections.find?
    (fun connection => connection.socket = socket)
  let sameDeviceConnection := activeConnections.find?
    (fun connection => connection.deviceId = deviceId)
  let connection : Connection := ⟨socket, deviceId, organizationId⟩
  let connections :=
    otherDeviceConnections activeConnections socket deviceId ++ [connection]
  let active :=
    { active with devices := active.devices.set userId connections }
  (⟨sameDeviceConnection, sameSocketConnection⟩,
    active.setSessionUserId socket organizationId userId
      { deviceId := some deviceId })

def listUserDeviceLocal (active : ActiveSessions) (userId : UserId) :
    List DeviceId :=
  ((active.getUserDevices userId).map Connection.deviceId).filter
    (fun deviceId => deviceId ≠ httpDeviceId)

/-- The first lines of `storeUserNodeData`, which run before its first
`await`. -/
def setSessionNode (active : ActiveSessions) (socket : Socket)
    (nodeEndpoint : Endpoint) : ActiveSessions :=
  match active.getSession socket with
  | none => active
  | some session =>
      { active with
        sessions := active.sessions.set socket
          { session with
            extraParams :=
              { session.extraParams with nodeEndpoint := nodeEndpoint } } }

/-- The lines of `setSessionInactiveState` that run before its first `await`,
for a socket with a session. -/
def setInactive (active : ActiveSessions) (socket : Socket)
    (session : Session) (isInactive : Bool) : ActiveSessions :=
  { active with
    sessions := active.sessions.set socket
      { session with
        extraParams :=
          { session.extraParams with mobileInactive := isInactive } } }

structure RemovedConnection where
  organizationId : Option OrganizationId
  deviceId : Option DeviceId
  isLastConnection : Bool
deriving DecidableEq

/-- The lines of `removeUserSession` that run before its first `await`.
Without an explicit device id the connection of the socket is looked up;
either way the connections are filtered by device id alone. -/
def removeConnection (active : ActiveSessions) (socket : Socket)
    (userId : UserId) (deviceId : Option DeviceId) :
    RemovedConnection × ActiveSessions :=
  let deviceId := deviceId.or (active.getDeviceId socket userId)
  let organizationId :=
    (active.getSession socket).map Session.organizationId
  let leftActiveConnections := (active.getUserDevices userId).filter
    (fun connection => some connection.deviceId ≠ deviceId)
  let isLastConnection := leftActiveConnections.isEmpty
  let devices :=
    if isLastConnection then active.devices.erase userId
    else active.devices.set userId leftActiveConnections
  (⟨organizationId, deviceId, isLastConnection⟩,
    { active with devices := devices }.deleteSession socket)

/-- What `onClose` does before its first `await`: nothing when the socket has
no session, and otherwise it removes the connection of the socket. -/
def closeConnection (active : ActiveSessions) (socket : Socket) :
    Option (Session × RemovedConnection) × ActiveSessions :=
  match active.getSession socket with
  | none => (none, active)
  | some session =>
      let (removed, active) :=
        active.removeConnection socket session.userId none
      (some (session, removed), active)

/-- What `unbindSession` does before its first `await`, with the user whose
connection it removed. -/
def unbindConnection (active : ActiveSessions) (socket : Socket) :
    Option (UserId × RemovedConnection) × ActiveSessions :=
  match active.getSession socket with
  | none => (none, active)
  | some session =>
      let (removed, active) := active.removeConnection socket session.userId
        (some httpDeviceId)
      (some (session.userId, removed), active)

/-- The lines of `removeAllUserSessions` that run before its first `await`:
the whole list of the user is dropped, and the session of the caller. -/
def removeAllConnections (active : ActiveSessions) (socket : Socket)
    (userId : UserId) : ActiveSessions :=
  { active with
    devices := active.devices.erase userId }.deleteSession socket

end ActiveSessions

/-- The three kinds of Redis structure the service uses: the set
`sama-node-users:{node}` of registrations, the set
`sama-user-devices:{organization}:{user}` of devices, and the hash
`sama-user-data:{user}:{device}` of extra parameters. -/
structure Redis where
  nodeUsers : OrderedMap Endpoint (List (OrganizationId × UserId × DeviceId))
  userDevices : OrderedMap (OrganizationId × UserId) (List DeviceId)
  userData : OrderedMap (UserId × DeviceId) ExtraParams

namespace Redis

def empty : Redis := ⟨.empty, .empty, .empty⟩

/-- `hGetAll` answers a missing hash with an empty object. -/
def retrieveUserExtraParams (redis : Redis) (userId : UserId)
    (deviceId : DeviceId) : ExtraParams :=
  (redis.userData.get? (userId, deviceId)).getD {}

def listUserDevice (redis : Redis) (organizationId : OrganizationId)
    (userId : UserId) : List DeviceId :=
  redis.userDevices.members (organizationId, userId)

def addUserDeviceToNode (redis : Redis) (nodeEndpoint : Endpoint)
    (organizationId : OrganizationId) (userId : UserId)
    (deviceId : DeviceId) : Redis :=
  { redis with
    nodeUsers := redis.nodeUsers.addMember nodeEndpoint
      (organizationId, userId, deviceId) }

def removeUserDeviceFromNode (redis : Redis) (nodeEndpoint : Endpoint)
    (organizationId : OrganizationId) (userId : UserId)
    (deviceId : DeviceId) : Redis :=
  { redis with
    nodeUsers := redis.nodeUsers.removeMember nodeEndpoint
      (organizationId, userId, deviceId) }

def addUserDevice (redis : Redis) (organizationId : OrganizationId)
    (userId : UserId) (deviceId : DeviceId) : Redis :=
  { redis with
    userDevices :=
      redis.userDevices.addMember (organizationId, userId) deviceId }

def removeUserDevice (redis : Redis) (organizationId : OrganizationId)
    (userId : UserId) (deviceId : DeviceId) : Redis :=
  { redis with
    userDevices :=
      redis.userDevices.removeMember (organizationId, userId) deviceId }

def deleteUserDevices (redis : Redis) (organizationId : OrganizationId)
    (userId : UserId) : Redis :=
  { redis with
    userDevices := redis.userDevices.erase (organizationId, userId) }

def deleteUserExtraParams (redis : Redis) (userId : UserId)
    (deviceId : DeviceId) : Redis :=
  { redis with userData := redis.userData.erase (userId, deviceId) }

/-- `hSet` of the key `NODE_ENDPOINT`; other fields of the hash stay. -/
def setUserNode (redis : Redis) (userId : UserId) (deviceId : DeviceId)
    (nodeEndpoint : Endpoint) : Redis :=
  { redis with
    userData := redis.userData.set (userId, deviceId)
      { redis.retrieveUserExtraParams userId deviceId with
        nodeEndpoint := some nodeEndpoint } }

/-- `hSet` or `hDel` of the key `MOBILE_INACTIVE`.  A hash without fields does
not exist. -/
def setUserInactive (redis : Redis) (userId : UserId) (deviceId : DeviceId)
    (isInactive : Bool) : Redis :=
  let extraParams :=
    { redis.retrieveUserExtraParams userId deviceId with
      mobileInactive := isInactive }
  { redis with
    userData :=
      if extraParams = {} then redis.userData.erase (userId, deviceId)
      else redis.userData.set (userId, deviceId) extraParams }

/-- The commands of one `MULTI`, executed together. -/
def addUserDeviceDataTransaction (redis : Redis) (nodeEndpoint : Endpoint)
    (organizationId : OrganizationId) (userId : UserId)
    (deviceId : DeviceId) : Redis :=
  ((redis.addUserDevice organizationId userId deviceId).setUserNode
    userId deviceId nodeEndpoint).addUserDeviceToNode
      nodeEndpoint organizationId userId deviceId

def removeAllUserDeviceDataTransaction (redis : Redis)
    (nodeEndpoint : Endpoint) (organizationId : OrganizationId)
    (userId : UserId) (deviceId : DeviceId) : Redis :=
  ((redis.removeUserDevice organizationId userId
    deviceId).deleteUserExtraParams userId deviceId).removeUserDeviceFromNode
      nodeEndpoint organizationId userId deviceId

end Redis

/-- The tables of every node and the Redis they share. -/
structure Cluster where
  node : Endpoint → ActiveSessions
  redis : Redis

namespace Cluster

def empty : Cluster := ⟨fun _ => .empty, .empty⟩

def setNode (cluster : Cluster) (endpoint : Endpoint)
    (active : ActiveSessions) : Cluster :=
  { cluster with
    node := fun other => if other = endpoint then active
      else cluster.node other }

def setRedis (cluster : Cluster) (redis : Redis) : Cluster :=
  { cluster with redis := redis }

@[simp] theorem node_setNode (cluster : Cluster) (endpoint other : Endpoint)
    (active : ActiveSessions) :
    (cluster.setNode endpoint active).node other =
      if other = endpoint then active else cluster.node other := rfl

@[simp] theorem redis_setRedis (cluster : Cluster) (redis : Redis) :
    (cluster.setRedis redis).redis = redis := rfl

end Cluster

namespace Sample

def organization : OrganizationId := ⟨"org", by decide⟩

def alice : UserId := ⟨"alice", by decide⟩

def bob : UserId := ⟨"bob", by decide⟩

def phone : DeviceId := ⟨"phone", by decide⟩

def laptop : DeviceId := ⟨"laptop", by decide⟩

def nodeA : Endpoint := ⟨"ws://a/", by decide⟩

def nodeB : Endpoint := ⟨"ws://b/", by decide⟩

end Sample

end SamaServer
