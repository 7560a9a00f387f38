/-
The asynchronous half of the session service.  A program suspends before each
Redis command and before each block of node-local code, so that the steps of
different requests and of different nodes interleave exactly there.
-/
import SamaServer.Async
import SamaServer.PropertyOrder
import SamaServer.SessionStore

namespace SamaServer

/-- What an atomic step of the service does.  The node-local blocks that
change the tables carry the node and the socket, the Redis commands the user
and the device they are about. -/
inductive Label
  | lookup
  | connected (endpoint : Endpoint) (socket : Socket) (userId : UserId)
      (deviceId : DeviceId)
  | closed (endpoint : Endpoint) (socket : Socket)
  | removed (endpoint : Endpoint) (socket : Socket) (userId : UserId)
      (deviceId : Option DeviceId)
  | unbound (endpoint : Endpoint) (socket : Socket)
  | deleted (endpoint : Endpoint) (socket : Socket)
  | listed (userId : UserId)
  | inspected (userId : UserId) (deviceId : DeviceId)
  | judged (userId : UserId) (deviceId : DeviceId)
  | dropped (userId : UserId) (deviceId : DeviceId)
  | removing (userId : UserId) (deviceId : DeviceId)
  | stored (endpoint : Endpoint) (userId : UserId) (deviceId : DeviceId)
  | forgotten (userId : UserId)
  | marked (endpoint : Endpoint) (socket : Socket)
  | annotated (userId : UserId) (deviceId : DeviceId)
deriving DecidableEq

/-- The steps that change the tables of a node. -/
def Label.isBlock : Label → Bool
  | .connected .. | .closed .. | .removed .. | .unbound .. | .deleted ..
  | .marked .. => true
  | _ => false

abbrev Service := Async Label Cluster

/-- What all nodes of a deployment have in common: the setting
`app.isStandAloneNode`, and the `organization_id` of every stored user, which
no operation changes. -/
structure Deployment where
  isStandAloneNode : Bool
  organizationOf : UserId → OrganizationId

/-- One Redis command, or one `MULTI`. -/
def redisCommand {A : Type} (label : Label) (command : Redis → A × Redis) :
    Service A :=
  .atomic label (fun cluster =>
    ((command cluster.redis).1, cluster.setRedis (command cluster.redis).2))

def redisUpdate (label : Label) (update : Redis → Redis) : Service Unit :=
  redisCommand label (fun redis => ((), update redis))

def redisQuery {A : Type} (label : Label) (query : Redis → A) : Service A :=
  redisCommand label (fun redis => (query redis, redis))

/-- Code of one node between two suspensions. -/
def nodeBlock {A : Type} (label : Label) (endpoint : Endpoint)
    (block : ActiveSessions → A × ActiveSessions) : Service A :=
  .atomic label (fun cluster =>
    ((block (cluster.node endpoint)).1,
      cluster.setNode endpoint (block (cluster.node endpoint)).2))

/-- An answer the program waits for and that changes neither store. -/
def awaitAnswer {A : Type} (answer : A) : Service A :=
  .atomic .lookup (fun cluster => (answer, cluster))

namespace SessionService

/-- The test of one device in `filterActualDeviceIds`: the hash names no node,
or it names this node and this node has no such connection. -/
def isNotActual (endpoint : Endpoint) (userId : UserId) (deviceId : DeviceId)
    (deviceExt : ExtraParams) (active : ActiveSessions) : Bool :=
  let noEndpointKey := deviceExt.nodeEndpoint.isNone
  let isSameEndpoint := deviceExt.nodeEndpoint = some endpoint
  let hasDeviceConnection := (active.getUserDevices userId).any
    (fun connection => connection.deviceId = deviceId)
  noEndpointKey || (isSameEndpoint && !hasDeviceConnection)

def removeAllUserDeviceDataTransaction (endpoint : Endpoint)
    (organizationId : OrganizationId) (userId : UserId)
    (deviceId : DeviceId) : Service Unit :=
  redisUpdate (.dropped userId deviceId) (fun redis =>
    redis.removeAllUserDeviceDataTransaction endpoint organizationId userId
      deviceId)

def filterActualDeviceIds (endpoint : Endpoint)
    (organizationId : OrganizationId) (userId : UserId) :
    List DeviceId → Service (List DeviceId)
  | [] => pure []
  | deviceId :: deviceIds => do
      let deviceExt ← redisQuery (.inspected userId deviceId)
        (fun redis => redis.retrieveUserExtraParams userId deviceId)
      let notActual ← nodeBlock (.judged userId deviceId) endpoint
        (fun active =>
          (isNotActual endpoint userId deviceId deviceExt active, active))
      if notActual then
        removeAllUserDeviceDataTransaction endpoint organizationId userId
          deviceId
        filterActualDeviceIds endpoint organizationId userId deviceIds
      else
        let others ←
          filterActualDeviceIds endpoint organizationId userId deviceIds
        pure (deviceId :: others)

def listUserDevice (deployment : Deployment) (endpoint : Endpoint)
    (organizationId : OrganizationId) (userId : UserId)
    (filterActualDevices : Bool) : Service (List DeviceId) :=
  if deployment.isStandAloneNode then
    nodeBlock (.listed userId) endpoint (fun active =>
      (active.listUserDeviceLocal userId, active))
  else do
    let deviceIds ← redisQuery (.listed userId)
      (fun redis => redis.listUserDevice organizationId userId)
    if filterActualDevices then
      filterActualDeviceIds endpoint organizationId userId deviceIds
    else
      pure deviceIds

/-- The Redis commands of `removeAllUserDeviceData`.  They are addressed by
user and device alone: nothing asks which node the registration belongs to. -/
def removeDeviceKeys (endpoint : Endpoint) (organizationId : OrganizationId)
    (userId : UserId) (deviceId : DeviceId) : Service Unit := do
  redisUpdate (.removing userId deviceId) (fun redis =>
    redis.removeUserDevice organizationId userId deviceId)
  let extraParams ← redisQuery (.removing userId deviceId) (fun redis =>
    redis.retrieveUserExtraParams userId deviceId)
  redisUpdate (.removing userId deviceId) (fun redis =>
    redis.deleteUserExtraParams userId deviceId)
  redisUpdate (.removing userId deviceId) (fun redis =>
    redis.removeUserDeviceFromNode (extraParams.nodeEndpoint.getD endpoint)
      organizationId userId deviceId)

def removeAllUserDeviceData (deployment : Deployment) (endpoint : Endpoint)
    (organizationId : OrganizationId) (userId : UserId)
    (deviceId : DeviceId) : Service Bool := do
  removeDeviceKeys endpoint organizationId userId deviceId
  let leftDevices ← listUserDevice deployment endpoint organizationId userId
    true
  pure leftDevices.isEmpty

/-- `storeUserNodeData` after its synchronous first lines. -/
def storeUserNodeData (deployment : Deployment) (endpoint : Endpoint)
    (organizationId : OrganizationId) (userId : UserId)
    (deviceId : DeviceId) : Service Unit :=
  if deployment.isStandAloneNode then
    pure ()
  else do
    let userDeviceIds ← listUserDevice deployment endpoint organizationId
      userId false
    if deviceId ∈ userDeviceIds then
      let _ ← removeAllUserDeviceData deployment endpoint organizationId
        userId deviceId
      redisUpdate (.stored endpoint userId deviceId) (fun redis =>
        redis.addUserDeviceDataTransaction endpoint organizationId userId
          deviceId)
    else
      redisUpdate (.stored endpoint userId deviceId) (fun redis =>
        redis.addUserDeviceDataTransaction endpoint organizationId userId
          deviceId)

/-- `removeUserSession` after its synchronous first lines.  The organization
of a session that is already gone is written `undefined` into the keys. -/
def finishRemoval (deployment : Deployment) (endpoint : Endpoint)
    (userId : UserId) (removed : ActiveSessions.RemovedConnection) :
    Service Bool :=
  match removed.deviceId with
  | none => pure removed.isLastConnection
  | some deviceId =>
      if deployment.isStandAloneNode then
        pure removed.isLastConnection
      else
        removeAllUserDeviceData deployment endpoint
          (removed.organizationId.getD undefinedText) userId deviceId

/-- Every caller passes the user id and most pass the device id too. -/
def removeUserSession (deployment : Deployment) (endpoint : Endpoint)
    (socket : Socket) (userId : UserId) (deviceId : Option DeviceId) :
    Service Bool := do
  let removed ← nodeBlock (.removed endpoint socket userId deviceId) endpoint
    (fun active => active.removeConnection socket userId deviceId)
  finishRemoval deployment endpoint userId removed

/-- One entry of `userData` for each listed device. -/
def readUserData (userId : UserId) :
    List DeviceId → OrderedMap DeviceId ExtraParams →
      Service (OrderedMap DeviceId ExtraParams)
  | [], userData => pure userData
  | deviceId :: deviceIds, userData => do
      let extraParams ← redisQuery (.inspected userId deviceId)
        (fun redis => redis.retrieveUserExtraParams userId deviceId)
      readUserData userId deviceIds (userData.set deviceId extraParams)

/-- The branch of `listUserData` for a node that runs alone. -/
def listUserDataLocal (active : ActiveSessions) (userId : UserId) :
    OrderedMap DeviceId ExtraParams :=
  (active.getUserDevices userId).foldl (fun userData connection =>
    if connection.deviceId = httpDeviceId then userData
    else match active.getSession connection.socket with
      | none => userData
      | some session =>
          userData.set connection.deviceId session.extraParams) .empty

def listUserData (deployment : Deployment) (endpoint : Endpoint)
    (organizationId : OrganizationId) (userId : UserId) :
    Service (OrderedMap DeviceId ExtraParams) :=
  if deployment.isStandAloneNode then
    nodeBlock (.listed userId) endpoint (fun active =>
      (listUserDataLocal active userId, active))
  else do
    let userDevices ← listUserDevice deployment endpoint organizationId
      userId false
    readUserData userId userDevices .empty

def deleteAllExtraParams (userId : UserId) : List DeviceId → Service Unit
  | [] => pure ()
  | deviceId :: deviceIds => do
      redisUpdate (.removing userId deviceId) (fun redis =>
        redis.deleteUserExtraParams userId deviceId)
      deleteAllExtraParams userId deviceIds

def deleteUserData (deployment : Deployment) (endpoint : Endpoint)
    (organizationId : OrganizationId) (userId : UserId) : Service Unit := do
  let userDevices ← listUserDevice deployment endpoint organizationId userId
    false
  deleteAllExtraParams userId userDevices
  redisUpdate (.forgotten userId) (fun redis =>
    redis.deleteUserDevices organizationId userId)

/-- The loop of `removeAllUserSessions` over the entries of `userData`. -/
def removeFromNodes (organizationId : OrganizationId) (userId : UserId) :
    List (DeviceId × ExtraParams) → Service Unit
  | [] => pure ()
  | (deviceId, extraParams) :: userData =>
      match extraParams.nodeEndpoint with
      | none => removeFromNodes organizationId userId userData
      | some nodeEndpoint => do
          redisUpdate (.removing userId deviceId) (fun redis =>
            redis.removeUserDeviceFromNode nodeEndpoint organizationId userId
              deviceId)
          removeFromNodes organizationId userId userData

/-- The Redis half of `removeAllUserSessions`. -/
def forgetUser (deployment : Deployment) (endpoint : Endpoint)
    (organizationId : OrganizationId) (userId : UserId) : Service Unit := do
  let userData ← listUserData deployment endpoint organizationId userId
  removeFromNodes organizationId userId
    (propertyOrder (fun entry => entry.1.value) userData.entries)
  deleteUserData deployment endpoint organizationId userId

/-- Destructuring the session of a socket that has none is a `TypeError`,
which the answer `false` stands for. -/
def setSessionInactiveState (deployment : Deployment) (endpoint : Endpoint)
    (socket : Socket) (isInactive : Bool) : Service Bool := do
  let target ← nodeBlock (.marked endpoint socket) endpoint (fun active =>
    match active.getSession socket with
    | none => (none, active)
    | some session =>
        (some (session.userId, active.deviceIdText socket session.userId),
          active.setInactive socket session isInactive))
  match target with
  | none => pure false
  | some (userId, deviceId) =>
      if deployment.isStandAloneNode then
        pure true
      else do
        redisUpdate (.annotated userId deviceId) (fun redis =>
          redis.setUserInactive userId deviceId isInactive)
        pure true

/-- Nothing happens when the caller's session is gone. -/
def removeAllUserSessions (deployment : Deployment) (endpoint : Endpoint)
    (socket : Socket) : Service Unit := do
  let caller ← nodeBlock (.deleted endpoint socket) endpoint (fun active =>
    match active.getSession socket with
    | none => (none, active)
    | some session =>
        (some session, active.removeAllConnections socket session.userId))
  match caller with
  | none => pure ()
  | some session =>
      if deployment.isStandAloneNode then
        pure ()
      else
        forgetUser deployment endpoint session.organizationId session.userId

end SessionService

end SamaServer
