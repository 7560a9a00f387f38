/-
Requests served one after the other.  Each operation is run from its first to
its last step before the next one starts, and what it leaves in the tables of
its node is one of five table updates.
-/
import SamaServer.DeviceConnections
import SamaServer.SessionFrames

namespace SamaServer

namespace Directory

/-- The user a token login ends with, once all lookups are answered. -/
def authenticateToken (directory : Directory) (token : String)
    (deviceId : DeviceId) : Except OperationError UserId :=
  match directory.findToken token deviceId with
  | none => .error .tokenExpired
  | some userId => (directory.findById userId).elim (.error .typeError) .ok

def authenticateUserInfo (directory : Directory) (userInfo : UserInfo) :
    Except OperationError UserId :=
  match directory.findUser userInfo with
  | none => .error .incorrectLoginOrPassword
  | some userId =>
      if directory.validatePassword userId userInfo.password then .ok userId
      else .error .incorrectLoginOrPassword

def authenticateUser (directory : Directory) (userInfo : UserInfo) :
    Except OperationError UserId :=
  match userInfo.token with
  | some token => directory.authenticateToken token userInfo.deviceId
  | none => directory.authenticateUserInfo userInfo

def authenticate (directory : Directory) (userInfo : UserInfo) :
    Except OperationError UserId :=
  match directory.authenticateUser userInfo with
  | .error cause => .error cause
  | .ok userId =>
      if directory.isUserFromBlocked userId then .error .organizationBlocked
      else .ok userId

/-- A directory in which every non-empty token is valid and names its user. -/
def trusting : Directory where
  findToken := fun token _ =>
    if htoken : token ≠ "" then some ⟨token, htoken⟩ else none
  findById := some
  findByLogin := fun _ login =>
    if hlogin : login ≠ "" then some ⟨login, hlogin⟩ else none
  validatePassword := fun _ _ => true
  isUserFromBlocked := fun _ => false

end Directory

namespace SessionService

variable (deployment : Deployment) (endpoint : Endpoint) (socket : Socket)
  (directory : Directory)

@[simp] theorem run_awaitAnswer {A : Type} (answer : A) (cluster : Cluster) :
    (awaitAnswer answer).run cluster = (answer, cluster) := rfl

@[simp] theorem run_awaitAnswers (count : Nat) (cluster : Cluster) :
    (awaitAnswers count).run cluster = ((), cluster) := by
  induction count with
  | zero => rfl
  | succ count ih => exact ih

@[simp] theorem run_nodeBlock {A : Type} (label : Label)
    (block : ActiveSessions → A × ActiveSessions) (cluster : Cluster) :
    (nodeBlock label endpoint block).run cluster =
      ((block (cluster.node endpoint)).1,
        cluster.setNode endpoint (block (cluster.node endpoint)).2) := rfl

@[simp] theorem run_redisUpdate (label : Label) (update : Redis → Redis)
    (cluster : Cluster) :
    (redisUpdate label update).run cluster =
      ((), cluster.setRedis (update cluster.redis)) := rfl

@[simp] theorem run_redisQuery {A : Type} (label : Label)
    (query : Redis → A) (cluster : Cluster) :
    (redisQuery label query).run cluster =
      (query cluster.redis, cluster) := rfl

theorem setNode_self (cluster : Cluster) :
    cluster.setNode endpoint (cluster.node endpoint) = cluster := by
  obtain ⟨node, redis⟩ := cluster
  simp only [Cluster.setNode, Cluster.mk.injEq, and_true]
  funext other
  split
  · next hother => rw [hother]
  · rfl

theorem run_authByToken (token : String) (deviceId : DeviceId)
    (cluster : Cluster) :
    (authByToken directory token deviceId).run cluster =
      (directory.authenticateToken token deviceId, cluster) := by
  simp only [authByToken, Async.run_bind, run_awaitAnswer,
    Directory.authenticateToken]
  cases directory.findToken token deviceId <;> rfl

theorem run_authByUserInfo (userInfo : UserInfo) (cluster : Cluster) :
    (authByUserInfo directory userInfo).run cluster =
      (directory.authenticateUserInfo userInfo, cluster) := by
  simp only [authByUserInfo, Async.run_bind, run_awaitAnswer,
    Directory.authenticateUserInfo]
  cases directory.findUser userInfo with
  | none => rfl
  | some userId =>
      cases hvalid : directory.validatePassword userId userInfo.password <;>
        simp [hvalid]

theorem run_authUser (userInfo : UserInfo) (cluster : Cluster) :
    (authUser directory userInfo).run cluster =
      (directory.authenticateUser userInfo, cluster) := by
  unfold authUser Directory.authenticateUser
  cases userInfo.token with
  | none => exact run_authByUserInfo directory userInfo cluster
  | some token =>
      exact run_authByToken directory token userInfo.deviceId cluster

/-- A login whose lookups succeed connects the device; any other login
changes nothing. -/
theorem run_userAuth (userInfo : UserInfo) (cluster : Cluster) :
    (userAuth deployment endpoint socket directory userInfo false).run
        cluster =
      match directory.authenticate userInfo with
      | .error cause => (.error cause, cluster)
      | .ok userId => (.ok userId, ((connectDevice deployment endpoint socket
          userId userInfo.deviceId).run cluster).2) := by
  rw [userAuth, Async.run_bind, run_authUser, Directory.authenticate]
  cases directory.authenticateUser userInfo with
  | error cause => rfl
  | ok userId =>
      cases hblocked : directory.isUserFromBlocked userId <;>
        simp [hblocked]

theorem run_userConnectSocket (token : String) (deviceId : DeviceId)
    (cluster : Cluster) :
    (userConnectSocket deployment endpoint socket directory token
        deviceId).run cluster =
      match directory.authenticateToken token deviceId with
      | .error cause => (.error cause, cluster)
      | .ok userId => (.ok userId, ((connectDevice deployment endpoint socket
          userId deviceId).run cluster).2) := by
  rw [userConnectSocket, Async.run_bind, run_authByToken]
  cases directory.authenticateToken token deviceId <;> simp

end SessionService

namespace ActiveSessions

/-- The tables after the synchronous lines of a successful login. -/
def attach (active : ActiveSessions) (deployment : Deployment)
    (endpoint : Endpoint) (socket : Socket) (userId : UserId)
    (deviceId : DeviceId) : ActiveSessions :=
  (active.addUserDeviceConnection socket (deployment.organizationOf userId)
    userId deviceId).2.setSessionNode socket endpoint

theorem getUserDevices_attach (active : ActiveSessions)
    (deployment : Deployment) (endpoint : Endpoint) (socket : Socket)
    (userId : UserId) (deviceId : DeviceId) (other : UserId) :
    (active.attach deployment endpoint socket userId
      deviceId).getUserDevices other =
      if other = userId then
        otherDeviceConnections (active.getUserDevices userId) socket
          deviceId ++ [⟨socket, deviceId, deployment.organizationOf userId⟩]
      else active.getUserDevices other := by
  rw [attach, getUserDevices_setSessionNode,
    getUserDevices_addUserDeviceConnection]

theorem getSession_attach (active : ActiveSessions)
    (deployment : Deployment) (endpoint : Endpoint) (socket : Socket)
    (userId : UserId) (deviceId : DeviceId) (other : Socket) :
    (active.attach deployment endpoint socket userId
      deviceId).getSession other =
      if other = socket then
        some ⟨deployment.organizationOf userId, userId,
          { nodeEndpoint := some endpoint, deviceId := some deviceId }⟩
      else active.getSession other := by
  rw [attach, getSession_setSessionNode, getSession_addUserDeviceConnection]
  by_cases hother : other = socket
  · simp [hother]
  · simp [hother]

theorem distinct_attach {active : ActiveSessions}
    (hdistinct : active.Distinct) (deployment : Deployment)
    (endpoint : Endpoint) (socket : Socket) (userId : UserId)
    (deviceId : DeviceId) :
    (active.attach deployment endpoint socket userId deviceId).Distinct :=
  distinct_setSessionNode (distinct_addUserDeviceConnection hdistinct socket
    _ userId deviceId) socket endpoint

end ActiveSessions

/-- What a socket can ask for. -/
inductive SocketRequest
  | login (directory : Directory) (userInfo : UserInfo)
  | connect (directory : Directory) (token : String) (deviceId : DeviceId)
  | logout
  | close
  | delete (directory : Directory)

/-- A request together with the node and the socket it arrives on. -/
structure Arrival where
  endpoint : Endpoint
  socket : Socket
  request : SocketRequest

/-- The answer of an operation is of no interest to the tables. -/
def discard {A : Type} (program : Service A) : Service Unit := do
  let _ ← program
  pure ()

@[simp] theorem run_discard {A : Type} (program : Service A)
    (cluster : Cluster) :
    ((discard program).run cluster).2 = (program.run cluster).2 := by
  simp [discard]

namespace Arrival

open SessionService

def program (deployment : Deployment) (arrival : Arrival) : Service Unit :=
  match arrival.request with
  | .login directory userInfo =>
      discard (userAuth deployment arrival.endpoint arrival.socket directory
        userInfo false)
  | .connect directory token deviceId =>
      discard (userConnectSocket deployment arrival.endpoint arrival.socket
        directory token deviceId)
  | .logout =>
      discard (userLogout deployment arrival.endpoint arrival.socket)
  | .close => onClose deployment arrival.endpoint arrival.socket
  | .delete directory =>
      discard (userDelete deployment arrival.endpoint arrival.socket
        directory)

/-- The user and device that a login or connect establishes. -/
def establishes (arrival : Arrival) : Option (UserId × DeviceId) :=
  match arrival.request with
  | .login directory userInfo =>
      match directory.authenticate userInfo with
      | .ok userId => some (userId, userInfo.deviceId)
      | .error _ => none
  | .connect directory token deviceId =>
      match directory.authenticateToken token deviceId with
      | .ok userId => some (userId, deviceId)
      | .error _ => none
  | _ => none

end Arrival

def Cluster.serve (deployment : Deployment) (cluster : Cluster)
    (arrival : Arrival) : Cluster :=
  ((arrival.program deployment).run cluster).2

/-- The state after a sequence of requests, each run to its end before the
next. -/
def Cluster.serveAll (deployment : Deployment) (arrivals : List Arrival) :
    Cluster :=
  arrivals.foldl (Cluster.serve deployment) .empty

/-- A login or connect that succeeds is, for both stores, the session lines it
runs. -/
theorem Cluster.serve_eq_connectDevice (deployment : Deployment)
    (cluster : Cluster) (arrival : Arrival) (userId : UserId)
    (deviceId : DeviceId)
    (hestablishes : arrival.establishes = some (userId, deviceId)) :
    cluster.serve deployment arrival =
      ((SessionService.connectDevice deployment arrival.endpoint
        arrival.socket userId deviceId).run cluster).2 := by
  obtain ⟨endpoint, socket, request⟩ := arrival
  cases request with
  | login directory userInfo =>
      simp only [Arrival.establishes] at hestablishes
      split at hestablishes
      · next user hok =>
          cases hestablishes
          simp only [Cluster.serve, Arrival.program, run_discard,
            SessionService.run_userAuth, hok]
      · cases hestablishes
  | connect directory token tokenDevice =>
      simp only [Arrival.establishes] at hestablishes
      split at hestablishes
      · next user hok =>
          cases hestablishes
          simp only [Cluster.serve, Arrival.program, run_discard,
            SessionService.run_userConnectSocket, hok]
      · cases hestablishes
  | logout => cases hestablishes
  | close => cases hestablishes
  | delete directory => cases hestablishes

/-- A socket request leaves every node's tables alone except that on its own
node it attaches the socket, removes its connection, drops the user, or does
nothing. -/
inductive TableUpdate (deployment : Deployment) (arrival : Arrival)
    (before : ActiveSessions) : ActiveSessions → Prop
  | attach (userId : UserId) (deviceId : DeviceId)
      (hestablishes : arrival.establishes = some (userId, deviceId)) :
      TableUpdate deployment arrival before
        (before.attach deployment arrival.endpoint arrival.socket userId
          deviceId)
  | remove (session : Session)
      (hestablishes : arrival.establishes = none)
      (hsession : before.getSession arrival.socket = some session) :
      TableUpdate deployment arrival before
        (before.removeConnection arrival.socket session.userId none).2
  | dropUser (session : Session)
      (hestablishes : arrival.establishes = none)
      (hsession : before.getSession arrival.socket = some session) :
      TableUpdate deployment arrival before
        (before.removeAllConnections arrival.socket session.userId)
  | nothing (hestablishes : arrival.establishes = none) :
      TableUpdate deployment arrival before before

theorem TableUpdate.distinct {deployment : Deployment} {arrival : Arrival}
    {before after : ActiveSessions}
    (hupdate : TableUpdate deployment arrival before after)
    (hdistinct : before.Distinct) : after.Distinct := by
  cases hupdate with
  | attach userId deviceId _ =>
      exact ActiveSessions.distinct_attach hdistinct deployment _ _ userId
        deviceId
  | remove session _ _ =>
      exact ActiveSessions.distinct_removeConnection hdistinct _ _ _
  | dropUser session _ _ =>
      exact ActiveSessions.distinct_removeAllConnections hdistinct _ _
  | nothing _ => exact hdistinct

namespace SessionService

variable (deployment : Deployment) (endpoint : Endpoint) (socket : Socket)

theorem run_connectDevice_node (userId : UserId) (deviceId : DeviceId)
    (cluster : Cluster) :
    ((connectDevice deployment endpoint socket userId deviceId).run
      cluster).2.node =
      (cluster.setNode endpoint ((cluster.node endpoint).attach deployment
        endpoint socket userId deviceId)).node := by
  simp only [connectDevice, Async.run_bind, run_nodeBlock]
  have hstore := fun first => (staysWith_storeUserNodeData deployment
    endpoint (deployment.organizationOf userId) userId deviceId).run_node
    first
  split
  · rw [Async.pure_eq_done, Async.run_done, hstore]
    rfl
  · next connection _ =>
      rw [Async.run_bind, Async.pure_eq_done, Async.run_done,
        (staysWith_removeAllUserDeviceData deployment endpoint _ userId
          connection.deviceId).run_node, hstore]
      rfl

theorem run_finishRemoval_node (userId : UserId)
    (removed : ActiveSessions.RemovedConnection) (cluster : Cluster) :
    ((finishRemoval deployment endpoint userId removed).run cluster).2.node =
      cluster.node :=
  (staysWith_finishRemoval deployment endpoint userId removed).run_node
    cluster

/-- Looking the device up first makes no difference: the removal looks it up
the same way. -/
theorem removeConnection_getDeviceId (active : ActiveSessions)
    (userId : UserId) :
    active.removeConnection socket userId
        (active.getDeviceId socket userId) =
      active.removeConnection socket userId none := by
  unfold ActiveSessions.removeConnection
  rw [Option.or_self, Option.none_or]

theorem run_userLogout_node (cluster : Cluster) :
    ((userLogout deployment endpoint socket).run cluster).2.node =
      match (cluster.node endpoint).getSession socket with
      | none => cluster.node
      | some session => (cluster.setNode endpoint
          ((cluster.node endpoint).removeConnection socket session.userId
            none).2).node := by
  simp only [userLogout, Async.run_bind, run_nodeBlock, setNode_self]
  cases hsession : (cluster.node endpoint).getSession socket with
  | none => rfl
  | some session =>
      simp only [Option.map_some, Async.run_bind, run_awaitAnswer,
        removeUserSession, run_nodeBlock, Async.pure_eq_done,
        Async.run_done, run_finishRemoval_node,
        removeConnection_getDeviceId]

theorem run_onClose_node (cluster : Cluster) :
    ((onClose deployment endpoint socket).run cluster).2.node =
      match (cluster.node endpoint).getSession socket with
      | none => cluster.node
      | some session => (cluster.setNode endpoint
          ((cluster.node endpoint).removeConnection socket session.userId
            none).2).node := by
  simp only [onClose, Async.run_bind, run_nodeBlock,
    ActiveSessions.closeConnection]
  cases hsession : (cluster.node endpoint).getSession socket with
  | none => exact congrArg Cluster.node (setNode_self endpoint cluster)
  | some session =>
      simp only [Async.run_bind]
      split
      · rw [run_awaitAnswer, run_finishRemoval_node]
      · rw [Async.pure_eq_done, Async.run_done, run_finishRemoval_node]

theorem run_userDelete_node (directory : Directory) (cluster : Cluster) :
    ((userDelete deployment endpoint socket directory).run cluster).2.node =
      match (cluster.node endpoint).getSession socket with
      | none => cluster.node
      | some session => (cluster.setNode endpoint
          ((cluster.node endpoint).removeAllConnections socket
            session.userId)).node := by
  simp only [userDelete, Async.run_bind, run_nodeBlock, setNode_self,
    ActiveSessions.getSessionUserId]
  cases hsession : (cluster.node endpoint).getSession socket with
  | none => rfl
  | some session =>
      have hremove : ((removeAllUserSessions deployment endpoint socket).run
          cluster).2.node = (cluster.setNode endpoint
            ((cluster.node endpoint).removeAllConnections socket
              session.userId)).node := by
        simp only [removeAllUserSessions, Async.run_bind, run_nodeBlock,
          hsession]
        split
        · rfl
        · exact (staysWith_forgetUser deployment endpoint _
            session.userId).run_node _
      simp only [Option.map_some, Async.run_bind, run_awaitAnswer]
      cases directory.findById session.userId with
      | none => exact hremove
      | some user => exact hremove

end SessionService

open SessionService in
/-- One request, seen from the tables of any node. -/
theorem Cluster.serve_node (deployment : Deployment) (cluster : Cluster)
    (arrival : Arrival) :
    ∃ after, TableUpdate deployment arrival
        (cluster.node arrival.endpoint) after ∧
      (cluster.serve deployment arrival).node =
        (cluster.setNode arrival.endpoint after).node := by
  have hidle : cluster.node = (cluster.setNode arrival.endpoint
      (cluster.node arrival.endpoint)).node :=
    (congrArg Cluster.node (setNode_self arrival.endpoint cluster)).symm
  obtain ⟨endpoint, socket, request⟩ := arrival
  simp only [Cluster.serve, Arrival.program]
  cases request with
  | login directory userInfo =>
      simp only [run_discard, run_userAuth]
      cases hok : directory.authenticate userInfo with
      | error cause =>
          exact ⟨_, .nothing (by simp [Arrival.establishes, hok]), hidle⟩
      | ok userId =>
          exact ⟨_, .attach userId userInfo.deviceId
            (by simp [Arrival.establishes, hok]),
            run_connectDevice_node deployment endpoint socket userId
              userInfo.deviceId cluster⟩
  | connect directory token deviceId =>
      simp only [run_discard, run_userConnectSocket]
      cases hok : directory.authenticateToken token deviceId with
      | error cause =>
          exact ⟨_, .nothing (by simp [Arrival.establishes, hok]), hidle⟩
      | ok userId =>
          exact ⟨_, .attach userId deviceId
            (by simp [Arrival.establishes, hok]),
            run_connectDevice_node deployment endpoint socket userId
              deviceId cluster⟩
  | logout =>
      rw [run_discard, run_userLogout_node]
      cases hsession : (cluster.node endpoint).getSession socket with
      | none => exact ⟨_, .nothing rfl, hidle⟩
      | some session => exact ⟨_, .remove session rfl hsession, rfl⟩
  | close =>
      rw [run_onClose_node]
      cases hsession : (cluster.node endpoint).getSession socket with
      | none => exact ⟨_, .nothing rfl, hidle⟩
      | some session => exact ⟨_, .remove session rfl hsession, rfl⟩
  | delete directory =>
      rw [run_discard, run_userDelete_node]
      cases hsession : (cluster.node endpoint).getSession socket with
      | none => exact ⟨_, .nothing rfl, hidle⟩
      | some session => exact ⟨_, .dropUser session rfl hsession, rfl⟩

namespace Cluster

/-- No connection list of any node names a socket or a device twice. -/
def Distinct (cluster : Cluster) : Prop :=
  ∀ endpoint, (cluster.node endpoint).Distinct

theorem distinct_of_node {cluster reached : Cluster}
    (hdistinct : cluster.Distinct) {endpoint : Endpoint}
    {after : ActiveSessions} (hafter : after.Distinct)
    (hnode : reached.node = (cluster.setNode endpoint after).node) :
    reached.Distinct := by
  intro other
  rw [hnode, node_setNode]
  split
  · exact hafter
  · exact hdistinct other

theorem distinct_serve {deployment : Deployment} {cluster : Cluster}
    (hdistinct : cluster.Distinct) (arrival : Arrival) :
    (cluster.serve deployment arrival).Distinct := by
  obtain ⟨after, hupdate, hnode⟩ := cluster.serve_node deployment arrival
  exact distinct_of_node hdistinct (hupdate.distinct (hdistinct _)) hnode

theorem distinct_serveAll (deployment : Deployment)
    (arrivals : List Arrival) : (serveAll deployment arrivals).Distinct :=
  List.foldlRecOn arrivals (serve deployment)
    (fun _ => ActiveSessions.distinct_empty)
    (fun _ hdistinct arrival _ => distinct_serve hdistinct arrival)

end Cluster

end SamaServer
