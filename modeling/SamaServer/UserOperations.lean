/-
The operations that reach the session service: login and connect, logout and
user delete, the close of a socket, the watchdog that pings the sockets of a
node, and the HTTP requests made on behalf of a user.
-/
import SamaServer.SessionService

namespace SamaServer

/-- The causes with which an operation can fail.  A `TypeError` of the
language has no cause of its own. -/
inductive OperationError
  | tokenExpired
  | incorrectLoginOrPassword
  | organizationBlocked
  | forbidden
  | typeError
deriving DecidableEq

/-- The answers of the repositories to one request.  Users are named by their
`native_id`. -/
structure Directory where
  findToken : String → DeviceId → Option UserId
  findById : UserId → Option UserId
  findByLogin : Option OrganizationId → String → Option UserId
  validatePassword : UserId → String → Bool
  isUserFromBlocked : UserId → Bool

structure UserInfo where
  organizationId : Option OrganizationId
  deviceId : DeviceId
  token : Option String
  userId : Option UserId
  login : String
  password : String

/-- A login names the user by id or by login. -/
def Directory.findUser (directory : Directory) (userInfo : UserInfo) :
    Option UserId :=
  match userInfo.userId with
  | some userId => directory.findById userId
  | none => directory.findByLogin userInfo.organizationId userInfo.login

namespace SessionService

variable (deployment : Deployment) (endpoint : Endpoint) (socket : Socket)

/-- The lines that login and connect share.  The last of them clears the
device that the same socket was connected with before. -/
def connectDevice (userId : UserId) (deviceId : DeviceId) :
    Service Unit := do
  let organizationId := deployment.organizationOf userId
  let replaced ← nodeBlock (.connected endpoint socket userId deviceId)
    endpoint (fun active =>
      let (replaced, active) := active.addUserDeviceConnection socket
        organizationId userId deviceId
      (replaced, active.setSessionNode socket endpoint))
  storeUserNodeData deployment endpoint organizationId userId deviceId
  match replaced.sameSocketConnection with
  | none => pure ()
  | some connection => do
      let _ ← removeAllUserDeviceData deployment endpoint organizationId
        userId connection.deviceId
      pure ()

def authByToken (directory : Directory) (token : String)
    (deviceId : DeviceId) : Service (Except OperationError UserId) := do
  let record ← awaitAnswer (directory.findToken token deviceId)
  match record with
  | none => pure (.error .tokenExpired)
  | some userId => do
      let user ← awaitAnswer (directory.findById userId)
      pure (user.elim (.error .typeError) .ok)

def authByUserInfo (directory : Directory) (userInfo : UserInfo) :
    Service (Except OperationError UserId) := do
  let user ← awaitAnswer (directory.findUser userInfo)
  match user with
  | none => pure (.error .incorrectLoginOrPassword)
  | some userId => do
      let isValid ← awaitAnswer
        (directory.validatePassword userId userInfo.password)
      if isValid then do
        awaitAnswer ()
        pure (.ok userId)
      else
        pure (.error .incorrectLoginOrPassword)

def authUser (directory : Directory) (userInfo : UserInfo) :
    Service (Except OperationError UserId) :=
  match userInfo.token with
  | some token => authByToken directory token userInfo.deviceId
  | none => authByUserInfo directory userInfo

/-- `UserAuthOperation`.  The steps after the connection store the token and
read the avatar. -/
def userAuth (directory : Directory) (userInfo : UserInfo)
    (omitDeviceConnection : Bool) :
    Service (Except OperationError UserId) := do
  let user ← authUser directory userInfo
  match user with
  | .error cause => pure (.error cause)
  | .ok userId => do
      let isBlocked ← awaitAnswer (directory.isUserFromBlocked userId)
      if isBlocked then
        pure (.error .organizationBlocked)
      else if omitDeviceConnection then do
        awaitAnswer ()
        awaitAnswer ()
        pure (.ok userId)
      else do
        connectDevice deployment endpoint socket userId userInfo.deviceId
        awaitAnswer ()
        awaitAnswer ()
        pure (.ok userId)

/-- `UserConnectSocketOperation`. -/
def userConnectSocket (directory : Directory) (token : String)
    (deviceId : DeviceId) : Service (Except OperationError UserId) := do
  let user ← authByToken directory token deviceId
  match user with
  | .error cause => pure (.error cause)
  | .ok userId => do
      connectDevice deployment endpoint socket userId deviceId
      pure (.ok userId)

/-- `UserLogoutOperation`. -/
def userLogout : Service (Except OperationError (UserId × Bool)) := do
  let caller ← nodeBlock .lookup endpoint (fun active =>
    ((active.getSession socket).map (fun session =>
      (session.userId, active.getDeviceId socket session.userId)), active))
  match caller with
  | none => pure (.error .typeError)
  | some (userId, deviceId) => do
      awaitAnswer ()
      let isWasLastUserSession ← removeUserSession deployment endpoint socket
        userId deviceId
      awaitAnswer ()
      pure (.ok (userId, isWasLastUserSession))

/-- `UserDeleteOperation`.  The sessions are removed before the user is looked
up. -/
def userDelete (directory : Directory) :
    Service (Except OperationError UserId) := do
  let caller ← nodeBlock .lookup endpoint (fun active =>
    (active.getSessionUserId socket, active))
  match caller with
  | none => pure (.error .forbidden)
  | some userId => do
      awaitAnswer ()
      removeAllUserSessions deployment endpoint socket
      let user ← awaitAnswer (directory.findById userId)
      match user with
      | none => pure (.error .forbidden)
      | some _ => do
          awaitAnswer ()
          awaitAnswer ()
          awaitAnswer ()
          pure (.ok userId)

/-- `onClose`.  The close of the last connection goes on to tell the
subscribers of the user. -/
def onClose : Service Unit := do
  let closing ← nodeBlock (.closed endpoint socket) endpoint
    (fun active => active.closeConnection socket)
  match closing with
  | none => pure ()
  | some (session, removed) => do
      let isWasLastUserSession ← finishRemoval deployment endpoint
        session.userId removed
      if isWasLastUserSession then awaitAnswer () else pure ()

def awaitAnswers : Nat → Service Unit
  | 0 => pure ()
  | count + 1 => do
      awaitAnswer ()
      awaitAnswers count

/-- `unbindSession`, at the end of every HTTP request. -/
def unbindSession : Service Unit := do
  let unbinding ← nodeBlock (.unbound endpoint socket) endpoint
    (fun active => active.unbindConnection socket)
  match unbinding with
  | none => pure ()
  | some (userId, removed) => do
      let _ ← finishRemoval deployment endpoint userId removed
      pure ()

/-- An HTTP request made on behalf of a user.  The response object is bound to
the shared HTTP device id once the body is read, and unbound when the handler
has answered. -/
def httpRequest (organizationId : OrganizationId) (userId : UserId)
    (readAwaits handlerAwaits : Nat) : Service Unit := do
  awaitAnswers readAwaits
  nodeBlock (.connected endpoint socket userId httpDeviceId) endpoint
    (fun active => ((), (active.addUserDeviceConnection socket organizationId
      userId httpDeviceId).2))
  awaitAnswers handlerAwaits
  unbindSession deployment endpoint socket

end SessionService

/-- How the sockets of a node answer a ping: writing to a TCP socket is waited
for, and a ping fails when the connection is gone. -/
structure Pings where
  isTCP : Socket → Bool
  fails : UserId → Socket → Bool

namespace SessionService

variable (deployment : Deployment) (endpoint : Endpoint) (pings : Pings)

/-- The inner loop of `watchdogPingSocket`.  After a failed ping the close
callback runs to its end before the connection is removed by its device. -/
def pingConnections (userId : UserId) : List Connection → Service Unit
  | [] => pure ()
  | connection :: connections =>
      if connection.deviceId = httpDeviceId then
        pingConnections userId connections
      else do
        awaitAnswers (pings.isTCP connection.socket).toNat
        if pings.fails userId connection.socket then do
          onClose deployment endpoint connection.socket
          let _ ← removeUserSession deployment endpoint connection.socket
            userId (some connection.deviceId)
          pingConnections userId connections
        else
          pingConnections userId connections

def pingUsers : List UserId → Service Unit
  | [] => pure ()
  | userId :: userIds => do
      let connections ← nodeBlock .lookup endpoint (fun active =>
        (active.getUserDevices userId, active))
      pingConnections deployment endpoint pings userId connections
      pingUsers userIds

def watchdogPingSocket : Service Unit := do
  let users ← nodeBlock .lookup endpoint (fun active =>
    (propertyOrder Identifier.value active.devices.keys, active))
  pingUsers deployment endpoint pings users

end SessionService

end SamaServer
