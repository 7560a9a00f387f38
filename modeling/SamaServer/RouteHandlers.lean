/-
What a route runs: the guard, the counter of messages, the schema, and the
handler.  The handlers that read the session before anything else are given by
what follows that line; the others are written out.
-/
import SamaServer.AuthGuard
import SamaServer.JsonRoutes

namespace SamaServer

/-- A stored document: its `_id`, which no document lacks, and the rest of its
fields. -/
structure Document where
  id : String
  fields : OrderedMap String Json

namespace Json

/-- Equality of scalars, as queries and `===` compare them. -/
def isSameScalar : Json → Json → Bool
  | .null, .null => true
  | .bool left, .bool right => left = right
  | .number left, .number right => left = right
  | .string left, .string right => left = right
  | _, _ => false

/-- The properties that `...json` copies.  A text is copied character by
character. -/
def spread : Json → List (String × Json)
  | .object members => members
  | .array items =>
      items.zipIdx.map (fun entry => (toString entry.2, entry.1))
  | .string value => value.toList.zipIdx.map (fun entry =>
      (toString entry.2, .string (String.singleton entry.1)))
  | _ => []

/-- An id as it stands in a query or a document. -/
def ofId : Option Identifier → Json
  | none => .null
  | some identifier => .string identifier.value

end Json

namespace Document

/-- A field of a query.  `null` also matches a document without the field. -/
def hasField (document : Document) (name : String) (value : Json) : Bool :=
  ((document.fields.get? name).getD .null).isSameScalar value

def setFields (document : Document) (fields : List (String × Json)) :
    Document :=
  { document with
    fields := fields.foldl (fun known field => known.set field.1 field.2)
      document.fields }

/-- The listed fields of the document; an undefined one is not sent. -/
def slice (document : Document) (names : List String) : Json :=
  .object (names.filterMap (fun name =>
    (document.fields.get? name).map (fun value => (name, value))))

/-- `message.deleted_for || []`. -/
def deletedFor (document : Document) : List Json :=
  match document.fields.get? "deleted_for" with
  | some (.array deletedIds) => deletedIds
  | _ => []

end Document

/-- The stored data.  The collections the handlers below use are listed; the
other ones, and Redis, are the rest. -/
structure Stored (Rest : Type) where
  users : List Document
  messages : List Document
  encryptedDevices : List Document
  contacts : List Document
  rest : Rest

/-- A node: its session tables, its counter of messages, and the stored data
it works on. -/
structure Server (Rest : Type) where
  active : ActiveSessions
  messagesCount : Nat
  stored : Stored Rest

/-- A computation of a handler.  What it has changed before it throws stays
changed. -/
abbrev Handling (Rest : Type) := ExceptT RequestError (StateM (Server Rest))

/-- The schemas of the routes.  None of them admits `null`. -/
structure Schemas where
  validate : Route → Option Json → Option RequestError
  rejectsNull : ∀ route, (validate route (some .null)).isSome

/-- What the handlers get from outside: the schemas, the language model, the
id and the date of a document they insert, the aggregation of reactions, the
comparison of a stored id with the id of a user, what an operation goes on
with once it knows its user, and the routes without a guard. -/
structure Environment (Rest : Type) where
  schemas : Schemas
  generateText : Option Json → Option Json → Option Json
  insertedId : String
  currentDate : Json
  aggregateMessageReactions : Stored Rest → Document → Json
  isIdentical : Json → Option UserId → Bool
  proceed : Route → UserId → Json → Handling Rest Json
  publicHandler : Route → Socket → Json → Handling Rest Json

namespace Handling

variable {Rest : Type}

def getSession (socket : Socket) : Handling Rest (Option Session) := do
  return (← get).active.getSession socket

def getSessionUserId (socket : Socket) : Handling Rest (Option UserId) := do
  return (← get).active.getSessionUserId socket

/-- A missing user id is looked up under the property name `null`. -/
def getDeviceId (socket : Socket) (userId : Option UserId) :
    Handling Rest (Option DeviceId) := do
  return (← get).active.getDeviceId socket (userId.getD nullText)

/-- Destructuring what is not there is a `TypeError`. -/
def destructure {A : Type} : Option A → Handling Rest A
  | none => throw .typeError
  | some value => pure value

/-- Destructuring an argument, which may also be `null`. -/
def destructureParams : Option Json → Handling Rest Json
  | none => throw .typeError
  | some .null => throw .typeError
  | some params => pure params

def modifyStored (change : Stored Rest → Stored Rest) :
    Handling Rest Unit :=
  modify (fun server => { server with stored := change server.stored })

/-- Either id may be missing, and then `toString` is a `TypeError`. -/
def isEqualsNativeIds (nativeIdA : Option Json) (nativeIdB : Option UserId) :
    Handling Rest Bool := do
  let idA ← destructureParams nativeIdA
  let idB ← destructure nativeIdB
  return idA.isSameScalar (.string idB.value)

end Handling

open Handling

section Operations

variable {Rest : Type} (environment : Environment Rest) (socket : Socket)

/-- `EncryptionRegisterOperation`. -/
def encryptionRegister (registerDeviceParams : Option Json) :
    Handling Rest Unit := do
  let userId ← getSessionUserId socket
  let deviceId ← getDeviceId socket userId
  let params := (registerDeviceParams.map Json.spread).getD []
  let devices := (← get).stored.encryptedDevices
  let existingDevice := devices.find? (fun device =>
    device.hasField "device_id" (.ofId deviceId))
  match existingDevice with
  | some existingDevice =>
      modifyStored (fun stored =>
        { stored with
          encryptedDevices := stored.encryptedDevices.map (fun device =>
            if device.id = existingDevice.id then
              device.setFields (("user_id", .ofId userId) :: params)
            else device) })
  | none =>
      let device : Document := ⟨environment.insertedId, .empty⟩
      modifyStored (fun stored =>
        { stored with
          encryptedDevices := stored.encryptedDevices ++
            [device.setFields ([("user_id", .ofId userId),
              ("device_id", .ofId deviceId)] ++ params ++
              [("created_at", environment.currentDate),
                ("updated_at", environment.currentDate)])] })

/-- `EncryptionListOperation`.  A query answers at most 100 documents. -/
def encryptionList : Handling Rest Json := do
  let userId ← getSessionUserId socket
  let deviceList := ((← get).stored.encryptedDevices.filter (fun device =>
    device.hasField "user_id" (.ofId userId))).take 100
  return .array (deviceList.map (fun device =>
    device.slice ["identity_key", "signed_key", "device_id"]))

/-- `EncryptionDeleteOperation`. -/
def encryptionDelete (deleteParams : Option Json) : Handling Rest Unit := do
  let deleteParams ← destructureParams deleteParams
  let deviceId := (deleteParams.property? "device_id").getD .null
  let found := (← get).stored.encryptedDevices.find? (fun device =>
    device.hasField "device_id" deviceId)
  let userId ← getSessionUserId socket
  match found with
  | none => throw .forbidden
  | some device =>
      if ← isEqualsNativeIds (device.fields.get? "user_id") userId then
        modifyStored (fun stored =>
          { stored with
            encryptedDevices := stored.encryptedDevices.filter
              (fun other => other.id ≠ device.id) })
      else throw .forbidden

/-- `ContactDeleteOperation`. -/
def contactDelete (contactDeleteOptions : Option Json) :
    Handling Rest Unit := do
  let options ← destructureParams contactDeleteOptions
  let contactId := (options.property? "id").getD .null
  let userId ← getSessionUserId socket
  modifyStored (fun stored =>
    { stored with
      contacts := stored.contacts.filter (fun contact =>
        !((Json.string contact.id).isSameScalar contactId &&
          contact.hasField "user_id" (.ofId userId))) })

/-- `MessageToneOperation`.  It has no use for the session. -/
def messageTone (messageToneOptions : Option Json) : Handling Rest Json := do
  let options ← destructureParams messageToneOptions
  match environment.generateText (options.property? "body")
      (options.property? "tone") with
  | none => throw .aiAgentError
  | some text => return text

/-- `hasAccessToMessage` and the test that follows it. -/
def hasAccess (messageId : Json) (currentUserId : Option UserId) :
    Handling Rest Document := do
  let found := (← get).stored.messages.find? (fun message =>
    (Json.string message.id).isSameScalar messageId)
  match found with
  | none => throw .messageIdNotFound
  | some message =>
      if message.deletedFor.any (environment.isIdentical · currentUserId) then
        throw .messageIdNotFound
      else
        let _ ← isEqualsNativeIds (message.fields.get? "from") currentUserId
        return message

/-- `MessageReactionsListOperation`. -/
def messageReactionsList (messageReactionListParams : Option Json) :
    Handling Rest Json := do
  let params ← destructureParams messageReactionListParams
  let currentUserId ← getSessionUserId socket
  let message ← hasAccess environment
    ((params.property? "mid").getD .null) currentUserId
  return environment.aggregateMessageReactions (← get).stored message

/-- `userRepo.findById`. -/
def findUserById (userId : Option UserId) :
    Handling Rest (Option Document) := do
  return (← get).stored.users.find? (fun user =>
    (Json.string user.id).isSameScalar (.ofId userId))

/-- The lookup with which some operations start: the user of the session, who
must be in the database. -/
def findCurrentUser (missing : RequestError) : Handling Rest UserId := do
  let userId ← getSessionUserId socket
  match userId, ← findUserById userId with
  | some userId, some _ => return userId
  | _, _ => throw missing

/-- The message a handler sends back, under the id of its request. -/
def backMessage (reqData : Json) (members : List (String × Json)) : Json :=
  .object [("response", .object
    ((reqData.property? "id").toList.map (fun id => ("id", id)) ++ members))]

def success (reqData : Json) : Json :=
  backMessage reqData [("success", .bool true)]

/-- The controllers with their operations.  Most operations begin by
destructuring the session; those that do not come first. -/
def handler (route : Route) (reqData : Json) : Handling Rest Json :=
  let params := reqData.property? route.name
  match route with
  | .deviceRegister => do
      encryptionRegister environment socket params
      return success reqData
  | .deviceList => do
      let deviceList ← encryptionList socket
      return backMessage reqData [("devices", deviceList)]
  | .deviceDelete => do
      encryptionDelete socket params
      return success reqData
  | .contactDelete => do
      contactDelete socket params
      return success reqData
  | .messageTone => do
      let message ← messageTone environment params
      return backMessage reqData [("message", message)]
  | .messageReactionsList => do
      let reactions ← messageReactionsList environment socket params
      return backMessage reqData [("reactions", reactions)]
  | .messageDecryptionFailed => do
      let _ ← destructureParams params
      let currentUserId ← findCurrentUser socket .typeError
      environment.proceed route currentUserId reqData
  | .userEdit => do
      let userId ← findCurrentUser socket .userLoginOrPass
      environment.proceed route userId reqData
  | .userDelete => do
      match ← getSessionUserId socket with
      | none => throw .forbidden
      | some userId => environment.proceed route userId reqData
  | .ping | .connect | .userCreate | .userLogin | .userSendOtp
  | .userResetPassword => environment.publicHandler route socket reqData
  | route => do
      let session ← destructure (← getSession socket)
      environment.proceed route session.userId reqData

def authGuardMiddleware (json : Json) : Handling Rest Unit := do
  match AuthGuard.handle (← get).active socket json with
  | .ok _ => pure ()
  | .error cause => throw cause

def statsMessagesMiddleWare : Handling Rest Unit :=
  modify (fun server =>
    { server with messagesCount := server.messagesCount + 1 })

def validate (route : Route) (reqData : Json) : Handling Rest Unit :=
  match environment.schemas.validate route
      (reqData.property? route.name) with
  | none => pure ()
  | some cause => throw cause

/-- What stands between the guard and the schema. -/
def countMessage (route : Route) : Handling Rest Unit :=
  if route.countsMessages then statsMessagesMiddleWare else pure ()

/-- `user_edit` is guarded once more behind its schema. -/
def guardAgain (route : Route) (reqData : Json) : Handling Rest Unit :=
  if route = .userEdit then authGuardMiddleware socket reqData else pure ()

/-- One entry of the table `routes`. -/
def runRoute (route : Route) (reqData : Json) : Handling Rest Json :=
  if route.isPublic then
    environment.publicHandler route socket reqData
  else do
    authGuardMiddleware socket reqData
    countMessage route
    validate environment route reqData
    guardAgain socket route reqData
    handler environment socket route reqData

def processMessage (json : Json) : Handling Rest Json :=
  match dispatch json with
  | none => throw .typeError
  | some (route, reqData) => runRoute environment socket route reqData

end Operations

/-- `left ?? right`. -/
def nullish (left right : Option Json) : Option Json :=
  match left with
  | none => right
  | some .null => right
  | some value => some value

namespace Json

/-- `json?.name?.id`. -/
def idOf (json : Json) (name : String) : Option Json :=
  (json.property? name).bind (fun value => value.property? "id")

/-- `json?.[element]?.id`, where an array has its items under their
indices. -/
def elementId (json : Json) (element : String) : Option Json :=
  match json with
  | .array (item :: _) =>
      if element = "0" then item.property? "id" else none
  | _ => json.idOf element

def requestTrackId (json : Json) : Option Json :=
  nullish (json.idOf "request") (nullish (json.idOf "message")
    (nullish (json.idOf "system_message") (json.property? "id")))

end Json

/-- The packet that reports an error: under which element, for which request,
and what went wrong. -/
structure ErrorBackMessage where
  element : String
  id : Option Json
  error : RequestError

def errorBackMessage (json : Json) (error : RequestError) :
    ErrorBackMessage :=
  if json.carries "request" then
    ⟨"response", nullish (json.idOf "request") json.requestTrackId, error⟩
  else
    let topLevelElement := json.firstKey?.getD "undefined"
    ⟨topLevelElement,
      nullish (json.elementId topLevelElement) json.requestTrackId, error⟩

inductive Answer
  | back (message : Json)
  | failure (message : ErrorBackMessage)

def processMessageOrError {Rest : Type} (environment : Environment Rest)
    (socket : Socket) (json : Json) (server : Server Rest) :
    Answer × Server Rest :=
  match (processMessage environment socket json).run.run server with
  | (.ok message, server) => (.back message, server)
  | (.error error, server) =>
      (.failure (errorBackMessage json error), server)

end SamaServer
