/-
Messages of encrypted conversations.  A record beside every message holds the
identity keys of the devices that have not been sent it yet.  A list of
messages takes the marks of its device away by one query and reads the
messages by another, with the limit and the dates of the request.
-/
import SamaServer.EncryptedDevices
import SamaServer.MessageAccess

namespace SamaServer

/-- The devices that a message was not delivered to, by identity key: each is
a field of the record with the value `notdelivered`. -/
structure EncryptedMessageStatus where
  mid : ObjectId
  cid : ObjectId
  notDelivered : List String
deriving DecidableEq

/-- A name that a query finds as a mark: other names are paths, operators or
fields of every record. -/
def IsMarkName (name : String) : Prop :=
  IsPlainName name ∧
    name ∉ ["_id", "mid", "cid", "created_at", "updated_at"]

instance (name : String) : Decidable (IsMarkName name) :=
  inferInstanceAs (Decidable (_ ∧ _))

/-- The collections behind the messages of encrypted conversations. -/
structure EncryptedChat where
  chat : ChatStore
  devices : DeviceTable
  marks : List EncryptedMessageStatus

abbrev EncryptedProgram := Fallible Unit EncryptedChat ConversationError

namespace EncryptedChat

/-- The name under which the device of a user is looked for; a device that is
not registered is looked for as `undefined`. -/
def identityKey (server : Documents.Choice EncryptedDevice)
    (s : EncryptedChat) (userId : ObjectId) (deviceId : Option DeviceId) :
    String :=
  ((server.pick (s.devices.devices.filter (fun device =>
    device.userId = userId ∧ some device.deviceId = deviceId))).map
      (fun device => device.params.identityKey)).getD "undefined"

def isMarked (name : String) (cid : ObjectId)
    (status : EncryptedMessageStatus) : Bool :=
  status.cid = cid ∧ name ∈ status.notDelivered

/-- `findAll` of the marked records, with the limit that it has by default.
A name with a leading `$` is refused as an operator. -/
def findMarked (s : EncryptedChat) (name : String) (cid : ObjectId) :
    Except ConversationError (List EncryptedMessageStatus) :=
  if name.toList.head? = some '$' then .error .databaseError
  else if IsMarkName name then
    .ok ((s.marks.filter (isMarked name cid)).take 100)
  else .ok []

/-- `deleteMany` by message ids. -/
def deleteMarks (s : EncryptedChat) (mids : List ObjectId) : EncryptedChat :=
  { s with marks := s.marks.filter (fun status => status.mid ∉ mids) }

/-- `updateMany` by message ids with `$unset` of the identity key. -/
def unsetMarks (s : EncryptedChat) (name : String) (mids : List ObjectId) :
    EncryptedChat :=
  { s with
    marks := s.marks.map (fun status =>
      if status.mid ∈ mids then
        { status with
          notDelivered := status.notDelivered.filter (fun key =>
            key ≠ name) }
      else status) }

end EncryptedChat

/-- The parameters of `message_list`. -/
structure ListParams where
  cid : TextId
  filter : ListFilter
  limit : Option Int

/-- A list of messages, each with its status if it is the caller's own. -/
abbrev MessageList := List (ChatMessage × Option MessageOperations.ShownStatus)

namespace EncryptedOperations

open Fallible MessageOperations

variable (config : ChatConfig) (server : Documents.Choice EncryptedDevice)
  (session : ConversationSession) (deviceId : Option DeviceId)

def query {A : Type} (answer : EncryptedChat → Except ConversationError A) :
    EncryptedProgram A :=
  command () (fun s => (answer s, s))

def write (update : EncryptedChat → EncryptedChat) : EncryptedProgram Unit :=
  command () (fun s => (.ok (), update s))

/-- A program that uses the collections of all conversations only. -/
def onChat {A : Type} (program : ChatProgram A) : EncryptedProgram A :=
  command () (fun s => ((program.exec s.chat).1,
    { s with chat := (program.exec s.chat).2 }))

/-- The marks that are found are deleted with their records where no other
device is marked, and taken out of the records elsewhere. -/
def getMidsByIdentityKey (identityKey : String) (cid : ObjectId) :
    EncryptedProgram (List ObjectId × List ObjectId) := do
  let records ← query (fun s => s.findMarked identityKey cid)
  let midsToDelivery := records.map EncryptedMessageStatus.mid
  let midsToRemove := (records.filter (fun record =>
    record.notDelivered.all (fun key => key = identityKey))).map
      EncryptedMessageStatus.mid
  write (fun s => s.deleteMarks midsToRemove)
  write (fun s => s.unsetMarks identityKey
    (midsToDelivery.filter (fun mid => mid ∉ midsToRemove)))
  pure (midsToDelivery, midsToRemove)

/-- The limit of a query, which a negative number stands for as well. -/
def normalizeLimitParam (limit : Option Int) : Nat :=
  match limit with
  | some limit =>
      if (config.preloadCount : Int) < limit ∨ limit = 0 then
        config.preloadCount
      else limit.natAbs
  | none => config.preloadCount

/-- The number of documents that a limit lets through: a limit of zero is
none. -/
def cursorLimit (limit : Nat) (chat : ChatStore) : Nat :=
  if limit = 0 then chat.messages.length else limit

def isEncrypted (conversation : ConversationModel) : Bool :=
  (conversation.params.isEncrypted.map EncryptedFlag.isTruthy).getD false

/-- The part of a list that an encrypted conversation has for itself. -/
def encryptedPart (params : ListParams) (conversation : ConversationModel)
    (user : User) : EncryptedProgram MessageList := do
  let identityKey ← query (fun s =>
    .ok (s.identityKey server user.id deviceId))
  let mids ← getMidsByIdentityKey identityKey conversation.id
  let limit ← query (fun s =>
    .ok (cursorLimit (normalizeLimitParam config params.limit) s.chat))
  onChat (encryptedList { config with encryptedMids := fun _ _ => .ok mids }
    session conversation params.filter limit)

/-- `message_list`. -/
def list (params : ListParams) : EncryptedProgram MessageList := do
  let currentUser ← query (fun s =>
    .ok (s.chat.conversations.findUserById session.userId))
  let access ← onChat (hasAccessToList config session params.cid)
  let user ← onChat (requireUser currentUser)
  if isEncrypted access.conversation then
    encryptedPart config server session deviceId params access.conversation
      user
  else onChat (do
    let messages ← MessageOperations.query (fun chat =>
      chat.list access.conversation.id user.id params.filter
        (cursorLimit (normalizeLimitParam config params.limit) chat))
    MessageOperations.query (fun chat =>
      .ok (assignMessageVirtualFields session messages chat)))

end EncryptedOperations

end SamaServer
