/-
The two controllers of the message operations.  One answers the packets of a
socket that has logged in, the other the requests that an administrator makes
over HTTP on behalf of a user.  Both run the same operations; the session of a
socket holds ids as the database returned them, the session of a request holds
the texts of its body.
-/
import SamaServer.MessageOperations

namespace SamaServer

structure ApiSession extends ConversationSession where
  isNative : Bool

/-- The fields of a packet about reactions. -/
structure ReactionsUpdate where
  mid : IdParam
  cid : ObjectId
  type : ConversationType
  sender : ObjectId
  add : Option String
  remove : Option String
deriving DecidableEq

/-- A packet that is delivered.  Times, push notifications and the extra data
of system messages are left out. -/
inductive ResponsePacket
  | message (message : ChatMessage)
  | conversationCreated (conversationId userId : ObjectId)
  | systemMessage (id : Option String) (sender : ObjectId)
      (cid : Option TextId)
  | messageEdit (id : IdParam) (cid : ObjectId) (type : ConversationType)
      (sender : ObjectId) (body : String)
  | messageReactionsUpdate (update : Option ReactionsUpdate)
  | messageRead (ids : List ObjectId) (cid sender : ObjectId)
  | messageDelete (ids : List IdParam) (cid : TextId)
      (type : ConversationType) (sender : ObjectId)
deriving DecidableEq

/-- An object id and its text are the same destination. -/
structure DeliverMessage where
  orgId : Option ObjectId
  packet : ResponsePacket
  notSaveInOfflineStorage : Bool
  userIds : Option (List StoredId)
  cId : Option TextId
deriving DecidableEq

inductive Destination
  | users (userIds : List StoredId)
  | conversation (cId : TextId)
deriving DecidableEq

/-- An empty text counts as missing. -/
def presentCid (cId : Option TextId) : Option TextId :=
  cId.filter (fun cId => cId ≠ .other "")

/-- Where `processDeliverResponse` sends a message. -/
def DeliverMessage.destination (message : DeliverMessage) :
    Option Destination :=
  match message.userIds with
  | some (userId :: userIds) => some (.users (userId :: userIds))
  | _ => (presentCid message.cId).map .conversation

/-! ### Results of the operations -/

structure PacketEvent where
  packet : ResponsePacket
  participantIds : Option (List StoredId)

structure CreateResult where
  organizationId : ObjectId
  deliverMessages : List PacketEvent
  cId : ObjectId
  participantIds : Option (List StoredId)

/-- What an operation with at most one packet returns. -/
structure PacketResult where
  organizationId : ObjectId
  cId : Option TextId
  participantsIds : Option (List StoredId)
  packet : Option ResponsePacket

/-- An update that changes nothing returns `isUpdated` alone. -/
structure ReactionsResult where
  organizationId : Option ObjectId
  cId : Option TextId
  participantsIds : Option (List StoredId)
  messageReactionsUpdate : Option ReactionsUpdate
  isUpdated : Bool

structure ReadResult where
  organizationId : ObjectId
  readMessagesGroups : List (ObjectId × ResponsePacket)

structure SystemParams where
  id : Option String
  cid : Option TextId
  uids : Option (List IdParam)

namespace MessageResults

open Fallible MessageOperations

variable (config : ChatConfig) (session : ApiSession)

/-- The members of a private conversation, who are named as the destination of
its packets. -/
def participantsIds (conversation : ConversationModel) :
    Option (List StoredId) :=
  if conversation.params.type = .u then
    some (privateParticipantsIds conversation)
  else none

def createMessage (conversation : ConversationModel) (user : User)
    (body : Option String) (deletedFor : List IdParam) :
    ChatProgram PacketEvent := do
  let mid ← query (fun chat => .ok chat.nextMessageId)
  write (fun chat => chat.createMessage conversation.id user.id
    user.organizationId body (deletedFor.filterMap IdParam.queryId?))
  pure ⟨.message ⟨⟨mid, conversation.id, user.id⟩, user.organizationId, body,
    deletedFor.filterMap IdParam.queryId?⟩, none⟩

def restoreMembers (conversation : ConversationModel) :
    ChatProgram (List PacketEvent) :=
  if conversation.params.type = .u then do
    let missedParticipantIds ← onConversations
      (ConversationService.restorePrivateConversation config.conversations
        conversation)
    if missedParticipantIds ≠ [] ∧ config.conversations.isEventsEnabled then
      pure [⟨.conversationCreated conversation.id session.userId,
        some missedParticipantIds⟩]
    else pure []
  else pure []

def createBotMessage (conversation : ConversationModel)
    (botMessage : Option (User × Option String))
    (deletedFor : List IdParam) : ChatProgram (List PacketEvent) :=
  match botMessage with
  | none => pure []
  | some (serverBot, body) => do
      let created ← createMessage conversation serverBot body deletedFor
      pure [created]

/-- `MessageCreateOperation` -/
def create (params : MessageParams) : ChatProgram CreateResult := do
  let currentUser ← query (fun chat =>
    .ok (chat.conversations.findUserById session.userId))
  let access ← hasAccessToCreate config session.toConversationSession
    params.cid
  let conversation := access.conversation
  checkBlocked session.toConversationSession conversation
  validateRepliedMessageId session.toConversationSession conversation.id
    params.repliedMessageId
  let user ← requireUser currentUser
  let response ← executeConversationHandler config conversation params
  let created ← createMessage conversation user
    (response.newBody.getD params.body) params.deletedFor
  let restored ← restoreMembers config session conversation
  let answered ← createBotMessage conversation response.botMessage
    params.deletedFor
  pure ⟨session.organizationId, restored ++ [created] ++ answered,
    conversation.id, participantsIds conversation⟩

/-- The users of the organization among ids.  The organization is not cast to
an object id here, so that its text finds nobody. -/
def retrieveExistedIds (uids : Option (List IdParam)) :
    ChatProgram (List ObjectId) :=
  match uids with
  | none => throw .typeError
  | some uids => query (fun chat =>
      (chat.conversations.retrieveExistedIds session.organizationId uids).map
        (fun found => if session.isNative then found else []))

/-- `MessageSendSystemOperation` -/
def sendSystem (params : SystemParams) : ChatProgram PacketResult := do
  let recipientsIds ←
    match presentCid params.cid with
    | none => do
        let existed ← retrieveExistedIds session params.uids
        pure (some (existed.map StoredId.id))
    | some cid => do
        let access ← hasAccessToList config session.toConversationSession cid
        pure (participantsIds access.conversation)
  pure ⟨session.organizationId, params.cid, recipientsIds,
    some (.systemMessage params.id session.userId (presentCid params.cid))⟩

/-- `MessageEditOperation` -/
def edit (messageId : IdParam) (newBody : String) :
    ChatProgram PacketResult := do
  let message ← hasAccessToEdit config session.toConversationSession messageId
  command () (fun chat => chat.updateBody config.conversations.server
    config.pickMessage messageId newBody)
  let conversation ← conversationOf message
  pure ⟨session.organizationId, some (.hex conversation.id true),
    participantsIds conversation, some (.messageEdit messageId message.cid
      conversation.params.type session.userId newBody)⟩

/-- The update of reactions, with what was added and what was removed. -/
def applyReactions (mid : ObjectId) (add remove : Option String) :
    ChatProgram (Bool × Bool) :=
  command () (fun chat =>
    let (isAdded, added) := chat.addReaction mid session.userId add
    let (isRemoved, removed) := added.removeReaction mid session.userId remove
    (.ok (isAdded, isRemoved), removed))

/-- `MessageReactionsUpdateOperation`; the rules of channels turn `isUpdated`
off. -/
def reactionsUpdate (messageId : IdParam) (add remove : Option String) :
    ChatProgram ReactionsResult := do
  let message ← hasAccessToReactions config session.toConversationSession
    messageId
  let (isAdded, isRemoved) ← applyReactions session message.id add remove
  if isAdded || isRemoved then do
    let conversation ← conversationOf message
    pure ⟨some session.organizationId, some (.hex conversation.id true),
      participantsIds conversation,
      some ⟨messageId, message.cid, conversation.params.type, session.userId,
        if isAdded then add else none, if isRemoved then remove else none⟩,
      ¬(¬config.disableChannelsLogic ∧ conversation.params.type = .c)⟩
  else pure ⟨none, none, none, none, false⟩

/-- `MessageReadOperation` -/
def read (cid : TextId) (ids : Option (List IdParam)) :
    ChatProgram ReadResult := do
  let access ← hasAccessToRead config session.toConversationSession cid
  let mids ← queryIds ids
  let unreadMessages ← command () (fun chat =>
    let (unread, after) := chat.readMessagesInConversation
      access.conversation.id session.userId mids
    (.ok unread, after))
  pure ⟨session.organizationId, (groupByFrom unreadMessages).map
    (fun (sender, messages) => (sender, .messageRead
      (messages.map Message.id) access.conversation.id session.userId))⟩

/-- `MessageDeleteOperation` -/
def delete (cid : TextId) (ids : List IdParam) (isDeleteAll : Bool) :
    ChatProgram PacketResult := do
  let access ← hasAccessToList config session.toConversationSession cid
  let conversation := access.conversation
  let canModerate := conversation.params.type ≠ .u ∧
    (access.asOwner ∨ access.asAdmin)
  let messages ← query (fun chat => chat.findAllByIds ids)
  validateMessagesForDelete session.toConversationSession conversation
    (isDeleteAll ∧ ¬ canModerate) messages
  let messageIds := messages.map (fun message => message.id)
  write (fun chat =>
    if messageIds = [] then chat
    else if isDeleteAll then
      deleteMessagesForEveryone session.toConversationSession messageIds
        conversation.id
        (if canModerate then none else some session.userId) chat
    else hideMessagesForUser session.toConversationSession messageIds
      conversation.id chat)
  pure ⟨session.organizationId, some (.hex conversation.id true),
    participantsIds conversation,
    if isDeleteAll then some (.messageDelete ids cid conversation.params.type
      session.userId) else none⟩

end MessageResults

/-! ### Deliver messages of a result -/

/-- One message for each packet of a created message. -/
def CreateResult.messages (result : CreateResult) : List DeliverMessage :=
  result.deliverMessages.map (fun event =>
    ⟨some result.organizationId, event.packet, false,
      event.participantIds.or result.participantIds,
      some (.hex result.cId true)⟩)

/-- A message that is not kept for users who are offline, if there is a
packet. -/
def PacketResult.messages (result : PacketResult) : List DeliverMessage :=
  result.packet.toList.map (fun packet =>
    ⟨some result.organizationId, packet, true, result.participantsIds,
      result.cId⟩)

def ReactionsResult.message (result : ReactionsResult) : DeliverMessage :=
  ⟨result.organizationId,
    .messageReactionsUpdate result.messageReactionsUpdate, true,
    result.participantsIds, result.cId⟩

/-- One message for the author of each group. -/
def ReadResult.messages (result : ReadResult) : List DeliverMessage :=
  result.readMessagesGroups.map (fun (userId, packet) =>
    ⟨some result.organizationId, packet, false, some [.id userId], none⟩)

/-! ### Controllers -/

namespace MessagesController

variable (config : ChatConfig) (session : ApiSession)

def create (params : MessageParams) : ChatProgram (List DeliverMessage) := do
  let result ← MessageResults.create config session params
  pure result.messages

def sendSystem (params : SystemParams) :
    ChatProgram (List DeliverMessage) := do
  let result ← MessageResults.sendSystem config session params
  pure result.messages

def edit (messageId : IdParam) (newBody : String) :
    ChatProgram (List DeliverMessage) := do
  let result ← MessageResults.edit config session messageId newBody
  pure result.messages

def reactionsUpdate (messageId : IdParam) (add remove : Option String) :
    ChatProgram (List DeliverMessage) := do
  let result ← MessageResults.reactionsUpdate config session messageId add
    remove
  pure (if result.isUpdated then [result.message] else [])

def read (cid : TextId) (ids : Option (List IdParam)) :
    ChatProgram (List DeliverMessage) := do
  let result ← MessageResults.read config session cid ids
  pure result.messages

def delete (cid : TextId) (ids : List IdParam) (isDeleteAll : Bool) :
    ChatProgram (List DeliverMessage) := do
  let result ← MessageResults.delete config session cid ids isDeleteAll
  pure result.messages

end MessagesController

/-- The sender and the organization of a request, as texts.  The response
object is bound to them before the operation looks its session up. -/
structure HttpPayload where
  senderId : ObjectId
  organizationId : ObjectId

def HttpPayload.session (payload : HttpPayload) : ApiSession :=
  ⟨⟨payload.senderId, payload.organizationId⟩, false⟩

namespace HttpMessageController

variable (config : ChatConfig) (payload : HttpPayload)

def message (params : MessageParams) : ChatProgram (List DeliverMessage) := do
  let result ← MessageResults.create config payload.session params
  pure result.messages

def systemMessage (params : SystemParams) :
    ChatProgram (List DeliverMessage) := do
  let result ← MessageResults.sendSystem config payload.session params
  pure result.messages

def read (cid : TextId) (ids : Option (List IdParam)) :
    ChatProgram (List DeliverMessage) := do
  let result ← MessageResults.read config payload.session cid ids
  pure result.messages

def edit (messageId : IdParam) (newBody : String) :
    ChatProgram (List DeliverMessage) := do
  let result ← MessageResults.edit config payload.session messageId newBody
  pure result.messages

/-- The field `isUpdated` of the result is not read here. -/
def reaction (messageId : IdParam) (add remove : Option String) :
    ChatProgram (List DeliverMessage) := do
  let result ← MessageResults.reactionsUpdate config payload.session messageId
    add remove
  pure [result.message]

def delete (cid : TextId) (ids : List IdParam) (isDeleteAll : Bool) :
    ChatProgram (List DeliverMessage) := do
  let result ← MessageResults.delete config payload.session cid ids
    isDeleteAll
  pure result.messages

end HttpMessageController

/-- A request that both controllers take. -/
inductive SharedRequest
  | message (params : MessageParams)
  | messageEdit (id : IdParam) (body : String)
  | reactionsUpdate (mid : IdParam) (add remove : Option String)
  | messageDelete (cid : TextId) (ids : List IdParam) (isDeleteAll : Bool)
  | messageRead (cid : TextId) (ids : Option (List IdParam))
  | systemMessage (params : SystemParams)

def MessagesController.handle (config : ChatConfig) (session : ApiSession) :
    SharedRequest → ChatProgram (List DeliverMessage)
  | .message params => create config session params
  | .messageEdit id body => edit config session id body
  | .reactionsUpdate mid add remove =>
      reactionsUpdate config session mid add remove
  | .messageDelete cid ids isDeleteAll =>
      delete config session cid ids isDeleteAll
  | .messageRead cid ids => read config session cid ids
  | .systemMessage params => sendSystem config session params

def HttpMessageController.handle (config : ChatConfig)
    (payload : HttpPayload) :
    SharedRequest → ChatProgram (List DeliverMessage)
  | .message params => message config payload params
  | .messageEdit id body => edit config payload id body
  | .reactionsUpdate mid add remove => reaction config payload mid add remove
  | .messageDelete cid ids isDeleteAll =>
      delete config payload cid ids isDeleteAll
  | .messageRead cid ids => read config payload cid ids
  | .systemMessage params => systemMessage config payload params

end SamaServer
