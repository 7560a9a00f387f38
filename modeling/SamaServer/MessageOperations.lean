/-
The operations on messages: those that are addressed by a conversation and
those that are addressed by a message alone.  Each checks the access of the
caller in its own way, and each decides on its own who gets a packet.
-/
import SamaServer.ChatStore
import SamaServer.ConversationService

namespace SamaServer

namespace ErrorStatus

def conversationNotFound : ErrorStatus := ⟨404, "Conversation not found."⟩

def messageIdNotFound : ErrorStatus := ⟨422, "Message ID not found."⟩

def incorrectReplyMessageId : ErrorStatus :=
  ⟨422, "Incorrect replied message ID."⟩

/-- A script may put its own text here. -/
def messageBlockedByHandler : ErrorStatus :=
  ⟨422, "Message blocked by conversation rules."⟩

def userBlocked : ErrorStatus :=
  ⟨422, "Communication is not possible - you are in a block list of the " ++
    "recipient."⟩

end ErrorStatus

inductive ChatPacket
  | message (mid : ObjectId)
  | conversationCreated
  | read (cid : ObjectId) (messageIds : List ObjectId) (sender : ObjectId)
  | deleted (messageIds : List IdParam)
  | edited (messageId : IdParam) (body : String)
  | reactionsUpdated (mid : IdParam)
  | system
  | typing
deriving DecidableEq

/-- A packet and the users whose devices it is sent to. -/
structure ChatDelivery where
  recipients : List StoredId
  packet : ChatPacket
deriving DecidableEq

structure MessageParams where
  cid : TextId
  body : Option String
  repliedMessageId : Option TextId
  deletedFor : List IdParam

/-- What the script of a conversation makes of a message: a new body, or an
answer of the bot. -/
structure HandlerResponse where
  newBody : Option (Option String)
  botMessage : Option (User × Option String)

/-- `executeHandler`, `summarize` and `encryptedMids` stand for the script of
the conversation, which may throw, the language model and the collection of
encrypted messages. -/
structure ChatConfig where
  conversations : ConversationConfig
  disableChannelsLogic : Bool
  preloadCount : Nat
  pickMessage : Documents.Choice ChatMessage
  executeHandler : ObjectId → MessageParams → Option HandlerResponse
  summarize : List ChatMessage → Except ConversationError String
  encryptedMids : ObjectId → ObjectId →
    Except ConversationError (List ObjectId × List ObjectId)

inductive SummaryFilter
  | period (inPeriod : ChatMessage → Bool)
  | unreads
  | absent

abbrev ChatProgram := Fallible Unit ChatStore ConversationError

namespace MessageOperations

open Fallible ConversationService

def query {A : Type} (answer : ChatStore → Except ConversationError A) :
    ChatProgram A :=
  command () (fun chat => (answer chat, chat))

def write (update : ChatStore → ChatStore) : ChatProgram Unit :=
  command () (fun chat => (.ok (), update chat))

def fail {A : Type} (status : ErrorStatus) : ChatProgram A :=
  throw (.cause status)

/-- A request of the conversation service. -/
def onConversations {A : Type} (program : ConversationProgram A) :
    ChatProgram A :=
  command () (fun chat => ((program.exec chat.conversations).1,
    { chat with conversations := (program.exec chat.conversations).2 }))

variable (config : ChatConfig) (session : ConversationSession)

/-! ### Access -/

/-- The check that operations on a conversation make.  They differ in what
else they refuse. -/
def hasAccess (refuses : ConversationAccess → Bool) (cid : TextId) :
    ChatProgram ConversationAccess := do
  let found ← onConversations (hasAccessToConversation config.conversations
    session cid.param false)
  match found with
  | none => fail .conversationNotFound
  | some access =>
      if refuses access then fail .forbidden
      else if access.asParticipant then pure access
      else fail .forbidden

/-- Lists, deletions and system messages refuse nothing else. -/
def hasAccessToList := hasAccess config session (fun _ => false)

/-- Reading and typing refuse channels. -/
def hasAccessToRead := hasAccess config session (fun access =>
  ¬ config.disableChannelsLogic ∧ access.conversation.params.type = .c)

/-- A summary refuses channels, whatever the configuration says. -/
def hasAccessToSummary := hasAccess config session (fun access =>
  access.conversation.params.type = .c)

/-- A message in a channel asks for the owner or an admin. -/
def hasAccessToCreate := hasAccess config session (fun access =>
  ¬ config.disableChannelsLogic ∧ access.conversation.params.type = .c ∧
    ¬ (access.asOwner ∨ access.asAdmin))

/-- The two members of a private conversation. -/
def privateParticipantsIds (conversation : ConversationModel) :
    List StoredId :=
  conversation.params.ownerId :: conversation.params.opponentId.toList

def checkBlocked (conversation : ConversationModel) : ChatProgram Unit :=
  if conversation.params.type = .u then do
    let blockedUserIds ← query (fun chat =>
      chat.blocks.listMutualBlockedIds session.userId
        (privateParticipantsIds conversation))
    if blockedUserIds = [] then pure () else fail .userBlocked
  else pure ()

/-- The users of a packet for a conversation: the two members of a private
one, or its participants. -/
def recipientsOf (conversation : ConversationModel) (chat : ChatStore) :
    List StoredId :=
  if conversation.params.type = .u then privateParticipantsIds conversation
  else (chat.conversations.rowsOf conversation.id).map Participant.userId

def deliver (conversation : ConversationModel) (packet : ChatPacket) :
    ChatProgram (List ChatDelivery) :=
  query (fun chat => .ok [⟨recipientsOf conversation chat, packet⟩])

/-! ### Operations on a conversation -/

def validateRepliedMessageId (cid : ObjectId) (mid : Option TextId) :
    ChatProgram Unit :=
  match mid with
  | none => pure ()
  | some mid => do
      let message ← query (fun chat =>
        .ok (chat.findMessageById cid session.userId mid))
      if message.isSome then pure () else fail .incorrectReplyMessageId

def requireUser (user : Option User) : ChatProgram User :=
  match user with
  | none => throw .typeError
  | some user => pure user

/-- A message and the packet for it.  A number in `deleted_for` becomes a new
id, which names nobody. -/
def createMessage (conversation : ConversationModel) (user : User)
    (body : Option String) (deletedFor : List IdParam) :
    ChatProgram (List ChatDelivery) := do
  let mid ← query (fun chat => .ok chat.nextMessageId)
  write (fun chat => chat.createMessage conversation.id user.id
    user.organizationId body (deletedFor.filterMap IdParam.queryId?))
  deliver conversation (.message mid)

/-- The members of a private conversation who left it come back. -/
def restoreMembers (conversation : ConversationModel) :
    ChatProgram (List ChatDelivery) :=
  if conversation.params.type = .u then do
    let missedParticipantIds ← onConversations
      (restorePrivateConversation config.conversations conversation)
    if missedParticipantIds ≠ [] ∧ config.conversations.isEventsEnabled then
      pure [⟨missedParticipantIds, .conversationCreated⟩]
    else pure []
  else pure []

def executeConversationHandler (conversation : ConversationModel)
    (params : MessageParams) : ChatProgram HandlerResponse :=
  match config.executeHandler conversation.id params with
  | none => fail .messageBlockedByHandler
  | some response => pure response

def createBotMessage (conversation : ConversationModel)
    (botMessage : Option (User × Option String))
    (deletedFor : List IdParam) : ChatProgram (List ChatDelivery) :=
  match botMessage with
  | none => pure []
  | some (serverBot, body) =>
      createMessage conversation serverBot body deletedFor

/-- `message`. -/
def create (params : MessageParams) : ChatProgram (List ChatDelivery) := do
  let currentUser ← query (fun chat =>
    .ok (chat.conversations.findUserById session.userId))
  let access ← hasAccessToCreate config session params.cid
  let conversation := access.conversation
  checkBlocked session conversation
  validateRepliedMessageId session conversation.id params.repliedMessageId
  let user ← requireUser currentUser
  let response ← executeConversationHandler config conversation params
  let created ← createMessage conversation user
    (response.newBody.getD params.body) params.deletedFor
  let restored ← restoreMembers config conversation
  let answered ← createBotMessage conversation response.botMessage
    params.deletedFor
  pure (restored ++ created ++ answered)

def normalizeLimitParam (limit : Option Nat) : Nat :=
  match limit with
  | some limit =>
      if config.preloadCount < limit ∨ limit = 0 then config.preloadCount
      else limit
  | none => config.preloadCount

/-- The status that an own message is shown with. -/
inductive ShownStatus
  | read
  | sent
deriving DecidableEq

def shownStatus (chat : ChatStore) (mid : ObjectId) : ShownStatus :=
  if chat.hasStatus mid then .read else .sent

/-- The statuses of the messages that the user wrote. -/
def assignMessageVirtualFields (messages : List ChatMessage)
    (chat : ChatStore) : List (ChatMessage × Option ShownStatus) :=
  messages.map (fun message => (message,
    if message.sender = session.userId then
      some (shownStatus chat message.id)
    else none))

/-- The messages that no device needs any more are deleted.  Their status
rows are looked for with the conversation id as a text, and stay. -/
def encryptedList (conversation : ConversationModel) (filter : ListFilter)
    (limit : Nat) : ChatProgram (List (ChatMessage × Option ShownStatus)) := do
  let (midsToDelivery, midsToRemove) ← ofExcept
    (config.encryptedMids session.userId conversation.id)
  let messages ← query (fun chat => .ok ((chat.messages.filter (fun message =>
    message.id ∈ midsToDelivery ∧ filter.inPeriod message)).reverse.take
      limit))
  let shown ← query (fun chat =>
    .ok (assignMessageVirtualFields session messages chat))
  write (fun chat =>
    if midsToRemove = [] then chat
    else chat.deleteMessages (fun message => message.id ∈ midsToRemove))
  pure shown

/-- `message_list`. -/
def list (cid : TextId) (filter : ListFilter) (limit : Option Nat) :
    ChatProgram (List (ChatMessage × Option ShownStatus)) := do
  let currentUser ← query (fun chat =>
    .ok (chat.conversations.findUserById session.userId))
  let access ← hasAccessToList config session cid
  let conversation := access.conversation
  let user ← requireUser currentUser
  if (conversation.params.isEncrypted.map
      EncryptedFlag.isTruthy).getD false then
    encryptedList config session conversation filter
      (normalizeLimitParam config limit)
  else do
    let messages ← query (fun chat => chat.list conversation.id user.id
      filter (normalizeLimitParam config limit))
    query (fun chat =>
      .ok (assignMessageVirtualFields session messages chat))

/-- The newest message of a conversation that the user sees, as
`conversation_list` shows it. -/
def aggregateLastMessageForConversation (cids : List ObjectId)
    (userId : ObjectId) (chat : ChatStore) (cid : ObjectId) :
    Option (ChatMessage × ShownStatus) :=
  if cid ∈ cids then
    (chat.messages.filter (fun message => message.cid = cid ∧
      message.isVisibleTo userId)).getLast?.map (fun message =>
        (message, shownStatus chat message.id))
  else none

/-- The messages by author, in the order in which the authors occur. -/
def groupByFrom (messages : List Message) : List (ObjectId × List Message) :=
  (messages.map Message.sender).reverse.dedup.reverse.map (fun sender =>
    (sender, messages.filter (fun message => message.sender = sender)))

/-- The ids of a request, as a query takes them. -/
def queryIds (ids : Option (List IdParam)) :
    ChatProgram (Option (List ObjectId)) :=
  match ids with
  | none => pure none
  | some ids => do
      let mids ← ofExcept (ChatStore.namedIds ids)
      pure (some mids)

/-- `message_read`. -/
def read (cid : TextId) (ids : Option (List IdParam)) :
    ChatProgram (List ChatDelivery) := do
  let access ← hasAccessToRead config session cid
  let mids ← queryIds ids
  let unreadMessages ← command () (fun chat =>
    let (unread, after) := chat.readMessagesInConversation
      access.conversation.id session.userId mids
    (.ok unread, after))
  pure ((groupByFrom unreadMessages).map (fun (sender, messages) =>
    ⟨[.id sender], .read access.conversation.id (messages.map Message.id)
      session.userId⟩))

/-- Nothing is deleted when one message is of another conversation or, for
a deletion for everyone by a caller who is no moderator, of another author. -/
def validateMessagesForDelete (conversation : ConversationModel)
    (requireAuthorship : Bool) (messages : List ChatMessage) :
    ChatProgram Unit :=
  if messages.any (fun message => message.cid ≠ conversation.id ∨
      message.organizationId ≠ session.organizationId ∨
      (requireAuthorship ∧ message.sender ≠ session.userId)) then
    fail .forbidden
  else pure ()

/-- `$addToSet` of the user. -/
def hide (userId : ObjectId) (message : ChatMessage) : ChatMessage :=
  if message.isVisibleTo userId then
    { message with deletedFor := message.deletedFor ++ [.id userId] }
  else message

@[simp] theorem hide_id (userId : ObjectId) (message : ChatMessage) :
    (hide userId message).id = message.id := by
  rw [hide]
  split <;> rfl

/-- The filter of the writes of a deletion.  It repeats what was validated. -/
def isInConversation (messageIds : List ObjectId) (cid : ObjectId)
    (message : ChatMessage) : Bool :=
  message.id ∈ messageIds ∧ message.cid = cid ∧
    message.organizationId = session.organizationId

def deleteMessagesForEveryone (messageIds : List ObjectId) (cid : ObjectId)
    (authorId : Option ObjectId) (chat : ChatStore) : ChatStore :=
  chat.deleteMessages (fun message =>
    isInConversation session messageIds cid message ∧
      authorId.all (fun authorId => message.sender = authorId))

def hideMessagesForUser (messageIds : List ObjectId) (cid : ObjectId)
    (chat : ChatStore) : ChatStore :=
  chat.updateMessages (fun message =>
    if isInConversation session messageIds cid message then
      hide session.userId message
    else message)
    (fun message => by
      split
      · exact hide_id session.userId message
      · rfl)

/-- `message_delete`. -/
def delete (cid : TextId) (ids : List IdParam) (isDeleteAll : Bool) :
    ChatProgram (List ChatDelivery) := do
  let access ← hasAccessToList config session cid
  let conversation := access.conversation
  let canModerate := conversation.params.type ≠ .u ∧
    (access.asOwner ∨ access.asAdmin)
  let messages ← query (fun chat => chat.findAllByIds ids)
  validateMessagesForDelete session conversation
    (isDeleteAll ∧ ¬ canModerate) messages
  let messageIds := messages.map (fun message => message.id)
  write (fun chat =>
    if messageIds = [] then chat
    else if isDeleteAll then
      deleteMessagesForEveryone session messageIds conversation.id
        (if canModerate then none else some session.userId) chat
    else hideMessagesForUser session messageIds conversation.id chat)
  if isDeleteAll then deliver conversation (.deleted ids) else pure []

/-- `getUnreadMessages`.  The row of the last read message is looked up with
an id that is new when there is none, and its date is compared as a number
with dates, which finds nothing. -/
def getUnreadMessages (cid : ObjectId) (isLowerCase : Bool)
    (userId : ObjectId) (chat : ChatStore) :
    Except ConversationError (List ChatMessage) :=
  let lastReadMessageId :=
    if isLowerCase then
      chat.reads.findLastReadMessageByUserForCid [cid] userId cid
    else none
  match lastReadMessageId with
  | none => .error .typeError
  | some _ => chat.list cid userId
      ⟨none, fun _ => false, false, true⟩ MessageStore.findAllLimit

def summaryMessages (access : ConversationAccess) (isLowerCase : Bool)
    (filter : SummaryFilter) : ChatProgram (List ChatMessage) :=
  match filter with
  | .period inPeriod => query (fun chat => chat.list access.conversation.id
      session.userId ⟨none, inPeriod, true, false⟩ MessageStore.findAllLimit)
  | .unreads => query (getUnreadMessages access.conversation.id isLowerCase
      session.userId)
  | .absent => pure []

/-- `message_summary`. -/
def summary (cid : TextId) (filter : SummaryFilter) :
    ChatProgram String := do
  let access ← hasAccessToSummary config session cid
  let messages ← summaryMessages session access
    (cid = .hex access.conversation.id true) filter
  if messages = [] then
    pure "There are no messages to process in this chat."
  else ofExcept (config.summarize messages)

/-- `system_message` with a conversation. -/
def sendSystem (cid : TextId) : ChatProgram (List ChatDelivery) := do
  let access ← hasAccessToList config session cid
  deliver access.conversation .system

/-- `typing`; the packet goes to the participants. -/
def typing (cid : TextId) : ChatProgram (List ChatDelivery) := do
  let access ← hasAccessToRead config session cid
  checkBlocked session access.conversation
  query (fun chat => .ok [⟨(chat.conversations.rowsOf
    access.conversation.id).map Participant.userId, .typing⟩])

/-- `findOpponentId` of a conversation that may not be there. -/
def findOpponentId (cid : TextId) : ChatProgram (Option StoredId) := do
  let conversation ← query (fun chat =>
    match cid with
    | .hex id _ => .ok (chat.conversations.conversations.get? id)
    | .other _ => .ok none)
  match conversation with
  | none => throw .typeError
  | some conversation =>
      if conversation.ownerId = .id session.userId then
        pure conversation.opponentId
      else pure (some conversation.ownerId)

/-- `message_decryption_failed`, which checks no access.  Its packet names
the receiver in the place of the organization and is delivered to nobody. -/
def decryptionFailed (cid : TextId) (mids : List ObjectId) :
    ChatProgram (Option StoredId) := do
  let currentUser ← query (fun chat =>
    .ok (chat.conversations.findUserById session.userId))
  let user ← requireUser currentUser
  write (fun chat =>
    chat.upsertMessageStatus cid mids user.id .decryptionFailed)
  findOpponentId session cid

/-! ### Operations on a message -/

/-- The list `deleted_for` is searched for an object that is never in it: ids
are compared as objects. -/
def hasAccessToMessage (messageId : IdParam) :
    ChatProgram (Option (ChatMessage × Bool)) := do
  let message ← query (fun chat => chat.findMessage
    config.conversations.server config.pickMessage messageId)
  pure (message.map (fun message =>
    (message, message.sender = session.userId)))

def hasAccessToReactions (messageId : IdParam) :
    ChatProgram ChatMessage := do
  match ← hasAccessToMessage config session messageId with
  | none => fail .messageIdNotFound
  | some (message, _) => pure message

def hasAccessToEdit (messageId : IdParam) : ChatProgram ChatMessage := do
  match ← hasAccessToMessage config session messageId with
  | none => fail .messageIdNotFound
  | some (message, asOwner) =>
      if asOwner then pure message else fail .forbidden

/-- The conversation of a message, whose type is read without a check. -/
def conversationOf (message : ChatMessage) : ChatProgram ConversationModel := do
  let conversation ← query (fun chat =>
    .ok (chat.conversations.conversations.get? message.cid))
  match conversation with
  | none => throw .typeError
  | some params => pure ⟨message.cid, params⟩

/-- `message_edit`. -/
def edit (messageId : IdParam) (newBody : String) :
    ChatProgram (List ChatDelivery) := do
  let message ← hasAccessToEdit config session messageId
  command () (fun chat => chat.updateBody config.conversations.server
    config.pickMessage messageId newBody)
  let conversation ← conversationOf message
  deliver conversation (.edited messageId newBody)

/-- The packet for reactions that were updated; a channel gets none. -/
def deliverReactions (message : ChatMessage) (messageId : IdParam)
    (isUpdated : Bool) : ChatProgram (List ChatDelivery) :=
  if isUpdated then do
    let conversation ← conversationOf message
    if ¬ config.disableChannelsLogic ∧ conversation.params.type = .c then
      pure []
    else deliver conversation (.reactionsUpdated messageId)
  else pure []

/-- `message_reactions_update`. -/
def updateReactions (messageId : IdParam) (add remove : Option String) :
    ChatProgram (List ChatDelivery) := do
  let message ← hasAccessToReactions config session messageId
  let isUpdated ← command () (fun chat =>
    let (isUpdated, after) := chat.updateReactions message.id session.userId
      add remove
    (.ok isUpdated, after))
  deliverReactions config message messageId isUpdated

/-- `message_reactions_list`: who reacted, by reaction. -/
def listReactions (messageId : IdParam) :
    ChatProgram (List (String × List ObjectId)) := do
  let message ← hasAccessToReactions config session messageId
  query (fun chat =>
    let reactions := chat.reactions.filter (fun row => row.mid = message.id)
    .ok ((reactions.map MessageReaction.reaction).dedup.map (fun reaction =>
      (reaction, ((reactions.filter (fun row =>
        row.reaction = reaction)).map MessageReaction.userId).dedup))))

end MessageOperations

/-! ### A conversation to look at -/

/-- A configuration without scripts and encrypted messages. -/
def ChatConfig.plain : ChatConfig :=
  ⟨⟨50, false, fun _ _ => true, .oldestFirst⟩, false, 100, .oldest,
    fun _ _ => some ⟨none, none⟩, fun _ => .ok "", fun _ _ => .ok ([], [])⟩

/-- Two users in a private conversation, and a third user. -/
def ConversationStore.threeUsers : ConversationStore where
  users := ((OrderedMap.empty.set 0 9).set 1 9).set 2 9
  conversations := OrderedMap.empty.set 4 ⟨9, .u, .id 0, some (.id 1), none,
    ⟨none, none, none, none⟩, .undefined⟩
  participants := [⟨4, .id 0, some .owner⟩, ⟨4, .id 1, none⟩]
  nextId := 7
  conversations_below := by decide

/-- The owner has written a message. -/
def ChatStore.oneMessage : ChatStore where
  conversations := .threeUsers
  messages := [⟨⟨0, 4, 0⟩, 9, some "hello", []⟩]
  statuses := []
  strayStatuses := []
  reactions := []
  blocks := .empty
  nextMessageId := 1
  writes := 1
  messages_sorted := List.pairwise_singleton _ _
  messages_below := by decide

end SamaServer
