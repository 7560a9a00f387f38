/-
The requests that create and update a conversation, with their events: a
system message about the conversation, and a stored message for each
participant who comes or goes and for a new image.
-/
import SamaServer.NotifyingRequests

namespace SamaServer

/-- The text of an object id: 24 hexadecimal digits in lower case. -/
def ObjectId.text (id : ObjectId) : String :=
  String.ofList ((Nat.toDigits 16 id).leftpad 24 '0')

/-- `CONVERSATION_EVENT` -/
inductive ConversationAction
  | create
  | update
  | updateDetails
  | updateImage
  | delete
deriving DecidableEq

/-- `event_request_name` in `EVENT_TYPE_PARAMS` -/
def ConversationAction.eventRequestName : ConversationAction → String
  | create => "conversation_created"
  | update => "conversation_updated"
  | updateDetails => "conversation_updated"
  | updateImage => "conversation_updated"
  | delete => "conversation_kicked"

/-- `push_message_body` of a new image, which is the body of a message. -/
def updateImageBody : String := "Group chat image was updated"

/-- The extra data `x` of the message of an event, without the fields of the
conversation or of the user in it. -/
inductive EventExtra
  | conversation (eventRequestName : String)
  | participant (eventType : ParticipantEvent) (userId : ObjectId)
  | image

/-- An event of a create or of an update. -/
structure ConversationNotice where
  message : ResponsePacket
  x : EventExtra
  participantIds : Option (List StoredId)
  exceptUserIds : Option (List StoredId)
  ignoreSelf : Bool

structure ConversationCreateResult where
  organizationId : ObjectId
  conversation : ConversationModel
  event : Option ConversationNotice

structure ConversationEditResult where
  organizationId : ObjectId
  conversation : ConversationModel
  conversationEvents : List ConversationNotice

namespace ConversationResults

open Fallible MessageOperations ConversationService

variable (config : ChatConfig) (displayName : User → String)
  (session : ApiSession)

/-- `actionEvent` of the notification service: a system message that is not
stored. -/
def actionEvent (eventType : ConversationAction)
    (conversation : ConversationModel) (user : User) : ConversationNotice :=
  ⟨.systemMessage (some (ObjectId.text conversation.id)) user.id
      (some (.hex conversation.id true)),
    .conversation eventType.eventRequestName, none, none, false⟩

/-! ### Create -/

/-- The conversation and the users that the event names.  A private one names
the users of the request, whoever was added. -/
def createOfType (user : Option User) (params : CreateParams)
    (participantIds : List ObjectId) :
    ConversationProgram (ConversationModel × List ObjectId) := do
  let conversation ← ConversationOperations.createOfType config.conversations
    session.toConversationSession user params participantIds
  pure (conversation,
    if params.type = .u then participantIds
    else ConversationOperations.membersWithOwner
      session.toConversationSession participantIds)

def createActionEvent (conversation : ConversationModel) :
    ChatProgram ConversationNotice := do
  let user ← query (fun chat =>
    .ok (chat.conversations.findUserById session.userId))
  let user ← requireUser user
  pure (actionEvent .create conversation user)

/-- `ConversationCreateOperation` -/
def create (params : CreateParams) :
    ChatProgram ConversationCreateResult := do
  let currentUser ← query (fun chat =>
    .ok (chat.conversations.findUserById session.userId))
  let paramsParticipantIds ← onConversations
    (ConversationOperations.existedIds none session.organizationId
      params.participants)
  let (conversation, normalizedParticipants) ← onConversations
    (createOfType config session currentUser params paramsParticipantIds)
  if config.conversations.isEventsEnabled then do
    let conversationEvent ← createActionEvent session conversation
    pure ⟨session.organizationId, conversation, some { conversationEvent with
      participantIds := some (normalizedParticipants.map StoredId.id) }⟩
  else pure ⟨session.organizationId, conversation, none⟩

/-! ### Update -/

/-- A user is looked up by an id that was stored. -/
def findUser (chat : ChatStore) : StoredId → Option User
  | .id id => chat.conversations.findUserById id
  | .raw _ => none

/-- The event about one participant. -/
def editParticipantsActionEvent (conversation : ConversationModel)
    (currentUser : Option User) (eventType : ParticipantEvent)
    (actionedUserId : StoredId) : ChatProgram ConversationNotice := do
  let actionedUser ← query (fun chat => .ok (findUser chat actionedUserId))
  let userActioned ← requireUser actionedUser
  let userActionCreator ← requireUser currentUser
  let message ← participantActionEvent displayName eventType conversation
    userActionCreator userActioned
  pure ⟨message, .participant eventType userActioned.id, none, none, false⟩

/-- The loop over the participants who came or went. -/
def participantEvents (conversation : ConversationModel)
    (currentUser : Option User) (eventType : ParticipantEvent) :
    List StoredId → ChatProgram (List ConversationNotice)
  | [] => pure []
  | participantId :: participantIds => do
      let event ← editParticipantsActionEvent displayName conversation
        currentUser eventType participantId
      let events ← participantEvents conversation currentUser eventType
        participantIds
      pure (event :: events)

/-- Those who were added get the conversation first. -/
def addedEvents (conversation : ConversationModel)
    (currentUser : Option User) (addedParticipantIds : List StoredId) :
    ChatProgram (List ConversationNotice) :=
  if addedParticipantIds = [] then pure []
  else do
    let user ← requireUser currentUser
    let events ← participantEvents displayName conversation currentUser .added
      addedParticipantIds
    pure ({ actionEvent .update conversation user with
      participantIds := some addedParticipantIds } :: events)

/-- Those who were removed are told last. -/
def removedEvents (conversation : ConversationModel)
    (currentUser : Option User) (removedParticipantIds : List ObjectId) :
    ChatProgram (List ConversationNotice) :=
  if removedParticipantIds = [] then pure []
  else do
    let events ← participantEvents displayName conversation currentUser
      .removed (removedParticipantIds.map StoredId.id)
    let user ← requireUser currentUser
    pure (events ++ [{ actionEvent .delete conversation user with
      participantIds := some (removedParticipantIds.map StoredId.id) }])

/-- New details are for those who have the conversation already. -/
def detailsEvents (conversation : ConversationModel)
    (currentUser : Option User) (addedParticipantIds : List StoredId)
    (isUpdateConversation : Bool) : ChatProgram (List ConversationNotice) :=
  if isUpdateConversation then do
    let user ← requireUser currentUser
    pure [{ actionEvent .updateDetails conversation user with
      exceptUserIds := some addedParticipantIds, ignoreSelf := true }]
  else pure []

/-- A new image is a message in the conversation. -/
def imageEvents (conversation : ConversationModel)
    (currentUser : Option User) (isUpdateConversationImage : Bool) :
    ChatProgram (List ConversationNotice) :=
  if isUpdateConversationImage then do
    let user ← requireUser currentUser
    let created ← MessageResults.createMessage conversation user
      (some updateImageBody) []
    pure [⟨created.packet, .image, none, none, false⟩]
  else pure []

/-- `Object.keys` of the fields without the image. -/
def isUpdateConversationFields (fields : ConversationFields) : Bool :=
  fields.name.isSome ∨ fields.description.isSome ∨ fields.participants.isSome

def editActionEvents (conversation : ConversationModel)
    (fields : ConversationFields) (addedIds : List StoredId)
    (removedIds : List ObjectId) : ChatProgram (List ConversationNotice) := do
  let currentUser ← query (fun chat =>
    .ok (chat.conversations.findUserById session.userId))
  let added ← addedEvents displayName conversation currentUser addedIds
  let removed ← removedEvents displayName conversation currentUser removedIds
  let details ← detailsEvents conversation currentUser addedIds
    (isUpdateConversationFields fields)
  let image ← imageEvents conversation currentUser fields.imageObject.isSome
  pure (added ++ removed ++ details ++ image)

/-- The participants and the admins of a group or a channel; nothing is left
of one that is empty now. -/
def editMembers (conversation : ConversationModel) (params : UpdateParams) :
    ConversationProgram (Option (List StoredId × List ObjectId)) := do
  let adminsToAdd ← ConversationOperations.existedIds (some conversation.id)
    conversation.params.organizationId (params.admins.bind IdLists.add)
  let (addedIds, removeResult) ← ConversationOperations.editParticipants
    config.conversations conversation params adminsToAdd
  if removeResult.isEmptyAndDeleted then pure none
  else do
    ConversationOperations.updateAdmins conversation.id
      (params.admins.getD ⟨none, none⟩)
    pure (some (addedIds, removeResult.removedIds))

/-- The events of a group or a channel, if they are enabled. -/
def editEvents (conversation : ConversationModel)
    (fields : ConversationFields) (addedIds : List StoredId)
    (removedIds : List ObjectId) : ChatProgram (List ConversationNotice) :=
  if config.conversations.isEventsEnabled then do
    onConversations (addImageUrl config.conversations conversation)
    editActionEvents displayName session conversation fields addedIds
      removedIds
  else pure []

/-- The part of an update that follows the write of the fields. -/
def editShared (conversation : ConversationModel) (params : UpdateParams) :
    ChatProgram (Option ConversationEditResult) := do
  let members ← onConversations (editMembers config conversation params)
  match members with
  | none => pure none
  | some (addedIds, removedIds) => do
      let conversationEvents ← editEvents config displayName session
        conversation params.fields addedIds removedIds
      pure (some ⟨session.organizationId, conversation, conversationEvents⟩)

def editFields (params : UpdateParams) :
    ChatProgram (Option ConversationEditResult) := do
  let updated ← onConversations (command none (fun s =>
    let (updated, after) := s.updateFields config.conversations.server
      params.id params.fields
    (.ok updated, after)))
  match updated with
  | none => throw .typeError
  | some conversation =>
      if conversation.params.type = .u then
        pure (some ⟨session.organizationId, conversation, []⟩)
      else editShared config displayName session conversation params

/-- `ConversationEditOperation` -/
def edit (params : UpdateParams) :
    ChatProgram (Option ConversationEditResult) := do
  let access ← onConversations (hasAccessToConversation config.conversations
    session.toConversationSession params.id false)
  match access with
  | none => fail .badRequest
  | some access =>
      if access.conversation.params.type ≠ .u ∧
          ¬ (access.asOwner ∨ access.asAdmin) then fail .forbidden
      else editFields config displayName session params

end ConversationResults

namespace ConversationsController

open Fallible

/-- A created conversation is announced to the users of its event. -/
def createMessage (organizationId : ObjectId) (event : ConversationNotice) :
    DeliverPackage :=
  (DeliverPackage.new (.organization (some organizationId))
    (.response event.message) false).setUsersDestination
      (event.participantIds.map (List.map some)) none

def create (config : ChatConfig) (session : ApiSession)
    (params : CreateParams) :
    ChatProgram (ConversationModel × List DeliverPackage) := do
  let result ← ConversationResults.create config session params
  pure (result.conversation,
    (result.event.map (createMessage result.organizationId)).toList)

/-- An event of an update. -/
def updateMessage (organizationId conversationId : ObjectId)
    (event : ConversationNotice) : DeliverPackage :=
  { ((DeliverPackage.new (.organization (some organizationId))
      (.response event.message) false).setUsersDestination
        (event.participantIds.map (List.map some))
        event.exceptUserIds).setConversationDestination
          (some (.hex conversationId true)) event.exceptUserIds with
    ignoreSelf := event.ignoreSelf }

/-- The conversation of the answer, unless it is deleted now, and the deliver
messages. -/
def update (config : ChatConfig) (displayName : User → String)
    (session : ApiSession) (params : UpdateParams) :
    ChatProgram (Option ConversationModel × List DeliverPackage) := do
  let result ← ConversationResults.edit config displayName session params
  match result with
  | none => pure (none, [])
  | some result => pure (some result.conversation,
      result.conversationEvents.map (updateMessage result.organizationId
        result.conversation.id))

end ConversationsController

end SamaServer
