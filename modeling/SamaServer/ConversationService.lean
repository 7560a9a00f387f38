/-
The conversation service.  Each command to the database is one step, so that
a request can be executed alone or interleaved with others; a step is
labelled with the conversation whose document the request has read in order
to write a new count, from that read to the last write.
-/
import SamaServer.ConversationStore
import SamaServer.Fallible

namespace SamaServer

/-- What the service is configured with.  `hasFile` tells whether a download
url can be made for a file of an organization. -/
structure ConversationConfig where
  maxParticipants : Nat
  isEventsEnabled : Bool
  hasFile : ObjectId → Option String → Bool
  server : MongoServer

structure ConversationSession where
  userId : ObjectId
  organizationId : ObjectId
deriving DecidableEq

/-- The id of the current user as the session holds it. -/
def ConversationSession.user (session : ConversationSession) : IdParam :=
  .hex session.userId true

/-- The conversation that a request works on when it takes the step. -/
abbrev HeldConversation := Option ObjectId

abbrev ConversationProgram :=
  Fallible HeldConversation ConversationStore ConversationError

namespace ConversationService

open Fallible

/-- A command that only reads. -/
def query {A : Type} (held : HeldConversation)
    (answer : ConversationStore → Except ConversationError A) :
    ConversationProgram A :=
  command held (fun s => (answer s, s))

/-- A command that only writes. -/
def write (held : HeldConversation)
    (update : ConversationStore → ConversationStore) :
    ConversationProgram Unit :=
  command held (fun s => (.ok (), update s))

variable (config : ConversationConfig)

def fail {A : Type} (status : ErrorStatus) : ConversationProgram A :=
  throw (.cause status)

/-- The loop over the participants to add; the result is the ids for which a
row was inserted. -/
def addNoExistedParticipants (held : HeldConversation)
    (conversationId : ObjectId) :
    List (IdParam × Option ParticipantRole) →
      ConversationProgram (List StoredId)
  | [] => pure []
  | (participantId, role) :: participantsParams => do
      let upsertedId ← command held (fun s =>
        s.upsertParticipant config.server conversationId participantId role)
      let addedIds ← addNoExistedParticipants held conversationId
        participantsParams
      pure (upsertedId.toList ++ addedIds)

/-- The loop over the participants to remove; the result is the ids that had
a row. -/
def removeExistedParticipants (held : HeldConversation)
    (conversationId : ObjectId) :
    List ObjectId → ConversationProgram (List ObjectId)
  | [] => pure []
  | participantId :: participantIds => do
      let isDeleted ← command held (fun s =>
        let (isDeleted, after) := s.deleteParticipant conversationId
          participantId
        (.ok isDeleted, after))
      let removedIds ← removeExistedParticipants held conversationId
        participantIds
      pure (if isDeleted then participantId :: removedIds else removedIds)

def updateSubscribersCount (held : HeldConversation)
    (conversationId : ObjectId) (count : SubscribersCount) :
    ConversationProgram Unit :=
  write held (fun s => s.updateConversation conversationId (fun params =>
    { params with subscribersCount := count }))

def updateOwner (held : HeldConversation) (conversationId : ObjectId)
    (newOwnerId : StoredId) : ConversationProgram Unit :=
  write held (fun s => s.updateConversation conversationId (fun params =>
    { params with ownerId := newOwnerId }))

/-- The number of participants before an addition: nothing is counted for a
new conversation, a channel is asked for its count, and the rows of any other
conversation are counted. -/
def currentParticipantsCount (conversation : ConversationModel)
    (isEmpty : Bool) : ConversationProgram SubscribersCount :=
  if isEmpty then pure (.int 0)
  else if conversation.params.type = .c then
    pure conversation.params.subscribersCount
  else query (some conversation.id) (fun s =>
    .ok (.int (s.rowsOf conversation.id).length))

/-- The rows to write, with the role of the owner. -/
def createParticipantsParams (conversation : ConversationModel)
    (participantIds : List IdParam) :
    Except ConversationError (List (IdParam × Option ParticipantRole)) :=
  participantIds.mapM (fun participantId => do
    let isOwner ← participantId.isEqualsNativeIds
      conversation.params.ownerId.param
    pure (participantId, if isOwner then some .owner else none))

/-- The ids that were added, and the conversation with its new count. -/
def addParticipants (conversation : ConversationModel)
    (participantIds : List IdParam) (isEmpty : Bool) :
    ConversationProgram (List StoredId × ConversationModel) := do
  let currentCount ← currentParticipantsCount conversation isEmpty
  if (currentCount.plus participantIds.length).exceeds
      config.maxParticipants then
    fail .participantsLimit
  else do
    let participantsParams ← ofExcept (createParticipantsParams conversation
      participantIds)
    let addedIds ← addNoExistedParticipants config (some conversation.id)
      conversation.id participantsParams
    if conversation.params.type = .c then do
      let participantsCount := currentCount.plus addedIds.length
      updateSubscribersCount (some conversation.id) conversation.id
        participantsCount
      pure (addedIds, conversation.setSubscribersCount participantsCount)
    else pure (addedIds, conversation)

structure RemoveResult where
  removedIds : List ObjectId
  newOwnerId : Option StoredId
  isEmptyAndDeleted : Bool
deriving DecidableEq

/-- Whether the owner was removed. -/
def isOwnerInRemove (conversation : ConversationModel)
    (removedIds : List ObjectId) : Bool :=
  removedIds.any (fun removedId =>
    StoredId.id removedId = conversation.params.ownerId)

/-- An owner who left is followed by the participant that was found. -/
def updateRemovedOwner (conversation : ConversationModel)
    (removedIds : List ObjectId) (userId : StoredId) :
    ConversationProgram (Option StoredId) :=
  if isOwnerInRemove conversation removedIds ∧
      conversation.params.type ≠ .u then do
    updateOwner (some conversation.id) conversation.id userId
    pure (some userId)
  else pure none

def updateRemovedCount (conversation : ConversationModel)
    (removedIds : List ObjectId) : ConversationProgram Unit :=
  if conversation.params.type = .c then
    updateSubscribersCount (some conversation.id) conversation.id
      (conversation.params.subscribersCount.minus removedIds.length)
  else pure ()

def removeParticipants (conversation : ConversationModel)
    (participantIds : List ObjectId) : ConversationProgram RemoveResult := do
  let removedIds ← removeExistedParticipants (some conversation.id)
    conversation.id participantIds
  let firstParticipant ← query (some conversation.id) (fun s =>
    .ok (s.findFirstConversationParticipant config.server conversation.id
      none))
  match firstParticipant with
  | none => do
      write (some conversation.id) (fun s =>
        s.deleteConversation conversation.id)
      pure ⟨removedIds, none, true⟩
  | some row => do
      let newOwnerId ← updateRemovedOwner conversation removedIds row.userId
      updateRemovedCount conversation removedIds
      pure ⟨removedIds, newOwnerId, false⟩

def updateParticipants (conversation : ConversationModel)
    (addIds : List IdParam) (removeIds : List ObjectId) :
    ConversationProgram (List StoredId × RemoveResult) := do
  let (addedIds, conversation) ← addParticipants config conversation addIds
    false
  let removeResult ← removeParticipants config conversation removeIds
  pure (addedIds, removeResult)

/-- The document that is inserted; the id of the opponent is cast when the
parameters are prepared. -/
def preparedParams (s : ConversationStore) (user : User)
    (type : ConversationType) (fields : ConversationFields)
    (opponentId : Option IdParam) (isEncrypted : Option EncryptedFlag) :
    Conversation where
  organizationId := user.organizationId
  type := type
  ownerId := .id user.id
  opponentId := opponentId.map (IdParam.castObjectId s.nextId)
  isEncrypted := isEncrypted
  fields := fields
  subscribersCount := .undefined

/-- The insert, and then the participants. -/
def create (user : User) (type : ConversationType)
    (fields : ConversationFields) (opponentId : Option IdParam)
    (isEncrypted : Option EncryptedFlag) (participantIds : List IdParam) :
    ConversationProgram ConversationModel := do
  let conversation ← command none (fun s =>
    let params := preparedParams s user type fields opponentId isEncrypted
    (.ok ⟨s.conversationId params, params⟩, s.insertConversation params))
  if participantIds ≠ [] then do
    let (_, conversation) ← addParticipants config conversation
      participantIds true
    pure conversation
  else pure conversation

def restorePrivateConversation (conversation : ConversationModel) :
    ConversationProgram (List StoredId) := do
  let requiredParticipantIds := conversation.params.ownerId.param ::
    (conversation.params.opponentId.map StoredId.param).toList
  let (missedParticipantIds, _) ← addParticipants config conversation
    requiredParticipantIds false
  pure missedParticipantIds

structure ConversationAccess where
  conversation : ConversationModel
  asParticipant : Bool
  asOwner : Bool
  asAdmin : Bool
deriving DecidableEq

/-- `isHeld` tells whether the caller goes on with the count of the document
that is read here. -/
def hasAccessToConversation (session : ConversationSession)
    (conversationId : IdParam) (isHeld : Bool) :
    ConversationProgram (Option ConversationAccess) := do
  let found ← query none (fun s => s.findByIdWithOrgScope config.server
    session.organizationId conversationId)
  match found with
  | none => pure none
  | some conversation => do
      let held := if isHeld then some conversation.id else none
      let currentParticipant ← query held (fun s =>
        .ok (s.findFirstConversationParticipant config.server conversation.id
          (some session.userId)))
      pure (some ⟨conversation, currentParticipant.isSome,
        conversation.params.ownerId = .id session.userId,
        currentParticipant.any (fun row => row.role = some .admin)⟩)

/-- `addImageUrl` for one conversation: the url of an image that cannot be
found throws. -/
def addImageUrl (conversation : ConversationModel) :
    ConversationProgram Unit :=
  match conversation.params.fields.imageObject with
  | none => pure ()
  | some image =>
      if config.hasFile conversation.params.organizationId image.fileId then
        pure ()
      else throw .fileNotFound

end ConversationService

end SamaServer
