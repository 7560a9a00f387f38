/-
The requests on conversations: create, update, leave, subscribe and
unsubscribe.  A request is validated against its schema and then performed.
-/
import Mathlib.Algebra.GroupWithZero.Nat
import SamaServer.ConversationService

namespace SamaServer

/-- The length of a text in the language, in UTF-16 code units. -/
def utf16Length (text : String) : Nat :=
  (text.toList.map (fun c => if c.toNat < 0x10000 then 1 else 2)).sum

/-- A text that `Joi.string().max(255)` takes. -/
def isShortText (text : String) : Bool :=
  text ≠ "" ∧ utf16Length text ≤ 255

def ImageObject.isAccepted (image : ImageObject) : Bool :=
  image.fileId.all (fun text => text ≠ "") ∧
    image.fileName.all isShortText ∧ image.fileBlurHash.all isShortText

/-- `conversation_create`, without the `owner_id` that is overwritten. -/
structure CreateParams where
  type : ConversationType
  name : Option String
  description : Option String
  imageObject : Option ImageObject
  opponentId : Option IdParam
  participants : Option (List IdParam)
  isEncrypted : Option EncryptedFlag
deriving DecidableEq

/-- The fields of a create request that are stored as they are. -/
def CreateParams.fields (params : CreateParams) : ConversationFields :=
  ⟨params.name, params.description, params.imageObject, none⟩

/-- `conversation_update`. -/
structure UpdateParams where
  id : IdParam
  fields : ConversationFields
  admins : Option IdLists
deriving DecidableEq

inductive ConversationRequest
  | create (params : CreateParams)
  | update (params : UpdateParams)
  | delete (id : IdParam)
  | subscribe (cid : Option IdParam)
  | unsubscribe (cid : Option IdParam)
deriving DecidableEq

/-- A text of the schema is not empty. -/
def IdParam.isAccepted : IdParam → Bool
  | .text value => value ≠ ""
  | _ => true

def IdParam.isText : IdParam → Bool
  | .hex _ _ => true
  | .text value => value ≠ ""
  | .number _ => false
  | .object _ => false

def IdParam.isNumber : IdParam → Bool
  | .number _ => true
  | _ => false

def CreateParams.isAccepted (config : ConversationConfig)
    (params : CreateParams) : Bool :=
  (params.type = .u ∨ params.name.isSome) ∧ params.name.all isShortText ∧
    params.description.all isShortText ∧
    params.imageObject.all ImageObject.isAccepted ∧
    (params.type = .u ∨ params.opponentId = none) ∧
    params.opponentId.all IdParam.isAccepted ∧
    (params.type = .c ∨ params.participants.isSome) ∧
    params.participants.all (fun participants =>
      1 ≤ participants.length ∧
        participants.length ≤ config.maxParticipants ∧
        participants.all IdParam.isAccepted)

def IdLists.isAccepted (lists : IdLists) : Bool :=
  lists.add.all (fun ids => ids.all IdParam.isAccepted) ∧
    lists.remove.all (fun ids => ids.all IdParam.isAccepted)

def UpdateParams.isAccepted (params : UpdateParams) : Bool :=
  params.id.isText ∧ params.fields.name.all isShortText ∧
    params.fields.description.all isShortText ∧
    params.fields.imageObject.all ImageObject.isAccepted ∧
    params.fields.participants.all IdLists.isAccepted ∧
    params.admins.all IdLists.isAccepted

def ConversationRequest.isAccepted (config : ConversationConfig) :
    ConversationRequest → Bool
  | .create params => params.isAccepted config
  | .update params => params.isAccepted
  | .delete id => id.isText
  | .subscribe cid => cid.all (fun id => id.isAccepted ∧ ¬ id.isNumber)
  | .unsubscribe cid => cid.all (fun id => id.isAccepted ∧ ¬ id.isNumber)

/-- `Array.prototype.length` of a list that may be missing is truthy. -/
def isFilled (ids : Option (List IdParam)) : Bool :=
  ids.any (fun list => list ≠ [])

namespace ConversationOperations

open Fallible ConversationService

variable (config : ConversationConfig) (session : ConversationSession)

/-! ### Create -/

/-- The opponent of the parameters, or else the first user found who is not
the owner.  The number zero counts as missing. -/
def chosenOpponent (opponentId : Option IdParam)
    (participantIds : List ObjectId) : Option IdParam :=
  (opponentId.filter (fun param => param ≠ .number true)) <|>
    (participantIds.find? (fun id => id ≠ session.userId)).map
      (fun id => IdParam.hex id true)

/-- An opponent who is no user is noticed and not reported. -/
def validatePrivateConversationParticipant (opponentId : Option IdParam)
    (participantIds : List ObjectId) : ConversationProgram IdParam :=
  if 3 ≤ participantIds.length then fail .tooManyUsersInPrivate
  else
    match chosenOpponent session opponentId participantIds with
    | none => throw .typeError
    | some opponentId => do
        let isOwner ← ofExcept (opponentId.isEqualsNativeIds session.user)
        if isOwner then fail .incorrectUser
        else do
          let _ ← query none (fun s => s.findOpponent config.server
            opponentId)
          pure opponentId

/-- A private conversation that is found, or else a new one. -/
def findOrCreatePrivateConversation (user : User) (params : CreateParams)
    (opponentId : IdParam) : ConversationProgram ConversationModel := do
  let existed ← query none (fun s => s.findExistedPrivateConversation
    config.server user.id opponentId params.isEncrypted)
  match existed with
  | some conversation => do
      let _ ← restorePrivateConversation config conversation
      pure conversation
  | none =>
      ConversationService.create config user .u params.fields
        (some opponentId) params.isEncrypted [session.user, opponentId]

def createPrivateConversation (user : Option User) (params : CreateParams)
    (participantIds : List ObjectId) :
    ConversationProgram ConversationModel := do
  let opponentId ← validatePrivateConversationParticipant config session
    params.opponentId participantIds
  match user with
  | none => throw .typeError
  | some user =>
      findOrCreatePrivateConversation config session user params opponentId

/-- The users found, with the owner at the end when it is not among them. -/
def membersWithOwner (participantIds : List ObjectId) : List ObjectId :=
  if session.userId ∈ participantIds then participantIds
  else participantIds ++ [session.userId]

/-- Groups and channels, and then the url of the image. -/
def createSharedConversation (user : Option User) (params : CreateParams)
    (participantIds : List ObjectId) :
    ConversationProgram ConversationModel :=
  let members := membersWithOwner session participantIds
  if params.type = .g ∧ members.length = 1 then
    fail .participantsNotProvided
  else
    match user with
    | none => throw .typeError
    | some user => do
        let conversation ← ConversationService.create config user params.type
          params.fields none params.isEncrypted
          (members.map (fun id => IdParam.hex id true))
        addImageUrl config conversation
        pure conversation

/-- The event about a request is made from the user, who is read again. -/
def createUserEvent : ConversationProgram Unit :=
  if config.isEventsEnabled then
    query none (fun s =>
      if (s.findUserById session.userId).isSome then .ok ()
      else .error .typeError)
  else pure ()

/-- The ids of a list that are users of an organization. -/
def existedIds (held : HeldConversation) (organizationId : ObjectId)
    (ids : Option (List IdParam)) : ConversationProgram (List ObjectId) :=
  if isFilled ids then
    query held (fun s => s.retrieveExistedIds organizationId (ids.getD []))
  else pure []

/-- The branches of the request by type. -/
def createOfType (user : Option User) (params : CreateParams)
    (participantIds : List ObjectId) :
    ConversationProgram ConversationModel :=
  if params.type = .u then
    createPrivateConversation config session user params participantIds
  else
    createSharedConversation config session user params participantIds

def create (params : CreateParams) :
    ConversationProgram ConversationModel := do
  let currentUser ← query none (fun s => .ok (s.findUserById session.userId))
  let participantIds ← existedIds none session.organizationId
    params.participants
  let conversation ← createOfType config session currentUser params
    participantIds
  createUserEvent config session
  pure conversation

/-! ### Update -/

/-- Whether one of the events of an update is made from the current user. -/
def needsCurrentUser (fields : ConversationFields)
    (addedIds : List StoredId) (removedIds : List ObjectId) : Bool :=
  addedIds ≠ [] ∨ removedIds ≠ [] ∨ fields.name.isSome ∨
    fields.description.isSome ∨ fields.participants.isSome ∨
    fields.imageObject.isSome

/-- Whether the users that the events of an update name are all found. -/
def findsActionUsers (fields : ConversationFields)
    (addedIds : List StoredId) (removedIds : List ObjectId)
    (s : ConversationStore) : Bool :=
  (needsCurrentUser fields addedIds removedIds →
      (s.findUserById session.userId).isSome) ∧
    (∀ addedId ∈ addedIds, ∃ id ∈ s.users.keys, addedId = .id id) ∧
    ∀ removedId ∈ removedIds, (s.findUserById removedId).isSome

/-- An event about a user who is gone throws. -/
def createActionEvents (fields : ConversationFields)
    (addedIds : List StoredId) (removedIds : List ObjectId) :
    ConversationProgram Unit :=
  query none (fun s =>
    if findsActionUsers session fields addedIds removedIds s then .ok ()
    else .error .typeError)

/-- `updateMany` of the role of the users in a list that is not empty. -/
def updateRoles (conversationId : ObjectId) (ids : Option (List IdParam))
    (role : Option ParticipantRole) : ConversationProgram Unit :=
  if isFilled ids then
    command none (fun s => s.setRole conversationId (ids.getD []) role)
  else pure ()

def updateAdmins (conversationId : ObjectId) (admins : IdLists) :
    ConversationProgram Unit := do
  updateRoles conversationId admins.add (some .admin)
  updateRoles conversationId admins.remove none

/-- Whether the update goes on to the participants. -/
def updatesParticipants (params : UpdateParams)
    (adminsToAdd : List ObjectId) : Bool :=
  params.fields.participants.isSome ∨ adminsToAdd ≠ []

/-- The list of participants to add; new admins are added as well. -/
def participantsToAdd (params : UpdateParams) (adminsToAdd : List ObjectId) :
    Option (List IdParam) :=
  let add := params.fields.participants.bind IdLists.add
  if adminsToAdd = [] then add
  else some (add.getD [] ++ adminsToAdd.map (fun id => IdParam.hex id true))

/-- The participants of a group or a channel. -/
def editParticipants (conversation : ConversationModel)
    (params : UpdateParams) (adminsToAdd : List ObjectId) :
    ConversationProgram (List StoredId × RemoveResult) :=
  if updatesParticipants params adminsToAdd then do
    let addIds ← existedIds (some conversation.id)
      conversation.params.organizationId
      (participantsToAdd params adminsToAdd)
    let removeIds ← existedIds (some conversation.id)
      conversation.params.organizationId
      (params.fields.participants.bind IdLists.remove)
    updateParticipants config conversation
      (addIds.map (fun id => IdParam.hex id true)) removeIds
  else pure ([], ⟨[], none, false⟩)

/-- The events of an update, if they are enabled. -/
def editEvents (conversation : ConversationModel) (params : UpdateParams)
    (addedIds : List StoredId) (removedIds : List ObjectId) :
    ConversationProgram Unit :=
  if config.isEventsEnabled then do
    addImageUrl config conversation
    createActionEvents session params.fields addedIds removedIds
  else pure ()

/-- The part of an update that follows the write of the fields. -/
def editShared (conversation : ConversationModel) (params : UpdateParams) :
    ConversationProgram Unit := do
  let adminsToAdd ← existedIds (some conversation.id)
    conversation.params.organizationId (params.admins.bind IdLists.add)
  let (addedIds, removeResult) ← editParticipants config conversation params
    adminsToAdd
  if removeResult.isEmptyAndDeleted then pure ()
  else do
    updateAdmins conversation.id (params.admins.getD ⟨none, none⟩)
    editEvents config session conversation params addedIds
      removeResult.removedIds

/-- The fields are written before anything else is checked. -/
def editFields (params : UpdateParams) : ConversationProgram Unit := do
  let updated ← command none (fun s =>
    let (updated, after) := s.updateFields config.server params.id
      params.fields
    (.ok updated, after))
  match updated with
  | none => throw .typeError
  | some conversation =>
      if conversation.params.type = .u then pure ()
      else editShared config session conversation params

def edit (params : UpdateParams) : ConversationProgram Unit := do
  let access ← hasAccessToConversation config session params.id false
  match access with
  | none => fail .badRequest
  | some access =>
      if access.conversation.params.type ≠ .u ∧
          ¬ (access.asOwner ∨ access.asAdmin) then fail .forbidden
      else editFields config session params

/-! ### Leave, subscribe and unsubscribe -/

def delete (conversationId : IdParam) : ConversationProgram Unit := do
  let access ← hasAccessToConversation config session conversationId true
  match access with
  | none => fail .badRequest
  | some access =>
      if access.asParticipant then do
        let _ ← removeParticipants config access.conversation
          [session.userId]
        createUserEvent config session
      else fail .participantNotFound

def retrieveConversation (conversationId : Option IdParam) :
    ConversationProgram ConversationModel := do
  let found ← query none (fun s =>
    match conversationId with
    | none => .ok none
    | some id => s.findByIdWithOrgScope config.server
        session.organizationId id)
  match found with
  | none => fail .badRequest
  | some conversation =>
      if conversation.params.type ≠ .c then fail .badRequest
      else pure conversation

def subscribe (conversationId : Option IdParam) :
    ConversationProgram Unit := do
  let conversation ← retrieveConversation config session conversationId
  let _ ← addParticipants config conversation [session.user] false
  pure ()

def unsubscribe (conversationId : Option IdParam) :
    ConversationProgram Unit := do
  let conversation ← retrieveConversation config session conversationId
  let _ ← removeParticipants config conversation [session.userId]
  pure ()

end ConversationOperations

/-- A request of a session, from its validation to its end. -/
def ConversationRequest.perform (config : ConversationConfig)
    (session : ConversationSession) (request : ConversationRequest) :
    ConversationProgram Unit :=
  if request.isAccepted config then
    match request with
    | .create params => do
        let _ ← ConversationOperations.create config session params
        pure ()
    | .update params => ConversationOperations.edit config session params
    | .delete id => ConversationOperations.delete config session id
    | .subscribe cid => ConversationOperations.subscribe config session cid
    | .unsubscribe cid =>
        ConversationOperations.unsubscribe config session cid
  else Fallible.throw .validation

/-- What happens at the service when no two requests overlap. -/
inductive ConversationEvent
  | userCreated (organizationId : ObjectId)
  | userDeleted (id : ObjectId)
  | requested (session : ConversationSession) (request : ConversationRequest)
deriving DecidableEq

namespace ConversationStore

def step (config : ConversationConfig) (s : ConversationStore) :
    ConversationEvent → ConversationStore
  | .userCreated organizationId => s.createUser organizationId
  | .userDeleted id => s.deleteUser id
  | .requested session request =>
      ((request.perform config session).exec s).2

def run (config : ConversationConfig) (events : List ConversationEvent) :
    ConversationStore :=
  events.foldl (step config) empty

/-- Whether a request ends without an error. -/
def succeeds (config : ConversationConfig) (s : ConversationStore) :
    ConversationEvent → Bool
  | .userCreated _ => true
  | .userDeleted _ => true
  | .requested session request =>
      ((request.perform config session).exec s).1.isOk

end ConversationStore

end SamaServer
