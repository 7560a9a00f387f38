/-
The collections behind conversations: users, conversations and the rows that
make a user a participant.  Requests name documents by whatever the schema
lets through, and the repositories turn that into an object id where they
can; a value that is no id goes to the database as it is.
-/
import SamaServer.Documents
import SamaServer.OrderedMap

namespace SamaServer

/-- An object sent in the place of an id.  Its property `id` may be a text of
24 hexadecimal digits, a key with a dollar sign makes it a query operator,
and an own property `toString` hides the method. -/
structure IdObject where
  id : Option ObjectId
  operator : Option String
  hidesToString : Bool
deriving DecidableEq

/-- A value sent in the place of an id: a text of 24 hexadecimal digits, any
other text, a number or an object. -/
inductive IdParam
  | hex (id : ObjectId) (isLowerCase : Bool)
  | text (value : String)
  | number (isZero : Bool)
  | object (value : IdObject)
deriving DecidableEq

/-- A value that is no id and that prints. -/
inductive RawId
  | text (value : String)
  | object (operator : Option String)
deriving DecidableEq

/-- What is stored in the place of an id. -/
inductive StoredId
  | id (value : ObjectId)
  | raw (value : RawId)
deriving DecidableEq

structure ErrorStatus where
  status : Nat
  message : String
deriving DecidableEq

namespace ErrorStatus

def forbidden : ErrorStatus := ⟨403, "Forbidden."⟩

def badRequest : ErrorStatus := ⟨400, "Bad Request."⟩

def tooManyUsersInPrivate : ErrorStatus :=
  ⟨422, "There are too many users in the private conversation."⟩

def incorrectUser : ErrorStatus := ⟨422, "The specified user is incorrect."⟩

def participantsNotProvided : ErrorStatus :=
  ⟨422, "Participants not provided."⟩

def participantNotFound : ErrorStatus :=
  ⟨404, "ConversationParticipant not found."⟩

def participantsLimit : ErrorStatus :=
  ⟨422, "You've reached the maximum participant limit."⟩

end ErrorStatus

/-- How a request ends when it does not succeed: with a status of the table,
without the file it names, with a `TypeError` of the language, with an error
of the database, or before it starts because the schema refuses it. -/
inductive ConversationError
  | cause (status : ErrorStatus)
  | fileNotFound
  | typeError
  | databaseError
  | validation
deriving DecidableEq

namespace IdParam

/-- What the constructor of an object id makes of the value; a number only
sets the time of a new id, and where the constructor throws the value stays
as it is. -/
def castObjectId (generated : ObjectId) : IdParam → StoredId
  | hex id _ => .id id
  | text value => .raw (.text value)
  | number _ => .id generated
  | object value =>
      match value.id with
      | some id => .id id
      | none => .raw (.object value.operator)

/-- The id that the value names, if it names one. -/
def namedId? : IdParam → Option ObjectId
  | hex id _ => some id
  | text _ => none
  | number _ => none
  | object value => value.id

/-- The value that a query compares with; a new id is found nowhere. -/
def queryId? : IdParam → Option StoredId
  | number _ => none
  | param => some (param.castObjectId 0)

def operator? : IdParam → Option String
  | object ⟨none, operator, _⟩ => operator
  | _ => none

/-- The text of the value, as `toString` gives it.  No number prints as 24
hexadecimal digits. -/
def text? : IdParam → Except ConversationError IdParam
  | object ⟨_, _, true⟩ => .error .typeError
  | object ⟨_, _, false⟩ => .ok (text "[object Object]")
  | param => .ok param

def isEqualsNativeIds (nativeIdA nativeIdB : IdParam) :
    Except ConversationError Bool := do
  let textA ← nativeIdA.text?
  let textB ← nativeIdB.text?
  pure (textA = textB)

end IdParam

/-- All ids below this one are other than the stored one. -/
def StoredId.bound : StoredId → ObjectId
  | .id value => value + 1
  | .raw _ => 0

/-- The value of a stored id in the language: object ids print in lower
case. -/
def StoredId.param : StoredId → IdParam
  | .id value => .hex value true
  | .raw (.text value) => .text value
  | .raw (.object operator) => .object ⟨none, operator, false⟩

/-- The operator that the value is in a query. -/
def RawId.operator? : RawId → Option String
  | text _ => none
  | object operator => operator

inductive ConversationType
  | u
  | g
  | c
deriving DecidableEq

/-- The value of `is_encrypted`; the schema also takes the texts `true` and
`false`. -/
inductive EncryptedFlag
  | flag (value : Bool)
  | text (value : Bool)
deriving DecidableEq

/-- The truth value of the parameter in the language. -/
def EncryptedFlag.isTruthy : EncryptedFlag → Bool
  | flag value => value
  | text _ => true

structure ImageObject where
  fileId : Option String
  fileName : Option String
  fileBlurHash : Option String
deriving DecidableEq

/-- The lists of an update, for participants or for admins. -/
structure IdLists where
  add : Option (List IdParam)
  remove : Option (List IdParam)
deriving DecidableEq

/-- The fields that a request writes into a conversation as they are. -/
structure ConversationFields where
  name : Option String
  description : Option String
  imageObject : Option ImageObject
  participants : Option IdLists
deriving DecidableEq

/-- `$set` of the fields that are present. -/
def ConversationFields.set (stored written : ConversationFields) :
    ConversationFields where
  name := written.name <|> stored.name
  description := written.description <|> stored.description
  imageObject := written.imageObject <|> stored.imageObject
  participants := written.participants <|> stored.participants

/-- The number in `subscribers_count`, which a failed request may leave
undefined. -/
inductive SubscribersCount
  | undefined
  | nan
  | int (value : Int)
deriving DecidableEq

namespace SubscribersCount

/-- `added + (count ?? 0)`. -/
def plus (added : Nat) : SubscribersCount → SubscribersCount
  | undefined => int added
  | nan => nan
  | int value => int (added + value)

/-- `count - removed`. -/
def minus (removed : Nat) : SubscribersCount → SubscribersCount
  | undefined => nan
  | nan => nan
  | int value => int (value - removed)

def exceeds (limit : Nat) : SubscribersCount → Bool
  | undefined => false
  | nan => false
  | int value => (limit : Int) < value

end SubscribersCount

structure Conversation where
  organizationId : ObjectId
  type : ConversationType
  ownerId : StoredId
  opponentId : Option StoredId
  isEncrypted : Option EncryptedFlag
  fields : ConversationFields
  subscribersCount : SubscribersCount
deriving DecidableEq

/-- A conversation as the repository returns it. -/
structure ConversationModel where
  id : ObjectId
  params : Conversation
deriving DecidableEq

/-- `conversation.set("subscribers_count", count)`. -/
def ConversationModel.setSubscribersCount (conversation : ConversationModel)
    (count : SubscribersCount) : ConversationModel :=
  { conversation with
    params := { conversation.params with subscribersCount := count } }

inductive ParticipantRole
  | owner
  | admin
deriving DecidableEq

structure Participant where
  conversationId : ObjectId
  userId : StoredId
  role : Option ParticipantRole
deriving DecidableEq

structure User where
  id : ObjectId
  organizationId : ObjectId
deriving DecidableEq

/-- What the database server decides: which document a query for one takes,
what an operator matches and whether it is a known one, and which values it
refuses to store. -/
structure MongoServer where
  pickConversation : Documents.Choice ConversationModel
  pickParticipant : Documents.Choice Participant
  operatorMatches : String → StoredId → Bool
  rejectsOperator : String → Bool
  rejectsFields : ConversationFields → Bool

namespace MongoServer

/-- A server that takes the oldest document and refuses every operator. -/
def oldestFirst : MongoServer :=
  ⟨.oldest, .oldest, fun _ _ => false, fun _ => true, fun _ => false⟩

/-- Whether a stored value matches the value of a query. -/
def matchesId (server : MongoServer) (query : StoredId)
    (stored : StoredId) : Bool :=
  match query with
  | .id _ => query = stored
  | .raw value =>
      match value.operator? with
      | some operator => server.operatorMatches operator stored
      | none => query = stored

/-- Whether the server fails on a query with that value. -/
def rejectsId (server : MongoServer) : StoredId → Bool
  | .id _ => false
  | .raw value => value.operator?.any server.rejectsOperator

@[simp] theorem matchesId_id (server : MongoServer) (id : ObjectId)
    (stored : StoredId) :
    server.matchesId (.id id) stored = decide (StoredId.id id = stored) := rfl

@[simp] theorem rejectsId_id (server : MongoServer) (id : ObjectId) :
    server.rejectsId (.id id) = false := rfl

end MongoServer

/-- The three collections.  Every id that was generated or stored is below
`nextId`. -/
structure ConversationStore where
  users : OrderedMap ObjectId ObjectId
  conversations : OrderedMap ObjectId Conversation
  participants : List Participant
  nextId : ObjectId
  conversations_below : ∀ id ∈ conversations.keys, id < nextId

namespace ConversationStore

def empty : ConversationStore := ⟨.empty, .empty, [], 0, by
  simp [OrderedMap.empty, OrderedMap.keys]⟩

/-! ### Users -/

def createUser (s : ConversationStore) (organizationId : ObjectId) :
    ConversationStore :=
  { s with
    users := s.users.set s.nextId organizationId
    nextId := s.nextId + 1
    conversations_below := fun id hid =>
      Nat.lt_succ_of_lt (s.conversations_below id hid) }

def deleteUser (s : ConversationStore) (id : ObjectId) : ConversationStore :=
  { s with users := s.users.erase id }

def findUserById (s : ConversationStore) (id : ObjectId) : Option User :=
  (s.users.get? id).map (User.mk id)

/-- Whether the look-up of an opponent finds a user. -/
def findOpponent (server : MongoServer) (s : ConversationStore)
    (opponentId : IdParam) : Except ConversationError Bool :=
  match opponentId.queryId? with
  | none => .ok false
  | some query =>
      if server.rejectsId query then .error .databaseError
      else .ok (s.users.keys.any (fun id => server.matchesId query (.id id)))

/-- An operator inside the list makes the query fail. -/
def retrieveExistedIds (s : ConversationStore) (organizationId : ObjectId)
    (userIds : List IdParam) : Except ConversationError (List ObjectId) :=
  if userIds.any (fun param => param.operator?.isSome) then
    .error .databaseError
  else
    .ok ((s.users.entries.filter (fun (id, organization) =>
      organization = organizationId ∧ id ∈ userIds.filterMap IdParam.namedId?
      )).map Prod.fst)

/-! ### Conversations -/

def models (s : ConversationStore) : List ConversationModel :=
  s.conversations.entries.map (fun (id, params) => ⟨id, params⟩)

def findByIdWithOrgScope (server : MongoServer) (s : ConversationStore)
    (organizationId : ObjectId) (conversationId : IdParam) :
    Except ConversationError (Option ConversationModel) :=
  match conversationId.queryId? with
  | none => .ok none
  | some query =>
      if server.rejectsId query then .error .databaseError
      else .ok (server.pickConversation.pick (s.models.filter (fun model =>
        model.params.organizationId = organizationId ∧
          server.matchesId query (.id model.id))))

/-- The filter of the query for a private conversation of two users, in
either order.  It tests whether `is_encrypted` is stored, not its value. -/
def isPrivateBetween (server : MongoServer) (ownerId opponentId : StoredId)
    (isEncrypted : Option EncryptedFlag) (conversation : Conversation) :
    Bool :=
  conversation.type = .u ∧
    conversation.isEncrypted.isSome =
      (isEncrypted.map EncryptedFlag.isTruthy).getD false ∧
    (server.matchesId ownerId conversation.ownerId ∧
        conversation.opponentId.any (server.matchesId opponentId) ∨
      server.matchesId opponentId conversation.ownerId ∧
        conversation.opponentId.any (server.matchesId ownerId))

def findExistedPrivateConversation (server : MongoServer)
    (s : ConversationStore) (ownerId : ObjectId) (opponentId : IdParam)
    (isEncrypted : Option EncryptedFlag) :
    Except ConversationError (Option ConversationModel) :=
  match opponentId.queryId? with
  | none => .ok none
  | some query =>
      if server.rejectsId query then .error .databaseError
      else .ok (server.pickConversation.pick (s.models.filter (fun model =>
        isPrivateBetween server (.id ownerId) query isEncrypted
          model.params)))

/-- The id of the next conversation: it is other than every id stored so far
and than the ids in the document itself. -/
def conversationId (s : ConversationStore) (params : Conversation) :
    ObjectId :=
  max (s.nextId + 1)
    (max params.ownerId.bound ((params.opponentId.map StoredId.bound).getD 0))

def insertConversation (s : ConversationStore) (params : Conversation) :
    ConversationStore :=
  { s with
    conversations := s.conversations.set (s.conversationId params) params
    nextId := s.conversationId params + 1
    conversations_below := by
      have hlater : s.nextId ≤ s.conversationId params :=
        Nat.le_trans (Nat.le_succ s.nextId) (Nat.le_max_left _ _)
      intro id hid
      rcases (OrderedMap.mem_keys_set _ _ _ _).1 hid with rfl | hold
      · exact Nat.lt_succ_self _
      · exact Nat.lt_succ_of_lt
          (Nat.lt_of_lt_of_le (s.conversations_below id hold) hlater) }

def updateConversation (s : ConversationStore) (id : ObjectId)
    (update : Conversation → Conversation) : ConversationStore :=
  { s with
    conversations := s.conversations.modify id update
    conversations_below := fun other hother =>
      s.conversations_below other
        ((s.conversations.mem_keys_modify id other update).1 hother) }

def deleteConversation (s : ConversationStore) (id : ObjectId) :
    ConversationStore :=
  { s with
    conversations := s.conversations.erase id
    conversations_below := by
      intro other hother
      apply s.conversations_below other
      rw [OrderedMap.mem_keys_iff] at hother ⊢
      obtain ⟨params, hparams⟩ := hother
      rw [OrderedMap.get?_erase] at hparams
      split at hparams
      · cases hparams
      · exact ⟨params, hparams⟩ }

/-- `findOneAndUpdate` of the fields, which answers with nothing when the
server refuses them or no document has the id. -/
def updateFields (server : MongoServer) (s : ConversationStore)
    (conversationId : IdParam) (fields : ConversationFields) :
    Option ConversationModel × ConversationStore :=
  match conversationId.queryId? with
  | some (.id id) =>
      if server.rejectsFields fields then (none, s)
      else
        let updated := s.updateConversation id (fun params =>
          { params with fields := params.fields.set fields })
        ((updated.conversations.get? id).map (ConversationModel.mk id),
          updated)
  | _ => (none, s)

/-! ### Participants -/

def rowsOf (s : ConversationStore) (conversationId : ObjectId) :
    List Participant :=
  s.participants.filter (fun row => row.conversationId = conversationId)

def addRow (s : ConversationStore) (row : Participant) : ConversationStore :=
  { s with
    participants := s.participants ++ [row]
    nextId := max (s.nextId + 1) row.userId.bound
    conversations_below := fun id hid =>
      Nat.lt_of_lt_of_le (s.conversations_below id hid)
        (Nat.le_trans (Nat.le_succ _) (Nat.le_max_left _ _)) }

/-- `updateOne` with `$setOnInsert` and `upsert`: the id of the row that was
inserted, if one was. -/
def upsertParticipant (server : MongoServer) (s : ConversationStore)
    (conversationId : ObjectId) (participantId : IdParam)
    (role : Option ParticipantRole) :
    Except ConversationError (Option StoredId) × ConversationStore :=
  let userId := participantId.castObjectId s.nextId
  if server.rejectsId userId then (.error .databaseError, s)
  else if s.participants.any (fun row =>
      row.conversationId = conversationId ∧
        server.matchesId userId row.userId) then (.ok none, s)
  else (.ok (some userId), s.addRow ⟨conversationId, userId, role⟩)

def dropRows (s : ConversationStore) (conversationId : ObjectId)
    (userId : StoredId) : ConversationStore :=
  { s with
    participants := s.participants.filter (fun row =>
      ¬ (row.conversationId = conversationId ∧ row.userId = userId)) }

/-- `deleteMany` of the rows of one user: whether there was one. -/
def deleteParticipant (s : ConversationStore) (conversationId : ObjectId)
    (userId : ObjectId) : Bool × ConversationStore :=
  (s.participants.any (fun row =>
      row.conversationId = conversationId ∧ row.userId = .id userId),
    s.dropRows conversationId (.id userId))

def findFirstConversationParticipant (server : MongoServer)
    (s : ConversationStore) (conversationId : ObjectId)
    (participantId : Option ObjectId) : Option Participant :=
  server.pickParticipant.pick ((s.rowsOf conversationId).filter (fun row =>
    participantId.all (fun id => row.userId = .id id)))

/-- The rows of a list of users get a role. -/
def assignRole (s : ConversationStore) (conversationId : ObjectId)
    (participantIds : List IdParam) (role : Option ParticipantRole) :
    ConversationStore :=
  { s with
    participants := s.participants.map (fun row =>
      if row.conversationId = conversationId ∧
          row.userId ∈ participantIds.filterMap IdParam.queryId? then
        { row with role := role }
      else row) }

/-- `updateMany` of the rows of a list of users. -/
def setRole (s : ConversationStore) (conversationId : ObjectId)
    (participantIds : List IdParam) (role : Option ParticipantRole) :
    Except ConversationError Unit × ConversationStore :=
  if participantIds.any (fun param => param.operator?.isSome) then
    (.error .databaseError, s)
  else (.ok (), s.assignRole conversationId participantIds role)

end ConversationStore

end SamaServer
