/-
The lists of the admins of conversations.  The owners come from the documents
of the conversations as object ids, the admins from an aggregation over the
participants as texts, and the two are put into one set.
-/
import SamaServer.ConversationOperations
import SamaServer.IdentitySets

namespace SamaServer

/-- The value of a stored id in the language.  Every document has objects of
its own. -/
def StoredId.loaded : StoredId → Ref StoredId
  | .id value => .object (.id value)
  | .raw (.text value) => .value (.raw (.text value))
  | .raw (.object operator) => .object (.raw (.object operator))

/-- `$toString` fails on an object. -/
def StoredId.isPrintable : StoredId → Bool
  | .id _ => true
  | .raw (.text _) => true
  | .raw (.object _) => false

namespace ConversationStore

/-- The groups of an aggregation by conversation: the ids of the users, as
texts. -/
def groupByConversation (rows : List Participant) :
    OrderedMap ObjectId (List (Ref StoredId)) :=
  rows.foldl (fun groups row => groups.set row.conversationId
    (groups.members row.conversationId ++ [.value row.userId])) .empty

def findConversationsParticipants (s : ConversationStore)
    (conversationIds : List ObjectId) (role : Option ParticipantRole) :
    Except ConversationError (OrderedMap ObjectId (List (Ref StoredId))) :=
  let rows := s.participants.filter (fun row =>
    row.conversationId ∈ conversationIds ∧
      role.all (fun role => row.role = some role))
  if rows.all (fun row => row.userId.isPrintable) then
    .ok (groupByConversation rows)
  else .error .databaseError

/-- The limit of `findAll`. -/
def defaultLimit : Nat := 100

def findByIdsWithOrgScope (s : ConversationStore) (organizationId : ObjectId)
    (conversationIds : List IdParam) :
    Except ConversationError (List ConversationModel) :=
  if conversationIds.any (fun param => param.operator?.isSome) then
    .error .databaseError
  else
    .ok ((s.models.filter (fun model =>
      model.params.organizationId = organizationId ∧
        model.id ∈ conversationIds.filterMap IdParam.namedId?)).take
      defaultLimit)

/-- The conversations of a list in which the user has a row with the role. -/
def filterAvailableConversationIds (s : ConversationStore)
    (conversationIds : List ObjectId) (participantId : ObjectId)
    (role : Option ParticipantRole) : List ObjectId :=
  ((s.participants.filter (fun row =>
    row.conversationId ∈ conversationIds ∧ row.userId = .id participantId ∧
      role.all (fun role => row.role = some role))).take defaultLimit).map
    Participant.conversationId

end ConversationStore

/-- The answer to a request for admins, without the fields of the users. -/
structure AdminLists where
  adminIds : List (Ref StoredId)
  adminIdsByCids : OrderedMap ObjectId (List (Ref StoredId))

namespace ConversationService

/-- The keys of the second map are those without an owner in the first. -/
def joinAdmins (conversationsOwnersIds conversationsAdminsIds :
    OrderedMap ObjectId (List (Ref StoredId))) :
    OrderedMap ObjectId (List (Ref StoredId)) :=
  let joined := conversationsOwnersIds.keys.foldl (fun lists id =>
    lists.modify id (fun ids => ids ++ conversationsAdminsIds.members id))
    conversationsOwnersIds
  let left := conversationsOwnersIds.keys.foldl OrderedMap.erase
    conversationsAdminsIds
  left.entries.foldl (fun lists entry => lists.set entry.1 entry.2) joined

def ownersOf (conversations : List ConversationModel) :
    OrderedMap ObjectId (List (Ref StoredId)) :=
  conversations.foldl (fun lists conversation =>
    lists.set conversation.id [conversation.params.ownerId.loaded]) .empty

def findConversationsAdminIds (conversations : List ConversationModel)
    (s : ConversationStore) : Except ConversationError AdminLists := do
  let conversationsAdminsIds ← s.findConversationsParticipants
    (conversations.map ConversationModel.id) (some .admin)
  let adminIdsByCids := joinAdmins (ownersOf conversations)
    conversationsAdminsIds
  pure ⟨Ref.setOf (adminIdsByCids.entries.flatMap Prod.snd), adminIdsByCids⟩

/-- The conversations of the owner first, and then those of an admin. -/
def validateConvIdsWhichUserHasAccessAsAdmin (session : ConversationSession)
    (conversationIds : List IdParam) (s : ConversationStore) :
    Except ConversationError (List ConversationModel) := do
  let conversations ← s.findByIdsWithOrgScope session.organizationId
    conversationIds
  let asOwner := conversations.filter (fun conversation =>
    conversation.params.ownerId = .id session.userId)
  let left := conversations.filter (fun conversation =>
    conversation.params.ownerId ≠ .id session.userId)
  let verifiedConversationIds := s.filterAvailableConversationIds
    (left.map ConversationModel.id) session.userId (some .admin)
  pure (asOwner ++ left.filter (fun conversation =>
    conversation.id ∈ verifiedConversationIds))

end ConversationService

/-- `get_admins_by_cids`, up to the users that are loaded for the ids. -/
def ConversationOperations.listAdmins (session : ConversationSession)
    (cids : List IdParam) (s : ConversationStore) :
    Except ConversationError AdminLists := do
  let conversations ←
    ConversationService.validateConvIdsWhichUserHasAccessAsAdmin session cids
      s
  if conversations = [] then pure ⟨[], .empty⟩
  else ConversationService.findConversationsAdminIds conversations s

end SamaServer
