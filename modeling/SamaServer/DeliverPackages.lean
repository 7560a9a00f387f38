/-
The deliver messages that the controllers hand over, with the setters they are
built with, and the users whom the processor of a packet sends each of them
to.
-/
import SamaServer.MessageControllers
import SamaServer.Pages
import SamaServer.ParticipantRows

namespace SamaServer

/-- The first argument of a deliver message: the organization, or the list
with the receiver that stands there in the report of a failed decryption. -/
inductive OrgArgument
  | organization (id : Option ObjectId)
  | receivers (userIds : List (Option StoredId))
deriving DecidableEq

inductive PackagePacket
  | response (packet : ResponsePacket)
  | decryptionFailed (cid : TextId) (ids : List ObjectId) (sender : ObjectId)
deriving DecidableEq

/-- The class `DeliverMessage` without the socket and the push notification.
An id that is missing in the database stays in its list. -/
structure DeliverPackage where
  orgId : OrgArgument
  userIds : Option (List (Option StoredId))
  ignoreSelf : Bool
  cId : Option TextId
  exceptUserIds : List StoredId
  packet : PackagePacket
  notSaveInOfflineStorage : Bool
deriving DecidableEq

namespace DeliverPackage

/-- The constructor. -/
def new (orgId : OrgArgument) (packet : PackagePacket)
    (notSaveInOfflineStorage : Bool) : DeliverPackage :=
  ⟨orgId, some [], true, none, [], packet, notSaveInOfflineStorage⟩

def setUsersDestination (userIds : Option (List (Option StoredId)))
    (exceptUserIds : Option (List StoredId)) (package : DeliverPackage) :
    DeliverPackage :=
  { package with
    userIds := userIds
    exceptUserIds := exceptUserIds.getD package.exceptUserIds }

def setConversationDestination (cId : Option TextId)
    (exceptUserIds : Option (List StoredId)) (package : DeliverPackage) :
    DeliverPackage :=
  { package with
    cId := cId
    exceptUserIds := exceptUserIds.getD package.exceptUserIds }

/-- How the controller of the messages builds the message of a result. -/
def ofMessage (message : DeliverMessage) : DeliverPackage :=
  ((new (.organization message.orgId) (.response message.packet)
    message.notSaveInOfflineStorage).setConversationDestination message.cId
      none).setUsersDestination (message.userIds.map (List.map some)) none

end DeliverPackage

/-! ### The participants of a conversation in batches -/

namespace ConversationStore

/-- The rows that the iterator goes through; a text that is no id finds none.
Rows are only appended, so their positions are in the order of their ids. -/
def participantsExcept (s : ConversationStore) (conversationId : TextId)
    (exceptUserIds : List StoredId) : List (Participant × Nat) :=
  match conversationId with
  | .hex id _ => s.participants.zipIdx.filter (fun (row, _) =>
      row.conversationId = id ∧ row.userId ∉ exceptUserIds)
  | .other _ => []

/-- `conversationParticipantIdsIterator`, run to its end: the rows are counted
and then read from the newest one down. -/
def conversationParticipantIdsIterator (s : ConversationStore)
    (conversationId : TextId) (exceptUserIds : List StoredId)
    (batchSize : Nat) : List (List StoredId) :=
  let participants := s.participantsExcept conversationId exceptUserIds
  let totalBatches := (participants.length + batchSize - 1) / batchSize
  (Pages.batches Prod.snd batchSize participants none totalBatches).map
    (List.map (fun (row, _) => row.userId))

theorem participantsExcept_positions (s : ConversationStore)
    (conversationId : TextId) (exceptUserIds : List StoredId) :
    ((s.participantsExcept conversationId exceptUserIds).map
      Prod.snd).Nodup := by
  cases conversationId with
  | hex id isLowerCase =>
      refine List.Nodup.sublist (List.filter_sublist.map Prod.snd) ?_
      rw [List.zipIdx_map_snd]
      exact List.nodup_range'
  | other value => exact List.nodup_nil

/-- The batches together have the users of all rows. -/
theorem flatten_iterator_perm (s : ConversationStore)
    (conversationId : TextId) (exceptUserIds : List StoredId)
    {batchSize : Nat} (hbatch : 0 < batchSize) :
    (s.conversationParticipantIdsIterator conversationId exceptUserIds
      batchSize).flatten.Perm
      ((s.participantsExcept conversationId exceptUserIds).map
        (fun (row, _) => row.userId)) := by
  have hcount : ∀ pages, (Pages.belowCursor Prod.snd none
      (s.participantsExcept conversationId exceptUserIds)).length ≤
        pages * batchSize ↔
      ((s.participantsExcept conversationId exceptUserIds).length +
        batchSize - 1) / batchSize ≤ pages := by
    intro pages
    rw [← Nat.ceilDiv_eq_add_pred_div, ceilDiv_le_iff_le_mul hbatch,
      Nat.mul_comm]
    rfl
  rw [conversationParticipantIdsIterator, ← List.map_flatten,
    Pages.flatten_batches
      (s.participantsExcept_positions conversationId exceptUserIds) hbatch
      hcount]
  exact (Pages.descending_perm _ _).map _

/-- Without an exception the iterator yields the users with a row. -/
theorem mem_flatten_iterator (s : ConversationStore) (id : ObjectId)
    (isLowerCase : Bool) {batchSize : Nat} (hbatch : 0 < batchSize)
    (userId : StoredId) :
    userId ∈ (s.conversationParticipantIdsIterator (.hex id isLowerCase) []
      batchSize).flatten ↔ userId ∈ s.userIdsOf id := by
  have hrows : s.rowsOf id =
      (s.participantsExcept (.hex id isLowerCase) []).map Prod.fst := by
    rw [rowsOf, ← List.zipIdx_map_fst 0 s.participants, List.filter_map]
    refine congrArg (List.map Prod.fst) (List.filter_congr ?_)
    rintro ⟨row, position⟩ _
    simp
  rw [(s.flatten_iterator_perm _ _ hbatch).mem_iff, userIdsOf, hrows,
    List.map_map]
  rfl

end ConversationStore

/-! ### The processor of a packet -/

/-- The batch size that the iterator has by default. -/
def participantsBatchSize : Nat := 100

/-- `processDeliverConversationMessage`: an empty batch is passed over. -/
def processDeliverConversationMessage (s : ConversationStore) (cId : TextId)
    (exceptUserIds : List StoredId) : List (List (Option StoredId)) :=
  ((s.conversationParticipantIdsIterator cId exceptUserIds
    participantsBatchSize).filter (fun participantIds =>
      participantIds ≠ [])).map (List.map some)

namespace DeliverPackage

/-- The lists of users that a package is delivered to, one for each call of
`processDeliverUserMessage`: its own users if it names any, or else the
participants of its conversation. -/
def destinationUserIds (s : ConversationStore) (package : DeliverPackage) :
    List (List (Option StoredId)) :=
  match package.userIds with
  | some (userId :: userIds) => [userId :: userIds]
  | _ =>
      match presentCid package.cId with
      | some cId =>
          processDeliverConversationMessage s cId package.exceptUserIds
      | none => []

/-- A user is among the destinations of a package. -/
def IsSentTo (s : ConversationStore) (package : DeliverPackage)
    (userId : StoredId) : Prop :=
  ∃ userIds ∈ package.destinationUserIds s, some userId ∈ userIds

/-- `processDeliverResponse`: the calls that it makes. -/
def processDeliverResponse (s : ConversationStore)
    (deliverPackages : List DeliverPackage) :
    List (DeliverPackage × List (Option StoredId)) :=
  deliverPackages.flatMap (fun package =>
    (package.destinationUserIds s).map (fun userIds => (package, userIds)))

variable {s : ConversationStore} {package : DeliverPackage}

/-- The calls of the processor are made to the destinations. -/
theorem mem_processDeliverResponse {deliverPackages : List DeliverPackage}
    {userIds : List (Option StoredId)} :
    (package, userIds) ∈ processDeliverResponse s deliverPackages ↔
      package ∈ deliverPackages ∧ userIds ∈ package.destinationUserIds s := by
  simp [processDeliverResponse]

/-- A list of users stands before the conversation. -/
theorem isSentTo_users {userIds : List (Option StoredId)}
    (husers : package.userIds = some userIds) (hne : userIds ≠ [])
    (userId : StoredId) :
    package.IsSentTo s userId ↔ some userId ∈ userIds := by
  obtain ⟨first, rest, rfl⟩ := List.exists_cons_of_ne_nil hne
  simp [IsSentTo, destinationUserIds, husers]

/-- Without a list of users the participants are the destination. -/
theorem isSentTo_conversation {id : ObjectId} {isLowerCase : Bool}
    (husers : package.userIds = none)
    (hcid : package.cId = some (.hex id isLowerCase))
    (hexcept : package.exceptUserIds = []) (userId : StoredId) :
    package.IsSentTo s userId ↔ userId ∈ s.userIdsOf id := by
  have hmem := s.mem_flatten_iterator id isLowerCase
    (show 0 < participantsBatchSize by decide) userId
  rw [← hmem, List.mem_flatten]
  rw [IsSentTo, destinationUserIds, husers, hcid, hexcept]
  change (∃ userIds ∈ processDeliverConversationMessage s
    (.hex id isLowerCase) [], some userId ∈ userIds) ↔ _
  rw [processDeliverConversationMessage]
  constructor
  · rintro ⟨_, hids, huser⟩
    obtain ⟨batch, hbatch, rfl⟩ := List.mem_map.1 hids
    exact ⟨batch, List.mem_of_mem_filter hbatch, by simpa using huser⟩
  · rintro ⟨batch, hbatch, huser⟩
    have hne : batch ≠ [] := List.ne_nil_of_mem huser
    exact ⟨batch.map some, List.mem_map_of_mem
      (List.mem_filter.2 ⟨hbatch, by simpa using hne⟩),
      List.mem_map_of_mem huser⟩

/-- The processor goes to the destination of the message. -/
theorem destinationUserIds_ofMessage (s : ConversationStore)
    (message : DeliverMessage) :
    (ofMessage message).destinationUserIds s =
      match message.destination with
      | some (.users userIds) => [userIds.map some]
      | some (.conversation cId) => processDeliverConversationMessage s cId []
      | none => [] := by
  obtain ⟨orgId, packet, notSave, userIds, cId⟩ := message
  match userIds with
  | some (userId :: userIds) => rfl
  | none =>
      cases hcid : presentCid cId <;>
        simp [destinationUserIds, DeliverMessage.destination, ofMessage, new,
          setUsersDestination, setConversationDestination, hcid]
  | some [] =>
      cases hcid : presentCid cId <;>
        simp [destinationUserIds, DeliverMessage.destination, ofMessage, new,
          setUsersDestination, setConversationDestination, hcid]

/-- A package that names neither users nor a conversation. -/
theorem isSentTo_nobody (husers : package.userIds = some [])
    (hcid : package.cId = none) (userId : StoredId) :
    ¬ package.IsSentTo s userId := by
  simp [IsSentTo, destinationUserIds, husers, hcid, presentCid]

end DeliverPackage

end SamaServer
