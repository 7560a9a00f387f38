/-
What a request may rely on after a read: programs that only read leave the
store as it is, and a conversation that they return is stored under its id.
-/
import SamaServer.ConversationOperations

namespace SamaServer

namespace ConversationService

open ConversationStore Fallible

variable (config : ConversationConfig)

@[simp] theorem exec_query {A : Type} (held : HeldConversation)
    (answer : ConversationStore → Except ConversationError A)
    (s : ConversationStore) : (query held answer).exec s = (answer s, s) := rfl

@[simp] theorem exec_query_bind {A B : Type} (held : HeldConversation)
    (answer : ConversationStore → Except ConversationError A)
    (rest : A → ConversationProgram B) (s : ConversationStore) :
    (query held answer >>= rest).exec s =
      match answer s with
      | .ok result => (rest result).exec s
      | .error error => (.error error, s) := by
  rw [query, exec_command_bind]
  cases answer s <;> rfl

@[simp] theorem exec_fail {A : Type} (status : ErrorStatus)
    (s : ConversationStore) :
    (fail status : ConversationProgram A).exec s =
      (.error (.cause status), s) := rfl

/-! ### Programs that only read -/

theorem readOnly_query {A : Type} (held : HeldConversation)
    (answer : ConversationStore → Except ConversationError A) :
    (query held answer).ReadOnly := fun _ => rfl

theorem readOnly_fail {A : Type} (status : ErrorStatus) :
    (fail status : ConversationProgram A).ReadOnly := fun _ => rfl

theorem readOnly_addImageUrl (conversation : ConversationModel) :
    (addImageUrl config conversation).ReadOnly := by
  unfold addImageUrl
  split
  · exact readOnly_pure _
  · split
    · exact readOnly_pure _
    · exact readOnly_throw _

theorem readOnly_hasAccessToConversation (session : ConversationSession)
    (conversationId : IdParam) (isHeld : Bool) :
    (hasAccessToConversation config session conversationId
      isHeld).ReadOnly := by
  refine readOnly_bind (readOnly_query _ _) (fun found => ?_)
  cases found with
  | none => exact readOnly_pure _
  | some conversation =>
      exact readOnly_bind (readOnly_query _ _) (fun _ => readOnly_pure _)

theorem readOnly_existedIds (held : HeldConversation)
    (organizationId : ObjectId) (ids : Option (List IdParam)) :
    (ConversationOperations.existedIds held organizationId ids).ReadOnly := by
  unfold ConversationOperations.existedIds
  split
  · exact readOnly_query _ _
  · exact readOnly_pure _

theorem readOnly_createUserEvent (session : ConversationSession) :
    (ConversationOperations.createUserEvent config session).ReadOnly := by
  unfold ConversationOperations.createUserEvent
  split
  · exact readOnly_query _ _
  · exact readOnly_pure _

theorem readOnly_retrieveConversation (session : ConversationSession)
    (conversationId : Option IdParam) :
    (ConversationOperations.retrieveConversation config session
      conversationId).ReadOnly := by
  refine readOnly_bind (readOnly_query _ _) (fun found => ?_)
  cases found with
  | none => exact readOnly_fail _
  | some conversation =>
      dsimp only
      split
      · exact readOnly_fail _
      · exact readOnly_pure _

theorem readOnly_validatePrivateConversationParticipant
    (session : ConversationSession) (opponentId : Option IdParam)
    (participantIds : List ObjectId) :
    (ConversationOperations.validatePrivateConversationParticipant config
      session opponentId participantIds).ReadOnly := by
  unfold ConversationOperations.validatePrivateConversationParticipant
  split
  · exact readOnly_fail _
  · split
    · exact readOnly_throw _
    · refine readOnly_bind (readOnly_ofExcept _) (fun isOwner => ?_)
      split
      · exact readOnly_fail _
      · exact readOnly_bind (readOnly_query _ _) (fun _ => readOnly_pure _)

theorem readOnly_editEvents (session : ConversationSession)
    (conversation : ConversationModel) (params : UpdateParams)
    (addedIds : List StoredId) (removedIds : List ObjectId) :
    (ConversationOperations.editEvents config session conversation params
      addedIds removedIds).ReadOnly := by
  unfold ConversationOperations.editEvents
  split
  · exact readOnly_bind (readOnly_addImageUrl config conversation)
      (fun _ => readOnly_query _ _)
  · exact readOnly_pure _

end ConversationService

namespace ConversationStore

open Fallible ConversationService

variable {s t : ConversationStore}

/-! ### What the answers say -/

/-- The user of a session who is found is that user. -/
theorem id_of_findUserById {id : ObjectId} {user : User}
    (hfound : s.findUserById id = some user) : user.id = id := by
  rw [findUserById, Option.map_eq_some_iff] at hfound
  obtain ⟨organization, _, rfl⟩ := hfound
  rfl

theorem mem_users_of_findUserById {id : ObjectId} {user : User}
    (hfound : s.findUserById id = some user) : user.id ∈ s.users.keys := by
  rw [findUserById, Option.map_eq_some_iff] at hfound
  obtain ⟨organization, hget, rfl⟩ := hfound
  exact (s.users.mem_keys_iff id).2 ⟨organization, hget⟩

/-- A document that a query returns is stored. -/
theorem mem_models {model : ConversationModel} :
    model ∈ s.models ↔
      s.conversations.get? model.id = some model.params := by
  rw [← OrderedMap.mem_entries_iff, models, List.mem_map]
  constructor
  · rintro ⟨⟨id, params⟩, hentry, rfl⟩
    exact hentry
  · exact fun hentry => ⟨(model.id, model.params), hentry, rfl⟩

theorem get?_of_pick {choice : Documents.Choice ConversationModel}
    {filter : ConversationModel → Bool} {model : ConversationModel}
    (hpick : choice.pick (s.models.filter filter) = some model) :
    s.conversations.get? model.id = some model.params ∧
      filter model = true := by
  obtain ⟨hmodel, hfilter⟩ := List.mem_filter.1 (choice.mem _ _ hpick)
  exact ⟨mem_models.1 hmodel, hfilter⟩

theorem get?_of_findByIdWithOrgScope {server : MongoServer}
    {organizationId : ObjectId} {conversationId : IdParam}
    {model : ConversationModel}
    (hfound : s.findByIdWithOrgScope server organizationId conversationId =
      .ok (some model)) :
    s.conversations.get? model.id = some model.params := by
  rw [findByIdWithOrgScope] at hfound
  split at hfound
  · cases hfound
  · split at hfound
    · cases hfound
    · exact (get?_of_pick (Except.ok.inj hfound)).1

theorem get?_of_findExistedPrivateConversation {server : MongoServer}
    {ownerId : ObjectId} {opponentId : IdParam}
    {isEncrypted : Option EncryptedFlag} {model : ConversationModel}
    (hfound : s.findExistedPrivateConversation server ownerId opponentId
      isEncrypted = .ok (some model)) :
    s.conversations.get? model.id = some model.params ∧
      model.params.type = .u := by
  rw [findExistedPrivateConversation] at hfound
  split at hfound
  · cases hfound
  · split at hfound
    · cases hfound
    · obtain ⟨hget, hprivate⟩ := get?_of_pick (Except.ok.inj hfound)
      rw [isPrivateBetween, decide_eq_true_eq] at hprivate
      exact ⟨hget, hprivate.1⟩

/-- The conversation of an access is the one that is stored. -/
theorem get?_of_hasAccessToConversation {config : ConversationConfig}
    {session : ConversationSession} {conversationId : IdParam}
    {isHeld : Bool} {access : ConversationAccess}
    (haccess : (hasAccessToConversation config session conversationId
      isHeld).exec s = (.ok (some access), t)) :
    s.conversations.get? access.conversation.id =
      some access.conversation.params := by
  rw [hasAccessToConversation, exec_query_bind] at haccess
  split at haccess
  · next found hfound =>
      cases found with
      | none => cases haccess
      | some conversation =>
          cases haccess
          exact get?_of_findByIdWithOrgScope hfound
  · cases haccess

theorem get?_of_retrieveConversation {config : ConversationConfig}
    {session : ConversationSession} {conversationId : Option IdParam}
    {conversation : ConversationModel}
    (hretrieve : (ConversationOperations.retrieveConversation config session
      conversationId).exec s = (.ok conversation, t)) :
    s.conversations.get? conversation.id = some conversation.params ∧
      conversation.params.type = .c := by
  rw [ConversationOperations.retrieveConversation, exec_query_bind]
    at hretrieve
  cases conversationId with
  | none => cases hretrieve
  | some conversationId =>
      dsimp only at hretrieve
      split at hretrieve
      · next found hfound =>
          cases found with
          | none => cases hretrieve
          | some found =>
              dsimp only at hretrieve
              split at hretrieve
              · cases hretrieve
              · next hchannel =>
                  cases hretrieve
                  exact ⟨get?_of_findByIdWithOrgScope hfound,
                    not_not.1 hchannel⟩
      · cases hretrieve

end ConversationStore

end SamaServer
