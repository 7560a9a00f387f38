/-
The steps of the requests on conversations.  All writes of the service are of
a few kinds, and those of one request concern one conversation; what holds of
these kinds holds of every step, whatever other requests do in between.
-/
import SamaServer.Membership

namespace SamaServer

namespace ConversationStore

open Fallible ConversationService

variable {config : ConversationConfig} {session : ConversationSession}
  {G : ConversationStore → ConversationStore → Prop} {c : ObjectId}

/-- A relation that holds between the stores before and after every write that
concerns one conversation. -/
structure WritesAt (c : ObjectId)
    (G : ConversationStore → ConversationStore → Prop) : Prop where
  refl : ∀ s, G s s
  addRow : ∀ s userId role, G s (s.addRow ⟨c, userId, role⟩)
  dropRows : ∀ s userId, G s (s.dropRows c userId)
  updateConversation : ∀ s update, G s (s.updateConversation c update)
  deleteConversation : ∀ s, G s (s.deleteConversation c)
  assignRole : ∀ s participantIds role,
    G s (s.assignRole c participantIds role)

theorem guarantees_query {A : Type} (hrefl : ∀ s, G s s)
    (held : HeldConversation)
    (answer : ConversationStore → Except ConversationError A) :
    (query held answer).Guarantees G :=
  guarantees_command hrefl

theorem WritesAt.upsertParticipant (hwrites : WritesAt c G)
    (server : MongoServer) (s : ConversationStore) (participantId : IdParam)
    (role : Option ParticipantRole) :
    G s (s.upsertParticipant server c participantId role).2 := by
  rcases upsertParticipant_cases server s c participantId role with
    hresult | hresult | hresult
  · rw [hresult]
    exact hwrites.refl s
  · rw [hresult]
    exact hwrites.refl s
  · rw [hresult]
    exact hwrites.addRow s _ role

theorem guarantees_addNoExistedParticipants (hwrites : WritesAt c G)
    (held : HeldConversation)
    (participantsParams : List (IdParam × Option ParticipantRole)) :
    (addNoExistedParticipants config held c
      participantsParams).Guarantees G := by
  induction participantsParams with
  | nil => exact guarantees_pure _
  | cons participant participantsParams ih =>
      refine guarantees_bind (guarantees_command (fun s =>
        hwrites.upsertParticipant config.server s participant.1
          participant.2)) (fun _ => ?_)
      exact guarantees_bind ih (fun _ => guarantees_pure _)

theorem guarantees_removeExistedParticipants (hwrites : WritesAt c G)
    (held : HeldConversation) (participantIds : List ObjectId) :
    (removeExistedParticipants held c participantIds).Guarantees G := by
  induction participantIds with
  | nil => exact guarantees_pure _
  | cons participantId participantIds ih =>
      refine guarantees_bind (guarantees_command (fun s =>
        hwrites.dropRows s (.id participantId))) (fun _ => ?_)
      exact guarantees_bind ih (fun _ => guarantees_pure _)

theorem guarantees_updateSubscribersCount (hwrites : WritesAt c G)
    (held : HeldConversation) (count : SubscribersCount) :
    (updateSubscribersCount held c count).Guarantees G :=
  guarantees_command (fun s => hwrites.updateConversation s _)

theorem guarantees_currentParticipantsCount (hrefl : ∀ s, G s s)
    (conversation : ConversationModel) (isEmpty : Bool) :
    (currentParticipantsCount conversation isEmpty).Guarantees G := by
  rw [currentParticipantsCount]
  split
  · exact guarantees_pure _
  · split
    · exact guarantees_pure _
    · exact guarantees_query hrefl _ _

theorem guarantees_addParticipants {conversation : ConversationModel}
    (hwrites : WritesAt conversation.id G) (participantIds : List IdParam)
    (isEmpty : Bool) :
    (addParticipants config conversation participantIds
      isEmpty).Guarantees G := by
  refine guarantees_bind (guarantees_currentParticipantsCount hwrites.refl
    conversation isEmpty) (fun currentCount => ?_)
  split
  · exact guarantees_throw _
  · refine guarantees_bind (guarantees_ofExcept _) (fun _ => ?_)
    refine guarantees_bind (guarantees_addNoExistedParticipants hwrites _ _)
      (fun _ => ?_)
    split
    · exact guarantees_bind (guarantees_updateSubscribersCount hwrites _ _)
        (fun _ => guarantees_pure _)
    · exact guarantees_pure _

/-- The conversation that the caller goes on with. -/
theorem returns_addParticipants (conversation : ConversationModel)
    (participantIds : List IdParam) (isEmpty : Bool) :
    (addParticipants config conversation participantIds isEmpty).Returns
      (fun result => result.2.id = conversation.id) := by
  refine returns_bind _ (fun _ => ?_)
  split
  · exact returns_throw _
  · refine returns_bind _ (fun _ => returns_bind _ (fun _ => ?_))
    split
    · exact returns_bind _ (fun _ => returns_pure rfl)
    · exact returns_pure rfl

theorem guarantees_removeParticipants {conversation : ConversationModel}
    (hwrites : WritesAt conversation.id G) (participantIds : List ObjectId) :
    (removeParticipants config conversation
      participantIds).Guarantees G := by
  refine guarantees_bind (guarantees_removeExistedParticipants hwrites _ _)
    (fun removedIds => ?_)
  refine guarantees_bind (guarantees_query hwrites.refl _ _)
    (fun first => ?_)
  cases first with
  | none =>
      exact guarantees_bind (guarantees_command (fun s =>
        hwrites.deleteConversation s)) (fun _ => guarantees_pure _)
  | some row =>
      refine guarantees_bind ?_ (fun _ => guarantees_bind ?_
        (fun _ => guarantees_pure _))
      · rw [updateRemovedOwner]
        split
        · exact guarantees_bind (guarantees_command (fun s =>
            hwrites.updateConversation s _)) (fun _ => guarantees_pure _)
        · exact guarantees_pure _
      · rw [updateRemovedCount]
        split
        · exact guarantees_updateSubscribersCount hwrites _ _
        · exact guarantees_pure _

theorem guarantees_updateParticipants {conversation : ConversationModel}
    (hwrites : WritesAt conversation.id G) (addIds : List IdParam)
    (removeIds : List ObjectId) :
    (updateParticipants config conversation addIds
      removeIds).Guarantees G := by
  refine guarantees_bind_returns
    (guarantees_addParticipants hwrites addIds false)
    (returns_addParticipants conversation addIds false) ?_
  rintro ⟨addedIds, updated⟩ hid
  rw [← hid] at hwrites
  exact guarantees_bind (guarantees_removeParticipants hwrites removeIds)
    (fun _ => guarantees_pure _)

/-! ### Update -/

theorem guarantees_existedIds (hrefl : ∀ s, G s s) (held : HeldConversation)
    (organizationId : ObjectId) (ids : Option (List IdParam)) :
    (ConversationOperations.existedIds held organizationId
      ids).Guarantees G := by
  rw [ConversationOperations.existedIds]
  split
  · exact guarantees_query hrefl _ _
  · exact guarantees_pure _

theorem guarantees_editParticipants {conversation : ConversationModel}
    (hwrites : WritesAt conversation.id G) (params : UpdateParams)
    (adminsToAdd : List ObjectId) :
    (ConversationOperations.editParticipants config conversation params
      adminsToAdd).Guarantees G := by
  rw [ConversationOperations.editParticipants]
  split
  · refine guarantees_bind (guarantees_existedIds hwrites.refl _ _ _)
      (fun _ => ?_)
    refine guarantees_bind (guarantees_existedIds hwrites.refl _ _ _)
      (fun _ => ?_)
    exact guarantees_updateParticipants hwrites _ _
  · exact guarantees_pure _

theorem guarantees_updateRoles (hrefl : ∀ s, G s s)
    (hassign : ∀ s participantIds role,
      G s (s.assignRole c participantIds role))
    (ids : Option (List IdParam)) (role : Option ParticipantRole) :
    (ConversationOperations.updateRoles c ids role).Guarantees G := by
  rw [ConversationOperations.updateRoles]
  split
  · refine guarantees_command (fun s => ?_)
    rw [setRole]
    split
    · exact hrefl s
    · exact hassign s _ role
  · exact guarantees_pure _

theorem guarantees_addImageUrl (conversation : ConversationModel) :
    (addImageUrl config conversation).Guarantees G := by
  rw [addImageUrl]
  split
  · exact guarantees_pure _
  · split
    · exact guarantees_pure _
    · exact guarantees_throw _

theorem guarantees_editEvents (hrefl : ∀ s, G s s)
    (conversation : ConversationModel) (params : UpdateParams)
    (addedIds : List StoredId) (removedIds : List ObjectId) :
    (ConversationOperations.editEvents config session conversation params
      addedIds removedIds).Guarantees G := by
  rw [ConversationOperations.editEvents]
  split
  · exact guarantees_bind (guarantees_addImageUrl conversation)
      (fun _ => guarantees_query hrefl _ _)
  · exact guarantees_pure _

theorem guarantees_editShared {conversation : ConversationModel}
    (hwrites : WritesAt conversation.id G) (params : UpdateParams) :
    (ConversationOperations.editShared config session conversation
      params).Guarantees G := by
  refine guarantees_bind (guarantees_existedIds hwrites.refl _ _ _)
    (fun adminsToAdd => ?_)
  refine guarantees_bind (guarantees_editParticipants hwrites _ _) ?_
  rintro ⟨addedIds, removeResult⟩
  dsimp only
  split
  · exact guarantees_pure _
  · refine guarantees_bind ?_ (fun _ =>
      guarantees_editEvents hwrites.refl _ _ _ _)
    exact guarantees_bind
      (guarantees_updateRoles hwrites.refl hwrites.assignRole _ _)
      (fun _ => guarantees_updateRoles hwrites.refl hwrites.assignRole _ _)

theorem guarantees_hasAccessToConversation (hrefl : ∀ s, G s s)
    (conversationId : IdParam) (isHeld : Bool) :
    (hasAccessToConversation config session conversationId
      isHeld).Guarantees G := by
  refine guarantees_bind (guarantees_query hrefl _ _) (fun found => ?_)
  cases found with
  | none => exact guarantees_pure _
  | some conversation =>
      exact guarantees_bind (guarantees_query hrefl _ _)
        (fun _ => guarantees_pure _)

end ConversationStore

end SamaServer
