/-
The requests on conversations with their events refine the requests on the
conversations alone: whatever messages are written for the events, the
conversations and the errors are the same.
-/
import SamaServer.ConversationNotifications
import SamaServer.Refinements
import SamaServer.SharedRequests

namespace SamaServer

namespace ConversationResults

open Fallible MessageOperations ConversationService

variable (config : ChatConfig) (displayName : User → String)
  (session : ApiSession)

/-- A request of the conversation service is seen as it is. -/
theorem refines_onConversations {A : Type}
    (program : ConversationProgram A) :
    Refines ChatStore.conversations id (onConversations program) program := by
  intro chat
  rcases hexec : program.exec chat.conversations with ⟨outcome, after⟩
  rw [exec_onConversations hexec]
  cases outcome <;> rfl

/-- The program leaves the conversations alone.  It succeeds if a condition on
them holds, and throws otherwise. -/
def Asks {A : Type} (condition : ConversationStore → Prop)
    (program : ChatProgram A) : Prop :=
  ∀ chat, (program.exec chat).2.conversations = chat.conversations ∧
    (condition chat.conversations ∧
        (∃ result, (program.exec chat).1 = .ok result) ∨
      ¬ condition chat.conversations ∧
        (program.exec chat).1 = .error .typeError)

section Asks

variable {A B : Type} {P Q : ConversationStore → Prop}
  {program : ChatProgram A} {rest : A → ChatProgram B}

theorem asks_pure (result : A) :
    Asks (fun _ => True) (pure result : ChatProgram A) :=
  fun _ => ⟨rfl, Or.inl ⟨trivial, result, rfl⟩⟩

theorem asks_requireUser (user : Option User) :
    Asks (fun _ => user.isSome = true) (requireUser user) := by
  intro chat
  cases user with
  | none => exact ⟨rfl, Or.inr ⟨Bool.false_ne_true, rfl⟩⟩
  | some user => exact ⟨rfl, Or.inl ⟨rfl, user, rfl⟩⟩

theorem asks_createMessage (conversation : ConversationModel) (user : User)
    (body : Option String) (deletedFor : List IdParam) :
    Asks (fun _ => True) (MessageResults.createMessage conversation user body
      deletedFor) :=
  fun _ => ⟨rfl, Or.inl ⟨trivial, _, rfl⟩⟩

theorem Asks.bind (hprogram : Asks P program)
    (hrest : ∀ result, Asks Q (rest result)) :
    Asks (fun s => P s ∧ Q s) (program >>= rest) := by
  intro chat
  obtain ⟨hsame, hcases⟩ := hprogram chat
  rcases hexec : program.exec chat with ⟨outcome, after⟩
  rw [hexec] at hsame hcases
  dsimp only at hsame hcases
  rcases hcases with ⟨hholds, result, rfl⟩ | ⟨hnot, rfl⟩
  · obtain ⟨hlast, hcases⟩ := hrest result after
    rw [exec_bind_ok hexec, hlast, hsame]
    rw [hsame] at hcases
    refine ⟨rfl, ?_⟩
    rcases hcases with ⟨hrests, hok⟩ | ⟨hrests, herror⟩
    · exact Or.inl ⟨⟨hholds, hrests⟩, hok⟩
    · exact Or.inr ⟨fun hboth => hrests hboth.2, herror⟩
  · rw [exec_bind_error hexec]
    exact ⟨hsame, Or.inr ⟨fun hboth => hnot hboth.1, rfl⟩⟩

/-- A look-up before the rest. -/
theorem asks_query_bind {R : A → ConversationStore → Prop}
    (answer : ConversationStore → A)
    (hrest : ∀ result, Asks (R result) (rest result)) :
    Asks (fun s => R (answer s) s) (MessageOperations.query (fun chat =>
      .ok (answer chat.conversations)) >>= rest) := by
  intro chat
  rw [MessageOperations.query, exec_command_bind]
  exact hrest (answer chat.conversations) chat

theorem Asks.congr (hprogram : Asks P program) (hiff : ∀ s, P s ↔ Q s) :
    Asks Q program := by
  rwa [← funext (fun s => propext (hiff s))]

theorem Asks.bind_pure (hprogram : Asks P program) (f : A → B) :
    Asks P (program >>= fun result => pure (f result)) :=
  (hprogram.bind (fun _ => asks_pure _)).congr (by simp)

end Asks

/-! ### Update -/

/-- The id is the one of a user. -/
def IsUser (s : ConversationStore) (userId : StoredId) : Prop :=
  ∃ id ∈ s.users.keys, userId = .id id

theorem isSome_findUserById_iff (s : ConversationStore) (id : ObjectId) :
    (s.findUserById id).isSome = true ↔ IsUser s (.id id) := by
  simp only [ConversationStore.findUserById, Option.isSome_map, IsUser,
    StoredId.id.injEq, OrderedMap.mem_keys_iff, Option.isSome_iff_exists]
  constructor
  · intro hget
    exact ⟨id, hget, rfl⟩
  · rintro ⟨_, hget, rfl⟩
    exact hget

/-- An event about a participant asks for both users. -/
theorem asks_editParticipantsActionEvent (conversation : ConversationModel)
    (currentUser : Option User) (eventType : ParticipantEvent)
    (userId : StoredId) :
    Asks (fun s => IsUser s userId ∧ currentUser.isSome = true)
      (editParticipantsActionEvent displayName conversation currentUser
        eventType userId) := by
  have hevent : ∀ actionedUser : Option User,
      Asks (fun _ => actionedUser.isSome = true ∧ currentUser.isSome = true)
        (do
          let userActioned ← requireUser actionedUser
          let userActionCreator ← requireUser currentUser
          let message ← participantActionEvent displayName eventType
            conversation userActionCreator userActioned
          pure (⟨message, .participant eventType userActioned.id, none, none,
            false⟩ : ConversationNotice)) := by
    intro actionedUser
    refine .bind (asks_requireUser _) (fun user => ?_)
    exact Asks.congr (.bind (asks_requireUser _) (fun creator =>
      ((asks_createMessage _ _ _ _).bind_pure _).bind_pure _)) (by simp)
  cases userId with
  | id id =>
      refine Asks.congr (asks_query_bind (fun s => s.findUserById id) hevent)
        ?_
      intro s
      rw [isSome_findUserById_iff]
  | raw value =>
      refine Asks.congr (asks_query_bind (fun _ => none) hevent) ?_
      simp [IsUser]

/-- The loop asks for the current user once there is a participant. -/
theorem asks_participantEvents (conversation : ConversationModel)
    (currentUser : Option User) (eventType : ParticipantEvent)
    (userIds : List StoredId) :
    Asks (fun s => (∀ userId ∈ userIds, IsUser s userId) ∧
        (userIds ≠ [] → currentUser.isSome = true))
      (participantEvents displayName conversation currentUser eventType
        userIds) := by
  induction userIds with
  | nil => exact (asks_pure []).congr (by simp)
  | cons userId userIds ih =>
      refine Asks.congr (.bind (asks_editParticipantsActionEvent displayName
        conversation currentUser eventType userId)
        (fun event => ih.bind_pure _)) ?_
      intro s
      simp only [List.forall_mem_cons]
      tauto

/-- The same with the news for those who came. -/
theorem asks_addedEvents (conversation : ConversationModel)
    (currentUser : Option User) (userIds : List StoredId) :
    Asks (fun s => (∀ userId ∈ userIds, IsUser s userId) ∧
        (userIds ≠ [] → currentUser.isSome = true))
      (addedEvents displayName conversation currentUser userIds) := by
  rw [addedEvents]
  split
  · next hnone =>
      subst hnone
      exact (asks_pure []).congr (by simp)
  · next hsome =>
      refine Asks.congr (.bind (asks_requireUser currentUser) (fun user =>
        (asks_participantEvents displayName conversation currentUser .added
          userIds).bind_pure _)) ?_
      tauto

/-- The same with the news for those who went. -/
theorem asks_removedEvents (conversation : ConversationModel)
    (currentUser : Option User) (userIds : List ObjectId) :
    Asks (fun s => (∀ userId ∈ userIds, IsUser s (.id userId)) ∧
        (userIds ≠ [] → currentUser.isSome = true))
      (removedEvents displayName conversation currentUser userIds) := by
  rw [removedEvents]
  split
  · next hnone =>
      subst hnone
      exact (asks_pure []).congr (by simp)
  · next hsome =>
      refine Asks.congr (.bind (asks_participantEvents displayName
        conversation currentUser .removed (userIds.map StoredId.id))
        (fun events => (asks_requireUser currentUser).bind_pure _)) ?_
      intro s
      simp only [List.forall_mem_map, ne_eq, List.map_eq_nil_iff]
      tauto

theorem asks_detailsEvents (conversation : ConversationModel)
    (currentUser : Option User) (addedIds : List StoredId)
    (isUpdateConversation : Bool) :
    Asks (fun _ => isUpdateConversation = true → currentUser.isSome = true)
      (detailsEvents conversation currentUser addedIds
        isUpdateConversation) := by
  cases isUpdateConversation with
  | false => exact (asks_pure []).congr (by simp)
  | true =>
      exact ((asks_requireUser currentUser).bind_pure _).congr (by simp)

theorem asks_imageEvents (conversation : ConversationModel)
    (currentUser : Option User) (isUpdateConversationImage : Bool) :
    Asks (fun _ => isUpdateConversationImage = true →
        currentUser.isSome = true)
      (imageEvents conversation currentUser isUpdateConversationImage) := by
  cases isUpdateConversationImage with
  | false => exact (asks_pure []).congr (by simp)
  | true =>
      exact Asks.congr (.bind (asks_requireUser currentUser) (fun user =>
        (asks_createMessage _ _ _ _).bind_pure _)) (by simp)

/-- The users that the events of an update name are looked up in turn. -/
theorem asks_editActionEvents (conversation : ConversationModel)
    (fields : ConversationFields) (addedIds : List StoredId)
    (removedIds : List ObjectId) :
    Asks (fun s => ConversationOperations.findsActionUsers
        session.toConversationSession fields addedIds removedIds s = true)
      (editActionEvents displayName session conversation fields addedIds
        removedIds) := by
  refine Asks.congr (asks_query_bind (fun s => s.findUserById session.userId)
    (fun currentUser => .bind (asks_addedEvents displayName conversation
      currentUser addedIds) (fun added => .bind (asks_removedEvents
        displayName conversation currentUser removedIds) (fun removed =>
          .bind (asks_detailsEvents conversation currentUser addedIds _)
            (fun details => (asks_imageEvents conversation currentUser
              _).bind_pure _))))) ?_
  intro s
  rw [ConversationOperations.findsActionUsers, decide_eq_true_eq,
    ConversationOperations.needsCurrentUser, decide_eq_true_eq,
    isUpdateConversationFields, decide_eq_true_eq]
  have hadded : (∀ addedId ∈ addedIds, IsUser s addedId) ↔
      ∀ addedId ∈ addedIds, ∃ id ∈ s.users.keys, addedId = .id id := Iff.rfl
  rw [← hadded]
  simp only [isSome_findUserById_iff, or_imp, and_assoc]
  constructor
  · rintro ⟨hadded, hcame, hremoved, hwent, hname, htext, hlists, himage⟩
    exact ⟨hcame, hwent, hname, htext, hlists, himage, hadded, hremoved⟩
  · rintro ⟨hcame, hwent, hname, htext, hlists, himage, hadded, hremoved⟩
    exact ⟨hadded, hcame, hremoved, hwent, hname, htext, hlists, himage⟩

theorem refines_editActionEvents (conversation : ConversationModel)
    (fields : ConversationFields) (addedIds : List StoredId)
    (removedIds : List ObjectId) :
    Refines ChatStore.conversations (fun _ => ())
      (editActionEvents displayName session conversation fields addedIds
        removedIds)
      (ConversationOperations.createActionEvents session.toConversationSession
        fields addedIds removedIds) := by
  intro chat
  obtain ⟨hsame, hcases⟩ := asks_editActionEvents displayName session
    conversation fields addedIds removedIds chat
  rw [ConversationOperations.createActionEvents, exec_query, hsame]
  rcases hcases with ⟨hfound, events, hok⟩ | ⟨hnot, herror⟩
  · rw [if_pos hfound, hok]
    rfl
  · rw [if_neg hnot, herror]
    rfl

theorem refines_editEvents (conversation : ConversationModel)
    (params : UpdateParams) (addedIds : List StoredId)
    (removedIds : List ObjectId) :
    Refines ChatStore.conversations (fun _ => ())
      (editEvents config displayName session conversation params.fields
        addedIds removedIds)
      (ConversationOperations.editEvents config.conversations
        session.toConversationSession conversation params addedIds
          removedIds) := by
  rw [editEvents, ConversationOperations.editEvents]
  split
  · exact refines_bind (refines_onConversations _) (fun _ =>
      refines_editActionEvents displayName session conversation params.fields
        addedIds removedIds)
  · exact refines_pure []

/-- The members first, and then the events. -/
theorem exec_editMembers_bind (conversation : ConversationModel)
    (params : UpdateParams) (s : ConversationStore) :
    (editMembers config conversation params >>= fun members =>
      match members with
      | none => pure ()
      | some (addedIds, removedIds) => ConversationOperations.editEvents
          config.conversations session.toConversationSession conversation
          params addedIds removedIds).exec s =
      (ConversationOperations.editShared config.conversations
        session.toConversationSession conversation params).exec s := by
  rw [ConversationOperations.editShared, editMembers, exec_bind_assoc]
  refine exec_bind_congr (fun adminsToAdd s => ?_) s
  rw [exec_bind_assoc]
  refine exec_bind_congr (fun members s => ?_) s
  obtain ⟨addedIds, removeResult⟩ := members
  dsimp only
  split
  · rfl
  · rw [exec_bind_assoc]
    rfl

theorem refines_editShared (conversation : ConversationModel)
    (params : UpdateParams) :
    Refines ChatStore.conversations (fun _ => ())
      (editShared config displayName session conversation params)
      (ConversationOperations.editShared config.conversations
        session.toConversationSession conversation params) := by
  refine Refines.congr (refines_bind (refines_onConversations _) ?_)
    (exec_editMembers_bind config session conversation params)
  intro members
  cases members with
  | none => exact refines_pure none
  | some lists =>
      exact (refines_editEvents config displayName session conversation
        params _ _).bind_pure (fun _ => rfl)

theorem refines_editFields (params : UpdateParams) :
    Refines ChatStore.conversations (fun _ => ())
      (editFields config displayName session params)
      (ConversationOperations.editFields config.conversations
        session.toConversationSession params) := by
  refine refines_bind (refines_onConversations _) (fun updated => ?_)
  cases updated with
  | none => exact refines_throw _
  | some conversation =>
      dsimp only [id]
      split
      · exact refines_pure _
      · exact refines_editShared config displayName session conversation
          params

/-- An update with its events refines the update of the conversations. -/
theorem refines_edit (params : UpdateParams) :
    Refines ChatStore.conversations (fun _ => ())
      (edit config displayName session params)
      (ConversationOperations.edit config.conversations
        session.toConversationSession params) := by
  refine refines_bind (refines_onConversations _) (fun found => ?_)
  cases found with
  | none => exact refines_throw _
  | some access =>
      dsimp only [id]
      split
      · exact refines_throw _
      · exact refines_editFields config displayName session params

/-! ### Create and leave -/

theorem refines_createOfType (user : Option User) (params : CreateParams)
    (participantIds : List ObjectId) :
    Refines ChatStore.conversations Prod.fst
      (onConversations (createOfType config session user params
        participantIds))
      (ConversationOperations.createOfType config.conversations
        session.toConversationSession user params participantIds) := by
  intro chat
  rw [onConversations, exec_command, createOfType, exec_bind]
  rcases hexec : (ConversationOperations.createOfType config.conversations
    session.toConversationSession user params participantIds).exec
      chat.conversations with ⟨outcome, after⟩
  cases outcome <;> rfl

/-- The event of a create asks for the user. -/
theorem refines_createActionEvent (conversation : ConversationModel)
    (henabled : config.conversations.isEventsEnabled = true) :
    Refines ChatStore.conversations (fun _ => ())
      (createActionEvent session conversation)
      (ConversationOperations.createUserEvent config.conversations
        session.toConversationSession) := by
  intro chat
  rw [ConversationOperations.createUserEvent, if_pos henabled, exec_query,
    createActionEvent, MessageOperations.query, exec_command_bind]
  cases huser : chat.conversations.findUserById session.userId <;> rfl

/-- A create with its event refines the create of the conversations. -/
theorem refines_create (params : CreateParams) :
    Refines ChatStore.conversations ConversationCreateResult.conversation
      (create config session params)
      (ConversationOperations.create config.conversations
        session.toConversationSession params) := by
  have hquery : Refines ChatStore.conversations id
      (MessageOperations.query (fun chat =>
        .ok (chat.conversations.findUserById session.userId)))
      (ConversationService.query none (fun s =>
        .ok (s.findUserById session.userId))) := fun _ => rfl
  refine refines_bind hquery (fun user => ?_)
  refine refines_bind (refines_onConversations _) (fun participantIds => ?_)
  refine refines_bind (refines_createOfType config session user params
    participantIds) (fun created => ?_)
  obtain ⟨conversation, normalizedParticipants⟩ := created
  dsimp only
  by_cases henabled : config.conversations.isEventsEnabled = true
  · rw [if_pos henabled]
    exact refines_bind (refines_createActionEvent config session conversation
      henabled) (fun _ => refines_pure _)
  · rw [if_neg henabled, ConversationOperations.createUserEvent,
      if_neg henabled]
    exact refines_pure _

theorem refines_delete (conversationId : IdParam) :
    Refines ChatStore.conversations (fun _ => ())
      (delete config displayName session conversationId)
      (ConversationOperations.delete config.conversations
        session.toConversationSession conversationId) :=
  delete_refines config displayName session conversationId

end ConversationResults

end SamaServer
