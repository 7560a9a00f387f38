/-
Who may use the operations that are addressed by a message alone.  They look
the message up by its id, whatever conversation and organization it is in, and
the list of the users it is hidden from is searched in vain.
-/
import SamaServer.MessageOperations

namespace SamaServer

open Fallible

/-- A request that is addressed by a message. -/
inductive MessageRequest
  | edit (messageId : IdParam) (newBody : String)
  | reactionsUpdate (messageId : IdParam)
      (add remove : Option String)
  | reactionsList (messageId : IdParam)

namespace MessageRequest

def messageId : MessageRequest → IdParam
  | edit messageId _ => messageId
  | reactionsUpdate messageId _ _ => messageId
  | reactionsList messageId => messageId

def isEdit : MessageRequest → Bool
  | edit _ _ => true
  | _ => false

def perform (config : ChatConfig) (session : ConversationSession) :
    MessageRequest → ChatProgram Unit
  | edit messageId newBody =>
      MessageOperations.edit config session messageId newBody >>= fun _ =>
        pure ()
  | reactionsUpdate messageId add remove =>
      MessageOperations.updateReactions config session messageId add
        remove >>= fun _ => pure ()
  | reactionsList messageId =>
      MessageOperations.listReactions config session messageId >>= fun _ =>
        pure ()

/-- The message that the id of the request finds. -/
def Finds (config : ChatConfig) (request : MessageRequest)
    (chat : ChatStore) (message : ChatMessage) : Prop :=
  chat.findMessage config.conversations.server config.pickMessage
    request.messageId = .ok (some message)

/-- The caller is a participant of the conversation, the message is in the
organization of the caller and not hidden from the caller, who has written it
if it is to be edited. -/
def IsPermitted (session : ConversationSession) (request : MessageRequest)
    (chat : ChatStore) (message : ChatMessage) : Prop :=
  (∃ row ∈ chat.conversations.rowsOf message.cid,
    row.userId = .id session.userId) ∧
  message.organizationId = session.organizationId ∧
  message.isVisibleTo session.userId = true ∧
  (request.isEdit = true → message.sender = session.userId)

/-- A request succeeds or changes something only with a permission. -/
def IsGuarded (config : ChatConfig) (session : ConversationSession)
    (request : MessageRequest) (chat : ChatStore) : Prop :=
  ((∃ after, (request.perform config session).exec chat = (.ok (), after)) ∨
    ((request.perform config session).exec chat).2 ≠ chat) →
  ∃ message, request.Finds config chat message ∧
    request.IsPermitted session chat message

variable {config : ChatConfig} {session : ConversationSession}
  {chat : ChatStore}

/-! ### The check -/

theorem exec_hasAccessToMessage_bind {A : Type} {messageId : IdParam}
    (rest : Option (ChatMessage × Bool) → ChatProgram A) :
    (MessageOperations.hasAccessToMessage config session messageId >>=
      rest).exec chat =
      match chat.findMessage config.conversations.server config.pickMessage
        messageId with
      | .error error => (.error error, chat)
      | .ok message => (rest (message.map (fun message =>
          (message, message.sender = session.userId)))).exec chat := by
  rw [exec_bind, MessageOperations.hasAccessToMessage,
    MessageOperations.query, exec_command_bind]
  cases chat.findMessage config.conversations.server config.pickMessage
      messageId with
  | error error => rfl
  | ok message => rfl

/-- The reactions are open to everyone who knows the id of a message. -/
theorem exec_hasAccessToReactions {messageId : IdParam} :
    (∃ message, chat.findMessage config.conversations.server
        config.pickMessage messageId = .ok (some message) ∧
      (MessageOperations.hasAccessToReactions config session messageId).exec
        chat = (.ok message, chat)) ∨
    ((∀ message, chat.findMessage config.conversations.server
        config.pickMessage messageId ≠ .ok (some message)) ∧
      ∃ error, (MessageOperations.hasAccessToReactions config session
        messageId).exec chat = (.error error, chat)) := by
  rw [MessageOperations.hasAccessToReactions, exec_hasAccessToMessage_bind]
  cases chat.findMessage config.conversations.server config.pickMessage
      messageId with
  | error error => exact Or.inr ⟨by simp, error, rfl⟩
  | ok found =>
      cases found with
      | none => exact Or.inr ⟨by simp, _, rfl⟩
      | some message => exact Or.inl ⟨message, rfl, rfl⟩

theorem exec_hasAccessToEdit {messageId : IdParam} :
    (∃ message, chat.findMessage config.conversations.server
        config.pickMessage messageId = .ok (some message) ∧
      message.sender = session.userId ∧
      (MessageOperations.hasAccessToEdit config session messageId).exec
        chat = (.ok message, chat)) ∨
    ((∀ message, chat.findMessage config.conversations.server
        config.pickMessage messageId = .ok (some message) →
          message.sender ≠ session.userId) ∧
      ∃ error, (MessageOperations.hasAccessToEdit config session
        messageId).exec chat = (.error error, chat)) := by
  rw [MessageOperations.hasAccessToEdit, exec_hasAccessToMessage_bind]
  cases chat.findMessage config.conversations.server config.pickMessage
      messageId with
  | error error => exact Or.inr ⟨by simp, error, rfl⟩
  | ok found =>
      cases found with
      | none => exact Or.inr ⟨by simp, _, rfl⟩
      | some message =>
          by_cases hsender : message.sender = session.userId
          · refine Or.inl ⟨message, rfl, hsender, ?_⟩
            simp [hsender]
          · refine Or.inr ⟨by simpa using hsender, .cause .forbidden, ?_⟩
            simp [hsender, MessageOperations.fail]

/-! ### What follows the check -/

theorem readOnly_conversationOf (message : ChatMessage) :
    (MessageOperations.conversationOf message).ReadOnly := by
  refine readOnly_bind (fun _ => rfl) ?_
  intro conversation
  split
  · exact readOnly_throw _
  · exact readOnly_pure _

/-- A message that is edited is written. -/
theorem writes_edit {messageId : IdParam} {message : ChatMessage}
    (hfound : chat.findMessage config.conversations.server
      config.pickMessage messageId = .ok (some message))
    (hsender : message.sender = session.userId) (newBody : String) :
    (((edit messageId newBody).perform config session).exec chat).2.writes =
      chat.writes + 1 := by
  rcases @exec_hasAccessToEdit config session chat messageId with
    ⟨other, hother, _, haccess⟩ | ⟨hnobody, _⟩
  · rw [hfound] at hother
    cases hother
    rw [perform, exec_bind_snd_of_readOnly (fun _ => readOnly_pure ()),
      MessageOperations.edit, exec_bind_ok haccess, exec_command_bind]
    simp only [ChatStore.updateBody, hfound]
    rw [exec_bind_snd_of_readOnly (fun _ => fun _ => rfl),
      readOnly_conversationOf]
    rfl
  · exact absurd hsender (hnobody message hfound)

theorem writes_addReaction (chat : ChatStore) (mid userId : ObjectId)
    (add : Option String) :
    (chat.addReaction mid userId add).2.writes =
      chat.writes + (chat.addReaction mid userId add).1.toNat := by
  rw [ChatStore.addReaction]
  split
  · rfl
  · split <;> rfl

theorem writes_removeReaction (chat : ChatStore) (mid userId : ObjectId)
    (remove : Option String) :
    (chat.removeReaction mid userId remove).2.writes =
      chat.writes + (chat.removeReaction mid userId remove).1.toNat := by
  rw [ChatStore.removeReaction]
  split
  · rfl
  · split <;> rfl

/-- Reactions that are added or removed are written. -/
theorem writes_updateReactions (chat : ChatStore) (mid userId : ObjectId)
    (add remove : Option String)
    (hupdated : (chat.updateReactions mid userId add remove).1 = true) :
    chat.writes <
      (chat.updateReactions mid userId add remove).2.writes := by
  have hadded := writes_addReaction chat mid userId add
  have hremoved := writes_removeReaction (chat.addReaction mid userId add).2
    mid userId remove
  simp only [ChatStore.updateReactions, Bool.or_eq_true] at hupdated ⊢
  rw [hremoved, hadded]
  rcases hupdated with hfirst | hsecond
  · rw [hfirst, Bool.toNat_true]
    omega
  · rw [hsecond, Bool.toNat_true]
    omega

theorem readOnly_deliverReactions (message : ChatMessage)
    (messageId : IdParam) (isUpdated : Bool) :
    (MessageOperations.deliverReactions config message messageId
      isUpdated).ReadOnly := by
  rw [MessageOperations.deliverReactions]
  split
  · refine readOnly_bind (readOnly_conversationOf message) ?_
    intro conversation
    split
    · exact readOnly_pure _
    · exact fun _ => rfl
  · exact readOnly_pure _

/-- A caller who finds the message succeeds or changes the reactions. -/
theorem reactionsUpdate_reaches {messageId : IdParam} {message : ChatMessage}
    (hfound : chat.findMessage config.conversations.server
      config.pickMessage messageId = .ok (some message))
    (add remove : Option String) :
    (∃ after, ((reactionsUpdate messageId add remove).perform config
      session).exec chat = (.ok (), after)) ∨
    (((reactionsUpdate messageId add remove).perform config session).exec
      chat).2 ≠ chat := by
  rcases @exec_hasAccessToReactions config session chat messageId with
    ⟨other, hother, haccess⟩ | ⟨hnobody, _⟩
  · rw [hfound] at hother
    cases hother
    have hexec : (MessageOperations.updateReactions config session messageId
        add remove).exec chat =
        (MessageOperations.deliverReactions config message messageId
          (chat.updateReactions message.id session.userId add
            remove).1).exec
          (chat.updateReactions message.id session.userId add
            remove).2 := by
      rw [MessageOperations.updateReactions, exec_bind_ok haccess,
        exec_command_bind]
    by_cases hupdated : (chat.updateReactions message.id session.userId add
        remove).1 = true
    · refine Or.inr (fun hsame => ?_)
      have hwrites := writes_updateReactions chat message.id session.userId
        add remove hupdated
      rw [perform, exec_bind_snd_of_readOnly (fun _ => readOnly_pure ()),
        hexec, readOnly_deliverReactions] at hsame
      rw [hsame] at hwrites
      exact Nat.lt_irrefl _ hwrites
    · refine Or.inl ⟨(chat.updateReactions message.id session.userId add
        remove).2, ?_⟩
      rw [MessageOperations.deliverReactions, if_neg hupdated] at hexec
      rw [perform, exec_bind, hexec]
      rfl
  · exact absurd hfound (hnobody message)

/-- A request whose own check is passed succeeds or changes something. -/
theorem reaches_of_finds {request : MessageRequest} {message : ChatMessage}
    (hfinds : request.Finds config chat message)
    (hsender : request.isEdit = true → message.sender = session.userId) :
    (∃ after, (request.perform config session).exec chat =
      (.ok (), after)) ∨
    ((request.perform config session).exec chat).2 ≠ chat := by
  cases request with
  | edit messageId newBody =>
      refine Or.inr (fun hsame => ?_)
      have hwrites : (((edit messageId newBody).perform config session).exec
          chat).2.writes = chat.writes + 1 :=
        writes_edit hfinds (hsender rfl) newBody
      rw [hsame] at hwrites
      omega
  | reactionsUpdate messageId add remove =>
      exact reactionsUpdate_reaches hfinds add remove
  | reactionsList messageId =>
      rcases @exec_hasAccessToReactions config session chat messageId with
        ⟨other, hother, haccess⟩ | ⟨hnobody, _⟩
      · refine Or.inl ⟨chat, ?_⟩
        rw [perform, MessageOperations.listReactions, exec_bind,
          exec_bind_ok haccess]
        rfl
      · exact absurd hfinds (hnobody message)

/-- A request that succeeds or changes something has passed its own check. -/
theorem perform_demands (config : ChatConfig) (session : ConversationSession)
    (request : MessageRequest) (chat : ChatStore) :
    (request.perform config session).Demands
      (∃ message, request.Finds config chat message ∧
        (request.isEdit = true → message.sender = session.userId)) chat := by
  cases request with
  | edit messageId newBody =>
      refine Demands.bind (Demands.bind ?_ _) _
      rcases @exec_hasAccessToEdit config session chat messageId with
        ⟨message, hfound, hsender, _⟩ | ⟨_, hrefused⟩
      · exact Or.inl ⟨message, hfound, fun _ => hsender⟩
      · exact Or.inr hrefused
  | reactionsUpdate messageId add remove =>
      refine Demands.bind (Demands.bind ?_ _) _
      rcases @exec_hasAccessToReactions config session chat messageId with
        ⟨message, hfound, _⟩ | ⟨_, hrefused⟩
      · exact Or.inl ⟨message, hfound, nofun⟩
      · exact Or.inr hrefused
  | reactionsList messageId =>
      refine Demands.bind (Demands.bind ?_ _) _
      rcases @exec_hasAccessToReactions config session chat messageId with
        ⟨message, hfound, _⟩ | ⟨_, hrefused⟩
      · exact Or.inl ⟨message, hfound, nofun⟩
      · exact Or.inr hrefused

/-- A request is guarded exactly when the message it finds is one that the
caller has a permission for, or one that the caller may not edit. -/
theorem isGuarded_iff_permitted (config : ChatConfig)
    (session : ConversationSession) (request : MessageRequest)
    (chat : ChatStore) :
    request.IsGuarded config session chat ↔
      ∀ message, request.Finds config chat message →
        (request.isEdit = true → message.sender = session.userId) →
        request.IsPermitted session chat message := by
  constructor
  · intro hguarded message hfinds hsender
    obtain ⟨other, hother, hpermitted⟩ :=
      hguarded (reaches_of_finds hfinds hsender)
    rw [Finds, hfinds] at hother
    cases hother
    exact hpermitted
  · intro hall hreached
    rcases perform_demands config session request chat with
      ⟨message, hfinds, hsender⟩ | ⟨error, hexec⟩
    · exact ⟨message, hfinds, hall message hfinds hsender⟩
    · rw [hexec] at hreached
      rcases hreached with ⟨after, hok⟩ | hchanged
      · cases hok
      · exact absurd rfl hchanged

/-- The third user reacts to a message of the private conversation of the
others. -/
theorem strangersReaction_stored :
    ¬ (reactionsUpdate (.hex 0 true) (some "+") none).IsGuarded .plain ⟨2, 9⟩
      .oneMessage := by
  intro hguarded
  obtain ⟨message, hfinds, ⟨row, hrow, huser⟩, _⟩ :=
    hguarded (Or.inl ⟨_, rfl⟩)
  cases hfinds
  revert huser
  revert row
  decide

end MessageRequest

end SamaServer
