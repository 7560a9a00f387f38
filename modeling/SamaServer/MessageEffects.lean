/-
What each request does to the messages of the server.  Most requests leave
them alone or add messages of their caller; an edit writes the body of one
message of the caller, and the rest hides or removes messages.
-/
import SamaServer.MessageDeletions
import SamaServer.ServerRequests

namespace SamaServer

open Fallible

/-- Messages may have been added, with new ids, and `W` holds of each. -/
structure Adds (W : ChatMessage → Prop) (before after : ChatStore) :
    Prop where
  kept : before.messages ⊆ after.messages
  new : ∀ message ∈ after.messages, message ∈ before.messages ∨
    before.nextMessageId ≤ message.id ∧ W message
  next : before.nextMessageId ≤ after.nextMessageId

section Adds

variable {W : ChatMessage → Prop} {first second third : ChatStore}

theorem Adds.of_same (hsame : second.messages = first.messages)
    (hnext : second.nextMessageId = first.nextMessageId) :
    Adds W first second :=
  ⟨fun _ hmessage => hsame ▸ hmessage,
    fun _ hmessage => Or.inl (hsame ▸ hmessage), Nat.le_of_eq hnext.symm⟩

theorem Adds.trans (hfirst : Adds W first second)
    (hsecond : Adds W second third) : Adds W first third where
  kept := List.Subset.trans hfirst.kept hsecond.kept
  new := by
    intro message hmessage
    rcases hsecond.new message hmessage with hold | ⟨hid, hnew⟩
    · exact hfirst.new message hold
    · exact Or.inr ⟨Nat.le_trans hfirst.next hid, hnew⟩
  next := Nat.le_trans hfirst.next hsecond.next

theorem Adds.createMessage {chat : ChatStore} {c sender organizationId :
    ObjectId} {body : Option String} {deletedFor : List StoredId}
    (hnew : W ⟨⟨chat.nextMessageId, c, sender⟩, organizationId, body,
      deletedFor⟩) :
    Adds W chat
      (chat.createMessage c sender organizationId body deletedFor) where
  kept := List.subset_append_left _ _
  new := by
    intro message hmessage
    rcases List.mem_append.1 hmessage with hold | hlast
    · exact Or.inl hold
    · rw [List.mem_singleton.1 hlast]
      exact Or.inr ⟨Nat.le_refl _, hnew⟩
  next := Nat.le_succ _

end Adds

/-- Each step of the program adds only messages of which `W` holds. -/
abbrev AddsOnly {A : Type} (W : ChatMessage → Prop)
    (program : ChatProgram A) : Prop := program.Guarantees (Adds W)

theorem AddsOnly.exec {A : Type} {W : ChatMessage → Prop}
    {program : ChatProgram A} (hprogram : AddsOnly W program)
    (chat : ChatStore) : Adds W chat (program.exec chat).2 :=
  Fallible.Guarantees.exec (fun _ => .of_same rfl rfl) (fun _ _ _ => .trans)
    hprogram chat

/-- The messages and the conversations are left alone. -/
structure Leaves (before after : ChatStore) : Prop where
  messages : after.messages = before.messages
  nextMessageId : after.nextMessageId = before.nextMessageId
  conversations : after.conversations = before.conversations

theorem Leaves.refl (chat : ChatStore) : Leaves chat chat := ⟨rfl, rfl, rfl⟩

theorem Leaves.trans {first second third : ChatStore}
    (hfirst : Leaves first second) (hsecond : Leaves second third) :
    Leaves first third :=
  ⟨hsecond.messages.trans hfirst.messages,
    hsecond.nextMessageId.trans hfirst.nextMessageId,
    hsecond.conversations.trans hfirst.conversations⟩

/-- Each step of the program leaves the messages and the conversations
alone. -/
abbrev LeavesAll {A : Type} (program : ChatProgram A) : Prop :=
  program.Guarantees Leaves

theorem LeavesAll.addsOnly {A : Type} {W : ChatMessage → Prop}
    {program : ChatProgram A} (hprogram : LeavesAll program) :
    AddsOnly W program :=
  Fallible.Guarantees.mono hprogram (fun _ _ hleaves =>
    .of_same hleaves.messages hleaves.nextMessageId)

theorem LeavesAll.exec {A : Type} {program : ChatProgram A}
    (hprogram : LeavesAll program) (chat : ChatStore) :
    Leaves chat (program.exec chat).2 :=
  Fallible.Guarantees.exec .refl (fun _ _ _ => .trans) hprogram chat

/-! ### What may happen to messages -/

/-- What may happen to the messages in one step: which are stored, which get
a text, from whom they are hidden and which go. -/
structure MessageRights where
  writes : ChatMessage → Prop
  edits : ChatMessage → String → Prop
  hides : ChatMessage → StoredId → Prop
  removes : ChatMessage → Prop

/-- A message as it is before and after a step. -/
structure Carries (rights : MessageRights) (old new : ChatMessage) :
    Prop where
  message : new.toMessage = old.toMessage
  organizationId : new.organizationId = old.organizationId
  body : new.body = old.body ∨
    ∃ body, rights.edits old body ∧ new.body = some body
  kept : old.deletedFor ⊆ new.deletedFor
  hidden : ∀ userId ∈ new.deletedFor,
    userId ∈ old.deletedFor ∨ rights.hides old userId

theorem Carries.refl (rights : MessageRights) (message : ChatMessage) :
    Carries rights message message :=
  ⟨rfl, rfl, Or.inl rfl, List.Subset.refl _, fun _ => Or.inl⟩

/-- The messages before and after a step. -/
structure Evolves (rights : MessageRights) (before after : ChatStore) :
    Prop where
  source : ∀ message ∈ after.messages,
    (∃ old ∈ before.messages, Carries rights old message) ∨
      before.nextMessageId ≤ message.id ∧ rights.writes message
  next : before.nextMessageId ≤ after.nextMessageId
  target : ∀ old ∈ before.messages,
    (∃ message ∈ after.messages, Carries rights old message) ∨
      rights.removes old

section Evolves

variable {rights : MessageRights} {before after : ChatStore}

theorem Evolves.of_adds {W : ChatMessage → Prop} (hadds : Adds W before after)
    (hwrites : ∀ message, W message → rights.writes message) :
    Evolves rights before after where
  source := by
    intro message hmessage
    rcases hadds.new message hmessage with hold | ⟨hid, hnew⟩
    · exact Or.inl ⟨message, hold, .refl rights message⟩
    · exact Or.inr ⟨hid, hwrites message hnew⟩
  next := hadds.next
  target := fun old hold => Or.inl ⟨old, hadds.kept hold, .refl rights old⟩

theorem Evolves.of_same (hsame : after.messages = before.messages)
    (hnext : after.nextMessageId = before.nextMessageId) :
    Evolves rights before after :=
  .of_adds (W := fun _ => False) (.of_same hsame hnext) (fun _ => False.elim)

theorem Evolves.of_leaves (hleaves : Leaves before after) :
    Evolves rights before after :=
  .of_same hleaves.messages hleaves.nextMessageId

/-- Each message may be rewritten in its place. -/
theorem Evolves.of_map {f : ChatMessage → ChatMessage}
    (hmap : after.messages = before.messages.map f)
    (hnext : after.nextMessageId = before.nextMessageId)
    (hcarries : ∀ old ∈ before.messages, Carries rights old (f old)) :
    Evolves rights before after where
  source := by
    intro message hmessage
    rw [hmap] at hmessage
    obtain ⟨old, hold, rfl⟩ := List.mem_map.1 hmessage
    exact Or.inl ⟨old, hold, hcarries old hold⟩
  next := Nat.le_of_eq hnext.symm
  target := by
    intro old hold
    refine Or.inl ⟨f old, ?_, hcarries old hold⟩
    rw [hmap]
    exact List.mem_map_of_mem hold

/-- Some messages may go. -/
theorem Evolves.of_filter {keep : ChatMessage → Bool}
    (hfilter : after.messages = before.messages.filter keep)
    (hnext : after.nextMessageId = before.nextMessageId)
    (hremoves : ∀ old ∈ before.messages, keep old = false →
      rights.removes old) : Evolves rights before after where
  source := by
    intro message hmessage
    rw [hfilter] at hmessage
    exact Or.inl ⟨message, (List.mem_filter.1 hmessage).1,
      .refl rights message⟩
  next := Nat.le_of_eq hnext.symm
  target := by
    intro old hold
    cases hkeep : keep old with
    | true =>
        refine Or.inl ⟨old, ?_, .refl rights old⟩
        rw [hfilter]
        exact List.mem_filter.2 ⟨hold, hkeep⟩
    | false => exact Or.inr (hremoves old hold hkeep)

end Evolves

namespace MessageOperations

variable {A : Type} {W : ChatMessage → Prop}

theorem leavesAll_query (answer : ChatStore → Except ConversationError A) :
    LeavesAll (query answer) := guarantees_command Leaves.refl

theorem addsOnly_query (answer : ChatStore → Except ConversationError A) :
    AddsOnly W (query answer) := (leavesAll_query answer).addsOnly

theorem addsOnly_onConversations (program : ConversationProgram A) :
    AddsOnly W (onConversations program) :=
  guarantees_command (fun _ => .of_same rfl rfl)

theorem leavesAll_onConversations {program : ConversationProgram A}
    (hprogram : program.ReadOnly) : LeavesAll (onConversations program) :=
  guarantees_command (fun chat => ⟨rfl, rfl, hprogram chat.conversations⟩)

theorem leavesAll_requireUser (user : Option User) :
    LeavesAll (requireUser user) := by
  cases user with
  | none => exact guarantees_throw _
  | some user => exact guarantees_pure user

theorem addsOnly_requireUser (user : Option User) :
    AddsOnly W (requireUser user) := (leavesAll_requireUser user).addsOnly

theorem leavesAll_hasAccess (config : ChatConfig)
    (session : ConversationSession)
    (refuses : ConversationService.ConversationAccess → Bool)
    (cid : TextId) : LeavesAll (hasAccess config session refuses cid) := by
  refine guarantees_bind (leavesAll_onConversations
    (ConversationService.readOnly_hasAccessToConversation _ _ _ _))
    (fun found => ?_)
  cases found with
  | none => exact guarantees_throw _
  | some access =>
      dsimp only
      split
      · exact guarantees_throw _
      · split
        · exact guarantees_pure _
        · exact guarantees_throw _

/-- A user who is looked up has the id that was asked for. -/
theorem returns_findUserById (userId : ObjectId) :
    (query (fun chat => .ok (chat.conversations.findUserById userId))).Returns
      (fun user => ∀ found ∈ user, found.id = userId) :=
  returns_command (fun chat user huser found hfound => by
    cases huser
    exact ConversationStore.id_of_findUserById hfound)

theorem returns_requireUser {user : Option User} {P : User → Prop}
    (huser : ∀ found ∈ user, P found) : (requireUser user).Returns P := by
  cases user with
  | none => exact returns_throw _
  | some user => exact returns_pure (huser user rfl)

end MessageOperations

/-- A message of an event in a conversation, whose author is the user who
acts. -/
def IsEventOf (c userId : ObjectId) (message : ChatMessage) : Prop :=
  message.cid = c ∧ message.sender = userId ∧ message.deletedFor = []

theorem MessageResults.addsOnly_createMessage {W : ChatMessage → Prop}
    {conversation : ConversationModel} {user : User} {body : Option String}
    {deletedFor : List IdParam}
    (hnew : ∀ mid, W ⟨⟨mid, conversation.id, user.id⟩, user.organizationId,
      body, deletedFor.filterMap IdParam.queryId?⟩) :
    AddsOnly W (createMessage conversation user body deletedFor) :=
  guarantees_bind (MessageOperations.addsOnly_query _) (fun _ =>
    guarantees_bind (guarantees_command (fun _ => .createMessage (hnew _)))
      (fun _ => guarantees_pure _))

namespace ConversationResults

open MessageOperations

variable {config : ChatConfig} {displayName : User → String}
  {session : ApiSession} {conversation : ConversationModel}
  {currentUser : Option User} {userId : ObjectId}

theorem addsOnly_editParticipantsActionEvent
    (hcurrent : ∀ user ∈ currentUser, user.id = userId)
    (eventType : ParticipantEvent) (actionedUserId : StoredId) :
    AddsOnly (IsEventOf conversation.id userId)
      (editParticipantsActionEvent displayName conversation currentUser
        eventType actionedUserId) := by
  refine guarantees_bind (addsOnly_query _) (fun _ =>
    guarantees_bind (addsOnly_requireUser _) (fun _ => ?_))
  refine guarantees_bind_returns (addsOnly_requireUser _)
    (returns_requireUser hcurrent) (fun creator hcreator => ?_)
  refine guarantees_bind (guarantees_bind
    (MessageResults.addsOnly_createMessage (fun mid => ?_))
    (fun _ => guarantees_pure _)) (fun _ => guarantees_pure _)
  exact ⟨rfl, hcreator, rfl⟩

theorem addsOnly_participantEvents
    (hcurrent : ∀ user ∈ currentUser, user.id = userId)
    (eventType : ParticipantEvent) (userIds : List StoredId) :
    AddsOnly (IsEventOf conversation.id userId)
      (participantEvents displayName conversation currentUser eventType
        userIds) := by
  induction userIds with
  | nil => exact guarantees_pure []
  | cons actionedUserId userIds ih =>
      exact guarantees_bind (addsOnly_editParticipantsActionEvent hcurrent
        eventType actionedUserId) (fun _ =>
          guarantees_bind ih (fun _ => guarantees_pure _))

theorem addsOnly_imageEvents
    (hcurrent : ∀ user ∈ currentUser, user.id = userId)
    (isUpdateConversationImage : Bool) :
    AddsOnly (IsEventOf conversation.id userId)
      (imageEvents conversation currentUser isUpdateConversationImage) := by
  rw [imageEvents]
  split
  · refine guarantees_bind_returns (addsOnly_requireUser _)
      (returns_requireUser hcurrent) (fun creator hcreator => ?_)
    exact guarantees_bind (MessageResults.addsOnly_createMessage
      (fun mid => ⟨rfl, hcreator, rfl⟩)) (fun _ => guarantees_pure _)
  · exact guarantees_pure []

theorem addsOnly_editActionEvents (fields : ConversationFields)
    (addedIds : List StoredId) (removedIds : List ObjectId) :
    AddsOnly (IsEventOf conversation.id session.userId)
      (editActionEvents displayName session conversation fields addedIds
        removedIds) := by
  refine guarantees_bind_returns (addsOnly_query _)
    (returns_findUserById session.userId) (fun currentUser hcurrent => ?_)
  have hadded : AddsOnly (IsEventOf conversation.id session.userId)
      (addedEvents displayName conversation currentUser addedIds) := by
    rw [addedEvents]
    split
    · exact guarantees_pure []
    · exact guarantees_bind (addsOnly_requireUser _) (fun _ =>
        guarantees_bind (addsOnly_participantEvents hcurrent .added addedIds)
          (fun _ => guarantees_pure _))
  have hremoved : AddsOnly (IsEventOf conversation.id session.userId)
      (removedEvents displayName conversation currentUser removedIds) := by
    rw [removedEvents]
    split
    · exact guarantees_pure []
    · exact guarantees_bind (addsOnly_participantEvents hcurrent .removed _)
        (fun _ => guarantees_bind (addsOnly_requireUser _)
          (fun _ => guarantees_pure _))
  have hdetails : AddsOnly (IsEventOf conversation.id session.userId)
      (detailsEvents conversation currentUser addedIds
        (isUpdateConversationFields fields)) := by
    rw [detailsEvents]
    split
    · exact guarantees_bind (addsOnly_requireUser _)
        (fun _ => guarantees_pure _)
    · exact guarantees_pure []
  exact guarantees_bind hadded (fun _ => guarantees_bind hremoved (fun _ =>
    guarantees_bind hdetails (fun _ => guarantees_bind
      (addsOnly_imageEvents hcurrent _) (fun _ => guarantees_pure _))))

/-- The part of an update after the write of the fields. -/
theorem addsOnly_editShared (config : ChatConfig)
    (displayName : User → String) (session : ApiSession)
    (conversation : ConversationModel) (params : UpdateParams) :
    AddsOnly (IsEventOf conversation.id session.userId)
      (editShared config displayName session conversation params) := by
  refine guarantees_bind (addsOnly_onConversations _) (fun members => ?_)
  cases members with
  | none => exact guarantees_pure _
  | some lists =>
      refine guarantees_bind ?_ (fun _ => guarantees_pure _)
      rw [editEvents]
      split
      · exact guarantees_bind (addsOnly_onConversations _) (fun _ =>
          addsOnly_editActionEvents _ _ _)
      · exact guarantees_pure []

/-- The events of a leave. -/
theorem addsOnly_createActionEvents (config : ChatConfig)
    (displayName : User → String) (session : ApiSession)
    (conversation : ConversationModel) :
    AddsOnly (IsEventOf conversation.id session.userId)
      (createActionEvents config displayName session conversation) := by
  rw [createActionEvents]
  split
  · refine guarantees_bind ?_ (fun _ => guarantees_pure _)
    refine guarantees_bind_returns (addsOnly_query _)
      (returns_findUserById session.userId) (fun currentUser hcurrent => ?_)
    refine guarantees_bind (addsOnly_query _) (fun _ =>
      guarantees_bind (addsOnly_requireUser _) (fun _ => ?_))
    refine guarantees_bind_returns (addsOnly_requireUser _)
      (returns_requireUser hcurrent) (fun creator hcreator => ?_)
    exact guarantees_bind (MessageResults.addsOnly_createMessage
      (fun mid => ⟨rfl, hcreator, rfl⟩)) (fun _ => guarantees_pure _)
  · exact guarantees_pure []

end ConversationResults

namespace MessageOperations

variable {config : ChatConfig} {session : ConversationSession}
  {W : ChatMessage → Prop}

theorem leavesAll_checkBlocked (conversation : ConversationModel) :
    LeavesAll (checkBlocked session conversation) := by
  rw [checkBlocked]
  split
  · refine guarantees_bind (leavesAll_query _) (fun blockedUserIds => ?_)
    split
    · exact guarantees_pure _
    · exact guarantees_throw _
  · exact guarantees_pure _

theorem leavesAll_validateRepliedMessageId (c : ObjectId)
    (mid : Option TextId) :
    LeavesAll (validateRepliedMessageId session c mid) := by
  cases mid with
  | none => exact guarantees_pure _
  | some mid =>
      refine guarantees_bind (leavesAll_query _) (fun message => ?_)
      split
      · exact guarantees_pure _
      · exact guarantees_throw _

theorem addsOnly_createMessage {conversation : ConversationModel}
    {user : User} {body : Option String} {deletedFor : List IdParam}
    (hnew : ∀ mid, W ⟨⟨mid, conversation.id, user.id⟩, user.organizationId,
      body, deletedFor.filterMap IdParam.queryId?⟩) :
    AddsOnly W (createMessage conversation user body deletedFor) :=
  guarantees_bind (addsOnly_query _) (fun _ =>
    guarantees_bind (guarantees_command (fun _ => .createMessage (hnew _)))
      (fun _ => addsOnly_query _))

theorem addsOnly_restoreMembers (conversation : ConversationModel) :
    AddsOnly W (restoreMembers config conversation) := by
  rw [restoreMembers]
  split
  · refine guarantees_bind (addsOnly_onConversations _) (fun missed => ?_)
    split
    · exact guarantees_pure _
    · exact guarantees_pure _
  · exact guarantees_pure _

/-- A message as its sender wrote it or as the script of the conversation
rewrote it, or the answer that the script gives in the name of a bot. -/
def IsSent (config : ChatConfig) (userId c : ObjectId)
    (params : MessageParams) (message : ChatMessage) : Prop :=
  message.cid = c ∧
  message.deletedFor = params.deletedFor.filterMap IdParam.queryId? ∧
  ∃ response, config.executeHandler c params = some response ∧
    (message.sender = userId ∧
        message.body = response.newBody.getD params.body ∨
      ∃ bot body, response.botMessage = some (bot, body) ∧
        message.sender = bot.id ∧ message.body = body)

/-- What follows the access of a create. -/
theorem addsOnly_create_rest {params : MessageParams}
    {conversation : ConversationModel} {currentUser : Option User}
    (hcurrent : ∀ user ∈ currentUser, user.id = session.userId) :
    AddsOnly (IsSent config session.userId conversation.id params) (do
      checkBlocked session conversation
      validateRepliedMessageId session conversation.id params.repliedMessageId
      let user ← requireUser currentUser
      let response ← executeConversationHandler config conversation params
      let created ← createMessage conversation user
        (response.newBody.getD params.body) params.deletedFor
      let restored ← restoreMembers config conversation
      let answered ← createBotMessage conversation response.botMessage
        params.deletedFor
      pure (restored ++ created ++ answered)) := by
  refine guarantees_bind (leavesAll_checkBlocked _).addsOnly (fun _ =>
    guarantees_bind (leavesAll_validateRepliedMessageId _ _).addsOnly
      (fun _ => ?_))
  refine guarantees_bind_returns (addsOnly_requireUser _)
    (returns_requireUser hcurrent) (fun user huser => ?_)
  rw [executeConversationHandler]
  cases hresponse : config.executeHandler conversation.id params with
  | none => exact guarantees_throw _
  | some response =>
      change AddsOnly _ (createMessage conversation user
        (response.newBody.getD params.body) params.deletedFor >>= _)
      refine guarantees_bind (addsOnly_createMessage (fun mid =>
        ⟨rfl, rfl, response, hresponse, Or.inl ⟨huser, rfl⟩⟩)) (fun _ => ?_)
      refine guarantees_bind (addsOnly_restoreMembers _) (fun _ => ?_)
      refine guarantees_bind ?_ (fun _ => guarantees_pure _)
      rw [createBotMessage.eq_def]
      split
      · exact guarantees_pure _
      · next bot body hbot =>
          exact addsOnly_createMessage (fun mid => ⟨rfl, rfl, response,
            hresponse, Or.inr ⟨bot, body, hbot, rfl, rfl⟩⟩)

/-! ### Requests without a message -/

theorem leavesAll_read (cid : TextId) (ids : Option (List IdParam)) :
    LeavesAll (read config session cid ids) := by
  refine guarantees_bind (leavesAll_hasAccess _ _ _ _) (fun access => ?_)
  refine guarantees_bind ?_ (fun mids => guarantees_bind
    (guarantees_command (fun _ => ⟨rfl, rfl, rfl⟩))
    (fun _ => guarantees_pure _))
  cases ids with
  | none => exact guarantees_pure _
  | some ids =>
      exact guarantees_bind (guarantees_ofExcept _)
        (fun _ => guarantees_pure _)

theorem leavesAll_summary (cid : TextId) (filter : SummaryFilter) :
    LeavesAll (summary config session cid filter) := by
  refine guarantees_bind (leavesAll_hasAccess _ _ _ _) (fun access => ?_)
  refine guarantees_bind ?_ (fun messages => ?_)
  · cases filter with
    | period inPeriod => exact leavesAll_query _
    | unreads => exact leavesAll_query _
    | absent => exact guarantees_pure _
  · split
    · exact guarantees_pure _
    · exact guarantees_ofExcept _

theorem leavesAll_typing (cid : TextId) :
    LeavesAll (typing config session cid) :=
  guarantees_bind (leavesAll_hasAccess _ _ _ _) (fun _ =>
    guarantees_bind (leavesAll_checkBlocked _) (fun _ => leavesAll_query _))

theorem leaves_upsertMessageStatus (chat : ChatStore) (cid : TextId)
    (mids : List ObjectId) (userId : ObjectId) (status : ReadStatus) :
    Leaves chat (chat.upsertMessageStatus cid mids userId status) := by
  cases cid <;> exact ⟨rfl, rfl, rfl⟩

theorem leavesAll_decryptionFailed (cid : TextId) (mids : List ObjectId) :
    LeavesAll (decryptionFailed session cid mids) := by
  refine guarantees_bind (leavesAll_query _) (fun _ =>
    guarantees_bind (leavesAll_requireUser _) (fun _ =>
      guarantees_bind (guarantees_command (fun chat =>
        leaves_upsertMessageStatus chat _ _ _ _)) (fun _ => ?_)))
  refine guarantees_bind (leavesAll_query _) (fun conversation => ?_)
  cases conversation with
  | none => exact guarantees_throw _
  | some conversation =>
      dsimp only
      split
      · exact guarantees_pure _
      · exact guarantees_pure _

theorem leavesAll_hasAccessToReactions (messageId : IdParam) :
    LeavesAll (hasAccessToReactions config session messageId) := by
  refine guarantees_bind (guarantees_bind (leavesAll_query _)
    (fun _ => guarantees_pure _)) (fun found => ?_)
  cases found with
  | none => exact guarantees_throw _
  | some found => exact guarantees_pure _

theorem leaves_updateReactions (chat : ChatStore) (mid userId : ObjectId)
    (add remove : Option String) :
    Leaves chat (chat.updateReactions mid userId add remove).2 := by
  have hadd : Leaves chat (chat.addReaction mid userId add).2 := by
    rw [ChatStore.addReaction]
    split
    · exact .refl chat
    · split <;> exact ⟨rfl, rfl, rfl⟩
  refine hadd.trans ?_
  change Leaves _ ((chat.addReaction mid userId add).2.removeReaction mid
    userId remove).2
  rw [ChatStore.removeReaction]
  split
  · exact .refl _
  · split <;> exact ⟨rfl, rfl, rfl⟩

theorem leavesAll_conversationOf (message : ChatMessage) :
    LeavesAll (conversationOf message) := by
  refine guarantees_bind (leavesAll_query _) (fun conversation => ?_)
  cases conversation with
  | none => exact guarantees_throw _
  | some params => exact guarantees_pure _

theorem leavesAll_updateReactions (messageId : IdParam)
    (add remove : Option String) :
    LeavesAll (updateReactions config session messageId add remove) := by
  refine guarantees_bind (leavesAll_hasAccessToReactions _) (fun message =>
    guarantees_bind (guarantees_command (fun chat =>
      leaves_updateReactions chat _ _ _ _)) (fun isUpdated => ?_))
  rw [deliverReactions]
  split
  · refine guarantees_bind (leavesAll_conversationOf message)
      (fun conversation => ?_)
    split
    · exact guarantees_pure _
    · exact leavesAll_query _
  · exact guarantees_pure _

end MessageOperations

open MessageOperations

/-- A request on a message that is no edit. -/
theorem MessageRequest.leavesAll_perform {config : ChatConfig}
    {session : ConversationSession}
    {request : MessageRequest} (hedit : request.isEdit = false) :
    LeavesAll (request.perform config session) := by
  cases request with
  | edit messageId newBody => cases hedit
  | reactionsUpdate messageId add remove =>
      exact guarantees_bind (leavesAll_updateReactions _ _ _)
        (fun _ => guarantees_pure _)
  | reactionsList messageId =>
      exact guarantees_bind (guarantees_bind (leavesAll_hasAccessToReactions _)
        (fun _ => leavesAll_query _)) (fun _ => guarantees_pure _)

/-- A create or a subscription. -/
theorem ConversationResults.addsOnly_create {config : ChatConfig}
    {session : ApiSession} {W : ChatMessage → Prop} (params : CreateParams) :
    AddsOnly W (create config session params) := by
  refine guarantees_bind (addsOnly_query _) (fun _ =>
    guarantees_bind (addsOnly_onConversations _) (fun _ =>
      guarantees_bind (addsOnly_onConversations _) (fun _ => ?_)))
  dsimp only
  split
  · refine guarantees_bind (guarantees_bind (addsOnly_query _) (fun _ =>
      guarantees_bind (addsOnly_requireUser _) (fun _ => guarantees_pure _)))
      (fun _ => guarantees_pure _)
  · exact guarantees_pure _

end SamaServer
