/-
The requests that notify a conversation.  The packets about messages are those
of the message operations; the report of a failed decryption and the event of
a participant who leaves are built here.
-/
import SamaServer.ConversationOperations
import SamaServer.DeliverPackages
import SamaServer.Membership

namespace SamaServer

inductive ParticipantEvent
  | added
  | removed
  | left

/-- `ACTION_PARTICIPANT_MESSAGE` -/
def ParticipantEvent.text : ParticipantEvent → String
  | added => "has been added to the conversation"
  | removed => "has been removed from the conversation"
  | left => "has left the conversation"

structure ActionEvent where
  message : ResponsePacket
  cId : ObjectId
  participantIds : Option (List (Option StoredId))

structure ConversationDeleteResult where
  organizationId : ObjectId
  currentUserId : ObjectId
  conversationEvents : List ActionEvent

/-- The answer to a request with events. -/
structure EventResponse where
  backMessages : List ResponsePacket
  deliverMessages : List DeliverPackage

namespace ConversationResults

open Fallible MessageOperations

variable (config : ChatConfig) (displayName : User → String)
  (session : ApiSession)

/-- The event is a message, stored for the user who acts. -/
def participantActionEvent (eventType : ParticipantEvent)
    (conversation : ConversationModel)
    (userActionCreator userActioned : User) : ChatProgram ResponsePacket := do
  let created ← MessageResults.createMessage conversation userActionCreator
    (some (displayName userActioned ++ " " ++ eventType.text)) []
  pure created.packet

/-- The user who leaves is read twice, and the name of one who is not found
throws. -/
def participantsActionEvent (conversation : ConversationModel) :
    ChatProgram ResponsePacket := do
  let currentUser ← query (fun chat =>
    .ok (chat.conversations.findUserById session.userId))
  let actionedUser ← query (fun chat =>
    .ok (chat.conversations.findUserById session.userId))
  let userActioned ← requireUser actionedUser
  let userActionCreator ← requireUser currentUser
  participantActionEvent displayName .left conversation userActionCreator
    userActioned

/-- The events of a leave.  In a private conversation they name the opponent,
whoever leaves. -/
def createActionEvents (conversation : ConversationModel) :
    ChatProgram (List ActionEvent) :=
  if config.conversations.isEventsEnabled then do
    let message ← participantsActionEvent displayName session conversation
    pure [⟨message, conversation.id,
      if conversation.params.type = .u then
        some [conversation.params.opponentId]
      else none⟩]
  else pure []

/-- `ConversationDeleteOperation` -/
def delete (conversationId : IdParam) :
    ChatProgram ConversationDeleteResult := do
  let access ← onConversations (ConversationService.hasAccessToConversation
    config.conversations session.toConversationSession conversationId true)
  match access with
  | none => fail .badRequest
  | some access =>
      if access.asParticipant then do
        let _ ← onConversations (ConversationService.removeParticipants
          config.conversations access.conversation [session.userId])
        let conversationEvents ← createActionEvents config displayName session
          access.conversation
        pure ⟨session.organizationId, session.userId, conversationEvents⟩
      else fail .participantNotFound

end ConversationResults

namespace ConversationsController

open Fallible

/-- `find` over ids that are compared by their texts; a missing one has
none. -/
def findsUser (currentUserId : ObjectId) :
    List (Option StoredId) → Except ConversationError Bool
  | [] => .ok false
  | none :: _ => .error .typeError
  | some pId :: participantIds => do
      let isCurrentUser ← pId.param.isEqualsNativeIds
        (.hex currentUserId true)
      if isCurrentUser then pure true
      else findsUser currentUserId participantIds

def deliverMessage (organizationId : ObjectId) (event : ActionEvent) :
    DeliverPackage :=
  ((DeliverPackage.new (.organization (some organizationId))
    (.response event.message) false).setUsersDestination event.participantIds
      none).setConversationDestination (some (.hex event.cId true)) none

/-- The loop over the events.  A user who is named in an event of their own
gets it back at once. -/
def addEvents (organizationId currentUserId : ObjectId) :
    List ActionEvent → Except ConversationError EventResponse
  | [] => .ok ⟨[], []⟩
  | event :: conversationEvents => do
      let isCurrentUser ← findsUser currentUserId
        (event.participantIds.getD [])
      let response ← addEvents organizationId currentUserId conversationEvents
      pure ⟨(if isCurrentUser then [event.message] else []) ++
          response.backMessages,
        deliverMessage organizationId event :: response.deliverMessages⟩

def delete (config : ChatConfig) (displayName : User → String)
    (session : ApiSession) (conversationId : IdParam) :
    ChatProgram EventResponse := do
  let result ← ConversationResults.delete config displayName session
    conversationId
  ofExcept (addEvents result.organizationId result.currentUserId
    result.conversationEvents)

end ConversationsController

/-- The receiver is passed in the place of the organization, and no
destination is set. -/
def MessagesController.decryptionFailed (session : ApiSession) (cid : TextId)
    (ids : List ObjectId) : ChatProgram (List DeliverPackage) := do
  let receiverUserId ← MessageOperations.decryptionFailed
    session.toConversationSession cid ids
  pure [.new (.receivers [receiverUserId])
    (.decryptionFailed cid ids session.userId) false]

/-- A request with a packet for the other participants. -/
inductive NotifyingRequest
  | message (params : MessageParams)
  | messageEdit (id : IdParam) (body : String)
  | reactionsUpdate (mid : IdParam) (add remove : Option String)
  | messageDelete (cid : TextId) (ids : List IdParam) (isDeleteAll : Bool)
  | decryptionFailed (cid : TextId) (ids : List ObjectId)
  | conversationDelete (id : IdParam)

namespace NotifyingRequest

open Fallible

/-- The deliver messages of the message controller. -/
def packages (program : ChatProgram (List DeliverMessage)) :
    ChatProgram (List DeliverPackage) := do
  let messages ← program
  pure (messages.map .ofMessage)

/-- The deliver messages in the answer to a request. -/
def handle (config : ChatConfig) (displayName : User → String)
    (session : ApiSession) :
    NotifyingRequest → ChatProgram (List DeliverPackage)
  | message params =>
      packages (MessagesController.create config session params)
  | messageEdit id body =>
      packages (MessagesController.edit config session id body)
  | reactionsUpdate mid add remove =>
      packages (MessagesController.reactionsUpdate config session mid add
        remove)
  | messageDelete cid ids isDeleteAll =>
      packages (MessagesController.delete config session cid ids isDeleteAll)
  | decryptionFailed cid ids =>
      MessagesController.decryptionFailed session cid ids
  | conversationDelete id => do
      let response ← ConversationsController.delete config displayName session
        id
      pure response.deliverMessages

end NotifyingRequest

/-! ### The leave on the conversations alone -/

namespace ConversationResults

open Fallible MessageOperations

variable (config : ChatConfig) (displayName : User → String)
  (session : ApiSession)

theorem exec_participantsActionEvent_none {chat : ChatStore}
    (hnone : chat.conversations.findUserById session.userId = none)
    (conversation : ConversationModel) :
    (participantsActionEvent displayName session conversation).exec chat =
      (.error .typeError, chat) := by
  rw [participantsActionEvent, query, exec_command_bind]
  dsimp only
  rw [exec_command_bind, hnone]
  rfl

/-- The event writes a message and leaves the conversations alone. -/
theorem exec_participantsActionEvent_some {chat : ChatStore} {user : User}
    (huser : chat.conversations.findUserById session.userId = some user)
    (conversation : ConversationModel) :
    ∃ message after,
      (participantsActionEvent displayName session conversation).exec chat =
        (.ok (.message message), after) ∧
      after.conversations = chat.conversations := by
  rw [participantsActionEvent, query, exec_command_bind]
  dsimp only
  rw [exec_command_bind, huser]
  exact ⟨_, _, rfl, rfl⟩

/-- Whether there is an event to make and a user to make it of. -/
theorem exec_createActionEvents (conversation : ConversationModel)
    (chat : ChatStore) :
    (config.conversations.isEventsEnabled = false ∧
      (createActionEvents config displayName session conversation).exec chat =
        (.ok [], chat)) ∨
    (config.conversations.isEventsEnabled = true ∧
      chat.conversations.findUserById session.userId = none ∧
      (createActionEvents config displayName session conversation).exec chat =
        (.error .typeError, chat)) ∨
    ∃ user message after,
      config.conversations.isEventsEnabled = true ∧
      chat.conversations.findUserById session.userId = some user ∧
      (createActionEvents config displayName session conversation).exec chat =
        (.ok [⟨.message message, conversation.id,
          if conversation.params.type = .u then
            some [conversation.params.opponentId]
          else none⟩], after) ∧
      after.conversations = chat.conversations := by
  rw [createActionEvents]
  by_cases hevents : config.conversations.isEventsEnabled = true
  · rw [if_pos hevents]
    cases huser : chat.conversations.findUserById session.userId with
    | none =>
        have hexec := exec_participantsActionEvent_none displayName session
          huser conversation
        exact Or.inr (Or.inl ⟨hevents, rfl, exec_bind_error hexec _⟩)
    | some user =>
        obtain ⟨message, after, hexec, hsame⟩ :=
          exec_participantsActionEvent_some displayName session huser
            conversation
        refine Or.inr (Or.inr ⟨user, message, after, hevents, rfl, ?_, hsame⟩)
        rw [exec_bind_ok hexec, exec_pure]
  · rw [if_neg hevents]
    exact Or.inl ⟨by simpa using hevents, rfl⟩

theorem exec_onConversations {A : Type} {program : ConversationProgram A}
    {chat : ChatStore} {outcome : Except ConversationError A}
    {after : ConversationStore}
    (hexec : program.exec chat.conversations = (outcome, after)) :
    (onConversations program).exec chat =
      (outcome, { chat with conversations := after }) := by
  rw [onConversations, exec_command, hexec]

/-- The event of a leave on the conversations alone only asks for the user. -/
theorem exec_createUserEvent (s : ConversationStore) :
    (ConversationOperations.createUserEvent config.conversations
      session.toConversationSession).exec s =
      (if config.conversations.isEventsEnabled = true ∧
          s.findUserById session.userId = none then
        (.error .typeError, s) else (.ok (), s)) := by
  rw [ConversationOperations.createUserEvent]
  cases config.conversations.isEventsEnabled with
  | false => simp
  | true =>
      cases huser : s.findUserById session.userId <;>
        simp [ConversationService.query, huser]

/-- A removal of one user succeeds and takes away the rows of that user. -/
theorem exec_removeParticipant (config : ConversationConfig)
    (conversation : ConversationModel) (userId : ObjectId)
    (s : ConversationStore) :
    ∃ result after,
      (ConversationService.removeParticipants config conversation
        [userId]).exec s = (.ok result, after) ∧
      ∀ other, other ∈ after.userIdsOf conversation.id ↔
        other ∈ s.userIdsOf conversation.id ∧ other ≠ .id userId := by
  obtain ⟨removed, shrunk, hshrinks, hremoved, hremoval⟩ :=
    ConversationService.exec_removeParticipants config conversation [userId] s
  have hleft : ∀ other, other ∈ shrunk.userIdsOf conversation.id ↔
      other ∈ s.userIdsOf conversation.id ∧ other ≠ .id userId := by
    intro other
    rw [hshrinks.userIds, List.mem_filter]
    refine and_congr_right (fun hother => ?_)
    simp only [List.mem_map, hremoved, List.mem_singleton,
      decide_not, Bool.not_eq_true', decide_eq_false_iff_not]
    constructor
    · rintro hnot rfl
      exact hnot ⟨userId, ⟨rfl, hother⟩, rfl⟩
    · rintro hne ⟨_, ⟨rfl, _⟩, rfl⟩
      exact hne rfl
  rcases hremoval with ⟨-, hexec⟩ | ⟨_, _, -, hexec⟩
  · exact ⟨_, _, hexec, hleft⟩
  · refine ⟨_, _, hexec, fun other => ?_⟩
    rw [ConversationStore.userIdsOf_writeCount,
      ConversationStore.userIdsOf_writeOwner]
    exact hleft other

theorem found_of_hasAccessToConversation {config : ConversationConfig}
    {session : ConversationSession} {conversationId : IdParam}
    {isHeld : Bool} {access : ConversationService.ConversationAccess}
    {s t : ConversationStore}
    (haccess : (ConversationService.hasAccessToConversation config session
      conversationId isHeld).exec s = (.ok (some access), t)) :
    s.findByIdWithOrgScope config.server session.organizationId
        conversationId = .ok (some access.conversation) ∧ t = s := by
  have hsame := (ConversationService.readOnly_hasAccessToConversation config
    session conversationId isHeld).eq_of_exec haccess
  rw [ConversationService.hasAccessToConversation,
    ConversationService.exec_query_bind] at haccess
  split at haccess
  · next found hfound =>
      cases found with
      | none => cases haccess
      | some conversation =>
          cases haccess
          exact ⟨hfound, rfl⟩
  · cases haccess

/-- What a leave that succeeds has gone through. -/
theorem of_exec_delete {config : ChatConfig} {displayName : User → String}
    {session : ApiSession} {conversationId : IdParam}
    {result : ConversationDeleteResult} {chat after : ChatStore}
    (hexec : (delete config displayName session conversationId).exec chat =
      (.ok result, after)) :
    ∃ conversation left conversationEvents,
      result = ⟨session.organizationId, session.userId,
        conversationEvents⟩ ∧
      chat.conversations.findByIdWithOrgScope config.conversations.server
        session.organizationId conversationId = .ok (some conversation) ∧
      (∀ other, other ∈ left.userIdsOf conversation.id ↔
        other ∈ chat.conversations.userIdsOf conversation.id ∧
          other ≠ .id session.userId) ∧
      (createActionEvents config displayName session conversation).exec
        { chat with conversations := left } =
          (.ok conversationEvents, after) := by
  obtain ⟨found, _, haccess, hrest⟩ := of_exec_bind_ok hexec
  rcases hchecked : (ConversationService.hasAccessToConversation
    config.conversations session.toConversationSession conversationId
      true).exec chat.conversations with ⟨outcome, checked⟩
  rw [exec_onConversations hchecked] at haccess
  cases haccess
  cases found with
  | none => cases hrest
  | some access =>
      obtain ⟨hfound, rfl⟩ := found_of_hasAccessToConversation hchecked
      dsimp only at hrest
      by_cases hparticipant : access.asParticipant = true
      · rw [if_pos hparticipant] at hrest
        obtain ⟨_, _, hremoved, hrest⟩ := of_exec_bind_ok hrest
        obtain ⟨removed, left, hremove, hleft⟩ := exec_removeParticipant
          config.conversations access.conversation session.userId
          chat.conversations
        rw [exec_onConversations hremove] at hremoved
        cases hremoved
        obtain ⟨conversationEvents, _, hcreated, hrest⟩ :=
          of_exec_bind_ok hrest
        cases hrest
        exact ⟨access.conversation, left, conversationEvents, rfl, hfound,
          hleft, hcreated⟩
      · rw [if_neg hparticipant] at hrest
        cases hrest

/-- The conversations are left as the operation on them alone leaves them,
and the errors are the same. -/
theorem delete_refines (conversationId : IdParam) (chat : ChatStore) :
    let outcome := (delete config displayName session conversationId).exec
      chat
    (outcome.1.map (fun _ => ()), outcome.2.conversations) =
      (ConversationOperations.delete config.conversations
        session.toConversationSession conversationId).exec
          chat.conversations := by
  rcases haccess : (ConversationService.hasAccessToConversation
    config.conversations session.toConversationSession conversationId
      true).exec chat.conversations with ⟨outcome, between⟩
  rw [delete, ConversationOperations.delete]
  cases outcome with
  | error error =>
      rw [exec_bind_error haccess, exec_bind_error (exec_onConversations
        haccess)]
      rfl
  | ok found =>
      rw [exec_bind_ok haccess, exec_bind_ok (exec_onConversations haccess)]
      cases found with
      | none => rfl
      | some access =>
          dsimp only
          by_cases hparticipant : access.asParticipant = true
          · rw [if_pos hparticipant, if_pos hparticipant]
            obtain ⟨result, left, hremove, -⟩ := exec_removeParticipant
              config.conversations access.conversation session.userId between
            rw [exec_bind_ok hremove, exec_bind_ok (exec_onConversations
              hremove), exec_createUserEvent]
            rcases exec_createActionEvents config displayName session
              access.conversation { chat with conversations := left } with
              ⟨hdisabled, hevents⟩ | ⟨henabled, hnone, hevents⟩ |
                ⟨user, message, after, henabled, huser, hevents, hsame⟩
            · rw [exec_bind_ok hevents, if_neg (by simp [hdisabled])]
              rfl
            · rw [exec_bind_error hevents, if_pos ⟨henabled, hnone⟩]
              rfl
            · have hfound : ¬(config.conversations.isEventsEnabled = true ∧
                  left.findUserById session.userId = none) :=
                fun hboth => absurd (huser.symm.trans hboth.2) (by simp)
              rw [exec_bind_ok hevents, if_neg hfound, exec_pure]
              dsimp only
              rw [hsame]
              rfl
          · rw [if_neg hparticipant, if_neg hparticipant]
            rfl

end ConversationResults

end SamaServer
