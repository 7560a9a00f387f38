/-
Who is notified of a request.  The packets about messages go to the members of
a private conversation or to the participants of any other.  A report of a
failed decryption goes to nobody, and the event of a leave always goes to the
opponent of a private conversation.
-/
import SamaServer.ControllerAgreement
import SamaServer.MessageAccess
import SamaServer.NotifyingRequests

namespace SamaServer

namespace NotifyingRequest

open Fallible MessageOperations

/-! ### Who should be notified -/

/-- The two members of a private conversation. -/
def IsMember (conversation : ConversationModel) (userId : StoredId) : Prop :=
  conversation.params.ownerId = userId ∨
    conversation.params.opponentId = some userId

def storedAt (chat : ChatStore) (id : ObjectId) : Option ConversationModel :=
  (chat.conversations.conversations.get? id).map (ConversationModel.mk id)

def named (chat : ChatStore) : TextId → Option ConversationModel
  | .hex id _ => storedAt chat id
  | .other _ => none

variable (config : ChatConfig) (session : ApiSession) (chat : ChatStore)

def conversationOfMessage (messageId : IdParam) : Option ConversationModel :=
  (chat.findMessage config.conversations.server config.pickMessage
    messageId).toOption.join.bind (fun message => storedAt chat message.cid)

/-- The conversation that a request is about. -/
def conversation : NotifyingRequest → Option ConversationModel
  | message params => named chat params.cid
  | messageEdit id _ => conversationOfMessage config chat id
  | reactionsUpdate mid _ _ => conversationOfMessage config chat mid
  | messageDelete cid _ _ => named chat cid
  | decryptionFailed cid _ => named chat cid
  | conversationDelete id => (chat.conversations.findByIdWithOrgScope
      config.conversations.server session.organizationId id).toOption.join

/-- The users who should be notified: the other member of a private
conversation of a report, the participants who are left after a leave, and
the members or participants of a conversation with a packet about messages. -/
def IsAudience (conversation : ConversationModel) (after : ChatStore)
    (userId : StoredId) : NotifyingRequest → Prop
  | decryptionFailed _ _ =>
      conversation.params.type = .u ∧ IsMember conversation userId ∧
        userId ≠ .id session.userId
  | conversationDelete _ =>
      userId ∈ after.conversations.userIdsOf conversation.id
  | _ =>
      if conversation.params.type = .u then IsMember conversation userId
      else userId ∈ after.conversations.userIdsOf conversation.id

/-- The event for the members who come back to a private conversation goes
with a message, and is about them alone. -/
def isRestoreEvent : PackagePacket → Bool
  | .response (.conversationCreated _ _) => true
  | _ => false

/-- The processor of the packet calls for a user. -/
def IsDestination (s : ConversationStore) (packages : List DeliverPackage)
    (package : DeliverPackage) (userId : StoredId) : Prop :=
  ∃ userIds, (package, userIds) ∈
    DeliverPackage.processDeliverResponse s packages ∧ some userId ∈ userIds

/-- Each deliver message is sent to the users who should be notified. -/
def Notifies (packages : List DeliverPackage) (after : ChatStore)
    (request : NotifyingRequest) : Prop :=
  ∀ package ∈ packages, isRestoreEvent package.packet = false →
    ∃ conversation, request.conversation config session chat =
        some conversation ∧
      ∀ userId, IsDestination after.conversations packages package userId ↔
        request.IsAudience session conversation after userId

/-- The request is no report from a private conversation with another member,
and no leave of a private conversation with an event, unless the caller is not
the opponent, the opponent has a row and nobody else has one. -/
def IsServed : NotifyingRequest → Prop
  | decryptionFailed cid _ =>
      ∀ conversation, named chat cid = some conversation →
        conversation.params.type = .u →
        ∀ userId, IsMember conversation userId → userId = .id session.userId
  | conversationDelete id =>
      ∀ conversation, (conversationDelete id).conversation config session
          chat = some conversation →
        conversation.params.type = .u →
        config.conversations.isEventsEnabled = true →
        conversation.params.opponentId ≠ some (.id session.userId) ∧
          (∀ opponentId, conversation.params.opponentId = some opponentId →
            opponentId ∈ chat.conversations.userIdsOf conversation.id) ∧
          ∀ userId ∈ chat.conversations.userIdsOf conversation.id,
            userId = .id session.userId ∨
              conversation.params.opponentId = some userId
  | _ => True

variable {config session chat}

/-! ### Packets about messages -/

theorem isDestination_iff {s : ConversationStore}
    {packages : List DeliverPackage} {package : DeliverPackage}
    (hpackage : package ∈ packages) (userId : StoredId) :
    IsDestination s packages package userId ↔ package.IsSentTo s userId := by
  simp only [IsDestination, DeliverPackage.mem_processDeliverResponse,
    hpackage, true_and, DeliverPackage.IsSentTo]

/-- A packet for the members of a private conversation or for the
participants of any other. -/
def IsForConversation (conversation : ConversationModel)
    (message : DeliverMessage) : Prop :=
  message.userIds = MessageResults.participantsIds conversation ∧
    message.cId = some (.hex conversation.id true)

theorem IsForConversation.isSentTo {conversation : ConversationModel}
    {message : DeliverMessage}
    (hfor : IsForConversation conversation message) (s : ConversationStore)
    (userId : StoredId) :
    (DeliverPackage.ofMessage message).IsSentTo s userId ↔
      if conversation.params.type = .u then IsMember conversation userId
      else userId ∈ s.userIdsOf conversation.id := by
  have husers : (DeliverPackage.ofMessage message).userIds =
      message.userIds.map (List.map some) := rfl
  rw [hfor.1, MessageResults.participantsIds] at husers
  by_cases hprivate : conversation.params.type = .u
  · rw [if_pos hprivate] at husers ⊢
    rw [DeliverPackage.isSentTo_users husers
      (by simp [privateParticipantsIds])]
    simp [privateParticipantsIds, IsMember, eq_comm]
  · rw [if_neg hprivate] at husers ⊢
    exact DeliverPackage.isSentTo_conversation husers hfor.2 rfl userId

/-- Every message is for the conversation, except an event for the members
who come back to it. -/
def AreFor (conversation : Option ConversationModel)
    (messages : List DeliverMessage) : Prop :=
  ∀ message ∈ messages, isRestoreEvent (.response message.packet) = false →
    ∃ model, conversation = some model ∧ IsForConversation model message

/-- The packets of the message controller that are for the conversation. -/
theorem notifies_of_areFor {request : NotifyingRequest}
    {program : ChatProgram (List DeliverMessage)}
    {deliverPackages : List DeliverPackage} {after : ChatStore}
    (hexec : (packages program).exec chat = (.ok deliverPackages, after))
    (haudience : ∀ conversation userId,
      request.IsAudience session conversation after userId ↔
        if conversation.params.type = .u then IsMember conversation userId
        else userId ∈ after.conversations.userIdsOf conversation.id)
    (hmessages : ∀ messages, program.exec chat = (.ok messages, after) →
      AreFor (request.conversation config session chat) messages) :
    request.Notifies config session chat deliverPackages after := by
  obtain ⟨messages, _, hprogram, hpackages⟩ := of_exec_bind_ok hexec
  cases hpackages
  intro package hpackage hevent
  obtain ⟨message, hmessage, rfl⟩ := List.mem_map.1 hpackage
  obtain ⟨conversation, hconversation, hfor⟩ :=
    hmessages messages hprogram message hmessage hevent
  refine ⟨conversation, hconversation, fun userId => ?_⟩
  rw [isDestination_iff hpackage, hfor.isSentTo, haudience]

/-- An access that was granted is one to the conversation that is named. -/
theorem named_of_hasAccess
    {refuses : ConversationService.ConversationAccess → Bool} {cid : TextId}
    {access : ConversationService.ConversationAccess} {after : ChatStore}
    (hexec : (hasAccess config session.toConversationSession refuses cid).exec
      chat = (.ok access, after)) :
    named chat cid = some access.conversation ∧ after = chat := by
  rcases exec_hasAccess_cases config session.toConversationSession refuses
    cid chat with ⟨granted, hgranted, hok⟩ | ⟨-, status, -, herror⟩
  · rw [hok] at hexec
    cases hexec
    obtain ⟨c, isLowerCase, stored, rfl, hget, -, rfl, -, -⟩ := hgranted
    exact ⟨by rw [named, storedAt, hget]; rfl, rfl⟩
  · rw [herror] at hexec
    cases hexec

theorem returns_createMessage (conversation : ConversationModel)
    (user : User) (body : Option String) (deletedFor : List IdParam) :
    (MessageResults.createMessage conversation user body deletedFor).Returns
      (fun event => event.participantIds = none) :=
  returns_bind _ (fun _ => returns_bind _ (fun _ => returns_pure rfl))

theorem returns_createBotMessage (conversation : ConversationModel)
    (botMessage : Option (User × Option String))
    (deletedFor : List IdParam) :
    (MessageResults.createBotMessage conversation botMessage
      deletedFor).Returns
      (fun events => ∀ event ∈ events, event.participantIds = none) := by
  cases botMessage with
  | none => exact returns_pure (by simp)
  | some bot =>
      refine returns_bind_returns (returns_createMessage conversation bot.1
        bot.2 deletedFor) (fun created hcreated => returns_pure ?_)
      simpa using hcreated

theorem returns_restoreMembers (conversation : ConversationModel) :
    (MessageResults.restoreMembers config session conversation).Returns
      (fun events => ∀ event ∈ events,
        isRestoreEvent (.response event.packet) = true) := by
  rw [MessageResults.restoreMembers]
  split
  · refine returns_bind _ (fun missed => ?_)
    split
    · exact returns_pure (by simp [isRestoreEvent])
    · exact returns_pure (by simp)
  · exact returns_pure (by simp)

theorem create_messages {params : MessageParams}
    {messages : List DeliverMessage} {after : ChatStore}
    (hexec : (MessagesController.create config session params).exec chat =
      (.ok messages, after)) :
    AreFor (named chat params.cid) messages := by
  obtain ⟨result, _, hresult, hmessages⟩ := of_exec_bind_ok hexec
  cases hmessages
  obtain ⟨currentUser, _, hquery, hrest⟩ := of_exec_bind_ok hresult
  cases hquery
  obtain ⟨access, _, haccess, hrest⟩ := of_exec_bind_ok hrest
  obtain ⟨hnamed, -⟩ := named_of_hasAccess haccess
  obtain ⟨_, _, -, hrest⟩ := of_exec_bind_ok hrest
  obtain ⟨_, _, -, hrest⟩ := of_exec_bind_ok hrest
  obtain ⟨user, _, -, hrest⟩ := of_exec_bind_ok hrest
  obtain ⟨response, _, -, hrest⟩ := of_exec_bind_ok hrest
  obtain ⟨created, _, hcreated, hrest⟩ := of_exec_bind_ok hrest
  obtain ⟨restored, _, hrestored, hrest⟩ := of_exec_bind_ok hrest
  obtain ⟨answered, _, hanswered, hrest⟩ := of_exec_bind_ok hrest
  cases hrest
  have hcreated := (returns_createMessage _ _ _ _).exec
    (congrArg Prod.fst hcreated)
  have hrestored := (returns_restoreMembers _).exec
    (congrArg Prod.fst hrestored)
  have hanswered := (returns_createBotMessage _ _ _).exec
    (congrArg Prod.fst hanswered)
  intro message hmessage hevent
  refine ⟨access.conversation, hnamed, ?_⟩
  obtain ⟨event, hmember, rfl⟩ := List.mem_map.1 hmessage
  rcases List.mem_append.1 hmember with hfirst | hlast
  · rcases List.mem_append.1 hfirst with hrestore | hnew
    · exact absurd (hevent.symm.trans (hrestored event hrestore)) (by decide)
    · rw [List.mem_singleton.1 hnew]
      exact ⟨by rw [hcreated]; rfl, rfl⟩
  · exact ⟨by rw [hanswered event hlast]; rfl, rfl⟩

theorem exec_conversationOf {message : ChatMessage}
    {conversation : ConversationModel} {after : ChatStore}
    (hexec : (conversationOf message).exec chat = (.ok conversation, after)) :
    storedAt chat message.cid = some conversation ∧
      conversation.id = message.cid := by
  obtain ⟨found, between, hquery, hexec⟩ := of_exec_bind_ok hexec
  cases hquery
  cases hget : chat.conversations.conversations.get? message.cid with
  | none =>
      rw [hget] at hexec
      cases hexec
  | some stored =>
      rw [hget] at hexec
      cases hexec
      exact ⟨by rw [storedAt, hget]; rfl, rfl⟩

theorem conversations_updateBody (chat : ChatStore) (server : MongoServer)
    (pick : Documents.Choice ChatMessage) (messageId : IdParam)
    (newBody : String) :
    (chat.updateBody server pick messageId newBody).2.conversations =
      chat.conversations := by
  rw [ChatStore.updateBody]
  split <;> rfl

theorem conversationOfMessage_of_found {messageId : IdParam}
    {message : ChatMessage}
    (hfound : chat.findMessage config.conversations.server
      config.pickMessage messageId = .ok (some message)) :
    conversationOfMessage config chat messageId =
      storedAt chat message.cid := by
  rw [conversationOfMessage, hfound]
  rfl

theorem edit_messages {messageId : IdParam} {newBody : String}
    {messages : List DeliverMessage} {after : ChatStore}
    (hexec : (MessagesController.edit config session messageId newBody).exec
      chat = (.ok messages, after)) :
    AreFor (conversationOfMessage config chat messageId) messages := by
  obtain ⟨result, _, hresult, hmessages⟩ := of_exec_bind_ok hexec
  cases hmessages
  obtain ⟨message, _, haccess, hresult⟩ := of_exec_bind_ok hresult
  rcases @MessageRequest.exec_hasAccessToEdit config
    session.toConversationSession chat messageId with
    ⟨found, hfound, -, hok⟩ | ⟨-, error, herror⟩
  · rw [hok] at haccess
    cases haccess
    obtain ⟨_, updated, hupdate, hresult⟩ := of_exec_bind_ok hresult
    have hsame : updated.conversations = chat.conversations := by
      rw [← conversations_updateBody chat config.conversations.server
        config.pickMessage messageId newBody]
      exact congrArg (fun outcome => outcome.2.conversations) hupdate.symm
    obtain ⟨conversation, _, hconversation, hresult⟩ :=
      of_exec_bind_ok hresult
    cases hresult
    obtain ⟨hstored, -⟩ := exec_conversationOf hconversation
    rw [storedAt, hsame] at hstored
    intro message hmessage _
    rw [List.mem_singleton.1 hmessage,
      conversationOfMessage_of_found hfound]
    exact ⟨conversation, hstored, rfl, rfl⟩
  · rw [herror] at haccess
    cases haccess

theorem reactionsUpdate_messages {mid : IdParam} {add remove : Option String}
    {messages : List DeliverMessage} {after : ChatStore}
    (hexec : (MessagesController.reactionsUpdate config session mid add
      remove).exec chat = (.ok messages, after)) :
    AreFor (conversationOfMessage config chat mid) messages := by
  obtain ⟨result, _, hresult, hmessages⟩ := of_exec_bind_ok hexec
  cases hmessages
  obtain ⟨message, _, haccess, -⟩ := of_exec_bind_ok hresult
  rcases @MessageRequest.exec_hasAccessToReactions config
    session.toConversationSession chat mid with
    ⟨found, hfound, -⟩ | ⟨-, error, herror⟩
  · rcases SharedRequest.exec_reactionsUpdate session.toConversationSession
      hfound session.isNative add remove with
      ⟨-, hunchanged⟩ | ⟨-, ⟨-, herror⟩ | ⟨stored, update, hget, hupdated⟩⟩
    · rw [hunchanged] at hresult
      cases hresult
      intro message hmessage
      cases hmessage
    · rw [herror] at hresult
      cases hresult
    · rw [hupdated] at hresult
      cases hresult
      intro message hmessage _
      split at hmessage
      · rw [List.mem_singleton.1 hmessage,
          conversationOfMessage_of_found hfound, storedAt, hget]
        exact ⟨⟨found.cid, stored⟩, rfl, rfl, rfl⟩
      · cases hmessage
  · rw [herror] at haccess
    cases haccess

theorem delete_messages {cid : TextId} {ids : List IdParam}
    {isDeleteAll : Bool} {messages : List DeliverMessage} {after : ChatStore}
    (hexec : (MessagesController.delete config session cid ids
      isDeleteAll).exec chat = (.ok messages, after)) :
    AreFor (named chat cid) messages := by
  obtain ⟨result, _, hresult, hmessages⟩ := of_exec_bind_ok hexec
  cases hmessages
  obtain ⟨access, _, haccess, hrest⟩ := of_exec_bind_ok hresult
  obtain ⟨hnamed, -⟩ := named_of_hasAccess haccess
  obtain ⟨found, _, -, hrest⟩ := of_exec_bind_ok hrest
  obtain ⟨_, _, -, hrest⟩ := of_exec_bind_ok hrest
  obtain ⟨_, _, -, hrest⟩ := of_exec_bind_ok hrest
  cases hrest
  intro message hmessage _
  obtain ⟨packet, -, rfl⟩ := List.mem_map.1 hmessage
  exact ⟨access.conversation, hnamed, rfl, rfl⟩

/-! ### Reports of a failed decryption -/

theorem named_of_findOpponentId {cid : TextId} {receiver : Option StoredId}
    {after : ChatStore}
    (hexec : (findOpponentId session.toConversationSession cid).exec chat =
      (.ok receiver, after)) :
    ∃ conversation, named chat cid = some conversation := by
  obtain ⟨found, _, hquery, hexec⟩ := of_exec_bind_ok hexec
  cases cid with
  | hex id isLowerCase =>
      cases hquery
      cases hget : chat.conversations.conversations.get? id with
      | none =>
          rw [hget] at hexec
          cases hexec
      | some stored => exact ⟨⟨id, stored⟩, by rw [named, storedAt, hget]; rfl⟩
  | other value =>
      cases hquery
      cases hexec

theorem named_upsertMessageStatus (chat : ChatStore) (cid other : TextId)
    (mids : List ObjectId) (userId : ObjectId) (status : ReadStatus) :
    named (chat.upsertMessageStatus cid mids userId status) other =
      named chat other := by
  cases cid <;> cases other <;> rfl

/-- The deliver message of a report names neither users nor a
conversation. -/
theorem decryptionFailed_packages {cid : TextId} {ids : List ObjectId}
    {packages : List DeliverPackage} {after : ChatStore}
    (hexec : (MessagesController.decryptionFailed session cid ids).exec chat =
      (.ok packages, after)) :
    ∃ conversation receiver, named chat cid = some conversation ∧
      packages = [.new (.receivers [receiver])
        (.decryptionFailed cid ids session.userId) false] := by
  obtain ⟨receiver, _, hreport, hpackages⟩ := of_exec_bind_ok hexec
  cases hpackages
  obtain ⟨currentUser, _, hquery, hrest⟩ := of_exec_bind_ok hreport
  cases hquery
  cases huser : chat.conversations.findUserById session.userId with
  | none =>
      rw [huser] at hrest
      cases hrest
  | some user =>
      rw [huser] at hrest
      obtain ⟨_, _, hrequired, hrest⟩ := of_exec_bind_ok hrest
      cases hrequired
      obtain ⟨_, _, hwrite, hrest⟩ := of_exec_bind_ok hrest
      cases hwrite
      obtain ⟨conversation, hnamed⟩ := named_of_findOpponentId hrest
      rw [named_upsertMessageStatus] at hnamed
      exact ⟨conversation, receiver, hnamed, rfl⟩

/-- A report reaches the other member only when there is none. -/
theorem notifies_decryptionFailed {cid : TextId} {ids : List ObjectId}
    {packages : List DeliverPackage} {after : ChatStore}
    (hexec : (MessagesController.decryptionFailed session cid ids).exec chat =
      (.ok packages, after)) :
    (decryptionFailed cid ids).Notifies config session chat packages after ↔
      (decryptionFailed cid ids).IsServed config session chat := by
  obtain ⟨conversation, receiver, hnamed, rfl⟩ :=
    decryptionFailed_packages hexec
  have hnobody : ∀ userId, ¬ IsDestination after.conversations
      [.new (.receivers [receiver])
        (.decryptionFailed cid ids session.userId) false]
      (.new (.receivers [receiver])
        (.decryptionFailed cid ids session.userId) false) userId := by
    intro userId
    rw [isDestination_iff (List.mem_singleton.2 rfl)]
    exact DeliverPackage.isSentTo_nobody rfl rfl userId
  constructor
  · intro hnotifies other hother hprivate userId hmember
    obtain ⟨found, hfound, haudience⟩ := hnotifies _ (List.mem_singleton.2 rfl)
      rfl
    rw [show found = other from Option.some.inj (hfound.symm.trans hother)]
      at haudience
    by_contra hne
    exact hnobody userId ((haudience userId).2 ⟨hprivate, hmember, hne⟩)
  · intro hserved package hpackage _
    rw [List.mem_singleton.1 hpackage]
    refine ⟨conversation, hnamed, fun userId => ⟨fun hsent =>
      absurd hsent (hnobody userId), ?_⟩⟩
    rintro ⟨hprivate, hmember, hne⟩
    exact absurd (hserved conversation hnamed hprivate userId hmember) hne

/-! ### Leaves -/

/-- Each event has its deliver message. -/
theorem addEvents_deliverMessages {organizationId currentUserId : ObjectId}
    {conversationEvents : List ActionEvent} {response : EventResponse}
    (hresponse : ConversationsController.addEvents organizationId
      currentUserId conversationEvents = .ok response) :
    response.deliverMessages = conversationEvents.map
      (ConversationsController.deliverMessage organizationId) := by
  induction conversationEvents generalizing response with
  | nil =>
      cases hresponse
      rfl
  | cons event conversationEvents ih =>
      rw [ConversationsController.addEvents] at hresponse
      cases hfinds : ConversationsController.findsUser currentUserId
          (event.participantIds.getD []) with
      | error error =>
          rw [hfinds] at hresponse
          cases hresponse
      | ok isCurrentUser =>
          rw [hfinds] at hresponse
          cases hrest : ConversationsController.addEvents organizationId
              currentUserId conversationEvents with
          | error error =>
              rw [hrest] at hresponse
              cases hresponse
          | ok rest =>
              rw [hrest] at hresponse
              cases hresponse
              rw [List.map_cons, ← ih hrest]

/-- A leave takes the caller's rows away, and has one deliver message if there
are events. -/
theorem conversationDelete_packages {displayName : User → String}
    {id : IdParam} {response : EventResponse} {after : ChatStore}
    (hexec : (ConversationsController.delete config displayName session
      id).exec chat = (.ok response, after)) :
    ∃ conversation, (conversationDelete id).conversation config session chat =
        some conversation ∧
      (∀ userId,
        userId ∈ after.conversations.userIdsOf conversation.id ↔
          userId ∈ chat.conversations.userIdsOf conversation.id ∧
            userId ≠ .id session.userId) ∧
      (config.conversations.isEventsEnabled = false ∧
          response.deliverMessages = [] ∨
        config.conversations.isEventsEnabled = true ∧
          ∃ message, response.deliverMessages =
            [ConversationsController.deliverMessage session.organizationId
              ⟨.message message, conversation.id,
                if conversation.params.type = .u then
                  some [conversation.params.opponentId]
                else none⟩]) := by
  obtain ⟨result, between, hresult, hevents⟩ := of_exec_bind_ok hexec
  obtain ⟨rfl⟩ : between = after := congrArg Prod.snd hevents
  have hmessages := addEvents_deliverMessages (congrArg Prod.fst hevents)
  obtain ⟨model, left, conversationEvents, rfl, hfound, hleft, hcreated⟩ :=
    ConversationResults.of_exec_delete hresult
  refine ⟨model, by rw [conversation, hfound]; rfl, ?_⟩
  rcases ConversationResults.exec_createActionEvents config displayName
    session model { chat with conversations := left } with
    ⟨hdisabled, hmade⟩ | ⟨-, -, herror⟩ |
      ⟨user, message, written, henabled, -, hmade, hsame⟩
  · rw [hmade] at hcreated
    cases hcreated
    exact ⟨hleft, Or.inl ⟨hdisabled, hmessages⟩⟩
  · rw [herror] at hcreated
    cases hcreated
  · rw [hmade] at hcreated
    cases hcreated
    rw [hsame]
    exact ⟨hleft, Or.inr ⟨henabled, message, hmessages⟩⟩

/-- The event of a leave goes to the opponent of a private conversation. -/
theorem isSentTo_leave (s : ConversationStore) (organizationId : ObjectId)
    (message : ResponsePacket) (conversation : ConversationModel)
    (userId : StoredId) :
    (ConversationsController.deliverMessage organizationId
      ⟨message, conversation.id,
        if conversation.params.type = .u then
          some [conversation.params.opponentId]
        else none⟩).IsSentTo s userId ↔
      if conversation.params.type = .u then
        conversation.params.opponentId = some userId
      else userId ∈ s.userIdsOf conversation.id := by
  by_cases hprivate : conversation.params.type = .u
  · rw [if_pos hprivate, if_pos hprivate]
    refine (DeliverPackage.isSentTo_users rfl (by simp) userId).trans ?_
    rw [List.mem_singleton]
    exact eq_comm
  · rw [if_neg hprivate, if_neg hprivate]
    exact DeliverPackage.isSentTo_conversation rfl rfl rfl userId

/-- The opponent is the only participant who is left. -/
theorem opponent_left_iff {userIds : List StoredId} {leaver : StoredId}
    {opponentId : Option StoredId} :
    (∀ userId, opponentId = some userId ↔
        userId ∈ userIds ∧ userId ≠ leaver) ↔
      opponentId ≠ some leaver ∧
        (∀ opponent, opponentId = some opponent → opponent ∈ userIds) ∧
        ∀ userId ∈ userIds, userId = leaver ∨ opponentId = some userId := by
  constructor
  · intro hleft
    refine ⟨fun hleaver => ((hleft leaver).1 hleaver).2 rfl,
      fun opponent hopponent => ((hleft opponent).1 hopponent).1, ?_⟩
    intro userId huser
    by_cases hleaver : userId = leaver
    · exact Or.inl hleaver
    · exact Or.inr ((hleft userId).2 ⟨huser, hleaver⟩)
  · rintro ⟨hother, hrow, honly⟩ userId
    constructor
    · intro hopponent
      refine ⟨hrow userId hopponent, ?_⟩
      rintro rfl
      exact hother hopponent
    · rintro ⟨huser, hne⟩
      exact (honly userId huser).resolve_left hne

theorem notifies_conversationDelete {displayName : User → String}
    {id : IdParam} {response : EventResponse} {after : ChatStore}
    (hexec : (ConversationsController.delete config displayName session
      id).exec chat = (.ok response, after)) :
    (conversationDelete id).Notifies config session chat
        response.deliverMessages after ↔
      (conversationDelete id).IsServed config session chat := by
  obtain ⟨conversation, hconversation, hleft,
    ⟨hdisabled, hpackages⟩ | ⟨henabled, message, hpackages⟩⟩ :=
      conversationDelete_packages hexec
  · rw [hpackages]
    constructor
    · intro _ other _ _ henabled
      exact absurd (hdisabled.symm.trans henabled) (by decide)
    · intro _ package hpackage
      cases hpackage
  · rw [hpackages]
    have hsent := fun userId => (isDestination_iff
      (s := after.conversations) (List.mem_singleton.2 rfl) userId).trans
        (isSentTo_leave after.conversations session.organizationId
          (.message message) conversation userId)
    constructor
    · intro hnotifies other hother hprivate _
      obtain ⟨found, hfound, haudience⟩ :=
        hnotifies _ (List.mem_singleton.2 rfl) rfl
      cases hfound.symm.trans hconversation
      cases hother.symm.trans hconversation
      refine opponent_left_iff.1 (fun userId => ?_)
      have hopponent := (hsent userId).symm.trans (haudience userId)
      rw [if_pos hprivate] at hopponent
      exact hopponent.trans (hleft userId)
    · intro hserved package hpackage _
      rw [List.mem_singleton.1 hpackage]
      refine ⟨conversation, hconversation, fun userId => ?_⟩
      rw [hsent]
      by_cases hprivate : conversation.params.type = .u
      · rw [if_pos hprivate, opponent_left_iff.2
          (hserved conversation hconversation hprivate henabled)]
        exact (hleft userId).symm
      · rw [if_neg hprivate]
        rfl

/-- A request that succeeds notifies the right users if and only if it is
served. -/
theorem notifies_iff_isServed {displayName : User → String}
    {request : NotifyingRequest} {packages : List DeliverPackage}
    {after : ChatStore}
    (hexec : (request.handle config displayName session).exec chat =
      (.ok packages, after)) :
    request.Notifies config session chat packages after ↔
      request.IsServed config session chat := by
  cases request with
  | decryptionFailed cid ids => exact notifies_decryptionFailed hexec
  | conversationDelete id =>
      obtain ⟨response, _, hdelete, hpackages⟩ := of_exec_bind_ok hexec
      cases hpackages
      exact notifies_conversationDelete hdelete
  | message params =>
      exact iff_of_true (notifies_of_areFor hexec (fun _ _ => Iff.rfl)
        (fun _ => create_messages)) trivial
  | messageEdit id body =>
      exact iff_of_true (notifies_of_areFor hexec (fun _ _ => Iff.rfl)
        (fun _ => edit_messages)) trivial
  | reactionsUpdate mid add remove =>
      exact iff_of_true (notifies_of_areFor hexec (fun _ _ => Iff.rfl)
        (fun _ => reactionsUpdate_messages)) trivial
  | messageDelete cid ids isDeleteAll =>
      exact iff_of_true (notifies_of_areFor hexec (fun _ _ => Iff.rfl)
        (fun _ => delete_messages)) trivial

/-- A configuration with conversation events. -/
def withEvents : ChatConfig :=
  { ChatConfig.plain with
    conversations := ⟨50, true, fun _ _ => true, .oldestFirst⟩ }

/-- The owner leaves a private conversation. -/
theorem notifies_ownerLeaves :
    ∃ packages after, ((conversationDelete (.hex 4 true)).handle withEvents
        (fun _ => "owner") ⟨⟨0, 9⟩, true⟩).exec .oneMessage =
          (.ok packages, after) ∧
      (conversationDelete (.hex 4 true)).Notifies withEvents ⟨⟨0, 9⟩, true⟩
        .oneMessage packages after := by
  obtain ⟨packages, after, hexec⟩ : ∃ packages after,
      ((conversationDelete (.hex 4 true)).handle withEvents
        (fun _ => "owner") ⟨⟨0, 9⟩, true⟩).exec .oneMessage =
          (.ok packages, after) := ⟨_, _, rfl⟩
  refine ⟨packages, after, hexec, (notifies_iff_isServed hexec).2 ?_⟩
  intro conversation hconversation _ _
  cases hconversation
  refine ⟨by decide, ?_, by decide⟩
  rintro _ ⟨⟩
  decide

/-- The opponent leaves it, and the opponent reports a failed decryption. -/
theorem not_notifies_opponent :
    (∃ packages after, ((conversationDelete (.hex 4 true)).handle withEvents
        (fun _ => "opponent") ⟨⟨1, 9⟩, true⟩).exec .oneMessage =
          (.ok packages, after) ∧
      ¬ (conversationDelete (.hex 4 true)).Notifies withEvents ⟨⟨1, 9⟩, true⟩
        .oneMessage packages after) ∧
    ∃ packages after, ((decryptionFailed (.hex 4 true) [0]).handle withEvents
        (fun _ => "opponent") ⟨⟨1, 9⟩, true⟩).exec .oneMessage =
          (.ok packages, after) ∧
      ¬ (decryptionFailed (.hex 4 true) [0]).Notifies withEvents
        ⟨⟨1, 9⟩, true⟩ .oneMessage packages after := by
  constructor
  · obtain ⟨response, after, hexec⟩ : ∃ response after,
        (ConversationsController.delete withEvents (fun _ => "opponent")
          ⟨⟨1, 9⟩, true⟩ (.hex 4 true)).exec .oneMessage =
            (.ok response, after) := ⟨_, _, rfl⟩
    refine ⟨response.deliverMessages, after, exec_bind_ok hexec _, ?_⟩
    rw [notifies_conversationDelete hexec]
    intro hserved
    exact (hserved _ rfl rfl rfl).1 rfl
  · obtain ⟨packages, after, hexec⟩ : ∃ packages after,
        (MessagesController.decryptionFailed ⟨⟨1, 9⟩, true⟩ (.hex 4 true)
          [0]).exec .oneMessage = (.ok packages, after) := ⟨_, _, rfl⟩
    refine ⟨packages, after, hexec, ?_⟩
    rw [notifies_decryptionFailed hexec]
    intro hserved
    have howner := hserved _ rfl rfl (.id 0) (Or.inl rfl)
    exact absurd howner (by decide)

end NotifyingRequest

end SamaServer
