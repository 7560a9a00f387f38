/-
The block list in private conversations.  A message and a typing status ask it
in both directions; a system message, an edit and a reaction are delivered
without asking it.
-/
import SamaServer.MessageAccess
import SamaServer.MessageIdAccess
import SamaServer.Runs

namespace SamaServer

open Fallible

/-! ### Runs of the block list -/

/-- What happens to the block list.  The users that a request finds are those
of the store at that time. -/
inductive BlockEvent
  | blocked (s : ConversationStore) (session : ConversationSession)
      (ids : List IdParam)
  | unblocked (session : ConversationSession) (ids : List IdParam)
  | enabled (session : ConversationSession) (isEnabled : Bool)
  | userDeleted (userId : ObjectId)

namespace BlockList

def step (list : BlockList) : BlockEvent → BlockList
  | .blocked s session ids => (block s session ids list).2
  | .unblocked session ids => (unblock session ids list).2
  | .enabled session isEnabled => enable session isEnabled list
  | .userDeleted userId => deleteAllBlocks userId list

def run (events : List BlockEvent) : BlockList := events.foldl step empty

/-- An enabled row between two users, in either direction. -/
def IsBlocked (list : BlockList) (a b : ObjectId) : Prop :=
  ∃ row ∈ list.rows, row.enabled = true ∧
    (row.userId = a ∧ row.blockedUserId = b ∨
      row.userId = b ∧ row.blockedUserId = a)

/-- No row is of a user with themselves. -/
def NoSelf (list : BlockList) : Prop :=
  ∀ row ∈ list.rows, row.userId ≠ row.blockedUserId

theorem mem_insertMany {rows : List BlockedUser} {list : BlockList}
    {row : BlockedUser} (hrow : row ∈ (insertMany rows list).2.rows) :
    row ∈ list.rows ∨ row ∈ rows := by
  induction rows generalizing list with
  | nil => exact Or.inl hrow
  | cons first rows ih =>
      rw [insertMany] at hrow
      split at hrow
      · exact Or.inl hrow
      · rcases ih hrow with hold | hnew
        · rw [insert, List.mem_append, List.mem_singleton] at hold
          rcases hold with hold | rfl
          · exact Or.inl hold
          · exact Or.inr List.mem_cons_self
        · exact Or.inr (List.mem_cons_of_mem first hnew)

/-- A request for oneself is refused as a whole. -/
theorem NoSelf.block {list : BlockList} (hself : list.NoSelf)
    (s : ConversationStore) (session : ConversationSession)
    (ids : List IdParam) :
    (BlockList.block s session ids list).2.NoSelf := by
  rw [BlockList.block]
  split
  · split
    · exact hself
    · next normalizedIds _ =>
        rw [blockMany]
        split
        · exact hself
        · next hother =>
            rw [createMany]
            split
            · exact hself
            · intro row hrow
              rcases mem_insertMany hrow with hold | hnew
              · exact hself row hold
              · obtain ⟨id, hid, rfl⟩ := List.mem_map.1 hnew
                intro hsame
                have hcaller : session.userId = id := hsame
                exact hother (hcaller ▸ hid)
  · exact hself

theorem NoSelf.step {list : BlockList} (hself : list.NoSelf)
    (event : BlockEvent) : (list.step event).NoSelf := by
  cases event with
  | blocked s session ids => exact hself.block s session ids
  | unblocked session ids =>
      rw [BlockList.step, unblock]
      split
      · split
        · exact hself
        · exact fun row hrow => hself row (List.mem_filter.1 hrow).1
      · exact hself
  | enabled session isEnabled =>
      intro row hrow
      obtain ⟨old, hold, rfl⟩ := List.mem_map.1 hrow
      split
      · exact hself old hold
      · exact hself old hold
  | userDeleted userId =>
      exact fun row hrow => hself row (List.mem_filter.1 hrow).1

theorem noSelf_run (events : List BlockEvent) : (run events).NoSelf := by
  induction events using List.reverseRecOn with
  | nil =>
      intro row hrow
      cases hrow
  | append_singleton events last ih =>
      rw [run, List.foldl_append]
      exact ih.step last

/-- The users of a private conversation are refused exactly when one has
blocked the other. -/
theorem listMutualBlockedIds_private {list : BlockList} (hself : list.NoSelf)
    {a b : ObjectId} {recipients : List StoredId}
    (hrecipients : recipients = [.id a, .id b] ∨
      recipients = [.id b, .id a]) :
    ∃ blockedIds, list.listMutualBlockedIds a recipients = .ok blockedIds ∧
      (blockedIds ≠ [] ↔ list.IsBlocked a b) := by
  have hmem : ∀ id, StoredId.id id ∈ recipients ↔ id = a ∨ id = b := by
    rcases hrecipients with rfl | rfl
    · simp
    · simp [or_comm]
  have hoperator : recipients.any (fun recipient =>
      recipient.param.operator?.isSome) = false := by
    rcases hrecipients with rfl | rfl
    · rfl
    · rfl
  have htake : ∀ rows : List BlockedUser,
      rows.take MessageStore.findAllLimit = [] ↔ rows = [] := by
    intro rows
    cases rows with
    | nil => simp
    | cons row rows => simp [MessageStore.findAllLimit]
  rw [listMutualBlockedIds, hoperator]
  refine ⟨_, rfl, ?_⟩
  simp only [hmem, ne_eq, List.append_eq_nil_iff, List.map_eq_nil_iff,
    htake, List.filter_eq_nil_iff, decide_eq_true_eq]
  constructor
  · intro hfound
    by_contra hnone
    refine hfound ⟨?_, ?_⟩
    · rintro row hrow ⟨huser, henabled, hblocked | hblocked⟩
      · exact hself row hrow (huser.trans hblocked.symm)
      · exact hnone ⟨row, hrow, henabled, Or.inl ⟨huser, hblocked⟩⟩
    · rintro row hrow ⟨hblocked, henabled, huser | huser⟩
      · exact hself row hrow (huser.trans hblocked.symm)
      · exact hnone ⟨row, hrow, henabled, Or.inr ⟨huser, hblocked⟩⟩
  · rintro ⟨row, hrow, henabled, ⟨huser, hblocked⟩ | ⟨huser, hblocked⟩⟩
      ⟨hfirst, hsecond⟩
    · exact hfirst row hrow ⟨huser, henabled, Or.inr hblocked⟩
    · exact hsecond row hrow ⟨hblocked, henabled, Or.inr huser⟩

end BlockList

/-! ### Requests in a private conversation -/

/-- A request that can send a packet into a conversation. -/
inductive SendRequest
  | message (params : MessageParams)
  | typing (cid : TextId)
  | systemMessage (cid : TextId)
  | messageEdit (messageId : IdParam) (newBody : String)
  | reactionsUpdate (messageId : IdParam) (add remove : Option String)

namespace SendRequest

def perform (config : ChatConfig) (session : ConversationSession) :
    SendRequest → ChatProgram (List ChatDelivery)
  | message params => MessageOperations.create config session params
  | typing cid => MessageOperations.typing config session cid
  | systemMessage cid => MessageOperations.sendSystem config session cid
  | messageEdit messageId newBody =>
      MessageOperations.edit config session messageId newBody
  | reactionsUpdate messageId add remove =>
      MessageOperations.updateReactions config session messageId add remove

/-- The conversation of the request, which may be that of the message it
finds. -/
def IsOn (config : ChatConfig) (request : SendRequest) (chat : ChatStore)
    (c : ObjectId) : Prop :=
  match request with
  | message params => ∃ isLowerCase, params.cid = .hex c isLowerCase
  | typing cid => ∃ isLowerCase, cid = .hex c isLowerCase
  | systemMessage cid => ∃ isLowerCase, cid = .hex c isLowerCase
  | messageEdit messageId _ => ∃ found,
      chat.findMessage config.conversations.server config.pickMessage
        messageId = .ok (some found) ∧ found.cid = c
  | reactionsUpdate messageId _ _ => ∃ found,
      chat.findMessage config.conversations.server config.pickMessage
        messageId = .ok (some found) ∧ found.cid = c

/-- The private conversation of two users. -/
def IsPrivateOf (s : ConversationStore) (c a b : ObjectId) : Prop :=
  ∃ stored, s.conversations.get? c = some stored ∧ stored.type = .u ∧
    (stored.ownerId = .id a ∧ stored.opponentId = some (.id b) ∨
      stored.ownerId = .id b ∧ stored.opponentId = some (.id a))

/-- A request that succeeds sends a packet to the user. -/
def Delivers (config : ChatConfig) (session : ConversationSession)
    (request : SendRequest) (chat : ChatStore) (userId : ObjectId) : Prop :=
  ∃ deliveries after, (request.perform config session).exec chat =
    (.ok deliveries, after) ∧
    ∃ delivery ∈ deliveries, StoredId.id userId ∈ delivery.recipients

def asksBlockList : SendRequest → Bool
  | message _ => true
  | typing _ => true
  | _ => false

/-- In the private conversation of the caller and another user, a block
between them stops every packet, and without one no message and no typing
status is refused as blocked. -/
def RespectsBlocks (config : ChatConfig) (session : ConversationSession)
    (other : ObjectId) (request : SendRequest) (chat : ChatStore) : Prop :=
  ∀ c, IsPrivateOf chat.conversations c session.userId other →
    request.IsOn config chat c →
    (chat.blocks.IsBlocked session.userId other →
      ¬ request.Delivers config session chat other) ∧
    (¬ chat.blocks.IsBlocked session.userId other →
      request.asksBlockList = true →
      ((request.perform config session).exec chat).1 ≠
        .error (.cause .userBlocked))

/-- A request that does not ask the block list ends before it sends: the
caller has no access to the conversation, is not the author of the message,
or changes no reaction. -/
def IsStopped (session : ConversationSession) (request : SendRequest)
    (config : ChatConfig) (chat : ChatStore) (c : ObjectId) : Prop :=
  match request with
  | message _ => True
  | typing _ => True
  | systemMessage _ => ¬ ∃ stored,
      chat.conversations.conversations.get? c = some stored ∧
      stored.organizationId = session.organizationId ∧
      ∃ row ∈ chat.conversations.rowsOf c, row.userId = .id session.userId
  | messageEdit messageId _ => ∀ found,
      chat.findMessage config.conversations.server config.pickMessage
        messageId = .ok (some found) → found.sender ≠ session.userId
  | reactionsUpdate messageId add remove => ∀ found,
      chat.findMessage config.conversations.server config.pickMessage
        messageId = .ok (some found) →
      (∀ reaction, add = some reaction → reaction ≠ "" →
        ⟨found.id, session.userId, reaction⟩ ∈ chat.reactions) ∧
      ∀ reaction, remove = some reaction → reaction ≠ "" →
        ⟨found.id, session.userId, reaction⟩ ∉ chat.reactions

variable {config : ChatConfig} {session : ConversationSession}
  {chat : ChatStore} {c other : ObjectId}

/-- The two members, whichever of them is the owner. -/
def IsBetween (stored : Conversation) (a b : ObjectId) : Prop :=
  stored.ownerId = .id a ∧ stored.opponentId = some (.id b) ∨
    stored.ownerId = .id b ∧ stored.opponentId = some (.id a)

theorem mem_privateParticipantsIds {stored : Conversation} {a b : ObjectId}
    (hpair : IsBetween stored a b) :
    MessageOperations.privateParticipantsIds ⟨c, stored⟩ =
        [.id a, .id b] ∨
      MessageOperations.privateParticipantsIds ⟨c, stored⟩ =
        [.id b, .id a] := by
  rcases hpair with ⟨howner, hopponent⟩ | ⟨howner, hopponent⟩
  · left
    simp [MessageOperations.privateParticipantsIds, howner, hopponent]
  · right
    simp [MessageOperations.privateParticipantsIds, howner, hopponent]

/-- The check of the block list in a private conversation. -/
theorem exec_checkBlocked {stored : Conversation}
    (hself : chat.blocks.NoSelf) (htype : stored.type = .u)
    (hpair : IsBetween stored session.userId other) :
    (chat.blocks.IsBlocked session.userId other ∧
      (MessageOperations.checkBlocked session ⟨c, stored⟩).exec chat =
        (.error (.cause .userBlocked), chat)) ∨
    (¬ chat.blocks.IsBlocked session.userId other ∧
      (MessageOperations.checkBlocked session ⟨c, stored⟩).exec chat =
        (.ok (), chat)) := by
  obtain ⟨blockedIds, hlist, hblocked⟩ :=
    BlockList.listMutualBlockedIds_private hself
      (mem_privateParticipantsIds (c := c) hpair)
  rw [MessageOperations.checkBlocked, if_pos htype, MessageOperations.query,
    exec_command_bind, hlist]
  by_cases hnone : blockedIds = []
  · refine Or.inr ⟨fun hrow => hblocked.2 hrow hnone, ?_⟩
    simp [hnone]
  · refine Or.inl ⟨hblocked.1 hnone, ?_⟩
    simp [hnone, MessageOperations.fail]

/-- The packet for a private conversation goes to its two members. -/
theorem exec_deliver {stored : Conversation} (htype : stored.type = .u)
    (hpair : IsBetween stored session.userId other)
    (packet : ChatPacket) (chat : ChatStore) :
    ∃ delivery, (MessageOperations.deliver ⟨c, stored⟩ packet).exec chat =
      (.ok [delivery], chat) ∧ StoredId.id other ∈ delivery.recipients := by
  refine ⟨⟨MessageOperations.recipientsOf ⟨c, stored⟩ chat, packet⟩, rfl, ?_⟩
  rw [MessageOperations.recipientsOf, if_pos htype]
  rcases mem_privateParticipantsIds (c := c) hpair with heq | heq
  · simp [heq]
  · simp [heq]

/-! ### Requests that ask the block list -/

/-- An error other than the one of a block. -/
def NotBlocked (error : ConversationError) : Prop :=
  error ≠ .cause .userBlocked

instance (error : ConversationError) : Decidable (NotBlocked error) :=
  inferInstanceAs (Decidable (error ≠ _))

theorem throws_query {A : Type}
    {answer : ChatStore → Except ConversationError A}
    (hanswer : ∀ chat error, answer chat = .error error →
      NotBlocked error) :
    (MessageOperations.query answer).Throws NotBlocked :=
  throws_command hanswer

theorem throws_addNoExistedParticipants (config : ConversationConfig)
    (held : HeldConversation) (conversationId : ObjectId)
    (participantsParams : List (IdParam × Option ParticipantRole)) :
    (ConversationService.addNoExistedParticipants config held conversationId
      participantsParams).Throws NotBlocked := by
  induction participantsParams with
  | nil => exact throws_pure _
  | cons first participantsParams ih =>
      refine throws_bind (throws_command ?_) (fun _ =>
        throws_bind ih (fun _ => throws_pure _))
      intro s error herror
      rw [ConversationStore.upsertParticipant] at herror
      split at herror
      · cases herror
        intro heq
        cases heq
      · split at herror
        · cases herror
        · cases herror

/-- The members of a private conversation come back, or there is another
error. -/
theorem throws_restorePrivateConversation (config : ConversationConfig)
    {stored : Conversation} {a b : ObjectId}
    (hpair : stored.ownerId = .id a ∧ stored.opponentId = some (.id b)) :
    (ConversationService.restorePrivateConversation config
      ⟨c, stored⟩).Throws NotBlocked := by
  have hids : (⟨c, stored⟩ : ConversationModel).params.ownerId.param ::
      ((⟨c, stored⟩ : ConversationModel).params.opponentId.map
        StoredId.param).toList =
      [a, b].map (fun id => IdParam.hex id true) := by
    simp [hpair, StoredId.param]
  rw [ConversationService.restorePrivateConversation, hids]
  refine throws_bind ?_ (fun _ => throws_pure _)
  refine throws_bind ?_ (fun count => ?_)
  · rw [ConversationService.currentParticipantsCount]
    split
    · exact throws_pure _
    · split
      · exact throws_pure _
      · exact throws_command (fun _ _ herror => by cases herror)
  · split
    · exact throws_throw (by decide)
    · rw [ConversationService.createParticipantsParams_ids]
      refine throws_bind (throws_ofExcept (fun _ herror => by cases herror))
        (fun params => ?_)
      refine throws_bind (throws_addNoExistedParticipants _ _ _ _)
        (fun addedIds => ?_)
      split
      · exact throws_bind (throws_command (fun _ _ herror => by cases herror))
          (fun _ => throws_pure _)
      · exact throws_pure _

theorem throws_createMessage (conversation : ConversationModel) (user : User)
    (body : Option String) (deletedFor : List IdParam) :
    (MessageOperations.createMessage conversation user body
      deletedFor).Throws NotBlocked := by
  refine throws_bind (throws_query (fun _ _ herror => by cases herror))
    (fun mid => ?_)
  refine throws_bind (throws_command (fun _ _ herror => by cases herror))
    (fun _ => ?_)
  exact throws_query (fun _ _ herror => by cases herror)

theorem throws_validateRepliedMessageId (session : ConversationSession)
    (cid : ObjectId) (mid : Option TextId) :
    (MessageOperations.validateRepliedMessageId session cid mid).Throws
      NotBlocked := by
  cases mid with
  | none => exact throws_pure _
  | some mid =>
      refine throws_bind (throws_query (fun _ _ herror => by cases herror))
        (fun message => ?_)
      split
      · exact throws_pure _
      · exact throws_throw (by decide)

/-- What follows the checks of a message. -/
theorem throws_create_rest (config : ChatConfig)
    (session : ConversationSession) {stored : Conversation} {a b : ObjectId}
    (hpair : stored.ownerId = .id a ∧ stored.opponentId = some (.id b))
    (params : MessageParams) (currentUser : Option User) :
    (do
      MessageOperations.validateRepliedMessageId session c
        params.repliedMessageId
      let user ← MessageOperations.requireUser currentUser
      let response ← MessageOperations.executeConversationHandler config
        ⟨c, stored⟩ params
      let created ← MessageOperations.createMessage ⟨c, stored⟩ user
        (response.newBody.getD params.body) params.deletedFor
      let restored ← MessageOperations.restoreMembers config ⟨c, stored⟩
      let answered ← MessageOperations.createBotMessage ⟨c, stored⟩
        response.botMessage params.deletedFor
      pure (restored ++ created ++ answered) :
      ChatProgram (List ChatDelivery)).Throws NotBlocked := by
  refine throws_bind (throws_validateRepliedMessageId session c _)
    (fun _ => ?_)
  refine throws_bind ?_ (fun user => ?_)
  · cases currentUser with
    | none => exact throws_throw (by decide)
    | some user => exact throws_pure _
  refine throws_bind ?_ (fun response => ?_)
  · rw [MessageOperations.executeConversationHandler]
    split
    · exact throws_throw (by decide)
    · exact throws_pure _
  refine throws_bind (throws_createMessage _ _ _ _) (fun created => ?_)
  refine throws_bind ?_ (fun restored => ?_)
  · rw [MessageOperations.restoreMembers]
    split
    · refine throws_bind (throws_command ?_) (fun missed => ?_)
      · intro chat error herror
        exact throws_restorePrivateConversation config.conversations hpair
          chat.conversations error _ (Prod.ext herror rfl)
      · split
        · exact throws_pure _
        · exact throws_pure _
    · exact throws_pure _
  refine throws_bind ?_ (fun answered => throws_pure _)
  · cases response.botMessage with
    | none => exact throws_pure _
    | some bot => exact throws_createMessage _ _ _ _

/-- The access to a conversation that is there is one to its document. -/
theorem conversation_of_hasAccess
    {refuses : ConversationService.ConversationAccess → Bool}
    {stored : Conversation} {isLowerCase : Bool}
    {access : ConversationService.ConversationAccess}
    (hget : chat.conversations.conversations.get? c = some stored)
    (haccess : MessageOperations.HasAccess config session refuses
      (.hex c isLowerCase) chat access) :
    access.conversation = ⟨c, stored⟩ := by
  obtain ⟨_, _, found, ⟨⟩, hfound, _, rfl, _, _⟩ := haccess
  rw [hget] at hfound
  cases hfound
  rfl

/-- A message in a private conversation. -/
theorem message_respectsBlocks {stored : Conversation} {isLowerCase : Bool}
    {params : MessageParams} (hcid : params.cid = .hex c isLowerCase)
    (hself : chat.blocks.NoSelf)
    (hget : chat.conversations.conversations.get? c = some stored)
    (htype : stored.type = .u)
    (hpair : IsBetween stored session.userId other) :
    (∃ error, NotBlocked error ∧
      (MessageOperations.create config session params).exec chat =
        (.error error, chat)) ∨
    (chat.blocks.IsBlocked session.userId other ∧
      (MessageOperations.create config session params).exec chat =
        (.error (.cause .userBlocked), chat)) ∨
    (¬ chat.blocks.IsBlocked session.userId other ∧
      ((MessageOperations.create config session params).exec chat).1 ≠
        .error (.cause .userBlocked)) := by
  have hpairs : ∃ a b, stored.ownerId = .id a ∧
      stored.opponentId = some (.id b) := by
    rcases hpair with hboth | hboth
    · exact ⟨_, _, hboth⟩
    · exact ⟨_, _, hboth⟩
  obtain ⟨a, b, hids⟩ := hpairs
  rw [MessageOperations.create, MessageOperations.query, exec_command_bind]
  dsimp only
  rw [hcid]
  rcases MessageOperations.exec_hasAccess_cases config session _
    (.hex c isLowerCase) chat with
    ⟨access, haccess, hexec⟩ | ⟨_, status, hstatus, hexec⟩
  · rw [MessageOperations.hasAccessToCreate, exec_bind_ok hexec,
      conversation_of_hasAccess hget haccess]
    rcases exec_checkBlocked (c := c) hself htype hpair with
      ⟨hblocked, hcheck⟩ | ⟨hfree, hcheck⟩
    · exact Or.inr (Or.inl ⟨hblocked, exec_bind_error hcheck _⟩)
    · refine Or.inr (Or.inr ⟨hfree, ?_⟩)
      rw [exec_bind_ok hcheck]
      intro herror
      exact throws_create_rest config session hids params _ chat _ _
        (Prod.ext herror rfl) rfl
  · refine Or.inl ⟨.cause status, ?_, exec_bind_error hexec _⟩
    rcases hstatus with rfl | rfl
    · intro heq
      cases heq
    · intro heq
      cases heq

/-- A typing status in a private conversation. -/
theorem typing_respectsBlocks {stored : Conversation} (isLowerCase : Bool)
    (hself : chat.blocks.NoSelf)
    (hget : chat.conversations.conversations.get? c = some stored)
    (htype : stored.type = .u)
    (hpair : IsBetween stored session.userId other) :
    (∃ error, NotBlocked error ∧
      (MessageOperations.typing config session (.hex c isLowerCase)).exec
        chat = (.error error, chat)) ∨
    (chat.blocks.IsBlocked session.userId other ∧
      (MessageOperations.typing config session (.hex c isLowerCase)).exec
        chat = (.error (.cause .userBlocked), chat)) ∨
    (¬ chat.blocks.IsBlocked session.userId other ∧
      ((MessageOperations.typing config session (.hex c isLowerCase)).exec
        chat).1 ≠ .error (.cause .userBlocked)) := by
  rw [MessageOperations.typing]
  rcases MessageOperations.exec_hasAccess_cases config session _
    (.hex c isLowerCase) chat with
    ⟨access, haccess, hexec⟩ | ⟨_, status, hstatus, hexec⟩
  · rw [MessageOperations.hasAccessToRead, exec_bind_ok hexec,
      conversation_of_hasAccess hget haccess]
    rcases exec_checkBlocked (c := c) hself htype hpair with
      ⟨hblocked, hcheck⟩ | ⟨hfree, hcheck⟩
    · exact Or.inr (Or.inl ⟨hblocked, exec_bind_error hcheck _⟩)
    · refine Or.inr (Or.inr ⟨hfree, ?_⟩)
      rw [exec_bind_ok hcheck]
      intro heq
      cases heq
  · refine Or.inl ⟨.cause status, ?_, exec_bind_error hexec _⟩
    rcases hstatus with rfl | rfl
    · intro heq
      cases heq
    · intro heq
      cases heq

/-- From the three ways in which a request ends that asks the block list. -/
theorem respects_of_cases {request : SendRequest}
    (hcases : (∃ error, NotBlocked error ∧
        (request.perform config session).exec chat = (.error error, chat)) ∨
      (chat.blocks.IsBlocked session.userId other ∧
        (request.perform config session).exec chat =
          (.error (.cause .userBlocked), chat)) ∨
      (¬ chat.blocks.IsBlocked session.userId other ∧
        ((request.perform config session).exec chat).1 ≠
          .error (.cause .userBlocked))) :
    (chat.blocks.IsBlocked session.userId other →
      ¬ request.Delivers config session chat other) ∧
    (¬ chat.blocks.IsBlocked session.userId other →
      request.asksBlockList = true →
      ((request.perform config session).exec chat).1 ≠
        .error (.cause .userBlocked)) := by
  have hfailed : ∀ error, (request.perform config session).exec chat =
      (.error error, chat) →
      ¬ request.Delivers config session chat other := by
    rintro error hexec ⟨deliveries, after, hok, _⟩
    rw [hexec] at hok
    cases hok
  rcases hcases with ⟨error, hother, hexec⟩ | ⟨hblocked, hexec⟩ |
    ⟨hfree, hresult⟩
  · refine ⟨fun _ => hfailed error hexec, fun _ _ hresult => ?_⟩
    rw [hexec] at hresult
    cases hresult
    exact hother rfl
  · exact ⟨fun _ => hfailed _ hexec, fun hfree => absurd hblocked hfree⟩
  · exact ⟨fun hblocked => absurd hblocked hfree, fun _ _ => hresult⟩

/-! ### Requests that do not ask it -/

theorem systemMessage_delivers_iff {stored : Conversation}
    (isLowerCase : Bool)
    (hget : chat.conversations.conversations.get? c = some stored)
    (htype : stored.type = .u)
    (hpair : IsBetween stored session.userId other) :
    (systemMessage (.hex c isLowerCase)).Delivers config session chat
        other ↔
      ¬ (systemMessage (.hex c isLowerCase)).IsStopped session config chat
        c := by
  rw [IsStopped, not_not, Delivers, perform, MessageOperations.sendSystem]
  rcases MessageOperations.exec_hasAccess_cases config session
    (fun _ => false) (.hex c isLowerCase) chat with
    ⟨access, haccess, hexec⟩ | ⟨hnobody, status, _, hexec⟩
  · obtain ⟨delivery, hdeliver, hmem⟩ := exec_deliver (c := c) htype hpair
      .system chat
    refine iff_of_true ⟨[delivery], chat, ?_, delivery, by simp, hmem⟩ ?_
    · rw [MessageOperations.hasAccessToList, exec_bind_ok hexec,
        conversation_of_hasAccess hget haccess]
      exact hdeliver
    · obtain ⟨_, _, found, ⟨⟩, hfound, horganization, rfl, _, hin⟩ := haccess
      exact ⟨found, hfound, horganization,
        (MessageOperations.asParticipant_iff _ _ _ _ _).1 hin⟩
  · refine iff_of_false ?_ ?_
    · rintro ⟨deliveries, after, hok, _⟩
      rw [MessageOperations.hasAccessToList, exec_bind_error hexec] at hok
      cases hok
    · rintro ⟨found, hfound, horganization, row, hrow, huser⟩
      exact hnobody _ ⟨c, isLowerCase, found, rfl, hfound, horganization,
        rfl, rfl, (MessageOperations.asParticipant_iff _ _ _ _ _).2
          ⟨row, hrow, huser⟩⟩

/-- The packet for the private conversation of a message. -/
theorem delivers_conversationOf (chat : ChatStore) {stored : Conversation}
    {message : ChatMessage}
    (hget : chat.conversations.conversations.get? message.cid = some stored)
    (htype : stored.type = .u)
    (hpair : IsBetween stored session.userId other)
    (packet : ChatPacket)
    {rest : ConversationModel → ChatProgram (List ChatDelivery)}
    (hrest : rest ⟨message.cid, stored⟩ =
      MessageOperations.deliver ⟨message.cid, stored⟩ packet) :
    ∃ deliveries after, (MessageOperations.conversationOf message >>=
        rest).exec chat = (.ok deliveries, after) ∧
      ∃ delivery ∈ deliveries, StoredId.id other ∈ delivery.recipients := by
  have hconversation : (MessageOperations.conversationOf message).exec chat =
      (.ok ⟨message.cid, stored⟩, chat) := by
    rw [MessageOperations.conversationOf, MessageOperations.query,
      exec_command_bind, hget]
    rfl
  obtain ⟨delivery, hdeliver, hmem⟩ := exec_deliver (c := message.cid) htype
    hpair packet chat
  refine ⟨[delivery], chat, ?_, delivery, by simp, hmem⟩
  rw [exec_bind_ok hconversation, hrest, hdeliver]

theorem messageEdit_delivers_iff {stored : Conversation}
    {messageId : IdParam} {found : ChatMessage} (newBody : String)
    (hfound : chat.findMessage config.conversations.server
      config.pickMessage messageId = .ok (some found))
    (hget : chat.conversations.conversations.get? found.cid = some stored)
    (htype : stored.type = .u)
    (hpair : IsBetween stored session.userId other) :
    (messageEdit messageId newBody).Delivers config session chat other ↔
      ¬ (messageEdit messageId newBody).IsStopped session config chat
        found.cid := by
  rw [IsStopped, Delivers, perform, MessageOperations.edit]
  rcases @MessageRequest.exec_hasAccessToEdit config session chat messageId
    with ⟨message, hmessage, hsender, hexec⟩ | ⟨hnobody, error, hexec⟩
  · rw [hfound] at hmessage
    cases hmessage
    refine iff_of_true ?_ (fun hstopped => hstopped found hfound hsender)
    rw [exec_bind_ok hexec, exec_command_bind]
    simp only [ChatStore.updateBody, hfound]
    refine delivers_conversationOf _ ?_ htype hpair
      (.edited messageId newBody) rfl
    exact hget
  · refine iff_of_false ?_ (fun hreached => hreached hnobody)
    rintro ⟨deliveries, after, hok, _⟩
    rw [exec_bind_error hexec] at hok
    cases hok

theorem addReaction_eq_false_iff (chat : ChatStore) (mid userId : ObjectId)
    (add : Option String) :
    (chat.addReaction mid userId add).1 = false ↔
      ∀ reaction, add = some reaction → reaction ≠ "" →
        ⟨mid, userId, reaction⟩ ∈ chat.reactions := by
  rw [ChatStore.addReaction]
  split
  · next hnone =>
      rw [Option.filter_eq_none_iff] at hnone
      refine iff_of_true rfl (fun reaction hgiven hne => ?_)
      exact absurd (hnone reaction hgiven) (by simpa using hne)
  · next reaction hsome =>
      obtain ⟨rfl, hne⟩ := Option.filter_eq_some_iff.1 hsome
      split
      · next hmem =>
          refine iff_of_true rfl ?_
          rintro _ ⟨⟩ _
          exact hmem
      · next hmem =>
          exact iff_of_false (by simp)
            (fun hall => hmem (hall reaction rfl (by simpa using hne)))

theorem removeReaction_eq_false_iff (chat : ChatStore)
    (mid userId : ObjectId) (remove : Option String) :
    (chat.removeReaction mid userId remove).1 = false ↔
      ∀ reaction, remove = some reaction → reaction ≠ "" →
        ⟨mid, userId, reaction⟩ ∉ chat.reactions := by
  rw [ChatStore.removeReaction]
  split
  · next hnone =>
      rw [Option.filter_eq_none_iff] at hnone
      refine iff_of_true rfl (fun reaction hgiven hne => ?_)
      exact absurd (hnone reaction hgiven) (by simpa using hne)
  · next reaction hsome =>
      obtain ⟨rfl, hne⟩ := Option.filter_eq_some_iff.1 hsome
      split
      · next hmem =>
          exact iff_of_false (by simp)
            (fun hall => hall reaction rfl (by simpa using hne) hmem)
      · next hmem =>
          refine iff_of_true rfl ?_
          rintro _ ⟨⟩ _
          exact hmem

/-- Which reactions change nothing. -/
theorem updateReactions_eq_false_iff (chat : ChatStore)
    (mid userId : ObjectId) (add remove : Option String) :
    (chat.updateReactions mid userId add remove).1 = false ↔
      (∀ reaction, add = some reaction → reaction ≠ "" →
        ⟨mid, userId, reaction⟩ ∈ chat.reactions) ∧
      ∀ reaction, remove = some reaction → reaction ≠ "" →
        ⟨mid, userId, reaction⟩ ∉ chat.reactions := by
  simp only [ChatStore.updateReactions, Bool.or_eq_false_iff]
  rw [addReaction_eq_false_iff]
  refine and_congr_right (fun hadd => ?_)
  have hsame : (chat.addReaction mid userId add).2 = chat := by
    have hnot := (addReaction_eq_false_iff chat mid userId add).2 hadd
    rw [ChatStore.addReaction] at hnot ⊢
    split
    · rfl
    · split
      · rfl
      · simp_all
  rw [hsame, removeReaction_eq_false_iff]

theorem conversations_updateReactions (chat : ChatStore)
    (mid userId : ObjectId) (add remove : Option String) :
    (chat.updateReactions mid userId add remove).2.conversations =
      chat.conversations := by
  have hadd : (chat.addReaction mid userId add).2.conversations =
      chat.conversations := by
    rw [ChatStore.addReaction]
    split
    · rfl
    · split <;> rfl
  simp only [ChatStore.updateReactions]
  rw [ChatStore.removeReaction]
  split
  · exact hadd
  · split <;> exact hadd

theorem reactionsUpdate_delivers_iff {stored : Conversation}
    {messageId : IdParam} {found : ChatMessage} (add remove : Option String)
    (hfound : chat.findMessage config.conversations.server
      config.pickMessage messageId = .ok (some found))
    (hget : chat.conversations.conversations.get? found.cid = some stored)
    (htype : stored.type = .u)
    (hpair : IsBetween stored session.userId other) :
    (reactionsUpdate messageId add remove).Delivers config session chat
        other ↔
      ¬ (reactionsUpdate messageId add remove).IsStopped session config chat
        found.cid := by
  rw [IsStopped, Delivers, perform, MessageOperations.updateReactions]
  rcases @MessageRequest.exec_hasAccessToReactions config session chat
    messageId with ⟨message, hmessage, hexec⟩ | ⟨hnobody, _⟩
  · rw [hfound] at hmessage
    cases hmessage
    rw [exec_bind_ok hexec, exec_command_bind]
    have hupdated := updateReactions_eq_false_iff chat found.id
      session.userId add remove
    dsimp only
    rw [MessageOperations.deliverReactions]
    cases hchanged : (chat.updateReactions found.id session.userId add
        remove).1 with
    | false =>
        refine iff_of_false ?_ (fun hreached => hreached ?_)
        · rintro ⟨deliveries, after, ⟨⟩, delivery, hdelivery, _⟩
          cases hdelivery
        · intro other hother
          rw [hfound] at hother
          cases hother
          exact hupdated.1 hchanged
    | true =>
        refine iff_of_true ?_ (fun hstopped => ?_)
        · rw [if_pos rfl]
          refine delivers_conversationOf _ ?_ htype hpair
            (.reactionsUpdated messageId) (if_neg ?_)
          · rw [conversations_updateReactions]
            exact hget
          · simp [htype]
        · rw [hupdated.2 (hstopped found hfound)] at hchanged
          cases hchanged
  · exact absurd hfound (hnobody found)

/-- After every run of the block list, a request respects it exactly when it
asks it or is stopped by a check of its own. -/
theorem respectsBlocks_iff (config : ChatConfig)
    (session : ConversationSession) (other : ObjectId)
    (request : SendRequest) (chat : ChatStore) (events : List BlockEvent) :
    request.RespectsBlocks config session other
        { chat with blocks := BlockList.run events } ↔
      ∀ c, IsPrivateOf chat.conversations c session.userId other →
        request.IsOn config { chat with blocks := BlockList.run events } c →
        (BlockList.run events).IsBlocked session.userId other →
        request.IsStopped session config
          { chat with blocks := BlockList.run events } c := by
  have hself : ({ chat with blocks := BlockList.run events } :
      ChatStore).blocks.NoSelf := BlockList.noSelf_run events
  refine forall_congr' (fun c => forall_congr' (fun hprivate =>
    forall_congr' (fun hon => ?_)))
  obtain ⟨stored, hget, htype, hpair⟩ := hprivate
  cases request with
  | message params =>
      obtain ⟨isLowerCase, hcid⟩ := hon
      refine iff_of_true ?_ (fun _ => trivial)
      exact @respects_of_cases config session _ other (message params)
        (message_respectsBlocks hcid hself hget htype hpair)
  | typing cid =>
      obtain ⟨isLowerCase, rfl⟩ := hon
      refine iff_of_true ?_ (fun _ => trivial)
      exact @respects_of_cases config session _ other
        (typing (.hex c isLowerCase))
        (typing_respectsBlocks isLowerCase hself hget htype hpair)
  | systemMessage cid =>
      obtain ⟨isLowerCase, rfl⟩ := hon
      rw [systemMessage_delivers_iff isLowerCase hget htype hpair, not_not]
      simp [asksBlockList]
  | messageEdit messageId newBody =>
      obtain ⟨found, hfound, rfl⟩ := hon
      rw [messageEdit_delivers_iff newBody hfound hget htype hpair, not_not]
      simp [asksBlockList]
  | reactionsUpdate messageId add remove =>
      obtain ⟨found, hfound, rfl⟩ := hon
      rw [reactionsUpdate_delivers_iff add remove hfound hget htype hpair,
        not_not]
      simp [asksBlockList]

/-- The opponent has blocked the owner. -/
def opponentBlocks : List BlockEvent :=
  [.blocked .threeUsers ⟨1, 9⟩ [.hex 0 true]]

/-- A system message of the owner still gets to the opponent. -/
theorem blockedSystemMessage_delivered :
    ¬ (systemMessage (.hex 4 true)).RespectsBlocks .plain ⟨0, 9⟩ 1
      { ChatStore.oneMessage with blocks := BlockList.run opponentBlocks } := by
  intro hrespects
  obtain ⟨hstops, _⟩ := hrespects 4
    ⟨_, rfl, rfl, Or.inl ⟨rfl, rfl⟩⟩ ⟨true, rfl⟩
  refine hstops ⟨⟨9, 1, 0, true⟩, by decide, rfl, Or.inr ⟨rfl, rfl⟩⟩ ?_
  exact ⟨_, _, rfl, _, List.mem_singleton_self _, by decide⟩

end SendRequest

end SamaServer
