/-
Reading a conversation without naming messages.  The call takes the newest
messages of the others up to the limit of a query, whether or not they were
read before, and reports them to their authors.
-/
import Mathlib.Data.List.Dedup
import SamaServer.MessageAccess

namespace SamaServer

open Fallible

namespace ChatStore

/-- The user has a status row for the message. -/
def HasStatusOf (chat : ChatStore) (mid userId : ObjectId) : Prop :=
  (∃ row ∈ chat.statuses, row.mid = mid ∧ row.userId = userId) ∨
    ∃ row ∈ chat.strayStatuses, row.mid = mid ∧ row.userId = userId

def HasReadStatusOf (chat : ChatStore) (mid userId : ObjectId) : Prop :=
  (∃ row ∈ chat.statuses, row.mid = mid ∧ row.userId = userId ∧
      row.status = .read) ∨
    ∃ row ∈ chat.strayStatuses, row.mid = mid ∧ row.userId = userId ∧
      row.status = .read

/-- The messages of the others in a conversation, newest first. -/
def opponentsMessages (chat : ChatStore) (c userId : ObjectId) :
    List ChatMessage :=
  (chat.messages.filter (fun message =>
    message.cid = c ∧ message.sender ≠ userId)).reverse

end ChatStore

/-- The users that read notifications go to, each with a message that is
reported. -/
def reported (deliveries : List ChatDelivery) : List (StoredId × ObjectId) :=
  deliveries.flatMap (fun delivery =>
    match delivery.packet with
    | .read _ messageIds _ => delivery.recipients.flatMap (fun recipient =>
        messageIds.map (fun mid => (recipient, mid)))
    | _ => [])

/-- The call succeeds; then every message of the others is read and none is
counted as unread; and those that had no status before are reported, each
once and to its author. -/
def ReadsAll (config : ChatConfig) (session : ConversationSession)
    (chat : ChatStore) (c : ObjectId) (isLowerCase : Bool) : Prop :=
  ∃ deliveries after,
    (MessageOperations.read config session (.hex c isLowerCase) none).exec
      chat = (.ok deliveries, after) ∧
    (∀ message ∈ after.messages, message.cid = c →
      message.sender ≠ session.userId →
      after.HasReadStatusOf message.id session.userId) ∧
    after.reads.unreadCount c session.userId = 0 ∧
    (reported deliveries).Nodup ∧
    ∀ recipient mid, (recipient, mid) ∈ reported deliveries ↔
      ∃ message ∈ chat.messages, message.cid = c ∧
        message.sender ≠ session.userId ∧
        ¬ chat.HasStatusOf message.id session.userId ∧
        recipient = .id message.sender ∧ mid = message.id

/-- The caller is a participant of the conversation, which is no channel where
the rules of channels hold. -/
def IsReadable (config : ChatConfig) (session : ConversationSession)
    (chat : ChatStore) (c : ObjectId) : Prop :=
  ∃ stored, chat.conversations.conversations.get? c = some stored ∧
    stored.organizationId = session.organizationId ∧
    (∃ row ∈ chat.conversations.rowsOf c,
      row.userId = .id session.userId) ∧
    (config.disableChannelsLogic = true ∨ stored.type ≠ .c)

/-- The newest messages of the others have no status of the caller, and all
that are beyond the limit are read. -/
def IsFreshHistory (session : ConversationSession) (chat : ChatStore)
    (c : ObjectId) : Prop :=
  (∀ message ∈ (chat.opponentsMessages c session.userId).take
      MessageStore.findAllLimit,
    ¬ chat.HasStatusOf message.id session.userId) ∧
  ∀ message ∈ (chat.opponentsMessages c session.userId).drop
      MessageStore.findAllLimit,
    chat.HasReadStatusOf message.id session.userId

namespace ReadNotifications

variable {config : ChatConfig} {session : ConversationSession}
  {chat : ChatStore} {c : ObjectId}

/-! ### The reports -/

/-- The notifications for messages, by author. -/
def notifications (c reader : ObjectId) (messages : List Message) :
    List ChatDelivery :=
  (MessageOperations.groupByFrom messages).map (fun (sender, group) =>
    ⟨[.id sender], .read c (group.map Message.id) reader⟩)

theorem reported_notifications (c reader : ObjectId)
    (messages : List Message) :
    reported (notifications c reader messages) =
      ((messages.map Message.sender).reverse.dedup.reverse).flatMap
        (fun sender => (messages.filter (fun message =>
          message.sender = sender)).map (fun message =>
            (StoredId.id sender, message.id))) := by
  rw [reported, notifications, MessageOperations.groupByFrom, List.map_map,
    List.flatMap_map]
  apply List.flatMap_congr
  intro sender _
  simp [Function.comp_def]

theorem mem_reported_notifications {reader : ObjectId}
    {messages : List Message} {recipient : StoredId} {mid : ObjectId} :
    (recipient, mid) ∈ reported (notifications c reader messages) ↔
      ∃ message ∈ messages, recipient = .id message.sender ∧
        mid = message.id := by
  rw [reported_notifications, List.mem_flatMap]
  constructor
  · rintro ⟨sender, _, hmem⟩
    obtain ⟨message, hmessage, heq⟩ := List.mem_map.1 hmem
    obtain ⟨hmessage, hsender⟩ := List.mem_filter.1 hmessage
    rw [decide_eq_true_eq] at hsender
    cases heq
    exact ⟨message, hmessage, by rw [hsender], rfl⟩
  · rintro ⟨message, hmessage, rfl, rfl⟩
    refine ⟨message.sender, ?_, ?_⟩
    · rw [List.mem_reverse, List.mem_dedup, List.mem_reverse]
      exact List.mem_map_of_mem hmessage
    · exact List.mem_map.2 ⟨message,
        List.mem_filter.2 ⟨hmessage, by simp⟩, rfl⟩

/-- Messages with distinct ids are reported once. -/
theorem nodup_reported_notifications {reader : ObjectId}
    {messages : List Message} (hids : (messages.map Message.id).Nodup) :
    (reported (notifications c reader messages)).Nodup := by
  rw [reported_notifications, List.nodup_flatMap]
  constructor
  · intro sender _
    have hgroup : ((messages.filter (fun message =>
        message.sender = sender)).map Message.id).Nodup :=
      hids.sublist (List.filter_sublist.map _)
    have hpairs := hgroup.map (f := fun mid => (StoredId.id sender, mid))
      (fun _ _ heq => congrArg Prod.snd heq)
    rwa [List.map_map] at hpairs
  · have hsenders : ((messages.map
        Message.sender).reverse.dedup.reverse).Nodup :=
      List.nodup_reverse.2 (List.nodup_dedup _)
    refine hsenders.imp ?_
    intro first second hne pair hfirst hsecond
    obtain ⟨_, _, rfl⟩ := List.mem_map.1 hfirst
    obtain ⟨_, _, heq⟩ := List.mem_map.1 hsecond
    have hsame := congrArg Prod.fst heq
    cases hsame
    exact hne rfl

/-! ### The call -/

/-- What a call without ids selects. -/
theorem selectUnread_none (chat : ChatStore) (c userId : ObjectId) :
    chat.reads.selectUnread c userId none =
      ((chat.opponentsMessages c userId).take
        MessageStore.findAllLimit).map ChatMessage.toMessage := by
  rw [MessageStore.selectUnread,
    MessageStore.findAllOpponentsMessagesFromConversation,
    ChatStore.opponentsMessages, List.map_take, List.map_reverse]
  congr 2
  rw [ChatStore.reads, List.filter_map]
  congr 1
  apply List.filter_congr
  intro message _
  simp [MessageStore.idQuery, MessageStore.midOfLastRead]

/-- The call of a user who may read. -/
theorem exec_read_of_access
    {access : ConversationService.ConversationAccess} {isLowerCase : Bool}
    (hexec : (MessageOperations.hasAccessToRead config session
      (.hex c isLowerCase)).exec chat = (.ok access, chat))
    (hconversation : access.conversation.id = c) :
    (MessageOperations.read config session (.hex c isLowerCase) none).exec
      chat =
      (.ok (notifications c session.userId
        (chat.reads.selectUnread c session.userId none)),
        (chat.readMessagesInConversation c session.userId none).2) := by
  have hselected : (chat.reads.readMessagesInConversation c session.userId
      none).1 = chat.reads.selectUnread c session.userId none := by
    rw [MessageStore.readMessagesInConversation]
    split <;> rfl
  rw [MessageOperations.read, exec_bind_ok hexec, hconversation]
  change (Except.ok ((MessageOperations.groupByFrom
    (chat.reads.readMessagesInConversation c session.userId none).1).map
      _), _) = _
  rw [hselected]
  rfl

/-- Who may read, as the check of the operation has it. -/
theorem hasAccess_iff_isReadable (isLowerCase : Bool) :
    (∃ access, MessageOperations.HasAccess config session (fun access =>
        ¬ config.disableChannelsLogic ∧
          access.conversation.params.type = .c) (.hex c isLowerCase) chat
        access) ↔ IsReadable config session chat c := by
  constructor
  · rintro ⟨access, _, _, stored, ⟨⟩, hget, horganization, rfl, hrefuses,
      hin⟩
    refine ⟨stored, hget, horganization,
      (MessageOperations.asParticipant_iff _ _ _ _ _).1 hin, ?_⟩
    by_contra hneither
    rw [not_or, not_not] at hneither
    have htype : (ConversationStore.accessTo config.conversations session
        chat.conversations c stored).conversation.params.type = .c :=
      hneither.2
    simp [hneither.1, htype] at hrefuses
  · rintro ⟨stored, hget, horganization, hrow, htype⟩
    refine ⟨_, c, isLowerCase, stored, rfl, hget, horganization, rfl, ?_,
      (MessageOperations.asParticipant_iff _ _ _ _ _).2 hrow⟩
    have hsame : (ConversationStore.accessTo config.conversations session
        chat.conversations c stored).conversation.params.type =
        stored.type := rfl
    rcases htype with hdisabled | htype
    · simp [hdisabled]
    · simp [hsame, htype]

theorem exec_read_cases (config : ChatConfig)
    (session : ConversationSession) (chat : ChatStore) (c : ObjectId)
    (isLowerCase : Bool) :
    (IsReadable config session chat c ∧
      (MessageOperations.read config session (.hex c isLowerCase) none).exec
        chat =
        (.ok (notifications c session.userId
          (chat.reads.selectUnread c session.userId none)),
          (chat.readMessagesInConversation c session.userId none).2)) ∨
    (¬ IsReadable config session chat c ∧ ∃ error,
      (MessageOperations.read config session (.hex c isLowerCase) none).exec
        chat = (.error error, chat)) := by
  rcases MessageOperations.exec_hasAccess_cases config session _
    (.hex c isLowerCase) chat with
    ⟨access, haccess, hexec⟩ | ⟨hnobody, status, _, hexec⟩
  · refine Or.inl ⟨(hasAccess_iff_isReadable isLowerCase).1 ⟨_, haccess⟩, ?_⟩
    refine exec_read_of_access hexec ?_
    obtain ⟨_, _, stored, ⟨⟩, _, _, rfl, _, _⟩ := haccess
    rfl
  · refine Or.inr ⟨?_, _, exec_bind_error hexec _⟩
    intro hreadable
    obtain ⟨access, haccess⟩ :=
      (hasAccess_iff_isReadable isLowerCase).2 hreadable
    exact hnobody access haccess

/-! ### The history after the call -/

theorem reads_after (chat : ChatStore) (c userId : ObjectId)
    (mids : Option (List ObjectId)) :
    (chat.readMessagesInConversation c userId mids).2.reads =
      (chat.reads.readMessagesInConversation c userId mids).2 := by
  simp only [ChatStore.readMessagesInConversation,
    MessageStore.readMessagesInConversation]
  split <;> rfl

theorem statuses_after (chat : ChatStore) (c userId : ObjectId)
    (mids : Option (List ObjectId)) :
    (chat.readMessagesInConversation c userId mids).2.statuses =
      ((chat.reads.selectUnread c userId mids).map
        Message.id).reverse.foldl (MessageStore.upsertStatus c userId .read)
          chat.statuses := by
  simp only [ChatStore.readMessagesInConversation,
    MessageStore.readMessagesInConversation]
  split
  · next hempty =>
      rw [List.isEmpty_iff.1 hempty]
      rfl
  · rfl

/-- The messages that the call selects. -/
def newest (chat : ChatStore) (c userId : ObjectId) : List ChatMessage :=
  (chat.opponentsMessages c userId).take MessageStore.findAllLimit

/-- The messages beyond the limit. -/
def older (chat : ChatStore) (c userId : ObjectId) : List ChatMessage :=
  (chat.opponentsMessages c userId).drop MessageStore.findAllLimit

theorem mem_opponentsMessages {userId : ObjectId} {message : ChatMessage} :
    message ∈ chat.opponentsMessages c userId ↔
      message ∈ chat.messages ∧ message.cid = c ∧
        message.sender ≠ userId := by
  simp [ChatStore.opponentsMessages]

theorem mem_newest_or_older {userId : ObjectId} {message : ChatMessage} :
    message ∈ chat.opponentsMessages c userId ↔
      message ∈ newest chat c userId ∨ message ∈ older chat c userId := by
  rw [← List.mem_append, newest, older, List.take_append_drop]

theorem ids_descend (chat : ChatStore) (c userId : ObjectId) :
    (chat.opponentsMessages c userId).Pairwise (fun later earlier =>
      earlier.id < later.id) := by
  rw [ChatStore.opponentsMessages, List.pairwise_reverse]
  exact chat.messages_sorted.sublist List.filter_sublist

theorem older_lt_newest {userId : ObjectId} {late early : ChatMessage}
    (hlate : late ∈ newest chat c userId)
    (hearly : early ∈ older chat c userId) : early.id < late.id := by
  have hdescend := ids_descend chat c userId
  rw [← List.take_append_drop MessageStore.findAllLimit
    (chat.opponentsMessages c userId), List.pairwise_append] at hdescend
  exact hdescend.2.2 late hlate early hearly

theorem selected_ids (chat : ChatStore) (c userId : ObjectId) :
    (chat.reads.selectUnread c userId none).map Message.id =
      (newest chat c userId).map (fun message => message.id) := by
  rw [selectUnread_none, List.map_map]
  rfl

/-- The call leaves alone what the user has for a message it does not
select. -/
theorem hasReadStatusOf_after {userId mid : ObjectId}
    (hmid : ∀ message ∈ newest chat c userId, message.id ≠ mid) :
    (chat.readMessagesInConversation c userId none).2.HasReadStatusOf mid
        userId ↔ chat.HasReadStatusOf mid userId := by
  have hselected : mid ∉ ((chat.reads.selectUnread c userId none).map
      Message.id).reverse := by
    rw [List.mem_reverse, selected_ids]
    intro hmem
    obtain ⟨message, hmessage, hid⟩ := List.mem_map.1 hmem
    exact hmid message hmessage hid
  have hrow : ∀ row : MessageStatus, row.mid = mid → (row ∈
      (chat.readMessagesInConversation c userId none).2.statuses ↔
        row ∈ chat.statuses) := by
    rintro row rfl
    rw [statuses_after]
    constructor
    · intro hafter
      rcases MessageStore.mem_foldl_upsertStatus _ _ _ _ hafter with hold |
        ⟨_, hwritten, _⟩
      · exact hold
      · exact absurd hwritten hselected
    · intro hbefore
      exact MessageStore.mem_foldl_upsertStatus_of_mem _ _ _ _ hbefore
        (fun _ _ => hselected)
  rw [ChatStore.HasReadStatusOf, ChatStore.HasReadStatusOf]
  apply or_congr_left
  constructor
  · rintro ⟨row, hmem, hof, hrest⟩
    exact ⟨row, (hrow row hof).1 hmem, hof, hrest⟩
  · rintro ⟨row, hmem, hof, hrest⟩
    exact ⟨row, (hrow row hof).2 hmem, hof, hrest⟩

theorem hasReadStatusOf_of_newest {userId : ObjectId}
    {message : ChatMessage} (hmessage : message ∈ newest chat c userId) :
    (chat.readMessagesInConversation c userId none).2.HasReadStatusOf
      message.id userId := by
  have hselected : message.id ∈ ((chat.reads.selectUnread c userId
      none).map Message.id).reverse := by
    rw [List.mem_reverse, selected_ids]
    exact List.mem_map_of_mem hmessage
  obtain ⟨row, hrow, _, hmid, huser, hstatus⟩ :=
    MessageStore.exists_mem_foldl_upsertStatus chat.statuses c userId
      message.id .read hselected
  rw [← statuses_after] at hrow
  exact Or.inl ⟨row, hrow, hmid, huser, hstatus⟩

theorem hasStatusOf_of_read {mid userId : ObjectId}
    (hread : chat.HasReadStatusOf mid userId) :
    chat.HasStatusOf mid userId := by
  rcases hread with ⟨row, hrow, hmid, huser, _⟩ | ⟨row, hrow, hmid, huser, _⟩
  · exact Or.inl ⟨row, hrow, hmid, huser⟩
  · exact Or.inr ⟨row, hrow, hmid, huser⟩

/-- A message that the user has marked in the conversation has a status. -/
theorem hasStatusOf_of_marked {mid userId : ObjectId}
    (hmarked : mid ∈ chat.reads.marked c userId) :
    chat.HasStatusOf mid userId := by
  obtain ⟨row, hrow, rfl⟩ := List.mem_map.1 hmarked
  obtain ⟨hrow, hof⟩ := List.mem_filter.1 hrow
  simp only [decide_eq_true_eq] at hof
  exact Or.inl ⟨row, hrow, rfl, hof.2⟩

/-- Marked for the first time are all that are selected, when none has a
status. -/
theorem newlyMarked_of_fresh {userId : ObjectId}
    (hfresh : ∀ message ∈ newest chat c userId,
      ¬ chat.HasStatusOf message.id userId) :
    chat.reads.newlyMarked c userId none =
      ((newest chat c userId).map (fun message => message.id)).reverse := by
  rw [MessageStore.newlyMarked, selected_ids, List.filter_eq_self]
  intro mid hmid
  obtain ⟨message, hmessage, rfl⟩ := List.mem_map.1 (List.mem_reverse.1 hmid)
  simp only [decide_eq_true_eq]
  exact fun hmarked => hfresh message hmessage (hasStatusOf_of_marked hmarked)

/-- The last message that is marked is the newest of all. -/
theorem unreadCount_after {userId : ObjectId}
    (hfresh : ∀ message ∈ newest chat c userId,
      ¬ chat.HasStatusOf message.id userId) :
    (chat.readMessagesInConversation c userId none).2.reads.unreadCount c
      userId = 0 := by
  rw [reads_after, MessageStore.unreadCount_eq, List.length_eq_zero_iff,
    List.eq_nil_iff_forall_not_mem]
  intro counted hcounted
  obtain ⟨hmem, hcid, hsender, hlast⟩ := MessageStore.mem_counted.1 hcounted
  rw [MessageStore.messages_read] at hmem
  obtain ⟨message, hmessage, rfl⟩ := List.mem_map.1 hmem
  have hopponent : message ∈ chat.opponentsMessages c userId :=
    mem_opponentsMessages.2 ⟨hmessage, hcid, hsender⟩
  -- the newest message is the head of what is selected and marked last
  obtain ⟨head, rest, hlist⟩ := List.exists_cons_of_ne_nil
    (List.ne_nil_of_mem hopponent)
  have hnewest : newest chat c userId =
      head :: rest.take (MessageStore.findAllLimit - 1) := by
    rw [newest, hlist]
    rfl
  have hbelow : message.id ≤ head.id := by
    rw [hlist] at hopponent
    rcases List.mem_cons.1 hopponent with rfl | hrest
    · exact Nat.le_refl _
    · have hdescend := ids_descend chat c userId
      rw [hlist] at hdescend
      exact Nat.le_of_lt (List.rel_of_pairwise_cons hdescend hrest)
  have habove : head.id < message.id := by
    apply hlast
    rw [MessageStore.marked_read, newlyMarked_of_fresh hfresh, hnewest]
    simp
  exact Nat.not_lt_of_le hbelow habove

/-! ### When a call is complete and exact -/

/-- What a call reports is what it selects. -/
theorem mem_reported_iff {recipient : StoredId} {mid userId : ObjectId} :
    (recipient, mid) ∈ reported (notifications c userId
        (chat.reads.selectUnread c userId none)) ↔
      ∃ message ∈ newest chat c userId,
        recipient = .id message.sender ∧ mid = message.id := by
  rw [mem_reported_notifications, selectUnread_none]
  constructor
  · rintro ⟨_, hmem, hreport⟩
    obtain ⟨message, hmessage, rfl⟩ := List.mem_map.1 hmem
    exact ⟨message, hmessage, hreport⟩
  · rintro ⟨message, hmessage, hreport⟩
    exact ⟨message.toMessage, List.mem_map_of_mem hmessage, hreport⟩

theorem nodup_reported (chat : ChatStore) (c userId : ObjectId) :
    (reported (notifications c userId
      (chat.reads.selectUnread c userId none))).Nodup := by
  apply nodup_reported_notifications
  rw [← List.nodup_reverse]
  exact (chat.reads.selected_sorted c userId none).nodup

/-- The claims about a history after the call, when the call succeeds. -/
theorem reads_all_iff_isFreshHistory :
    ((∀ message ∈ chat.messages, message.cid = c →
        message.sender ≠ session.userId →
        (chat.readMessagesInConversation c session.userId
          none).2.HasReadStatusOf message.id session.userId) ∧
      ∀ recipient mid, (recipient, mid) ∈ reported (notifications c
          session.userId
          (chat.reads.selectUnread c session.userId none)) ↔
        ∃ message ∈ chat.messages, message.cid = c ∧
          message.sender ≠ session.userId ∧
          ¬ chat.HasStatusOf message.id session.userId ∧
          recipient = .id message.sender ∧ mid = message.id) ↔
      IsFreshHistory session chat c := by
  constructor
  · rintro ⟨hread, hreported⟩
    constructor
    · intro message hmessage
      obtain ⟨_, _, _, _, hnone, _, hid⟩ := (hreported _ _).1
        (mem_reported_iff.2 ⟨message, hmessage, rfl, rfl⟩)
      rw [hid]
      exact hnone
    · intro message hmessage
      obtain ⟨hmem, hcid, hsender⟩ := mem_opponentsMessages.1
        (mem_newest_or_older.2 (Or.inr hmessage))
      rw [← hasReadStatusOf_after]
      · exact hread message hmem hcid hsender
      · intro late hlate
        exact (Nat.ne_of_lt (older_lt_newest hlate hmessage)).symm
  · rintro ⟨hfresh, hold⟩
    constructor
    · intro message hmem hcid hsender
      rcases mem_newest_or_older.1 (mem_opponentsMessages.2
        ⟨hmem, hcid, hsender⟩) with hnewest | holder
      · exact hasReadStatusOf_of_newest hnewest
      · rw [hasReadStatusOf_after]
        · exact hold message holder
        · intro late hlate
          exact (Nat.ne_of_lt (older_lt_newest hlate holder)).symm
    · intro recipient mid
      rw [mem_reported_iff]
      constructor
      · rintro ⟨message, hmessage, hreport⟩
        obtain ⟨hmem, hcid, hsender⟩ := mem_opponentsMessages.1
          (mem_newest_or_older.2 (Or.inl hmessage))
        exact ⟨message, hmem, hcid, hsender, hfresh message hmessage,
          hreport⟩
      · rintro ⟨message, hmem, hcid, hsender, hnone, hreport⟩
        rcases mem_newest_or_older.1 (mem_opponentsMessages.2
          ⟨hmem, hcid, hsender⟩) with hnewest | holder
        · exact ⟨message, hnewest, hreport⟩
        · exact absurd (hasStatusOf_of_read (hold message holder)) hnone

/-- A call without ids reads everything and reports what was unread, exactly
when the caller may read, none of the newest messages has a status of the
caller and all that are older than these are read. -/
theorem readsAll_iff (config : ChatConfig) (session : ConversationSession)
    (chat : ChatStore) (c : ObjectId) (isLowerCase : Bool) :
    ReadsAll config session chat c isLowerCase ↔
      IsReadable config session chat c ∧ IsFreshHistory session chat c := by
  constructor
  · rintro ⟨deliveries, after, hexec, hread, _, _, hreported⟩
    rcases exec_read_cases config session chat c isLowerCase with
      ⟨hreadable, hcall⟩ | ⟨_, error, hcall⟩
    · rw [hcall] at hexec
      cases hexec
      exact ⟨hreadable, reads_all_iff_isFreshHistory.1 ⟨hread, hreported⟩⟩
    · rw [hcall] at hexec
      cases hexec
  · rintro ⟨hreadable, hfresh⟩
    rcases exec_read_cases config session chat c isLowerCase with
      ⟨_, hcall⟩ | ⟨hnot, _⟩
    · obtain ⟨hread, hreported⟩ := reads_all_iff_isFreshHistory.2 hfresh
      exact ⟨_, _, hcall, hread, unreadCount_after hfresh.1,
        nodup_reported chat c session.userId, hreported⟩
    · exact absurd hreadable hnot

/-- The message was read before. -/
def readBefore : ChatStore :=
  { ChatStore.oneMessage with
    statuses := [⟨4, 0, 1, .read⟩] }

/-- Reading again reports the message again. -/
theorem readBefore_reported_again :
    ¬ ReadsAll .plain ⟨1, 9⟩ readBefore 4 true := by
  rintro ⟨deliveries, after, hexec, _, _, _, hreported⟩
  have hcall : ((MessageOperations.read .plain ⟨1, 9⟩ (.hex 4 true)
      none).exec readBefore).1 = .ok [⟨[.id 0], .read 4 [0] 1⟩] := by
    decide
  rw [hexec] at hcall
  cases hcall
  obtain ⟨message, hmem, _, _, hnone, _⟩ := (hreported (.id 0) 0).1
    (by decide)
  rw [List.mem_singleton.1 hmem] at hnone
  exact hnone (Or.inl ⟨_, List.mem_singleton_self _, rfl, rfl⟩)

end ReadNotifications

end SamaServer
