/-
Two notions of an unread message.  A list of conversations counts the
messages after the one of the last status row, hidden or not; a summary looks
for messages by a date that is compared as a number.
-/
import SamaServer.ReadNotifications

namespace SamaServer

open Fallible

namespace ChatStore

instance (chat : ChatStore) (mid userId : ObjectId) :
    Decidable (chat.HasStatusOf mid userId) :=
  inferInstanceAs (Decidable (_ ∨ _))

/-- The messages of the others that the user sees and has no status for. -/
def unreadOf (chat : ChatStore) (c userId : ObjectId) : List ChatMessage :=
  chat.messages.filter (fun message => message.cid = c ∧
    message.sender ≠ userId ∧ message.isVisibleTo userId ∧
    ¬ chat.HasStatusOf message.id userId)

/-- The unread messages that a summary can use. -/
def unreadTextsOf (chat : ChatStore) (c userId : ObjectId) :
    List ChatMessage :=
  (chat.unreadOf c userId).filter ChatMessage.hasText

/-- Every list of conversations counts the unread messages, and a summary
finds those with a text, unless they are too many for one query. -/
def AgreesOnUnread (chat : ChatStore) (c : ObjectId) (isLowerCase : Bool)
    (userId : ObjectId) : Prop :=
  (∀ cids, c ∈ cids →
    (chat.reads.aggregateCountOfUnreadMessagesByCid cids userId c).getD 0 =
      (chat.unreadOf c userId).length) ∧
  ∃ messages, MessageOperations.getUnreadMessages c isLowerCase userId chat =
      .ok messages ∧
    ((chat.unreadTextsOf c userId).length ≤ MessageStore.findAllLimit →
      ∀ message, message ∈ messages ↔ message ∈ chat.unreadTextsOf c userId)

/-- Messages of the others after a message, which the user has hidden. -/
def hiddenAfter (chat : ChatStore) (c userId last : ObjectId) :
    List ChatMessage :=
  chat.messages.filter (fun message => message.cid = c ∧
    message.sender ≠ userId ∧ ¬ message.isVisibleTo userId ∧
    last < message.id)

/-- Unread messages that are not after a message. -/
def skippedBefore (chat : ChatStore) (c userId last : ObjectId) :
    List ChatMessage :=
  (chat.unreadOf c userId).filter (fun message => message.id ≤ last)

/-- The user has a status row; no unread message has a text, or too many
have; and as many messages are hidden after the one of the last row as were
skipped before it. -/
def IsEvenedOut (chat : ChatStore) (c userId : ObjectId) : Prop :=
  ∃ last ∈ (chat.reads.marked c userId).getLast?,
    (chat.unreadTextsOf c userId = [] ∨
      MessageStore.findAllLimit < (chat.unreadTextsOf c userId).length) ∧
    (chat.hiddenAfter c userId last).length =
      (chat.skippedBefore c userId last).length

/-- A server before the first message. -/
def fresh (conversations : ConversationStore) (blocks : BlockList) :
    ChatStore :=
  ⟨conversations, [], [], [], [], blocks, 0, 0, .nil, by simp⟩

end ChatStore

/-- A user sends a message, reads a conversation without naming messages, or
deletes messages for themselves. -/
inductive UnreadEvent
  | send (config : ChatConfig) (session : ConversationSession)
      (params : MessageParams)
  | read (config : ChatConfig) (session : ConversationSession) (cid : TextId)
  | hide (config : ChatConfig) (session : ConversationSession) (cid : TextId)
      (ids : List IdParam)

namespace ChatStore

def apply (chat : ChatStore) : UnreadEvent → ChatStore
  | .send config session params =>
      ((MessageOperations.create config session params).exec chat).2
  | .read config session cid =>
      ((MessageOperations.read config session cid none).exec chat).2
  | .hide config session cid ids =>
      ((MessageOperations.delete config session cid ids false).exec chat).2

/-- The server after some events. -/
def after (conversations : ConversationStore) (blocks : BlockList)
    (events : List UnreadEvent) : ChatStore :=
  events.foldl apply (fresh conversations blocks)

end ChatStore

/-! ### The marks of a user -/

namespace MessageStore

/-- The marks are for messages of the others; the newest of them is the last;
and a message that the next call would mark is newer than all of them. -/
structure ReadsNewest (store : MessageStore) (c userId : ObjectId) :
    Prop where
  marksOpponents : store.MarksOpponents c userId
  noReadCounted : store.NoReadCounted c userId
  selected_newer : ∀ message ∈ store.selectUnread c userId none,
    message.id ∉ store.marked c userId →
      ∀ mid ∈ store.marked c userId, mid < message.id

variable {store : MessageStore} {c userId : ObjectId}

theorem selectUnread_none_eq (store : MessageStore) (c userId : ObjectId) :
    store.selectUnread c userId none =
      (store.messages.filter (fun message => message.cid = c ∧
        message.sender ≠ userId)).reverse.take findAllLimit := by
  rw [selectUnread, findAllOpponentsMessagesFromConversation]
  congr 2
  apply List.filter_congr
  intro message _
  simp [idQuery, midOfLastRead]

/-- A new message pushes others out of reach and brings none back. -/
theorem mem_selectUnread_create {newCid sender : ObjectId}
    {message : Message}
    (hmessage : message ∈ (store.create newCid sender).selectUnread c userId
      none) :
    message.id = store.nextId ∨
      message ∈ store.selectUnread c userId none := by
  rw [selectUnread_none_eq, create, List.filter_append,
    List.reverse_append] at hmessage
  rw [selectUnread_none_eq]
  by_cases hnew : newCid = c ∧ sender ≠ userId
  · rw [List.filter_cons_of_pos (by simpa using hnew), List.filter_nil,
      List.reverse_singleton, findAllLimit, List.singleton_append,
      List.take_succ_cons] at hmessage
    rcases List.mem_cons.1 hmessage with rfl | hold
    · exact Or.inl rfl
    · exact Or.inr (List.take_subset_take_left _ (by decide) hold)
  · rw [List.filter_cons_of_neg (by simpa using hnew)] at hmessage
    exact Or.inr hmessage

theorem ReadsNewest.create (hstore : store.ReadsNewest c userId)
    (newCid sender : ObjectId) :
    (store.create newCid sender).ReadsNewest c userId where
  marksOpponents := marksOpponents_apply hstore.marksOpponents
    (.send newCid sender)
  noReadCounted := (noReadCounted_apply_iff hstore.marksOpponents
    hstore.noReadCounted (.send newCid sender)).2 trivial
  selected_newer := by
    intro message hmessage hunmarked mid hmid
    rcases mem_selectUnread_create hmessage with hnew | hold
    · obtain ⟨marked, hmarked, rfl, _⟩ := hstore.marksOpponents mid hmid
      rw [hnew]
      exact store.messages_below marked hmarked
    · exact hstore.selected_newer message hold hunmarked mid hmid

/-- A call without ids marks only messages that are newer than all marks. -/
theorem ReadsNewest.readsForward (hstore : store.ReadsNewest c userId) :
    store.ReadsForward c userId none := by
  rcases List.eq_nil_or_concat (store.newlyMarked c userId none) with
    hnone | ⟨start, newest, hnew⟩
  · exact Or.inl hnone
  · have hmem : newest ∈ store.newlyMarked c userId none := by
      rw [hnew]
      simp
    obtain ⟨hselected, hunmarked⟩ := List.mem_filter.1 hmem
    obtain ⟨message, hmessage, rfl⟩ := List.mem_map.1
      (List.mem_reverse.1 hselected)
    exact Or.inr ⟨_, hmem, hstore.selected_newer message hmessage
      (by simpa using hunmarked)⟩

theorem ReadsNewest.read (hstore : store.ReadsNewest c userId)
    (readCid reader : ObjectId) :
    (store.readMessagesInConversation readCid reader none).2.ReadsNewest c
      userId where
  marksOpponents := marksOpponents_apply hstore.marksOpponents
    (.read readCid reader none)
  noReadCounted := (noReadCounted_apply_iff hstore.marksOpponents
    hstore.noReadCounted (.read readCid reader none)).2
    (fun hsame => by
      cases hsame
      exact hstore.readsForward)
  selected_newer := by
    intro message hmessage hunmarked mid hmid
    rw [selectUnread_none_eq, messages_read, ← selectUnread_none_eq]
      at hmessage
    by_cases hsame : (c, userId) = (readCid, reader)
    · -- all that the call selects is marked now
      cases hsame
      rw [marked_read, List.mem_append, not_or] at hunmarked
      refine absurd (List.mem_filter.2 ⟨?_, ?_⟩) hunmarked.2
      · exact List.mem_reverse.2 (List.mem_map_of_mem hmessage)
      · simpa using hunmarked.1
    · rw [marked_read_of_ne store _ _ _ hsame] at hunmarked hmid
      exact hstore.selected_newer message hmessage hunmarked mid hmid

theorem ReadsNewest.of_no_statuses (hstatuses : store.statuses = []) :
    store.ReadsNewest c userId := by
  have hmarked : store.marked c userId = [] := by
    rw [marked, marksIn, hstatuses]
    rfl
  refine ⟨?_, ?_, ?_⟩
  · intro mid hmid
    rw [hmarked] at hmid
    cases hmid
  · intro message _
    rw [hmarked]
    exact List.not_mem_nil
  · intro message _ _ mid hmid
    rw [hmarked] at hmid
    cases hmid

end MessageStore

/-! ### Runs -/

namespace ChatStore

/-- Every user reads forward, and every status row has the id of a
conversation. -/
def IsOrderly (chat : ChatStore) : Prop :=
  chat.strayStatuses = [] ∧ ∀ c userId, chat.reads.ReadsNewest c userId

theorem reads_createMessage (chat : ChatStore)
    (cid sender organizationId : ObjectId) (body : Option String)
    (deletedFor : List StoredId) :
    (chat.createMessage cid sender organizationId body deletedFor).reads =
      chat.reads.create cid sender := by
  simp [reads, createMessage, MessageStore.create]

theorem reads_hideMessagesForUser (session : ConversationSession)
    (messageIds : List ObjectId) (cid : ObjectId) (chat : ChatStore) :
    (MessageOperations.hideMessagesForUser session messageIds cid
      chat).reads = chat.reads := by
  have hsame : ∀ message : ChatMessage,
      (if MessageOperations.isInConversation session messageIds cid
          message then
        MessageOperations.hide session.userId message
      else message).toMessage = message.toMessage := by
    intro message
    split
    · rw [MessageOperations.hide]
      split <;> rfl
    · rfl
  simp only [reads, MessageOperations.hideMessagesForUser, updateMessages,
    List.map_map, Function.comp_def, hsame]

theorem IsOrderly.create {chat : ChatStore} (hchat : chat.IsOrderly)
    (cid sender organizationId : ObjectId) (body : Option String)
    (deletedFor : List StoredId) :
    (chat.createMessage cid sender organizationId body
      deletedFor).IsOrderly := by
  refine ⟨hchat.1, fun c userId => ?_⟩
  rw [reads_createMessage]
  exact (hchat.2 c userId).create cid sender

end ChatStore

namespace MessageOperations

open ConversationService

variable (config : ChatConfig) (session : ConversationSession)

theorem isOrderly_onConversations {A : Type}
    (program : ConversationProgram A) :
    (onConversations program).Preserves ChatStore.IsOrderly :=
  fun _ hchat => hchat

theorem isOrderly_query {A : Type}
    (answer : ChatStore → Except ConversationError A) :
    (query answer).Preserves ChatStore.IsOrderly :=
  (readOnly_query answer).preserves _

theorem isOrderly_pure {A : Type} (result : A) :
    (pure result : ChatProgram A).Preserves ChatStore.IsOrderly :=
  (readOnly_pure result).preserves _

theorem isOrderly_fail {A : Type} (status : ErrorStatus) :
    (fail status : ChatProgram A).Preserves ChatStore.IsOrderly :=
  (readOnly_throw _).preserves _

theorem isOrderly_hasAccess (refuses : ConversationAccess → Bool)
    (cid : TextId) :
    (hasAccess config session refuses cid).Preserves
      ChatStore.IsOrderly := by
  refine preserves_bind (isOrderly_onConversations _) ?_
  intro found
  split
  · exact isOrderly_fail _
  · split
    · exact isOrderly_fail _
    · split
      · exact isOrderly_pure _
      · exact isOrderly_fail _

theorem isOrderly_checkBlocked (conversation : ConversationModel) :
    (checkBlocked session conversation).Preserves ChatStore.IsOrderly := by
  rw [checkBlocked]
  split
  · refine preserves_bind (isOrderly_query _) ?_
    intro blockedUserIds
    split
    · exact isOrderly_pure _
    · exact isOrderly_fail _
  · exact isOrderly_pure _

theorem isOrderly_validateRepliedMessageId (cid : ObjectId)
    (mid : Option TextId) :
    (validateRepliedMessageId session cid mid).Preserves
      ChatStore.IsOrderly := by
  cases mid with
  | none => exact isOrderly_pure _
  | some mid =>
      refine preserves_bind (isOrderly_query _) ?_
      intro message
      split
      · exact isOrderly_pure _
      · exact isOrderly_fail _

theorem isOrderly_createMessage (conversation : ConversationModel)
    (user : User) (body : Option String) (deletedFor : List IdParam) :
    (createMessage conversation user body deletedFor).Preserves
      ChatStore.IsOrderly := by
  refine preserves_bind (isOrderly_query _) (fun mid => ?_)
  refine preserves_bind ?_ (fun _ => isOrderly_query _)
  exact fun _ hchat => hchat.create _ _ _ _ _

/-- A message that is sent. -/
theorem isOrderly_create (params : MessageParams) :
    (create config session params).Preserves ChatStore.IsOrderly := by
  refine preserves_bind (isOrderly_query _) (fun currentUser => ?_)
  refine preserves_bind (isOrderly_hasAccess _ _ _ _) (fun access => ?_)
  refine preserves_bind (isOrderly_checkBlocked _ _) (fun _ => ?_)
  refine preserves_bind (isOrderly_validateRepliedMessageId _ _ _)
    (fun _ => ?_)
  refine preserves_bind ?_ (fun user => ?_)
  · cases currentUser with
    | none => exact (readOnly_throw _).preserves _
    | some user => exact isOrderly_pure _
  refine preserves_bind ?_ (fun response => ?_)
  · rw [executeConversationHandler]
    split
    · exact isOrderly_fail _
    · exact isOrderly_pure _
  refine preserves_bind (isOrderly_createMessage _ _ _ _) (fun created => ?_)
  refine preserves_bind ?_ (fun restored => ?_)
  · rw [restoreMembers]
    split
    · refine preserves_bind (isOrderly_onConversations _) (fun missed => ?_)
      split
      · exact isOrderly_pure _
      · exact isOrderly_pure _
    · exact isOrderly_pure _
  refine preserves_bind ?_ (fun answered => isOrderly_pure _)
  cases response.botMessage with
  | none => exact isOrderly_pure _
  | some botMessage => exact isOrderly_createMessage _ _ _ _

/-- A call without ids. -/
theorem isOrderly_read (cid : TextId) :
    (read config session cid none).Preserves ChatStore.IsOrderly := by
  refine preserves_bind (isOrderly_hasAccess _ _ _ _) (fun access => ?_)
  have hnone : ∀ rest : Option (List ObjectId) → ChatProgram
      (List ChatDelivery), queryIds none >>= rest = rest none :=
    fun _ => rfl
  rw [hnone]
  refine preserves_bind ?_ (fun unreadMessages => isOrderly_pure _)
  intro chat hchat
  refine ⟨hchat.1, fun c userId => ?_⟩
  rw [exec_command, ReadNotifications.reads_after]
  exact (hchat.2 c userId).read _ _

/-- A deletion for the caller. -/
theorem isOrderly_delete (cid : TextId) (ids : List IdParam) :
    (delete config session cid ids false).Preserves
      ChatStore.IsOrderly := by
  refine preserves_bind (isOrderly_hasAccess _ _ _ _) (fun access => ?_)
  refine preserves_bind (isOrderly_query _) (fun messages => ?_)
  refine preserves_bind ?_ (fun _ => ?_)
  · rw [validateMessagesForDelete]
    split
    · exact isOrderly_fail _
    · exact isOrderly_pure _
  refine preserves_bind ?_ (fun _ => isOrderly_pure _)
  intro chat hchat
  rw [write, exec_command]
  dsimp only
  split
  · exact hchat
  · refine ⟨hchat.1, fun c userId => ?_⟩
    rw [if_neg Bool.false_ne_true, ChatStore.reads_hideMessagesForUser]
    exact hchat.2 c userId

end MessageOperations

namespace ChatStore

theorem isOrderly_apply {chat : ChatStore} (hchat : chat.IsOrderly)
    (event : UnreadEvent) : (chat.apply event).IsOrderly := by
  cases event with
  | send config session params =>
      exact MessageOperations.isOrderly_create config session params chat
        hchat
  | read config session cid =>
      exact MessageOperations.isOrderly_read config session cid chat hchat
  | hide config session cid ids =>
      exact MessageOperations.isOrderly_delete config session cid ids chat
        hchat

theorem isOrderly_after (conversations : ConversationStore)
    (blocks : BlockList) (events : List UnreadEvent) :
    (after conversations blocks events).IsOrderly := by
  induction events using List.reverseRecOn with
  | nil => exact ⟨rfl, fun c userId => .of_no_statuses rfl⟩
  | append_singleton events last ih =>
      rw [after, List.foldl_append]
      exact isOrderly_apply ih last

/-! ### The two notions -/

theorem nodup_ids (chat : ChatStore) :
    (chat.messages.map (fun message => message.id)).Nodup := by
  have hsorted : (chat.messages.map (fun message => message.id)).Pairwise
      (· < ·) := by
    rw [List.pairwise_map]
    exact chat.messages_sorted
  exact hsorted.nodup

variable {chat : ChatStore} {c userId : ObjectId}

/-- A message of the others has a status of the user exactly when it is
marked. -/
theorem IsOrderly.hasStatusOf_iff (hchat : chat.IsOrderly)
    {message : ChatMessage} (hmessage : message ∈ chat.messages)
    (hcid : message.cid = c) :
    chat.HasStatusOf message.id userId ↔
      message.id ∈ chat.reads.marked c userId := by
  refine ⟨?_, ReadNotifications.hasStatusOf_of_marked⟩
  rintro (⟨row, hrow, hmid, huser⟩ | ⟨row, hrow, _⟩)
  · -- the row is of the conversation of its message
    have hin : row.mid ∈ chat.reads.marked row.cid userId :=
      List.mem_map.2 ⟨row, List.mem_filter.2 ⟨hrow, by simp [huser]⟩, rfl⟩
    obtain ⟨other, hother, hid, hof, _⟩ :=
      (hchat.2 row.cid userId).marksOpponents row.mid hin
    obtain ⟨stored, hstored, rfl⟩ := List.mem_map.1 hother
    have hsame : stored = message :=
      List.inj_on_of_nodup_map chat.nodup_ids hstored hmessage
        (hid.trans hmid)
    have hrowCid : row.cid = c := by
      rw [← hcid, ← hsame]
      exact hof.symm
    rw [← hrowCid, ← hmid]
    exact hin
  · rw [hchat.1] at hrow
    cases hrow

/-- What is counted: the messages of the others after the last row. -/
theorem counted_length (chat : ChatStore) {last : ObjectId}
    (hlast : last ∈ (chat.reads.marked c userId).getLast?) :
    (chat.reads.counted c userId).length =
      (chat.messages.filter (fun message => message.cid = c ∧
        message.sender ≠ userId ∧ last < message.id)).length := by
  rw [MessageStore.counted, reads, List.filter_map, List.length_map]
  congr 1
  apply List.filter_congr
  intro message _
  have hfound : chat.reads.findLastReadMessageByUserForCid [c] userId c =
      some last := by
    rw [MessageStore.findLastReadMessageByUserForCid,
      if_pos List.mem_cons_self]
    exact hlast
  change MessageStore.isUnread userId
    (chat.reads.findLastReadMessageByUserForCid [c] userId) c
      message.toMessage = _
  rw [MessageStore.isUnread, hfound]
  simp

/-- The messages after the last row are hidden or unread. -/
theorem IsOrderly.counted_eq (hchat : chat.IsOrderly) {last : ObjectId}
    (hlast : last ∈ (chat.reads.marked c userId).getLast?) :
    (chat.reads.counted c userId).length =
      (chat.hiddenAfter c userId last).length +
        ((chat.unreadOf c userId).filter (fun message =>
          last < message.id)).length := by
  have hnewest := (MessageStore.noReadCounted_iff
    (hchat.2 c userId).marksOpponents).1 (hchat.2 c userId).noReadCounted
  rw [counted_length chat hlast, List.length_eq_length_filter_add
    (fun message : ChatMessage => ! message.isVisibleTo userId),
    List.filter_filter, List.filter_filter, unreadOf, List.filter_filter,
    hiddenAfter]
  congr 2
  · apply List.filter_congr
    intro message _
    rw [Bool.eq_iff_iff]
    simp only [Bool.and_eq_true, Bool.not_eq_true', decide_eq_true_eq,
      Bool.not_eq_true]
    tauto
  · apply List.filter_congr
    intro message hmessage
    rw [Bool.eq_iff_iff]
    simp only [Bool.and_eq_true, Bool.not_not, decide_eq_true_eq]
    constructor
    · rintro ⟨hvisible, hcid, hsender, hlater⟩
      refine ⟨hlater, hcid, hsender, hvisible, ?_⟩
      rw [hchat.hasStatusOf_iff hmessage hcid]
      exact fun hmarked => Nat.not_lt_of_le
        (hnewest message.id hmarked last hlast) hlater
    · rintro ⟨hlater, hcid, hsender, hvisible, _⟩
      exact ⟨hvisible, hcid, hsender, hlater⟩

theorem unreadOf_length (chat : ChatStore) (c userId last : ObjectId) :
    (chat.unreadOf c userId).length =
      (chat.skippedBefore c userId last).length +
        ((chat.unreadOf c userId).filter (fun message =>
          last < message.id)).length := by
  rw [List.length_eq_length_filter_add
    (fun message : ChatMessage => decide (message.id ≤ last)), skippedBefore]
  congr 2
  apply List.filter_congr
  intro message _
  rw [Bool.eq_iff_iff]
  simp

/-- A summary fails without a status row and finds nothing with one. -/
theorem getUnreadMessages_eq (isLowerCase : Bool) :
    MessageOperations.getUnreadMessages c isLowerCase userId chat =
      if isLowerCase ∧ chat.reads.marked c userId ≠ [] then .ok []
      else .error .typeError := by
  rw [MessageOperations.getUnreadMessages]
  cases isLowerCase with
  | false => simp
  | true =>
      rw [MessageStore.findLastReadMessageByUserForCid]
      cases hlast : (chat.reads.marked c userId).getLast? with
      | none => simp [List.getLast?_eq_none_iff.1 hlast]
      | some last =>
          have hne : chat.reads.marked c userId ≠ [] :=
            List.ne_nil_of_mem (List.mem_of_getLast? hlast)
          simp only [List.mem_singleton, ↓reduceIte, list, hne, ne_eq,
            not_false_eq_true, and_true]
          simp
          rfl

theorem IsOrderly.agreesOnUnread_iff (hchat : chat.IsOrderly)
    (isLowerCase : Bool) :
    chat.AgreesOnUnread c isLowerCase userId ↔
      isLowerCase = true ∧ chat.IsEvenedOut c userId := by
  rw [AgreesOnUnread, getUnreadMessages_eq]
  constructor
  · rintro ⟨hcount, messages, hget, htexts⟩
    split at hget
    · next hrow =>
        cases hget
        obtain ⟨last, hlast⟩ := Option.isSome_iff_exists.1
          (List.getLast?_isSome.2 hrow.2)
        refine ⟨hrow.1, last, hlast, ?_, ?_⟩
        · rcases Nat.lt_or_ge MessageStore.findAllLimit
            (chat.unreadTextsOf c userId).length with hmany | hfew
          · exact Or.inr hmany
          · refine Or.inl (List.eq_nil_iff_forall_not_mem.2 ?_)
            intro message hmessage
            exact List.not_mem_nil ((htexts hfew message).2 hmessage)
        · have hsame := hcount [c] List.mem_cons_self
          rw [MessageStore.aggregateCount_of_mem _ List.mem_cons_self,
            hchat.counted_eq hlast, unreadOf_length chat c userId last]
            at hsame
          omega
    · cases hget
  · rintro ⟨hcase, last, hlast, htexts, heven⟩
    refine ⟨?_, [], ?_, ?_⟩
    · intro cids hcids
      rw [MessageStore.aggregateCount_of_mem _ hcids,
        hchat.counted_eq hlast, unreadOf_length chat c userId last]
      omega
    · rw [if_pos ⟨hcase, List.ne_nil_of_mem (List.mem_of_getLast? hlast)⟩]
    · intro hfew message
      rcases htexts with hnone | hmany
      · rw [hnone]
      · exact absurd hfew (Nat.not_le_of_lt hmany)

/-- The two notions agree in a state that a run reaches, exactly when the id
is sent in lower case, the user has a status row, a summary has nothing to
find and the hidden messages are as many as the skipped ones. -/
theorem after_agreesOnUnread_iff (conversations : ConversationStore)
    (blocks : BlockList) (events : List UnreadEvent) (c : ObjectId)
    (isLowerCase : Bool) (userId : ObjectId) :
    (after conversations blocks events).AgreesOnUnread c isLowerCase userId ↔
      isLowerCase = true ∧
        (after conversations blocks events).IsEvenedOut c userId :=
  (isOrderly_after conversations blocks events).agreesOnUnread_iff
    isLowerCase

/-- The first message of the owner of a conversation. -/
def firstMessage : UnreadEvent :=
  .send .plain ⟨0, 9⟩ ⟨.hex 4 true, some "hello", none, []⟩

/-- The opponent has no status row, and the summary fails. -/
theorem firstMessage_summary_fails :
    ¬ (after .threeUsers .empty [firstMessage]).AgreesOnUnread 4 true 1 := by
  rintro ⟨_, messages, hget, _⟩
  have hfails : MessageOperations.getUnreadMessages 4 true 1
      (after .threeUsers .empty [firstMessage]) = .error .typeError := by
    rfl
  rw [hfails] at hget
  cases hget

end ChatStore

end SamaServer
