/-
Reports of messages that could not be decrypted.  They are stored among the
read marks, and what shows or counts these does not look at the status.
-/
import SamaServer.UnreadMessages

namespace SamaServer

open Fallible

namespace ChatStore

/-- Some user's stored status of the message is `read`. -/
def HasReadStatus (chat : ChatStore) (mid : ObjectId) : Prop :=
  ∃ userId, chat.HasReadStatusOf mid userId

/-- Lists of messages and of conversations show a message as read only if
some user has read it. -/
def ShowsOnlyRead (chat : ChatStore) : Prop :=
  (∀ session messages message, message ∈ chat.messages →
    (message, some .read) ∈ MessageOperations.assignMessageVirtualFields
      session messages chat → chat.HasReadStatus message.id) ∧
  ∀ cids userId c message,
    MessageOperations.aggregateLastMessageForConversation cids userId chat
      c = some (message, .read) → chat.HasReadStatus message.id

/-- A history of messages before anyone has a status for one. -/
def withoutStatuses (chat : ChatStore) : ChatStore :=
  { chat with
    statuses := []
    strayStatuses := [] }

end ChatStore

inductive StatusEvent
  | read (config : ChatConfig) (session : ConversationSession) (cid : TextId)
      (ids : Option (List IdParam))
  | decryptionFailed (session : ConversationSession) (cid : TextId)
      (mids : List ObjectId)

namespace ChatStore

def applyStatus (chat : ChatStore) : StatusEvent → ChatStore
  | .read config session cid ids =>
      ((MessageOperations.read config session cid ids).exec chat).2
  | .decryptionFailed session cid mids =>
      ((MessageOperations.decryptionFailed session cid mids).exec chat).2

/-- A history of messages after some calls. -/
def afterStatuses (start : ChatStore) (events : List StatusEvent) :
    ChatStore :=
  events.foldl applyStatus start.withoutStatuses

/-- Every reported message has a read row that the report does not overwrite,
and the last message for which it inserts a row is older than all that are
counted as unread for the reporter. -/
def IsHarmlessReport (chat : ChatStore) (session : ConversationSession)
    (cid : TextId) (mids : List ObjectId) : Prop :=
  (∀ message ∈ chat.messages, message.id ∈ mids →
    ∃ row ∈ chat.statuses, row.mid = message.id ∧ row.status = .read ∧
      ∀ isLowerCase, cid = .hex row.cid isLowerCase →
        row.userId ≠ session.userId) ∧
  ∀ c isLowerCase, cid = .hex c isLowerCase →
    ∀ last ∈ (MessageStore.newMarks
        (chat.reads.marked c session.userId) mids).getLast?,
      ∀ message ∈ chat.reads.counted c session.userId, last < message.id

/-- The condition on one call. -/
def IsHarmless (chat : ChatStore) : StatusEvent → Prop
  | .read _ _ _ _ => True
  | .decryptionFailed session cid mids =>
      chat.conversations.findUserById session.userId = none ∨
        chat.IsHarmlessReport session cid mids

/-- A report does not lower the count of the reporter in any list of
conversations. -/
def KeepsUnread (chat : ChatStore) : StatusEvent → Prop
  | .read _ _ _ _ => True
  | .decryptionFailed session cid mids => ∀ cids c, c ∈ cids →
      (chat.reads.aggregateCountOfUnreadMessagesByCid cids session.userId
          c).getD 0 ≤
        ((chat.applyStatus (.decryptionFailed session cid
          mids)).reads.aggregateCountOfUnreadMessagesByCid cids
            session.userId c).getD 0

/-! ### What is shown -/

variable {chat : ChatStore}

theorem hasStatus_iff (chat : ChatStore) (mid : ObjectId) :
    chat.hasStatus mid = true ↔
      (∃ row ∈ chat.statuses, row.mid = mid) ∨
        ∃ row ∈ chat.strayStatuses, row.mid = mid := by
  simp [hasStatus]

theorem shownStatus_eq_read (chat : ChatStore) (mid : ObjectId) :
    MessageOperations.shownStatus chat mid = .read ↔
      chat.hasStatus mid = true := by
  rw [MessageOperations.shownStatus]
  split
  · next hstatus => exact iff_of_true rfl hstatus
  · next hstatus => exact iff_of_false (by simp) hstatus

/-- What is shown of a message is whether it has a row at all. -/
theorem showsOnlyRead_iff (chat : ChatStore) :
    chat.ShowsOnlyRead ↔ ∀ message ∈ chat.messages,
      chat.hasStatus message.id = true → chat.HasReadStatus message.id := by
  constructor
  · rintro ⟨hlists, _⟩ message hmessage hstatus
    -- the author lists the message
    apply hlists ⟨message.sender, 0⟩ [message] message hmessage
    rw [MessageOperations.assignMessageVirtualFields, List.map_singleton,
      if_pos rfl, (shownStatus_eq_read chat message.id).2 hstatus]
    exact List.mem_singleton_self _
  · intro hread
    constructor
    · intro session messages message hmessage hshown
      obtain ⟨listed, _, heq⟩ := List.mem_map.1 hshown
      obtain ⟨rfl, hstatus⟩ := Prod.mk.inj heq
      split at hstatus
      · exact hread listed hmessage
          ((shownStatus_eq_read chat listed.id).1 (Option.some.inj hstatus))
      · cases hstatus
    · intro cids userId c message hshown
      rw [MessageOperations.aggregateLastMessageForConversation] at hshown
      split at hshown
      · obtain ⟨last, hlast, heq⟩ := Option.map_eq_some_iff.1 hshown
        obtain ⟨rfl, hstatus⟩ := Prod.mk.inj heq
        exact hread last (List.mem_filter.1 (List.mem_of_getLast? hlast)).1
          ((shownStatus_eq_read chat last.id).1 hstatus)
      · cases hshown

/-! ### The rows of a run -/

/-- A user has one row for a message of a conversation, and nobody reads in a
conversation that is none. -/
structure IsRecorded (chat : ChatStore) : Prop where
  nodup_keys : (chat.statuses.map MessageStatus.key).Nodup
  strays : ∀ row ∈ chat.strayStatuses, row.status = .decryptionFailed

theorem IsRecorded.hasReadStatus_iff (hchat : chat.IsRecorded)
    (mid : ObjectId) :
    chat.HasReadStatus mid ↔
      ∃ row ∈ chat.statuses, row.mid = mid ∧ row.status = .read := by
  constructor
  · rintro ⟨userId, ⟨row, hrow, hmid, _, hread⟩ |
      ⟨row, hrow, _, _, hread⟩⟩
    · exact ⟨row, hrow, hmid, hread⟩
    · rw [hchat.strays row hrow] at hread
      cases hread
  · rintro ⟨row, hrow, hmid, hread⟩
    exact ⟨row.userId, Or.inl ⟨row, hrow, hmid, rfl, hread⟩⟩

/-! ### A report -/

/-- What a report by a user writes. -/
def report (chat : ChatStore) (cid : TextId) (mids : List ObjectId)
    (userId : ObjectId) : ChatStore :=
  chat.upsertMessageStatus cid mids userId .decryptionFailed

section Report

variable (chat) (cid : TextId) (mids : List ObjectId) (userId : ObjectId)

theorem messages_report :
    (chat.report cid mids userId).messages = chat.messages := by
  cases cid with
  | hex c isLowerCase => rfl
  | other value => rfl

/-- The messages with a row are those that had one and those reported. -/
theorem hasStatus_report (mid : ObjectId) :
    (chat.report cid mids userId).hasStatus mid = true ↔
      chat.hasStatus mid = true ∨ mid ∈ mids := by
  rw [hasStatus_iff, hasStatus_iff]
  cases cid with
  | hex c isLowerCase =>
      have hrows : (∃ row ∈ (chat.report (.hex c isLowerCase) mids
          userId).statuses, row.mid = mid) ↔
          (∃ row ∈ chat.statuses, row.mid = mid) ∨ mid ∈ mids := by
        apply Documents.exists_foldl_upsert_iff
        · intro each row hfound
          exact (of_decide_eq_true hfound).2.1
        · intro each
          rfl
        · intro row
          rfl
      rw [hrows, or_right_comm]
      rfl
  | other value =>
      have hrows : (∃ row ∈ (chat.report (.other value) mids
          userId).strayStatuses, row.mid = mid) ↔
          (∃ row ∈ chat.strayStatuses, row.mid = mid) ∨ mid ∈ mids := by
        apply Documents.exists_foldl_upsert_iff
        · intro each row hfound
          exact (of_decide_eq_true hfound).2.1
        · intro each
          rfl
        · intro row
          rfl
      rw [hrows, ← or_assoc]
      rfl

variable {chat}

/-- The read rows that a report leaves. -/
theorem IsRecorded.read_row_report_iff (hchat : chat.IsRecorded)
    (mid : ObjectId) :
    (∃ row ∈ (chat.report cid mids userId).statuses,
        row.mid = mid ∧ row.status = .read) ↔
      ∃ row ∈ chat.statuses, row.mid = mid ∧ row.status = .read ∧
        (mid ∈ mids → ∀ isLowerCase, cid = .hex row.cid isLowerCase →
          row.userId ≠ userId) := by
  cases cid with
  | hex c isLowerCase =>
      constructor
      · rintro ⟨row, hrow, rfl, hread⟩
        rcases MessageStore.mem_foldl_upsertStatus _ _ _ _ hrow with hold |
          ⟨_, _, _, hfailed⟩
        · refine ⟨row, hold, rfl, hread, ?_⟩
          rintro hmid _ ⟨⟩ huser
          rw [MessageStore.status_of_mem_foldl _ _ _ _ hchat.nodup_keys hrow
            rfl hmid huser] at hread
          cases hread
        · rw [hfailed] at hread
          cases hread
      · rintro ⟨row, hrow, rfl, hread, hother⟩
        refine ⟨row, ?_, rfl, hread⟩
        apply MessageStore.mem_foldl_upsertStatus_of_mem _ _ _ _ hrow
        intro hcid huser hmid
        exact hother hmid isLowerCase (by rw [hcid]) huser
  | other value =>
      constructor
      · rintro ⟨row, hrow, hmid, hread⟩
        exact ⟨row, hrow, hmid, hread, fun _ _ hcid => by cases hcid⟩
      · rintro ⟨row, hrow, hmid, hread, _⟩
        exact ⟨row, hrow, hmid, hread⟩

theorem IsRecorded.report (hchat : chat.IsRecorded) :
    (chat.report cid mids userId).IsRecorded := by
  cases cid with
  | hex c isLowerCase =>
      exact ⟨MessageStore.nodup_keys_foldl _ _ _ _ hchat.nodup_keys,
        hchat.strays⟩
  | other value =>
      refine ⟨hchat.nodup_keys, ?_⟩
      refine List.foldlRecOn (motive := fun rows : List StrayStatus =>
        ∀ row ∈ rows, row.status = .decryptionFailed) mids _ hchat.strays ?_
      intro rows hrows mid _ row hrow
      rcases Documents.mem_upsert hrow with hold | ⟨_, _, _, rfl⟩ | rfl
      · exact hrows row hold
      · rfl
      · rfl

/-- A report leaves what is shown right exactly when every reported message
has a read row that it does not overwrite. -/
theorem IsRecorded.showsOnlyRead_report_iff (hchat : chat.IsRecorded)
    (hshows : chat.ShowsOnlyRead) :
    (chat.report cid mids userId).ShowsOnlyRead ↔
      ∀ message ∈ chat.messages, message.id ∈ mids →
        ∃ row ∈ chat.statuses, row.mid = message.id ∧ row.status = .read ∧
          ∀ isLowerCase, cid = .hex row.cid isLowerCase →
            row.userId ≠ userId := by
  rw [showsOnlyRead_iff, messages_report]
  rw [showsOnlyRead_iff] at hshows
  refine forall_congr' (fun message => forall_congr' (fun hmessage => ?_))
  rw [hasStatus_report, (hchat.report cid mids userId).hasReadStatus_iff,
    hchat.read_row_report_iff]
  constructor
  · intro hafter hmid
    obtain ⟨row, hrow, hof, hread, hother⟩ := hafter (Or.inr hmid)
    exact ⟨row, hrow, hof, hread, hother hmid⟩
  · intro hreported hstatus
    by_cases hmid : message.id ∈ mids
    · obtain ⟨row, hrow, hof, hread, hother⟩ := hreported hmid
      exact ⟨row, hrow, hof, hread, fun _ => hother⟩
    · have hbefore := hshows message hmessage (hstatus.resolve_right hmid)
      rw [hchat.hasReadStatus_iff] at hbefore
      obtain ⟨row, hrow, hof, hread⟩ := hbefore
      exact ⟨row, hrow, hof, hread, fun hin => absurd hin hmid⟩

end Report

/-! ### The count of the reporter -/

end ChatStore

namespace MessageStore

variable (store : MessageStore) (c userId : ObjectId)
  (mids : List ObjectId) (status : ReadStatus)

theorem marked_upsertMessageStatus :
    (store.upsertMessageStatus c mids userId status).marked c userId =
      store.marked c userId ++ newMarks (store.marked c userId) mids :=
  marksIn_foldl_eq store.statuses c userId status mids

theorem marked_upsertMessageStatus_of_ne {otherCid otherUser : ObjectId}
    (hother : (otherCid, otherUser) ≠ (c, userId)) :
    (store.upsertMessageStatus c mids userId status).marked otherCid
      otherUser = store.marked otherCid otherUser :=
  marksIn_foldl_of_ne store.statuses c userId status hother mids

/-- What is counted depends on the last mark alone. -/
theorem counted_eq_filter (store : MessageStore) (c userId : ObjectId) :
    store.counted c userId = store.messages.filter (fun message =>
      message.cid = c ∧ message.sender ≠ userId ∧
        (store.marked c userId).getLast?.all (fun last =>
          last < message.id)) := by
  rw [counted]
  apply List.filter_congr
  intro message _
  rw [isUnread, findLastReadMessageByUserForCid,
    if_pos List.mem_cons_self]

theorem counted_congr {store after : MessageStore} {c userId : ObjectId}
    (hmessages : after.messages = store.messages)
    (hlast : (after.marked c userId).getLast? =
      (store.marked c userId).getLast?) :
    after.counted c userId = store.counted c userId := by
  rw [counted_eq_filter, counted_eq_filter, hmessages, hlast]

/-- A new last mark does not lower the count exactly when it is older than
all that are counted. -/
theorem counted_le_iff {store after : MessageStore} {c userId : ObjectId}
    {last : ObjectId} (hmessages : after.messages = store.messages)
    (hlast : (after.marked c userId).getLast? = some last) :
    (store.counted c userId).length ≤ (after.counted c userId).length ↔
      ∀ message ∈ store.counted c userId, last < message.id := by
  have hafter : ∀ message : Message, message ∈ after.counted c userId ↔
      message ∈ store.messages ∧ message.cid = c ∧
        message.sender ≠ userId ∧ last < message.id := by
    intro message
    rw [mem_counted, hlast, hmessages]
    simp
  constructor
  · intro hle message hmessage
    by_contra hnot
    -- then only messages that were counted before are counted
    have hsublist : (after.counted c userId).Sublist
        (store.counted c userId) := by
      rw [counted_eq_filter after, hlast, hmessages, counted_eq_filter store]
      apply List.monotone_filter_right
      intro later hlater
      simp only [decide_eq_true_eq, Option.all_some] at hlater ⊢
      refine ⟨hlater.1, hlater.2.1, ?_⟩
      rw [Option.all_eq_true]
      intro old hold
      have hold := (mem_counted.1 hmessage).2.2.2 old hold
      rw [decide_eq_true_eq]
      exact Nat.lt_trans hold (Nat.lt_of_le_of_lt (Nat.le_of_not_lt hnot)
        hlater.2.2)
    rw [← hsublist.eq_of_length_le hle] at hmessage
    exact hnot ((hafter message).1 hmessage).2.2.2
  · intro holder
    rw [counted_eq_filter store, counted_eq_filter after, hmessages, hlast,
      ← List.countP_eq_length_filter, ← List.countP_eq_length_filter]
    apply List.countP_mono_left
    intro message hmessage hcounted
    have hmem : message ∈ store.counted c userId := by
      rw [counted_eq_filter]
      exact List.mem_filter.2 ⟨hmessage, hcounted⟩
    simp only [decide_eq_true_eq, Option.all_some] at hcounted ⊢
    exact ⟨hcounted.1, hcounted.2.1, holder message hmem⟩

/-- A write of rows does not lower the count exactly when the last new row is
for a message older than all that are counted. -/
theorem counted_le_upsertMessageStatus_iff :
    (store.counted c userId).length ≤
        ((store.upsertMessageStatus c mids userId status).counted c
          userId).length ↔
      ∀ last ∈ (newMarks (store.marked c userId) mids).getLast?,
        ∀ message ∈ store.counted c userId, last < message.id := by
  have hmarked := store.marked_upsertMessageStatus c userId mids status
  cases hnew : (newMarks (store.marked c userId) mids).getLast? with
  | none =>
      rw [List.getLast?_eq_none_iff.1 hnew, List.append_nil] at hmarked
      have hsame : (store.upsertMessageStatus c mids userId status).counted c
          userId = store.counted c userId :=
        counted_congr rfl (by rw [hmarked])
      rw [hsame]
      simp
  | some last =>
      have hlast : ((store.upsertMessageStatus c mids userId status).marked c
          userId).getLast? = some last := by
        rw [hmarked, List.getLast?_append, hnew]
        rfl
      have hiff : (store.counted c userId).length ≤
          ((store.upsertMessageStatus c mids userId status).counted c
            userId).length ↔ _ := counted_le_iff rfl hlast
      rw [hiff]
      simp

end MessageStore

namespace ChatStore

variable {chat : ChatStore}

/-- A report lowers no count of the reporter exactly when the last message
for which it inserts a row is older than all that are counted. -/
theorem counted_le_report_iff (cid : TextId) (mids : List ObjectId)
    (userId : ObjectId) :
    (∀ c, (chat.reads.counted c userId).length ≤
        ((chat.report cid mids userId).reads.counted c userId).length) ↔
      ∀ c isLowerCase, cid = .hex c isLowerCase →
        ∀ last ∈ (MessageStore.newMarks
            (chat.reads.marked c userId) mids).getLast?,
          ∀ message ∈ chat.reads.counted c userId, last < message.id := by
  cases cid with
  | hex c isLowerCase =>
      have hreads : (chat.report (.hex c isLowerCase) mids userId).reads =
          chat.reads.upsertMessageStatus c mids userId
            .decryptionFailed := rfl
      rw [hreads]
      constructor
      · rintro hle _ _ ⟨⟩
        exact (MessageStore.counted_le_upsertMessageStatus_iff _ _ _ _ _).1
          (hle c)
      · intro holder other
        by_cases hsame : other = c
        · rw [hsame]
          exact (MessageStore.counted_le_upsertMessageStatus_iff _ _ _ _
            _).2 (holder c isLowerCase rfl)
        · have hother : (other, userId) ≠ (c, userId) := by simp [hsame]
          have hcounted : (chat.reads.upsertMessageStatus c mids userId
              .decryptionFailed).counted other userId =
              chat.reads.counted other userId :=
            MessageStore.counted_congr rfl (by
              rw [chat.reads.marked_upsertMessageStatus_of_ne c userId mids
                _ hother])
          rw [hcounted]
  | other value =>
      refine iff_of_true (fun c => Nat.le_refl _) ?_
      rintro c isLowerCase ⟨⟩

/-! ### A call that reads -/

/-- What a call that reads leaves. -/
theorem exec_read_snd (config : ChatConfig) (session : ConversationSession)
    (cid : TextId) (ids : Option (List IdParam)) (chat : ChatStore) :
    ((MessageOperations.read config session cid ids).exec chat).2 = chat ∨
      ∃ c mids, ((MessageOperations.read config session cid ids).exec
        chat).2 =
          (chat.readMessagesInConversation c session.userId mids).2 := by
  rw [MessageOperations.read, MessageOperations.hasAccessToRead]
  rcases MessageOperations.exec_hasAccess_cases config session _ cid chat
    with ⟨access, _, hexec⟩ | ⟨_, status, _, hexec⟩
  · rw [exec_bind_ok hexec]
    cases ids with
    | none => exact Or.inr ⟨_, none, rfl⟩
    | some ids =>
        cases hids : ChatStore.namedIds ids with
        | error error =>
            have hqueried : (MessageOperations.queryIds (some ids)).exec
                chat = (.error error, chat) := by
              rw [MessageOperations.queryIds, hids]
              rfl
            rw [exec_bind_error hqueried]
            exact Or.inl rfl
        | ok mids =>
            have hqueried : (MessageOperations.queryIds (some ids)).exec
                chat = (.ok (some mids), chat) := by
              rw [MessageOperations.queryIds, hids]
              rfl
            rw [exec_bind_ok hqueried]
            exact Or.inr ⟨access.conversation.id, some mids, rfl⟩
  · rw [exec_bind_error hexec]
    exact Or.inl rfl

theorem IsRecorded.read (hchat : chat.IsRecorded) (c userId : ObjectId)
    (mids : Option (List ObjectId)) :
    (chat.readMessagesInConversation c userId mids).2.IsRecorded := by
  refine ⟨?_, hchat.strays⟩
  rw [ReadNotifications.statuses_after chat c userId mids]
  exact MessageStore.nodup_keys_foldl _ _ _ _ hchat.nodup_keys

/-- Reading writes read rows and overwrites none. -/
theorem IsRecorded.showsOnlyRead_read (hchat : chat.IsRecorded)
    (hshows : chat.ShowsOnlyRead) (c userId : ObjectId)
    (mids : Option (List ObjectId)) :
    (chat.readMessagesInConversation c userId mids).2.ShowsOnlyRead := by
  have hstatuses := ReadNotifications.statuses_after chat c userId mids
  rw [showsOnlyRead_iff] at hshows ⊢
  intro message hmessage hstatus
  rw [(hchat.read c userId mids).hasReadStatus_iff, hstatuses]
  have hkept : chat.hasStatus message.id = true → ∃ row ∈
      ((chat.reads.selectUnread c userId mids).map
        Message.id).reverse.foldl (MessageStore.upsertStatus c userId .read)
          chat.statuses, row.mid = message.id ∧ row.status = .read := by
    intro hbefore
    obtain ⟨row, hrow, hmid, hread⟩ := (hchat.hasReadStatus_iff _).1
      (hshows message hmessage hbefore)
    exact ⟨row, MessageStore.mem_foldl_upsertStatus_of_status _ _ _ _ hrow
      hread _, hmid, hread⟩
  rcases (hasStatus_iff _ _).1 hstatus with ⟨row, hrow, hmid⟩ | hstray
  · rw [hstatuses] at hrow
    rcases MessageStore.mem_foldl_upsertStatus _ _ _ _ hrow with hold |
      ⟨_, _, _, hread⟩
    · exact hkept ((hasStatus_iff _ _).2 (Or.inl ⟨row, hold, hmid⟩))
    · exact ⟨row, hrow, hmid, hread⟩
  · exact hkept ((hasStatus_iff _ _).2 (Or.inr hstray))

/-! ### Runs -/

/-- What a report leaves, whoever the caller is. -/
theorem applyStatus_decryptionFailed (session : ConversationSession)
    (cid : TextId) (mids : List ObjectId) :
    (chat.conversations.findUserById session.userId = none ∧
      chat.applyStatus (.decryptionFailed session cid mids) = chat) ∨
    (chat.conversations.findUserById session.userId ≠ none ∧
      chat.applyStatus (.decryptionFailed session cid mids) =
        chat.report cid mids session.userId) := by
  cases huser : chat.conversations.findUserById session.userId with
  | none =>
      refine Or.inl ⟨rfl, ?_⟩
      rw [applyStatus, MessageOperations.exec_decryptionFailed_none huser]
  | some user =>
      refine Or.inr ⟨by simp, ?_⟩
      rw [applyStatus, MessageOperations.exec_decryptionFailed huser,
        ConversationStore.id_of_findUserById huser]
      rfl

theorem IsRecorded.applyStatus (hchat : chat.IsRecorded)
    (event : StatusEvent) : (chat.applyStatus event).IsRecorded := by
  cases event with
  | read config session cid ids =>
      rcases exec_read_snd config session cid ids chat with hsame |
        ⟨c, mids, hread⟩
      · rw [ChatStore.applyStatus, hsame]
        exact hchat
      · rw [ChatStore.applyStatus, hread]
        exact hchat.read c session.userId mids
  | decryptionFailed session cid mids =>
      rcases applyStatus_decryptionFailed session cid mids with
        ⟨_, hsame⟩ | ⟨_, hreport⟩
      · rw [hsame]
        exact hchat
      · rw [hreport]
        exact hchat.report cid mids session.userId

theorem isRecorded_afterStatuses (start : ChatStore)
    (events : List StatusEvent) :
    (start.afterStatuses events).IsRecorded := by
  induction events using List.reverseRecOn with
  | nil => exact ⟨List.nodup_nil, by simp [afterStatuses, withoutStatuses]⟩
  | append_singleton events last ih =>
      rw [afterStatuses, List.foldl_append]
      exact ih.applyStatus last

theorem showsOnlyRead_withoutStatuses (start : ChatStore) :
    start.withoutStatuses.ShowsOnlyRead := by
  rw [showsOnlyRead_iff]
  intro message _ hstatus
  cases hstatus

/-- One call keeps what is shown right and the count of a reporter, exactly
when it is harmless. -/
theorem IsRecorded.isHarmless_iff (hchat : chat.IsRecorded)
    (hshows : chat.ShowsOnlyRead) (event : StatusEvent) :
    (chat.applyStatus event).ShowsOnlyRead ∧ chat.KeepsUnread event ↔
      chat.IsHarmless event := by
  cases event with
  | read config session cid ids =>
      refine iff_of_true ⟨?_, trivial⟩ trivial
      rcases exec_read_snd config session cid ids chat with hsame |
        ⟨c, mids, hread⟩
      · rw [ChatStore.applyStatus, hsame]
        exact hshows
      · rw [ChatStore.applyStatus, hread]
        exact hchat.showsOnlyRead_read hshows c session.userId mids
  | decryptionFailed session cid mids =>
      rw [KeepsUnread, IsHarmless]
      rcases applyStatus_decryptionFailed session cid mids with
        ⟨hnone, hsame⟩ | ⟨hsome, hreport⟩
      · rw [hsame]
        exact iff_of_true ⟨hshows, fun _ _ _ => Nat.le_refl _⟩
          (Or.inl hnone)
      · rw [hreport, hchat.showsOnlyRead_report_iff cid mids _ hshows,
          or_iff_right hsome, IsHarmlessReport, ← counted_le_report_iff]
        refine and_congr_right (fun _ => ?_)
        constructor
        · intro hcounts c
          have hcount := hcounts [c] c List.mem_cons_self
          rw [MessageStore.aggregateCount_of_mem _ List.mem_cons_self,
            MessageStore.aggregateCount_of_mem _ List.mem_cons_self]
            at hcount
          exact hcount
        · intro hcounts cids c hc
          rw [MessageStore.aggregateCount_of_mem _ hc,
            MessageStore.aggregateCount_of_mem _ hc]
          exact hcounts c

/-- The opponent reports the only message. -/
def onlyReport : StatusEvent := .decryptionFailed ⟨1, 9⟩ (.hex 4 true) [0]

end ChatStore

end SamaServer
