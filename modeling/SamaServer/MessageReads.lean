/-
Read marks and the count of unread messages.  A read call writes one status
row for each message it selects, and the count is taken from the message of
the row that was inserted last, which need not be the newest message read.
-/
import Mathlib.Data.List.Sort
import SamaServer.Documents
import SamaServer.Runs

namespace SamaServer

structure Message where
  id : ObjectId
  cid : ObjectId
  sender : ObjectId
deriving DecidableEq

inductive ReadStatus
  | read
  | decryptionFailed
deriving DecidableEq

structure MessageStatus where
  cid : ObjectId
  mid : ObjectId
  userId : ObjectId
  status : ReadStatus
deriving DecidableEq

/-- What a bulk write looks a row up with. -/
def MessageStatus.key (row : MessageStatus) :
    ObjectId × ObjectId × ObjectId :=
  (row.cid, row.mid, row.userId)

/-- The collections `messages` and `message_statuses`. -/
structure MessageStore where
  messages : List Message
  statuses : List MessageStatus
  nextId : ObjectId
  messages_sorted : messages.Pairwise (fun earlier later =>
    earlier.id < later.id)
  messages_below : ∀ message ∈ messages, message.id < nextId

namespace MessageStore

def empty : MessageStore := ⟨[], [], 0, .nil, by simp⟩

/-- `messageRepo.create`, with the id the driver generates. -/
def create (store : MessageStore) (cid sender : ObjectId) : MessageStore where
  messages := store.messages ++ [⟨store.nextId, cid, sender⟩]
  statuses := store.statuses
  nextId := store.nextId + 1
  messages_sorted := by
    rw [List.pairwise_append]
    refine ⟨store.messages_sorted, List.pairwise_singleton _ _, ?_⟩
    intro message hmessage last hlast
    rw [List.mem_singleton.1 hlast]
    exact store.messages_below message hmessage
  messages_below := by
    intro message hmessage
    rcases List.mem_append.1 hmessage with hold | hnew
    · exact Nat.lt_succ_of_lt (store.messages_below message hold)
    · rw [List.mem_singleton.1 hnew]
      exact Nat.lt_succ_self store.nextId

/-- One operation of the bulk write: a row of that user for that message gets
the status, or a new row is inserted. -/
def upsertStatus (cid userId : ObjectId) (status : ReadStatus)
    (statuses : List MessageStatus) (mid : ObjectId) : List MessageStatus :=
  Documents.upsert
    (fun row => row.cid = cid ∧ row.mid = mid ∧ row.userId = userId)
    (fun row => { row with status := status })
    ⟨cid, mid, userId, status⟩ statuses

def upsertMessageStatus (store : MessageStore) (cid : ObjectId)
    (mids : List ObjectId) (userId : ObjectId) (status : ReadStatus) :
    MessageStore :=
  { store with
    statuses := mids.foldl (upsertStatus cid userId status) store.statuses }

/-- The messages of a conversation that a user has a status row for, in the
order of the rows. -/
def marksIn (statuses : List MessageStatus) (cid userId : ObjectId) :
    List ObjectId :=
  (statuses.filter (fun row =>
    row.cid = cid ∧ row.userId = userId)).map MessageStatus.mid

/-- The messages of a bulk write that get a new row, in the order of the
rows. -/
def newMarks (marked : List ObjectId) : List ObjectId → List ObjectId
  | [] => []
  | mid :: mids =>
      if mid ∈ marked then newMarks marked mids
      else mid :: newMarks (marked ++ [mid]) mids

def marked (store : MessageStore) (cid userId : ObjectId) : List ObjectId :=
  marksIn store.statuses cid userId

/-- The message of the row with the greatest `_id`. -/
def findLastReadMessageByUserForCid (store : MessageStore)
    (cids : List ObjectId) (userId cid : ObjectId) : Option ObjectId :=
  if cid ∈ cids then (store.marked cid userId).getLast? else none

/-- The filter on `_id`: a last read message comes before a list of ids. -/
def idQuery (mids : Option (List ObjectId))
    (lastReadMessageId : Option ObjectId) (id : ObjectId) : Bool :=
  match lastReadMessageId, mids with
  | some last, _ => last < id
  | none, some mids => id ∈ mids
  | none, none => true

/-- The default limit of `findAll`. -/
def findAllLimit : Nat := 100

/-- Newest first, as many as `findAll` returns without a limit. -/
def findAllOpponentsMessagesFromConversation (store : MessageStore)
    (cid readerUserId : ObjectId) (mids : Option (List ObjectId))
    (lastReadMessageId : Option ObjectId) : List Message :=
  (store.messages.filter (fun message =>
    message.cid = cid ∧ message.sender ≠ readerUserId ∧
      idQuery mids lastReadMessageId message.id)).reverse.take findAllLimit

/-- The property `mid` of the value found for the conversation.  That value is
an id and not a status row, and an id has no such property. -/
def midOfLastRead (_lastRead : Option ObjectId) : Option ObjectId := none

/-- The messages a call of `message_read` selects. -/
def selectUnread (store : MessageStore) (cid userId : ObjectId)
    (mids : Option (List ObjectId)) : List Message :=
  let lastReadMessageId :=
    match mids with
    | some _ => none
    | none => midOfLastRead
        (store.findLastReadMessageByUserForCid [cid] userId cid)
  store.findAllOpponentsMessagesFromConversation cid userId mids
    lastReadMessageId

def readMessagesInConversation (store : MessageStore) (cid userId : ObjectId)
    (mids : Option (List ObjectId)) : List Message × MessageStore :=
  let unreadMessages := store.selectUnread cid userId mids
  if unreadMessages.isEmpty then (unreadMessages, store)
  else
    (unreadMessages, store.upsertMessageStatus cid
      (unreadMessages.map Message.id).reverse userId .read)

/-- The filter of one conversation in `countUnreadMessagesByCids`. -/
def isUnread (userId : ObjectId) (lastRead : ObjectId → Option ObjectId)
    (cid : ObjectId) (message : Message) : Bool :=
  message.cid = cid ∧ message.sender ≠ userId ∧
    (lastRead cid).all (fun last => last < message.id)

/-- The counts by conversation.  A conversation without counted messages has
no entry, and without conversations every message is counted. -/
def countUnreadMessagesByCids (store : MessageStore) (cids : List ObjectId)
    (userId : ObjectId) (lastRead : ObjectId → Option ObjectId)
    (cid : ObjectId) : Option Nat :=
  let counted := store.messages.filter (fun message =>
    (cids.isEmpty || cids.any (fun each =>
      isUnread userId lastRead each message)) && message.cid = cid)
  if counted.isEmpty then none else some counted.length

def aggregateCountOfUnreadMessagesByCid (store : MessageStore)
    (cids : List ObjectId) (userId cid : ObjectId) : Option Nat :=
  store.countUnreadMessagesByCids cids userId
    (store.findLastReadMessageByUserForCid cids userId) cid

/-- The value reported for one conversation, as `conversation_list` reads
it. -/
def unreadCount (store : MessageStore) (cid userId : ObjectId) : Nat :=
  (store.aggregateCountOfUnreadMessagesByCid [cid] userId cid).getD 0

/-- The messages that are counted for the conversation. -/
def counted (store : MessageStore) (cid userId : ObjectId) : List Message :=
  store.messages.filter (isUnread userId
    (store.findLastReadMessageByUserForCid [cid] userId) cid)

/-- The messages that a call marks and that had no mark of the user before,
oldest first. -/
def newlyMarked (store : MessageStore) (cid userId : ObjectId)
    (mids : Option (List ObjectId)) : List ObjectId :=
  ((store.selectUnread cid userId mids).map Message.id).reverse.filter
    (fun mid => mid ∉ store.marked cid userId)

/-- The count of a conversation does not depend on the others that are
listed with it. -/
theorem aggregateCount_of_mem (store : MessageStore) {cids : List ObjectId}
    {cid : ObjectId} (hcid : cid ∈ cids) (userId : ObjectId) :
    (store.aggregateCountOfUnreadMessagesByCid cids userId cid).getD 0 =
      (store.counted cid userId).length := by
  have hfilter : store.messages.filter (fun message =>
      (cids.isEmpty || cids.any (fun each =>
        isUnread userId (store.findLastReadMessageByUserForCid cids userId)
          each message)) && message.cid = cid) =
      store.counted cid userId := by
    apply List.filter_congr
    intro message _
    by_cases hof : message.cid = cid
    · subst hof
      have hne : cids.isEmpty = false := by
        rw [List.isEmpty_eq_false_iff]
        exact List.ne_nil_of_mem hcid
      rw [hne, Bool.false_or, Bool.eq_iff_iff]
      simp only [isUnread, findLastReadMessageByUserForCid,
        List.any_eq_true, List.mem_singleton, decide_eq_true_eq,
        Bool.and_eq_true, ↓reduceIte, and_true]
      constructor
      · rintro ⟨each, heach, hunread⟩
        obtain ⟨rfl, hsender, hlast⟩ := of_decide_eq_true hunread
        rw [if_pos heach] at hlast
        exact ⟨trivial, hsender, hlast⟩
      · rintro ⟨_, hsender, hlast⟩
        refine ⟨_, hcid, decide_eq_true ⟨rfl, hsender, ?_⟩⟩
        rw [if_pos hcid]
        exact hlast
    · simp [isUnread, hof]
  simp only [aggregateCountOfUnreadMessagesByCid, countUnreadMessagesByCids,
    hfilter]
  split
  · next hempty => simp [List.isEmpty_iff.1 hempty]
  · rfl

theorem unreadCount_eq (store : MessageStore) (cid userId : ObjectId) :
    store.unreadCount cid userId = (store.counted cid userId).length :=
  store.aggregateCount_of_mem List.mem_cons_self userId

section Marks

variable (statuses : List MessageStatus) (cid userId mid : ObjectId)
  (status : ReadStatus)

theorem any_row_iff :
    statuses.any (fun row =>
        row.cid = cid ∧ row.mid = mid ∧ row.userId = userId) = true ↔
      mid ∈ marksIn statuses cid userId := by
  simp only [marksIn, List.any_eq_true, List.mem_map, List.mem_filter,
    decide_eq_true_eq]
  constructor
  · rintro ⟨row, hrow, hcid, hmid, huser⟩
    exact ⟨row, ⟨hrow, hcid, huser⟩, hmid⟩
  · rintro ⟨row, ⟨hrow, hcid, huser⟩, hmid⟩
    exact ⟨row, hrow, hcid, hmid, huser⟩

theorem marksIn_updateFirst (found : MessageStatus → Bool) :
    marksIn (Documents.updateFirst found
      (fun row => { row with status := status }) statuses) cid userId =
      marksIn statuses cid userId := by
  unfold marksIn
  apply Documents.filter_map_updateFirst
  · intro row
    rfl
  · intro row
    rfl

theorem marksIn_upsertStatus :
    marksIn (upsertStatus cid userId status statuses mid) cid userId =
      if mid ∈ marksIn statuses cid userId then marksIn statuses cid userId
      else marksIn statuses cid userId ++ [mid] := by
  simp only [upsertStatus, Documents.upsert, any_row_iff]
  split
  · exact marksIn_updateFirst statuses _ _ status _
  · simp [marksIn]

theorem marksIn_upsertStatus_of_ne {otherCid otherUser : ObjectId}
    (hother : (otherCid, otherUser) ≠ (cid, userId)) :
    marksIn (upsertStatus cid userId status statuses mid) otherCid
      otherUser = marksIn statuses otherCid otherUser := by
  simp only [upsertStatus, Documents.upsert]
  split
  · exact marksIn_updateFirst statuses _ _ status _
  · have hnot : ¬ (cid = otherCid ∧ userId = otherUser) := by
      rintro ⟨rfl, rfl⟩
      exact hother rfl
    simp [marksIn, hnot]

/-- A bulk write appends the messages that had no mark, in the order in which
they are first written. -/
theorem marksIn_foldl_eq (mids : List ObjectId) :
    marksIn (mids.foldl (upsertStatus cid userId status) statuses) cid
        userId =
      marksIn statuses cid userId ++
        newMarks (marksIn statuses cid userId) mids := by
  induction mids generalizing statuses with
  | nil => simp [newMarks]
  | cons mid mids ih =>
      rw [List.foldl_cons, ih, marksIn_upsertStatus, newMarks]
      by_cases hmarked : mid ∈ marksIn statuses cid userId
      · rw [if_pos hmarked, if_pos hmarked]
      · rw [if_neg hmarked, if_neg hmarked]
        simp

theorem newMarks_of_nodup {marked mids : List ObjectId}
    (hnodup : mids.Nodup) :
    newMarks marked mids = mids.filter (fun mid => mid ∉ marked) := by
  induction mids generalizing marked with
  | nil => rfl
  | cons mid mids ih =>
      rw [newMarks, ih hnodup.of_cons, ih hnodup.of_cons]
      by_cases hmarked : mid ∈ marked
      · simp [hmarked]
      · have hlater : ∀ later ∈ mids, later ≠ mid := fun later hlater heq =>
          (List.nodup_cons.1 hnodup).1 (heq ▸ hlater)
        have hfilter : mids.filter (fun later => later ∉ marked ++ [mid]) =
            mids.filter (fun later => later ∉ marked) := by
          apply List.filter_congr
          intro later hmem
          simp [hlater later hmem]
        rw [if_neg hmarked, hfilter, List.filter_cons_of_pos (by simpa)]

theorem marksIn_foldl {mids : List ObjectId} (hnodup : mids.Nodup) :
    marksIn (mids.foldl (upsertStatus cid userId status) statuses) cid
        userId =
      marksIn statuses cid userId ++
        mids.filter (fun mid => mid ∉ marksIn statuses cid userId) := by
  rw [marksIn_foldl_eq, newMarks_of_nodup hnodup]

theorem marksIn_foldl_of_ne {otherCid otherUser : ObjectId}
    (hother : (otherCid, otherUser) ≠ (cid, userId))
    (mids : List ObjectId) :
    marksIn (mids.foldl (upsertStatus cid userId status) statuses) otherCid
      otherUser = marksIn statuses otherCid otherUser := by
  induction mids generalizing statuses with
  | nil => rfl
  | cons mid mids ih =>
      rw [List.foldl_cons, ih, marksIn_upsertStatus_of_ne _ _ _ _ _ hother]

/-- A row after a bulk write was there before or was written. -/
theorem mem_foldl_upsertStatus {mids : List ObjectId} {row : MessageStatus}
    (hrow : row ∈ mids.foldl (upsertStatus cid userId status) statuses) :
    row ∈ statuses ∨ row.cid = cid ∧ row.mid ∈ mids ∧
      row.userId = userId ∧ row.status = status := by
  induction mids generalizing statuses with
  | nil => exact Or.inl hrow
  | cons first mids ih =>
      rw [List.foldl_cons] at hrow
      rcases ih _ hrow with hbefore | ⟨hcid, hmid, hrest⟩
      · rcases Documents.mem_upsert hbefore with hold |
          ⟨old, _, hfound, rfl⟩ | rfl
        · exact Or.inl hold
        · simp only [decide_eq_true_eq] at hfound
          exact Or.inr ⟨hfound.1, List.mem_cons.2 (Or.inl hfound.2.1),
            hfound.2.2, rfl⟩
        · exact Or.inr ⟨rfl, List.mem_cons_self, rfl, rfl⟩
      · exact Or.inr ⟨hcid, List.mem_cons_of_mem first hmid, hrest⟩

/-- A row that is not written stays. -/
theorem mem_foldl_upsertStatus_of_mem {mids : List ObjectId}
    {row : MessageStatus} (hrow : row ∈ statuses)
    (hkey : row.cid = cid → row.userId = userId → row.mid ∉ mids) :
    row ∈ mids.foldl (upsertStatus cid userId status) statuses := by
  induction mids generalizing statuses with
  | nil => exact hrow
  | cons first mids ih =>
      rw [List.foldl_cons]
      apply ih
      · refine Documents.mem_upsert_of_mem hrow (fun hfound => ?_)
        simp only [decide_eq_true_eq] at hfound
        exact absurd (List.mem_cons.2 (Or.inl hfound.2.1))
          (hkey hfound.1 hfound.2.2)
      · intro hcid huser hmid
        exact hkey hcid huser (List.mem_cons_of_mem first hmid)

/-- A row that has the status already stays. -/
theorem mem_foldl_upsertStatus_of_status {row : MessageStatus}
    (hrow : row ∈ statuses) (hstatus : row.status = status)
    (mids : List ObjectId) :
    row ∈ mids.foldl (upsertStatus cid userId status) statuses := by
  induction mids generalizing statuses with
  | nil => exact hrow
  | cons first mids ih =>
      rw [List.foldl_cons]
      refine ih _ (Documents.mem_upsert_of_mem hrow (fun _ => ?_))
      rw [← hstatus]

/-- Every message of a bulk write has its row afterwards. -/
theorem exists_mem_foldl_upsertStatus {mids : List ObjectId}
    (hmid : mid ∈ mids) :
    ∃ row ∈ mids.foldl (upsertStatus cid userId status) statuses,
      row.cid = cid ∧ row.mid = mid ∧ row.userId = userId ∧
        row.status = status := by
  induction mids generalizing statuses with
  | nil => cases hmid
  | cons first mids ih =>
      rw [List.foldl_cons]
      rcases List.mem_cons.1 hmid with rfl | hlater
      · obtain ⟨row, hrow, hwritten⟩ := Documents.exists_mem_upsert
          (fun row => decide (row.cid = cid ∧ row.mid = mid ∧
            row.userId = userId))
          (fun row => { row with status := status })
          (⟨cid, mid, userId, status⟩ : MessageStatus) statuses
        have hkeys : row.cid = cid ∧ row.mid = mid ∧ row.userId = userId ∧
            row.status = status := by
          rcases hwritten with ⟨old, _, hfound, rfl⟩ | rfl
          · simp only [decide_eq_true_eq] at hfound
            exact ⟨hfound.1, hfound.2.1, hfound.2.2, rfl⟩
          · exact ⟨rfl, rfl, rfl, rfl⟩
        exact ⟨row, mem_foldl_upsertStatus_of_status _ cid userId status hrow
          hkeys.2.2.2 mids, hkeys⟩
      · exact ih _ hlater

theorem nodup_keys_foldl {mids : List ObjectId}
    (hnodup : (statuses.map MessageStatus.key).Nodup) :
    ((mids.foldl (upsertStatus cid userId status) statuses).map
      MessageStatus.key).Nodup := by
  induction mids generalizing statuses with
  | nil => exact hnodup
  | cons mid mids ih =>
      rw [List.foldl_cons]
      apply ih
      apply Documents.nodup_map_upsert _ _ hnodup
      · intro row
        simp [MessageStatus.key]
      · intro row
        rfl

/-- All rows that a bulk write looks up have its status afterwards. -/
theorem status_of_mem_foldl {mids : List ObjectId} {row : MessageStatus}
    (hnodup : (statuses.map MessageStatus.key).Nodup)
    (hrow : row ∈ mids.foldl (upsertStatus cid userId status) statuses)
    (hcid : row.cid = cid) (hmid : row.mid ∈ mids)
    (huser : row.userId = userId) : row.status = status := by
  obtain ⟨written, hwritten, hwcid, hwmid, hwuser, hstatus⟩ :=
    exists_mem_foldl_upsertStatus statuses cid userId row.mid status hmid
  have hkey : row.key = written.key := by
    rw [MessageStatus.key, MessageStatus.key, hcid, huser, hwcid, hwmid,
      hwuser]
  rw [List.inj_on_of_nodup_map
    (nodup_keys_foldl statuses cid userId status hnodup) hrow hwritten hkey]
  exact hstatus

end Marks

section Selection

variable (store : MessageStore) (cid userId : ObjectId)
  (mids : Option (List ObjectId))

/-- What a call selects comes from the conversation and not from the reader,
and is written oldest first. -/
theorem selectUnread_sublist :
    ((store.selectUnread cid userId mids).map Message.id).reverse.Sublist
      ((store.messages.filter (fun message =>
        message.cid = cid ∧ message.sender ≠ userId)).map Message.id) := by
  rw [← List.map_reverse]
  apply List.Sublist.map
  rw [← List.reverse_sublist, List.reverse_reverse]
  refine (List.take_sublist _ _).trans (List.reverse_sublist.2 ?_)
  apply List.monotone_filter_right
  intro message hmessage
  simp only [decide_eq_true_eq] at hmessage ⊢
  exact ⟨hmessage.1, hmessage.2.1⟩

theorem selected_sorted :
    ((store.selectUnread cid userId mids).map
      Message.id).reverse.Pairwise (· < ·) := by
  refine List.Pairwise.sublist (store.selectUnread_sublist cid userId mids) ?_
  rw [List.pairwise_map]
  exact store.messages_sorted.sublist List.filter_sublist

theorem newlyMarked_sorted :
    (store.newlyMarked cid userId mids).Pairwise (· < ·) :=
  (store.selected_sorted cid userId mids).sublist List.filter_sublist

theorem mem_newlyMarked {mid : ObjectId}
    (hmid : mid ∈ store.newlyMarked cid userId mids) :
    mid ∉ store.marked cid userId ∧ ∃ message ∈ store.messages,
      message.id = mid ∧ message.cid = cid ∧ message.sender ≠ userId := by
  obtain ⟨hselected, hnot⟩ := List.mem_filter.1 hmid
  obtain ⟨message, hmessage, heq⟩ := List.mem_map.1
    ((store.selectUnread_sublist cid userId mids).subset hselected)
  simp only [List.mem_filter, decide_eq_true_eq] at hmessage
  exact ⟨by simpa using hnot, message, hmessage.1, heq, hmessage.2⟩

theorem marked_read :
    (store.readMessagesInConversation cid userId mids).2.marked cid userId =
      store.marked cid userId ++ store.newlyMarked cid userId mids := by
  simp only [readMessagesInConversation, newlyMarked]
  split
  · next hempty => simp [List.isEmpty_iff.1 hempty]
  · exact marksIn_foldl _ cid userId .read
      (store.selected_sorted cid userId mids).nodup

theorem marked_read_of_ne {otherCid otherUser : ObjectId}
    (hother : (otherCid, otherUser) ≠ (cid, userId)) :
    (store.readMessagesInConversation cid userId mids).2.marked otherCid
      otherUser = store.marked otherCid otherUser := by
  simp only [readMessagesInConversation]
  split
  · rfl
  · exact marksIn_foldl_of_ne _ cid userId .read hother _

theorem messages_read :
    (store.readMessagesInConversation cid userId mids).2.messages =
      store.messages := by
  simp only [readMessagesInConversation]
  split <;> rfl

end Selection

section Counting

variable {store after : MessageStore} {cid userId : ObjectId}

/-- No message the user has a mark for is counted as unread. -/
def NoReadCounted (store : MessageStore) (cid userId : ObjectId) : Prop :=
  ∀ message ∈ store.counted cid userId,
    message.id ∉ store.marked cid userId

/-- Every mark is for a message somebody else wrote in the conversation. -/
def MarksOpponents (store : MessageStore) (cid userId : ObjectId) : Prop :=
  ∀ mid ∈ store.marked cid userId, ∃ message ∈ store.messages,
    message.id = mid ∧ message.cid = cid ∧ message.sender ≠ userId

theorem mem_counted {message : Message} :
    message ∈ store.counted cid userId ↔
      message ∈ store.messages ∧ message.cid = cid ∧
        message.sender ≠ userId ∧
        ∀ last ∈ (store.marked cid userId).getLast?, last < message.id := by
  simp [counted, isUnread, findLastReadMessageByUserForCid,
    Option.all_eq_true]

/-- The count leaves out every read message exactly when the last row is the
one of the newest message read. -/
theorem noReadCounted_iff (hmarks : store.MarksOpponents cid userId) :
    store.NoReadCounted cid userId ↔
      ∀ mid ∈ store.marked cid userId,
        ∀ last ∈ (store.marked cid userId).getLast?, mid ≤ last := by
  constructor
  · intro hcounted mid hmid last hlast
    obtain ⟨message, hmessage, rfl, hcid, hsender⟩ := hmarks mid hmid
    by_contra hlater
    apply hcounted message _ hmid
    refine mem_counted.2 ⟨hmessage, hcid, hsender, ?_⟩
    intro other hother
    rw [Option.mem_unique hother hlast]
    exact Nat.lt_of_not_le hlater
  · intro hlast message hmessage hmid
    obtain ⟨-, -, -, hcounted⟩ := mem_counted.1 hmessage
    obtain ⟨last, heq⟩ : ∃ last, (store.marked cid userId).getLast? =
        some last := by
      rw [← Option.isSome_iff_exists, List.getLast?_isSome]
      exact List.ne_nil_of_mem hmid
    exact Nat.not_lt_of_le (hlast message.id hmid last heq)
      (hcounted last heq)

/-- A later last row never adds to the count. -/
theorem counted_length_le (hmessages : after.messages = store.messages)
    (hlast : ∀ later ∈ (after.marked cid userId).getLast?,
      ∀ last ∈ (store.marked cid userId).getLast?, last ≤ later)
    (hsome : (store.marked cid userId).getLast?.isSome →
      (after.marked cid userId).getLast?.isSome) :
    (after.counted cid userId).length ≤
      (store.counted cid userId).length := by
  apply List.Sublist.length_le
  rw [counted, counted, hmessages]
  apply List.monotone_filter_right
  intro message hunread
  simp only [isUnread, findLastReadMessageByUserForCid, List.mem_singleton,
    ↓reduceIte, decide_eq_true_eq] at hunread ⊢
  refine ⟨hunread.1, hunread.2.1, ?_⟩
  rw [Option.all_eq_true] at *
  intro last heq
  obtain ⟨later, hlater⟩ := Option.isSome_iff_exists.1
    (hsome (by rw [heq]; rfl))
  have hlt := hunread.2.2 later hlater
  simp only [decide_eq_true_eq] at hlt ⊢
  exact Nat.lt_of_le_of_lt (hlast later hlater last heq) hlt

/-- A call that reads forward marks nothing new, or marks a message newer than
every message the user has marked in the conversation. -/
def ReadsForward (store : MessageStore) (cid userId : ObjectId)
    (mids : Option (List ObjectId)) : Prop :=
  store.newlyMarked cid userId mids = [] ∨
    ∃ newest ∈ store.newlyMarked cid userId mids,
      ∀ mid ∈ store.marked cid userId, mid < newest

theorem le_getLast?_of_sorted {mids : List ObjectId} {mid last : ObjectId}
    (hsorted : mids.Pairwise (· < ·)) (hmid : mid ∈ mids)
    (hlast : last ∈ mids.getLast?) : mid ≤ last := by
  obtain ⟨start, rfl⟩ := List.getLast?_eq_some_iff.1 hlast
  rcases List.mem_append.1 hmid with hstart | hend
  · exact Nat.le_of_lt ((List.pairwise_append.1 hsorted).2.2 mid hstart last
      List.mem_cons_self)
  · exact Nat.le_of_eq (List.mem_singleton.1 hend)

theorem marksOpponents_read (hmarks : store.MarksOpponents cid userId)
    (mids : Option (List ObjectId)) :
    (store.readMessagesInConversation cid userId mids).2.MarksOpponents cid
      userId := by
  intro mid hmid
  rw [marked_read] at hmid
  rw [messages_read]
  rcases List.mem_append.1 hmid with hold | hnew
  · exact hmarks mid hold
  · exact (mem_newlyMarked store cid userId mids hnew).2

/-- One call keeps the count free of read messages exactly when it reads
forward. -/
theorem noReadCounted_read_iff (hmarks : store.MarksOpponents cid userId)
    (hcounted : store.NoReadCounted cid userId)
    (mids : Option (List ObjectId)) :
    (store.readMessagesInConversation cid userId mids).2.NoReadCounted cid
        userId ↔ store.ReadsForward cid userId mids := by
  rw [noReadCounted_iff (marksOpponents_read hmarks mids), marked_read]
  rw [noReadCounted_iff hmarks] at hcounted
  have hsorted := store.newlyMarked_sorted cid userId mids
  rcases List.eq_nil_or_concat (store.newlyMarked cid userId mids) with
    hnone | ⟨start, newest, hnew⟩
  · simpa [ReadsForward, hnone] using hcounted
  · have hmem : newest ∈ store.newlyMarked cid userId mids := by
      rw [hnew]
      simp
    have hlast : newest ∈ (store.newlyMarked cid userId mids).getLast? := by
      rw [hnew]
      simp
    have hend : newest ∈ (store.marked cid userId ++
        store.newlyMarked cid userId mids).getLast? := by
      rw [hnew]
      simp
    have hfresh := (mem_newlyMarked store cid userId mids hmem).1
    constructor
    · intro hle
      refine .inr ⟨newest, hmem, fun mid hmid => ?_⟩
      exact Nat.lt_of_le_of_ne
        (hle mid (List.mem_append_left _ hmid) newest hend)
        (fun heq => hfresh (heq ▸ hmid))
    · rintro (hnil | ⟨greatest, hgreatest, habove⟩) mid hmid last hmemLast
      · rw [hnil] at hmem
        cases hmem
      · rw [Option.mem_unique hmemLast hend]
        rcases List.mem_append.1 hmid with hold | hin
        · exact Nat.le_of_lt (Nat.lt_of_lt_of_le (habove mid hold)
            (le_getLast?_of_sorted hsorted hgreatest hlast))
        · exact le_getLast?_of_sorted hsorted hin hlast

theorem unreadCount_read_le (mids : Option (List ObjectId))
    (hforward : store.ReadsForward cid userId mids) :
    (store.readMessagesInConversation cid userId mids).2.unreadCount cid
      userId ≤ store.unreadCount cid userId := by
  have hsorted := store.newlyMarked_sorted cid userId mids
  rw [unreadCount_eq, unreadCount_eq]
  apply counted_length_le (store.messages_read cid userId mids)
  · intro later hlater last hlast
    rw [marked_read] at hlater
    rcases hforward with hnone | ⟨newest, hmem, habove⟩
    · rw [hnone, List.append_nil] at hlater
      rw [Option.mem_unique hlater hlast]
    · rw [List.getLast?_append_of_ne_nil _ (List.ne_nil_of_mem hmem)]
        at hlater
      exact Nat.le_of_lt (Nat.lt_of_lt_of_le
        (habove last (List.mem_of_getLast? hlast))
        (le_getLast?_of_sorted hsorted hmem hlater))
  · intro hsome
    rw [marked_read]
    simp only [List.getLast?_isSome] at hsome ⊢
    simp [hsome]

end Counting

end MessageStore

/-- What happens in conversations: a message is sent, or a user reads some
messages by their ids or without naming any. -/
inductive MessageEvent
  | send (cid sender : ObjectId)
  | read (cid userId : ObjectId) (mids : Option (List ObjectId))

namespace MessageStore

def apply (store : MessageStore) : MessageEvent → MessageStore
  | .send cid sender => store.create cid sender
  | .read cid userId mids =>
      (store.readMessagesInConversation cid userId mids).2

/-- The collections after a history, from empty ones. -/
def after (events : List MessageEvent) : MessageStore :=
  events.foldl apply empty

/-- The condition on one event: a read by the user in the conversation reads
forward. -/
def GoesForward (cid userId : ObjectId) (store : MessageStore) :
    MessageEvent → Prop
  | .send _ _ => True
  | .read readCid reader mids =>
      (readCid, reader) = (cid, userId) →
        store.ReadsForward cid userId mids

variable {cid userId : ObjectId}

theorem marksOpponents_apply {store : MessageStore}
    (hmarks : store.MarksOpponents cid userId) (event : MessageEvent) :
    (store.apply event).MarksOpponents cid userId := by
  cases event with
  | send newCid sender =>
      intro mid hmid
      obtain ⟨message, hmessage, hrest⟩ := hmarks mid hmid
      exact ⟨message, List.mem_append_left _ hmessage, hrest⟩
  | read readCid reader mids =>
      by_cases hsame : (cid, userId) = (readCid, reader)
      · obtain ⟨rfl, rfl⟩ := Prod.mk.inj hsame
        exact marksOpponents_read hmarks mids
      · intro mid hmid
        rw [apply, marked_read_of_ne store _ _ _ hsame] at hmid
        rw [apply, messages_read]
        exact hmarks mid hmid

theorem marksOpponents_after (events : List MessageEvent) :
    (after events).MarksOpponents cid userId := by
  refine List.foldlRecOn (motive := fun store : MessageStore =>
    store.MarksOpponents cid userId) events apply ?_ ?_
  · intro mid hmid
    cases hmid
  · intro store hmarks event _
    exact marksOpponents_apply hmarks event

theorem noReadCounted_apply_iff {store : MessageStore}
    (hmarks : store.MarksOpponents cid userId)
    (hcounted : store.NoReadCounted cid userId) (event : MessageEvent) :
    (store.apply event).NoReadCounted cid userId ↔
      store.GoesForward cid userId event := by
  cases event with
  | send newCid sender =>
      refine iff_of_true ?_ trivial
      rw [noReadCounted_iff (marksOpponents_apply hmarks _)]
      exact (noReadCounted_iff hmarks).1 hcounted
  | read readCid reader mids =>
      by_cases hsame : (readCid, reader) = (cid, userId)
      · obtain ⟨rfl, rfl⟩ := Prod.mk.inj hsame
        rw [GoesForward, forall_prop_of_true rfl]
        exact noReadCounted_read_iff hmarks hcounted mids
      · refine iff_of_true ?_ (fun heq => absurd heq hsame)
        have hmarked := marked_read_of_ne store readCid reader mids
          (Ne.symm hsame)
        rw [noReadCounted_iff (marksOpponents_apply hmarks _), apply,
          hmarked]
        exact (noReadCounted_iff hmarks).1 hcounted

/-- Along a history no read message is counted and no read call raises the
count, exactly when every read call of the user reads forward. -/
theorem after_unread_monotone_iff (events : List MessageEvent)
    (cid userId : ObjectId) :
    ((∀ done, done <+: events →
        ∀ message ∈ (after done).counted cid userId,
          message.id ∉ (after done).marked cid userId) ∧
      ∀ done mids, done ++ [.read cid userId mids] <+: events →
        (after (done ++ [.read cid userId mids])).unreadCount cid userId ≤
          (after done).unreadCount cid userId) ↔
      ∀ done event, done ++ [event] <+: events →
        (after done).GoesForward cid userId event := by
  have hempty : empty.NoReadCounted cid userId := by
    simp [NoReadCounted, counted, empty]
  have hthroughout := throughout_iff
    (P := fun store : MessageStore => store.NoReadCounted cid userId) hempty
    (fun done event hdone => by
      rw [List.foldl_append]
      exact noReadCounted_apply_iff (marksOpponents_after done) hdone event)
    events
  constructor
  · rintro ⟨hcounted, -⟩
    exact hthroughout.1 hcounted
  · intro hforward
    refine ⟨hthroughout.2 hforward, fun done mids hdone => ?_⟩
    have hread := hforward done (.read cid userId mids) hdone rfl
    rw [after, List.foldl_append]
    exact unreadCount_read_le mids hread

/-- Two messages, read newest first.  The second call raises the count from 0
to 1, and the message counted then is the one that was read first. -/
def readNewestFirst : List MessageEvent :=
  [.send 10 1, .send 10 1, .read 10 2 (some [1]), .read 10 2 (some [0])]

theorem readNewestFirst_raises_unread :
    (after (readNewestFirst.take 3)).unreadCount 10 2 <
        (after readNewestFirst).unreadCount 10 2 ∧
      (⟨1, 10, 1⟩ : Message) ∈ (after readNewestFirst).counted 10 2 ∧
      1 ∈ (after readNewestFirst).marked 10 2 := by
  decide

end MessageStore

end SamaServer
