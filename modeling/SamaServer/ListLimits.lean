/-
The limits of `message_list` and `conversation_list`.  The schemas admit every
number, the operations cut those above the configured count only, and the
database takes zero for no limit and drops a sign.
-/
import Mathlib.Data.Rat.Floor
import SamaServer.ListedConversations
import SamaServer.ListedMessages

namespace SamaServer

/-- A limit that a schema accepts: a number that the language holds
safely. -/
structure LimitParam where
  value : ℚ
  isSafe : |value| ≤ 2 ^ 53 - 1

/-- How the database reads a limit without a sign.  Whole numbers are what
they are, and a larger number lets no fewer documents through; zero is no
limit. -/
structure LimitReading where
  read : ℚ → ℕ
  read_natCast : ∀ n : ℕ, read n = n
  read_mono : ∀ x y, 0 ≤ x → x ≤ y → read x ≤ read y

namespace LimitReading

/-- A fraction is cut to its whole part. -/
def whole : LimitReading where
  read := Nat.floor
  read_natCast := Nat.floor_natCast
  read_mono := fun _ _ _ hle => Nat.floor_mono hle

/-- The limit of a query; the driver drops the sign. -/
def cursorLimit (server : LimitReading) (limit : ℚ) : ℕ :=
  server.read |limit|

/-- A limit that is neither missing, nor zero, nor cut is read as a number
from one up to the configured count. -/
def IsBounded (server : LimitReading) (preloadCount : ℕ)
    (limit : Option LimitParam) : Prop :=
  0 < preloadCount ∧ ∀ given, limit = some given → given.value ≠ 0 →
    given.value ≤ preloadCount →
      0 < server.read |given.value| ∧ server.read |given.value| ≤ preloadCount

end LimitReading

namespace ListLimits

/-- `#normalizeLimitParam`, which both operations have. -/
def normalizeLimitParam (preloadCount : ℕ) (limit : Option LimitParam) : ℚ :=
  match limit with
  | none => preloadCount
  | some limit =>
      if (preloadCount : ℚ) < limit.value then preloadCount
      else if limit.value = 0 then preloadCount
      else limit.value

variable (server : LimitReading)

theorem isBounded_iff (preloadCount : ℕ) (limit : Option LimitParam) :
    server.IsBounded preloadCount limit ↔
      0 < server.cursorLimit (normalizeLimitParam preloadCount limit) ∧
        server.cursorLimit (normalizeLimitParam preloadCount limit) ≤
          preloadCount := by
  have hcount : server.cursorLimit preloadCount = preloadCount := by
    rw [LimitReading.cursorLimit, Nat.abs_cast, server.read_natCast]
  have hfree : ∀ P : Prop, P → ((0 < preloadCount ∧ P) ↔
      0 < server.cursorLimit preloadCount ∧
        server.cursorLimit preloadCount ≤ preloadCount) := by
    intro P hP
    rw [hcount]
    exact and_congr_right (fun _ => iff_of_true hP (Nat.le_refl _))
  cases limit with
  | none =>
      refine hfree _ ?_
      rintro given ⟨⟩
  | some limit =>
      rw [normalizeLimitParam]
      split
      · next hcut =>
          refine hfree _ ?_
          rintro given ⟨⟩ _ hle
          exact absurd hcut (not_lt_of_ge hle)
      · next huncut =>
          split
          · next hzero =>
              refine hfree _ ?_
              rintro given ⟨⟩ hne
              exact absurd hzero hne
          · next hne =>
              constructor
              · rintro ⟨_, hgiven⟩
                exact hgiven limit rfl hne (not_lt.1 huncut)
              · rintro ⟨hpos, hle⟩
                refine ⟨hpos.trans_le hle, ?_⟩
                rintro given ⟨⟩ _ _
                exact ⟨hpos, hle⟩

/-- A limit above zero fails only when the database reads it as zero. -/
theorem isBounded_iff_of_pos {preloadCount : ℕ} (hcount : 0 < preloadCount)
    {limit : LimitParam} (hpos : 0 < limit.value) :
    server.IsBounded preloadCount (some limit) ↔
      (preloadCount : ℚ) < limit.value ∨ 0 < server.read |limit.value| := by
  constructor
  · rintro ⟨-, hgiven⟩
    rcases lt_or_ge (preloadCount : ℚ) limit.value with hcut | huncut
    · exact .inl hcut
    · exact .inr (hgiven limit rfl (ne_of_gt hpos) huncut).1
  · intro hread
    refine ⟨hcount, ?_⟩
    rintro given ⟨⟩ _ hle
    have hmono := server.read_mono |limit.value| preloadCount
      (abs_nonneg _) (by rwa [abs_of_pos hpos])
    rw [server.read_natCast] at hmono
    exact ⟨hread.resolve_left (not_lt_of_ge hle), hmono⟩

end ListLimits

/-! ### Messages -/

namespace EncryptedOperations

open Fallible MessageOperations

variable (config : ChatConfig) (devices : Documents.Choice EncryptedDevice)
  (session : ConversationSession) (deviceId : Option DeviceId)

/-- What `message_list` does with a limit that is read; zero lets every
message through. -/
def listWithLimit (cid : TextId) (filter : ListFilter) (limit : ℕ) :
    EncryptedProgram MessageList := do
  let currentUser ← query (fun s =>
    .ok (s.chat.conversations.findUserById session.userId))
  let access ← onChat (hasAccessToList config session cid)
  let user ← onChat (requireUser currentUser)
  if isEncrypted access.conversation then do
    let identityKey ← query (fun s =>
      .ok (s.identityKey devices user.id deviceId))
    let mids ← getMidsByIdentityKey identityKey access.conversation.id
    let limit ← query (fun s => .ok (cursorLimit limit s.chat))
    onChat (encryptedList { config with encryptedMids := fun _ _ => .ok mids }
      session access.conversation filter limit)
  else onChat (do
    let messages ← MessageOperations.query (fun chat =>
      chat.list access.conversation.id user.id filter
        (cursorLimit limit chat))
    MessageOperations.query (fun chat =>
      .ok (assignMessageVirtualFields session messages chat)))

/-- `message_list`. -/
def messageList (server : LimitReading) (cid : TextId) (filter : ListFilter)
    (limit : Option LimitParam) : EncryptedProgram MessageList :=
  listWithLimit config devices session deviceId cid filter
    (server.cursorLimit
      (ListLimits.normalizeLimitParam config.preloadCount limit))

/-- For whole numbers it is the list that is known. -/
theorem messageList_eq_list (server : LimitReading) (cid : TextId)
    (filter : ListFilter) (limit : Option LimitParam) (number : Option ℤ)
    (hsame : limit.map LimitParam.value =
      number.map (fun number => (number : ℚ))) :
    messageList config devices session deviceId server cid filter limit =
      list config devices session deviceId ⟨cid, filter, number⟩ := by
  have hlimit : server.cursorLimit
      (ListLimits.normalizeLimitParam config.preloadCount limit) =
        normalizeLimitParam config number := by
    have hcount : server.cursorLimit config.preloadCount =
        config.preloadCount := by
      rw [LimitReading.cursorLimit, Nat.abs_cast, server.read_natCast]
    cases limit with
    | none =>
        cases number with
        | none => exact hcount
        | some number => cases hsame
    | some limit =>
        cases number with
        | none => cases hsame
        | some number =>
            have hvalue : limit.value = (number : ℚ) := Option.some.inj hsame
            rw [ListLimits.normalizeLimitParam, normalizeLimitParam]
            simp only [hvalue]
            by_cases hcut : (config.preloadCount : ℤ) < number
            · have hcast : (config.preloadCount : ℚ) < (number : ℚ) := by
                exact_mod_cast hcut
              rw [if_pos hcast, if_pos (.inl hcut), hcount]
            · have hcast : ¬ (config.preloadCount : ℚ) < (number : ℚ) := by
                exact_mod_cast hcut
              rw [if_neg hcast]
              by_cases hzero : number = 0
              · rw [if_pos (by exact_mod_cast hzero), if_pos (.inr hzero),
                  hcount]
              · rw [if_neg (by exact_mod_cast hzero),
                  if_neg (fun hor => hor.elim hcut hzero),
                  LimitReading.cursorLimit, ← Int.cast_abs,
                  ← Int.natCast_natAbs, Int.cast_natCast,
                  server.read_natCast]
  rw [messageList, hlimit]
  rfl

theorem length_list_le {chat : ChatStore} {cid userId : ObjectId}
    {filter : ListFilter} {limit : ℕ} {messages : List ChatMessage}
    (hmessages : chat.list cid userId filter limit = .ok messages) :
    messages.length ≤ limit := by
  rw [ChatStore.list] at hmessages
  cases hids : filter.ids with
  | none =>
      rw [hids] at hmessages
      cases hmessages
      exact List.length_take_le _ _
  | some ids =>
      rw [hids] at hmessages
      cases hnamed : ChatStore.namedIds ids with
      | error error =>
          simp only [hnamed] at hmessages
          cases hmessages
      | ok mids =>
          simp only [hnamed] at hmessages
          cases hmessages
          exact List.length_take_le _ _

theorem length_assignMessageVirtualFields (messages : List ChatMessage)
    (chat : ChatStore) :
    (assignMessageVirtualFields session messages chat).length =
      messages.length := by
  rw [assignMessageVirtualFields, List.length_map]

/-- Whatever happens in between, a list with a limit is no longer. -/
theorem returns_listWithLimit (cid : TextId) (filter : ListFilter)
    {limit : ℕ} (hlimit : 0 < limit) :
    (listWithLimit config devices session deviceId cid filter limit).Returns
      (fun shown => shown.length ≤ limit) := by
  have hcursor : ∀ chat, cursorLimit limit chat = limit :=
    fun chat => if_neg (Nat.ne_of_gt hlimit)
  refine returns_bind _ (fun currentUser => returns_bind _ (fun access =>
    returns_bind _ (fun user => ?_)))
  split
  · refine returns_bind _ (fun identityKey => returns_bind _ (fun mids => ?_))
    refine returns_bind_returns (P := fun cursor => cursor = limit) ?_ ?_
    · refine returns_command (fun s cursor hcursorLimit => ?_)
      cases hcursorLimit
      exact hcursor s.chat
    · rintro cursor rfl
      refine returns_command (fun s shown hshown => ?_)
      cases hshown
      rw [length_assignMessageVirtualFields]
      exact List.length_take_le _ _
  · refine returns_command (fun s shown hshown => ?_)
    obtain ⟨messages, after, hmessages, hassigned⟩ :=
      of_exec_bind_ok (Prod.ext hshown rfl)
    have hlist : s.chat.list access.conversation.id user.id filter
        (cursorLimit limit s.chat) = .ok messages :=
      congrArg Prod.fst hmessages
    cases hassigned
    rw [length_assignMessageVirtualFields, ← hcursor s.chat]
    exact length_list_le hlist

/-- Every store and every request. -/
def BoundsMessages (server : LimitReading) (preloadCount : ℕ)
    (limit : Option LimitParam) : Prop :=
  ∀ (config : ChatConfig) (devices : Documents.Choice EncryptedDevice)
    (session : ConversationSession) (deviceId : Option DeviceId)
    (cid : TextId) (filter : ListFilter) (s : EncryptedChat)
    (shown : MessageList), config.preloadCount = preloadCount →
      ((messageList config devices session deviceId server cid filter
        limit).exec s).1 = .ok shown → shown.length ≤ preloadCount

/-- A private conversation with some messages of its owner. -/
def manyMessages (count : ℕ) : EncryptedChat where
  chat :=
    { ChatStore.oneMessage with
      messages := (List.range count).map (fun id =>
        ⟨⟨id, 4, 0⟩, 9, some "hello", []⟩)
      nextMessageId := count
      messages_sorted := by
        rw [List.pairwise_map]
        exact List.pairwise_lt_range
      messages_below := by
        intro message hmessage
        obtain ⟨id, hid, rfl⟩ := List.mem_map.1 hmessage
        exact List.mem_range.1 hid }
  devices := .empty
  marks := []

/-- All of them are listed when no limit cuts them. -/
theorem exec_listWithLimit_manyMessages (preloadCount count limit : ℕ)
    (hlimit : limit = 0 ∨ count ≤ limit) :
    ∃ shown, ((listWithLimit { ChatConfig.plain with
        preloadCount := preloadCount } .oldest ⟨1, 9⟩ none (.hex 4 true)
        .all limit).exec (manyMessages count)).1 = .ok shown ∧
      shown.length = count := by
  have hcursor : count ≤ cursorLimit limit (manyMessages count).chat := by
    rw [cursorLimit]
    split
    · simp [manyMessages]
    · next hne => exact hlimit.resolve_left hne
  have hlist : (manyMessages count).chat.list 4 1 .all
      (cursorLimit limit (manyMessages count).chat) =
        .ok (manyMessages count).chat.messages.reverse := by
    have hlength : (manyMessages count).chat.messages.reverse.length =
        count := by simp [manyMessages]
    change Except.ok ((List.filter _ _).reverse.take _) = _
    rw [List.filter_eq_self.2 (fun message hmessage => ?_),
      List.take_of_length_le (hlength.trans_le hcursor)]
    obtain ⟨id, -, rfl⟩ := List.mem_map.1 hmessage
    exact decide_eq_true ⟨rfl, rfl, rfl, rfl, fun hbody => by cases hbody⟩
  refine ⟨assignMessageVirtualFields ⟨1, 9⟩
    (manyMessages count).chat.messages.reverse (manyMessages count).chat,
    ?_, ?_⟩
  · have hstart : ((listWithLimit { ChatConfig.plain with
        preloadCount := preloadCount } .oldest ⟨1, 9⟩ none (.hex 4 true)
        .all limit).exec (manyMessages count)) =
      (onChat (do
        let messages ← MessageOperations.query (fun chat =>
          chat.list 4 1 .all (cursorLimit limit chat))
        MessageOperations.query (fun chat =>
          .ok (assignMessageVirtualFields ⟨1, 9⟩ messages chat)))).exec
        (manyMessages count) := rfl
    rw [hstart, onChat, exec_command]
    simp only [MessageOperations.query, exec_command_bind, hlist]
    rfl
  · rw [length_assignMessageVirtualFields, manyMessages]
    simp

theorem boundsMessages_iff (server : LimitReading) (preloadCount : ℕ)
    (limit : Option LimitParam) :
    BoundsMessages server preloadCount limit ↔
      server.IsBounded preloadCount limit := by
  rw [ListLimits.isBounded_iff]
  constructor
  · intro hbounds
    by_contra hnot
    have hlimit : server.cursorLimit
          (ListLimits.normalizeLimitParam preloadCount limit) = 0 ∨
        preloadCount + 1 ≤ server.cursorLimit
          (ListLimits.normalizeLimitParam preloadCount limit) := by
      omega
    obtain ⟨shown, hexec, hlength⟩ := exec_listWithLimit_manyMessages
      preloadCount (preloadCount + 1) _ hlimit
    have hle := hbounds { ChatConfig.plain with preloadCount := preloadCount }
      .oldest ⟨1, 9⟩ none (.hex 4 true) .all (manyMessages (preloadCount + 1))
      shown rfl hexec
    omega
  · rintro ⟨hpos, hle⟩
    rintro config devices session deviceId cid filter s shown rfl hexec
    exact ((returns_listWithLimit config devices session deviceId cid filter
      hpos).exec hexec).trans hle

end EncryptedOperations

/-! ### Conversations -/

namespace DatedStore

open ListLimits

/-- `conversation_list`, up to what is added to the conversations. -/
def conversationList (store : DatedStore) (server : LimitReading)
    (preloadCount : ℕ) (user : User) (options : ConversationListOptions)
    (limit : Option LimitParam) : List (ObjectId × DatedConversation) :=
  store.conversationsList user options
    (server.cursorLimit (ListLimits.normalizeLimitParam preloadCount limit))

/-- For natural numbers it is the list that is known. -/
theorem conversationList_eq_listConversations (store : DatedStore)
    (server : LimitReading) (preloadCount : ℕ) (user : User)
    (options : ConversationListOptions) (limit : LimitParam) (number : ℕ)
    (hvalue : limit.value = number) :
    store.conversationList server preloadCount user options (some limit) =
      store.listConversations preloadCount user options number := by
  have hcount : ∀ n : ℕ, server.cursorLimit n = n := by
    intro n
    rw [LimitReading.cursorLimit, Nat.abs_cast, server.read_natCast]
  rw [conversationList, listConversations, ListLimits.normalizeLimitParam,
    normalizeLimitParam]
  simp only [hvalue, Nat.cast_lt, Nat.cast_eq_zero]
  split
  · rw [hcount]
  · split
    · rw [hcount]
    · rw [hcount]

/-- Every store and every request. -/
def BoundsConversations (server : LimitReading) (preloadCount : ℕ)
    (limit : Option LimitParam) : Prop :=
  ∀ (store : DatedStore) (user : User) (options : ConversationListOptions),
    (store.conversationList server preloadCount user options limit).length ≤
      preloadCount

/-- A user with many conversations. -/
def manyConversations (count : ℕ) : DatedStore where
  conversations := ⟨(List.range count).map (fun id =>
    (id, ⟨9, ⟨1, Nat.one_pos⟩, ⟨1, Nat.one_pos⟩⟩)), by
      rw [List.map_map]
      exact List.nodup_range.map (fun _ _ heq => heq)⟩
  participants := ⟨(List.range count).map (fun id =>
    (id, ⟨id, 0, ⟨1, Nat.one_pos⟩, ⟨1, Nat.one_pos⟩⟩)), by
      rw [List.map_map]
      exact List.nodup_range.map (fun _ _ heq => heq)⟩

/-- All of them are listed when no limit cuts them. -/
theorem length_conversationsList_manyConversations (count limit : ℕ)
    (hlimit : limit = 0 ∨ count ≤ limit) :
    ((manyConversations count).conversationsList ⟨0, 9⟩ ⟨⟨none, none⟩, []⟩
      limit).length = count := by
  have hrows : (manyConversations count).participants.entries.filter
      (fun row => row.2.userId = 0 ∧
        (FilterOptions.mk none none).admits row.2.updatedAt) =
      (manyConversations count).participants.entries := by
    refine List.filter_eq_self.2 (fun row hrow => ?_)
    obtain ⟨id, -, rfl⟩ := List.mem_map.1 hrow
    exact decide_eq_true ⟨rfl, rfl⟩
  have hids : ∀ id < count, id ∈ (manyConversations
      count).findParticipantConversations 0 ⟨none, none⟩ limit := by
    intro id hid
    rw [findParticipantConversations, hrows]
    have hentry : ((id, ⟨id, 0, ⟨1, Nat.one_pos⟩, ⟨1, Nat.one_pos⟩⟩) :
        ObjectId × DatedParticipant) ∈
          (manyConversations count).participants.entries :=
      List.mem_map.2 ⟨id, List.mem_range.2 hid, rfl⟩
    have hlength : (manyConversations count).participants.entries.length =
        count := by simp [manyConversations]
    refine List.mem_map.2
      ⟨_, (mem_findAll_of_length_le ?_).2 hentry, rfl⟩
    rwa [hlength]
  have hconversations : (manyConversations count).conversations.entries.filter
      (fun conversation => conversation.2.organizationId = 9 ∧
        conversation.1 ∈ (manyConversations
          count).findParticipantConversations 0 ⟨none, none⟩ limit ∧
        (FilterOptions.mk none none).admits conversation.2.updatedAt) =
      (manyConversations count).conversations.entries := by
    refine List.filter_eq_self.2 (fun conversation hconversation => ?_)
    obtain ⟨id, hid, rfl⟩ := List.mem_map.1 hconversation
    exact decide_eq_true ⟨rfl, hids id (List.mem_range.1 hid), rfl⟩
  have hlength : (manyConversations count).conversations.entries.length =
      count := by simp [manyConversations]
  change (findAll ((manyConversations count).conversations.entries.filter
    (fun conversation => conversation.2.organizationId = 9 ∧
      conversation.1 ∈ (manyConversations
        count).findParticipantConversations 0 ⟨none, none⟩ limit ∧
      (FilterOptions.mk none none).admits conversation.2.updatedAt))
        limit).length = count
  rw [hconversations, (findAll_perm (by rwa [hlength])).length_eq, hlength]

theorem boundsConversations_iff (server : LimitReading) (preloadCount : ℕ)
    (limit : Option LimitParam) :
    BoundsConversations server preloadCount limit ↔
      server.IsBounded preloadCount limit := by
  rw [ListLimits.isBounded_iff]
  constructor
  · intro hbounds
    by_contra hnot
    have hlimit : server.cursorLimit
          (ListLimits.normalizeLimitParam preloadCount limit) = 0 ∨
        preloadCount + 1 ≤ server.cursorLimit
          (ListLimits.normalizeLimitParam preloadCount limit) := by
      omega
    have hle := hbounds (manyConversations (preloadCount + 1)) ⟨0, 9⟩
      ⟨⟨none, none⟩, []⟩
    rw [conversationList,
      length_conversationsList_manyConversations _ _ hlimit] at hle
    omega
  · rintro ⟨hpos, hle⟩ store user options
    exact (length_findAll_le _ (Nat.ne_of_gt hpos)).trans hle

end DatedStore

namespace ListLimits

open EncryptedOperations DatedStore

/-- A limit keeps every list below the configured count just when it is read
as a number from one up to that count, or not used. -/
theorem lists_bounded_iff (server : LimitReading)
    (messagePreloadCount preloadCount : ℕ) (limit : Option LimitParam) :
    (BoundsMessages server messagePreloadCount limit ↔
        server.IsBounded messagePreloadCount limit) ∧
      (BoundsConversations server preloadCount limit ↔
        server.IsBounded preloadCount limit) :=
  ⟨boundsMessages_iff server messagePreloadCount limit,
    boundsConversations_iff server preloadCount limit⟩

/-- A negative limit is not cut. -/
theorem not_lists_bounded :
    ¬ ∀ limit : LimitParam, BoundsMessages .whole 30 (some limit) ∧
      BoundsConversations .whole 30 (some limit) := by
  intro hall
  have hbounded := (boundsMessages_iff .whole 30 _).1
    (hall ⟨-1000, by norm_num⟩).1
  have hread := (hbounded.2 _ rfl (by norm_num) (by norm_num)).2
  have habs : |(-1000 : ℚ)| = ((1000 : ℕ) : ℚ) := by norm_num
  rw [habs, LimitReading.whole.read_natCast] at hread
  omega

end ListLimits

end SamaServer
