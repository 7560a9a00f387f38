/-
Which conversations of a user are listed.  The period and the limit of a
request are applied to the rows first, whose dates are those of joining, and
only then to the conversations: a conversation is listed when the user joined
it within the period and joined few others after it.
-/
import SamaServer.DatedConversations

namespace SamaServer

namespace DatePeriod

/-- The period that a request means. -/
def InRange (updatedAt : DatePeriod) (date : Date) : Prop :=
  (∀ bound ∈ updatedAt.gt, bound.time < date.time) ∧
    ∀ bound ∈ updatedAt.lt, (date.time : Int) < bound.time

instance (updatedAt : DatePeriod) (date : Date) :
    Decidable (updatedAt.InRange date) :=
  inferInstanceAs (Decidable (_ ∧ _))

variable {updatedAt : DatePeriod} {date : Date}

theorem admits_of_inRange (hrange : updatedAt.InRange date) :
    updatedAt.filterOptions.admits date = true := by
  obtain ⟨hgt, hlt⟩ := hrange
  rw [FilterOptions.admits, Bool.and_eq_true, Option.all_eq_true,
    Option.all_eq_true]
  constructor
  · intro bound hbound
    obtain ⟨param, hparam, rfl⟩ := Option.map_eq_some_iff.1 hbound
    exact decide_eq_true (hgt param (Option.filter_eq_some_iff.1 hparam).1)
  · intro bound hbound
    obtain ⟨param, hparam, rfl⟩ := Option.map_eq_some_iff.1 hbound
    exact decide_eq_true (hlt param (Option.filter_eq_some_iff.1 hparam).1)

/-- Only an upper bound of zero is lost: every date is after the epoch. -/
theorem inRange_of_admits (hzero : updatedAt.lt ≠ some (.number 0))
    (hadmits : updatedAt.filterOptions.admits date = true) :
    updatedAt.InRange date := by
  rw [FilterOptions.admits, Bool.and_eq_true, Option.all_eq_true,
    Option.all_eq_true] at hadmits
  obtain ⟨hfrom, hto⟩ := hadmits
  have hdate := date.after_epoch
  constructor
  · intro param hparam
    cases htruthy : param.isTruthy with
    | true =>
        refine of_decide_eq_true (hfrom param.time ?_)
        exact Option.map_eq_some_iff.2 ⟨param,
          Option.filter_eq_some_iff.2 ⟨hparam, htruthy⟩, rfl⟩
    | false =>
        cases param with
        | text time => cases htruthy
        | number time =>
            have htime : time = 0 := by simpa [DateParam.isTruthy] using htruthy
            simp only [DateParam.time]
            omega
  · intro param hparam
    have htruthy : param.isTruthy = true := by
      cases param with
      | text time => rfl
      | number time =>
          refine decide_eq_true ?_
          rintro rfl
          exact hzero hparam
    refine of_decide_eq_true (hto param.time ?_)
    exact Option.map_eq_some_iff.2 ⟨param,
      Option.filter_eq_some_iff.2 ⟨hparam, htruthy⟩, rfl⟩

end DatePeriod

namespace DatedStore

/-! ### Dates of rows -/

/-- A row keeps the dates of joining. -/
def JoinDates (store : DatedStore) : Prop :=
  ∀ row ∈ store.participants.entries, row.2.updatedAt = row.2.createdAt

theorem mem_insert {D : Type} {documents : OrderedMap ObjectId D}
    {id : ObjectId} {document : D} {entry : ObjectId × D}
    (hmem : entry ∈ (insert documents id document).entries) :
    entry ∈ documents.entries ∨ entry = (id, document) := by
  rw [insert] at hmem
  split at hmem
  · exact .inl hmem
  · next hnew =>
      have hfree : id ∉ documents.entries.map Prod.fst := hnew
      rw [OrderedMap.set, dif_neg hfree, List.mem_append,
        List.mem_singleton] at hmem
      exact hmem

theorem joinDates_apply {store : DatedStore} (hdates : store.JoinDates)
    (event : DatedEvent) : (store.apply event).JoinDates := by
  cases event with
  | created id organizationId date => exact hdates
  | joined id conversationId userId date =>
      intro row hrow
      rw [apply, addNoExistedParticipant] at hrow
      split at hrow
      · exact hdates row hrow
      · rcases mem_insert hrow with hold | rfl
        · exact hdates row hold
        · rfl
  | left conversationId userId =>
      intro row hrow
      exact hdates row (List.mem_filter.1 hrow).1
  | deleted id => exact hdates
  | messaged conversationId date => exact hdates

theorem joinDates_run (events : List DatedEvent) :
    (events.foldl apply empty).JoinDates :=
  List.foldlRecOn events apply (fun row hrow => by cases hrow)
    (fun _ hstore event _ => joinDates_apply hstore event)

/-! ### The queries -/

theorem mem_findAll_iff {D : Type} {documents : List (ObjectId × D)}
    (hkeys : (documents.map Prod.fst).Nodup) {limit : Nat}
    {document : ObjectId × D} :
    document ∈ findAll documents limit ↔
      document ∈ documents ∧ (limit = 0 ∨ (documents.filter (fun other =>
        document.1 < other.1)).length < limit) := by
  rw [findAll]
  split
  · next hzero => simp [(Pages.descending_perm _ documents).mem_iff, hzero]
  · next hlimit => simp [Pages.mem_page_iff hkeys, hlimit]

/-- A query whose limit cuts nothing finds all documents. -/
theorem findAll_perm {D : Type} {documents : List (ObjectId × D)}
    {limit : Nat} (hlength : limit = 0 ∨ documents.length ≤ limit) :
    (findAll documents limit).Perm documents := by
  have hperm := Pages.descending_perm Prod.fst documents
  rw [findAll]
  split
  · exact hperm
  · next hlimit =>
      rw [Pages.page, List.take_of_length_le
        (hperm.length_eq.trans_le (hlength.resolve_left hlimit))]
      exact hperm

theorem mem_findAll_of_length_le {D : Type}
    {documents : List (ObjectId × D)} {limit : Nat}
    (hlength : limit = 0 ∨ documents.length ≤ limit)
    {document : ObjectId × D} :
    document ∈ findAll documents limit ↔ document ∈ documents :=
  (findAll_perm hlength).mem_iff

theorem length_findAll_le {D : Type} (documents : List (ObjectId × D))
    {limit : Nat} (hlimit : limit ≠ 0) :
    (findAll documents limit).length ≤ limit := by
  rw [findAll, if_neg hlimit]
  exact List.length_take_le limit _

theorem nodup_findAll {D : Type} {documents : List (ObjectId × D)}
    (hkeys : (documents.map Prod.fst).Nodup) (limit : Nat) :
    (findAll documents limit).Nodup := by
  have hall : (Pages.descending Prod.fst documents).Nodup :=
    (Pages.descending_perm _ documents).nodup_iff.2 (.of_map Prod.fst hkeys)
  rw [findAll]
  split
  · exact hall
  · exact hall.sublist (List.take_sublist limit _)

/-! ### The list -/

variable (store : DatedStore) (user : User) (updatedAt : DatePeriod)

/-- The conversations of the user's organization with a row of the user. -/
def conversationsOf : List (ObjectId × DatedConversation) :=
  store.conversations.entries.filter (fun conversation =>
    conversation.2.organizationId = user.organizationId ∧
      ∃ row ∈ store.participants.entries,
        row.2.userId = user.id ∧ row.2.conversationId = conversation.1)

/-- The conversations of the user in the period that is meant. -/
def conversationsWithin : List (ObjectId × DatedConversation) :=
  (store.conversationsOf user).filter (fun conversation =>
    updatedAt.InRange conversation.2.updatedAt)

/-- What a request without ids answers: conversations of the user in the
period, none twice, and all of them when they are no more than the limit. -/
structure ListsWithin (preloadCount limit : Nat) : Prop where
  within : ∀ conversation ∈ store.listConversations preloadCount user
    ⟨updatedAt, []⟩ limit,
      conversation ∈ store.conversationsWithin user updatedAt
  once : (store.listConversations preloadCount user ⟨updatedAt, []⟩
    limit).Nodup
  all : (store.conversationsWithin user updatedAt).length ≤ limit →
    ∀ conversation ∈ store.conversationsWithin user updatedAt,
      conversation ∈ store.listConversations preloadCount user
        ⟨updatedAt, []⟩ limit

/-- The rows of the user who joined within the period. -/
def rowsWithin : List (ObjectId × DatedParticipant) :=
  store.participants.entries.filter (fun row =>
    row.2.userId = user.id ∧
      updatedAt.filterOptions.admits row.2.createdAt)

/-- The user joined the conversation within the period and has fewer than
`bound` later rows of that kind. -/
def JoinedWithin (bound : Nat) (conversationId : ObjectId) : Prop :=
  ∃ row ∈ store.rowsWithin user updatedAt,
    row.2.conversationId = conversationId ∧
      (bound = 0 ∨ ((store.rowsWithin user updatedAt).filter (fun other =>
        row.1 < other.1)).length < bound)

variable {store user updatedAt} {preloadCount limit bound : Nat}

theorem keys_rowsWithin :
    ((store.rowsWithin user updatedAt).map Prod.fst).Nodup :=
  store.participants.keys_nodup.sublist (List.filter_sublist.map Prod.fst)

/-- The ids that the first query finds. -/
theorem mem_findParticipantConversations_iff (hdates : store.JoinDates)
    {conversationId : ObjectId} :
    conversationId ∈ store.findParticipantConversations user.id
        updatedAt.filterOptions bound ↔
      store.JoinedWithin user updatedAt bound conversationId := by
  have hrows : store.participants.entries.filter (fun row =>
      row.2.userId = user.id ∧
        updatedAt.filterOptions.admits row.2.updatedAt) =
      store.rowsWithin user updatedAt := by
    refine List.filter_congr (fun row hrow => ?_)
    rw [hdates row hrow]
  rw [findParticipantConversations, hrows, List.mem_map]
  constructor
  · rintro ⟨row, hrow, rfl⟩
    obtain ⟨hmem, hlater⟩ := (mem_findAll_iff keys_rowsWithin).1 hrow
    exact ⟨row, hmem, rfl, hlater⟩
  · rintro ⟨row, hmem, rfl, hlater⟩
    exact ⟨row, (mem_findAll_iff keys_rowsWithin).2 ⟨hmem, hlater⟩, rfl⟩

theorem length_findParticipantConversations_le (hbound : bound ≠ 0) :
    (store.findParticipantConversations user.id updatedAt.filterOptions
      bound).length ≤ bound := by
  rw [findParticipantConversations, List.length_map]
  exact length_findAll_le _ hbound

/-- The second limit cuts nothing off: there are no more ids than rows. -/
theorem mem_listConversations_iff (hdates : store.JoinDates)
    {conversation : ObjectId × DatedConversation} :
    conversation ∈ store.listConversations preloadCount user
        ⟨updatedAt, []⟩ limit ↔
      conversation ∈ store.conversations.entries ∧
        conversation.2.organizationId = user.organizationId ∧
        store.JoinedWithin user updatedAt
          (normalizeLimitParam preloadCount limit) conversation.1 ∧
        updatedAt.filterOptions.admits conversation.2.updatedAt = true := by
  let bound := normalizeLimitParam preloadCount limit
  let ids := store.findParticipantConversations user.id
    updatedAt.filterOptions bound
  let found := store.conversations.entries.filter (fun conversation =>
    conversation.2.organizationId = user.organizationId ∧
      conversation.1 ∈ ids ∧
      updatedAt.filterOptions.admits conversation.2.updatedAt)
  have hlength : bound = 0 ∨ found.length ≤ bound := by
    by_cases hbound : bound = 0
    · exact .inl hbound
    · right
      have hnodup : (found.map Prod.fst).Nodup :=
        store.conversations.keys_nodup.sublist
          (List.filter_sublist.map Prod.fst)
      have hsubset : found.map Prod.fst ⊆ ids := by
        intro id hid
        obtain ⟨conversation, hfound, rfl⟩ := List.mem_map.1 hid
        exact (of_decide_eq_true (List.mem_filter.1 hfound).2).2.1
      calc found.length
          = (found.map Prod.fst).length := (List.length_map _).symm
        _ ≤ ids.length := (hnodup.subperm hsubset).length_le
        _ ≤ bound := length_findParticipantConversations_le hbound
  change conversation ∈ findAll found bound ↔ _
  rw [mem_findAll_of_length_le hlength, List.mem_filter, decide_eq_true_iff,
    mem_findParticipantConversations_iff hdates]

theorem mem_conversationsOf_iff
    {conversation : ObjectId × DatedConversation} :
    conversation ∈ store.conversationsOf user ↔
      conversation ∈ store.conversations.entries ∧
        conversation.2.organizationId = user.organizationId ∧
        ∃ row ∈ store.participants.entries,
          row.2.userId = user.id ∧ row.2.conversationId = conversation.1 := by
  rw [conversationsOf, List.mem_filter, decide_eq_true_iff]

theorem mem_conversationsWithin_iff
    {conversation : ObjectId × DatedConversation} :
    conversation ∈ store.conversationsWithin user updatedAt ↔
      conversation ∈ store.conversationsOf user ∧
        updatedAt.InRange conversation.2.updatedAt := by
  rw [conversationsWithin, List.mem_filter, decide_eq_true_iff]

/-- Who joined has a row. -/
theorem JoinedWithin.mem_conversationsOf
    {conversation : ObjectId × DatedConversation}
    (hmem : conversation ∈ store.conversations.entries)
    (horganization : conversation.2.organizationId = user.organizationId)
    (hjoined : store.JoinedWithin user updatedAt bound conversation.1) :
    conversation ∈ store.conversationsOf user := by
  obtain ⟨row, hrow, hid, _⟩ := hjoined
  obtain ⟨hentry, huser⟩ := List.mem_filter.1 hrow
  exact mem_conversationsOf_iff.2 ⟨hmem, horganization, row, hentry,
    (of_decide_eq_true huser).1, hid⟩

/-- What the rows of the user have to be like: when the conversations in the
period are no more than the limit, the user joined each of them within the
period and not too long before the others; and an upper bound of zero, which
counts as none, leaves no conversation over. -/
structure JoinsWithin (store : DatedStore) (user : User)
    (updatedAt : DatePeriod) (preloadCount limit : Nat) : Prop where
  joined : (store.conversationsWithin user updatedAt).length ≤ limit →
    ∀ conversation ∈ store.conversationsWithin user updatedAt,
      store.JoinedWithin user updatedAt
        (normalizeLimitParam preloadCount limit) conversation.1
  upper : updatedAt.lt = some (.number 0) →
    ∀ conversation ∈ store.conversationsOf user,
      updatedAt.filterOptions.admits conversation.2.updatedAt = true →
      ¬ store.JoinedWithin user updatedAt
        (normalizeLimitParam preloadCount limit) conversation.1

theorem JoinsWithin.listsWithin (hdates : store.JoinDates)
    (hjoins : JoinsWithin store user updatedAt preloadCount limit) :
    store.ListsWithin user updatedAt preloadCount limit where
  within := by
    intro conversation hlisted
    obtain ⟨hmem, horganization, hjoined, hadmits⟩ :=
      (mem_listConversations_iff hdates).1 hlisted
    have hof := hjoined.mem_conversationsOf hmem horganization
    have hzero : updatedAt.lt ≠ some (.number 0) :=
      fun hzero => hjoins.upper hzero conversation hof hadmits hjoined
    exact mem_conversationsWithin_iff.2 ⟨hof,
      DatePeriod.inRange_of_admits hzero hadmits⟩
  once := nodup_findAll (store.conversations.keys_nodup.sublist
    (List.filter_sublist.map Prod.fst)) _
  all := by
    intro hfew conversation hwithin
    obtain ⟨hof, hrange⟩ := mem_conversationsWithin_iff.1 hwithin
    obtain ⟨hmem, horganization, _⟩ := mem_conversationsOf_iff.1 hof
    exact (mem_listConversations_iff hdates).2 ⟨hmem, horganization,
      hjoins.joined hfew conversation hwithin,
      DatePeriod.admits_of_inRange hrange⟩

theorem ListsWithin.joinsWithin (hdates : store.JoinDates)
    (hlists : store.ListsWithin user updatedAt preloadCount limit) :
    JoinsWithin store user updatedAt preloadCount limit where
  joined := by
    intro hfew conversation hwithin
    have hlisted := hlists.all hfew conversation hwithin
    exact ((mem_listConversations_iff hdates).1 hlisted).2.2.1
  upper := by
    intro hzero conversation hof hadmits hjoined
    obtain ⟨hmem, horganization, _⟩ := mem_conversationsOf_iff.1 hof
    have hwithin := hlists.within conversation
      ((mem_listConversations_iff hdates).2
        ⟨hmem, horganization, hjoined, hadmits⟩)
    have hlt := (mem_conversationsWithin_iff.1 hwithin).2.2 _ hzero
    simp only [DateParam.time] at hlt
    omega

/-- After every history, a request without ids is answered with the
conversations of the user in the period just when the user joined them within
the period too, the limit being counted over all that the user joined then. -/
theorem listsWithin_iff (preloadCount : Nat) (events : List DatedEvent)
    (user : User) (updatedAt : DatePeriod) (limit : Nat) :
    (events.foldl apply empty).ListsWithin user updatedAt preloadCount
        limit ↔
      JoinsWithin (events.foldl apply empty) user updatedAt preloadCount
        limit :=
  ⟨fun hlists => hlists.joinsWithin (joinDates_run events),
    fun hjoins => hjoins.listsWithin (joinDates_run events)⟩

/-- A member of old does not see that there is a new message. -/
theorem not_listsWithin :
    ¬ ∀ (preloadCount : Nat) (events : List DatedEvent) (user : User)
        (updatedAt : DatePeriod) (limit : Nat), 0 < limit →
      (events.foldl apply empty).ListsWithin user updatedAt preloadCount
        limit := by
  intro hall
  have hlists := hall 30 [.created 1 0 ⟨1, by decide⟩,
    .joined 2 1 7 ⟨1, by decide⟩, .messaged 1 ⟨5, by decide⟩] ⟨7, 0⟩
    ⟨some (.text 3), none⟩ 10 (by decide)
  have hlisted := hlists.all (by decide)
    (1, ⟨0, ⟨1, by decide⟩, ⟨5, by decide⟩⟩) (by decide)
  revert hlisted
  decide

end DatedStore

end SamaServer
