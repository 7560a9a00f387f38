/-
The iterator that a message to a conversation is delivered with.  It counts
the participants once and then reads them in batches, from the newest row
down, while participants join and leave between its queries.
-/
import Mathlib.Data.List.Infix
import SamaServer.Documents
import SamaServer.Pages

namespace SamaServer

namespace ParticipantBatches

/-- A document of the participants collection. -/
structure Row where
  id : ObjectId
  conversationId : ObjectId
  userId : ObjectId
deriving DecidableEq

/-- The collection, with the id that the next row gets.  A user has at most
one row in a conversation, because rows are only inserted by upserts. -/
structure Collection where
  rows : List Row
  nextId : ObjectId
  ids_below : ∀ row ∈ rows, row.id < nextId
  ids_nodup : (rows.map Row.id).Nodup
  one_row : (rows.map (fun row => (row.conversationId, row.userId))).Nodup

namespace Collection

def empty : Collection := ⟨[], 0, by simp, by simp, by simp⟩

def hasParticipant (s : Collection) (conversationId userId : ObjectId) :
    Bool :=
  s.rows.any (fun row =>
    row.conversationId = conversationId ∧ row.userId = userId)

theorem hasParticipant_iff (s : Collection)
    (conversationId userId : ObjectId) :
    s.hasParticipant conversationId userId ↔
      ∃ row ∈ s.rows, row.conversationId = conversationId ∧
        row.userId = userId := by
  simp [hasParticipant]

/-- One upsert of `addNoExistedParticipants`. -/
def addNoExistedParticipant (s : Collection)
    (conversationId userId : ObjectId) : Collection :=
  if hadded : s.hasParticipant conversationId userId then s
  else
    { rows := s.rows ++ [⟨s.nextId, conversationId, userId⟩]
      nextId := s.nextId + 1
      ids_below := by
        intro row hrow
        rcases List.mem_append.1 hrow with hold | hnew
        · exact Nat.lt_succ_of_lt (s.ids_below row hold)
        · rw [List.mem_singleton.1 hnew]
          exact Nat.lt_succ_self _
      ids_nodup := by
        rw [List.map_append, List.nodup_append]
        refine ⟨s.ids_nodup, by simp, ?_⟩
        intro id hid other hother
        obtain ⟨row, hrow, rfl⟩ := List.mem_map.1 hid
        simp only [List.map_cons, List.map_nil, List.mem_singleton] at hother
        rw [hother]
        exact Nat.ne_of_lt (s.ids_below row hrow)
      one_row := by
        rw [List.map_append, List.nodup_append]
        refine ⟨s.one_row, by simp, ?_⟩
        intro pair hpair other hother heq
        obtain ⟨row, hrow, rfl⟩ := List.mem_map.1 hpair
        simp only [List.map_cons, List.map_nil, List.mem_singleton] at hother
        rw [hother, Prod.mk.injEq] at heq
        exact hadded ((s.hasParticipant_iff _ _).2 ⟨row, hrow, heq⟩) }

/-- One `deleteMany` of `removeExistedParticipants`. -/
def removeExistedParticipant (s : Collection)
    (conversationId userId : ObjectId) : Collection where
  rows := s.rows.filter (fun row =>
    ¬ (row.conversationId = conversationId ∧ row.userId = userId))
  nextId := s.nextId
  ids_below := fun row hrow => s.ids_below row (List.mem_of_mem_filter hrow)
  ids_nodup := s.ids_nodup.sublist (List.filter_sublist.map _)
  one_row := s.one_row.sublist (List.filter_sublist.map _)

/-- The rows of a conversation without those of the excepted users. -/
def participants (s : Collection) (conversationId : ObjectId)
    (exceptUserIds : List ObjectId) : List Row :=
  s.rows.filter (fun row =>
    row.conversationId = conversationId ∧ row.userId ∉ exceptUserIds)

/-- Those of them that the next query may find. -/
def participantsBelow (s : Collection) (conversationId : ObjectId)
    (exceptUserIds : List ObjectId) (lastObjectId : Option ObjectId) :
    List Row :=
  match lastObjectId with
  | none => s.participants conversationId exceptUserIds
  | some last =>
      Pages.below Row.id last (s.participants conversationId exceptUserIds)

def findConversationParticipants (s : Collection)
    (conversationId : ObjectId) (exceptUserIds : List ObjectId)
    (lastObjectId : Option ObjectId) (limit : Nat) : List Row :=
  Pages.page Row.id limit
    (s.participantsBelow conversationId exceptUserIds lastObjectId)

def countConversationParticipants (s : Collection)
    (conversationId : ObjectId) (exceptUserIds : List ObjectId) : Nat :=
  (s.participants conversationId exceptUserIds).length

theorem mem_participants (s : Collection) {conversationId : ObjectId}
    {exceptUserIds : List ObjectId} {row : Row} :
    row ∈ s.participants conversationId exceptUserIds ↔
      row ∈ s.rows ∧ row.conversationId = conversationId ∧
        row.userId ∉ exceptUserIds := by
  simp [participants]

theorem mem_participantsBelow (s : Collection) {conversationId : ObjectId}
    {exceptUserIds : List ObjectId} {lastObjectId : Option ObjectId}
    {row : Row} :
    row ∈ s.participantsBelow conversationId exceptUserIds lastObjectId ↔
      row ∈ s.participants conversationId exceptUserIds ∧
        ∀ last, lastObjectId = some last → row.id < last := by
  cases lastObjectId with
  | none => simp [participantsBelow]
  | some last => simp [participantsBelow, Pages.below]

theorem participantsBelow_eq (s : Collection) (conversationId : ObjectId)
    (exceptUserIds : List ObjectId) (lastObjectId : Option ObjectId) :
    s.participantsBelow conversationId exceptUserIds lastObjectId =
      Pages.belowCursor Row.id lastObjectId
        (s.participants conversationId exceptUserIds) := by
  cases lastObjectId <;> rfl

theorem participantsBelow_sublist (s : Collection)
    (conversationId : ObjectId) (exceptUserIds : List ObjectId)
    (lastObjectId : Option ObjectId) :
    (s.participantsBelow conversationId exceptUserIds lastObjectId).Sublist
      (s.participants conversationId exceptUserIds) := by
  rw [participantsBelow_eq]
  exact Pages.belowCursor_sublist _ _

/-- Two rows of one user in one conversation are the same. -/
theorem row_unique (s : Collection) {row other : Row} (hrow : row ∈ s.rows)
    (hother : other ∈ s.rows)
    (hconversation : row.conversationId = other.conversationId)
    (huser : row.userId = other.userId) : row = other :=
  List.inj_on_of_nodup_map s.one_row hrow hother
    (Prod.ext hconversation huser)

theorem row_eq_of_id (s : Collection) {row other : Row}
    (hrow : row ∈ s.rows) (hother : other ∈ s.rows)
    (hid : row.id = other.id) : row = other :=
  List.inj_on_of_nodup_map s.ids_nodup hrow hother hid

theorem userIds_nodup (s : Collection) (conversationId : ObjectId)
    (exceptUserIds : List ObjectId) :
    ((s.participants conversationId exceptUserIds).map
      Row.userId).Nodup := by
  refine List.Nodup.map_on ?_ (s.ids_nodup.of_map.sublist List.filter_sublist)
  intro row hrow other hother huser
  rw [mem_participants] at hrow hother
  exact s.row_unique hrow.1 hother.1 (hrow.2.1.trans hother.2.1.symm) huser

/-- A new row lies above all ids given so far. -/
theorem mem_rows_add {s : Collection} {conversationId userId : ObjectId}
    {row : Row}
    (hrow : row ∈
      (s.addNoExistedParticipant conversationId userId).rows) :
    row ∈ s.rows ∨ (¬ s.hasParticipant conversationId userId ∧
      row = ⟨s.nextId, conversationId, userId⟩) := by
  unfold addNoExistedParticipant at hrow
  split at hrow
  · exact Or.inl hrow
  · rename_i hadded
    rcases List.mem_append.1 hrow with hold | hnew
    · exact Or.inl hold
    · exact Or.inr ⟨hadded, List.mem_singleton.1 hnew⟩

theorem nextId_le_add (s : Collection) (conversationId userId : ObjectId) :
    s.nextId ≤ (s.addNoExistedParticipant conversationId userId).nextId := by
  unfold addNoExistedParticipant
  split
  · exact Nat.le_refl _
  · exact Nat.le_succ _

/-- Joining does not change what lies below an id given before. -/
theorem below_add (s : Collection) (joined userId : ObjectId)
    (conversationId : ObjectId) (exceptUserIds : List ObjectId)
    {bound : ObjectId} (hbound : bound ≤ s.nextId) :
    Pages.below Row.id bound
        ((s.addNoExistedParticipant joined userId).participants
          conversationId exceptUserIds) =
      Pages.below Row.id bound
        (s.participants conversationId exceptUserIds) := by
  unfold addNoExistedParticipant
  split
  · rfl
  · simp only [participants, Pages.below, List.filter_append,
      List.append_right_eq_self, List.filter_eq_nil_iff]
    intro row hrow
    rw [List.mem_singleton.1 (List.mem_of_mem_filter hrow)]
    simpa using hbound

/-- Leaving only takes rows away. -/
theorem participants_remove_sublist (s : Collection)
    (left userId : ObjectId) (conversationId : ObjectId)
    (exceptUserIds : List ObjectId) :
    ((s.removeExistedParticipant left userId).participants conversationId
      exceptUserIds).Sublist (s.participants conversationId exceptUserIds) :=
  List.filter_sublist.filter _

section Queries

variable {s : Collection} {conversationId : ObjectId}
  {exceptUserIds : List ObjectId} {lastObjectId : Option ObjectId}
  {limit : Nat}

theorem mem_of_mem_find {row : Row}
    (hrow : row ∈ s.findConversationParticipants conversationId
      exceptUserIds lastObjectId limit) :
    row ∈ s.participantsBelow conversationId exceptUserIds lastObjectId :=
  Pages.mem_of_mem_page hrow

theorem find_eq_nil_iff (hlimit : 0 < limit) :
    s.findConversationParticipants conversationId exceptUserIds lastObjectId
        limit = [] ↔
      s.participantsBelow conversationId exceptUserIds lastObjectId = [] :=
  Pages.page_eq_nil_iff hlimit

theorem find_userIds_nodup :
    ((s.findConversationParticipants conversationId exceptUserIds
      lastObjectId limit).map Row.userId).Nodup :=
  Pages.nodup_map_page ((s.userIds_nodup conversationId
    exceptUserIds).sublist ((s.participantsBelow_sublist conversationId
      exceptUserIds lastObjectId).map Row.userId))

/-- The last row found is one of the conversation and below the bound, and
no row found has a smaller id. -/
theorem find_last {last : Row}
    (hlast : last ∈ (s.findConversationParticipants conversationId
      exceptUserIds lastObjectId limit).getLast?) :
    last ∈ s.participantsBelow conversationId exceptUserIds lastObjectId ∧
      ∀ row ∈ s.findConversationParticipants conversationId exceptUserIds
        lastObjectId limit, last.id ≤ row.id :=
  ⟨mem_of_mem_find (List.mem_of_getLast? hlast),
    fun _ hrow => Pages.last_le hlast hrow⟩

/-- A row that could have been found was found or is below the last one
found. -/
theorem find_or_below (hlimit : 0 < limit) {row : Row}
    (hrow : row ∈ s.participantsBelow conversationId exceptUserIds
      lastObjectId) :
    row ∈ s.findConversationParticipants conversationId exceptUserIds
        lastObjectId limit ∨
      ∃ last, (s.findConversationParticipants conversationId exceptUserIds
          lastObjectId limit).getLast? = some last ∧ row.id < last.id := by
  by_cases hfound : row ∈ s.findConversationParticipants conversationId
      exceptUserIds lastObjectId limit
  · exact Or.inl hfound
  · cases hlast : (s.findConversationParticipants conversationId
        exceptUserIds lastObjectId limit).getLast? with
    | none =>
        rw [List.getLast?_eq_none_iff, find_eq_nil_iff hlimit] at hlast
        rw [hlast] at hrow
        cases hrow
    | some last =>
        have hmem := (s.mem_participantsBelow.1 (find_last hlast).1).1
        have hle : row.id ≤ last.id := Pages.le_last hlast hrow hfound
        refine Or.inr ⟨last, rfl, Nat.lt_of_le_of_ne hle ?_⟩
        intro heq
        have hsame := s.row_eq_of_id
          (s.mem_participants.1 (s.mem_participantsBelow.1 hrow).1).1
          (s.mem_participants.1 hmem).1 heq
        rw [hsame] at hfound
        exact hfound (List.mem_of_getLast? hlast)

/-- What lies below a row found lies below the earlier bound too. -/
theorem participantsBelow_last {last : Row}
    (hlast : last ∈ s.participantsBelow conversationId exceptUserIds
      lastObjectId) :
    s.participantsBelow conversationId exceptUserIds (some last.id) =
      Pages.below Row.id last.id
        (s.participantsBelow conversationId exceptUserIds
          lastObjectId) := by
  rw [participantsBelow_eq] at hlast ⊢
  rw [participantsBelow_eq]
  exact Pages.belowCursor_last hlast

/-- A batch takes `limit` rows from those that are left. -/
theorem length_below_find {last : Row}
    (hlast : (s.findConversationParticipants conversationId exceptUserIds
      lastObjectId limit).getLast? = some last) :
    (s.participantsBelow conversationId exceptUserIds
        (some last.id)).length ≤
      (s.participantsBelow conversationId exceptUserIds
        lastObjectId).length - limit := by
  rw [participantsBelow_last (find_last hlast).1]
  exact Pages.length_below_last hlast

end Queries

end Collection

/-- The local variables of the iterator and the batches it has yielded.
`totalBatches` is unset until the count has answered. -/
structure Iterator where
  lastObjectId : Option ObjectId
  totalBatches : Option Nat
  i : Nat
  yielded : List (List ObjectId)
deriving DecidableEq

structure State where
  collection : Collection
  iterator : Iterator

/-- What happens between two queries of the iterator, and the queries. -/
inductive Event
  | join (conversationId userId : ObjectId)
  | leave (conversationId userId : ObjectId)
  | next
deriving DecidableEq

def start : State := ⟨.empty, ⟨none, none, 0, []⟩⟩

section Iteration

variable (conversationId : ObjectId) (exceptUserIds : List ObjectId)
  (batchSize : Nat)

/-- The iterator up to its next answer from the database: first the count,
then one batch for each turn of the loop. -/
def conversationParticipantIdsIterator (s : Collection) (it : Iterator) :
    Iterator :=
  match it.totalBatches with
  | none =>
      let totalParticipants :=
        s.countConversationParticipants conversationId exceptUserIds
      -- `Math.ceil(totalParticipants / batchSize)`
      { it with
        totalBatches := some
          ((totalParticipants + batchSize - 1) / batchSize) }
  | some totalBatches =>
      if it.i < totalBatches then
        let conversationParticipants := s.findConversationParticipants
          conversationId exceptUserIds it.lastObjectId batchSize
        { it with
          -- `undefined` for an empty batch, so the next query has no bound
          lastObjectId := conversationParticipants.getLast?.map Row.id
          i := it.i + 1
          yielded := it.yielded ++ [conversationParticipants.map Row.userId] }
      else it

def step (s : State) : Event → State
  | .join joined userId =>
      { s with
        collection := s.collection.addNoExistedParticipant joined userId }
  | .leave left userId =>
      { s with
        collection := s.collection.removeExistedParticipant left userId }
  | .next =>
      { s with
        iterator := conversationParticipantIdsIterator conversationId
          exceptUserIds batchSize s.collection s.iterator }

def run (events : List Event) : State :=
  events.foldl (step conversationId exceptUserIds batchSize) start

end Iteration

/-- The lists of users that `processDeliverUserMessage` is called with. -/
def processDeliverConversationMessage (batches : List (List ObjectId)) :
    List (List ObjectId) :=
  batches.filter (fun participantIds => participantIds.length ≠ 0)

theorem flatten_deliveries (batches : List (List ObjectId)) :
    (processDeliverConversationMessage batches).flatten =
      batches.flatten := by
  induction batches with
  | nil => rfl
  | cons batch batches ih =>
      cases batch with
      | nil => simpa [processDeliverConversationMessage] using ih
      | cons userId batch =>
          simpa [processDeliverConversationMessage] using ih

namespace Iterator

/-- The users yielded so far, in order. -/
def userIds (it : Iterator) : List ObjectId := it.yielded.flatten

def finished (it : Iterator) : Bool :=
  it.totalBatches.any (fun totalBatches => totalBatches ≤ it.i)

end Iterator

/-- The user is a participant in all states of the run since the count. -/
def StableMember (conversationId : ObjectId) (exceptUserIds : List ObjectId)
    (batchSize : Nat) (events : List Event) (userId : ObjectId) : Prop :=
  ∀ done, done <+: events →
    (run conversationId exceptUserIds batchSize
      done).iterator.totalBatches ≠ none →
    (run conversationId exceptUserIds batchSize
      done).collection.hasParticipant conversationId userId

/-- No user is yielded twice, and once the iterator has finished every
stable member that is not excepted was yielded, and the message delivered
to it, once. -/
def YieldsOnce (conversationId : ObjectId) (exceptUserIds : List ObjectId)
    (batchSize : Nat) (events : List Event) : Prop :=
  let it := (run conversationId exceptUserIds batchSize events).iterator
  it.userIds.Nodup ∧
    (it.finished → ∀ userId, userId ∉ exceptUserIds →
      StableMember conversationId exceptUserIds batchSize events userId →
      it.userIds.count userId = 1 ∧
        (processDeliverConversationMessage it.yielded).flatten.count
          userId = 1)

/-- A batch query that loses nobody: at the first one the participants fit
into the batches that were counted, and one that is not the last finds a row
below the last one yielded. -/
def SafeQuery (conversationId : ObjectId) (exceptUserIds : List ObjectId)
    (batchSize : Nat) (s : State) : Prop :=
  ∀ totalBatches ∈ s.iterator.totalBatches,
    (s.iterator.i = 0 → 0 < totalBatches →
      (s.collection.participants conversationId exceptUserIds).length ≤
        totalBatches * batchSize) ∧
    (s.iterator.i + 1 < totalBatches → s.iterator.userIds ≠ [] →
      s.collection.participantsBelow conversationId exceptUserIds
        s.iterator.lastObjectId ≠ [])

instance (conversationId : ObjectId) (exceptUserIds : List ObjectId)
    (batchSize : Nat) (s : State) :
    Decidable (SafeQuery conversationId exceptUserIds batchSize s) :=
  inferInstanceAs (Decidable (∀ totalBatches ∈ s.iterator.totalBatches,
    _ ∧ _))

/-- All batch queries of the run are safe. -/
def SafeRun (conversationId : ObjectId) (exceptUserIds : List ObjectId)
    (batchSize : Nat) (events : List Event) : Prop :=
  ∀ done, done ++ [.next] <+: events →
    SafeQuery conversationId exceptUserIds batchSize
      (run conversationId exceptUserIds batchSize done)

instance (conversationId : ObjectId) (exceptUserIds : List ObjectId)
    (batchSize : Nat) (events : List Event) :
    Decidable (SafeRun conversationId exceptUserIds batchSize events) :=
  decidable_of_iff (∀ done ∈ events.inits, done ++ [.next] <+: events →
      SafeQuery conversationId exceptUserIds batchSize
        (run conversationId exceptUserIds batchSize done))
    ⟨fun hall done hdone => hall done ((List.mem_inits _ _).2
      ((List.prefix_append done [.next]).trans hdone)) hdone,
      fun hsafe done _ => hsafe done⟩

instance (conversationId : ObjectId) (exceptUserIds : List ObjectId)
    (batchSize : Nat) (events : List Event) (userId : ObjectId) :
    Decidable (StableMember conversationId exceptUserIds batchSize events
      userId) :=
  decidable_of_iff (∀ done ∈ events.inits,
      (run conversationId exceptUserIds batchSize
        done).iterator.totalBatches ≠ none →
      (run conversationId exceptUserIds batchSize
        done).collection.hasParticipant conversationId userId)
    ⟨fun hall done hdone => hall done ((List.mem_inits _ _).2 hdone),
      fun hstable done hdone => hstable done ((List.mem_inits _ _).1 hdone)⟩

end ParticipantBatches

end SamaServer
