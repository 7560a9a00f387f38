/-
The participant iterator over rows that do not change.  After each turn of
its loop the rows below its cursor are what the batches so far have not
taken, so the batches cut the descending rows into pieces of the batch size.
-/
import SamaServer.StableParticipants

namespace SamaServer

namespace ParticipantBatches

open Pages (piece pieces)

variable {conversationId : ObjectId} {exceptUserIds : List ObjectId}
  {batchSize : Nat}

/-- The iterator before its first query. -/
def Iterator.fresh : Iterator := ⟨none, none, 0, []⟩

namespace Collection

variable (s : Collection)

/-- The rows that the iterator goes through, from the newest one down. -/
def sortedParticipants (conversationId : ObjectId)
    (exceptUserIds : List ObjectId) : List Row :=
  Pages.descending Row.id (s.participants conversationId exceptUserIds)

theorem participantIds_nodup (conversationId : ObjectId)
    (exceptUserIds : List ObjectId) (lastObjectId : Option ObjectId) :
    ((s.participantsBelow conversationId exceptUserIds lastObjectId).map
      Row.id).Nodup :=
  s.ids_nodup.sublist (((s.participantsBelow_sublist conversationId
    exceptUserIds lastObjectId).trans List.filter_sublist).map Row.id)

theorem mem_sortedParticipants {row : Row} :
    row ∈ s.sortedParticipants conversationId exceptUserIds ↔
      row ∈ s.rows ∧ row.conversationId = conversationId ∧
        row.userId ∉ exceptUserIds := by
  rw [sortedParticipants, (Pages.descending_perm _ _).mem_iff,
    mem_participants]

theorem length_sortedParticipants :
    (s.sortedParticipants conversationId exceptUserIds).length =
      (s.participants conversationId exceptUserIds).length :=
  (Pages.descending_perm _ _).length_eq

end Collection

/-- The iterator has made `i` of its batches over the rows of `s`. -/
structure CutUpTo (s : Collection) (conversationId : ObjectId)
    (exceptUserIds : List ObjectId) (batchSize i : Nat) (it : Iterator) :
    Prop where
  counted : it.totalBatches = some
    ((s.sortedParticipants conversationId exceptUserIds).length ⌈/⌉
      batchSize)
  turn : it.i = i
  yielded : it.yielded = (pieces batchSize (s.sortedParticipants
    conversationId exceptUserIds) i).map (List.map Row.userId)
  left : Pages.descending Row.id (s.participantsBelow conversationId
      exceptUserIds it.lastObjectId) =
    (s.sortedParticipants conversationId exceptUserIds).drop (i * batchSize)

variable {s : Collection} {i : Nat} {it : Iterator}

theorem cutUpTo_count (s : Collection) (conversationId : ObjectId)
    (exceptUserIds : List ObjectId) (batchSize : Nat) :
    CutUpTo s conversationId exceptUserIds batchSize 0
      (conversationParticipantIdsIterator conversationId exceptUserIds
        batchSize s .fresh) where
  counted := by
    rw [s.length_sortedParticipants, Nat.ceilDiv_eq_add_pred_div]
    rfl
  turn := rfl
  yielded := rfl
  left := by
    rw [Nat.zero_mul, List.drop_zero]
    rfl

/-- The batch read after `i` batches is the next piece. -/
theorem CutUpTo.find
    (hcut : CutUpTo s conversationId exceptUserIds batchSize i it) :
    s.findConversationParticipants conversationId exceptUserIds
        it.lastObjectId batchSize =
      piece batchSize (s.sortedParticipants conversationId exceptUserIds)
        i := by
  rw [Collection.findConversationParticipants, Pages.page, hcut.left, piece]

theorem CutUpTo.next (hbatch : 0 < batchSize)
    (hcut : CutUpTo s conversationId exceptUserIds batchSize i it)
    (hmore : i < (s.sortedParticipants conversationId
      exceptUserIds).length ⌈/⌉ batchSize) :
    CutUpTo s conversationId exceptUserIds batchSize (i + 1)
      (conversationParticipantIdsIterator conversationId exceptUserIds
        batchSize s it) := by
  have hturn : conversationParticipantIdsIterator conversationId
      exceptUserIds batchSize s it = it.yield
        (piece batchSize (s.sortedParticipants conversationId
          exceptUserIds) i) := by
    simp [conversationParticipantIdsIterator, Iterator.yield, hcut.counted,
      hcut.turn, hmore, hcut.find]
  rw [hturn]
  refine ⟨hcut.counted, congrArg Nat.succ hcut.turn, ?_, ?_⟩
  · simp [Iterator.yield, hcut.yielded, Pages.pieces_succ]
  · -- the batch is not empty, so the cursor is its last row
    have hne := List.ne_nil_of_length_pos (Pages.length_piece_pos hbatch hmore)
    obtain ⟨last, hlast⟩ : ∃ last, (piece batchSize
        (s.sortedParticipants conversationId exceptUserIds) i).getLast? =
          some last := ⟨_, List.getLast?_eq_some_getLast hne⟩
    have hpage := hlast
    rw [← hcut.find, Collection.findConversationParticipants] at hpage
    have hdrop := Pages.descending_below_last
      (s.participantIds_nodup _ _ _) hpage
    rw [← Collection.participantsBelow_last (Collection.find_last hpage).1,
      hcut.left, List.drop_drop, ← Nat.succ_mul] at hdrop
    simpa [Iterator.yield, hlast] using hdrop

/-- The iterator after a number of calls over the same rows. -/
def callsOver (s : Collection) (conversationId : ObjectId)
    (exceptUserIds : List ObjectId) (batchSize : Nat) : Nat → Iterator
  | 0 => .fresh
  | calls + 1 =>
      conversationParticipantIdsIterator conversationId exceptUserIds
        batchSize s
        (callsOver s conversationId exceptUserIds batchSize calls)

theorem cutUpTo_callsOver (hbatch : 0 < batchSize)
    (hi : i ≤ (s.sortedParticipants conversationId
      exceptUserIds).length ⌈/⌉ batchSize) :
    CutUpTo s conversationId exceptUserIds batchSize i
      (callsOver s conversationId exceptUserIds batchSize (i + 1)) := by
  induction i with
  | zero => exact cutUpTo_count s conversationId exceptUserIds batchSize
  | succ i ih => exact (ih (Nat.le_of_lt hi)).next hbatch hi

theorem iterator_of_finished (hfinished : it.finished) :
    conversationParticipantIdsIterator conversationId exceptUserIds
      batchSize s it = it := by
  obtain ⟨total, htotal, hdone⟩ := (Option.any_eq_true _ _).1 hfinished
  have hstop : ¬ it.i < total := by simpa using hdone
  simp [conversationParticipantIdsIterator, htotal, hstop]

/-- A finished iterator makes no further batch. -/
theorem callsOver_finished {calls : Nat}
    (hfinished : (callsOver s conversationId exceptUserIds batchSize
      calls).finished) (more : Nat) :
    callsOver s conversationId exceptUserIds batchSize (calls + more) =
      callsOver s conversationId exceptUserIds batchSize calls := by
  induction more with
  | zero => rfl
  | succ more ih =>
      rw [← Nat.add_assoc, callsOver, ih]
      exact iterator_of_finished hfinished

/-- Over fixed rows the iterator finishes with `ceil(n / batchSize)` batches.
None is empty, all but the last are full, and together they are the users of
the rows by descending row ids, each user once. -/
theorem conversationParticipantIdsIterator_fixed (s : Collection)
    (conversationId : ObjectId) (exceptUserIds : List ObjectId)
    {batchSize : Nat} (hbatch : 1 ≤ batchSize) :
    ∃ (calls : Nat) (batches : List (List ObjectId)) (sorted : List Row),
      (callsOver s conversationId exceptUserIds batchSize
        calls).finished ∧
      (∀ more, (callsOver s conversationId exceptUserIds batchSize
        (calls + more)).yielded = batches) ∧
      (∀ row, row ∈ sorted ↔ row ∈ s.rows ∧
        row.conversationId = conversationId ∧
        row.userId ∉ exceptUserIds) ∧
      sorted.Pairwise (fun row next => next.id < row.id) ∧
      batches.length = sorted.length ⌈/⌉ batchSize ∧
      (∀ batch ∈ batches, batch ≠ [] ∧ batch.length ≤ batchSize) ∧
      (∀ batch ∈ batches.dropLast, batch.length = batchSize) ∧
      batches.flatten = sorted.map Row.userId ∧
      batches.flatten.Nodup := by
  let sorted := s.sortedParticipants conversationId exceptUserIds
  let total := sorted.length ⌈/⌉ batchSize
  have hcut : CutUpTo s conversationId exceptUserIds batchSize total _ :=
    cutUpTo_callsOver hbatch (Nat.le_refl _)
  have hfinished : (callsOver s conversationId exceptUserIds batchSize
      (total + 1)).finished := by
    simp [Iterator.finished, hcut.counted, hcut.turn, total, sorted]
  have hflatten : ((pieces batchSize sorted total).map
      (List.map Row.userId)).flatten = sorted.map Row.userId := by
    rw [← List.map_flatten, Pages.flatten_pieces_all hbatch]
  refine ⟨total + 1, _, sorted, hfinished, ?_,
    fun row => s.mem_sortedParticipants, ?_, ?_, ?_, ?_, hflatten, ?_⟩
  · intro more
    rw [callsOver_finished hfinished more]
    exact hcut.yielded
  · exact Pages.descending_strict (s.participantIds_nodup _ _ none)
  · rw [List.length_map, Pages.length_pieces]
  · intro batch hmem
    obtain ⟨rows, hrows, rfl⟩ := List.mem_map.1 hmem
    obtain ⟨hnonempty, hlength⟩ := Pages.length_of_mem_pieces hbatch hrows
    rw [List.length_map]
    exact ⟨mt List.map_eq_nil_iff.1 hnonempty, hlength⟩
  · intro batch hmem
    rw [← List.map_dropLast] at hmem
    obtain ⟨rows, hrows, rfl⟩ := List.mem_map.1 hmem
    rw [List.length_map]
    exact Pages.length_of_mem_dropLast_pieces hbatch hrows
  · rw [hflatten]
    exact ((Pages.descending_perm Row.id _).map Row.userId).nodup_iff.2
      (s.userIds_nodup conversationId exceptUserIds)

/-- A conversation with three participants. -/
def threeParticipants : Collection :=
  ((Collection.empty.addNoExistedParticipant 0 1).addNoExistedParticipant
    0 2).addNoExistedParticipant 0 3

theorem conversationParticipantIdsIterator_three :
    ∃ calls, (callsOver threeParticipants 0 [] 2 calls).finished ∧
      (callsOver threeParticipants 0 [] 2 calls).userIds.Nodup := by
  obtain ⟨calls, batches, sorted, hfinished, hyielded, -, -, -, -, -, -,
    hnodup⟩ := conversationParticipantIdsIterator_fixed threeParticipants 0
      [] (show 1 ≤ 2 by decide)
  have hlast := hyielded 0
  refine ⟨calls, hfinished, ?_⟩
  rw [Iterator.userIds, ← Nat.add_zero calls, hlast]
  exact hnodup

example : (callsOver threeParticipants 0 [] 2 3).yielded =
    [[3, 2], [1]] := by
  decide

end ParticipantBatches

end SamaServer
