/-
What the batches of the participant iterator contain.  The iterator goes down
the rows of the conversation and yields nobody twice as long as it does not
start over; it reaches every stable member if the participants fit into the
counted batches when it makes its first query.
-/
import SamaServer.ParticipantBatches

namespace SamaServer

namespace ParticipantBatches

variable {conversationId : ObjectId} {exceptUserIds : List ObjectId}
  {batchSize : Nat}

/-- The iterator after a batch. -/
def Iterator.yield (it : Iterator) (batch : List Row) : Iterator :=
  { it with
    lastObjectId := batch.getLast?.map Row.id
    i := it.i + 1
    yielded := it.yielded ++ [batch.map Row.userId] }

@[simp] theorem Iterator.userIds_yield (it : Iterator) (batch : List Row) :
    (it.yield batch).userIds = it.userIds ++ batch.map Row.userId := by
  simp [Iterator.yield, Iterator.userIds]

/-- What one call of the iterator can do. -/
theorem iterator_cases (conversationId : ObjectId)
    (exceptUserIds : List ObjectId) (batchSize : Nat) (s : Collection)
    (it : Iterator) :
    (it.totalBatches = none ∧
      conversationParticipantIdsIterator conversationId exceptUserIds
          batchSize s it =
        { it with
          totalBatches := some
            (((s.participants conversationId exceptUserIds).length +
              batchSize - 1) / batchSize) }) ∨
    (∃ totalBatches, it.totalBatches = some totalBatches ∧
      it.i < totalBatches ∧
      conversationParticipantIdsIterator conversationId exceptUserIds
          batchSize s it =
        it.yield (s.findConversationParticipants conversationId
          exceptUserIds it.lastObjectId batchSize)) ∨
    (it.finished ∧
      conversationParticipantIdsIterator conversationId exceptUserIds
          batchSize s it = it) := by
  unfold conversationParticipantIdsIterator Iterator.finished
  cases htotal : it.totalBatches with
  | none => exact Or.inl ⟨rfl, rfl⟩
  | some totalBatches =>
      by_cases hmore : it.i < totalBatches
      · refine Or.inr (Or.inl ⟨totalBatches, rfl, hmore, ?_⟩)
        simp [hmore, Iterator.yield, htotal]
      · refine Or.inr (Or.inr ⟨?_, ?_⟩)
        · simpa using hmore
        · simp [hmore]

/-! ### Nobody twice -/

/-- The users yielded so far are distinct and their rows, where they still
have one, are not below the last one yielded; without a last row the iterator
has yielded nobody or makes no further query. -/
structure Orderly (conversationId : ObjectId) (s : State) : Prop where
  uncounted : s.iterator.totalBatches = none → s.iterator.i = 0
  unread : s.iterator.i = 0 →
    s.iterator.lastObjectId = none ∧ s.iterator.userIds = []
  nodup : s.iterator.userIds.Nodup
  given : ∀ last ∈ s.iterator.lastObjectId, last < s.collection.nextId
  above : ∀ last ∈ s.iterator.lastObjectId, ∀ row ∈ s.collection.rows,
    row.conversationId = conversationId →
    row.userId ∈ s.iterator.userIds → last ≤ row.id
  restart : s.iterator.lastObjectId = none →
    s.iterator.userIds = [] ∨
      ∀ totalBatches ∈ s.iterator.totalBatches, totalBatches ≤ s.iterator.i

theorem orderly_start : Orderly conversationId start where
  uncounted _ := rfl
  unread _ := ⟨rfl, rfl⟩
  nodup := by simp [start, Iterator.userIds]
  given := by simp [start]
  above := by simp [start]
  restart _ := Or.inl rfl

theorem Orderly.join {s : State} (hs : Orderly conversationId s)
    (joined userId : ObjectId) :
    Orderly conversationId
      { s with
        collection := s.collection.addNoExistedParticipant joined userId }
    where
  uncounted := hs.uncounted
  unread := hs.unread
  nodup := hs.nodup
  given last hlast :=
    Nat.lt_of_lt_of_le (hs.given last hlast)
      (s.collection.nextId_le_add joined userId)
  above last hlast row hrow hconversation hyielded := by
    rcases Collection.mem_rows_add hrow with hold | ⟨-, hnew⟩
    · exact hs.above last hlast row hold hconversation hyielded
    · rw [hnew]
      exact Nat.le_of_lt (hs.given last hlast)
  restart := hs.restart

theorem Orderly.leave {s : State} (hs : Orderly conversationId s)
    (left userId : ObjectId) :
    Orderly conversationId
      { s with
        collection := s.collection.removeExistedParticipant left userId }
    where
  uncounted := hs.uncounted
  unread := hs.unread
  nodup := hs.nodup
  given := hs.given
  above last hlast row hrow :=
    hs.above last hlast row (List.mem_of_mem_filter hrow)
  restart := hs.restart

theorem Orderly.count {s : State} (hs : Orderly conversationId s)
    (hcount : s.iterator.totalBatches = none) (total : Nat) :
    Orderly conversationId
      { s with
        iterator := { s.iterator with totalBatches := some total } } where
  uncounted := by simp
  unread := hs.unread
  nodup := hs.nodup
  given := hs.given
  above := hs.above
  restart _ := Or.inl (hs.unread (hs.uncounted hcount)).2

/-- The rows that a query may find belong to users not yielded yet. -/
theorem Orderly.fresh {s : State} (hs : Orderly conversationId s)
    {totalBatches : Nat}
    (htotal : s.iterator.totalBatches = some totalBatches)
    (hmore : s.iterator.i < totalBatches) {row : Row}
    (hrow : row ∈ s.collection.participantsBelow conversationId
      exceptUserIds s.iterator.lastObjectId) :
    row.userId ∉ s.iterator.userIds := by
  intro hyielded
  rw [Collection.mem_participantsBelow, Collection.mem_participants] at hrow
  obtain ⟨⟨hmem, hconversation, -⟩, hbelow⟩ := hrow
  cases hlast : s.iterator.lastObjectId with
  | none =>
      rcases hs.restart hlast with hnobody | hdone
      · rw [hnobody] at hyielded
        cases hyielded
      · exact Nat.not_le_of_lt hmore (hdone totalBatches htotal)
  | some last =>
      exact Nat.not_le_of_lt (hbelow last hlast)
        (hs.above last hlast row hmem hconversation hyielded)

/-- The rows of the users yielded with a batch are not below its last row. -/
theorem Orderly.above_batch {s : State} (hs : Orderly conversationId s)
    {totalBatches : Nat}
    (htotal : s.iterator.totalBatches = some totalBatches)
    (hmore : s.iterator.i < totalBatches) {lastRow row : Row}
    (hlastRow : (s.collection.findConversationParticipants conversationId
      exceptUserIds s.iterator.lastObjectId batchSize).getLast? =
        some lastRow)
    (hrow : row ∈ s.collection.rows)
    (hconversation : row.conversationId = conversationId)
    (hyielded : row.userId ∈ (s.iterator.yield
      (s.collection.findConversationParticipants conversationId
        exceptUserIds s.iterator.lastObjectId batchSize)).userIds) :
    lastRow.id ≤ row.id := by
  have hbelow := Collection.find_last hlastRow
  rw [Iterator.userIds_yield] at hyielded
  rcases List.mem_append.1 hyielded with hold | hnew
  · -- a user yielded before, whose row is above the old bound
    cases hbound : s.iterator.lastObjectId with
    | none =>
        rcases hs.restart hbound with hnobody | hdone
        · rw [hnobody] at hold
          cases hold
        · exact absurd (hdone totalBatches htotal) (Nat.not_le_of_lt hmore)
    | some bound =>
        have hlt := (s.collection.mem_participantsBelow.1 hbelow.1).2
          bound hbound
        exact Nat.le_trans (Nat.le_of_lt hlt)
          (hs.above bound hbound row hrow hconversation hold)
  · obtain ⟨found, hfound, huser⟩ := List.mem_map.1 hnew
    have hmem := (s.collection.mem_participantsBelow.1
      (Collection.mem_of_mem_find hfound)).1
    rw [Collection.mem_participants] at hmem
    rw [s.collection.row_unique hrow hmem.1
      (hconversation.trans hmem.2.1.symm) huser.symm]
    exact hbelow.2 found hfound

theorem Orderly.batch {s : State} (hs : Orderly conversationId s)
    (hlimit : 0 < batchSize) {totalBatches : Nat}
    (htotal : s.iterator.totalBatches = some totalBatches)
    (hmore : s.iterator.i < totalBatches)
    (hsafe : SafeQuery conversationId exceptUserIds batchSize s) :
    Orderly conversationId
      { s with
        iterator := s.iterator.yield
          (s.collection.findConversationParticipants conversationId
            exceptUserIds s.iterator.lastObjectId batchSize) } := by
  have hrestart := (hsafe totalBatches htotal).2
  refine ⟨?_, ?_, ?_, ?_, ?_, ?_⟩
  · intro huncounted
    change s.iterator.totalBatches = none at huncounted
    rw [htotal] at huncounted
    cases huncounted
  · intro hzero
    cases hzero
  · rw [Iterator.userIds_yield, List.nodup_append]
    refine ⟨hs.nodup, Collection.find_userIds_nodup, ?_⟩
    intro userId hold other hnew heq
    obtain ⟨row, hrow, rfl⟩ := List.mem_map.1 hnew
    rw [heq] at hold
    exact hs.fresh htotal hmore (Collection.mem_of_mem_find hrow) hold
  · intro last hlast
    obtain ⟨row, hrow, rfl⟩ := Option.mem_map.1 hlast
    have hbelow := (Collection.find_last hrow).1
    rw [Collection.mem_participantsBelow,
      Collection.mem_participants] at hbelow
    exact s.collection.ids_below row hbelow.1.1
  · intro last hlast row hrow hconversation hyielded
    obtain ⟨lastRow, hlastRow, rfl⟩ := Option.mem_map.1 hlast
    exact hs.above_batch htotal hmore hlastRow hrow hconversation hyielded
  · intro hnone
    have hempty : s.collection.findConversationParticipants conversationId
        exceptUserIds s.iterator.lastObjectId batchSize = [] :=
      List.getLast?_eq_none_iff.1 (Option.map_eq_none_iff.1 hnone)
    by_cases hnobody : s.iterator.userIds = []
    · left
      rw [Iterator.userIds_yield, hnobody, hempty]
      rfl
    · right
      intro total htotal'
      change total ∈ s.iterator.totalBatches at htotal'
      rw [htotal, Option.mem_some_iff] at htotal'
      subst htotal'
      change totalBatches ≤ s.iterator.i + 1
      by_contra hlate
      exact hrestart (Nat.lt_of_not_le hlate) hnobody
        ((Collection.find_eq_nil_iff hlimit).1 hempty)

theorem Orderly.next {s : State} (hs : Orderly conversationId s)
    (hlimit : 0 < batchSize)
    (hsafe : SafeQuery conversationId exceptUserIds batchSize s) :
    Orderly conversationId
      (step conversationId exceptUserIds batchSize s .next) := by
  rcases iterator_cases conversationId exceptUserIds batchSize
      s.collection s.iterator with
    ⟨hcount, heq⟩ | ⟨totalBatches, htotal, hmore, heq⟩ | ⟨-, heq⟩
  · rw [step, heq]
    exact hs.count hcount _
  · rw [step, heq]
    exact hs.batch hlimit htotal hmore hsafe
  · rw [step, heq]
    exact hs

/-! ### Nobody missed -/

/-- For a participant that is not excepted the iterator has a batch to make,
and once it has made one, the participant was yielded or is among the rows
below the last one yielded, which fit into the batches that are left. -/
structure Reaches (conversationId : ObjectId) (exceptUserIds : List ObjectId)
    (batchSize : Nat) (userId : ObjectId) (totalBatches : Nat) (s : State) :
    Prop where
  total_pos : 0 < totalBatches
  reached : 0 < s.iterator.i → userId ∈ s.iterator.userIds ∨
    ∃ last, s.iterator.lastObjectId = some last ∧
      (∀ row ∈ s.collection.rows, row.conversationId = conversationId →
        row.userId = userId → row.id < last) ∧
      (s.collection.participantsBelow conversationId exceptUserIds
          (some last)).length ≤ (totalBatches - s.iterator.i) * batchSize

variable {userId : ObjectId} {totalBatches : Nat} {s : State}

theorem Reaches.join
    (hs : Reaches conversationId exceptUserIds batchSize userId totalBatches
      s)
    (horderly : Orderly conversationId s)
    (hmember : s.collection.hasParticipant conversationId userId)
    (joined joinedId : ObjectId) :
    Reaches conversationId exceptUserIds batchSize userId totalBatches
      { s with
        collection :=
          s.collection.addNoExistedParticipant joined joinedId } := by
  refine ⟨hs.total_pos, fun hread => ?_⟩
  rcases hs.reached hread with hyielded | ⟨last, hlast, hrows, hfits⟩
  · exact Or.inl hyielded
  · refine Or.inr ⟨last, hlast, ?_, ?_⟩
    · intro row hrow hconversation huser
      rcases Collection.mem_rows_add hrow with hold | ⟨hadded, hnew⟩
      · exact hrows row hold hconversation huser
      · subst hnew
        simp only at hconversation huser
        rw [hconversation, huser] at hadded
        exact absurd hmember hadded
    · have hgiven := horderly.given last hlast
      have hsame := s.collection.below_add joined joinedId conversationId
        exceptUserIds (Nat.le_of_lt hgiven)
      simp only [Collection.participantsBelow] at hfits ⊢
      rw [hsame]
      exact hfits

theorem Reaches.leave
    (hs : Reaches conversationId exceptUserIds batchSize userId totalBatches
      s) (left leftId : ObjectId) :
    Reaches conversationId exceptUserIds batchSize userId totalBatches
      { s with
        collection :=
          s.collection.removeExistedParticipant left leftId } := by
  refine ⟨hs.total_pos, fun hread => ?_⟩
  rcases hs.reached hread with hyielded | ⟨last, hlast, hrows, hfits⟩
  · exact Or.inl hyielded
  · refine Or.inr ⟨last, hlast, ?_, ?_⟩
    · intro row hrow
      exact hrows row (List.mem_of_mem_filter hrow)
    · exact Nat.le_trans ((s.collection.participants_remove_sublist left
        leftId conversationId exceptUserIds).filter _).length_le hfits

/-- The count leaves a batch for a participant. -/
theorem total_pos_of_member (hlimit : 0 < batchSize)
    (hexcept : userId ∉ exceptUserIds)
    (hmember : s.collection.hasParticipant conversationId userId) :
    0 < ((s.collection.participants conversationId exceptUserIds).length +
      batchSize - 1) / batchSize := by
  obtain ⟨row, hrow, hconversation, huser⟩ :=
    (s.collection.hasParticipant_iff conversationId userId).1 hmember
  have hpos : 0 < (s.collection.participants conversationId
      exceptUserIds).length := by
    apply List.length_pos_of_mem (a := row)
    rw [Collection.mem_participants, huser]
    exact ⟨hrow, hconversation, hexcept⟩
  apply Nat.div_pos
  · omega
  · exact hlimit

/-- A batch that is read while the rows below the bound, with that of the
participant among them, fit into the batches left. -/
theorem reached_of_fits (hlimit : 0 < batchSize)
    (hmore : s.iterator.i < totalBatches) {row : Row}
    (hrow : row ∈ s.collection.participantsBelow conversationId
      exceptUserIds s.iterator.lastObjectId)
    (hfits : (s.collection.participantsBelow conversationId exceptUserIds
      s.iterator.lastObjectId).length ≤
        (totalBatches - s.iterator.i) * batchSize) :
    let batch := s.collection.findConversationParticipants conversationId
      exceptUserIds s.iterator.lastObjectId batchSize
    row ∈ batch ∨
      ∃ last, batch.getLast? = some last ∧ row.id < last.id ∧
        (s.collection.participantsBelow conversationId exceptUserIds
            (some last.id)).length ≤
          (totalBatches - (s.iterator.i + 1)) * batchSize := by
  rcases Collection.find_or_below hlimit hrow with hfound | ⟨last, hlast, hlt⟩
  · exact Or.inl hfound
  · refine Or.inr ⟨last, hlast, hlt, ?_⟩
    obtain ⟨left, hleft⟩ :=
      Nat.exists_eq_add_of_lt (Nat.sub_pos_of_lt hmore)
    have hafter : totalBatches - (s.iterator.i + 1) = left := by omega
    have hcut := Collection.length_below_find hlast
    rw [hleft, Nat.zero_add, Nat.add_mul, Nat.one_mul] at hfits
    rw [hafter]
    omega

theorem Reaches.batch
    (hs : Reaches conversationId exceptUserIds batchSize userId totalBatches
      s)
    (horderly : Orderly conversationId s) (hlimit : 0 < batchSize)
    (hexcept : userId ∉ exceptUserIds)
    (hmember : s.collection.hasParticipant conversationId userId)
    (htotal : s.iterator.totalBatches = some totalBatches)
    (hmore : s.iterator.i < totalBatches)
    (hsafe : SafeQuery conversationId exceptUserIds batchSize s) :
    Reaches conversationId exceptUserIds batchSize userId totalBatches
      { s with
        iterator := s.iterator.yield
          (s.collection.findConversationParticipants conversationId
            exceptUserIds s.iterator.lastObjectId batchSize) } := by
  refine ⟨hs.total_pos, fun _ => ?_⟩
  rw [Iterator.userIds_yield]
  by_cases hyielded : userId ∈ s.iterator.userIds
  · exact Or.inl (List.mem_append_left _ hyielded)
  obtain ⟨row, hrow, hconversation, huser⟩ :=
    (s.collection.hasParticipant_iff conversationId userId).1 hmember
  have hparticipant : row ∈ s.collection.participants conversationId
      exceptUserIds := by
    rw [Collection.mem_participants, huser]
    exact ⟨hrow, hconversation, hexcept⟩
  -- the row is below the bound, and what is below the bound fits
  have hready : row ∈ s.collection.participantsBelow conversationId
        exceptUserIds s.iterator.lastObjectId ∧
      (s.collection.participantsBelow conversationId exceptUserIds
        s.iterator.lastObjectId).length ≤
          (totalBatches - s.iterator.i) * batchSize := by
    rcases Nat.eq_zero_or_pos s.iterator.i with hfirst | hlater
    · rw [(horderly.unread hfirst).1, hfirst]
      exact ⟨hparticipant,
        (hsafe totalBatches htotal).1 hfirst hs.total_pos⟩
    · rcases hs.reached hlater with hold | ⟨last, hlast, hrows, hfits⟩
      · exact absurd hold hyielded
      · rw [hlast, Collection.mem_participantsBelow]
        refine ⟨⟨hparticipant, ?_⟩, hfits⟩
        intro bound hbound
        rw [← Option.some.inj hbound]
        exact hrows row hrow hconversation huser
  rcases reached_of_fits hlimit hmore hready.1 hready.2 with
    hfound | ⟨last, hlast, hlt, hfits⟩
  · left
    rw [← huser]
    exact List.mem_append_right _ (List.mem_map_of_mem hfound)
  · right
    refine ⟨last.id, by simp [Iterator.yield, hlast], ?_, hfits⟩
    intro other hother hconversation' huser'
    rw [s.collection.row_unique hother hrow
      (hconversation'.trans hconversation.symm) (huser'.trans huser.symm)]
    exact hlt

/-! ### Runs -/

theorem run_concat (events : List Event) (last : Event) :
    run conversationId exceptUserIds batchSize (events ++ [last]) =
      step conversationId exceptUserIds batchSize
        (run conversationId exceptUserIds batchSize events) last := by
  simp [run]

theorem SafeRun.of_prefix {done events : List Event}
    (hsafe : SafeRun conversationId exceptUserIds batchSize events)
    (hdone : done <+: events) :
    SafeRun conversationId exceptUserIds batchSize done :=
  fun _ hearly => hsafe _ (hearly.trans hdone)

theorem run_orderly (hlimit : 0 < batchSize) (events : List Event)
    (hsafe : SafeRun conversationId exceptUserIds batchSize events) :
    Orderly conversationId
      (run conversationId exceptUserIds batchSize events) := by
  induction events using List.reverseRecOn with
  | nil => exact orderly_start
  | append_singleton events last ih =>
      have hbefore := ih (hsafe.of_prefix (List.prefix_append events [last]))
      rw [run_concat]
      cases last with
      | join joined joinedId => exact hbefore.join joined joinedId
      | leave left leftId => exact hbefore.leave left leftId
      | next =>
          exact hbefore.next hlimit (hsafe events (List.prefix_refl _))

theorem StableMember.of_prefix {done events : List Event}
    (hstable : StableMember conversationId exceptUserIds batchSize events
      userId) (hdone : done <+: events) :
    StableMember conversationId exceptUserIds batchSize done userId :=
  fun early hearly => hstable early (hearly.trans hdone)

theorem run_reaches (hlimit : 0 < batchSize)
    (hexcept : userId ∉ exceptUserIds) (events : List Event)
    (hsafe : SafeRun conversationId exceptUserIds batchSize events)
    (hstable : StableMember conversationId exceptUserIds batchSize events
      userId) (totalBatches : Nat)
    (htotal : (run conversationId exceptUserIds batchSize
      events).iterator.totalBatches = some totalBatches) :
    Reaches conversationId exceptUserIds batchSize userId totalBatches
      (run conversationId exceptUserIds batchSize events) := by
  induction events using List.reverseRecOn generalizing totalBatches with
  | nil => cases htotal
  | append_singleton events last ih =>
      have hprefix := List.prefix_append events [last]
      have hsafe' := hsafe.of_prefix hprefix
      have hbefore := ih hsafe' (hstable.of_prefix hprefix)
      have horderly := run_orderly hlimit events hsafe'
      have hmember : (run conversationId exceptUserIds batchSize
          events).iterator.totalBatches = some totalBatches →
          (run conversationId exceptUserIds batchSize
            events).collection.hasParticipant conversationId userId :=
        fun hcounted => hstable events hprefix (by simp [hcounted])
      have hafter := hstable _ (List.prefix_refl _) (by simp [htotal])
      rw [run_concat] at htotal hafter ⊢
      cases last with
      | join joined joinedId =>
          exact (hbefore totalBatches htotal).join horderly
            (hmember htotal) joined joinedId
      | leave left leftId =>
          exact (hbefore totalBatches htotal).leave left leftId
      | next =>
          rcases iterator_cases conversationId exceptUserIds batchSize
              (run conversationId exceptUserIds batchSize events).collection
              (run conversationId exceptUserIds batchSize events).iterator
            with ⟨hcount, heq⟩ | ⟨total, hcounted, hmore, heq⟩ | ⟨-, heq⟩
          · -- the count: no batch has been read
            rw [step, heq] at htotal hafter ⊢
            have hunread := horderly.uncounted hcount
            refine ⟨?_, fun hread => ?_⟩
            · rw [← Option.some.inj htotal]
              exact total_pos_of_member hlimit hexcept hafter
            · exact absurd hread (by simp [hunread])
          · rw [step, heq] at htotal ⊢
            have hsame : total = totalBatches :=
              Option.some.inj (hcounted.symm.trans htotal)
            subst hsame
            exact (hbefore total hcounted).batch horderly hlimit hexcept
              (hmember hcounted) hcounted hmore
              (hsafe events (List.prefix_refl _))
          · rw [step, heq] at htotal ⊢
            exact hbefore totalBatches htotal

/-- Once no batch is left, a stable member has been yielded. -/
theorem Reaches.mem_userIds
    (hs : Reaches conversationId exceptUserIds batchSize userId totalBatches
      s) (hexcept : userId ∉ exceptUserIds)
    (hmember : s.collection.hasParticipant conversationId userId)
    (hdone : totalBatches ≤ s.iterator.i) :
    userId ∈ s.iterator.userIds := by
  rcases hs.reached (Nat.lt_of_lt_of_le hs.total_pos hdone) with
    hyielded | ⟨last, -, hrows, hfits⟩
  · exact hyielded
  · obtain ⟨row, hrow, hconversation, huser⟩ :=
      (s.collection.hasParticipant_iff conversationId userId).1 hmember
    have hbelow : row ∈ s.collection.participantsBelow conversationId
        exceptUserIds (some last) := by
      rw [Collection.mem_participantsBelow, Collection.mem_participants]
      refine ⟨⟨hrow, hconversation, huser ▸ hexcept⟩, ?_⟩
      intro bound hbound
      rw [← Option.some.inj hbound]
      exact hrows row hrow hconversation huser
    have hpos := List.length_pos_of_mem hbelow
    rw [Nat.sub_eq_zero_of_le hdone, Nat.zero_mul] at hfits
    omega

/-- Whatever joins and leaves happen between the queries of the iterator, as
long as they leave its batch queries safe it yields every stable member once
and nobody twice. -/
theorem iterator_yields_stable_members_once (conversationId : ObjectId)
    (exceptUserIds : List ObjectId) (batchSize : Nat)
    (hsize : 1 ≤ batchSize) (events : List Event)
    (hsafe : SafeRun conversationId exceptUserIds batchSize events) :
    ∀ done, done <+: events →
      YieldsOnce conversationId exceptUserIds batchSize done := by
  intro done hdone
  have hsafe' := hsafe.of_prefix hdone
  have horderly := run_orderly hsize done hsafe'
  refine ⟨horderly.nodup, ?_⟩
  intro hfinished userId hexcept hstable
  obtain ⟨totalBatches, htotal, hlast⟩ :=
    (Option.any_eq_true _ _).1 hfinished
  have hmember := hstable done (List.prefix_refl _) (by simp [htotal])
  have hreaches := run_reaches hsize hexcept done hsafe' hstable
    totalBatches htotal
  have honce := List.count_eq_one_of_mem horderly.nodup
    (hreaches.mem_userIds hexcept hmember (by simpa using hlast))
  refine ⟨honce, ?_⟩
  rw [flatten_deliveries]
  exact honce

/-- Two participants, one of which leaves while the batches are read. -/
theorem iterator_yields_stable_members_once_two :
    YieldsOnce 0 [] 1
      [.join 0 1, .join 0 2, .next, .next, .leave 0 2, .next] :=
  iterator_yields_stable_members_once 0 [] 1 (by decide)
    [.join 0 1, .join 0 2, .next, .next, .leave 0 2, .next]
    (by decide) _ (List.prefix_refl _)

/-- A user who joins after the count takes the only batch from the member
who was counted. -/
theorem iterator_misses_stable_member :
    ¬ ∀ (conversationId : ObjectId) (exceptUserIds : List ObjectId)
      (batchSize : Nat), 1 ≤ batchSize → ∀ events : List Event,
        YieldsOnce conversationId exceptUserIds batchSize events := by
  intro hall
  have honce := (hall 0 [] 1 (by decide)
    [.join 0 1, .next, .join 0 2, .next]).2 (by decide) 1 (by decide)
    (by decide)
  exact absurd honce.1 (by decide)

/-- An empty batch that is not the last one makes the iterator start over. -/
example : (run 0 [] 1 [.join 0 1, .join 0 2, .join 0 3, .join 0 4, .next,
    .next, .leave 0 1, .leave 0 2, .leave 0 3, .next, .next]).iterator.yielded
      = [[4], [], [4]] := by decide

end ParticipantBatches

end SamaServer
