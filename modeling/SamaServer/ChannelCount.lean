/-
The count of a channel and its rows while requests overlap.  A request reads
the document of the channel, changes rows one by one, and writes a count that
it computes from the one it has read.
-/
import SamaServer.ConversationSteps
import SamaServer.Ledger
import SamaServer.SharedRequests

namespace SamaServer

namespace ConversationStore

open Fallible ConversationService

variable {s t : ConversationStore} {config : ConversationConfig}
  {session : ConversationSession} {c : ObjectId} {limit : Nat}

/-- The stored count of a channel, if it is stored, and the number of its
rows. -/
structure Tally where
  count : Option SubscribersCount
  rows : Int
deriving DecidableEq

def tally (c : ObjectId) (s : ConversationStore) : Tally :=
  ⟨(s.conversations.get? c).map Conversation.subscribersCount,
    (s.userIdsOf c).length⟩

/-- The count is the number of rows, which is within the limit; a channel that
is gone has no rows. -/
def Tally.IsRight (limit : Nat) (tally : Tally) : Prop :=
  match tally.count with
  | none => tally.rows = 0
  | some count => count = .int tally.rows ∧ tally.rows ≤ limit

/-- One row for each user, and no other type of conversation. -/
structure IsChannel (c : ObjectId) (s : ConversationStore) : Prop where
  nodup : (s.userIdsOf c).Nodup
  type : ∀ stored, s.conversations.get? c = some stored → stored.type = .c

/-- The section of a request begins when it has read the channel and ends with
its last count. -/
def channelLedger (limit : Nat) (c : ObjectId) :
    Ledger HeldConversation ConversationStore Tally where
  inside held := held = some c
  view := tally c
  sound := IsChannel c
  balanced := Tally.IsRight limit

theorem view_channelLedger (s : ConversationStore) :
    (channelLedger limit c).view s = tally c s := rfl

/-! ### Steps that leave a channel alone -/

/-- Neither the count nor the users of a channel change. -/
structure LeavesChannel (c : ObjectId) (before after : ConversationStore) :
    Prop where
  document : ∀ stored, after.conversations.get? c = some stored →
    ∃ old, before.conversations.get? c = some old ∧ stored.type = old.type
  count : (after.conversations.get? c).map Conversation.subscribersCount =
    (before.conversations.get? c).map Conversation.subscribersCount
  userIds : after.userIdsOf c = before.userIdsOf c

theorem LeavesChannel.of_eq
    (hget : t.conversations.get? c = s.conversations.get? c)
    (hids : t.userIdsOf c = s.userIdsOf c) : LeavesChannel c s t where
  document := fun stored hstored => ⟨stored, hget ▸ hstored, rfl⟩
  count := by rw [hget]
  userIds := hids

theorem LeavesChannel.refl (c : ObjectId) (s : ConversationStore) :
    LeavesChannel c s s := .of_eq rfl rfl

theorem OnlyAt.leavesChannel {other : ObjectId} (honly : OnlyAt other s t)
    (hne : c ≠ other) : LeavesChannel c s t :=
  .of_eq (honly.conversations c hne) (honly.userIds c hne)

/-- A write of another field of the document. -/
theorem leavesChannel_updateConversation (s : ConversationStore)
    (c other : ObjectId) (update : Conversation → Conversation)
    (htype : ∀ params, (update params).type = params.type)
    (hcount : ∀ params, (update params).subscribersCount =
      params.subscribersCount) :
    LeavesChannel c s (s.updateConversation other update) := by
  refine ⟨?_, ?_, rfl⟩
  · intro stored hstored
    rw [get?_updateConversation, Option.map_eq_some_iff] at hstored
    obtain ⟨old, hold, rfl⟩ := hstored
    refine ⟨old, hold, ?_⟩
    split
    · exact htype old
    · rfl
  · rw [get?_updateConversation, Option.map_map]
    congr 1
    funext params
    rw [Function.comp_apply]
    split
    · exact hcount params
    · rfl

theorem LeavesChannel.isChannel (hleaves : LeavesChannel c s t)
    (hchannel : IsChannel c s) : IsChannel c t where
  nodup := by
    rw [hleaves.userIds]
    exact hchannel.nodup
  type := by
    intro stored hstored
    obtain ⟨old, hold, htype⟩ := hleaves.document stored hstored
    rw [htype]
    exact hchannel.type old hold

theorem LeavesChannel.tally (hleaves : LeavesChannel c s t) :
    tally c t = tally c s := by
  rw [ConversationStore.tally, ConversationStore.tally, hleaves.count,
    hleaves.userIds]

/-- A program none of whose steps concerns the channel. -/
theorem settles_of_leavesChannel {A : Type} {program : ConversationProgram A}
    (hprogram : program.Guarantees (LeavesChannel c)) (seen : Tally) :
    (channelLedger limit c).SettlesOr (fun owes _ _ => ¬ owes) program False
      seen := by
  have hsettles : (channelLedger limit c).Settles (fun owes _ _ => ¬ owes)
      program False seen :=
    Ledger.settles_of_guarantees
      (Async.Guarantees.mono hprogram (fun _ _ _ hleaves hchannel =>
        ⟨hleaves.isChannel hchannel, hleaves.tally⟩)) seen
  refine Ledger.Settles.mono hsettles ?_
  intro owes _ result hresult
  cases result <;> exact hresult

/-! ### Programs that work on one conversation -/

theorem onlyAt_dropRows (s : ConversationStore) (c : ObjectId)
    (userId : StoredId) : OnlyAt c s (s.dropRows c userId) where
  users := rfl
  nextId := Nat.le_refl _
  conversations := fun _ _ => rfl
  userIds := by
    intro other hother
    rw [userIdsOf, rowsOf_dropRows, if_neg (Ne.symm hother), userIdsOf]

theorem writesAt_onlyAt (c : ObjectId) : WritesAt c (OnlyAt c) where
  refl := .refl c
  addRow := fun s userId role => .of_extends (extends_addRow s c userId role)
  dropRows := fun s userId => onlyAt_dropRows s c userId
  updateConversation := fun s update => .updateConversation s c update
  deleteConversation := fun s => .deleteConversation s c
  assignRole := fun s participantIds role => ⟨rfl, Nat.le_refl _,
    fun _ _ => rfl,
    fun other _ => userIdsOf_assignRole s c other participantIds role⟩

/-! ### Inside the section -/

/-- What a request knows after it has added or removed rows: so many more than
there were when it read the channel.  It owes a count for them. -/
structure Changed (limit : Nat) (start : Tally) (change : Int) (owes : Prop)
    (seen : Tally) : Prop where
  owes : owes ↔ change ≠ 0
  seen : seen = ⟨start.count, start.rows + change⟩
  right : change ≠ 0 → start.IsRight limit

theorem changed_zero {start : Tally} {owes : Prop} (hsettled : ¬ owes) :
    Changed limit start 0 owes start where
  owes := by simp [hsettled]
  seen := by simp
  right := by simp

/-- The rows may be changed only where the count was right at first. -/
theorem Changed.isRight {start seen : Tally} {change : Int} {owes : Prop}
    (hchanged : Changed limit start change owes seen)
    (hmay : owes ∨ seen.IsRight limit) : start.IsRight limit := by
  by_cases hzero : change = 0
  · rcases hmay with howes | hright
    · exact absurd hzero (hchanged.owes.1 howes)
    · rw [hchanged.seen, hzero, Int.add_zero] at hright
      exact hright
  · exact hchanged.right hzero

/-- One more change in the same direction. -/
theorem Changed.next {start seen : Tally} {change : Int} {owes : Prop}
    (hchanged : Changed limit start change owes seen)
    (hmay : owes ∨ seen.IsRight limit) (further : Int)
    (hnonzero : change + further ≠ 0) :
    Changed limit start (change + further) True
      ⟨seen.count, seen.rows + further⟩ where
  owes := by simp [hnonzero]
  seen := by rw [hchanged.seen, Int.add_assoc]
  right := fun _ => hchanged.isRight hmay

theorem rows_tally (s : ConversationStore) (c : ObjectId) :
    (tally c s).rows = (s.userIdsOf c).length := rfl

theorem tally_addRow (s : ConversationStore) (c : ObjectId)
    (userId : StoredId) (role : Option ParticipantRole) :
    tally c (s.addRow ⟨c, userId, role⟩) =
      ⟨(tally c s).count, (tally c s).rows + 1⟩ := by
  have hids := (extends_addRow s c userId role).userIds
  rw [tally, hids, List.length_append, List.length_singleton]
  simp [tally]

theorem tally_dropRows (hchannel : IsChannel c s) {userId : StoredId}
    (huser : userId ∈ s.userIdsOf c) :
    tally c (s.dropRows c userId) =
      ⟨(tally c s).count, (tally c s).rows + -1⟩ := by
  have hlength := List.length_erase_of_mem huser
  have hpositive := List.length_pos_of_mem huser
  have hids : ((s.dropRows c userId).userIdsOf c).length + 1 =
      (s.userIdsOf c).length := by
    have herase : (s.userIdsOf c).filter (fun other => other ≠ userId) =
        (s.userIdsOf c).erase userId := by
      rw [hchannel.nodup.erase_eq_filter]
      apply List.filter_congr
      intro other _
      rw [Bool.eq_iff_iff]
      simp
    rw [userIdsOf_dropRows, herase, hlength]
    omega
  simp only [tally, Tally.mk.injEq, conversations_dropRows, true_and]
  omega

theorem isChannel_addRow (hchannel : IsChannel c s) {userId : StoredId}
    (huser : userId ∉ s.userIdsOf c) (role : Option ParticipantRole) :
    IsChannel c (s.addRow ⟨c, userId, role⟩) where
  nodup := by
    rw [(extends_addRow s c userId role).userIds, List.nodup_append']
    refine ⟨hchannel.nodup, List.nodup_singleton _, ?_⟩
    intro other hother hsame
    rw [List.mem_singleton] at hsame
    exact huser (hsame ▸ hother)
  type := hchannel.type

theorem isChannel_dropRows (hchannel : IsChannel c s) (userId : StoredId) :
    IsChannel c (s.dropRows c userId) where
  nodup := by
    rw [userIdsOf_dropRows]
    exact hchannel.nodup.filter _
  type := hchannel.type

/-- The loop over the users to add. -/
theorem settles_addNoExistedParticipants
    (ids : List (ObjectId × Option ParticipantRole)) {start seen : Tally}
    {change : Nat} {owes : Prop}
    (hchanged : Changed limit start change owes seen) :
    (channelLedger limit c).SettlesOr
      (fun owes seen addedIds => addedIds.length ≤ ids.length ∧
        Changed limit start (change + addedIds.length : Nat) owes seen)
      (addNoExistedParticipants config (some c) c
        (ids.map (fun (id, role) => (IdParam.hex id true, role))))
      owes seen := by
  induction ids generalizing change owes seen with
  | nil => exact ⟨Nat.le_refl _, hchanged⟩
  | cons participant ids ih =>
      obtain ⟨id, role⟩ := participant
      refine Ledger.settlesOr_bind
        (Q := fun owes seen upsertedId => upsertedId.toList.length ≤ 1 ∧
          Changed limit start (change + upsertedId.toList.length : Nat) owes
            seen) ?_ ?_
      · refine Ledger.settlesOr_change rfl ?_
        intro state hchannel hseen
        rw [view_channelLedger] at hseen
        rw [upsertParticipant_hex]
        split
        · exact ⟨hchannel, none, rfl, fun _ => ⟨by simp, hchanged⟩,
            fun hne => absurd hseen hne⟩
        · next hnew =>
            have htally := tally_addRow state c (.id id) role
            refine ⟨isChannel_addRow hchannel hnew role, some (.id id), rfl,
              ?_, ?_⟩
            · intro hsame
              rw [view_channelLedger, ← hseen, htally] at hsame
              have hrows := congrArg Tally.rows hsame
              dsimp only at hrows
              omega
            · intro _ hmay
              refine ⟨True, fun _ => trivial, by simp, ?_⟩
              have hnext := hchanged.next hmay 1 (by omega)
              rw [← hseen, ← htally] at hnext
              exact hnext
      · intro owesNow seenNow upsertedId hupserted
        obtain ⟨hone, hnow⟩ := hupserted
        refine Ledger.settlesOr_bind (ih hnow) ?_
        intro owesLast seenLast addedIds hadded
        refine Ledger.settlesOr_pure ⟨?_, ?_⟩
        · rw [List.length_append, List.length_cons]
          omega
        · rw [List.length_append, ← Nat.add_assoc]
          exact hadded.2

/-- The loop over the users to remove. -/
theorem settles_removeExistedParticipants (ids : List ObjectId)
    {start seen : Tally} {change : Nat} {owes : Prop}
    (hchanged : Changed limit start (-change : Int) owes seen) :
    (channelLedger limit c).SettlesOr
      (fun owes seen removedIds => Changed limit start
        (-(change + removedIds.length : Nat) : Int) owes seen)
      (removeExistedParticipants (some c) c ids) owes seen := by
  induction ids generalizing change owes seen with
  | nil => exact hchanged
  | cons id ids ih =>
      refine Ledger.settlesOr_bind
        (Q := fun owes seen isDeleted => Changed limit start
          (-(change + isDeleted.toNat : Nat) : Int) owes seen) ?_ ?_
      · refine Ledger.settlesOr_change rfl ?_
        intro state hchannel hseen
        rw [view_channelLedger] at hseen
        rw [deleteParticipant_eq]
        refine ⟨isChannel_dropRows hchannel (.id id), _, rfl, ?_, ?_⟩
        · intro hsame
          by_cases huser : StoredId.id id ∈ state.userIdsOf c
          · rw [view_channelLedger, ← hseen,
              tally_dropRows hchannel huser] at hsame
            have hrows := congrArg Tally.rows hsame
            dsimp only at hrows
            omega
          · simpa [huser] using hchanged
        · intro hne hmay
          by_cases huser : StoredId.id id ∈ state.userIdsOf c
          · refine ⟨True, fun _ => trivial, ?_⟩
            have hnext := hchanged.next hmay (-1) (by omega)
            rw [← hseen, ← tally_dropRows hchannel huser] at hnext
            have hsum : (-(change + true.toNat : Nat) : Int) =
                -change + -1 := by
              rw [Bool.toNat_true]
              omega
            rw [decide_eq_true huser, hsum]
            exact hnext
          · refine absurd ?_ hne
            change tally c (state.dropRows c (.id id)) = seen
            rw [dropRows_of_not_mem huser]
            exact hseen
      · intro owesNow seenNow isDeleted hnow
        refine Ledger.settlesOr_bind (ih hnow) ?_
        intro owesLast seenLast removedIds hremoved
        refine Ledger.settlesOr_pure ?_
        cases isDeleted with
        | true =>
            have hsum : change + (removedIds.length + 1) =
                change + true.toNat + removedIds.length := by
              rw [Bool.toNat_true]
              omega
            rw [if_pos rfl, List.length_cons, hsum]
            exact hremoved
        | false =>
            simpa using hremoved

/-- The count that a request has read is stored until it writes its own. -/
theorem Changed.count {start seen : Tally} {change : Int} {owes : Prop}
    (hchanged : Changed limit start change owes seen) :
    seen.count = start.count := by
  rw [hchanged.seen]

theorem tally_updateCount {count : SubscribersCount}
    (hcount : (tally c s).count = some count) (written : SubscribersCount) :
    tally c (s.updateConversation c (fun params =>
      { params with subscribersCount := written })) =
      ⟨some written, (tally c s).rows⟩ := by
  obtain ⟨stored, hget, _⟩ := Option.map_eq_some_iff.1 hcount
  simp only [tally, get?_updateConversation, hget, userIdsOf_updateConversation,
    if_true, Option.map_some]

theorem isChannel_updateCount (hchannel : IsChannel c s)
    (written : SubscribersCount) :
    IsChannel c (s.updateConversation c (fun params =>
      { params with subscribersCount := written })) where
  nodup := hchannel.nodup
  type := by
    intro stored hstored
    rw [get?_updateConversation, if_pos rfl,
      Option.map_eq_some_iff] at hstored
    obtain ⟨old, hold, rfl⟩ := hstored
    exact hchannel.type old hold

/-- A count that is off by the rows that were changed is not right. -/
theorem not_isRight_changed {start : Tally} {count : SubscribersCount}
    (hright : start.IsRight limit) (hcount : start.count = some count)
    {change : Int} (hnonzero : change ≠ 0) :
    ¬ Tally.IsRight limit ⟨start.count, start.rows + change⟩ := by
  rw [Tally.IsRight, hcount] at hright ⊢
  rintro ⟨hafter, _⟩
  rw [hright.1, SubscribersCount.int.injEq] at hafter
  dsimp only at hafter
  omega

/-- The write of a count that is right settles what is owed. -/
theorem settles_updateSubscribersCount {start seen : Tally} {change : Int}
    {owes : Prop} (hchanged : Changed limit start change owes seen)
    {count : SubscribersCount} (hcount : start.count = some count)
    (written : SubscribersCount)
    (hwritten : start.IsRight limit →
      Tally.IsRight limit ⟨some written, start.rows + change⟩) :
    (channelLedger limit c).SettlesOr
      (fun owes seen _ => ¬ owes ∧ seen.count = some written)
      (updateSubscribersCount (some c) c written) owes seen := by
  refine Ledger.settlesOr_change rfl ?_
  intro state hchannel hseen
  rw [view_channelLedger] at hseen ⊢
  have hread : (tally c state).count = some count := by
    rw [hseen, hchanged.count, hcount]
  have htally : tally c (state.updateConversation c (fun params =>
      { params with subscribersCount := written })) =
      ⟨some written, start.rows + change⟩ := by
    rw [tally_updateCount hread, hseen, hchanged.seen]
  refine ⟨isChannel_updateCount hchannel written, (), rfl, ?_, ?_⟩
  · intro hsame
    change tally c (state.updateConversation c _) = seen at hsame
    rw [htally] at hsame
    refine ⟨fun howes => ?_, by rw [← hsame]⟩
    have hnonzero := hchanged.owes.1 howes
    have hright := hchanged.right hnonzero
    refine not_isRight_changed hright hcount hnonzero ?_
    rw [← hchanged.seen, ← hsame]
    exact hwritten hright
  · intro _ hmay
    refine ⟨False, ?_, not_false, ?_⟩
    · intro hunsettled
      apply hunsettled
      change Tally.IsRight limit (tally c (state.updateConversation c _))
      rw [htally]
      exact hwritten (hchanged.isRight hmay)
    · change (tally c (state.updateConversation c _)).count = _
      rw [htally]

/-- A channel without rows is deleted. -/
theorem settles_deleteConversation {start seen : Tally} {change : Int}
    {owes : Prop} (hchanged : Changed limit start change owes seen)
    {count : SubscribersCount} (hcount : start.count = some count)
    (hrows : seen.rows = 0) :
    (channelLedger limit c).SettlesOr (fun owes _ _ => ¬ owes)
      (write (some c) (fun s => s.deleteConversation c)) owes seen := by
  refine Ledger.settlesOr_change rfl ?_
  intro state hchannel hseen
  rw [view_channelLedger] at hseen ⊢
  have htally : tally c (state.deleteConversation c) = ⟨none, 0⟩ := by
    rw [← hseen, rows_tally] at hrows
    rw [tally, get?_deleteConversation, if_pos rfl,
      userIdsOf_deleteConversation, hrows]
    rfl
  refine ⟨⟨hchannel.nodup, by simp⟩, (), rfl, ?_, ?_⟩
  · intro hsame
    change tally c (state.deleteConversation c) = seen at hsame
    have hnone := congrArg Tally.count (htally.symm.trans hsame)
    rw [hchanged.count, hcount] at hnone
    cases hnone
  · intro _ _
    refine ⟨False, fun hunsettled => hunsettled ?_, not_false⟩
    change Tally.IsRight limit (tally c (state.deleteConversation c))
    rw [htally]
    rfl

/-! ### Additions and removals -/

/-- What a request goes on with when it works on the channel: the document as
it is stored. -/
structure IsRead (c : ObjectId) (conversation : ConversationModel)
    (seen : Tally) : Prop where
  id : conversation.id = c
  type : conversation.params.type = .c
  count : seen.count = some conversation.params.subscribersCount

theorem settles_addParticipants {conversation : ConversationModel}
    {seen : Tally} (hread : IsRead c conversation seen)
    (ids : List ObjectId) :
    (channelLedger config.maxParticipants c).SettlesOr
      (fun owes seen result => ¬ owes ∧ IsRead c result.2 seen)
      (addParticipants config conversation
        (ids.map (fun id => IdParam.hex id true)) false) False seen := by
  have hcount : currentParticipantsCount conversation false =
      pure conversation.params.subscribersCount := by
    rw [currentParticipantsCount, if_neg (by simp), if_pos hread.type]
  rw [addParticipants, hcount, createParticipantsParams_ids, hread.id]
  refine Ledger.settlesOr_ok_bind ?_
  split
  · exact Ledger.settlesOr_throw _
  · next hlimit =>
      refine Ledger.settlesOr_ok_bind ?_
      refine Ledger.settlesOr_bind
        (settles_addNoExistedParticipants _ (changed_zero not_false)) ?_
      rintro owes seen addedIds ⟨hlength, hchanged⟩
      rw [Nat.zero_add] at hchanged
      rw [List.length_map] at hlength hlimit
      rw [if_pos hread.type]
      refine Ledger.settlesOr_bind (settles_updateSubscribersCount hchanged
        hread.count (conversation.params.subscribersCount.plus
          addedIds.length) ?_) ?_
      · rw [Tally.IsRight, hread.count]
        rintro ⟨hcount, _⟩
        rw [hcount] at hlimit ⊢
        simp only [SubscribersCount.plus, SubscribersCount.exceeds,
          decide_eq_true_eq] at hlimit
        refine ⟨?_, ?_⟩
        · rw [SubscribersCount.plus, SubscribersCount.int.injEq]
          exact Int.add_comm _ _
        · dsimp only
          omega
      · rintro owes seen _ ⟨hsettled, hcount⟩
        exact Ledger.settlesOr_pure
          ⟨hsettled, hread.id, hread.type, hcount⟩

theorem settles_removeParticipants {conversation : ConversationModel}
    {seen : Tally} (hread : IsRead c conversation seen)
    (ids : List ObjectId) :
    (channelLedger config.maxParticipants c).SettlesOr
      (fun owes _ _ => ¬ owes)
      (removeParticipants config conversation ids) False seen := by
  rw [removeParticipants, hread.id]
  have hnone : Changed config.maxParticipants seen (-(0 : Nat)) False seen :=
    changed_zero not_false
  refine Ledger.settlesOr_bind (settles_removeExistedParticipants ids
    hnone) ?_
  intro owes now removedIds hchanged
  rw [Nat.zero_add] at hchanged
  refine Ledger.settlesOr_bind
    (Q := fun owesNow seenNow first => owesNow = owes ∧ seenNow = now ∧
      (first = none → now.rows = 0)) ?_ ?_
  · refine Ledger.settlesOr_inside rfl ?_
    intro state hchannel hseen
    refine ⟨hchannel, rfl, rfl, rfl, fun hnone => ?_⟩
    rw [view_channelLedger] at hseen
    rw [findFirstConversationParticipant,
      Documents.Choice.pick_eq_none_iff, List.filter_eq_nil_iff] at hnone
    rw [← hseen, rows_tally, userIdsOf, List.length_map]
    cases hrows : state.rowsOf c with
    | nil => rfl
    | cons row rows =>
        rw [hrows] at hnone
        exact absurd rfl (hnone row List.mem_cons_self)
  · rintro owesNow seenNow first ⟨rfl, rfl, hfirst⟩
    cases first with
    | none =>
        refine Ledger.settlesOr_bind (settles_deleteConversation hchanged
          hread.count (hfirst rfl)) ?_
        intro _ _ _ hsettled
        exact Ledger.settlesOr_pure hsettled
    | some row =>
        refine Ledger.settlesOr_bind
          (Q := fun owesLast seenLast _ => owesLast = owesNow ∧
            seenLast = seenNow) ?_ ?_
        · rw [updateRemovedOwner, hread.id]
          split
          · refine Ledger.settlesOr_bind
              (Q := fun owesLast seenLast _ => owesLast = owesNow ∧
                seenLast = seenNow) ?_ ?_
            · refine Ledger.settlesOr_inside rfl ?_
              intro state hchannel _
              have hleaves := leavesChannel_updateConversation state c c
                (fun params => { params with ownerId := row.userId })
                (fun _ => rfl) (fun _ => rfl)
              exact ⟨hleaves.isChannel hchannel, hleaves.tally, rfl, rfl⟩
            · intro _ _ _ hsame
              exact Ledger.settlesOr_pure hsame
          · exact Ledger.settlesOr_pure ⟨rfl, rfl⟩
        · rintro _ _ _ ⟨rfl, rfl⟩
          rw [updateRemovedCount, if_pos hread.type, hread.id]
          refine Ledger.settlesOr_bind (settles_updateSubscribersCount
            hchanged hread.count _ ?_) ?_
          · rw [Tally.IsRight, hread.count]
            rintro ⟨hcount, hlimit⟩
            rw [hcount]
            refine ⟨?_, ?_⟩
            · rw [SubscribersCount.minus, SubscribersCount.int.injEq]
              rfl
            · dsimp only
              omega
          · rintro _ _ _ ⟨hsettled, _⟩
            exact Ledger.settlesOr_pure hsettled

end ConversationStore

end SamaServer
