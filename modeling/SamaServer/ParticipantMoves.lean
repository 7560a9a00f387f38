/-
An update of the participants of a conversation: some users are added and
then some are removed.  The rows and the document are as before exactly when
the users are, up to states in which the document needs a repair.
-/
import SamaServer.Membership

namespace SamaServer

namespace ConversationStore

open Fallible ConversationService

variable {s t r : ConversationStore} {c : ObjectId}

/-! ### Rewriting one document -/

/-- One document was rewritten, all others are as before. -/
structure Rewrites (c : ObjectId) (stored written : Conversation)
    (before after : ConversationStore) : Prop where
  keys : after.conversations.keys = before.conversations.keys
  others : ∀ other ≠ c,
    after.conversations.get? other = before.conversations.get? other
  before : before.conversations.get? c = some stored
  after : after.conversations.get? c = some written

namespace Rewrites

variable {stored between written : Conversation}

theorem refl (hget : s.conversations.get? c = some stored) :
    Rewrites c stored stored s s := ⟨rfl, fun _ _ => rfl, hget, hget⟩

theorem trans (hfirst : Rewrites c stored between s t)
    (hsecond : Rewrites c between written t r) :
    Rewrites c stored written s r where
  keys := hsecond.keys.trans hfirst.keys
  others := fun other hother =>
    (hsecond.others other hother).trans (hfirst.others other hother)
  before := hfirst.before
  after := hsecond.after

/-- Stores with the same documents. -/
theorem congr (hrewrites : Rewrites c stored written s t)
    (hsame : r.conversations = t.conversations) :
    Rewrites c stored written s r := by
  refine ⟨?_, ?_, hrewrites.before, ?_⟩
  · rw [hsame]
    exact hrewrites.keys
  · rw [hsame]
    exact hrewrites.others
  · rw [hsame]
    exact hrewrites.after

theorem updateConversation (hget : s.conversations.get? c = some stored)
    (update : Conversation → Conversation) :
    Rewrites c stored (update stored) s (s.updateConversation c update) where
  keys := OrderedMap.keys_modify _ _ _
  others := by
    intro other hother
    simp [hother]
  before := hget
  after := by simp [hget]

/-- The collection is as before exactly when the document is. -/
theorem conversations_eq_iff (hrewrites : Rewrites c stored written s t) :
    t.conversations = s.conversations ↔ written = stored := by
  constructor
  · intro hsame
    have hafter := hrewrites.after
    rw [hsame, hrewrites.before, Option.some_inj] at hafter
    exact hafter.symm
  · rintro rfl
    apply OrderedMap.eq_of_get? hrewrites.keys
    intro other
    by_cases hother : other = c
    · rw [hother, hrewrites.after, hrewrites.before]
    · exact hrewrites.others other hother

end Rewrites

/-! ### Users who come and go -/

/-- Nobody stays in the conversation. -/
def Emptied (s : ConversationStore) (c : ObjectId)
    (lists : Option (List ObjectId × List ObjectId)) : Prop :=
  ∃ addIds removeIds, lists = some (addIds, removeIds) ∧
    (∀ userId ∈ s.userIdsOf c, userId ∈ removeIds.map StoredId.id) ∧
    ∀ id ∈ addIds, id ∈ removeIds

theorem rewrites_writeCount (conversation : ConversationModel)
    {stored : Conversation}
    (hget : s.conversations.get? conversation.id = some stored)
    (count : SubscribersCount) :
    Rewrites conversation.id stored
      { stored with
        subscribersCount :=
          if conversation.params.type = .c then count
          else stored.subscribersCount }
      s (writeCount conversation count s) := by
  rw [writeCount]
  split
  · exact Rewrites.updateConversation hget (fun params =>
      { params with subscribersCount := count })
  · exact Rewrites.refl hget

theorem rewrites_writeOwner (conversation : ConversationModel)
    {stored : Conversation}
    (hget : s.conversations.get? conversation.id = some stored)
    (removed : List ObjectId) (userId : StoredId) :
    Rewrites conversation.id stored
      { stored with
        ownerId :=
          if isOwnerInRemove conversation removed ∧
            conversation.params.type ≠ .u then userId
          else stored.ownerId }
      s (writeOwner conversation removed userId s) := by
  rw [writeOwner]
  split
  · exact Rewrites.updateConversation hget (fun params =>
      { params with ownerId := userId })
  · exact Rewrites.refl hget

theorem participants_writeCount (conversation : ConversationModel)
    (count : SubscribersCount) (s : ConversationStore) :
    (writeCount conversation count s).participants = s.participants ∧
      (writeCount conversation count s).users = s.users := by
  rw [writeCount]
  split <;> exact ⟨rfl, rfl⟩

theorem participants_writeOwner (conversation : ConversationModel)
    (removed : List ObjectId) (userId : StoredId) (s : ConversationStore) :
    (writeOwner conversation removed userId s).participants =
        s.participants ∧
      (writeOwner conversation removed userId s).users = s.users := by
  rw [writeOwner]
  split <;> exact ⟨rfl, rfl⟩

/-- Users were added to a conversation and users were removed from it. -/
structure Moves (c : ObjectId) (addIds removeIds : List ObjectId)
    (added : List StoredId) (removed : List ObjectId)
    (before after : ConversationStore) : Prop where
  users : after.users = before.users
  mem_added : ∀ userId, userId ∈ added ↔
    userId ∈ addIds.map StoredId.id ∧ userId ∉ before.userIdsOf c
  nodup_added : added.Nodup
  mem_removed : ∀ id, id ∈ removed ↔ id ∈ removeIds ∧
    (StoredId.id id ∈ before.userIdsOf c ∨ StoredId.id id ∈ added)
  nodup_removed : removed.Nodup
  rows : ∃ rows : List Participant,
    (∀ row ∈ rows, row.conversationId = c) ∧
    rows.map Participant.userId = added ∧
    after.participants = (before.participants ++ rows).filter (fun row =>
      ¬ (row.conversationId = c ∧ row.userId ∈ removed.map StoredId.id))

/-- The document after users were added and removed: the owner may have
changed, and a channel has a new count. -/
def afterMoves (stored : Conversation) (added : List StoredId)
    (removed : List ObjectId) (userId : StoredId) : Conversation :=
  { stored with
    ownerId :=
      if removed.any (fun id => StoredId.id id = stored.ownerId) then userId
      else stored.ownerId
    subscribersCount :=
      if stored.type = .c then
        (stored.subscribersCount.plus added.length).minus removed.length
      else stored.subscribersCount }

theorem Moves.congr {addIds removeIds : List ObjectId}
    {added : List StoredId} {removed : List ObjectId}
    (hmoves : Moves c addIds removeIds added removed s t)
    (hparticipants : r.participants = t.participants)
    (husers : r.users = t.users) :
    Moves c addIds removeIds added removed s r := by
  refine ⟨husers.trans hmoves.users, hmoves.mem_added, hmoves.nodup_added,
    hmoves.mem_removed, hmoves.nodup_removed, ?_⟩
  rw [hparticipants]
  exact hmoves.rows

/-- The two loops one after the other. -/
theorem moves_of_adds_of_shrinks {addIds removeIds : List ObjectId}
    {added : List StoredId} {removed : List ObjectId}
    {grown counted shrunk : ConversationStore}
    (hadds : Adds c addIds added s grown)
    (hparticipants : counted.participants = grown.participants)
    (husers : counted.users = grown.users)
    (hshrinks : Shrinks c removed counted shrunk)
    (hremoved : ∀ id, id ∈ removed ↔
      id ∈ removeIds ∧ StoredId.id id ∈ counted.userIdsOf c) :
    Moves c addIds removeIds added removed s shrunk := by
  have huserIds : counted.userIdsOf c = s.userIdsOf c ++ added := by
    rw [userIdsOf, rowsOf, hparticipants, ← rowsOf, ← userIdsOf,
      hadds.userIds]
  obtain ⟨rows, hrows, hown, hmap⟩ := hadds.rows
  refine ⟨hshrinks.users.trans (husers.trans hadds.users), hadds.mem_added,
    hadds.nodup_added, ?_, hshrinks.nodup, rows, hown, hmap, ?_⟩
  · intro id
    rw [hremoved, huserIds, List.mem_append]
  · rw [hshrinks.rows, hparticipants, hrows]

/-- The conversation that the caller goes on with differs in its count
only. -/
theorem params_withCount (conversation : ConversationModel)
    (count : SubscribersCount) :
    (withCount conversation count).params =
      { conversation.params with
        subscribersCount :=
          if conversation.params.type = .c then count
          else conversation.params.subscribersCount } := by
  rw [withCount]
  split
  · rfl
  · rfl

/-- An addition and a removal within the limit. -/
theorem exec_updateParticipants (config : ConversationConfig)
    {conversation : ConversationModel}
    (hget : s.conversations.get? conversation.id = some conversation.params)
    (htype : conversation.params.type ≠ .u)
    (addIds removeIds : List ObjectId)
    (hlimit : ((countBefore conversation false s).plus
      addIds.length).exceeds config.maxParticipants = false) :
    ∃ added removed newOwnerId after,
      Moves conversation.id addIds removeIds added removed s after ∧
      (after.userIdsOf conversation.id = [] ∧
          (updateParticipants config conversation
            (addIds.map (fun id => IdParam.hex id true)) removeIds).exec s =
          (.ok (added, ⟨removed, newOwnerId, true⟩),
            after.deleteConversation conversation.id) ∨
        ∃ userId ∈ after.userIdsOf conversation.id,
          Rewrites conversation.id conversation.params
            (afterMoves conversation.params added removed userId) s after ∧
          (updateParticipants config conversation
            (addIds.map (fun id => IdParam.hex id true)) removeIds).exec s =
          (.ok (added, ⟨removed, newOwnerId, false⟩), after)) := by
  obtain ⟨added, grown, hadds, hadd⟩ := exec_addParticipants config
    conversation addIds false s hlimit
  generalize hcount : (countBefore conversation false s).plus added.length =
    count at hadd
  have hcounted := rewrites_writeCount (s := grown) conversation
    (hadds.conversations ▸ hget) count
  obtain ⟨hrowsCounted, husersCounted⟩ := participants_writeCount
    conversation count grown
  have hid : (withCount conversation count).id = conversation.id := by
    rw [withCount]
    split <;> rfl
  obtain ⟨removed, shrunk, hshrinks, hremoved, hcases⟩ :=
    exec_removeParticipants config (withCount conversation count) removeIds
      (writeCount conversation count grown)
  rw [hid] at hshrinks hremoved hcases
  have hmoves := moves_of_adds_of_shrinks hadds hrowsCounted husersCounted
    hshrinks hremoved
  unfold updateParticipants
  rw [exec_bind_ok hadd]
  dsimp only
  rcases hcases with ⟨hempty, hdeleted⟩ | ⟨userId, newOwnerId, huser, hkept⟩
  · refine ⟨added, removed, none, shrunk, hmoves, Or.inl ⟨hempty, ?_⟩⟩
    rw [exec_bind_ok hdeleted]
    rfl
  · have hshrunk : Rewrites conversation.id conversation.params
        (withCount conversation count).params s shrunk := by
      rw [params_withCount]
      exact
        (Rewrites.trans ⟨by rw [hadds.conversations],
          fun _ _ => by rw [hadds.conversations], hget, hcounted.before⟩
          hcounted).congr hshrinks.conversations
    have howner := rewrites_writeOwner
      (withCount conversation count)
      (by rw [hid]; exact hshrunk.after) removed userId
    have hlast := rewrites_writeCount
      (withCount conversation count)
      (by rw [hid] at howner ⊢; exact howner.after)
      ((withCount conversation count).params.subscribersCount.minus
        removed.length)
    rw [hid] at howner hlast
    obtain ⟨hrowsOwner, husersOwner⟩ := participants_writeOwner
      (withCount conversation count) removed userId shrunk
    obtain ⟨hrowsLast, husersLast⟩ := participants_writeCount
      (withCount conversation count)
      ((withCount conversation count).params.subscribersCount.minus
        removed.length)
      (writeOwner (withCount conversation count) removed userId shrunk)
    refine ⟨added, removed, newOwnerId, _, hmoves.congr
      (hrowsLast.trans hrowsOwner) (husersLast.trans husersOwner),
      Or.inr ⟨userId, ?_, ?_, ?_⟩⟩
    · rw [userIdsOf_writeCount, userIdsOf_writeOwner]
      exact huser
    · have hwritten := (hshrunk.trans howner).trans hlast
      generalize writeCount (withCount conversation count)
        ((withCount conversation count).params.subscribersCount.minus
          removed.length)
        (writeOwner (withCount conversation count) removed userId shrunk) =
        last at hwritten ⊢
      simp only [isOwnerInRemove, params_withCount, ne_eq, htype,
        not_false_eq_true, and_true] at hwritten
      rw [afterMoves]
      by_cases hchannel : conversation.params.type = .c
      · have hold : countBefore conversation false s =
            conversation.params.subscribersCount := by
          rw [countBefore, if_neg (by simp), if_pos hchannel]
        rw [hold] at hcount
        simp only [if_pos hchannel, hcount] at hwritten ⊢
        exact hwritten
      · simp only [if_neg hchannel] at hwritten ⊢
        exact hwritten
    · rw [exec_bind_ok hkept]
      rfl

namespace Moves

variable {addIds removeIds removed : List ObjectId} {added : List StoredId}

theorem userIds (hmoves : Moves c addIds removeIds added removed s t) :
    t.userIdsOf c = (s.userIdsOf c ++ added).filter
      (fun userId => userId ∉ removed.map StoredId.id) := by
  obtain ⟨rows, hown, hmap, hrows⟩ := hmoves.rows
  have hself : rows.filter (fun row => row.conversationId = c) = rows := by
    rw [List.filter_eq_self]
    intro row hrow
    exact decide_eq_true (hown row hrow)
  have hall : (s.participants ++ rows).filter
      (fun row => row.conversationId = c) = s.rowsOf c ++ rows := by
    rw [List.filter_append, hself]
    rfl
  rw [userIdsOf, rowsOf, hrows, List.filter_filter, userIdsOf, ← hmap,
    ← List.map_append, List.filter_map, ← hall, List.filter_filter]
  congr 1
  apply List.filter_congr
  intro row _
  by_cases hrow : row.conversationId = c
  · simp [hrow]
  · simp [hrow]

theorem mem_map_removed (hmoves : Moves c addIds removeIds added removed s t)
    (userId : StoredId) :
    userId ∈ removed.map StoredId.id ↔ userId ∈ removeIds.map StoredId.id ∧
      (userId ∈ s.userIdsOf c ∨ userId ∈ added) := by
  constructor
  · intro hmem
    obtain ⟨id, hid, rfl⟩ := List.mem_map.1 hmem
    obtain ⟨hlisted, hthere⟩ := (hmoves.mem_removed id).1 hid
    exact ⟨List.mem_map_of_mem hlisted, hthere⟩
  · rintro ⟨hlisted, hthere⟩
    obtain ⟨id, hid, rfl⟩ := List.mem_map.1 hlisted
    exact List.mem_map_of_mem ((hmoves.mem_removed id).2 ⟨hid, hthere⟩)

/-- Nobody stays exactly when the lists say so. -/
theorem userIds_eq_nil_iff
    (hmoves : Moves c addIds removeIds added removed s t) :
    t.userIdsOf c = [] ↔ Emptied s c (some (addIds, removeIds)) := by
  rw [hmoves.userIds, List.filter_eq_nil_iff]
  simp only [decide_eq_true_eq, not_not, hmoves.mem_map_removed,
    List.mem_append]
  constructor
  · intro hall
    refine ⟨addIds, removeIds, rfl, fun userId huser =>
      (hall userId (Or.inl huser)).1, fun id hid => ?_⟩
    have hlisted : StoredId.id id ∈ removeIds.map StoredId.id := by
      by_cases hthere : StoredId.id id ∈ s.userIdsOf c
      · exact (hall _ (Or.inl hthere)).1
      · exact (hall _ (Or.inr ((hmoves.mem_added _).2
          ⟨List.mem_map_of_mem hid, hthere⟩))).1
    obtain ⟨other, hother, heq⟩ := List.mem_map.1 hlisted
    cases heq
    exact hother
  · rintro ⟨_, _, hlists, hstayed, hadded⟩ userId hthere
    cases hlists
    refine ⟨?_, hthere⟩
    rcases hthere with hold | hnew
    · exact hstayed userId hold
    · obtain ⟨id, hid, rfl⟩ := List.mem_map.1 ((hmoves.mem_added _).1 hnew).1
      exact List.mem_map_of_mem (hadded id hid)

/-- Everybody who was added was removed again, and nobody else. -/
theorem mem_removed_iff_mem_added
    (hmoves : Moves c addIds removeIds added removed s t)
    (hremoved : ∀ id ∈ removeIds, StoredId.id id ∉ s.userIdsOf c)
    (hadded : ∀ id ∈ addIds,
      StoredId.id id ∈ s.userIdsOf c ∨ id ∈ removeIds)
    (userId : StoredId) :
    userId ∈ removed.map StoredId.id ↔ userId ∈ added := by
  rw [hmoves.mem_map_removed]
  constructor
  · rintro ⟨hlisted, hold | hnew⟩
    · obtain ⟨id, hid, rfl⟩ := List.mem_map.1 hlisted
      exact absurd hold (hremoved id hid)
    · exact hnew
  · intro hnew
    obtain ⟨hlisted, hold⟩ := (hmoves.mem_added userId).1 hnew
    obtain ⟨id, hid, rfl⟩ := List.mem_map.1 hlisted
    refine ⟨List.mem_map_of_mem ?_, Or.inr hnew⟩
    rcases hadded id hid with hthere | hagain
    · exact absurd hthere hold
    · exact hagain

/-- The rows are as before when nobody is removed and everybody who was added
was removed again. -/
theorem participants_eq
    (hmoves : Moves c addIds removeIds added removed s t)
    (hremoved : ∀ id ∈ removeIds, StoredId.id id ∉ s.userIdsOf c)
    (hadded : ∀ id ∈ addIds,
      StoredId.id id ∈ s.userIdsOf c ∨ id ∈ removeIds) :
    t.participants = s.participants := by
  obtain ⟨rows, hown, hmap, hrows⟩ := hmoves.rows
  have hboth := hmoves.mem_removed_iff_mem_added hremoved hadded
  have hold : s.participants.filter (fun row => ¬ (row.conversationId = c ∧
      row.userId ∈ removed.map StoredId.id)) = s.participants := by
    rw [List.filter_eq_self]
    intro row hrow
    rw [decide_eq_true_eq]
    rintro ⟨hconversation, huser⟩
    exact ((hmoves.mem_added _).1 ((hboth _).1 huser)).2
      (mem_userIdsOf.2 ⟨row, hrow, hconversation, rfl⟩)
  have hnew : rows.filter (fun row => ¬ (row.conversationId = c ∧
      row.userId ∈ removed.map StoredId.id)) = [] := by
    rw [List.filter_eq_nil_iff]
    intro row hrow
    rw [decide_eq_true_eq, not_not, hboth, ← hmap]
    exact ⟨hown row hrow, List.mem_map_of_mem hrow⟩
  rw [hrows, List.filter_append, hold, hnew, List.append_nil]

/-- In any other case the users differ. -/
theorem of_userIds_eq (hmoves : Moves c addIds removeIds added removed s t)
    (hsame : t.userIdsOf c = s.userIdsOf c) :
    (∀ id ∈ removeIds, StoredId.id id ∉ s.userIdsOf c) ∧
      ∀ id ∈ addIds, StoredId.id id ∈ s.userIdsOf c ∨ id ∈ removeIds := by
  have hmem : ∀ userId, userId ∈ s.userIdsOf c ↔
      (userId ∈ s.userIdsOf c ∨ userId ∈ added) ∧
        userId ∉ removed.map StoredId.id := by
    intro userId
    nth_rewrite 1 [← hsame]
    rw [hmoves.userIds, List.mem_filter, List.mem_append, decide_eq_true_eq]
  constructor
  · intro id hid hthere
    apply ((hmem _).1 hthere).2
    exact (hmoves.mem_map_removed _).2
      ⟨List.mem_map_of_mem hid, Or.inl hthere⟩
  · intro id hid
    by_contra hneither
    rw [not_or] at hneither
    apply hneither.1
    rw [hmem, hmoves.mem_map_removed]
    refine ⟨Or.inr ((hmoves.mem_added _).2
      ⟨List.mem_map_of_mem hid, hneither.1⟩), ?_⟩
    rintro ⟨hlisted, _⟩
    obtain ⟨other, hother, heq⟩ := List.mem_map.1 hlisted
    cases heq
    exact hneither.2 hother

theorem length_eq (hmoves : Moves c addIds removeIds added removed s t)
    (hremoved : ∀ id ∈ removeIds, StoredId.id id ∉ s.userIdsOf c)
    (hadded : ∀ id ∈ addIds,
      StoredId.id id ∈ s.userIdsOf c ∨ id ∈ removeIds) :
    added.length = removed.length := by
  have hnodup : (removed.map StoredId.id).Nodup :=
    hmoves.nodup_removed.map (fun first second heq => by cases heq; rfl)
  have hperm : (removed.map StoredId.id).Perm added := by
    rw [List.perm_ext_iff_of_nodup hnodup hmoves.nodup_added]
    exact hmoves.mem_removed_iff_mem_added hremoved hadded
  rw [← hperm.length_eq, List.length_map]

/-- The owner stays unless it was added only to be removed. -/
theorem owner_eq_iff (hmoves : Moves c addIds removeIds added removed s t)
    (hremoved : ∀ id ∈ removeIds, StoredId.id id ∉ s.userIdsOf c)
    (hadded : ∀ id ∈ addIds,
      StoredId.id id ∈ s.userIdsOf c ∨ id ∈ removeIds)
    (ownerId : StoredId) {userId : StoredId}
    (huser : userId ∈ t.userIdsOf c) :
    (if removed.any (fun id => StoredId.id id = ownerId) then userId
      else ownerId) = ownerId ↔
      ∀ id ∈ addIds, StoredId.id id = ownerId →
        StoredId.id id ∈ s.userIdsOf c := by
  have hany : removed.any (fun id => StoredId.id id = ownerId) = true ↔
      ownerId ∈ added := by
    rw [← hmoves.mem_removed_iff_mem_added hremoved hadded, List.any_eq_true,
      List.mem_map]
    simp
  rw [hmoves.userIds, List.mem_filter, decide_eq_true_eq,
    hmoves.mem_removed_iff_mem_added hremoved hadded] at huser
  by_cases howner : ownerId ∈ added
  · rw [if_pos (hany.2 howner)]
    obtain ⟨hlisted, hnew⟩ := (hmoves.mem_added ownerId).1 howner
    obtain ⟨id, hid, rfl⟩ := List.mem_map.1 hlisted
    constructor
    · rintro rfl
      exact absurd howner huser.2
    · exact fun hall => absurd (hall id hid rfl) hnew
  · rw [if_neg (fun hmem => howner (hany.1 hmem))]
    refine ⟨fun _ id hid heq => ?_, fun _ => rfl⟩
    by_contra hnew
    apply howner
    rw [← heq]
    exact (hmoves.mem_added _).2 ⟨List.mem_map_of_mem hid, hnew⟩

end Moves

/-- A count that is defined survives an addition and a removal. -/
theorem plus_minus_eq_iff (count : SubscribersCount) (number : Nat) :
    (count.plus number).minus number = count ↔ count ≠ .undefined := by
  cases count with
  | undefined => simp [SubscribersCount.plus, SubscribersCount.minus]
  | nan => simp [SubscribersCount.plus, SubscribersCount.minus]
  | int value =>
      simp only [SubscribersCount.plus, SubscribersCount.minus,
        SubscribersCount.int.injEq, ne_eq, reduceCtorEq, not_false_eq_true,
        iff_true]
      omega

end ConversationStore

end SamaServer
