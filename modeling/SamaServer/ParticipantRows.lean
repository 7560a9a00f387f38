/-
What the loops over participants do to the rows of a conversation, and what
the two service functions built on them leave behind.
-/
import SamaServer.ConversationReads

namespace SamaServer

namespace ConversationStore

variable (s : ConversationStore)

/-- The users of a conversation, in the order of their rows. -/
def userIdsOf (s : ConversationStore) (conversationId : ObjectId) :
    List StoredId :=
  (s.rowsOf conversationId).map Participant.userId

theorem mem_userIdsOf {s : ConversationStore} {conversationId : ObjectId}
    {userId : StoredId} :
    userId ∈ s.userIdsOf conversationId ↔
      ∃ row ∈ s.participants, row.conversationId = conversationId ∧
        row.userId = userId := by
  simp [userIdsOf, rowsOf, and_assoc]

@[simp] theorem conversations_addRow (row : Participant) :
    (s.addRow row).conversations = s.conversations := rfl

theorem rowsOf_addRow (row : Participant) (conversationId : ObjectId) :
    (s.addRow row).rowsOf conversationId =
      if row.conversationId = conversationId then
        s.rowsOf conversationId ++ [row]
      else s.rowsOf conversationId := by
  by_cases hrow : row.conversationId = conversationId
  · simp [rowsOf, addRow, hrow]
  · simp [rowsOf, addRow, hrow]

@[simp] theorem conversations_dropRows (conversationId : ObjectId)
    (userId : StoredId) :
    (s.dropRows conversationId userId).conversations = s.conversations := rfl

theorem rowsOf_dropRows (dropped conversationId : ObjectId)
    (userId : StoredId) :
    (s.dropRows dropped userId).rowsOf conversationId =
      if dropped = conversationId then
        (s.rowsOf conversationId).filter (fun row => row.userId ≠ userId)
      else s.rowsOf conversationId := by
  by_cases hsame : dropped = conversationId
  · subst hsame
    simp only [rowsOf, dropRows, List.filter_filter, if_true]
    apply List.filter_congr
    intro row _
    by_cases hrow : row.conversationId = dropped <;> simp [hrow]
  · simp only [rowsOf, dropRows, List.filter_filter, hsame, if_false]
    apply List.filter_congr
    intro row _
    by_cases hrow : row.conversationId = conversationId
    · have hne : ¬ conversationId = dropped := fun heq => hsame heq.symm
      simp [hrow, hne]
    · simp [hrow]

@[simp] theorem userIdsOf_updateConversation (id conversationId : ObjectId)
    (update : Conversation → Conversation) :
    (s.updateConversation id update).userIdsOf conversationId =
      s.userIdsOf conversationId := rfl

@[simp] theorem get?_updateConversation (id other : ObjectId)
    (update : Conversation → Conversation) :
    (s.updateConversation id update).conversations.get? other =
      (s.conversations.get? other).map
        (if other = id then update else fun params => params) :=
  OrderedMap.get?_modify _ _ _ _

@[simp] theorem userIdsOf_deleteConversation (id conversationId : ObjectId) :
    (s.deleteConversation id).userIdsOf conversationId =
      s.userIdsOf conversationId := rfl

@[simp] theorem get?_deleteConversation (id other : ObjectId) :
    (s.deleteConversation id).conversations.get? other =
      if other = id then none else s.conversations.get? other :=
  OrderedMap.get?_erase _ _ _

theorem userIdsOf_dropRows (conversationId : ObjectId) (userId : StoredId) :
    (s.dropRows conversationId userId).userIdsOf conversationId =
      (s.userIdsOf conversationId).filter (fun other => other ≠ userId) := by
  rw [userIdsOf, rowsOf_dropRows, if_pos rfl, userIdsOf, List.filter_map]
  rfl

/-- New roles leave the rows with the same users. -/
theorem userIdsOf_assignRole (c id : ObjectId)
    (participantIds : List IdParam) (role : Option ParticipantRole) :
    (s.assignRole c participantIds role).userIdsOf id = s.userIdsOf id := by
  simp only [assignRole, userIdsOf, rowsOf, List.filter_map, List.map_map]
  have hrow : ∀ row : Participant,
      (if row.conversationId = c ∧
          row.userId ∈ participantIds.filterMap IdParam.queryId? then
        { row with role := role }
      else row).conversationId = row.conversationId ∧
      (if row.conversationId = c ∧
          row.userId ∈ participantIds.filterMap IdParam.queryId? then
        { row with role := role }
      else row).userId = row.userId := by
    intro row
    split <;> exact ⟨rfl, rfl⟩
  have hfilter : s.participants.filter ((fun row : Participant =>
      decide (row.conversationId = id)) ∘ fun row =>
        if row.conversationId = c ∧
            row.userId ∈ participantIds.filterMap IdParam.queryId? then
          { row with role := role }
        else row) =
      s.participants.filter (fun row => row.conversationId = id) := by
    apply List.filter_congr
    intro row _
    rw [Function.comp, (hrow row).1]
  rw [hfilter]
  apply List.map_congr_left
  intro row _
  exact (hrow row).2

/-- Rows were added to one conversation, for the users listed. -/
structure Extends (conversationId : ObjectId) (added : List StoredId)
    (before after : ConversationStore) : Prop where
  users : after.users = before.users
  conversations : after.conversations = before.conversations
  nextId : before.nextId ≤ after.nextId
  rows : ∃ rows : List Participant,
    after.participants = before.participants ++ rows ∧
    (∀ row ∈ rows, row.conversationId = conversationId) ∧
    rows.map Participant.userId = added

namespace Extends

variable {conversationId : ObjectId} {first second added : List StoredId}
  {before after last : ConversationStore}

theorem others (hextends : Extends conversationId added before after)
    (other : ObjectId) (hother : other ≠ conversationId) :
    after.userIdsOf other = before.userIdsOf other := by
  obtain ⟨rows, hrows, hall, _⟩ := hextends.rows
  have hnone : rows.filter (fun row => row.conversationId = other) = [] := by
    rw [List.filter_eq_nil_iff]
    intro row hrow
    rw [hall row hrow]
    simpa using Ne.symm hother
  rw [userIdsOf, rowsOf, hrows, List.filter_append, hnone, List.append_nil]
  rfl

theorem userIds (hextends : Extends conversationId added before after) :
    after.userIdsOf conversationId =
      before.userIdsOf conversationId ++ added := by
  obtain ⟨rows, hrows, hall, hadded⟩ := hextends.rows
  have hown : rows.filter (fun row => row.conversationId =
      conversationId) = rows := by
    rw [List.filter_eq_self]
    intro row hrow
    exact decide_eq_true (hall row hrow)
  rw [userIdsOf, rowsOf, hrows, List.filter_append, hown, List.map_append,
    hadded]
  rfl

theorem refl (s : ConversationStore) (conversationId : ObjectId) :
    Extends conversationId [] s s :=
  ⟨rfl, rfl, Nat.le_refl _, [], by simp, by simp, rfl⟩

theorem trans (hfirst : Extends conversationId first before after)
    (hsecond : Extends conversationId second after last) :
    Extends conversationId (first ++ second) before last := by
  obtain ⟨firstRows, hfirstRows, hfirstOwn, rfl⟩ := hfirst.rows
  obtain ⟨secondRows, hsecondRows, hsecondOwn, rfl⟩ := hsecond.rows
  refine ⟨hsecond.users.trans hfirst.users,
    hsecond.conversations.trans hfirst.conversations,
    Nat.le_trans hfirst.nextId hsecond.nextId, firstRows ++ secondRows,
    ?_, ?_, List.map_append⟩
  · rw [hsecondRows, hfirstRows, List.append_assoc]
  · intro row hrow
    rcases List.mem_append.1 hrow with hin | hin
    · exact hfirstOwn row hin
    · exact hsecondOwn row hin

end Extends

theorem extends_addRow (conversationId : ObjectId) (userId : StoredId)
    (role : Option ParticipantRole) :
    Extends conversationId [userId] s
      (s.addRow ⟨conversationId, userId, role⟩) :=
  ⟨rfl, rfl, Nat.le_trans (Nat.le_succ _) (Nat.le_max_left _ _),
    [⟨conversationId, userId, role⟩], rfl, by simp, rfl⟩

/-- The users of a list who had no row got one. -/
structure Adds (conversationId : ObjectId) (ids : List ObjectId)
    (added : List StoredId) (before after : ConversationStore) : Prop
    extends Extends conversationId added before after where
  mem_added : ∀ userId, userId ∈ added ↔
    userId ∈ ids.map StoredId.id ∧ userId ∉ before.userIdsOf conversationId
  nodup_added : added.Nodup

namespace Adds

variable {conversationId : ObjectId} {ids : List ObjectId}
  {added : List StoredId} {before after : ConversationStore}

theorem nil (s : ConversationStore) (conversationId : ObjectId) :
    Adds conversationId [] [] s s :=
  ⟨.refl s conversationId, by simp, List.nodup_nil⟩

/-- A user who has a row is passed over. -/
theorem cons_present {id : ObjectId}
    (hid : StoredId.id id ∈ before.userIdsOf conversationId)
    (hadds : Adds conversationId ids added before after) :
    Adds conversationId (id :: ids) added before after := by
  refine ⟨hadds.toExtends, ?_, hadds.nodup_added⟩
  intro userId
  rw [hadds.mem_added, List.map_cons, List.mem_cons]
  constructor
  · exact fun hboth => ⟨Or.inr hboth.1, hboth.2⟩
  · rintro ⟨rfl | hlater, hnew⟩
    · exact absurd hid hnew
    · exact ⟨hlater, hnew⟩

/-- A user without a row gets one in front of the others. -/
theorem cons_absent {id : ObjectId} {role : Option ParticipantRole}
    (hid : StoredId.id id ∉ before.userIdsOf conversationId)
    (hadds : Adds conversationId ids added
      (before.addRow ⟨conversationId, .id id, role⟩) after) :
    Adds conversationId (id :: ids) (.id id :: added) before after := by
  have hrow := extends_addRow before conversationId (.id id) role
  refine ⟨hrow.trans hadds.toExtends, ?_, ?_⟩
  · intro userId
    rw [List.mem_cons, hadds.mem_added, hrow.userIds, List.map_cons,
      List.mem_cons, List.mem_append, List.mem_singleton]
    by_cases hsame : userId = .id id
    · simp [hsame, hid]
    · simp [hsame]
  · rw [List.nodup_cons]
    refine ⟨fun hagain => ?_, hadds.nodup_added⟩
    apply ((hadds.mem_added _).1 hagain).2
    rw [hrow.userIds]
    simp

theorem mem_userIds (hadds : Adds conversationId ids added before after)
    {id : ObjectId} (hid : id ∈ ids) :
    StoredId.id id ∈ after.userIdsOf conversationId := by
  rw [hadds.userIds, List.mem_append]
  by_cases hmem : StoredId.id id ∈ before.userIdsOf conversationId
  · exact Or.inl hmem
  · exact Or.inr ((hadds.mem_added _).2 ⟨List.mem_map_of_mem hid, hmem⟩)

theorem length_le (hadds : Adds conversationId ids added before after) :
    added.length ≤ ids.length := by
  have hlength : added.length ≤ (ids.map StoredId.id).length :=
    hadds.nodup_added.length_le_of_subset
      (fun userId hmem => ((hadds.mem_added userId).1 hmem).1)
  simpa using hlength

theorem nodup (hadds : Adds conversationId ids added before after)
    (hbefore : (before.userIdsOf conversationId).Nodup) :
    (after.userIdsOf conversationId).Nodup := by
  rw [hadds.userIds, List.nodup_append']
  refine ⟨hbefore, hadds.nodup_added, ?_⟩
  intro userId hold hnew
  exact ((hadds.mem_added userId).1 hnew).2 hold

end Adds

/-- Rows of one conversation were dropped, those of the users listed. -/
structure Shrinks (conversationId : ObjectId) (removed : List ObjectId)
    (before after : ConversationStore) : Prop where
  users : after.users = before.users
  conversations : after.conversations = before.conversations
  nextId : after.nextId = before.nextId
  rows : after.participants = before.participants.filter (fun row =>
    ¬ (row.conversationId = conversationId ∧
      row.userId ∈ removed.map StoredId.id))
  found : ∀ id ∈ removed, StoredId.id id ∈ before.userIdsOf conversationId
  nodup : removed.Nodup

namespace Shrinks

variable {conversationId : ObjectId} {removed : List ObjectId}
  {before after : ConversationStore}

theorem others (hshrinks : Shrinks conversationId removed before after)
    (other : ObjectId) (hother : other ≠ conversationId) :
    after.userIdsOf other = before.userIdsOf other := by
  rw [userIdsOf, rowsOf, hshrinks.rows, List.filter_filter, userIdsOf,
    rowsOf]
  congr 1
  apply List.filter_congr
  intro row _
  by_cases hrow : row.conversationId = other
  · simp [hrow, hother]
  · simp [hrow]

theorem userIds (hshrinks : Shrinks conversationId removed before after) :
    after.userIdsOf conversationId =
      (before.userIdsOf conversationId).filter
        (fun userId => userId ∉ removed.map StoredId.id) := by
  rw [userIdsOf, rowsOf, hshrinks.rows, List.filter_filter, userIdsOf,
    List.filter_map, rowsOf, List.filter_filter]
  congr 1
  apply List.filter_congr
  intro row _
  by_cases hrow : row.conversationId = conversationId
  · simp [hrow]
  · simp [hrow]

theorem refl (s : ConversationStore) (conversationId : ObjectId) :
    Shrinks conversationId [] s s where
  users := rfl
  conversations := rfl
  nextId := rfl
  rows := by simp
  found := by simp
  nodup := List.nodup_nil

/-- One more user is removed in front of the others. -/
theorem cons {s : ConversationStore} {id : ObjectId}
    (hid : StoredId.id id ∈ s.userIdsOf conversationId)
    (hrest : Shrinks conversationId removed
      (s.dropRows conversationId (.id id)) after) :
    Shrinks conversationId (id :: removed) s after := by
  have hdropped := s.userIdsOf_dropRows conversationId (.id id)
  constructor
  · exact hrest.users
  · exact hrest.conversations
  · exact hrest.nextId
  · rw [hrest.rows, dropRows, List.filter_filter]
    apply List.filter_congr
    intro row _
    by_cases hrow : row.conversationId = conversationId
    · by_cases hsame : row.userId = .id id <;> simp [hrow, hsame]
    · simp [hrow]
  · intro other hother
    rcases List.mem_cons.1 hother with rfl | hlater
    · exact hid
    · have hfound := hrest.found other hlater
      rw [hdropped, List.mem_filter] at hfound
      exact hfound.1
  · rw [List.nodup_cons]
    refine ⟨fun hagain => ?_, hrest.nodup⟩
    have hfound := hrest.found id hagain
    rw [hdropped, List.mem_filter] at hfound
    simp at hfound

end Shrinks

/-- A user without a row is passed over. -/
theorem dropRows_of_not_mem {conversationId : ObjectId}
    {s : ConversationStore} {userId : StoredId}
    (huser : userId ∉ s.userIdsOf conversationId) :
    s.dropRows conversationId userId = s := by
  have hkept : s.participants.filter (fun row =>
      ¬ (row.conversationId = conversationId ∧ row.userId = userId)) =
      s.participants := by
    rw [List.filter_eq_self]
    intro row hrow
    rw [decide_eq_true_eq]
    exact fun hboth => huser (mem_userIdsOf.2 ⟨row, hrow, hboth⟩)
  simp only [dropRows, hkept]

/-- The number of rows, when every user has at most one. -/
theorem Shrinks.length {conversationId : ObjectId} {removed : List ObjectId}
    {s after : ConversationStore}
    (hshrinks : Shrinks conversationId removed s after)
    (hnodup : (s.userIdsOf conversationId).Nodup) :
    (after.userIdsOf conversationId).length + removed.length =
      (s.userIdsOf conversationId).length := by
  have hremoved : ((s.userIdsOf conversationId).filter
      (fun userId => userId ∈ removed.map StoredId.id)).length =
      removed.length := by
    rw [← List.length_map (f := StoredId.id)]
    apply List.Perm.length_eq
    rw [List.perm_ext_iff_of_nodup (hnodup.filter _)]
    · intro userId
      simp only [List.mem_filter, decide_eq_true_eq]
      refine ⟨And.right, fun hmem => ⟨?_, hmem⟩⟩
      obtain ⟨id, hid, rfl⟩ := List.mem_map.1 hmem
      exact hshrinks.found id hid
    · exact hshrinks.nodup.map (fun a b hab => by cases hab; rfl)
  rw [hshrinks.userIds, ← hremoved]
  have hsplit := List.length_eq_length_filter_add
    (l := s.userIdsOf conversationId)
    (fun userId => decide (userId ∈ removed.map StoredId.id))
  simp only [decide_not] at *
  omega

end ConversationStore

namespace ConversationService

open ConversationStore Fallible

variable (config : ConversationConfig)

/-- An upsert by id. -/
theorem upsertParticipant_hex (server : MongoServer) (s : ConversationStore)
    (conversationId id : ObjectId) (isLowerCase : Bool)
    (role : Option ParticipantRole) :
    s.upsertParticipant server conversationId (.hex id isLowerCase) role =
      if StoredId.id id ∈ s.userIdsOf conversationId then (.ok none, s)
      else (.ok (some (.id id)), s.addRow ⟨conversationId, .id id, role⟩) := by
  have hany : (s.participants.any (fun row =>
      row.conversationId = conversationId ∧
        server.matchesId (.id id) row.userId)) = true ↔
      StoredId.id id ∈ s.userIdsOf conversationId := by
    rw [mem_userIdsOf, List.any_eq_true]
    refine exists_congr (fun row => and_congr_right (fun _ => ?_))
    rw [decide_eq_true_eq, MongoServer.matchesId_id, decide_eq_true_eq]
    exact and_congr_right (fun _ => eq_comm)
  change (if s.participants.any (fun row =>
      row.conversationId = conversationId ∧
        server.matchesId (.id id) row.userId) then (Except.ok none, s)
    else (Except.ok (some (StoredId.id id)),
      s.addRow ⟨conversationId, .id id, role⟩)) = _
  by_cases hmem : StoredId.id id ∈ s.userIdsOf conversationId
  · rw [if_pos hmem, if_pos (hany.2 hmem)]
  · rw [if_neg hmem, if_neg (fun hfound => hmem (hany.1 hfound))]

/-- The loop over users to add, given by their ids. -/
theorem exec_addNoExistedParticipants (held : HeldConversation)
    (conversationId : ObjectId) (ids : List (ObjectId × Option ParticipantRole))
    (s : ConversationStore) :
    ∃ added after,
      (addNoExistedParticipants config held conversationId
        (ids.map (fun (id, role) => (IdParam.hex id true, role)))).exec s =
        (.ok added, after) ∧
      Adds conversationId (ids.map Prod.fst) added s after := by
  induction ids generalizing s with
  | nil => exact ⟨[], s, rfl, .nil s conversationId⟩
  | cons head ids ih =>
      obtain ⟨id, role⟩ := head
      by_cases hmem : StoredId.id id ∈ s.userIdsOf conversationId
      · obtain ⟨added, after, hexec, hadds⟩ := ih s
        refine ⟨added, after, ?_, hadds.cons_present hmem⟩
        have hstep : (command held (fun s => s.upsertParticipant
            config.server conversationId (.hex id true) role)).exec s =
            (.ok none, s) := by
          rw [exec_command, upsertParticipant_hex, if_pos hmem]
        rw [List.map_cons, addNoExistedParticipants, exec_bind_ok hstep,
          exec_bind_ok hexec]
        rfl
      · obtain ⟨added, after, hexec, hadds⟩ :=
          ih (s.addRow ⟨conversationId, .id id, role⟩)
        refine ⟨.id id :: added, after, ?_, hadds.cons_absent hmem⟩
        have hstep : (command held (fun s => s.upsertParticipant
            config.server conversationId (.hex id true) role)).exec s =
            (.ok (some (.id id)),
              s.addRow ⟨conversationId, .id id, role⟩) := by
          rw [exec_command, upsertParticipant_hex, if_neg hmem]
        rw [List.map_cons, addNoExistedParticipants, exec_bind_ok hstep,
          exec_bind_ok hexec]
        rfl

theorem deleteParticipant_eq (s : ConversationStore)
    (conversationId id : ObjectId) :
    s.deleteParticipant conversationId id =
      (decide (StoredId.id id ∈ s.userIdsOf conversationId),
        s.dropRows conversationId (.id id)) := by
  simp only [deleteParticipant, Prod.mk.injEq, and_true]
  rw [Bool.eq_iff_iff, decide_eq_true_eq, mem_userIdsOf, List.any_eq_true]
  simp

theorem exec_deleteParticipant (held : HeldConversation)
    (conversationId id : ObjectId) (s : ConversationStore) :
    (command held (fun s : ConversationStore =>
      let (isDeleted, after) := s.deleteParticipant conversationId id
      ((.ok isDeleted : Except ConversationError Bool), after))).exec s =
      (.ok (decide (StoredId.id id ∈ s.userIdsOf conversationId)),
        s.dropRows conversationId (.id id)) := by
  rw [exec_command, deleteParticipant_eq]

/-- The loop over users to remove. -/
theorem exec_removeExistedParticipants (held : HeldConversation)
    (conversationId : ObjectId) (ids : List ObjectId)
    (s : ConversationStore) :
    ∃ removed after,
      (removeExistedParticipants held conversationId ids).exec s =
        (.ok removed, after) ∧
      Shrinks conversationId removed s after ∧
      (∀ id, id ∈ removed ↔
        id ∈ ids ∧ StoredId.id id ∈ s.userIdsOf conversationId) := by
  induction ids generalizing s with
  | nil => exact ⟨[], s, rfl, .refl s conversationId, by simp⟩
  | cons id ids ih =>
      obtain ⟨removed, after, hexec, hshrinks, hremoved⟩ :=
        ih (s.dropRows conversationId (.id id))
      by_cases hmem : StoredId.id id ∈ s.userIdsOf conversationId
      · refine ⟨id :: removed, after, ?_, .cons hmem hshrinks, ?_⟩
        · have hstep := exec_deleteParticipant held conversationId id s
          rw [decide_eq_true hmem] at hstep
          rw [removeExistedParticipants, exec_bind_ok hstep,
            exec_bind_ok hexec]
          rfl
        · intro other
          rw [List.mem_cons, List.mem_cons, hremoved, userIdsOf_dropRows,
            List.mem_filter]
          by_cases hsame : other = id
          · simp [hsame, hmem]
          · simp [hsame]
      · have hsame := dropRows_of_not_mem hmem
        rw [hsame] at hexec hshrinks hremoved
        refine ⟨removed, after, ?_, hshrinks, ?_⟩
        · have hstep := exec_deleteParticipant held conversationId id s
          rw [decide_eq_false hmem, hsame] at hstep
          rw [removeExistedParticipants, exec_bind_ok hstep,
            exec_bind_ok hexec]
          rfl
        · intro other
          rw [hremoved, List.mem_cons]
          constructor
          · exact fun hboth => ⟨Or.inr hboth.1, hboth.2⟩
          · rintro ⟨rfl | hlater, hfound⟩
            · exact absurd hfound hmem
            · exact ⟨hlater, hfound⟩

/-- Ids in lower case are equal as texts exactly when they are equal. -/
theorem isEqualsNativeIds_hex (id : ObjectId) (ownerId : StoredId) :
    (IdParam.hex id true).isEqualsNativeIds ownerId.param =
      .ok (decide (StoredId.id id = ownerId)) := by
  rcases ownerId with owner | ⟨value⟩ | ⟨operator⟩
  · simp only [StoredId.param, IdParam.isEqualsNativeIds, IdParam.text?,
      StoredId.id.injEq]
    change Except.ok _ = Except.ok _
    simp
  · rfl
  · rfl

theorem createParticipantsParams_ids (conversation : ConversationModel)
    (ids : List ObjectId) :
    createParticipantsParams conversation
        (ids.map (fun id => IdParam.hex id true)) =
      .ok ((ids.map (fun id => (id,
        if StoredId.id id = conversation.params.ownerId then
          some ParticipantRole.owner else none))).map
        (fun (id, role) => (IdParam.hex id true, role))) := by
  induction ids with
  | nil => rfl
  | cons id ids ih =>
      rw [createParticipantsParams] at ih ⊢
      rw [List.map_cons, List.mapM_cons, ih, isEqualsNativeIds_hex]
      change Except.ok _ = Except.ok _
      simp

/-- The count that an addition starts from. -/
def countBefore (conversation : ConversationModel) (isEmpty : Bool)
    (s : ConversationStore) : SubscribersCount :=
  if isEmpty then .int 0
  else if conversation.params.type = .c then
    conversation.params.subscribersCount
  else .int (s.userIdsOf conversation.id).length

theorem exec_currentParticipantsCount (conversation : ConversationModel)
    (isEmpty : Bool) (s : ConversationStore) :
    (currentParticipantsCount conversation isEmpty).exec s =
      (.ok (countBefore conversation isEmpty s), s) := by
  rw [currentParticipantsCount, countBefore]
  split
  · rfl
  · split
    · rfl
    · simp [userIdsOf]

/-- An addition that would exceed the limit changes nothing. -/
theorem exec_addParticipants_limit (conversation : ConversationModel)
    (participantIds : List IdParam) (isEmpty : Bool) (s : ConversationStore)
    (hlimit : ((countBefore conversation isEmpty s).plus
      participantIds.length).exceeds config.maxParticipants = true) :
    (addParticipants config conversation participantIds isEmpty).exec s =
      (.error (.cause .participantsLimit), s) := by
  rw [addParticipants, exec_bind_ok (exec_currentParticipantsCount _ _ _),
    if_pos hlimit, exec_fail]

/-- The count of a channel is written, other conversations have none. -/
def writeCount (conversation : ConversationModel) (count : SubscribersCount)
    (s : ConversationStore) : ConversationStore :=
  if conversation.params.type = .c then
    s.updateConversation conversation.id (fun params =>
      { params with subscribersCount := count })
  else s

/-- The conversation that the caller goes on with after an addition. -/
def withCount (conversation : ConversationModel) (count : SubscribersCount) :
    ConversationModel :=
  if conversation.params.type = .c then
    conversation.setSubscribersCount count
  else conversation

/-- An addition of users within the limit. -/
theorem exec_addParticipants (conversation : ConversationModel)
    (ids : List ObjectId) (isEmpty : Bool) (s : ConversationStore)
    (hlimit : ((countBefore conversation isEmpty s).plus
      ids.length).exceeds config.maxParticipants = false) :
    ∃ added grown, Adds conversation.id ids added s grown ∧
      (addParticipants config conversation
        (ids.map (fun id => IdParam.hex id true)) isEmpty).exec s =
        (.ok (added, withCount conversation
          ((countBefore conversation isEmpty s).plus added.length)),
          writeCount conversation
            ((countBefore conversation isEmpty s).plus added.length)
            grown) := by
  obtain ⟨added, grown, hexec, hadds⟩ :=
    exec_addNoExistedParticipants config (some conversation.id)
      conversation.id (ids.map (fun id => (id,
        if StoredId.id id = conversation.params.ownerId then
          some ParticipantRole.owner else none))) s
  rw [List.map_map] at hadds
  refine ⟨added, grown, by simpa [Function.comp_def] using hadds, ?_⟩
  have hnot : ¬ ((countBefore conversation isEmpty s).plus
      (ids.map (fun id => IdParam.hex id true)).length).exceeds
      config.maxParticipants = true := by
    rw [List.length_map, hlimit]
    simp
  rw [addParticipants, exec_bind_ok (exec_currentParticipantsCount _ _ _),
    if_neg hnot, createParticipantsParams_ids,
    exec_bind_ok (exec_ofExcept _ _), exec_bind_ok hexec]
  rw [withCount, writeCount]
  split
  · rfl
  · rfl

/-- The owner after a removal: one who was removed is followed by the first
participant that is found. -/
def writeOwner (conversation : ConversationModel) (removed : List ObjectId)
    (userId : StoredId) (s : ConversationStore) : ConversationStore :=
  if isOwnerInRemove conversation removed ∧
      conversation.params.type ≠ .u then
    s.updateConversation conversation.id (fun params =>
      { params with ownerId := userId })
  else s

theorem exec_updateRemovedOwner (conversation : ConversationModel)
    (removed : List ObjectId) (userId : StoredId) (s : ConversationStore) :
    (updateRemovedOwner conversation removed userId).exec s =
      (.ok (if isOwnerInRemove conversation removed ∧
          conversation.params.type ≠ .u then some userId else none),
        writeOwner conversation removed userId s) := by
  rw [updateRemovedOwner, writeOwner]
  split
  · rfl
  · rfl

theorem exec_updateRemovedCount (conversation : ConversationModel)
    (removed : List ObjectId) (s : ConversationStore) :
    (updateRemovedCount conversation removed).exec s =
      (.ok (), writeCount conversation
        (conversation.params.subscribersCount.minus removed.length) s) := by
  rw [updateRemovedCount, writeCount]
  split
  · rfl
  · rfl

/-- A removal deletes a conversation without participants; any other keeps
its owner and its count up to date. -/
theorem exec_removeParticipants (conversation : ConversationModel)
    (ids : List ObjectId) (s : ConversationStore) :
    ∃ removed shrunk,
      Shrinks conversation.id removed s shrunk ∧
      (∀ id, id ∈ removed ↔
        id ∈ ids ∧ StoredId.id id ∈ s.userIdsOf conversation.id) ∧
      (shrunk.userIdsOf conversation.id = [] ∧
          (removeParticipants config conversation ids).exec s =
            (.ok ⟨removed, none, true⟩,
              shrunk.deleteConversation conversation.id) ∨
        ∃ userId newOwnerId,
          userId ∈ shrunk.userIdsOf conversation.id ∧
          (removeParticipants config conversation ids).exec s =
            (.ok ⟨removed, newOwnerId, false⟩,
              writeCount conversation
                (conversation.params.subscribersCount.minus removed.length)
                (writeOwner conversation removed userId shrunk))) := by
  obtain ⟨removed, shrunk, hexec, hshrinks, hremoved⟩ :=
    exec_removeExistedParticipants (some conversation.id) conversation.id
      ids s
  refine ⟨removed, shrunk, hshrinks, hremoved, ?_⟩
  rw [removeParticipants, exec_bind_ok hexec, exec_query_bind]
  cases hfirst : shrunk.findFirstConversationParticipant config.server
    conversation.id none with
  | none =>
      left
      rw [findFirstConversationParticipant,
        Documents.Choice.pick_eq_none_iff] at hfirst
      simp only [Option.all_none, List.filter_true] at hfirst
      refine ⟨by rw [userIdsOf, hfirst]; rfl, ?_⟩
      rfl
  | some row =>
      right
      rw [findFirstConversationParticipant] at hfirst
      have hrow := config.server.pickParticipant.mem _ _ hfirst
      simp only [Option.all_none, List.filter_true] at hrow
      have howner := exec_updateRemovedOwner conversation removed row.userId
        shrunk
      refine ⟨row.userId, if isOwnerInRemove conversation removed ∧
        conversation.params.type ≠ .u then some row.userId else none,
        List.mem_map_of_mem hrow, ?_⟩
      dsimp only
      rw [exec_bind_ok howner,
        exec_bind_ok (exec_updateRemovedCount conversation removed _),
        exec_pure]

end ConversationService

end SamaServer
