/-
The participants of groups and channels.  Along every run of requests that
succeed, each of these conversations has one row for each participant, at
most as many as the limit, an owner among them, and a count that agrees.
-/
import SamaServer.ParticipantRows

namespace SamaServer

namespace ConversationStore

open Fallible ConversationService

variable {s t r : ConversationStore} {c : ObjectId}

/-- Nothing happened outside one conversation. -/
structure OnlyAt (c : ObjectId) (before after : ConversationStore) :
    Prop where
  users : after.users = before.users
  nextId : before.nextId ≤ after.nextId
  conversations : ∀ other ≠ c,
    after.conversations.get? other = before.conversations.get? other
  userIds : ∀ other ≠ c, after.userIdsOf other = before.userIdsOf other

namespace OnlyAt

theorem refl (c : ObjectId) (s : ConversationStore) : OnlyAt c s s :=
  ⟨rfl, Nat.le_refl _, fun _ _ => rfl, fun _ _ => rfl⟩

theorem trans (hfirst : OnlyAt c s t) (hsecond : OnlyAt c t r) :
    OnlyAt c s r where
  users := hsecond.users.trans hfirst.users
  nextId := Nat.le_trans hfirst.nextId hsecond.nextId
  conversations := fun other hother =>
    (hsecond.conversations other hother).trans
      (hfirst.conversations other hother)
  userIds := fun other hother =>
    (hsecond.userIds other hother).trans (hfirst.userIds other hother)

theorem of_extends {added : List StoredId} (hextends : Extends c added s t) :
    OnlyAt c s t where
  users := hextends.users
  nextId := hextends.nextId
  conversations := fun _ _ => by rw [hextends.conversations]
  userIds := hextends.others

theorem of_shrinks {removed : List ObjectId}
    (hshrinks : Shrinks c removed s t) : OnlyAt c s t where
  users := hshrinks.users
  nextId := Nat.le_of_eq hshrinks.nextId.symm
  conversations := fun _ _ => by rw [hshrinks.conversations]
  userIds := hshrinks.others

theorem updateConversation (s : ConversationStore) (c : ObjectId)
    (update : Conversation → Conversation) :
    OnlyAt c s (s.updateConversation c update) where
  users := rfl
  nextId := Nat.le_refl _
  conversations := by
    intro other hother
    simp [hother]
  userIds := fun _ _ => rfl

theorem deleteConversation (s : ConversationStore) (c : ObjectId) :
    OnlyAt c s (s.deleteConversation c) where
  users := rfl
  nextId := Nat.le_refl _
  conversations := by
    intro other hother
    simp [hother]
  userIds := fun _ _ => rfl

end OnlyAt

/-- What holds of a group or a channel that is stored. -/
structure Healthy (limit : Nat) (s : ConversationStore) (id : ObjectId)
    (conversation : Conversation) : Prop where
  nodup : (s.userIdsOf id).Nodup
  limit : (s.userIdsOf id).length ≤ limit
  owner : conversation.ownerId ∈ s.userIdsOf id
  count : conversation.type = .c →
    conversation.subscribersCount = .int (s.userIdsOf id).length

/-- Groups and channels are healthy, and no row waits for a conversation that
does not exist yet. -/
structure Populated (limit : Nat) (s : ConversationStore) : Prop where
  healthy : ∀ id conversation,
    s.conversations.get? id = some conversation → conversation.type ≠ .u →
    Healthy limit s id conversation
  unused : ∀ id, s.nextId ≤ id → s.userIdsOf id = []

variable {limit : Nat}

theorem populated_empty : Populated limit empty where
  healthy := by simp [empty]
  unused := by simp [empty, userIdsOf, rowsOf]

/-- Only the conversation that was worked on has to be looked at. -/
theorem Populated.of_onlyAt (hpopulated : Populated limit s)
    (honly : OnlyAt c s t) (hbelow : c < t.nextId)
    (hhealthy : ∀ conversation, t.conversations.get? c = some conversation →
      conversation.type ≠ .u → Healthy limit t c conversation) :
    Populated limit t where
  healthy := by
    intro id conversation hget htype
    by_cases hid : id = c
    · subst hid
      exact hhealthy conversation hget htype
    · rw [honly.conversations id hid] at hget
      have hold := hpopulated.healthy id conversation hget htype
      constructor
      · rw [honly.userIds id hid]
        exact hold.nodup
      · rw [honly.userIds id hid]
        exact hold.limit
      · rw [honly.userIds id hid]
        exact hold.owner
      · rw [honly.userIds id hid]
        exact hold.count
  unused := by
    intro id hid
    have hne : id ≠ c := Nat.ne_of_gt (Nat.lt_of_lt_of_le hbelow hid)
    rw [honly.userIds id hne]
    exact hpopulated.unused id (Nat.le_trans honly.nextId hid)

/-- A conversation that is stored has an id in use. -/
theorem lt_nextId (s : ConversationStore) {id : ObjectId}
    {conversation : Conversation}
    (hget : s.conversations.get? id = some conversation) : id < s.nextId :=
  s.conversations_below id
    ((s.conversations.mem_keys_iff id).2 ⟨conversation, hget⟩)

/-- The fields of a conversation that the rows are compared with. -/
theorem Healthy.congr {id : ObjectId} {first second : Conversation}
    (hfirst : Healthy limit s id first)
    (howner : second.ownerId = first.ownerId)
    (htype : second.type = first.type)
    (hcount : second.subscribersCount = first.subscribersCount) :
    Healthy limit s id second := by
  refine ⟨hfirst.nodup, hfirst.limit, ?_, ?_⟩
  · rw [howner]
    exact hfirst.owner
  · rw [htype, hcount]
    exact hfirst.count

theorem get?_writeCount (conversation : ConversationModel)
    (count : SubscribersCount) (s : ConversationStore) :
    (writeCount conversation count s).conversations.get? conversation.id =
      (s.conversations.get? conversation.id).map (fun params =>
        if conversation.params.type = .c then
          { params with subscribersCount := count }
        else params) := by
  rw [writeCount]
  split
  · simp
  · simp

theorem onlyAt_writeCount (conversation : ConversationModel)
    (count : SubscribersCount) (s : ConversationStore) :
    OnlyAt conversation.id s (writeCount conversation count s) := by
  rw [writeCount]
  split
  · exact .updateConversation s conversation.id _
  · exact .refl conversation.id s

theorem userIdsOf_writeCount (conversation : ConversationModel)
    (count : SubscribersCount) (s : ConversationStore) (id : ObjectId) :
    (writeCount conversation count s).userIdsOf id = s.userIdsOf id := by
  rw [writeCount]
  split <;> rfl

/-- A healthy conversation is asked for the number of its rows. -/
theorem Healthy.countBefore {conversation : ConversationModel}
    (hhealthy : Healthy limit s conversation.id conversation.params) :
    countBefore conversation false s =
      .int (s.userIdsOf conversation.id).length := by
  rw [ConversationService.countBefore, if_neg (by simp)]
  split
  · next htype => exact hhealthy.count htype
  · rfl

/-- An addition of users to a stored conversation keeps it healthy, and the
caller goes on with what is stored. -/
theorem addParticipants_populated {config : ConversationConfig}
    (hpopulated : Populated config.maxParticipants s)
    {conversation updated : ConversationModel} {ids : List ObjectId}
    {added : List StoredId}
    (hget : s.conversations.get? conversation.id = some conversation.params)
    (hexec : (addParticipants config conversation
      (ids.map (fun id => IdParam.hex id true)) false).exec s =
        (.ok (added, updated), t)) :
    Populated config.maxParticipants t ∧ updated.id = conversation.id ∧
      t.conversations.get? updated.id = some updated.params := by
  cases hlimit : ((countBefore conversation false s).plus ids.length).exceeds
      config.maxParticipants with
  | true =>
      rw [exec_addParticipants_limit config conversation _ false s
        (by simpa using hlimit)] at hexec
      cases hexec
  | false =>
      obtain ⟨added', after, hadds, hadd⟩ :=
        exec_addParticipants config conversation ids false s hlimit
      rw [hadd] at hexec
      cases hexec
      have honly := (OnlyAt.of_extends hadds.toExtends).trans
        (onlyAt_writeCount conversation
          ((countBefore conversation false s).plus added.length) after)
      have hstored := get?_writeCount conversation
        ((countBefore conversation false s).plus added.length) after
      rw [hadds.conversations, hget, Option.map_some] at hstored
      refine ⟨hpopulated.of_onlyAt honly
        (Nat.lt_of_lt_of_le (s.lt_nextId hget) honly.nextId) ?_, ?_, ?_⟩
      · intro stored hfound htype
        rw [hstored, Option.some_inj] at hfound
        have hsame : stored.type = conversation.params.type ∧
            stored.ownerId = conversation.params.ownerId := by
          rw [← hfound]
          split <;> exact ⟨rfl, rfl⟩
        rw [hsame.1] at htype
        have hold := hpopulated.healthy _ _ hget htype
        rw [hold.countBefore] at hlimit hfound ⊢
        have hwithin : (s.userIdsOf conversation.id).length + ids.length ≤
            config.maxParticipants := by
          simp only [SubscribersCount.plus, SubscribersCount.exceeds,
            decide_eq_false_iff_not, Int.not_lt] at hlimit
          omega
        constructor
        · rw [userIdsOf_writeCount]
          exact hadds.nodup hold.nodup
        · rw [userIdsOf_writeCount, hadds.userIds, List.length_append]
          have := hadds.length_le
          omega
        · rw [userIdsOf_writeCount, hadds.userIds, hsame.2]
          exact List.mem_append_left _ hold.owner
        · intro hchannel
          rw [userIdsOf_writeCount, hadds.userIds, List.length_append,
            ← hfound, if_pos (hsame.1.symm.trans hchannel)]
          simp only [SubscribersCount.plus, SubscribersCount.int.injEq]
          omega
      · rw [withCount]
        split <;> rfl
      · have hid : (withCount conversation ((countBefore conversation false
            s).plus added.length)).id = conversation.id := by
          rw [withCount]
          split <;> rfl
        rw [hid, hstored, withCount]
        split <;> rfl

theorem get?_writeOwner (conversation : ConversationModel)
    (removed : List ObjectId) (userId : StoredId) (s : ConversationStore) :
    (writeOwner conversation removed userId s).conversations.get?
        conversation.id =
      (s.conversations.get? conversation.id).map (fun params =>
        if isOwnerInRemove conversation removed ∧
            conversation.params.type ≠ .u then
          { params with ownerId := userId }
        else params) := by
  rw [writeOwner]
  split
  · simp
  · simp

theorem onlyAt_writeOwner (conversation : ConversationModel)
    (removed : List ObjectId) (userId : StoredId) (s : ConversationStore) :
    OnlyAt conversation.id s (writeOwner conversation removed userId s) := by
  rw [writeOwner]
  split
  · exact .updateConversation s conversation.id _
  · exact .refl conversation.id s

theorem userIdsOf_writeOwner (conversation : ConversationModel)
    (removed : List ObjectId) (userId : StoredId) (s : ConversationStore)
    (id : ObjectId) :
    (writeOwner conversation removed userId s).userIdsOf id =
      s.userIdsOf id := by
  rw [writeOwner]
  split <;> rfl

/-- A removal of users from a stored conversation keeps it healthy or deletes
it. -/
theorem removeParticipants_populated {config : ConversationConfig}
    (hpopulated : Populated config.maxParticipants s)
    {conversation : ConversationModel} {ids : List ObjectId}
    {result : RemoveResult}
    (hget : s.conversations.get? conversation.id = some conversation.params)
    (hexec : (removeParticipants config conversation ids).exec s =
      (.ok result, t)) :
    Populated config.maxParticipants t ∧
      (result.isEmptyAndDeleted = false →
        ∃ stored, t.conversations.get? conversation.id = some stored) := by
  obtain ⟨removed, shrunk, hshrinks, hremoved, hcases⟩ :=
    exec_removeParticipants config conversation ids s
  have hbelow := s.lt_nextId hget
  rcases hcases with ⟨_, hdeleted⟩ | ⟨userId, newOwnerId, huser, hkept⟩
  · rw [hdeleted] at hexec
    cases hexec
    have honly := (OnlyAt.of_shrinks hshrinks).trans
      (.deleteConversation shrunk conversation.id)
    refine ⟨hpopulated.of_onlyAt honly
      (Nat.lt_of_lt_of_le hbelow honly.nextId) ?_, by simp⟩
    intro stored hfound
    simp at hfound
  · rw [hkept] at hexec
    cases hexec
    have honly := ((OnlyAt.of_shrinks hshrinks).trans
      (onlyAt_writeOwner conversation removed userId shrunk)).trans
      (onlyAt_writeCount conversation
        (conversation.params.subscribersCount.minus removed.length) _)
    have hstored := get?_writeCount conversation
      (conversation.params.subscribersCount.minus removed.length)
      (writeOwner conversation removed userId shrunk)
    rw [get?_writeOwner, hshrinks.conversations, hget] at hstored
    refine ⟨hpopulated.of_onlyAt honly
      (Nat.lt_of_lt_of_le hbelow honly.nextId) ?_, fun _ => ⟨_, hstored⟩⟩
    intro stored hfound htype
    rw [hstored, Option.map_some, Option.map_some, Option.some_inj] at hfound
    have htypeSame : stored.type = conversation.params.type := by
      rw [← hfound]
      split <;> split <;> rfl
    rw [htypeSame] at htype
    have hold := hpopulated.healthy _ _ hget htype
    have hlength := hshrinks.length hold.nodup
    constructor
    · rw [userIdsOf_writeCount, userIdsOf_writeOwner, hshrinks.userIds]
      exact hold.nodup.filter _
    · rw [userIdsOf_writeCount, userIdsOf_writeOwner]
      have := hold.limit
      omega
    · rw [userIdsOf_writeCount, userIdsOf_writeOwner]
      have howner : stored.ownerId =
          if isOwnerInRemove conversation removed ∧
            conversation.params.type ≠ .u then userId
          else conversation.params.ownerId := by
        rw [← hfound]
        split <;> split <;> rfl
      rw [howner]
      split
      · exact huser
      · next hstays =>
          rw [hshrinks.userIds, List.mem_filter, decide_eq_true_eq]
          refine ⟨hold.owner, fun hgone => hstays ⟨?_, htype⟩⟩
          obtain ⟨id, hid, howner⟩ := List.mem_map.1 hgone
          exact List.any_eq_true.2 ⟨id, hid, decide_eq_true howner⟩
    · intro hchannel
      rw [userIdsOf_writeCount, userIdsOf_writeOwner, ← hfound,
        if_pos (htypeSame.symm.trans hchannel),
        hold.count (htypeSame.symm.trans hchannel)]
      simp only [SubscribersCount.minus, SubscribersCount.int.injEq]
      omega

/-! ### Any values in the place of ids -/

theorem upsertParticipant_cases (server : MongoServer)
    (s : ConversationStore) (c : ObjectId) (participantId : IdParam)
    (role : Option ParticipantRole) :
    s.upsertParticipant server c participantId role =
        (.error .databaseError, s) ∨
      s.upsertParticipant server c participantId role = (.ok none, s) ∨
      s.upsertParticipant server c participantId role =
        (.ok (some (participantId.castObjectId s.nextId)),
          s.addRow ⟨c, participantId.castObjectId s.nextId, role⟩) := by
  rw [upsertParticipant]
  split
  · exact Or.inl rfl
  · split
    · exact Or.inr (Or.inl rfl)
    · exact Or.inr (Or.inr rfl)

/-- Whatever the loop adds, it adds to one conversation. -/
theorem extends_addNoExistedParticipants (config : ConversationConfig)
    (held : HeldConversation) (c : ObjectId)
    (participantsParams : List (IdParam × Option ParticipantRole))
    (s : ConversationStore) :
    ∃ added, Extends c added s ((addNoExistedParticipants config held c
      participantsParams).exec s).2 := by
  induction participantsParams generalizing s with
  | nil => exact ⟨[], .refl s c⟩
  | cons head participantsParams ih =>
      obtain ⟨participantId, role⟩ := head
      rw [addNoExistedParticipants, exec_command_bind]
      rcases upsertParticipant_cases config.server s c participantId role with
        herror | hnone | hsome
      · rw [herror]
        exact ⟨[], .refl s c⟩
      · obtain ⟨added, hadded⟩ := ih s
        refine ⟨added, ?_⟩
        simp only [hnone, exec_bind_pure_snd]
        exact hadded
      · obtain ⟨added, hadded⟩ := ih
          (s.addRow ⟨c, participantId.castObjectId s.nextId, role⟩)
        refine ⟨participantId.castObjectId s.nextId :: added, ?_⟩
        simp only [hsome, exec_bind_pure_snd]
        exact (extends_addRow s c _ role).trans hadded

/-- An addition to a private conversation leaves all documents. -/
theorem extends_addParticipants_private (config : ConversationConfig)
    (conversation : ConversationModel)
    (htype : conversation.params.type = .u) (participantIds : List IdParam)
    (isEmpty : Bool) (s : ConversationStore) :
    ∃ added, Extends conversation.id added s
      ((addParticipants config conversation participantIds isEmpty).exec
        s).2 := by
  rw [addParticipants, exec_bind_ok (exec_currentParticipantsCount _ _ _)]
  split
  · exact ⟨[], .refl s conversation.id⟩
  · rw [exec_bind, exec_ofExcept]
    cases createParticipantsParams conversation participantIds with
    | error error => exact ⟨[], .refl s conversation.id⟩
    | ok participantsParams =>
        obtain ⟨added, hadded⟩ := extends_addNoExistedParticipants config
          (some conversation.id) conversation.id participantsParams s
        refine ⟨added, ?_⟩
        simp only [exec_bind, htype, reduceCtorEq, if_false]
        split <;> exact hadded

/-! ### The requests -/

/-- The insert of a conversation whose id was never used. -/
theorem onlyAt_insertConversation (s : ConversationStore)
    (params : Conversation) :
    OnlyAt (s.conversationId params) s (s.insertConversation params) where
  users := rfl
  nextId := Nat.le_trans (Nat.le_succ _)
    (Nat.le_trans (Nat.le_max_left _ _) (Nat.le_succ _))
  conversations := by
    intro other hother
    simp [insertConversation, hother]
  userIds := fun _ _ => rfl

theorem get?_insertConversation (s : ConversationStore)
    (params : Conversation) :
    (s.insertConversation params).conversations.get?
      (s.conversationId params) = some params := by
  simp [insertConversation]

/-- The first participants of a conversation, the owner among them. -/
theorem addParticipants_first {config : ConversationConfig}
    (conversation : ConversationModel) {updated : ConversationModel}
    {ids : List ObjectId} {added : List StoredId}
    (hget : s.conversations.get? conversation.id = some conversation.params)
    (hempty : s.userIdsOf conversation.id = [])
    (howner : conversation.params.ownerId ∈ ids.map StoredId.id)
    (hexec : (addParticipants config conversation
      (ids.map (fun id => IdParam.hex id true)) true).exec s =
        (.ok (added, updated), t)) :
    OnlyAt conversation.id s t ∧
      ∀ stored, t.conversations.get? conversation.id = some stored →
        Healthy config.maxParticipants t conversation.id stored := by
  have hzero : countBefore conversation true s = .int 0 := rfl
  cases hlimit : ((countBefore conversation true s).plus ids.length).exceeds
      config.maxParticipants with
  | true =>
      rw [exec_addParticipants_limit config conversation _ true s
        (by simpa using hlimit)] at hexec
      cases hexec
  | false =>
      obtain ⟨added', after, hadds, hadd⟩ :=
        exec_addParticipants config conversation ids true s hlimit
      rw [hadd] at hexec
      cases hexec
      rw [hzero] at hlimit ⊢
      have hrows : after.userIdsOf conversation.id = added := by
        rw [hadds.userIds, hempty, List.nil_append]
      have hstored := get?_writeCount conversation
        (SubscribersCount.plus added.length (.int 0)) after
      rw [hadds.conversations, hget, Option.map_some] at hstored
      refine ⟨(OnlyAt.of_extends hadds.toExtends).trans
        (onlyAt_writeCount conversation _ after), ?_⟩
      intro stored hfound
      rw [hstored, Option.some_inj] at hfound
      have hsame : stored.type = conversation.params.type ∧
          stored.ownerId = conversation.params.ownerId := by
        rw [← hfound]
        split <;> exact ⟨rfl, rfl⟩
      constructor
      · rw [userIdsOf_writeCount]
        apply hadds.nodup
        rw [hempty]
        exact List.nodup_nil
      · rw [userIdsOf_writeCount, hrows]
        simp only [SubscribersCount.plus, SubscribersCount.exceeds,
          decide_eq_false_iff_not, Int.not_lt] at hlimit
        have := hadds.length_le
        omega
      · rw [userIdsOf_writeCount, hsame.2]
        obtain ⟨id, hid, hsameId⟩ := List.mem_map.1 howner
        rw [← hsameId]
        exact hadds.mem_userIds hid
      · intro hchannel
        rw [userIdsOf_writeCount, hrows, ← hfound,
          if_pos (hsame.1.symm.trans hchannel)]
        simp [SubscribersCount.plus]

/-- A new group or channel with its owner among the participants. -/
theorem create_populated {config : ConversationConfig}
    (hpopulated : Populated config.maxParticipants s) {user : User}
    {type : ConversationType} {fields : ConversationFields}
    {isEncrypted : Option EncryptedFlag} {ids : List ObjectId}
    {conversation : ConversationModel} (howner : user.id ∈ ids)
    (hexec : (ConversationService.create config user type fields none
      isEncrypted (ids.map (fun id => IdParam.hex id true))).exec s =
        (.ok conversation, t)) :
    Populated config.maxParticipants t := by
  rw [ConversationService.create, exec_command_bind] at hexec
  dsimp only at hexec
  generalize hparams : preparedParams s user type fields none isEncrypted =
    params at hexec
  have hempty : (s.insertConversation params).userIdsOf
      (s.conversationId params) = [] :=
    hpopulated.unused _ (Nat.le_trans (Nat.le_succ _) (Nat.le_max_left _ _))
  have hfilled : ids.map (fun id => IdParam.hex id true) ≠ [] := by
    intro hnone
    rw [List.map_eq_nil_iff] at hnone
    rw [hnone] at howner
    cases howner
  rw [if_pos hfilled] at hexec
  obtain ⟨⟨added, updated⟩, between, hadd, hlast⟩ := of_exec_bind_ok hexec
  cases hlast
  have hinsert := onlyAt_insertConversation s params
  obtain ⟨honly, hhealthy⟩ := addParticipants_first
    ⟨s.conversationId params, params⟩
    (get?_insertConversation s params) hempty
    (by rw [← hparams]; exact List.mem_map_of_mem howner) hadd
  exact hpopulated.of_onlyAt (hinsert.trans honly)
    (Nat.lt_of_lt_of_le (Nat.lt_succ_self _) honly.nextId)
    (fun stored hstored _ => hhealthy stored hstored)

end ConversationStore

end SamaServer
