/-
Requests on groups and channels, whether they succeed or not.  Such a request
works on one conversation, which is not a private one and does not become one.
-/
import SamaServer.UpdateErrors

namespace SamaServer

namespace ConversationStore

open Fallible ConversationService

variable {s t r : ConversationStore} {config : ConversationConfig}
  {session : ConversationSession} {c : ObjectId}

/-- Nothing happened outside one conversation, which is no private one. -/
structure SharedOnly (c : ObjectId) (before after : ConversationStore) : Prop
    extends OnlyAt c before after where
  below : c < after.nextId
  type : ∀ stored, after.conversations.get? c = some stored →
    stored.type ≠ .u

theorem SharedOnly.refl {stored : Conversation}
    (hget : s.conversations.get? c = some stored) (htype : stored.type ≠ .u) :
    SharedOnly c s s := by
  refine ⟨.refl c s, s.lt_nextId hget, ?_⟩
  intro other hother
  rw [hget, Option.some_inj] at hother
  rw [← hother]
  exact htype

theorem SharedOnly.trans (hfirst : SharedOnly c s t)
    (hsecond : SharedOnly c t r) : SharedOnly c s r :=
  ⟨hfirst.toOnlyAt.trans hsecond.toOnlyAt, hsecond.below, hsecond.type⟩

/-- A conversation that is rewritten or whose rows change keeps its type. -/
theorem SharedOnly.of_onlyAt {stored : Conversation} (honly : OnlyAt c s t)
    (hget : s.conversations.get? c = some stored) (htype : stored.type ≠ .u)
    (hsame : ∀ written, t.conversations.get? c = some written →
      written.type = stored.type) : SharedOnly c s t := by
  refine ⟨honly, Nat.lt_of_lt_of_le (s.lt_nextId hget) honly.nextId, ?_⟩
  intro written hwritten
  rw [hsame written hwritten]
  exact htype

/-- An addition of users, within the limit or not. -/
theorem addParticipants_shared (conversation : ConversationModel)
    (hget : s.conversations.get? conversation.id = some conversation.params)
    (htype : conversation.params.type ≠ .u) (ids : List ObjectId)
    (isEmpty : Bool)
    {result : Except ConversationError (List StoredId × ConversationModel)}
    (hexec : (addParticipants config conversation
      (ids.map (fun id => IdParam.hex id true)) isEmpty).exec s =
        (result, t)) :
    SharedOnly conversation.id s t ∧ ∀ added updated,
      result = .ok (added, updated) → updated.id = conversation.id ∧
        updated.params.type = conversation.params.type ∧
        t.conversations.get? updated.id = some updated.params := by
  cases hlimit : ((countBefore conversation isEmpty s).plus ids.length).exceeds
      config.maxParticipants with
  | true =>
      rw [exec_addParticipants_limit config conversation _ isEmpty s
        (by simpa using hlimit)] at hexec
      cases hexec
      exact ⟨.refl hget htype, by simp⟩
  | false =>
      obtain ⟨added, grown, hadds, hadd⟩ :=
        exec_addParticipants config conversation ids isEmpty s hlimit
      rw [hadd] at hexec
      cases hexec
      generalize (countBefore conversation isEmpty s).plus added.length = count
      have hrewrites := rewrites_writeCount (s := grown) conversation
        (hadds.conversations ▸ hget) count
      constructor
      · refine .of_onlyAt ((OnlyAt.of_extends hadds.toExtends).trans
          (onlyAt_writeCount conversation count grown)) hget htype ?_
        intro written hwritten
        rw [hrewrites.after, Option.some_inj] at hwritten
        rw [← hwritten]
      · intro added' updated hupdated
        cases hupdated
        have hid : (withCount conversation count).id = conversation.id := by
          rw [withCount]
          split <;> rfl
        refine ⟨hid, ?_, ?_⟩
        · rw [params_withCount]
        · rw [hid, hrewrites.after, params_withCount]

/-- A removal of users. -/
theorem removeParticipants_shared {conversation : ConversationModel}
    (hget : s.conversations.get? conversation.id = some conversation.params)
    (htype : conversation.params.type ≠ .u) (ids : List ObjectId)
    {result : Except ConversationError RemoveResult}
    (hexec : (removeParticipants config conversation ids).exec s =
      (result, t)) :
    SharedOnly conversation.id s t := by
  obtain ⟨removed, shrunk, hshrinks, _, hcases⟩ :=
    exec_removeParticipants config conversation ids s
  rcases hcases with ⟨_, hdeleted⟩ | ⟨userId, newOwnerId, _, hkept⟩
  · rw [hdeleted] at hexec
    cases hexec
    refine .of_onlyAt ((OnlyAt.of_shrinks hshrinks).trans
      (.deleteConversation shrunk conversation.id)) hget htype ?_
    intro written hwritten
    simp at hwritten
  · rw [hkept] at hexec
    cases hexec
    have howner := rewrites_writeOwner (s := shrunk) conversation
      (hshrinks.conversations ▸ hget) removed userId
    have hcount := rewrites_writeCount conversation howner.after
      (conversation.params.subscribersCount.minus removed.length)
    refine .of_onlyAt (((OnlyAt.of_shrinks hshrinks).trans
      (onlyAt_writeOwner conversation removed userId shrunk)).trans
      (onlyAt_writeCount conversation _ _)) hget htype ?_
    intro written hwritten
    rw [hcount.after, Option.some_inj] at hwritten
    rw [← hwritten]

theorem editParticipants_shared (config : ConversationConfig)
    {conversation : ConversationModel}
    (hget : s.conversations.get? conversation.id = some conversation.params)
    (htype : conversation.params.type ≠ .u) (params : UpdateParams)
    (adminsToAdd : List ObjectId) :
    SharedOnly conversation.id s ((ConversationOperations.editParticipants
      config conversation params adminsToAdd).exec s).2 := by
  have hrefl := SharedOnly.refl hget htype
  rw [ConversationOperations.editParticipants]
  split
  · refine (readOnly_existedIds _ _ _).exec_bind_snd hrefl
      (fun addIds _ => ?_)
    refine (readOnly_existedIds _ _ _).exec_bind_snd hrefl
      (fun removeIds _ => ?_)
    unfold updateParticipants
    refine exec_bind_related (R := SharedOnly conversation.id)
      SharedOnly.trans
      (addParticipants_shared conversation hget htype addIds false rfl).1 ?_
    rintro ⟨added, updated⟩ after hadd
    obtain ⟨hid, hsame, hstored⟩ :=
      (addParticipants_shared conversation hget htype addIds false hadd).2
        added updated rfl
    dsimp only
    rw [exec_bind_pure_snd _ (fun removeResult => (added, removeResult)),
      ← hid]
    exact removeParticipants_shared hstored (by rw [hsame]; exact htype)
      removeIds rfl
  · exact hrefl

/-- Stores that differ in the roles of their rows at most. -/
structure SameMembers (before after : ConversationStore) : Prop where
  users : after.users = before.users
  conversations : after.conversations = before.conversations
  nextId : after.nextId = before.nextId
  userIds : ∀ id, after.userIdsOf id = before.userIdsOf id

theorem SameMembers.trans (hfirst : SameMembers s t)
    (hsecond : SameMembers t r) : SameMembers s r :=
  ⟨hsecond.users.trans hfirst.users,
    hsecond.conversations.trans hfirst.conversations,
    hsecond.nextId.trans hfirst.nextId,
    fun id => (hsecond.userIds id).trans (hfirst.userIds id)⟩

theorem sameMembers_updateRoles (s : ConversationStore) (c : ObjectId)
    (ids : Option (List IdParam)) (role : Option ParticipantRole) :
    SameMembers s
      ((ConversationOperations.updateRoles c ids role).exec s).2 := by
  rw [exec_updateRoles]
  split
  · exact ⟨rfl, rfl, rfl, fun _ => rfl⟩
  · exact ⟨rfl, rfl, rfl, fun id => userIdsOf_assignRole s c id _ role⟩

theorem sameMembers_updateAdmins (s : ConversationStore) (c : ObjectId)
    (admins : IdLists) :
    SameMembers s
      ((ConversationOperations.updateAdmins c admins).exec s).2 :=
  exec_bind_related (R := SameMembers) SameMembers.trans
    (sameMembers_updateRoles s c admins.add (some .admin))
    (fun _ after _ => sameMembers_updateRoles after c admins.remove none)

theorem SharedOnly.sameMembers (hshared : SharedOnly c s t)
    (hsame : SameMembers t r) : SharedOnly c s r := by
  refine ⟨⟨?_, ?_, ?_, ?_⟩, ?_, ?_⟩
  · rw [hsame.users]
    exact hshared.users
  · rw [hsame.nextId]
    exact hshared.nextId
  · rw [hsame.conversations]
    exact hshared.conversations
  · intro other hother
    rw [hsame.userIds]
    exact hshared.userIds other hother
  · rw [hsame.nextId]
    exact hshared.below
  · rw [hsame.conversations]
    exact hshared.type

theorem editShared_shared (conversation : ConversationModel)
    (hget : s.conversations.get? conversation.id = some conversation.params)
    (htype : conversation.params.type ≠ .u) (params : UpdateParams) :
    SharedOnly conversation.id s ((ConversationOperations.editShared config
      session conversation params).exec s).2 := by
  have hrefl := SharedOnly.refl hget htype
  unfold ConversationOperations.editShared
  refine (readOnly_existedIds _ _ _).exec_bind_snd hrefl
    (fun adminsToAdd _ => ?_)
  have hedited := editParticipants_shared config hget htype params
    adminsToAdd
  rw [exec_bind]
  rcases hexec : (ConversationOperations.editParticipants config conversation
    params adminsToAdd).exec s with ⟨result, after⟩
  rw [hexec] at hedited
  cases result with
  | error error => exact hedited
  | ok result =>
      obtain ⟨addedIds, removeResult⟩ := result
      dsimp only
      split
      · exact hedited
      · have hadmins := hedited.sameMembers (sameMembers_updateAdmins after
          conversation.id (params.admins.getD ⟨none, none⟩))
        rw [exec_bind_snd_of_readOnly (fun _ => readOnly_editEvents config
          session conversation params addedIds removeResult.removedIds)]
        exact hadmins

/-- A new group or channel. -/
theorem create_shared (config : ConversationConfig) (user : User)
    {type : ConversationType} (htype : type ≠ .u) (fields : ConversationFields)
    (isEncrypted : Option EncryptedFlag) {ids : List ObjectId}
    (hids : ids ≠ []) (s : ConversationStore) :
    SharedOnly (s.conversationId
        (preparedParams s user type fields none isEncrypted)) s
      ((ConversationService.create config user type fields none isEncrypted
        (ids.map (fun id => IdParam.hex id true))).exec s).2 := by
  have hfilled : ids.map (fun id => IdParam.hex id true) ≠ [] := by
    rw [ne_eq, List.map_eq_nil_iff]
    exact hids
  rw [ConversationService.create, exec_command_bind]
  dsimp only
  rw [if_pos hfilled]
  generalize hparams : preparedParams s user type fields none isEncrypted =
    params
  have htypeSame : params.type ≠ .u := by
    rw [← hparams]
    exact htype
  have hinserted : SharedOnly (s.conversationId params) s
      (s.insertConversation params) := by
    refine ⟨onlyAt_insertConversation s params, Nat.lt_succ_self _, ?_⟩
    intro stored hstored
    rw [get?_insertConversation, Option.some_inj] at hstored
    rw [← hstored]
    exact htypeSame
  rw [exec_bind_pure_snd (addParticipants config _ _ _) Prod.snd]
  exact hinserted.trans (addParticipants_shared
    ⟨s.conversationId params, params⟩ (get?_insertConversation s params)
    htypeSame ids true rfl).1

/-- What a request on a conversation that is not found leaves is the store
itself; any other request on a group or a channel works on one
conversation. -/
def SharedOrSame (before after : ConversationStore) : Prop :=
  after = before ∨ ∃ c, SharedOnly c before after

theorem createSharedConversation_shared (config : ConversationConfig)
    (session : ConversationSession) (user : Option User)
    {params : CreateParams} (htype : params.type ≠ .u)
    (participantIds : List ObjectId) (s : ConversationStore) :
    SharedOrSame s ((ConversationOperations.createSharedConversation config
      session user params participantIds).exec s).2 := by
  unfold ConversationOperations.createSharedConversation
  dsimp only
  split
  · exact Or.inl rfl
  · cases user with
    | none => exact Or.inl rfl
    | some user =>
        have hcreated := create_shared config user htype params.fields
          params.isEncrypted (length_membersWithOwner session participantIds)
          s
        dsimp only
        rw [exec_bind_snd_of_readOnly (fun conversation => readOnly_bind
          (readOnly_addImageUrl config conversation)
          (fun _ => readOnly_pure _))]
        exact Or.inr ⟨_, hcreated⟩

theorem create_sharedOrSame (config : ConversationConfig)
    (session : ConversationSession) {params : CreateParams}
    (htype : params.type ≠ .u) (s : ConversationStore) :
    SharedOrSame s ((ConversationOperations.create config session
      params).exec s).2 := by
  rw [ConversationOperations.create]
  refine (readOnly_query _ _).exec_bind_snd (P := SharedOrSame s)
    (Or.inl rfl) (fun user _ => ?_)
  refine (readOnly_existedIds _ _ _).exec_bind_snd (P := SharedOrSame s)
    (Or.inl rfl) (fun participantIds _ => ?_)
  rw [exec_bind_snd_of_readOnly (fun conversation => readOnly_bind
    (readOnly_createUserEvent config session) (fun _ => readOnly_pure _)),
    ConversationOperations.createOfType, if_neg htype]
  exact createSharedConversation_shared config session user htype
    participantIds s

theorem subscribe_sharedOrSame (config : ConversationConfig)
    (session : ConversationSession) (conversationId : Option IdParam)
    (s : ConversationStore) :
    SharedOrSame s ((ConversationOperations.subscribe config session
      conversationId).exec s).2 := by
  rw [ConversationOperations.subscribe]
  refine (readOnly_retrieveConversation _ _ _).exec_bind_snd
    (P := SharedOrSame s) (Or.inl rfl) (fun conversation hretrieve => ?_)
  obtain ⟨hget, htype⟩ := get?_of_retrieveConversation hretrieve
  have hids : [session.user] =
      [session.userId].map (fun id => IdParam.hex id true) := rfl
  rw [exec_bind_pure_snd _ (fun _ => ()), hids]
  exact Or.inr ⟨conversation.id, (addParticipants_shared conversation hget
    (by simp [htype]) [session.userId] false rfl).1⟩

theorem unsubscribe_sharedOrSame (config : ConversationConfig)
    (session : ConversationSession) (conversationId : Option IdParam)
    (s : ConversationStore) :
    SharedOrSame s ((ConversationOperations.unsubscribe config session
      conversationId).exec s).2 := by
  rw [ConversationOperations.unsubscribe]
  refine (readOnly_retrieveConversation _ _ _).exec_bind_snd
    (P := SharedOrSame s) (Or.inl rfl) (fun conversation hretrieve => ?_)
  obtain ⟨hget, htype⟩ := get?_of_retrieveConversation hretrieve
  rw [exec_bind_pure_snd _ (fun _ => ())]
  exact Or.inr ⟨conversation.id, removeParticipants_shared hget
    (by simp [htype]) [session.userId] rfl⟩

theorem updateFields_cases (server : MongoServer) (s : ConversationStore)
    (conversationId : IdParam) (fields : ConversationFields) :
    s.updateFields server conversationId fields = (none, s) ∨
      ∃ c, s.updateFields server conversationId fields =
        (((s.withFields c fields).conversations.get? c).map
          (ConversationModel.mk c), s.withFields c fields) := by
  rw [updateFields]
  split
  · split
    · exact Or.inl rfl
    · exact Or.inr ⟨_, rfl⟩
  · exact Or.inl rfl

end ConversationStore

end SamaServer
