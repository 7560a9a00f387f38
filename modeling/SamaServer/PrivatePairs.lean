/-
Private conversations along every run of requests, whether they succeed or
not.  The rows of a private conversation are those of its two users; the one
exception is an opponent sent as a number, for whom two new ids are made, of
which none is ever the id of a user.
-/
import SamaServer.Runs
import SamaServer.SharedRequests

namespace SamaServer

namespace ConversationStore

open Fallible ConversationService

variable {s t : ConversationStore} {config : ConversationConfig}
  {session : ConversationSession} {server : MongoServer} {c : ObjectId}

/-- What holds of a private conversation that is stored. -/
structure PairedAt (server : MongoServer) (s : ConversationStore)
    (c : ObjectId) (stored : Conversation) (opponentId : StoredId) :
    Prop where
  owner : ∃ id, stored.ownerId = .id id ∧ id < s.nextId
  opponent : stored.opponentId = some opponentId
  accepted : server.rejectsId opponentId = false
  bound : opponentId.bound ≤ s.nextId
  rows : (∀ userId ∈ s.userIdsOf c,
      userId = stored.ownerId ∨ userId = opponentId) ∨
    ∃ id, opponentId = .id id ∧ id ∉ s.users.keys

/-- All private conversations are those of two users, and ids that are not in
use yet name nothing. -/
structure Paired (server : MongoServer) (s : ConversationStore) : Prop where
  users : ∀ id ∈ s.users.keys, id < s.nextId
  unused : ∀ id, s.nextId ≤ id → s.userIdsOf id = []
  pairs : ∀ c stored, s.conversations.get? c = some stored →
    stored.type = .u → ∃ opponentId, PairedAt server s c stored opponentId

/-- The id of the owner stays in use. -/
theorem PairedAt.owner_mono {stored : Conversation} {opponentId : StoredId}
    (hpair : PairedAt server s c stored opponentId)
    (hnext : s.nextId ≤ t.nextId) :
    ∃ id, stored.ownerId = .id id ∧ id < t.nextId := by
  obtain ⟨id, howner, hbelow⟩ := hpair.owner
  exact ⟨id, howner, Nat.lt_of_lt_of_le hbelow hnext⟩

theorem paired_empty : Paired server empty where
  users := by simp [empty, OrderedMap.empty, OrderedMap.keys]
  unused := by simp [empty, userIdsOf, rowsOf]
  pairs := by simp [empty]

/-- Only the conversation that was worked on has to be looked at. -/
theorem Paired.of_onlyAt (hpaired : Paired server s) (honly : OnlyAt c s t)
    (hbelow : c < t.nextId)
    (hpairs : ∀ stored, t.conversations.get? c = some stored →
      stored.type = .u → ∃ opponentId, PairedAt server t c stored
        opponentId) : Paired server t where
  users := by
    intro id hid
    rw [honly.users] at hid
    exact Nat.lt_of_lt_of_le (hpaired.users id hid) honly.nextId
  unused := by
    intro id hid
    have hne : id ≠ c := Nat.ne_of_gt (Nat.lt_of_lt_of_le hbelow hid)
    rw [honly.userIds id hne]
    exact hpaired.unused id (Nat.le_trans honly.nextId hid)
  pairs := by
    intro other stored hget htype
    by_cases hother : other = c
    · subst hother
      exact hpairs stored hget htype
    · rw [honly.conversations other hother] at hget
      obtain ⟨opponentId, hpair⟩ := hpaired.pairs other stored hget htype
      refine ⟨opponentId, hpair.owner_mono honly.nextId, hpair.opponent,
        hpair.accepted, Nat.le_trans hpair.bound honly.nextId, ?_⟩
      rw [honly.userIds other hother, honly.users]
      exact hpair.rows

theorem Paired.sharedOrSame (hpaired : Paired server s)
    (hshared : SharedOrSame s t) : Paired server t := by
  rcases hshared with rfl | ⟨c, hshared⟩
  · exact hpaired
  · refine hpaired.of_onlyAt hshared.toOnlyAt hshared.below ?_
    intro stored hget htype
    exact absurd htype (hshared.type stored hget)

/-! ### Users -/

theorem Paired.createUser (hpaired : Paired server s)
    (organizationId : ObjectId) :
    Paired server (s.createUser organizationId) where
  users := by
    intro id hid
    rcases (OrderedMap.mem_keys_set _ _ _ _).1 hid with rfl | hold
    · exact Nat.lt_succ_self _
    · exact Nat.lt_succ_of_lt (hpaired.users id hold)
  unused := fun id hid => hpaired.unused id (Nat.le_of_succ_le hid)
  pairs := by
    intro c stored hget htype
    obtain ⟨opponentId, hpair⟩ := hpaired.pairs c stored hget htype
    refine ⟨opponentId, hpair.owner_mono (Nat.le_succ _), hpair.opponent,
      hpair.accepted, Nat.le_succ_of_le hpair.bound, ?_⟩
    rcases hpair.rows with hrows | ⟨id, rfl, hnone⟩
    · exact Or.inl hrows
    · refine Or.inr ⟨id, rfl, fun hid => ?_⟩
      rcases (OrderedMap.mem_keys_set _ _ _ _).1 hid with rfl | hold
      · exact Nat.lt_irrefl _ (Nat.lt_of_succ_le hpair.bound)
      · exact hnone hold

theorem Paired.deleteUser (hpaired : Paired server s) (user : ObjectId) :
    Paired server (s.deleteUser user) := by
  have hkeys : ∀ id ∈ (s.deleteUser user).users.keys, id ∈ s.users.keys := by
    intro id hid
    rw [OrderedMap.mem_keys_iff] at hid ⊢
    obtain ⟨organization, hget⟩ := hid
    rw [ConversationStore.deleteUser, OrderedMap.get?_erase] at hget
    split at hget
    · cases hget
    · exact ⟨organization, hget⟩
  refine ⟨fun id hid => hpaired.users id (hkeys id hid), hpaired.unused, ?_⟩
  intro c stored hget htype
  obtain ⟨opponentId, hpair⟩ := hpaired.pairs c stored hget htype
  refine ⟨opponentId, hpair.owner, hpair.opponent, hpair.accepted,
    hpair.bound, ?_⟩
  rcases hpair.rows with hrows | ⟨id, rfl, hnone⟩
  · exact Or.inl hrows
  · exact Or.inr ⟨id, rfl, fun hid => hnone (hkeys id hid)⟩

/-! ### Rows of a private conversation -/

/-- A row for one of the two users. -/
theorem Paired.upsertParticipant (hpaired : Paired server s)
    {stored : Conversation} {opponentId : StoredId}
    (hget : s.conversations.get? c = some stored)
    (hpair : PairedAt server s c stored opponentId) (param : IdParam)
    (role : Option ParticipantRole)
    (hcast : param.castObjectId s.nextId = stored.ownerId ∨
      param.castObjectId s.nextId = opponentId ∨
      ∃ id, opponentId = .id id ∧ id ∉ s.users.keys) :
    Paired server (s.upsertParticipant server c param role).2 ∧
      (s.upsertParticipant server c param role).2.conversations.get? c =
        some stored ∧
      PairedAt server (s.upsertParticipant server c param role).2 c stored
        opponentId := by
  rcases upsertParticipant_cases server s c param role with
    hresult | hresult | hresult
  · rw [hresult]
    exact ⟨hpaired, hget, hpair⟩
  · rw [hresult]
    exact ⟨hpaired, hget, hpair⟩
  · rw [hresult]
    dsimp only
    have hextends := extends_addRow s c (param.castObjectId s.nextId) role
    have hafter : PairedAt server (s.addRow ⟨c, param.castObjectId s.nextId,
        role⟩) c stored opponentId := by
      refine ⟨hpair.owner_mono hextends.nextId, hpair.opponent,
        hpair.accepted, Nat.le_trans hpair.bound hextends.nextId, ?_⟩
      rcases hpair.rows with hrows | hnone
      · rcases hcast with howner | hopponent | hnone
        · refine Or.inl (fun userId huser => ?_)
          rw [hextends.userIds, List.mem_append, List.mem_singleton] at huser
          rcases huser with hold | rfl
          · exact hrows userId hold
          · exact Or.inl howner
        · refine Or.inl (fun userId huser => ?_)
          rw [hextends.userIds, List.mem_append, List.mem_singleton] at huser
          rcases huser with hold | rfl
          · exact hrows userId hold
          · exact Or.inr hopponent
        · exact Or.inr hnone
      · exact Or.inr hnone
    refine ⟨hpaired.of_onlyAt (.of_extends hextends)
      (Nat.lt_of_lt_of_le (s.lt_nextId hget) hextends.nextId) ?_, hget,
      hafter⟩
    intro other hother _
    rw [hextends.conversations, hget, Option.some_inj] at hother
    rw [← hother]
    exact ⟨opponentId, hafter⟩

/-- The insert of a private conversation. -/
theorem Paired.insertPrivate_document (hpaired : Paired config.server s)
    {params : CreateParams} {user : User} {opponentId : IdParam}
    (hrequest : PrivateRequest config session s params user opponentId) :
    Paired config.server
        (s.insertConversation (s.privateParams user params opponentId)) ∧
      PairedAt config.server
        (s.insertConversation (s.privateParams user params opponentId))
        (s.conversationId (s.privateParams user params opponentId))
        (s.privateParams user params opponentId)
        (opponentId.castObjectId s.nextId) := by
  obtain ⟨_, _, hchecks⟩ := hrequest.checks
  have hempty : (s.insertConversation (s.privateParams user params
      opponentId)).userIdsOf
      (s.conversationId (s.privateParams user params opponentId)) = [] :=
    hpaired.unused _ (Nat.le_trans (Nat.le_succ _) (Nat.le_max_left _ _))
  have hpair : PairedAt config.server
      (s.insertConversation (s.privateParams user params opponentId))
      (s.conversationId (s.privateParams user params opponentId))
      (s.privateParams user params opponentId)
      (opponentId.castObjectId s.nextId) := by
    refine ⟨⟨user.id, rfl, ?_⟩, rfl, hchecks.not_rejectsId _, ?_, Or.inl ?_⟩
    · exact Nat.lt_of_lt_of_le
        (hpaired.users _ (mem_users_of_findUserById hrequest.user))
        (onlyAt_insertConversation s _).nextId
    · exact Nat.le_succ_of_le (Nat.le_trans (Nat.le_max_right _ _)
        (Nat.le_max_right _ _))
    · rw [hempty]
      simp
  refine ⟨hpaired.of_onlyAt (onlyAt_insertConversation s _)
    (Nat.lt_succ_self _) ?_, hpair⟩
  intro stored hstored _
  rw [get?_insertConversation, Option.some_inj] at hstored
  rw [← hstored]
  exact ⟨_, hpair⟩

/-- A value that is no number is cast to one thing. -/
theorem castObjectId_eq_or (param : IdParam) (first second : ObjectId) :
    param.castObjectId first = param.castObjectId second ∨
      param.castObjectId first = .id first := by
  cases param with
  | hex id isLowerCase => exact Or.inl rfl
  | text value => exact Or.inl rfl
  | number isZero => exact Or.inr rfl
  | object value => exact Or.inl rfl

/-- A value that is cast to an id names it, or is a number. -/
theorem namedId?_or_generated {param : IdParam} {generated id : ObjectId}
    (hcast : param.castObjectId generated = .id id) :
    param.namedId? = some id ∨ id = generated := by
  cases param with
  | hex value isLowerCase =>
      cases hcast
      exact Or.inl rfl
  | text value => cases hcast
  | number isZero =>
      cases hcast
      exact Or.inr rfl
  | object value =>
      rw [IdParam.castObjectId] at hcast
      cases hvalue : value.id with
      | none =>
          rw [hvalue] at hcast
          cases hcast
      | some other =>
          rw [hvalue] at hcast
          cases hcast
          exact Or.inl hvalue

/-- A private conversation and its rows. -/
theorem Paired.insertPrivate (hpaired : Paired config.server s)
    {params : CreateParams} {user : User} {opponentId : IdParam}
    (hrequest : PrivateRequest config session s params user opponentId) :
    Paired config.server
        (s.insertPrivate config.server user params opponentId) ∧
      (s.insertPrivate config.server user params
        opponentId).conversations.get?
          (s.conversationId (s.privateParams user params opponentId)) =
        some (s.privateParams user params opponentId) ∧
      PairedAt config.server
        (s.insertPrivate config.server user params opponentId)
        (s.conversationId (s.privateParams user params opponentId))
        (s.privateParams user params opponentId)
        (opponentId.castObjectId s.nextId) := by
  obtain ⟨hinserted, hpair⟩ := hpaired.insertPrivate_document hrequest
  obtain ⟨hfirst, hget, hpairFirst⟩ := hinserted.upsertParticipant
    (get?_insertConversation s _) hpair (.hex user.id true) (some .owner)
    (Or.inl rfl)
  refine hfirst.upsertParticipant hget hpairFirst opponentId none (Or.inr ?_)
  rcases castObjectId_eq_or opponentId s.nextId
    ((s.insertConversation (s.privateParams user params
      opponentId)).upsertParticipant config.server
      (s.conversationId (s.privateParams user params opponentId))
      (.hex user.id true) (some .owner)).2.nextId with hsame | hnumber
  · exact Or.inl hsame.symm
  · refine Or.inr ⟨s.nextId, hnumber, fun hmem => ?_⟩
    rw [users_upsertParticipant] at hmem
    exact Nat.lt_irrefl _ (hpaired.users _ hmem)

/-- The rows of a conversation that is found, when they are restored. -/
theorem Paired.exec_found (hpaired : Paired config.server s)
    (session : ConversationSession) {params : CreateParams} {user : User}
    {param : IdParam} {conversation : ConversationModel} {opponentId : StoredId}
    (hfound : s.findExistedPrivateConversation config.server user.id param
      params.isEncrypted = .ok (some conversation))
    (hpair : PairedAt config.server s conversation.id conversation.params
      opponentId) :
    ∃ after,
      (ConversationOperations.findOrCreatePrivateConversation config session
        user params param).exec s =
        (if config.maxParticipants <
            (s.rowsOf conversation.id).length + 2 then
          .error (.cause .participantsLimit) else .ok conversation, after) ∧
      Paired config.server after ∧ after.users = s.users ∧
      after.conversations = s.conversations ∧
      PairedAt config.server after conversation.id conversation.params
        opponentId ∧
      (config.maxParticipants < (s.rowsOf conversation.id).length + 2 →
        after = s) := by
  obtain ⟨hget, _⟩ := get?_of_findExistedPrivateConversation hfound
  obtain ⟨role, hexec⟩ := ConversationStore.exec_found config session hfound
    hpair.opponent
  rw [hexec]
  split
  · exact ⟨s, rfl, hpaired, rfl, rfl, hpair, fun _ => rfl⟩
  · next hlimit =>
      obtain ⟨ownerId, howner, _⟩ := hpair.owner
      have hfirstPaired := hpaired.upsertParticipant hget hpair
        conversation.params.ownerId.param (some .owner)
        (Or.inl (castObjectId_param _ _))
      have hfirstUsers := users_upsertParticipant config.server s
        conversation.id conversation.params.ownerId.param (some .owner)
      have hfirstDocuments := conversations_upsertParticipant config.server s
        conversation.id conversation.params.ownerId.param (some .owner)
      rcases hfirst : s.upsertParticipant config.server conversation.id
        conversation.params.ownerId.param (some .owner) with ⟨result, middle⟩
      rw [hfirst] at hfirstPaired hfirstUsers hfirstDocuments
      obtain ⟨hmiddle, hgetMiddle, hpairMiddle⟩ := hfirstPaired
      obtain ⟨firstId, rfl⟩ := upsertParticipant_ok
        (by rw [castObjectId_param, howner]; rfl) hfirst
      have hsecondPaired := hmiddle.upsertParticipant hgetMiddle hpairMiddle
        opponentId.param role (Or.inr (Or.inl (castObjectId_param _ _)))
      have hsecondUsers := users_upsertParticipant config.server middle
        conversation.id opponentId.param role
      have hsecondDocuments := conversations_upsertParticipant config.server
        middle conversation.id opponentId.param role
      dsimp only
      rcases hsecond : middle.upsertParticipant config.server conversation.id
        opponentId.param role with ⟨result, last⟩
      rw [hsecond] at hsecondPaired hsecondUsers hsecondDocuments
      obtain ⟨secondId, rfl⟩ := upsertParticipant_ok
        (by rw [castObjectId_param]; exact hpair.accepted) hsecond
      exact ⟨last, rfl, hsecondPaired.1, hsecondUsers.trans hfirstUsers,
        hsecondDocuments.trans hfirstDocuments, hsecondPaired.2.2,
        fun hover => absurd hover hlimit⟩

/-! ### The requests -/

theorem Paired.create (hpaired : Paired config.server s)
    (session : ConversationSession) {params : CreateParams}
    (haccepted : params.isAccepted config = true) :
    Paired config.server ((ConversationOperations.create config session
      params).exec s).2 := by
  by_cases htype : params.type = .u
  · by_cases hrequest : ∃ user opponentId,
        PrivateRequest config session s params user opponentId
    · obtain ⟨user, opponentId, hrequest⟩ := hrequest
      obtain ⟨_, _, hchecks⟩ := hrequest.checks
      obtain ⟨existed, hexisted⟩ := hchecks.findExisted user.id
        params.isEncrypted
      cases existed with
      | some conversation =>
          obtain ⟨hget, hprivate⟩ :=
            get?_of_findExistedPrivateConversation hexisted
          obtain ⟨stored, hpair⟩ := hpaired.pairs _ _ hget hprivate
          obtain ⟨after, hexec, hafter, husers, _⟩ :=
            hpaired.exec_found session hexisted hpair
          rw [hrequest.exec_create hexec husers]
          exact hafter
      | none =>
          have hexec := hrequest.exec_new hexisted
          split at hexec
          · rw [hrequest.exec_create hexec rfl]
            exact (hpaired.insertPrivate_document hrequest).1
          · rw [hrequest.exec_create hexec (by
              rw [ConversationStore.insertPrivate, users_upsertParticipant,
                users_upsertParticipant]
              rfl)]
            exact (hpaired.insertPrivate hrequest).1
    · obtain ⟨error, hexec⟩ := exec_create_unchecked htype haccepted
        (fun user opponentId hchecked =>
          hrequest ⟨user, opponentId, hchecked⟩)
      rw [hexec]
      exact hpaired
  · exact hpaired.sharedOrSame (create_sharedOrSame config session htype s)

/-- The fields of a conversation are no part of the pair. -/
theorem Paired.withFields (hpaired : Paired server s) (c : ObjectId)
    (fields : ConversationFields) :
    Paired server (s.withFields c fields) := by
  refine ⟨hpaired.users, hpaired.unused, ?_⟩
  intro other stored hget htype
  rw [ConversationStore.withFields, get?_updateConversation,
    Option.map_eq_some_iff] at hget
  obtain ⟨document, hdocument, hupdated⟩ := hget
  have hsame : stored.ownerId = document.ownerId ∧
      stored.type = document.type ∧
      stored.opponentId = document.opponentId := by
    rw [← hupdated]
    split <;> exact ⟨rfl, rfl, rfl⟩
  rw [hsame.2.1] at htype
  obtain ⟨opponentId, hpair⟩ := hpaired.pairs other document hdocument htype
  refine ⟨opponentId, ?_, ?_, hpair.accepted, hpair.bound, ?_⟩
  · rw [hsame.1]
    exact hpair.owner
  · rw [hsame.2.2]
    exact hpair.opponent
  · rw [hsame.1]
    exact hpair.rows

theorem Paired.edit (hpaired : Paired config.server s)
    (session : ConversationSession) (params : UpdateParams) :
    Paired config.server ((ConversationOperations.edit config session
      params).exec s).2 := by
  rw [ConversationOperations.edit]
  refine (readOnly_hasAccessToConversation _ _ _ _).exec_bind_snd hpaired
    (fun access _ => ?_)
  cases access with
  | none => exact hpaired
  | some access =>
      dsimp only
      split
      · exact hpaired
      · rw [ConversationOperations.editFields, exec_command_bind]
        rcases updateFields_cases config.server s params.id params.fields with
          hresult | ⟨c, hresult⟩
        · rw [hresult]
          exact hpaired
        · have hwritten := hpaired.withFields c params.fields
          rw [hresult]
          cases hget : (s.withFields c params.fields).conversations.get?
              c with
          | none => exact hwritten
          | some stored =>
              dsimp only [Option.map_some]
              split
              · exact hwritten
              · next htype =>
                  exact hwritten.sharedOrSame (Or.inr ⟨c,
                    editShared_shared ⟨c, stored⟩ hget htype params⟩)

/-- Somebody leaves a private conversation. -/
theorem Paired.removeParticipants (hpaired : Paired config.server s)
    {conversation : ConversationModel}
    (hget : s.conversations.get? conversation.id = some conversation.params)
    (ids : List ObjectId) :
    Paired config.server
      ((ConversationService.removeParticipants config conversation
        ids).exec s).2 := by
  by_cases htype : conversation.params.type = .u
  · obtain ⟨removed, shrunk, hshrinks, _, hcases⟩ :=
      exec_removeParticipants config conversation ids s
    obtain ⟨opponentId, hpair⟩ := hpaired.pairs _ _ hget htype
    have hbelow : conversation.id < shrunk.nextId := by
      rw [hshrinks.nextId]
      exact s.lt_nextId hget
    rcases hcases with ⟨_, hdeleted⟩ | ⟨userId, newOwnerId, _, hkept⟩
    · rw [hdeleted]
      refine hpaired.of_onlyAt ((OnlyAt.of_shrinks hshrinks).trans
        (.deleteConversation shrunk conversation.id)) hbelow ?_
      intro stored hstored
      simp at hstored
    · have hwrites : writeCount conversation
          (conversation.params.subscribersCount.minus removed.length)
          (writeOwner conversation removed userId shrunk) = shrunk := by
        rw [writeCount, writeOwner, htype, if_neg (by simp),
          if_neg (by simp)]
      rw [hkept, hwrites]
      refine hpaired.of_onlyAt (OnlyAt.of_shrinks hshrinks) hbelow ?_
      intro stored hstored _
      rw [hshrinks.conversations, hget, Option.some_inj] at hstored
      rw [← hstored]
      refine ⟨opponentId,
        hpair.owner_mono (Nat.le_of_eq hshrinks.nextId.symm),
        hpair.opponent, hpair.accepted, hshrinks.nextId ▸ hpair.bound, ?_⟩
      rw [hshrinks.users]
      rcases hpair.rows with hrows | hnone
      · refine Or.inl (fun user huser => hrows user ?_)
        rw [hshrinks.userIds] at huser
        exact (List.mem_filter.1 huser).1
      · exact Or.inr hnone
  · exact hpaired.sharedOrSame (Or.inr ⟨conversation.id,
      removeParticipants_shared hget htype ids rfl⟩)

theorem Paired.delete (hpaired : Paired config.server s)
    (session : ConversationSession) (conversationId : IdParam) :
    Paired config.server ((ConversationOperations.delete config session
      conversationId).exec s).2 := by
  rw [ConversationOperations.delete]
  refine (readOnly_hasAccessToConversation _ _ _ _).exec_bind_snd hpaired
    (fun access haccess => ?_)
  cases access with
  | none => exact hpaired
  | some access =>
      have hget := get?_of_hasAccessToConversation haccess
      dsimp only
      split
      · rw [exec_bind_snd_of_readOnly
          (fun _ => readOnly_createUserEvent config session)]
        exact hpaired.removeParticipants hget [session.userId]
      · exact hpaired

/-! ### Runs -/

theorem Paired.perform (hpaired : Paired config.server s)
    (session : ConversationSession) (request : ConversationRequest) :
    Paired config.server ((request.perform config session).exec s).2 := by
  unfold ConversationRequest.perform
  split
  · next haccepted =>
      cases request with
      | create params =>
          dsimp only
          rw [exec_bind_pure_snd _ (fun _ => ())]
          exact hpaired.create session haccepted
      | update params => exact hpaired.edit session params
      | delete id => exact hpaired.delete session id
      | subscribe cid =>
          exact hpaired.sharedOrSame
            (subscribe_sharedOrSame config session cid s)
      | unsubscribe cid =>
          exact hpaired.sharedOrSame
            (unsubscribe_sharedOrSame config session cid s)
  · exact hpaired

theorem Paired.step (hpaired : Paired config.server s)
    (event : ConversationEvent) :
    Paired config.server (s.step config event) := by
  cases event with
  | userCreated organizationId => exact hpaired.createUser organizationId
  | userDeleted id => exact hpaired.deleteUser id
  | requested session request => exact hpaired.perform session request

/-- Private conversations are paired after every run. -/
theorem paired_run (config : ConversationConfig)
    (events : List ConversationEvent) :
    Paired config.server (run config events) := by
  induction events using List.reverseRecOn with
  | nil => exact paired_empty
  | append_singleton events event ih =>
      rw [run, List.foldl_append]
      exact ih.step event

end ConversationStore

end SamaServer
