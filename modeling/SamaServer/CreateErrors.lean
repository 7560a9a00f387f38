/-
Errors of create requests.  The insert comes before the limit on the number of
participants and before the url of the image, so an error of these leaves the
conversation behind; all other errors come before the first write.
-/
import SamaServer.Membership
import SamaServer.PrivateRequests

namespace SamaServer

namespace ConversationStore

open Fallible ConversationService

variable {s t : ConversationStore} {config : ConversationConfig}
  {session : ConversationSession}

/-- The collections of conversations and of participants are as before. -/
structure SameCollections (before after : ConversationStore) : Prop where
  conversations : after.conversations = before.conversations
  participants : after.participants = before.participants

/-- A request that ends with an error leaves the collections as they were. -/
def ErrorsKeep (config : ConversationConfig) (session : ConversationSession)
    (s : ConversationStore) (request : ConversationRequest) : Prop :=
  ∀ error after,
    (request.perform config session).exec s = (.error error, after) →
      SameCollections s after

theorem SameCollections.refl (s : ConversationStore) :
    SameCollections s s := ⟨rfl, rfl⟩

/-- The id of an insert was not in use. -/
theorem get?_conversationId (s : ConversationStore) (params : Conversation) :
    s.conversations.get? (s.conversationId params) = none := by
  rw [Option.eq_none_iff_forall_ne_some]
  intro stored hstored
  have hbelow := s.lt_nextId hstored
  have hlater : s.nextId + 1 ≤ s.conversationId params := Nat.le_max_left _ _
  exact Nat.not_lt_of_le (Nat.le_trans (Nat.le_succ _) hlater) hbelow

theorem not_sameCollections_of_inserted {params stored : Conversation}
    (hstored : t.conversations.get? (s.conversationId params) =
      some stored) : ¬ SameCollections s t := by
  intro hsame
  rw [hsame.conversations, get?_conversationId] at hstored
  cases hstored

/-! ### Groups and channels -/

/-- The errors that a group or a channel meets after its insert: there are too
many participants together with the owner, or the file of the image is
missing. -/
def SharedFailsLate (config : ConversationConfig)
    (session : ConversationSession) (params : CreateParams) (user : User)
    (participantIds : List ObjectId) : Prop :=
  let members := ConversationOperations.membersWithOwner session
    participantIds
  ¬ (params.type = .g ∧ members.length = 1) ∧
    (config.maxParticipants < members.length ∨
      params.imageObject.any (fun image =>
        ¬ config.hasFile user.organizationId image.fileId))

/-- The service inserts, and then adds participants within the limit. -/
theorem exec_create_shared (user : User) (type : ConversationType)
    (fields : ConversationFields) (isEncrypted : Option EncryptedFlag)
    {ids : List ObjectId} (hids : ids ≠ []) (s : ConversationStore) :
    ∃ after stored, after.conversations.get? (s.conversationId
        (preparedParams s user type fields none isEncrypted)) =
        some stored ∧
      after.users = s.users ∧
      ((config.maxParticipants < ids.length ∧
          (ConversationService.create config user type fields none
            isEncrypted (ids.map (fun id => IdParam.hex id true))).exec s =
          (.error (.cause .participantsLimit), after)) ∨
        ids.length ≤ config.maxParticipants ∧ ∃ conversation,
          conversation.params.organizationId = user.organizationId ∧
          conversation.params.fields = fields ∧
          (ConversationService.create config user type fields none
            isEncrypted (ids.map (fun id => IdParam.hex id true))).exec s =
          (.ok conversation, after)) := by
  have hfilled : ids.map (fun id => IdParam.hex id true) ≠ [] := by
    rw [ne_eq, List.map_eq_nil_iff]
    exact hids
  rw [ConversationService.create, exec_command_bind]
  dsimp only
  rw [if_pos hfilled]
  generalize hparams : preparedParams s user type fields none isEncrypted =
    params
  have hget := get?_insertConversation s params
  have hzero : countBefore ⟨s.conversationId params, params⟩ true
    (s.insertConversation params) = .int 0 := rfl
  by_cases hlimit : config.maxParticipants < ids.length
  · refine ⟨_, params, hget, rfl, Or.inl ⟨hlimit, ?_⟩⟩
    refine exec_bind_error (exec_addParticipants_limit config _ _ true _ ?_) _
    rw [hzero]
    simp only [SubscribersCount.plus, SubscribersCount.exceeds,
      List.length_map, decide_eq_true_eq]
    omega
  · obtain ⟨added, grown, hadds, hadd⟩ := exec_addParticipants config
      ⟨s.conversationId params, params⟩ ids true
      (s.insertConversation params) (by
        rw [hzero]
        simp only [SubscribersCount.plus, SubscribersCount.exceeds,
          decide_eq_false_iff_not]
        omega)
    rw [exec_bind_ok hadd]
    have hstored := get?_writeCount ⟨s.conversationId params, params⟩
      ((countBefore ⟨s.conversationId params, params⟩ true
        (s.insertConversation params)).plus added.length) grown
    rw [hadds.conversations, hget, Option.map_some] at hstored
    refine ⟨_, _, hstored, ?_, Or.inr ⟨by omega, _, ?_, ?_, rfl⟩⟩
    · rw [(onlyAt_writeCount _ _ grown).users, hadds.users]
      rfl
    · rw [withCount, ← hparams]
      split <;> rfl
    · rw [withCount, ← hparams]
      split <;> rfl

theorem length_membersWithOwner (session : ConversationSession)
    (participantIds : List ObjectId) :
    ConversationOperations.membersWithOwner session participantIds ≠ [] := by
  rw [ConversationOperations.membersWithOwner]
  split
  · next hmem =>
      intro hnone
      rw [hnone] at hmem
      cases hmem
  · simp

/-- The url of an image cannot be made exactly when its file is missing. -/
theorem exec_addImageUrl (config : ConversationConfig)
    (conversation : ConversationModel) (s : ConversationStore) :
    (addImageUrl config conversation).exec s =
      if conversation.params.fields.imageObject.any (fun image =>
          ¬ config.hasFile conversation.params.organizationId
            image.fileId) then (.error .fileNotFound, s)
      else (.ok (), s) := by
  rw [addImageUrl]
  cases conversation.params.fields.imageObject with
  | none => rfl
  | some image =>
      dsimp only
      by_cases hfile : config.hasFile conversation.params.organizationId
        image.fileId = true
      · rw [if_pos hfile, if_neg (by simp [hfile])]
        rfl
      · rw [if_neg hfile, if_pos (by simpa using hfile)]
        rfl

/-- The outcome of a request for a group or a channel, up to the event. -/
theorem exec_createSharedConversation (config : ConversationConfig)
    (session : ConversationSession) (params : CreateParams) (user : User)
    (participantIds : List ObjectId) (s : ConversationStore) :
    ∃ after result,
      (ConversationOperations.createSharedConversation config session
        (some user) params participantIds).exec s = (result, after) ∧
      after.users = s.users ∧
      (SharedFailsLate config session params user participantIds →
        (∃ error, result = .error error) ∧ ¬ SameCollections s after) ∧
      (¬ SharedFailsLate config session params user participantIds →
        (∃ conversation, result = .ok conversation) ∨
          SameCollections s after) := by
  unfold ConversationOperations.createSharedConversation
  dsimp only
  generalize hmembers : ConversationOperations.membersWithOwner session
    participantIds = members
  have hfilled := length_membersWithOwner session participantIds
  rw [hmembers] at hfilled
  by_cases halone : params.type = .g ∧ members.length = 1
  · rw [if_pos halone]
    refine ⟨s, _, rfl, rfl, ?_, fun _ => Or.inr (.refl s)⟩
    intro hlate
    rw [SharedFailsLate, hmembers] at hlate
    exact absurd halone hlate.1
  · rw [if_neg halone]
    obtain ⟨after, stored, hstored, husers, hlimit⟩ :=
      exec_create_shared user params.type params.fields params.isEncrypted
        hfilled s
    have hchanged := not_sameCollections_of_inserted hstored
    rcases hlimit with ⟨hover, hexec⟩ |
      ⟨hwithin, conversation, horganization, hfields, hexec⟩
    · rw [exec_bind_error hexec]
      refine ⟨after, _, rfl, husers, fun _ => ⟨⟨_, rfl⟩, hchanged⟩, ?_⟩
      intro hnot
      rw [SharedFailsLate, hmembers] at hnot
      exact absurd ⟨halone, Or.inl hover⟩ hnot
    · have himage := exec_addImageUrl config conversation after
      rw [horganization, hfields] at himage
      rw [exec_bind_ok hexec]
      by_cases hmissing : params.fields.imageObject.any (fun image =>
          ¬ config.hasFile user.organizationId image.fileId) = true
      · rw [if_pos hmissing] at himage
        rw [exec_bind_error himage]
        refine ⟨after, _, rfl, husers, fun _ => ⟨⟨_, rfl⟩, hchanged⟩, ?_⟩
        intro hnot
        rw [SharedFailsLate, hmembers] at hnot
        exact absurd ⟨halone, Or.inr hmissing⟩ hnot
      · rw [if_neg hmissing] at himage
        rw [exec_bind_ok himage]
        refine ⟨after, _, rfl, husers, ?_, fun _ => Or.inl ⟨_, rfl⟩⟩
        intro hlate
        rw [SharedFailsLate, hmembers] at hlate
        rcases hlate.2 with hover | hgone
        · exact absurd hover (Nat.not_lt_of_le hwithin)
        · exact absurd hgone hmissing

/-! ### Private conversations -/

/-- The error that a conversation meets while its rows are restored: the row
of the owner is written, and the value stored for the opponent is refused. -/
def RestoreFailsLate (config : ConversationConfig) (s : ConversationStore)
    (conversation : ConversationModel) : Prop :=
  (s.rowsOf conversation.id).length + 2 ≤ config.maxParticipants ∧
    config.server.rejectsId conversation.params.ownerId = false ∧
    s.hasRow config.server conversation.id
      conversation.params.ownerId = false ∧
    conversation.params.opponentId.any config.server.rejectsId

/-- The errors that a private conversation meets after a write. -/
def PrivateFailsLate (config : ConversationConfig) (s : ConversationStore)
    (existed : Option ConversationModel) : Prop :=
  match existed with
  | none => config.maxParticipants < 2
  | some conversation => RestoreFailsLate config s conversation

/-- A conversation that is found has an opponent. -/
theorem opponentId_of_findExistedPrivateConversation {server : MongoServer}
    {ownerId : ObjectId} {opponentId : IdParam}
    {isEncrypted : Option EncryptedFlag} {model : ConversationModel}
    (hfound : s.findExistedPrivateConversation server ownerId opponentId
      isEncrypted = .ok (some model)) :
    ∃ stored, model.params.opponentId = some stored := by
  rw [findExistedPrivateConversation] at hfound
  split at hfound
  · cases hfound
  · split at hfound
    · cases hfound
    · obtain ⟨_, hprivate⟩ := get?_of_pick (Except.ok.inj hfound)
      rw [isPrivateBetween, decide_eq_true_eq] at hprivate
      rcases hprivate.2.2 with ⟨_, hany⟩ | ⟨_, hany⟩
      · obtain ⟨stored, hstored, _⟩ := (Option.any_eq_true _ _).1 hany
        exact ⟨stored, hstored⟩
      · obtain ⟨stored, hstored, _⟩ := (Option.any_eq_true _ _).1 hany
        exact ⟨stored, hstored⟩

theorem upsertParticipant_refused {server : MongoServer} {userId : StoredId}
    (hrefused : server.rejectsId userId = true) {c : ObjectId}
    {role : Option ParticipantRole} :
    s.upsertParticipant server c userId.param role =
      (.error .databaseError, s) := by
  rw [upsertParticipant_param, if_pos hrefused]

theorem upsertParticipant_accepted {server : MongoServer} {userId : StoredId}
    (haccepted : server.rejectsId userId = false) (c : ObjectId)
    (role : Option ParticipantRole) :
    ∃ upserted after,
      s.upsertParticipant server c userId.param role =
        (.ok upserted, after) ∧
      after.users = s.users ∧
      (s.hasRow server c userId = true → after = s) ∧
      (s.hasRow server c userId = false →
        after.participants.length = s.participants.length + 1) := by
  rw [upsertParticipant_param, haccepted, if_neg (by simp)]
  cases hrow : s.hasRow server c userId with
  | true => exact ⟨none, s, rfl, rfl, fun _ => rfl, by simp⟩
  | false =>
      refine ⟨some userId, _, rfl, rfl, by simp, fun _ => ?_⟩
      simp [addRow]

/-- The outcome of a request that passes its checks. -/
theorem exec_findOrCreatePrivateConversation {params : CreateParams}
    {user : User} {opponentId : IdParam}
    (hrequest : PrivateRequest config session s params user opponentId)
    {existed : Option ConversationModel}
    (hexisted : s.findExistedPrivateConversation config.server user.id
      opponentId params.isEncrypted = .ok existed) :
    ∃ after result,
      (ConversationOperations.findOrCreatePrivateConversation config session
        user params opponentId).exec s = (result, after) ∧
      after.users = s.users ∧
      (PrivateFailsLate config s existed →
        (∃ error, result = .error error) ∧ ¬ SameCollections s after) ∧
      (¬ PrivateFailsLate config s existed →
        (∃ conversation, result = .ok conversation) ∨
          SameCollections s after) := by
  cases existed with
  | none =>
      rw [hrequest.exec_new hexisted]
      dsimp only [PrivateFailsLate]
      split
      · next hlimit =>
          exact ⟨_, _, rfl, rfl, fun _ => ⟨⟨_, rfl⟩,
            not_sameCollections_of_inserted (get?_insertConversation s _)⟩,
            fun hnot => absurd hlimit hnot⟩
      · next hlimit =>
          refine ⟨_, _, rfl, ?_, fun hlate => absurd hlate hlimit,
            fun _ => Or.inl ⟨_, rfl⟩⟩
          rw [insertPrivate, users_upsertParticipant,
            users_upsertParticipant]
          rfl
  | some conversation =>
      obtain ⟨stored, hstored⟩ :=
        opponentId_of_findExistedPrivateConversation hexisted
      obtain ⟨role, hexec⟩ := exec_found config session hexisted hstored
      rw [hexec, PrivateFailsLate, RestoreFailsLate, hstored,
        Option.any_some]
      split
      · next hlimit =>
          refine ⟨s, _, rfl, rfl, fun hlate => ?_, fun _ => Or.inr (.refl s)⟩
          exact absurd hlimit (Nat.not_lt_of_le hlate.1)
      · next hlimit =>
          cases howner : config.server.rejectsId
            conversation.params.ownerId with
          | true =>
              rw [upsertParticipant_refused howner]
              refine ⟨s, _, rfl, rfl, fun hlate => ?_,
                fun _ => Or.inr (.refl s)⟩
              exact absurd hlate.2.1 (by simp)
          | false =>
              obtain ⟨first, after, hfirst, husers, hkept, hgrown⟩ :=
                upsertParticipant_accepted howner conversation.id
                  (some .owner)
              rw [hfirst]
              dsimp only
              cases hopponent : config.server.rejectsId stored with
              | true =>
                  rw [upsertParticipant_refused hopponent]
                  refine ⟨after, _, rfl, husers, fun hlate => ⟨⟨_, rfl⟩, ?_⟩,
                    fun hnot => Or.inr ?_⟩
                  · intro hsame
                    have hlength := hgrown hlate.2.2.1
                    rw [hsame.participants] at hlength
                    omega
                  · rw [hkept]
                    · exact .refl s
                    · by_contra hrow
                      rw [Bool.not_eq_true] at hrow
                      exact hnot ⟨Nat.le_of_not_lt hlimit, rfl, hrow, rfl⟩
              | false =>
                  obtain ⟨second, last, hsecond, hlast, _⟩ :=
                    upsertParticipant_accepted (s := after) hopponent
                      conversation.id role
                  rw [hsecond]
                  exact ⟨last, _, rfl, hlast.trans husers,
                    fun hlate => by simp at hlate, fun _ => Or.inl ⟨_, rfl⟩⟩

/-! ### The requests -/

/-- A create request whose error comes after a write. -/
def CreateFailsLate (config : ConversationConfig)
    (session : ConversationSession) (s : ConversationStore)
    (params : CreateParams) : Prop :=
  (params.isAccepted config = true ∧ params.type ≠ .u ∧
    ∃ user participantIds,
      s.findUserById session.userId = some user ∧
      s.foundIds session.organizationId params.participants =
        .ok participantIds ∧
      SharedFailsLate config session params user participantIds) ∨
  ∃ user opponentId existed,
    PrivateRequest config session s params user opponentId ∧
    s.findExistedPrivateConversation config.server user.id opponentId
      params.isEncrypted = .ok existed ∧
    PrivateFailsLate config s existed

/-- An outcome with an error keeps the collections, or the error came late. -/
theorem errorsKeep_of_exec {params : CreateParams}
    (haccepted : params.isAccepted config = true)
    {result : Except ConversationError ConversationModel}
    (hexec : (ConversationOperations.create config session params).exec s =
      (result, t)) :
    ErrorsKeep config session s (.create params) ↔
      ((∃ conversation, result = .ok conversation) ∨
        SameCollections s t) := by
  have hperform : (ConversationRequest.perform config session
      (.create params)).exec s = (result.map (fun _ => ()), t) := by
    unfold ConversationRequest.perform
    rw [if_pos (show ConversationRequest.isAccepted config (.create params) =
      true from haccepted)]
    dsimp only
    rw [exec_bind, hexec]
    cases result <;> rfl
  rw [ErrorsKeep, hperform]
  cases result with
  | ok conversation => simp [Except.map]
  | error error => simp [Except.map]

/-- The outcome of a request for a group or a channel. -/
theorem exec_create_shared_request {params : CreateParams}
    (htype : params.type ≠ .u) {user : User} {participantIds : List ObjectId}
    (huser : s.findUserById session.userId = some user)
    (hids : s.foundIds session.organizationId params.participants =
      .ok participantIds) :
    ∃ after result,
      (ConversationOperations.create config session params).exec s =
        (result, after) ∧
      (SharedFailsLate config session params user participantIds →
        (∃ error, result = .error error) ∧ ¬ SameCollections s after) ∧
      (¬ SharedFailsLate config session params user participantIds →
        (∃ conversation, result = .ok conversation) ∨
          SameCollections s after) := by
  obtain ⟨after, result, hexec, husers, hlate, hnot⟩ :=
    exec_createSharedConversation config session params user participantIds s
  refine ⟨after, result, exec_create_of_type huser hids ?_ husers, hlate,
    hnot⟩
  rw [ConversationOperations.createOfType, if_neg htype]
  exact hexec

/-- A request for a group or a channel without its user or with a list that
the server refuses ends before the insert. -/
theorem exec_create_shared_unchecked {params : CreateParams}
    (htype : params.type ≠ .u)
    (hfails : ∀ user participantIds,
      s.findUserById session.userId = some user →
      s.foundIds session.organizationId params.participants ≠
        .ok participantIds) :
    ∃ error, (ConversationOperations.create config session params).exec s =
      (.error error, s) := by
  rw [ConversationOperations.create, exec_query_bind]
  dsimp only
  rw [exec_bind, exec_existedIds]
  cases hids : s.foundIds session.organizationId params.participants with
  | error error => exact ⟨error, rfl⟩
  | ok participantIds =>
      cases huser : s.findUserById session.userId with
      | some user => exact absurd hids (hfails user participantIds huser)
      | none =>
          dsimp only
          rw [ConversationOperations.createOfType, if_neg htype]
          unfold ConversationOperations.createSharedConversation
          dsimp only
          split
          · exact ⟨_, exec_bind_error (exec_fail _ _) _⟩
          · exact ⟨_, exec_bind_error (exec_throw _ _) _⟩

/-- A request that the schema refuses is not performed. -/
theorem errorsKeep_of_not_accepted {request : ConversationRequest}
    (hrefused : ¬ request.isAccepted config = true) :
    ErrorsKeep config session s request := by
  intro error after hexec
  unfold ConversationRequest.perform at hexec
  rw [if_neg hrefused] at hexec
  cases hexec
  exact .refl s

/-- A late error leaves a write behind. -/
theorem not_errorsKeep_of_createFailsLate {params : CreateParams}
    (hlate : CreateFailsLate config session s params) :
    ¬ ErrorsKeep config session s (.create params) := by
  rcases hlate with ⟨haccepted, htype, user, ids, huser, hids, hlate⟩ |
    ⟨user, opponentId, existed, hrequest, hexisted, hlate⟩
  · obtain ⟨after, result, hexec, hfails, _⟩ :=
      exec_create_shared_request htype huser hids
    obtain ⟨⟨error, rfl⟩, hchanged⟩ := hfails hlate
    rw [errorsKeep_of_exec haccepted hexec]
    simpa using hchanged
  · obtain ⟨after, result, hexec, husers, hfails, _⟩ :=
      exec_findOrCreatePrivateConversation hrequest hexisted
    obtain ⟨⟨error, rfl⟩, hchanged⟩ := hfails hlate
    rw [errorsKeep_of_exec hrequest.accepted
      (hrequest.exec_create hexec husers)]
    simpa using hchanged

/-- The errors of a create request leave the collections as they were exactly
when none of them comes after a write. -/
theorem errorsKeep_create_iff (config : ConversationConfig)
    (session : ConversationSession) (s : ConversationStore)
    (params : CreateParams) :
    ErrorsKeep config session s (.create params) ↔
      ¬ CreateFailsLate config session s params := by
  refine ⟨fun hkeep hlate => not_errorsKeep_of_createFailsLate hlate hkeep,
    fun hnot => ?_⟩
  by_cases haccepted : params.isAccepted config = true
  · by_cases htype : params.type = .u
    · by_cases hrequest : ∃ user opponentId,
          PrivateRequest config session s params user opponentId
      · obtain ⟨user, opponentId, hrequest⟩ := hrequest
        obtain ⟨_, _, hchecks⟩ := hrequest.checks
        obtain ⟨existed, hexisted⟩ := hchecks.findExisted user.id
          params.isEncrypted
        obtain ⟨after, result, hexec, husers, _, hkept⟩ :=
          exec_findOrCreatePrivateConversation hrequest hexisted
        rw [errorsKeep_of_exec haccepted
          (hrequest.exec_create hexec husers)]
        apply hkept
        intro hlate
        exact hnot (Or.inr ⟨user, opponentId, existed, hrequest, hexisted,
          hlate⟩)
      · obtain ⟨error, hexec⟩ := exec_create_unchecked htype haccepted
          (fun user opponentId hchecked =>
            hrequest ⟨user, opponentId, hchecked⟩)
        rw [errorsKeep_of_exec haccepted hexec]
        exact Or.inr (.refl s)
    · by_cases hfound : ∃ user participantIds,
          s.findUserById session.userId = some user ∧
          s.foundIds session.organizationId params.participants =
            .ok participantIds
      · obtain ⟨user, participantIds, huser, hids⟩ := hfound
        obtain ⟨after, result, hexec, _, hkept⟩ :=
          exec_create_shared_request htype huser hids
        rw [errorsKeep_of_exec haccepted hexec]
        apply hkept
        intro hlate
        exact hnot (Or.inl ⟨haccepted, htype, user, participantIds, huser,
          hids, hlate⟩)
      · obtain ⟨error, hexec⟩ := exec_create_shared_unchecked htype
          (fun user participantIds huser hids =>
            hfound ⟨user, participantIds, huser, hids⟩)
        rw [errorsKeep_of_exec haccepted hexec]
        exact Or.inr (.refl s)
  · exact errorsKeep_of_not_accepted haccepted

end ConversationStore

end SamaServer
