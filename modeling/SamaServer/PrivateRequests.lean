/-
Requests for private conversations.  The checks of a request read the store
without a write; a request that passes them either restores the rows of a
conversation that is found, or inserts a conversation and then its rows.
-/
import SamaServer.ParticipantRows

namespace SamaServer

namespace ConversationStore

open Fallible ConversationService

variable {s t : ConversationStore} {config : ConversationConfig}
  {session : ConversationSession}

/-- The users of a list, when the list is not empty. -/
def foundIds (s : ConversationStore) (organizationId : ObjectId)
    (ids : Option (List IdParam)) :
    Except ConversationError (List ObjectId) :=
  if isFilled ids then s.retrieveExistedIds organizationId (ids.getD [])
  else .ok []

theorem exec_existedIds (held : HeldConversation) (organizationId : ObjectId)
    (ids : Option (List IdParam)) (s : ConversationStore) :
    (ConversationOperations.existedIds held organizationId ids).exec s =
      (s.foundIds organizationId ids, s) := by
  rw [ConversationOperations.existedIds, foundIds]
  split
  · rfl
  · rfl

/-- What the checks of a private conversation ask of its opponent. -/
structure PassesChecks (config : ConversationConfig)
    (session : ConversationSession) (s : ConversationStore)
    (param : Option IdParam) (participantIds : List ObjectId)
    (opponentId : IdParam) : Prop where
  few : participantIds.length ≤ 2
  chosen : ConversationOperations.chosenOpponent session param
    participantIds = some opponentId
  other : opponentId.isEqualsNativeIds session.user = .ok false
  answered : ∃ isFound, s.findOpponent config.server opponentId = .ok isFound

theorem exec_validatePrivateConversationParticipant_iff
    (param : Option IdParam) (participantIds : List ObjectId)
    (opponentId : IdParam) :
    (ConversationOperations.validatePrivateConversationParticipant config
      session param participantIds).exec s = (.ok opponentId, t) ↔
      t = s ∧ PassesChecks config session s param participantIds
        opponentId := by
  unfold ConversationOperations.validatePrivateConversationParticipant
  constructor
  · intro hexec
    split at hexec
    · cases hexec
    · next hfew =>
        split at hexec
        · cases hexec
        · next chosen hchosen =>
            obtain ⟨isOwner, middle, hequal, hrest⟩ := of_exec_bind_ok hexec
            rw [exec_ofExcept, Prod.mk.injEq] at hequal
            obtain ⟨hequal, rfl⟩ := hequal
            split at hrest
            · cases hrest
            · next hother =>
                obtain ⟨isFound, after, hfound, hlast⟩ :=
                  of_exec_bind_ok hrest
                cases hlast
                rw [exec_query, Prod.mk.injEq] at hfound
                rw [Bool.not_eq_true] at hother
                rw [hother] at hequal
                exact ⟨hfound.2.symm, by omega, hchosen, hequal, isFound,
                  hfound.1⟩
  · rintro ⟨rfl, hchecks⟩
    obtain ⟨isFound, hfound⟩ := hchecks.answered
    rw [if_neg (by have := hchecks.few; omega), hchecks.chosen]
    dsimp only
    rw [hchecks.other, exec_bind_ok (exec_ofExcept _ _), if_neg (by simp),
      exec_query_bind, hfound]
    rfl

/-- A request of type `u` that passes its checks. -/
structure PrivateRequest (config : ConversationConfig)
    (session : ConversationSession) (s : ConversationStore)
    (params : CreateParams) (user : User) (opponentId : IdParam) :
    Prop where
  accepted : params.isAccepted config = true
  type : params.type = .u
  user : s.findUserById session.userId = some user
  checks : ∃ participantIds,
    s.foundIds session.organizationId params.participants =
      .ok participantIds ∧
    PassesChecks config session s params.opponentId participantIds opponentId

/-- A request of type `u` that fails a check ends with an error and without a
write. -/
theorem exec_create_unchecked {params : CreateParams}
    (htype : params.type = .u) (haccepted : params.isAccepted config = true)
    (hfails : ∀ user opponentId,
      ¬ PrivateRequest config session s params user opponentId) :
    ∃ error, (ConversationOperations.create config session params).exec s =
      (.error error, s) := by
  rw [ConversationOperations.create, exec_query_bind]
  dsimp only
  rw [exec_bind, exec_existedIds]
  cases hids : s.foundIds session.organizationId params.participants with
  | error error => exact ⟨error, rfl⟩
  | ok participantIds =>
      dsimp only
      rw [ConversationOperations.createOfType, if_pos htype,
        ConversationOperations.createPrivateConversation]
      rcases hchecks :
          (ConversationOperations.validatePrivateConversationParticipant
            config session params.opponentId participantIds).exec s with
        ⟨result, after⟩
      cases result with
      | error error =>
          have hsame := (readOnly_validatePrivateConversationParticipant
            config session params.opponentId participantIds).eq_of_exec
            hchecks
          refine ⟨error, ?_⟩
          rw [exec_bind_error (exec_bind_error hchecks _), hsame]
      | ok opponentId =>
          obtain ⟨hsame, hpasses⟩ :=
            (exec_validatePrivateConversationParticipant_iff _ _ _).1 hchecks
          cases huser : s.findUserById session.userId with
          | none =>
              refine ⟨.typeError, ?_⟩
              rw [exec_bind_error]
              rw [exec_bind_ok hchecks, hsame]
              rfl
          | some user =>
              exact absurd ⟨haccepted, htype, huser, participantIds, hids,
                hpasses⟩ (hfails user opponentId)

/-- A request goes on to the conversation; the event about it is made from a
user who is still there. -/
theorem exec_create_of_type {params : CreateParams} {user : User}
    {participantIds : List ObjectId}
    (huser : s.findUserById session.userId = some user)
    (hids : s.foundIds session.organizationId params.participants =
      .ok participantIds)
    {result : Except ConversationError ConversationModel}
    (hexec : (ConversationOperations.createOfType config session (some user)
      params participantIds).exec s = (result, t))
    (husers : t.users = s.users) :
    (ConversationOperations.create config session params).exec s =
      (result, t) := by
  rw [ConversationOperations.create, exec_query_bind]
  dsimp only
  rw [huser, exec_bind, exec_existedIds, hids]
  dsimp only
  cases result with
  | error error => exact exec_bind_error hexec _
  | ok conversation =>
      rw [exec_bind_ok hexec, ConversationOperations.createUserEvent]
      split
      · have hthere : (t.findUserById session.userId).isSome = true := by
          rw [findUserById, husers, ← findUserById, huser]
          rfl
        rw [exec_query_bind, if_pos hthere]
        rfl
      · rfl

theorem PrivateRequest.exec_create {params : CreateParams} {user : User}
    {opponentId : IdParam}
    (hrequest : PrivateRequest config session s params user opponentId)
    {result : Except ConversationError ConversationModel}
    (hexec : (ConversationOperations.findOrCreatePrivateConversation config
      session user params opponentId).exec s = (result, t))
    (husers : t.users = s.users) :
    (ConversationOperations.create config session params).exec s =
      (result, t) := by
  obtain ⟨participantIds, hids, hchecks⟩ := hrequest.checks
  have hvalidated := (exec_validatePrivateConversationParticipant_iff
    (t := s) _ _ _).2 ⟨rfl, hchecks⟩
  refine exec_create_of_type hrequest.user hids ?_ husers
  rw [ConversationOperations.createOfType, if_pos hrequest.type,
    ConversationOperations.createPrivateConversation,
    exec_bind_ok hvalidated]
  exact hexec

/-- The look-up of a conversation gets an answer where the look-up of the
opponent did. -/
theorem PassesChecks.findExisted {param : Option IdParam}
    {participantIds : List ObjectId} {opponentId : IdParam}
    (hchecks : PassesChecks config session s param participantIds opponentId)
    (ownerId : ObjectId) (isEncrypted : Option EncryptedFlag) :
    ∃ existed, s.findExistedPrivateConversation config.server ownerId
      opponentId isEncrypted = .ok existed := by
  obtain ⟨isFound, hfound⟩ := hchecks.answered
  rw [findOpponent] at hfound
  rw [findExistedPrivateConversation]
  cases hquery : opponentId.queryId? with
  | none => exact ⟨none, rfl⟩
  | some query =>
      rw [hquery] at hfound
      dsimp only at hfound ⊢
      split at hfound
      · cases hfound
      · next haccepted =>
          rw [if_neg haccepted]
          exact ⟨_, rfl⟩

/-- Whether a value is refused does not depend on the id that a number is
turned into. -/
theorem rejectsId_castObjectId (server : MongoServer) (param : IdParam)
    (generated : ObjectId) :
    server.rejectsId (param.castObjectId generated) =
      param.queryId?.any server.rejectsId := by
  cases param with
  | hex id isLowerCase => rfl
  | text value => rfl
  | number isZero => rfl
  | object value =>
      simp only [IdParam.castObjectId, IdParam.queryId?, Option.any_some]

theorem PassesChecks.not_rejectsId {param : Option IdParam}
    {participantIds : List ObjectId} {opponentId : IdParam}
    (hchecks : PassesChecks config session s param participantIds opponentId)
    (generated : ObjectId) :
    config.server.rejectsId (opponentId.castObjectId generated) = false := by
  obtain ⟨isFound, hfound⟩ := hchecks.answered
  rw [findOpponent] at hfound
  rw [rejectsId_castObjectId]
  cases hquery : opponentId.queryId? with
  | none => rfl
  | some query =>
      rw [hquery] at hfound
      dsimp only at hfound
      split at hfound
      · cases hfound
      · next haccepted => simpa using haccepted

/-- An upsert of a value that is not refused succeeds. -/
theorem upsertParticipant_ok {server : MongoServer} {participantId : IdParam}
    {c : ObjectId} {role : Option ParticipantRole}
    {result : Except ConversationError (Option StoredId)}
    (haccepted : server.rejectsId
      (participantId.castObjectId s.nextId) = false)
    (hupsert : s.upsertParticipant server c participantId role =
      (result, t)) :
    ∃ upserted, result = .ok upserted := by
  rw [upsertParticipant, haccepted, if_neg (by simp)] at hupsert
  split at hupsert
  · exact ⟨none, (congrArg Prod.fst hupsert).symm⟩
  · exact ⟨some _, (congrArg Prod.fst hupsert).symm⟩

theorem users_upsertParticipant (server : MongoServer)
    (s : ConversationStore) (c : ObjectId) (participantId : IdParam)
    (role : Option ParticipantRole) :
    (s.upsertParticipant server c participantId role).2.users =
      s.users := by
  rw [upsertParticipant]
  split
  · rfl
  · split <;> rfl

theorem conversations_upsertParticipant (server : MongoServer)
    (s : ConversationStore) (c : ObjectId) (participantId : IdParam)
    (role : Option ParticipantRole) :
    (s.upsertParticipant server c participantId role).2.conversations =
      s.conversations := by
  rw [upsertParticipant]
  split
  · rfl
  · split <;> rfl

/-- The loop over two participants. -/
theorem exec_addNoExistedParticipants_pair (config : ConversationConfig)
    (held : HeldConversation) (c : ObjectId)
    (first second : IdParam × Option ParticipantRole)
    (s : ConversationStore) :
    (addNoExistedParticipants config held c [first, second]).exec s =
      match s.upsertParticipant config.server c first.1 first.2 with
      | (.error error, after) => (.error error, after)
      | (.ok firstId, after) =>
          match after.upsertParticipant config.server c second.1
              second.2 with
          | (.error error, last) => (.error error, last)
          | (.ok secondId, last) =>
              (.ok (firstId.toList ++ (secondId.toList ++ [])), last) := by
  obtain ⟨firstParam, firstRole⟩ := first
  obtain ⟨secondParam, secondRole⟩ := second
  rw [addNoExistedParticipants, exec_command_bind]
  rcases s.upsertParticipant config.server c firstParam firstRole with
    ⟨firstResult, after⟩
  cases firstResult with
  | error error => rfl
  | ok firstId =>
      dsimp only
      rw [addNoExistedParticipants, exec_bind, exec_command_bind]
      rcases after.upsertParticipant config.server c secondParam secondRole
        with ⟨secondResult, last⟩
      cases secondResult with
      | error error => rfl
      | ok secondId => rfl

theorem createParticipantsParams_pair (conversation : ConversationModel)
    {first second : IdParam} {isFirst isSecond : Bool}
    (hfirst : first.isEqualsNativeIds conversation.params.ownerId.param =
      .ok isFirst)
    (hsecond : second.isEqualsNativeIds conversation.params.ownerId.param =
      .ok isSecond) :
    createParticipantsParams conversation [first, second] =
      .ok [(first, if isFirst then some .owner else none),
        (second, if isSecond then some .owner else none)] := by
  rw [createParticipantsParams, List.mapM_cons, List.mapM_cons, hfirst,
    hsecond]
  rfl

/-- The first two participants of a private conversation. -/
theorem exec_addParticipants_pair (config : ConversationConfig)
    {conversation : ConversationModel}
    (htype : conversation.params.type = .u) {first second : IdParam}
    {firstRole secondRole : Option ParticipantRole}
    (hparams : createParticipantsParams conversation [first, second] =
      .ok [(first, firstRole), (second, secondRole)]) (isEmpty : Bool)
    (s : ConversationStore)
    (hlimit : ((countBefore conversation isEmpty s).plus 2).exceeds
      config.maxParticipants = false) :
    (addParticipants config conversation [first, second] isEmpty).exec s =
      match s.upsertParticipant config.server conversation.id first
          firstRole with
      | (.error error, after) => (.error error, after)
      | (.ok firstId, after) =>
          match after.upsertParticipant config.server conversation.id second
              secondRole with
          | (.error error, last) => (.error error, last)
          | (.ok secondId, last) =>
              (.ok (firstId.toList ++ (secondId.toList ++ []),
                conversation), last) := by
  have hnot : ¬ ((countBefore conversation isEmpty s).plus
      [first, second].length).exceeds config.maxParticipants = true := by
    rw [List.length_cons, List.length_singleton, hlimit]
    simp
  rw [addParticipants, exec_bind_ok (exec_currentParticipantsCount _ _ _),
    if_neg hnot, hparams, exec_bind_ok (exec_ofExcept _ _), exec_bind,
    exec_addNoExistedParticipants_pair]
  dsimp only
  rw [htype]
  rcases s.upsertParticipant config.server conversation.id first firstRole
    with ⟨firstResult, after⟩
  cases firstResult with
  | error error => rfl
  | ok firstId =>
      dsimp only
      rcases after.upsertParticipant config.server conversation.id second
        secondRole with ⟨secondResult, last⟩
      cases secondResult with
      | error error => rfl
      | ok secondId => rfl

/-- The document of a new private conversation. -/
def privateParams (s : ConversationStore) (user : User)
    (params : CreateParams) (opponentId : IdParam) : Conversation :=
  preparedParams s user .u params.fields (some opponentId) params.isEncrypted

def privateModel (s : ConversationStore) (user : User)
    (params : CreateParams) (opponentId : IdParam) : ConversationModel :=
  ⟨s.conversationId (s.privateParams user params opponentId),
    s.privateParams user params opponentId⟩

/-- The insert of a private conversation, and then its rows. -/
def insertPrivate (server : MongoServer) (s : ConversationStore)
    (user : User) (params : CreateParams) (opponentId : IdParam) :
    ConversationStore :=
  let c := s.conversationId (s.privateParams user params opponentId)
  (((s.insertConversation (s.privateParams user params
    opponentId)).upsertParticipant server c (.hex user.id true)
      (some .owner)).2.upsertParticipant server c opponentId none).2

/-- The rows of a new private conversation within the limit. -/
theorem exec_addParticipants_private (s : ConversationStore) (user : User)
    (params : CreateParams) {opponentId : IdParam}
    (hlimit : 2 ≤ config.maxParticipants)
    (hother : opponentId.isEqualsNativeIds (.hex user.id true) = .ok false)
    (haccepted : ∀ generated, config.server.rejectsId
      (opponentId.castObjectId generated) = false) :
    ∃ addedIds, (addParticipants config
      (s.privateModel user params opponentId)
      [.hex user.id true, opponentId] true).exec
        (s.insertConversation (s.privateParams user params opponentId)) =
      (.ok (addedIds, s.privateModel user params opponentId),
        s.insertPrivate config.server user params opponentId) := by
  have hsame : (IdParam.hex user.id true).isEqualsNativeIds
      (.hex user.id true) = .ok true := by
    simp only [IdParam.isEqualsNativeIds, IdParam.text?]
    change Except.ok _ = Except.ok _
    simp
  have hparams := createParticipantsParams_pair
    (s.privateModel user params opponentId) hsame hother
  have hwithin : ((countBefore (s.privateModel user params opponentId) true
      (s.insertConversation (s.privateParams user params
        opponentId))).plus 2).exceeds config.maxParticipants = false := by
    simp only [countBefore, if_true, SubscribersCount.plus,
      SubscribersCount.exceeds, decide_eq_false_iff_not]
    omega
  rw [exec_addParticipants_pair config (by rfl) hparams true _ hwithin]
  rcases hfirst : (s.insertConversation (s.privateParams user params
      opponentId)).upsertParticipant config.server
      (s.privateModel user params opponentId).id (.hex user.id true)
      (some .owner) with ⟨firstResult, after⟩
  rcases hsecond : after.upsertParticipant config.server
      (s.privateModel user params opponentId).id opponentId none with
    ⟨secondResult, last⟩
  obtain ⟨firstId, rfl⟩ := upsertParticipant_ok
    (config.server.rejectsId_id user.id) hfirst
  obtain ⟨secondId, rfl⟩ := upsertParticipant_ok (haccepted _) hsecond
  have hlast : s.insertPrivate config.server user params opponentId =
      last := by
    change (((s.insertConversation (s.privateParams user params
      opponentId)).upsertParticipant config.server
      (s.privateModel user params opponentId).id (.hex user.id true)
      (some .owner)).2.upsertParticipant config.server
        (s.privateModel user params opponentId).id opponentId none).2 = last
    rw [hfirst, hsecond]
  rw [hlast]
  refine ⟨firstId.toList ++ (secondId.toList ++ []), ?_⟩
  simp only [if_true, hfirst, Bool.false_eq_true, if_false, hsecond]

/-- A new private conversation, or the limit that is noticed after the
insert. -/
theorem PrivateRequest.exec_new {params : CreateParams} {user : User}
    {opponentId : IdParam}
    (hrequest : PrivateRequest config session s params user opponentId)
    (hnone : s.findExistedPrivateConversation config.server user.id
      opponentId params.isEncrypted = .ok none) :
    (ConversationOperations.findOrCreatePrivateConversation config session
      user params opponentId).exec s =
      if config.maxParticipants < 2 then
        (.error (.cause .participantsLimit),
          s.insertConversation (s.privateParams user params opponentId))
      else
        (.ok (s.privateModel user params opponentId),
          s.insertPrivate config.server user params opponentId) := by
  obtain ⟨participantIds, _, hchecks⟩ := hrequest.checks
  have huser : session.user = .hex user.id true := by
    rw [id_of_findUserById hrequest.user]
    rfl
  rw [ConversationOperations.findOrCreatePrivateConversation,
    exec_query_bind, hnone]
  dsimp only
  rw [ConversationService.create, exec_command_bind, huser]
  dsimp only
  rw [if_pos (by simp), ← privateParams, ← privateModel]
  split
  · next hlimit =>
      have hexceeds : ((countBefore (s.privateModel user params opponentId)
          true (s.insertConversation (s.privateParams user params
            opponentId))).plus
          [IdParam.hex user.id true, opponentId].length).exceeds
          config.maxParticipants = true := by
        simp only [countBefore, if_true, SubscribersCount.plus,
          SubscribersCount.exceeds, List.length_cons, List.length_nil,
          decide_eq_true_eq]
        omega
      exact exec_bind_error (exec_addParticipants_limit config _ _ true _
        hexceeds) _
  · next hlimit =>
      obtain ⟨addedIds, hadd⟩ := exec_addParticipants_private s user
        params (by omega)
        (by rw [← huser]; exact hchecks.other) hchecks.not_rejectsId
      exact exec_bind_ok hadd _

/-! ### A conversation that is found -/

/-- Stored ids print. -/
theorem StoredId.text?_param (id : StoredId) :
    ∃ text, id.param.text? = .ok text := by
  rcases id with value | ⟨value⟩ | ⟨operator⟩
  · exact ⟨_, rfl⟩
  · exact ⟨_, rfl⟩
  · exact ⟨_, rfl⟩

theorem isEqualsNativeIds_param (first second : StoredId) :
    ∃ isEqual, first.param.isEqualsNativeIds second.param =
      .ok isEqual := by
  obtain ⟨firstText, hfirst⟩ := StoredId.text?_param first
  obtain ⟨secondText, hsecond⟩ := StoredId.text?_param second
  refine ⟨decide (firstText = secondText), ?_⟩
  rw [IdParam.isEqualsNativeIds, hfirst, hsecond]
  rfl

/-- A stored id is cast to itself. -/
theorem castObjectId_param (id : StoredId) (generated : ObjectId) :
    id.param.castObjectId generated = id := by
  rcases id with value | ⟨value⟩ | ⟨operator⟩
  · rfl
  · rfl
  · rfl

/-- Whether one of the rows of a conversation matches an id. -/
def hasRow (server : MongoServer) (s : ConversationStore) (c : ObjectId)
    (userId : StoredId) : Bool :=
  s.participants.any (fun row =>
    row.conversationId = c ∧ server.matchesId userId row.userId)

theorem upsertParticipant_param (server : MongoServer)
    (s : ConversationStore) (c : ObjectId) (userId : StoredId)
    (role : Option ParticipantRole) :
    s.upsertParticipant server c userId.param role =
      if server.rejectsId userId then (.error .databaseError, s)
      else if s.hasRow server c userId then (.ok none, s)
      else (.ok (some userId), s.addRow ⟨c, userId, role⟩) := by
  rw [upsertParticipant, castObjectId_param]
  rfl

theorem isEqualsNativeIds_self (id : StoredId) :
    id.param.isEqualsNativeIds id.param = .ok true := by
  obtain ⟨text, htext⟩ := StoredId.text?_param id
  rw [IdParam.isEqualsNativeIds, htext]
  change Except.ok (decide (text = text)) = _
  simp

/-- The rows of a private conversation that is found, or the reasons for which
they are not written. -/
theorem exec_found (config : ConversationConfig)
    (session : ConversationSession) {params : CreateParams} {user : User}
    {param : IdParam} {conversation : ConversationModel}
    {opponentId : StoredId}
    (hfound : s.findExistedPrivateConversation config.server user.id param
      params.isEncrypted = .ok (some conversation))
    (hopponent : conversation.params.opponentId = some opponentId) :
    ∃ role,
      (ConversationOperations.findOrCreatePrivateConversation config session
        user params param).exec s =
      if config.maxParticipants < (s.rowsOf conversation.id).length + 2 then
        (.error (.cause .participantsLimit), s)
      else
        match s.upsertParticipant config.server conversation.id
            conversation.params.ownerId.param (some .owner) with
        | (.error error, after) => (.error error, after)
        | (.ok _, after) =>
            match after.upsertParticipant config.server conversation.id
                opponentId.param role with
            | (.error error, last) => (.error error, last)
            | (.ok _, last) => (.ok conversation, last) := by
  have htype := (get?_of_findExistedPrivateConversation hfound).2
  obtain ⟨isOwner, hisOwner⟩ := isEqualsNativeIds_param opponentId
    conversation.params.ownerId
  have hparams := createParticipantsParams_pair conversation
    (isEqualsNativeIds_self conversation.params.ownerId) hisOwner
  have hcount : countBefore conversation false s =
      .int (s.rowsOf conversation.id).length := by
    rw [countBefore, if_neg (by simp), htype, if_neg (by simp), userIdsOf,
      List.length_map]
  refine ⟨if isOwner then some .owner else none, ?_⟩
  rw [ConversationOperations.findOrCreatePrivateConversation,
    exec_query_bind, hfound]
  dsimp only
  rw [restorePrivateConversation, hopponent]
  dsimp only [Option.map_some, Option.toList]
  split
  · next hlimit =>
      have hexceeds : ((countBefore conversation false s).plus
          [conversation.params.ownerId.param,
            opponentId.param].length).exceeds
          config.maxParticipants = true := by
        simp only [hcount, SubscribersCount.plus, SubscribersCount.exceeds,
          List.length_cons, List.length_nil, decide_eq_true_eq]
        omega
      exact exec_bind_error (exec_bind_error (exec_addParticipants_limit
        config _ _ false s hexceeds) _) _
  · next hlimit =>
      have hwithin : ((countBefore conversation false s).plus 2).exceeds
          config.maxParticipants = false := by
        simp only [hcount, SubscribersCount.plus, SubscribersCount.exceeds,
          decide_eq_false_iff_not]
        omega
      rw [exec_bind, exec_bind,
        exec_addParticipants_pair config htype hparams false s hwithin]
      simp only [if_true]
      rcases s.upsertParticipant config.server conversation.id
        conversation.params.ownerId.param (some .owner) with
        ⟨firstResult, after⟩
      cases firstResult with
      | error error => rfl
      | ok firstId =>
          dsimp only
          rcases after.upsertParticipant config.server conversation.id
            opponentId.param _ with ⟨secondResult, last⟩
          cases secondResult with
          | error error => rfl
          | ok secondId => rfl

end ConversationStore

end SamaServer
