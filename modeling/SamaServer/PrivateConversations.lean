/-
The private conversations of a pair of users.  A create request looks for a
conversation of the pair before it inserts one, but it asks whether
`is_encrypted` is stored and not for its value: a conversation stored with
`false` is not found by requests of its own kind, and found by those of the
other.
-/
import SamaServer.PrivatePairs

namespace SamaServer

namespace ConversationStore

open Fallible ConversationService

variable {s t : ConversationStore} {config : ConversationConfig}
  {session : ConversationSession}

/-- A create request of type `u`, a leave, or a user who comes or goes. -/
inductive PrivateEvent
  | userCreated (organizationId : ObjectId)
  | userDeleted (id : ObjectId)
  | created (session : ConversationSession) (params : CreateParams)
      (isEncrypted : Option Bool)
  | left (session : ConversationSession) (conversationId : IdParam)

/-- The parameters of a create request of type `u`. -/
def createOf (params : CreateParams) (isEncrypted : Option Bool) :
    CreateParams :=
  { params with
    type := .u
    isEncrypted := isEncrypted.map .flag }

def PrivateEvent.event : PrivateEvent → ConversationEvent
  | userCreated organizationId => .userCreated organizationId
  | userDeleted id => .userDeleted id
  | created session params isEncrypted =>
      .requested session (.create (createOf params isEncrypted))
  | left session conversationId => .requested session (.delete conversationId)

def runPrivate (config : ConversationConfig) (events : List PrivateEvent) :
    ConversationStore :=
  events.foldl (fun s event => s.step config event.event) empty

/-- Whether the conversation is an encrypted one. -/
def isEncryptedKind (conversation : Conversation) : Bool :=
  conversation.isEncrypted = some (.flag true)

/-- A private conversation of two users, in either order. -/
def IsPair (first second : ObjectId) (conversation : Conversation) : Prop :=
  conversation.type = .u ∧
    (conversation.ownerId = .id first ∧
        conversation.opponentId = some (.id second) ∨
      conversation.ownerId = .id second ∧
        conversation.opponentId = some (.id first))

theorem IsPair.symm {first second : ObjectId} {conversation : Conversation}
    (hpair : IsPair first second conversation) :
    IsPair second first conversation := ⟨hpair.1, hpair.2.symm⟩

/-- At most one conversation for each pair and kind. -/
def UniquePairs (s : ConversationStore) : Prop :=
  ∀ first second c other conversation another,
    s.conversations.get? c = some conversation →
    s.conversations.get? other = some another →
    IsPair first second conversation → IsPair first second another →
    isEncryptedKind conversation = isEncryptedKind another → c = other

/-- A repeated create for a pair and kind returns the conversation that is
stored. -/
def ReturnsExisting (config : ConversationConfig) (s : ConversationStore) :
    PrivateEvent → Prop
  | .created session params isEncrypted =>
      ∀ user opponentId id c conversation,
        PrivateRequest config session s (createOf params isEncrypted) user
          opponentId →
        opponentId.namedId? = some id →
        s.conversations.get? c = some conversation →
        IsPair user.id id conversation →
        isEncryptedKind conversation = decide (isEncrypted = some true) →
        ((ConversationOperations.create config session
          (createOf params isEncrypted)).exec s).1 = .ok ⟨c, conversation⟩
  | _ => True

/-- A request that is not for an encrypted conversation meets no conversation
of the pair that was stored with `false`; a request that repeats another finds
one of its kind, with room for its rows. -/
def FindsOwnKind (config : ConversationConfig) (s : ConversationStore) :
    PrivateEvent → Prop
  | .created session params isEncrypted =>
      ∀ user opponentId id c conversation,
        PrivateRequest config session s (createOf params isEncrypted) user
          opponentId →
        opponentId.namedId? = some id →
        s.conversations.get? c = some conversation →
        IsPair user.id id conversation →
        isEncryptedKind conversation = decide (isEncrypted = some true) →
        (isEncrypted ≠ some true → conversation.isEncrypted = none) ∧
        (s.rowsOf c).length + 2 ≤ config.maxParticipants ∧
        ∀ found, s.findExistedPrivateConversation config.server user.id
          opponentId (isEncrypted.map .flag) = .ok (some found) →
          isEncryptedKind found.params = decide (isEncrypted = some true)
  | _ => True

/-! ### The look-up -/

theorem isPrivateBetween_ids_iff (server : MongoServer)
    (first second : ObjectId) (isEncrypted : Option Bool)
    (conversation : Conversation) :
    isPrivateBetween server (.id first) (.id second)
        (isEncrypted.map .flag) conversation = true ↔
      IsPair first second conversation ∧
        conversation.isEncrypted.isSome =
          decide (isEncrypted = some true) := by
  have hkind : ((isEncrypted.map EncryptedFlag.flag).map
      EncryptedFlag.isTruthy).getD false =
      decide (isEncrypted = some true) := by
    rcases isEncrypted with _ | _ | _ <;> rfl
  have howner : ∀ id, server.matchesId (.id id) conversation.ownerId =
      true ↔ conversation.ownerId = .id id := by
    intro id
    rw [MongoServer.matchesId_id, decide_eq_true_eq]
    exact eq_comm
  have hopponent : ∀ id, conversation.opponentId.any
      (server.matchesId (.id id)) = true ↔
      conversation.opponentId = some (.id id) := by
    intro id
    rw [Option.any_eq_true]
    constructor
    · rintro ⟨stored, hstored, hmatch⟩
      rw [MongoServer.matchesId_id, decide_eq_true_eq] at hmatch
      rw [hstored, hmatch]
    · intro hstored
      exact ⟨.id id, hstored, by simp⟩
  rw [isPrivateBetween, decide_eq_true_eq, hkind, IsPair, howner, howner,
    hopponent, hopponent]
  tauto

/-- The look-up for a user who is named by an id. -/
theorem findExisted_named {opponentId : IdParam} {id : ObjectId}
    (hnamed : opponentId.namedId? = some id) (server : MongoServer)
    (s : ConversationStore) (userId : ObjectId)
    (isEncrypted : Option EncryptedFlag) :
    s.findExistedPrivateConversation server userId opponentId isEncrypted =
      .ok (server.pickConversation.pick (s.models.filter (fun model =>
        isPrivateBetween server (.id userId) (.id id) isEncrypted
          model.params))) := by
  have hquery : opponentId.queryId? = some (.id id) := by
    cases opponentId with
    | hex value isLowerCase =>
        cases hnamed
        rfl
    | text value => cases hnamed
    | number isZero => cases hnamed
    | object value =>
        rw [IdParam.namedId?] at hnamed
        simp only [IdParam.queryId?, IdParam.castObjectId, hnamed]
  rw [findExistedPrivateConversation, hquery]
  rfl

/-- A conversation that is found is one of the pair. -/
theorem of_findExisted_some {opponentId : IdParam} {id userId : ObjectId}
    (hnamed : opponentId.namedId? = some id) {server : MongoServer}
    {isEncrypted : Option Bool} {found : ConversationModel}
    (hfound : s.findExistedPrivateConversation server userId opponentId
      (isEncrypted.map .flag) = .ok (some found)) :
    s.conversations.get? found.id = some found.params ∧
      IsPair userId id found.params ∧
      found.params.isEncrypted.isSome = decide (isEncrypted = some true) := by
  rw [findExisted_named hnamed] at hfound
  obtain ⟨hget, hprivate⟩ := get?_of_pick (Except.ok.inj hfound)
  rw [isPrivateBetween_ids_iff] at hprivate
  exact ⟨hget, hprivate⟩

/-- When none is found, every conversation of the pair has the field stored
differently. -/
theorem of_findExisted_none {opponentId : IdParam} {id userId : ObjectId}
    (hnamed : opponentId.namedId? = some id) {server : MongoServer}
    {isEncrypted : Option Bool}
    (hnone : s.findExistedPrivateConversation server userId opponentId
      (isEncrypted.map .flag) = .ok none) {c : ObjectId}
    {conversation : Conversation}
    (hget : s.conversations.get? c = some conversation)
    (hpair : IsPair userId id conversation) :
    conversation.isEncrypted.isSome ≠ decide (isEncrypted = some true) := by
  intro hsame
  rw [findExisted_named hnamed, Except.ok.injEq,
    Documents.Choice.pick_eq_none_iff, List.filter_eq_nil_iff] at hnone
  apply hnone ⟨c, conversation⟩ (mem_models.2 hget)
  rw [isPrivateBetween_ids_iff]
  exact ⟨hpair, hsame⟩

/-- A conversation of the kind of a request is found by it, unless it was
stored with `false`. -/
theorem isSome_of_kind {conversation : Conversation}
    {isEncrypted : Option Bool}
    (hkind : isEncryptedKind conversation =
      decide (isEncrypted = some true))
    (hplain : isEncrypted ≠ some true → conversation.isEncrypted = none) :
    conversation.isEncrypted.isSome = decide (isEncrypted = some true) := by
  by_cases htrue : isEncrypted = some true
  · rw [decide_eq_true htrue] at hkind ⊢
    rw [isEncryptedKind, decide_eq_true_eq] at hkind
    rw [hkind]
    rfl
  · rw [decide_eq_false htrue, hplain htrue]
    rfl

/-! ### Repeated requests -/

/-- The result of a request that finds a conversation. -/
theorem create_found (hpaired : Paired config.server s)
    {params : CreateParams} {user : User} {opponentId : IdParam}
    (hrequest : PrivateRequest config session s params user opponentId)
    {found : ConversationModel}
    (hfound : s.findExistedPrivateConversation config.server user.id
      opponentId params.isEncrypted = .ok (some found)) :
    ((ConversationOperations.create config session params).exec s).1 =
        (if config.maxParticipants < (s.rowsOf found.id).length + 2 then
          .error (.cause .participantsLimit) else .ok found) ∧
      ((ConversationOperations.create config session
        params).exec s).2.conversations = s.conversations := by
  obtain ⟨hget, htype⟩ := get?_of_findExistedPrivateConversation hfound
  obtain ⟨stored, hpair⟩ := hpaired.pairs _ _ hget htype
  obtain ⟨after, hexec, _, husers, hdocuments, _⟩ :=
    hpaired.exec_found session hfound hpair
  rw [hrequest.exec_create hexec husers]
  exact ⟨rfl, hdocuments⟩

/-- The result of a request that finds none: whatever it is, it is a new
conversation that is stored. -/
theorem create_none {params : CreateParams} {user : User}
    {opponentId : IdParam}
    (hrequest : PrivateRequest config session s params user opponentId)
    (hnone : s.findExistedPrivateConversation config.server user.id
      opponentId params.isEncrypted = .ok none) :
    (∀ conversation,
      ((ConversationOperations.create config session params).exec s).1 =
        .ok conversation →
      conversation.id =
        s.conversationId (s.privateParams user params opponentId)) ∧
      ((ConversationOperations.create config session
        params).exec s).2.conversations =
        s.conversations.set
          (s.conversationId (s.privateParams user params opponentId))
          (s.privateParams user params opponentId) := by
  have hexec := hrequest.exec_new hnone
  split at hexec
  · rw [hrequest.exec_create hexec rfl]
    exact ⟨by simp, rfl⟩
  · rw [hrequest.exec_create hexec (by
      rw [insertPrivate, users_upsertParticipant, users_upsertParticipant]
      rfl)]
    refine ⟨?_, ?_⟩
    · intro conversation hresult
      cases hresult
      rfl
    · dsimp only
      rw [insertPrivate, conversations_upsertParticipant,
        conversations_upsertParticipant]
      rfl

/-- A request that meets the condition returns the conversation that is
stored. -/
theorem returnsExisting_of_findsOwnKind (hpaired : Paired config.server s)
    (hunique : UniquePairs s) {event : PrivateEvent}
    (hfinds : FindsOwnKind config s event) :
    ReturnsExisting config s event := by
  cases event with
  | userCreated organizationId => trivial
  | userDeleted id => trivial
  | left session conversationId => trivial
  | created session params isEncrypted =>
      intro user opponentId id c conversation hrequest hnamed hget hpair
        hkind
      obtain ⟨hplain, hroom, hown⟩ := hfinds user opponentId id c conversation
        hrequest hnamed hget hpair hkind
      obtain ⟨_, _, hchecks⟩ := hrequest.checks
      obtain ⟨existed, hexisted⟩ := hchecks.findExisted user.id
        (isEncrypted.map .flag)
      cases existed with
      | none =>
          exact absurd (isSome_of_kind hkind hplain)
            (of_findExisted_none hnamed hexisted hget hpair)
      | some found =>
          obtain ⟨hgetFound, hpairFound, _⟩ :=
            of_findExisted_some hnamed hexisted
          have hsame := hunique user.id id found.id c found.params
            conversation hgetFound hget hpairFound hpair
            ((hown found hexisted).trans hkind.symm)
          have hparams : found.params = conversation := by
            rw [hsame, hget, Option.some_inj] at hgetFound
            exact hgetFound.symm
          rw [(create_found hpaired hrequest hexisted).1,
            if_neg (by rw [hsame]; exact Nat.not_lt_of_le hroom), ← hsame,
            ← hparams]

/-- A request that returns the conversation that is stored meets the
condition. -/
theorem findsOwnKind_of_returnsExisting (hpaired : Paired config.server s)
    {event : PrivateEvent} (hreturns : ReturnsExisting config s event) :
    FindsOwnKind config s event := by
  cases event with
  | userCreated organizationId => trivial
  | userDeleted id => trivial
  | left session conversationId => trivial
  | created session params isEncrypted =>
      intro user opponentId id c conversation hrequest hnamed hget hpair
        hkind
      have hresult := hreturns user opponentId id c conversation hrequest
        hnamed hget hpair hkind
      obtain ⟨_, _, hchecks⟩ := hrequest.checks
      obtain ⟨existed, hexisted⟩ := hchecks.findExisted user.id
        (isEncrypted.map .flag)
      cases existed with
      | none =>
          have hnew := (create_none hrequest hexisted).1 _ hresult
          have hnone := get?_conversationId s (s.privateParams user
            (createOf params isEncrypted) opponentId)
          rw [← hnew, hget] at hnone
          cases hnone
      | some found =>
          rw [(create_found hpaired hrequest hexisted).1] at hresult
          split at hresult
          · cases hresult
          · next hroom =>
              cases hresult
              obtain ⟨_, _, hsome⟩ := of_findExisted_some hnamed hexisted
              refine ⟨fun hplain => ?_, Nat.le_of_not_lt hroom, ?_⟩
              · rw [decide_eq_false hplain] at hsome
                simpa using hsome
              · intro other hother
                rw [hexisted] at hother
                cases hother
                exact hkind

/-! ### Pairs stay unique -/

/-- No private conversation was stored or rewritten. -/
def KeepsPairs (before after : ConversationStore) : Prop :=
  ∀ c conversation, after.conversations.get? c = some conversation →
    conversation.type = .u → before.conversations.get? c = some conversation

theorem UniquePairs.keepsPairs (hunique : UniquePairs s)
    (hkeeps : KeepsPairs s t) : UniquePairs t := by
  intro first second c other conversation another hget hother hpair
    hpairOther
  exact hunique first second c other conversation another
    (hkeeps c conversation hget hpair.1)
    (hkeeps other another hother hpairOther.1) hpair hpairOther

theorem keepsPairs_of_eq (hsame : t.conversations = s.conversations) :
    KeepsPairs s t := by
  intro c conversation hget _
  rw [← hsame]
  exact hget

theorem SharedOnly.keepsPairs {c : ObjectId} (hshared : SharedOnly c s t) :
    KeepsPairs s t := by
  intro other conversation hget htype
  by_cases hother : other = c
  · subst hother
    exact absurd htype (hshared.type conversation hget)
  · rw [← hshared.conversations other hother]
    exact hget

/-- Somebody leaves: the conversation is deleted, or its document stays as it
is. -/
theorem keepsPairs_removeParticipants {conversation : ConversationModel}
    (hget : s.conversations.get? conversation.id = some conversation.params)
    (ids : List ObjectId) :
    KeepsPairs s ((ConversationService.removeParticipants config conversation
      ids).exec s).2 := by
  by_cases htype : conversation.params.type = .u
  · obtain ⟨removed, shrunk, hshrinks, _, hcases⟩ :=
      exec_removeParticipants config conversation ids s
    rcases hcases with ⟨_, hdeleted⟩ | ⟨userId, newOwnerId, _, hkept⟩
    · rw [hdeleted]
      intro other stored hstored _
      rw [deleteConversation, OrderedMap.get?_erase] at hstored
      split at hstored
      · cases hstored
      · rw [← hshrinks.conversations]
        exact hstored
    · rw [hkept, writeCount, writeOwner, htype, if_neg (by simp),
        if_neg (by simp)]
      exact keepsPairs_of_eq hshrinks.conversations
  · exact (removeParticipants_shared hget htype ids rfl).keepsPairs

theorem keepsPairs_delete (session : ConversationSession)
    (conversationId : IdParam) :
    KeepsPairs s ((ConversationOperations.delete config session
      conversationId).exec s).2 := by
  have hsame : KeepsPairs s s := keepsPairs_of_eq rfl
  rw [ConversationOperations.delete]
  refine (readOnly_hasAccessToConversation _ _ _ _).exec_bind_snd hsame
    (fun access haccess => ?_)
  cases access with
  | none => exact hsame
  | some access =>
      have hget := get?_of_hasAccessToConversation haccess
      dsimp only
      split
      · rw [exec_bind_snd_of_readOnly
          (fun _ => readOnly_createUserEvent config session)]
        exact keepsPairs_removeParticipants hget [session.userId]
      · exact hsame

/-- A request that finds nothing stores the first conversation of its pair and
kind. -/
theorem no_kind_of_findsOwnKind (hpaired : Paired config.server s)
    {params : CreateParams} {isEncrypted : Option Bool} {user : User}
    {opponentId : IdParam}
    (hfinds : FindsOwnKind config s (.created session params isEncrypted))
    (hrequest : PrivateRequest config session s (createOf params isEncrypted)
      user opponentId)
    (hnone : s.findExistedPrivateConversation config.server user.id
      opponentId (isEncrypted.map .flag) = .ok none) {id : ObjectId}
    (hcast : opponentId.castObjectId s.nextId = .id id) {c : ObjectId}
    {conversation : Conversation}
    (hget : s.conversations.get? c = some conversation)
    (hpair : IsPair user.id id conversation) :
    isEncryptedKind conversation ≠ decide (isEncrypted = some true) := by
  intro hkind
  rcases namedId?_or_generated hcast with hnamed | rfl
  · obtain ⟨hplain, _⟩ := hfinds user opponentId id c conversation hrequest
      hnamed hget hpair hkind
    exact of_findExisted_none hnamed hnone hget hpair
      (isSome_of_kind hkind hplain)
  · -- an id that was made for this request is in no stored conversation
    obtain ⟨stored, hat⟩ := hpaired.pairs c conversation hget hpair.1
    obtain ⟨ownerId, howner, hbelow⟩ := hat.owner
    have hbound := hat.bound
    rcases hpair.2 with ⟨_, hopponent⟩ | ⟨hownerId, _⟩
    · rw [hat.opponent, Option.some_inj] at hopponent
      rw [hopponent] at hbound
      exact Nat.lt_irrefl _ (Nat.lt_of_succ_le hbound)
    · rw [howner, StoredId.id.injEq] at hownerId
      rw [hownerId] at hbelow
      exact Nat.lt_irrefl _ hbelow

/-- The pair of a new private conversation. -/
theorem isPair_privateParams {params : CreateParams} {user : User}
    {opponentId : IdParam} {first second : ObjectId}
    (hpair : IsPair first second (s.privateParams user params opponentId)) :
    ∃ id, opponentId.castObjectId s.nextId = .id id ∧
      ∀ conversation, IsPair first second conversation →
        IsPair user.id id conversation := by
  rcases hpair.2 with ⟨howner, hopponent⟩ | ⟨howner, hopponent⟩
  · cases howner
    exact ⟨second, Option.some_inj.1 hopponent, fun _ hsame => hsame⟩
  · cases howner
    exact ⟨first, Option.some_inj.1 hopponent, fun _ hsame => hsame.symm⟩

theorem UniquePairs.create (hpaired : Paired config.server s)
    (hunique : UniquePairs s) {params : CreateParams}
    {isEncrypted : Option Bool}
    (hfinds : FindsOwnKind config s (.created session params isEncrypted))
    (haccepted : (createOf params isEncrypted).isAccepted config = true) :
    UniquePairs ((ConversationOperations.create config session
      (createOf params isEncrypted)).exec s).2 := by
  by_cases hrequest : ∃ user opponentId, PrivateRequest config session s
      (createOf params isEncrypted) user opponentId
  · obtain ⟨user, opponentId, hrequest⟩ := hrequest
    obtain ⟨_, _, hchecks⟩ := hrequest.checks
    obtain ⟨existed, hexisted⟩ := hchecks.findExisted user.id
      (isEncrypted.map .flag)
    cases existed with
    | some found =>
        exact hunique.keepsPairs (keepsPairs_of_eq
          (create_found hpaired hrequest hexisted).2)
    | none =>
        have hnew : ∀ first second c conversation,
            s.conversations.get? c = some conversation →
            IsPair first second (s.privateParams user
              (createOf params isEncrypted) opponentId) →
            IsPair first second conversation →
            isEncryptedKind conversation ≠ isEncryptedKind
              (s.privateParams user (createOf params isEncrypted)
                opponentId) := by
          intro first second c conversation hget hpairNew hpair
          obtain ⟨id, hcast, hsame⟩ := isPair_privateParams hpairNew
          have hkind := no_kind_of_findsOwnKind hpaired hfinds hrequest
            hexisted hcast hget (hsame conversation hpair)
          rcases isEncrypted with _ | _ | _ <;> exact hkind
        intro first second c other conversation another hget hother hpair
          hpairOther hkind
        have hset := (create_none hrequest hexisted).2
        rw [hset, OrderedMap.get?_set] at hget hother
        split at hget
        · next hc =>
            cases hget
            split at hother
            · next hotherNew => rw [hc, hotherNew]
            · exact absurd hkind.symm (hnew first second other another hother
                hpair hpairOther)
        · split at hother
          · cases hother
            exact absurd hkind (hnew first second c conversation hget
              hpairOther hpair)
          · exact hunique first second c other conversation another hget
              hother hpair hpairOther hkind
  · obtain ⟨error, hexec⟩ := exec_create_unchecked rfl haccepted
      (fun user opponentId hchecked =>
        hrequest ⟨user, opponentId, hchecked⟩)
    rw [hexec]
    exact hunique

/-- An event that meets the condition keeps the pairs unique. -/
theorem UniquePairs.step (hpaired : Paired config.server s)
    (hunique : UniquePairs s) {event : PrivateEvent}
    (hfinds : FindsOwnKind config s event) :
    UniquePairs (s.step config event.event) := by
  cases event with
  | userCreated organizationId =>
      exact hunique.keepsPairs (keepsPairs_of_eq rfl)
  | userDeleted id => exact hunique.keepsPairs (keepsPairs_of_eq rfl)
  | left session conversationId =>
      refine hunique.keepsPairs ?_
      rw [PrivateEvent.event, ConversationStore.step,
        ConversationRequest.perform]
      split
      · exact keepsPairs_delete session conversationId
      · exact keepsPairs_of_eq rfl
  | created session params isEncrypted =>
      rw [PrivateEvent.event, ConversationStore.step,
        ConversationRequest.perform]
      split
      · next haccepted =>
          rw [exec_bind_pure_snd _ (fun _ => ())]
          exact hunique.create hpaired hfinds haccepted
      · exact hunique

/-! ### Runs -/

theorem runPrivate_concat (config : ConversationConfig)
    (events : List PrivateEvent) (event : PrivateEvent) :
    runPrivate config (events ++ [event]) =
      (runPrivate config events).step config event.event := by
  rw [runPrivate, List.foldl_append]
  rfl

theorem paired_runPrivate (config : ConversationConfig)
    (events : List PrivateEvent) :
    Paired config.server (runPrivate config events) := by
  induction events using List.reverseRecOn with
  | nil => exact paired_empty
  | append_singleton events event ih =>
      rw [runPrivate_concat]
      exact ih.step event.event

theorem uniquePairs_runPrivate (config : ConversationConfig)
    (events : List PrivateEvent)
    (hfinds : ∀ done event, done ++ [event] <+: events →
      FindsOwnKind config (runPrivate config done) event) :
    UniquePairs (runPrivate config events) := by
  induction events using List.reverseRecOn with
  | nil =>
      intro first second c other conversation another hget
      simp [runPrivate, empty] at hget
  | append_singleton events event ih =>
      rw [forall_events_concat] at hfinds
      rw [runPrivate_concat]
      exact (ih hfinds.1).step (paired_runPrivate config events) hfinds.2

/-- Along every run, the pairs of each kind are unique and repeated requests
return what is stored exactly when every request finds the conversations of
its own kind. -/
theorem privatePairs_iff (config : ConversationConfig)
    (events : List PrivateEvent) :
    ((∀ done, done <+: events → UniquePairs (runPrivate config done)) ∧
      ∀ done event, done ++ [event] <+: events →
        ReturnsExisting config (runPrivate config done) event) ↔
      ∀ done event, done ++ [event] <+: events →
        FindsOwnKind config (runPrivate config done) event := by
  constructor
  · rintro ⟨_, hreturns⟩ done event hdone
    exact findsOwnKind_of_returnsExisting (paired_runPrivate config done)
      (hreturns done event hdone)
  · intro hfinds
    have hunique : ∀ done, done <+: events →
        UniquePairs (runPrivate config done) :=
      fun done hdone => uniquePairs_runPrivate config done
        (fun earlier event hearlier =>
          hfinds earlier event (hearlier.trans hdone))
    refine ⟨hunique, fun done event hdone => ?_⟩
    exact returnsExisting_of_findsOwnKind (paired_runPrivate config done)
      (hunique done ((List.prefix_append done [event]).trans hdone))
      (hfinds done event hdone)

/-- A user asks twice for a private conversation that is not encrypted. -/
def askedTwice : List PrivateEvent :=
  [.userCreated 9, .userCreated 9,
    .created ⟨0, 9⟩ ⟨.u, none, none, none, some (.hex 1 true),
      some [.hex 0 true, .hex 1 true], none⟩ (some false),
    .created ⟨0, 9⟩ ⟨.u, none, none, none, some (.hex 1 true),
      some [.hex 0 true, .hex 1 true], none⟩ (some false)]

/-- Two conversations are stored. -/
theorem askedTwice_stored :
    ¬ UniquePairs (runPrivate ⟨50, false, fun _ _ => true, .oldestFirst⟩
      askedTwice) := by
  intro hunique
  have hsame := hunique 0 1 3 7 _ _ rfl rfl ⟨rfl, Or.inl ⟨rfl, rfl⟩⟩
    ⟨rfl, Or.inl ⟨rfl, rfl⟩⟩ rfl
  cases hsame

end ConversationStore

end SamaServer
