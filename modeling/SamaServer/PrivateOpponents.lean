/-
The opponent of a private conversation.  An opponent who is not found is
noticed and not reported, the look-up is not scoped to the organization, and
ids are compared as texts; a request is sound exactly when the opponent that
it is stored with is another user of the organization.
-/
import SamaServer.PrivatePairs

namespace SamaServer

namespace ConversationStore

open Fallible ConversationService

variable {s t : ConversationStore} {config : ConversationConfig}
  {session : ConversationSession}

/-- The conversation of a user of its organization other than its owner, with
rows of these two only. -/
def HasOpponent (s : ConversationStore) (conversation : ConversationModel) :
    Prop :=
  ∃ stored id, s.conversations.get? conversation.id = some stored ∧
    stored.opponentId = some (.id id) ∧
    s.users.get? id = some stored.organizationId ∧
    StoredId.id id ≠ stored.ownerId ∧
    ∀ userId ∈ s.userIdsOf conversation.id,
      userId = stored.ownerId ∨ userId = .id id

/-- A request of type `u` ends with such a conversation, or fails and stores
nothing. -/
def PrivateSound (config : ConversationConfig)
    (session : ConversationSession) (s : ConversationStore)
    (params : CreateParams) : Prop :=
  params.isAccepted config = true → params.type = .u → ∀ result after,
    (ConversationOperations.create config session params).exec s =
      (result, after) →
    match result with
    | .ok conversation => HasOpponent after conversation
    | .error _ => SameCollections s after

/-- The opponent is another user of the organization, in the conversation that
is found or else in the request.  A conversation with too many rows is not
restored, and the limit has to leave room for a new one. -/
def NamesOpponent (config : ConversationConfig) (s : ConversationStore)
    (user : User) (opponentId : IdParam) :
    Option ConversationModel → Prop
  | none =>
      2 ≤ config.maxParticipants ∧ ∃ id, opponentId.namedId? = some id ∧
        s.users.get? id = some user.organizationId ∧ id ≠ user.id
  | some conversation =>
      config.maxParticipants < (s.rowsOf conversation.id).length + 2 ∨
        ∃ id, conversation.params.opponentId = some (.id id) ∧
          s.users.get? id = some conversation.params.organizationId ∧
          StoredId.id id ≠ conversation.params.ownerId

/-- A value that is cast to the id of a user names it: new ids are no ids of
users. -/
theorem namedId?_of_cast (hpaired : Paired config.server s)
    {opponentId : IdParam} {id organizationId : ObjectId}
    (hcast : opponentId.castObjectId s.nextId = .id id)
    (huser : s.users.get? id = some organizationId) :
    opponentId.namedId? = some id := by
  rcases namedId?_or_generated hcast with hnamed | rfl
  · exact hnamed
  · have hmem := (s.users.mem_keys_iff s.nextId).2 ⟨_, huser⟩
    exact absurd (hpaired.users _ hmem) (Nat.lt_irrefl _)

theorem castObjectId_of_namedId? {opponentId : IdParam} {id : ObjectId}
    (hnamed : opponentId.namedId? = some id) (generated : ObjectId) :
    opponentId.castObjectId generated = .id id := by
  cases opponentId with
  | hex value isLowerCase =>
      cases hnamed
      rfl
  | text value => cases hnamed
  | number isZero => cases hnamed
  | object value =>
      rw [IdParam.namedId?] at hnamed
      rw [IdParam.castObjectId, hnamed]

theorem users_insertPrivate (server : MongoServer) (s : ConversationStore)
    (user : User) (params : CreateParams) (opponentId : IdParam) :
    (s.insertPrivate server user params opponentId).users = s.users := by
  rw [insertPrivate, users_upsertParticipant, users_upsertParticipant]
  rfl

/-- A new conversation has an opponent exactly when the request names one. -/
theorem hasOpponent_insertPrivate_iff (hpaired : Paired config.server s)
    {params : CreateParams} {user : User} {opponentId : IdParam}
    (hrequest : PrivateRequest config session s params user opponentId) :
    HasOpponent (s.insertPrivate config.server user params opponentId)
        (s.privateModel user params opponentId) ↔
      ∃ id, opponentId.namedId? = some id ∧
        s.users.get? id = some user.organizationId ∧ id ≠ user.id := by
  obtain ⟨_, hget, hpair⟩ := hpaired.insertPrivate hrequest
  constructor
  · rintro ⟨stored, id, hstored, hopponent, huser, hother, _⟩
    rw [show (s.privateModel user params opponentId).id =
      s.conversationId (s.privateParams user params opponentId) from rfl,
      hget, Option.some_inj] at hstored
    rw [← hstored] at hopponent huser hother
    rw [users_insertPrivate] at huser
    refine ⟨id, namedId?_of_cast hpaired (Option.some_inj.1 hopponent) huser,
      huser, ?_⟩
    rintro rfl
    exact hother rfl
  · rintro ⟨id, hnamed, huser, hother⟩
    have hcast := castObjectId_of_namedId? hnamed s.nextId
    rw [hcast] at hpair
    refine ⟨_, id, hget, hpair.opponent, ?_, ?_, ?_⟩
    · rw [users_insertPrivate]
      exact huser
    · intro hsame
      exact hother (StoredId.id.inj hsame)
    · rcases hpair.rows with hrows | ⟨other, hsame, hnone⟩
      · exact hrows
      · cases hsame
        rw [users_insertPrivate] at hnone
        exact absurd ((s.users.mem_keys_iff id).2 ⟨_, huser⟩) hnone

/-- The outcome of a request that passes its checks. -/
theorem outcome_iff_namesOpponent (hpaired : Paired config.server s)
    {params : CreateParams} {user : User} {opponentId : IdParam}
    (hrequest : PrivateRequest config session s params user opponentId)
    {existed : Option ConversationModel}
    (hexisted : s.findExistedPrivateConversation config.server user.id
      opponentId params.isEncrypted = .ok existed) :
    ∃ result after,
      (ConversationOperations.create config session params).exec s =
        (result, after) ∧
      ((match result with
        | .ok conversation => HasOpponent after conversation
        | .error _ => SameCollections s after) ↔
        NamesOpponent config s user opponentId existed) := by
  cases existed with
  | none =>
      have hexec := hrequest.exec_new hexisted
      split at hexec
      · next hlimit =>
          refine ⟨_, _, hrequest.exec_create hexec rfl, ?_⟩
          have hchanged := not_sameCollections_of_inserted
            (get?_insertConversation s
              (s.privateParams user params opponentId))
          constructor
          · exact fun hsame => absurd hsame hchanged
          · exact fun hnames => absurd hnames.1 (Nat.not_le_of_lt hlimit)
      · next hlimit =>
          refine ⟨_, _, hrequest.exec_create hexec
            (users_insertPrivate config.server s user params opponentId), ?_⟩
          dsimp only
          rw [hasOpponent_insertPrivate_iff hpaired hrequest]
          exact ⟨fun hnamed => ⟨Nat.le_of_not_lt hlimit, hnamed⟩, And.right⟩
  | some conversation =>
      obtain ⟨hget, htype⟩ := get?_of_findExistedPrivateConversation hexisted
      obtain ⟨stored, hpair⟩ := hpaired.pairs _ _ hget htype
      obtain ⟨after, hexec, _, husers, hdocuments, hafter, hlimit⟩ :=
        hpaired.exec_found session hexisted hpair
      refine ⟨_, _, hrequest.exec_create hexec husers, ?_⟩
      rw [NamesOpponent]
      by_cases hover : config.maxParticipants <
          (s.rowsOf conversation.id).length + 2
      · rw [if_pos hover, hlimit hover]
        exact ⟨fun _ => Or.inl hover, fun _ => .refl s⟩
      · rw [if_neg hover, or_iff_right hover]
        dsimp only
        constructor
        · rintro ⟨document, id, hdocument, hopponent, huser, hother, _⟩
          rw [hdocuments, hget, Option.some_inj] at hdocument
          rw [← hdocument] at hopponent huser hother
          rw [husers] at huser
          exact ⟨id, hopponent, huser, hother⟩
        · rintro ⟨id, hopponent, huser, hother⟩
          rw [hpair.opponent, Option.some_inj] at hopponent
          rw [hopponent] at hafter
          refine ⟨conversation.params, id, by rw [hdocuments]; exact hget,
            hafter.opponent, by rw [husers]; exact huser, hother, ?_⟩
          rcases hafter.rows with hrows | ⟨other, hsame, hnone⟩
          · exact hrows
          · cases hsame
            rw [husers] at hnone
            exact absurd ((s.users.mem_keys_iff id).2 ⟨_, huser⟩) hnone

/-- After every run, a request of type `u` is sound exactly when it fails a
check or names another user of the organization. -/
theorem privateSound_iff (config : ConversationConfig)
    (events : List ConversationEvent) (session : ConversationSession)
    (params : CreateParams) :
    PrivateSound config session (run config events) params ↔
      ∀ user opponentId existed,
        PrivateRequest config session (run config events) params user
          opponentId →
        (run config events).findExistedPrivateConversation config.server
          user.id opponentId params.isEncrypted = .ok existed →
        NamesOpponent config (run config events) user opponentId existed := by
  have hpaired := paired_run config events
  generalize run config events = s at *
  constructor
  · intro hsound user opponentId existed hrequest hexisted
    obtain ⟨result, after, hexec, hiff⟩ :=
      outcome_iff_namesOpponent hpaired hrequest hexisted
    exact hiff.1 (hsound hrequest.accepted hrequest.type result after hexec)
  · intro hnames haccepted htype result after hexec
    by_cases hrequest : ∃ user opponentId,
        PrivateRequest config session s params user opponentId
    · obtain ⟨user, opponentId, hrequest⟩ := hrequest
      obtain ⟨_, _, hchecks⟩ := hrequest.checks
      obtain ⟨existed, hexisted⟩ := hchecks.findExisted user.id
        params.isEncrypted
      obtain ⟨outcome, last, houtcome, hiff⟩ :=
        outcome_iff_namesOpponent hpaired hrequest hexisted
      rw [houtcome] at hexec
      cases hexec
      exact hiff.2 (hnames user opponentId existed hrequest hexisted)
    · obtain ⟨error, herror⟩ := exec_create_unchecked htype haccepted
        (fun user opponentId hchecked =>
          hrequest ⟨user, opponentId, hchecked⟩)
      rw [herror] at hexec
      cases hexec
      exact .refl _

/-- A request for a private conversation with nobody. -/
def withNobody : CreateParams :=
  ⟨.u, none, none, none, some (.hex 77 true), some [.hex 0 true], none⟩

/-- The opponent is not found, and the conversation is stored. -/
theorem withNobody_stored :
    ¬ PrivateSound ⟨50, false, fun _ _ => true, .oldestFirst⟩ ⟨0, 9⟩
      (run ⟨50, false, fun _ _ => true, .oldestFirst⟩ [.userCreated 9])
      withNobody := by
  intro hsound
  obtain ⟨stored, id, hget, hopponent, huser, _⟩ : HasOpponent _ _ :=
    hsound (by decide) rfl _ _ rfl
  cases hget
  cases hopponent
  cases huser

end ConversationStore

end SamaServer
