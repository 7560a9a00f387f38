/-
Who may update a conversation.  The access to a group or a channel is asked
for the owner or an admin; a private conversation is written for every user of
the organization.
-/
import SamaServer.ConversationSteps
import SamaServer.UpdateErrors

namespace SamaServer

namespace ConversationStore

open Fallible ConversationService

variable {s t : ConversationStore} {config : ConversationConfig}
  {session : ConversationSession} {c : ObjectId}

/-- The owner or an admin of a group or a channel, and the two members of a
private conversation. -/
def MayUpdate (s : ConversationStore) (session : ConversationSession)
    (c : ObjectId) (stored : Conversation) : Prop :=
  stored.organizationId = session.organizationId ∧
    if stored.type = .u then
      stored.ownerId = .id session.userId ∨
        stored.opponentId = some (.id session.userId)
    else
      stored.ownerId = .id session.userId ∨ ∃ row ∈ s.rowsOf c,
        row.userId = .id session.userId ∧ row.role = some .admin

/-- Only a caller who may update a conversation changes it, and any other
caller gets an error and changes nothing. -/
structure UpdateGuarded (s : ConversationStore)
    (session : ConversationSession) (params : UpdateParams)
    (result : Except ConversationError Unit)
    (after : ConversationStore) : Prop where
  changes : ∀ c, after.conversations.get? c ≠ s.conversations.get? c ∨
      after.rowsOf c ≠ s.rowsOf c →
    ∃ stored, s.conversations.get? c = some stored ∧
      MayUpdate s session c stored
  others : (¬ ∃ c stored, params.id.namedId? = some c ∧
      s.conversations.get? c = some stored ∧
      MayUpdate s session c stored) →
    (∃ error, result = .error error) ∧ after = s

/-- A request for the private conversation of two other users. -/
def ForeignPrivate (session : ConversationSession) (s : ConversationStore)
    (params : UpdateParams) : Prop :=
  ∃ c stored, params.id.namedId? = some c ∧
    s.conversations.get? c = some stored ∧
    stored.organizationId = session.organizationId ∧ stored.type = .u ∧
    stored.ownerId ≠ .id session.userId ∧
    stored.opponentId ≠ some (.id session.userId)

/-- Other conversations keep their document and their rows. -/
def OnlyRowsAt (c : ObjectId) (before after : ConversationStore) : Prop :=
  ∀ other ≠ c,
    after.conversations.get? other = before.conversations.get? other ∧
      after.rowsOf other = before.rowsOf other

theorem OnlyRowsAt.trans {r : ConversationStore} (hfirst : OnlyRowsAt c s t)
    (hsecond : OnlyRowsAt c t r) : OnlyRowsAt c s r := by
  intro other hother
  obtain ⟨hget, hrows⟩ := hfirst other hother
  obtain ⟨hgetLater, hrowsLater⟩ := hsecond other hother
  exact ⟨hgetLater.trans hget, hrowsLater.trans hrows⟩

theorem rowsOf_assignRole_of_ne {other : ObjectId} (hother : other ≠ c)
    (s : ConversationStore) (participantIds : List IdParam)
    (role : Option ParticipantRole) :
    (s.assignRole c participantIds role).rowsOf other = s.rowsOf other := by
  rw [rowsOf, assignRole, rowsOf, List.filter_map]
  have hfilter : s.participants.filter ((fun row =>
      decide (row.conversationId = other)) ∘ fun row =>
        if row.conversationId = c ∧
            row.userId ∈ participantIds.filterMap IdParam.queryId? then
          { row with role := role }
        else row) =
      s.participants.filter (fun row => row.conversationId = other) := by
    apply List.filter_congr
    intro row _
    rw [Function.comp_apply]
    split <;> rfl
  rw [hfilter]
  conv_rhs => rw [← List.map_id (s.participants.filter _)]
  apply List.map_congr_left
  intro row hrow
  have hrow := (List.mem_filter.1 hrow).2
  rw [decide_eq_true_eq] at hrow
  rw [if_neg (fun hboth => hother (hrow.symm.trans hboth.1))]
  rfl

theorem writesAt_onlyRowsAt (c : ObjectId) : WritesAt c (OnlyRowsAt c) where
  refl := fun s other _ => ⟨rfl, rfl⟩
  addRow := by
    intro s userId role other hother
    rw [rowsOf_addRow, if_neg (Ne.symm hother)]
    exact ⟨rfl, rfl⟩
  dropRows := by
    intro s userId other hother
    rw [rowsOf_dropRows, if_neg (Ne.symm hother)]
    exact ⟨rfl, rfl⟩
  updateConversation := by
    intro s update other hother
    rw [get?_updateConversation, if_neg hother]
    exact ⟨by simp, rfl⟩
  deleteConversation := by
    intro s other hother
    rw [get?_deleteConversation, if_neg hother]
    exact ⟨rfl, rfl⟩
  assignRole := fun s participantIds role other hother =>
    ⟨rfl, rowsOf_assignRole_of_ne hother s participantIds role⟩

/-- An update that writes is one by a caller who may update, or for a private
conversation of others. -/
theorem mayUpdate_or_foreignPrivate {server : MongoServer}
    {params : UpdateParams} {stored : Conversation} {isLowerCase : Bool}
    (hid : params.id = .hex c isLowerCase)
    (hget : s.conversations.get? c = some stored)
    (horganization : stored.organizationId = session.organizationId)
    (hallowed : stored.type ≠ .u → stored.ownerId = .id session.userId ∨
      (s.findFirstConversationParticipant server c
        (some session.userId)).any
          (fun row => row.role = some .admin) = true) :
    MayUpdate s session c stored ∨ ForeignPrivate session s params := by
  by_cases htype : stored.type = .u
  · by_cases hmember : stored.ownerId = .id session.userId ∨
        stored.opponentId = some (.id session.userId)
    · refine Or.inl ⟨horganization, ?_⟩
      rw [if_pos htype]
      exact hmember
    · rw [not_or] at hmember
      exact Or.inr ⟨c, stored, by rw [hid]; rfl, hget, horganization, htype,
        hmember⟩
  · refine Or.inl ⟨horganization, ?_⟩
    rw [if_neg htype]
    exact (hallowed htype).imp_right admin_row

theorem not_mayUpdate_of_foreignPrivate {params : UpdateParams}
    (hforeign : ForeignPrivate session s params) :
    ¬ ∃ c stored, params.id.namedId? = some c ∧
      s.conversations.get? c = some stored ∧
      MayUpdate s session c stored := by
  rintro ⟨c, stored, hnamed, hget, _, hmember⟩
  obtain ⟨other, another, hother, hgetOther, _, htype, howner, hopponent⟩ :=
    hforeign
  rw [hnamed, Option.some_inj] at hother
  rw [← hother, hget, Option.some_inj] at hgetOther
  rw [hgetOther, if_pos htype] at hmember
  rcases hmember with hisOwner | hisOpponent
  · exact howner hisOwner
  · exact hopponent hisOpponent

/-- The private conversation of others is written, unless the server refuses
the fields. -/
theorem exec_edit_foreignPrivate {params : UpdateParams}
    (haccepted : params.isAccepted = true)
    (hforeign : ForeignPrivate session s params)
    (hwritten : config.server.rejectsFields params.fields = false)
    (error : ConversationError) :
    ((ConversationOperations.edit config session params).exec s).1 ≠
      .error error := by
  obtain ⟨c, stored, hnamed, hget, horganization, htype, _⟩ := hforeign
  have hid : ∃ isLowerCase, params.id = .hex c isLowerCase := by
    rcases hparam : params.id with id | value | isZero | value
    · rw [hparam] at hnamed
      cases hnamed
      exact ⟨_, rfl⟩
    · rw [hparam] at hnamed
      cases hnamed
    · rw [hparam] at hnamed
      cases hnamed
    · simp [UpdateParams.isAccepted, hparam, IdParam.isText] at haccepted
  obtain ⟨isLowerCase, hid⟩ := hid
  rw [exec_edit_of_found hid hget horganization,
    if_neg (fun hboth => hboth.1 htype), exec_editFields hid hget, hwritten,
    if_neg (by simp), if_pos htype]
  simp

/-- Nothing outside the conversation is touched. -/
theorem onlyRowsAt_edit (config : ConversationConfig)
    (session : ConversationSession) (c : ObjectId) (s : ConversationStore)
    (params : UpdateParams) (stored : Conversation) :
    OnlyRowsAt c s
      (if stored.type = .u then
        ((.ok () : Except ConversationError Unit),
          s.withFields c params.fields)
      else (ConversationOperations.editShared config session
        (edited c stored params.fields) params).exec
          (s.withFields c params.fields)).2 := by
  have hfields := (writesAt_onlyRowsAt c).updateConversation s (fun params' =>
    { params' with fields := params'.fields.set params.fields })
  split
  · exact hfields
  · refine OnlyRowsAt.trans hfields ?_
    exact (guarantees_editShared (writesAt_onlyRowsAt c) params).exec
      (writesAt_onlyRowsAt c).refl (fun _ _ _ => OnlyRowsAt.trans) _

/-- A request that is refused without a write is guarded. -/
theorem updateGuarded_of_error (s : ConversationStore)
    (session : ConversationSession) (params : UpdateParams)
    (error : ConversationError) :
    UpdateGuarded s session params (.error error) s where
  changes := by
    intro c hchanged
    simp at hchanged
  others := fun _ => ⟨⟨error, rfl⟩, rfl⟩

theorem exec_perform_update (config : ConversationConfig)
    (session : ConversationSession) (s : ConversationStore)
    (params : UpdateParams) :
    ((ConversationRequest.update params).perform config session).exec s =
      if params.isAccepted then
        (ConversationOperations.edit config session params).exec s
      else (.error .validation, s) := by
  unfold ConversationRequest.perform
  change ((if params.isAccepted then _ else _ :
    ConversationProgram Unit)).exec s = _
  split
  · rfl
  · rfl

/-- In every state, a request for an update is guarded exactly when it does
not write into a private conversation of two other users. -/
theorem updateGuarded_iff (config : ConversationConfig)
    (session : ConversationSession) (s : ConversationStore)
    (params : UpdateParams) :
    UpdateGuarded s session params
        (((ConversationRequest.update params).perform config
          session).exec s).1
        (((ConversationRequest.update params).perform config
          session).exec s).2 ↔
      (params.isAccepted = true → ForeignPrivate session s params →
        config.server.rejectsFields params.fields = true) := by
  rw [exec_perform_update]
  by_cases haccepted : params.isAccepted = true
  · rw [if_pos haccepted]
    rcases exec_edit_cases config session s haccepted with
      ⟨error, hexec⟩ | ⟨c, stored, isLowerCase, hid, hget,
        horganization, hwritten, hallowed, hexec⟩
    · rw [hexec]
      refine ⟨fun _ _ hforeign => ?_,
        fun _ => updateGuarded_of_error s session params error⟩
      by_contra hrejects
      exact absurd (congrArg Prod.fst hexec) (exec_edit_foreignPrivate
        haccepted hforeign (by simpa using hrejects) error)
    · have honly := onlyRowsAt_edit config session c s params stored
      rw [← hexec] at honly
      constructor
      · intro hguarded _ hforeign
        obtain ⟨⟨error, herror⟩, _⟩ := hguarded.others
          (not_mayUpdate_of_foreignPrivate hforeign)
        exact absurd herror (exec_edit_foreignPrivate haccepted hforeign
          hwritten error)
      · intro hmeets
        have hmay : MayUpdate s session c stored := by
          rcases mayUpdate_or_foreignPrivate hid hget horganization
            hallowed with hmay | hforeign
          · exact hmay
          · rw [hmeets haccepted hforeign] at hwritten
            cases hwritten
        refine ⟨?_, fun hnobody => ?_⟩
        · intro other hchanged
          by_cases hother : other = c
          · rw [hother]
            exact ⟨stored, hget, hmay⟩
          · obtain ⟨hsame, hrows⟩ := honly other hother
            rcases hchanged with hdocument | hchanged
            · exact absurd hsame hdocument
            · exact absurd hrows hchanged
        · exact absurd ⟨c, stored, by rw [hid]; rfl, hget, hmay⟩ hnobody
  · rw [if_neg haccepted]
    exact ⟨fun _ hcontra => absurd hcontra haccepted,
      fun _ => updateGuarded_of_error s session params .validation⟩

/-- A private conversation of two users, and a third user. -/
def privateOfTwo : ConversationStore :=
  run ⟨50, false, fun _ _ => true, .oldestFirst⟩
    [.userCreated 9, .userCreated 9, .userCreated 9,
      .requested ⟨0, 9⟩ (.create ⟨.u, none, none, none, some (.hex 1 true),
        some [.hex 0 true, .hex 1 true], none⟩)]

/-- The third user writes a description. -/
def strangersUpdate : UpdateParams :=
  ⟨.hex 4 true, ⟨none, some "mine", none, none⟩, none⟩

theorem strangersUpdate_written :
    ¬ UpdateGuarded privateOfTwo ⟨2, 9⟩ strangersUpdate
      (((ConversationRequest.update strangersUpdate).perform
        ⟨50, false, fun _ _ => true, .oldestFirst⟩ ⟨2, 9⟩).exec
          privateOfTwo).1
      (((ConversationRequest.update strangersUpdate).perform
        ⟨50, false, fun _ _ => true, .oldestFirst⟩ ⟨2, 9⟩).exec
          privateOfTwo).2 := by
  intro hguarded
  obtain ⟨stored, hget, _, hmember⟩ := hguarded.changes 4
    (Or.inl (by decide +kernel))
  cases hget
  revert hmember
  decide +kernel

end ConversationStore

end SamaServer
