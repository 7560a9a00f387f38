/-
The messages of a server whose requests overlap.  What a request has checked
may be out of date when it writes, but the author of a message never changes,
so whatever the order of the steps a text is written by the author alone and a
message is hidden from a user by that user alone.  An edit looks up its message
twice; with a query operator for an id it may find two different messages.
-/
import SamaServer.MessageHistory
import SamaServer.RelyGuarantee

namespace SamaServer

open Fallible MessageOperations ConversationStore ServerEvent

/-- A request in flight, with the scripts that run for it. -/
structure RunningRequest where
  config : ChatConfig
  displayName : User → String
  session : ApiSession
  request : ServerRequest

namespace RunningRequest

def perform (running : RunningRequest) : ChatProgram Unit :=
  running.request.perform running.config running.displayName running.session

/-- An edit with an id that names a message, not with an operator. -/
def NamesOne (running : RunningRequest) : Prop :=
  ∀ id newBody, running.request = .message (.edit id newBody) →
    id.operator? = none

variable (running : RunningRequest)

/-- The request may store the message. -/
def Writes (message : ChatMessage) : Prop :=
  match running.request with
  | .chat (.message params) => Names params.cid message.cid ∧
      IsSent running.config running.session.userId message.cid params message
  | .conversation (.update _) =>
      IsEventOf message.cid running.session.userId message
  | .conversation (.delete _) =>
      IsEventOf message.cid running.session.userId message
  | _ => False

/-- The request is an edit by the author of the message. -/
def Edits (message : ChatMessage) (body : String) : Prop :=
  match running.request with
  | .message (.edit id newBody) => id.namedId? = some message.id ∧
      message.sender = running.session.userId ∧ newBody = body
  | _ => False

/-- The request is a deletion of the message by that user for themselves. -/
def Hides (message : ChatMessage) (userId : StoredId) : Prop :=
  match running.request with
  | .chat (.messageDelete cid ids false) => Names cid message.cid ∧
      Requested ids message ∧ userId = .id running.session.userId
  | _ => False

/-- The request is a deletion of the message for everyone, or a list of a
conversation some of whose encrypted messages no device needs any more. -/
def Removes (message : ChatMessage) : Prop :=
  match running.request with
  | .chat (.messageDelete cid ids true) => Names cid message.cid ∧
      Requested ids message
  | .chat (.messageList cid _ _) => ∃ c mids, Names cid c ∧
      running.config.encryptedMids running.session.userId c = .ok mids ∧
      message.id ∈ mids.2
  | _ => False

/-- What a step of the request may do to the messages. -/
abbrev rights : MessageRights where
  writes := running.Writes
  edits := running.Edits
  hides := running.Hides
  removes := running.Removes

end RunningRequest

/-- Each step of the program does no more to the messages than `rights`
says. -/
abbrev EvolvesOnly {A : Type} (rights : MessageRights)
    (program : ChatProgram A) : Prop := program.Guarantees (Evolves rights)

theorem LeavesAll.evolvesOnly {A : Type} {rights : MessageRights}
    {program : ChatProgram A} (hprogram : LeavesAll program) :
    EvolvesOnly rights program :=
  Fallible.Guarantees.mono hprogram (fun _ _ => .of_leaves)

theorem AddsOnly.evolvesOnly {A : Type} {rights : MessageRights}
    {W : ChatMessage → Prop} {program : ChatProgram A}
    (hprogram : AddsOnly W program)
    (hwrites : ∀ message, W message → rights.writes message) :
    EvolvesOnly rights program :=
  Fallible.Guarantees.mono hprogram
    (fun _ _ hadds => .of_adds hadds hwrites)

/-- What the requests in flight do to the messages, as far as the others count
on it: no author changes. -/
structure KeepsAuthors (before after : ChatStore) : Prop where
  next : before.nextMessageId ≤ after.nextMessageId
  old : ∀ message ∈ after.messages, message.id < before.nextMessageId →
    ∃ old ∈ before.messages, message.toMessage = old.toMessage

theorem KeepsAuthors.refl (chat : ChatStore) : KeepsAuthors chat chat :=
  ⟨Nat.le_refl _, fun message hmessage _ => ⟨message, hmessage, rfl⟩⟩

theorem KeepsAuthors.trans {first second third : ChatStore}
    (hfirst : KeepsAuthors first second)
    (hsecond : KeepsAuthors second third) : KeepsAuthors first third where
  next := Nat.le_trans hfirst.next hsecond.next
  old := by
    intro message hmessage hid
    obtain ⟨middle, hmiddle, hsame⟩ := hsecond.old message hmessage
      (Nat.lt_of_lt_of_le hid hfirst.next)
    have hmiddleId : middle.id = message.id :=
      (congrArg Message.id hsame).symm
    obtain ⟨old, hold, hother⟩ := hfirst.old middle hmiddle
      (hmiddleId ▸ hid)
    exact ⟨old, hold, hsame.trans hother⟩

theorem Evolves.keepsAuthors {rights : MessageRights}
    {before after : ChatStore}
    (hevolves : Evolves rights before after) : KeepsAuthors before after where
  next := hevolves.next
  old := by
    intro message hmessage hid
    rcases hevolves.source message hmessage with ⟨old, hold, hcarries⟩ |
      ⟨hnew, -⟩
    · exact ⟨old, hold, hcarries.message⟩
    · exact absurd hid (Nat.not_lt.2 hnew)

theorem namedId?_of_queryId? {id : IdParam} {c : ObjectId}
    (hquery : id.queryId? = some (.id c)) : id.namedId? = some c := by
  cases id with
  | hex named isLowerCase =>
      cases hquery
      rfl
  | text value => cases hquery
  | number isZero => cases hquery
  | object value =>
      rcases value with ⟨_ | named, operator, hidesToString⟩
      · cases hquery
      · cases hquery
        rfl

theorem operator?_of_queryId? {id : IdParam} {value : RawId}
    (hquery : id.queryId? = some (.raw value)) :
    value.operator? = id.operator? := by
  cases id with
  | hex named isLowerCase => cases hquery
  | text value =>
      cases hquery
      rfl
  | number isZero => cases hquery
  | object value =>
      rcases value with ⟨_ | named, operator, hidesToString⟩
      · cases hquery
        rfl
      · cases hquery

/-- A message that an id without an operator finds is the one it names. -/
theorem namedId?_of_findMessage {server : MongoServer}
    {pick : Documents.Choice ChatMessage} {chat : ChatStore} {id : IdParam}
    (hid : id.operator? = none) {message : ChatMessage}
    (hfound : chat.findMessage server pick id = .ok (some message)) :
    id.namedId? = some message.id := by
  rw [ChatStore.findMessage] at hfound
  cases hquery : id.queryId? with
  | none =>
      rw [hquery] at hfound
      cases hfound
  | some query =>
      rw [hquery] at hfound
      dsimp only at hfound
      split at hfound
      · cases hfound
      · have hmem := pick.mem _ _ (Except.ok.inj hfound)
        have hmatches := (List.mem_filter.1 hmem).2
        cases query with
        | id c =>
            have hc := StoredId.id.inj (of_decide_eq_true hmatches)
            rw [← hc]
            exact namedId?_of_queryId? hquery
        | raw value =>
            rw [MongoServer.matchesId,
              operator?_of_queryId? hquery, hid] at hmatches
            exact absurd (of_decide_eq_true hmatches) (by simp)

namespace MessageOperations

variable {config : ChatConfig} {session : ConversationSession}
  {rights : MessageRights}

/-- The conversation that a caller has access to is the one that was named. -/
theorem returns_hasAccess
    (refuses : ConversationService.ConversationAccess → Bool)
    (cid : TextId) : (hasAccess config session refuses cid).Returns
      (fun access => Names cid access.conversation.id) := by
  have hfound : (onConversations
      (ConversationService.hasAccessToConversation config.conversations
        session cid.param false)).Returns
      (fun found => ∀ access ∈ found, Names cid access.conversation.id) := by
    refine returns_command (fun chat found hfound access haccess => ?_)
    dsimp only at hfound
    cases cid with
    | other value =>
        rw [TextId.param, exec_hasAccessToConversation_none
          (findByIdWithOrgScope_text _ _ _ value)] at hfound
        cases hfound
        cases haccess
    | hex id isLowerCase =>
        have htext : (IdParam.hex id isLowerCase).isText = true := rfl
        rcases exec_hasAccess_isText config.conversations session htext false
          chat.conversations with
          hnone | ⟨c, _, stored, hcid, -, -, hsome⟩
        · rw [TextId.param, hnone] at hfound
          cases hfound
          cases haccess
        · rw [TextId.param, hsome] at hfound
          cases hfound
          cases haccess
          cases hcid
          exact ⟨isLowerCase, rfl⟩
  refine returns_bind_returns hfound (fun found hnames => ?_)
  cases found with
  | none => exact returns_throw _
  | some access =>
      dsimp only
      split
      · exact returns_throw _
      · split
        · exact returns_pure (hnames access rfl)
        · exact returns_throw _

theorem evolvesOnly_create {params : MessageParams}
    (hwrites : ∀ message, Names params.cid message.cid →
      IsSent config session.userId message.cid params message →
      rights.writes message) :
    EvolvesOnly rights (create config session params) := by
  refine guarantees_bind_returns (leavesAll_query _).evolvesOnly
    (returns_findUserById session.userId) (fun currentUser hcurrent => ?_)
  refine guarantees_bind_returns (leavesAll_hasAccess _ _ _ _).evolvesOnly
    (returns_hasAccess _ params.cid) (fun access hnames => ?_)
  refine (addsOnly_create_rest hcurrent).evolvesOnly (fun message hsent => ?_)
  have hc := hsent.1
  exact hwrites message (hc ▸ hnames) (hc ▸ hsent)

theorem evolvesOnly_delete (cid : TextId) (ids : List IdParam)
    (isDeleteAll : Bool)
    (hhides : isDeleteAll = false → ∀ message, Names cid message.cid →
      Requested ids message → rights.hides message (.id session.userId))
    (hremoves : isDeleteAll = true → ∀ message, Names cid message.cid →
      Requested ids message → rights.removes message) :
    EvolvesOnly rights (delete config session cid ids isDeleteAll) := by
  refine guarantees_bind_returns (leavesAll_hasAccess _ _ _ _).evolvesOnly
    (returns_hasAccess _ cid) (fun access hnames => ?_)
  have hfound : (MessageOperations.query (fun chat =>
      chat.findAllByIds ids)).Returns (fun messages =>
        ∀ message ∈ messages, Requested ids message) := by
    refine returns_command (fun chat messages hmessages message hmessage => ?_)
    rw [findAllByIds_ok hmessages] at hmessage
    exact of_decide_eq_true (List.mem_filter.1 hmessage).2
  refine guarantees_bind_returns (leavesAll_query _).evolvesOnly hfound
    (fun messages hrequested => ?_)
  have hinside : ∀ message, isInConversation session
      (messages.map (fun message => message.id)) access.conversation.id
        message = true →
      Names cid message.cid ∧ Requested ids message := by
    intro message hinside
    obtain ⟨hid, hc, -⟩ := of_decide_eq_true hinside
    obtain ⟨found, hmem, hsame⟩ := List.mem_map.1 hid
    obtain ⟨param, hparam, hnamed⟩ := hrequested found hmem
    exact ⟨hc ▸ hnames, param, hparam, hsame ▸ hnamed⟩
  refine guarantees_bind ?_ (fun _ => guarantees_bind
    (guarantees_command (fun chat => ?_)) (fun _ => ?_))
  · rw [validateMessagesForDelete]
    split
    · exact guarantees_throw _
    · exact guarantees_pure _
  · dsimp only
    split
    · exact .of_same rfl rfl
    · split
      · next hall =>
          refine .of_filter rfl rfl (fun old _ hgone => ?_)
          rw [decide_eq_false_iff_not, not_not] at hgone
          obtain ⟨hnamed, hasked⟩ := hinside old (of_decide_eq_true hgone).1
          exact hremoves hall old hnamed hasked
      · next hself =>
          refine .of_map rfl rfl (fun old _ => ?_)
          split
          · next hin =>
              obtain ⟨hnamed, hasked⟩ := hinside old hin
              obtain ⟨deletedFor, hhide, hmem⟩ := hide_eq session.userId old
              rw [hhide]
              refine ⟨rfl, rfl, Or.inl rfl,
                fun userId huser => (hmem userId).2 (Or.inl huser), ?_⟩
              intro userId huser
              refine ((hmem userId).1 huser).imp_right (fun hcaller => ?_)
              rw [hcaller]
              exact hhides (Bool.eq_false_iff.2 hself) old hnamed hasked
          · exact .refl _ old
  · split
    · exact (leavesAll_query _).evolvesOnly
    · exact guarantees_pure _

theorem evolvesOnly_list (cid : TextId) (filter : ListFilter)
    (limit : Option Nat)
    (hremoves : ∀ message c mids, Names cid c →
      config.encryptedMids session.userId c = .ok mids →
      message.id ∈ mids.2 → rights.removes message) :
    EvolvesOnly rights (list config session cid filter limit) := by
  refine guarantees_bind (leavesAll_query _).evolvesOnly (fun _ => ?_)
  refine guarantees_bind_returns (leavesAll_hasAccess _ _ _ _).evolvesOnly
    (returns_hasAccess _ cid) (fun access hnames => ?_)
  refine guarantees_bind (leavesAll_requireUser _).evolvesOnly
    (fun user => ?_)
  split
  · refine guarantees_bind_returns (R := fun mids =>
      config.encryptedMids session.userId access.conversation.id = .ok mids)
      (guarantees_ofExcept _) (fun _ hmids => hmids) (fun mids hmids => ?_)
    refine guarantees_bind (leavesAll_query _).evolvesOnly (fun _ =>
      guarantees_bind (leavesAll_query _).evolvesOnly (fun _ =>
        guarantees_bind (guarantees_command (fun chat => ?_))
          (fun _ => guarantees_pure _)))
    dsimp only
    split
    · exact .of_same rfl rfl
    · refine .of_filter rfl rfl (fun old _ hgone => ?_)
      rw [decide_eq_false_iff_not, not_not] at hgone
      exact hremoves old _ mids hnames hmids (of_decide_eq_true hgone)
  · exact guarantees_bind (leavesAll_query _).evolvesOnly
      (fun _ => (leavesAll_query _).evolvesOnly)

/-! ### An edit -/

/-- The message that an edit has found is one of its caller. -/
theorem tracks_hasAccessToEdit {messageId : IdParam}
    (hid : messageId.operator? = none) (now : ChatStore) :
    (hasAccessToEdit config session messageId).Tracks KeepsAuthors
      (Evolves rights) (fun message state => message ∈ state.messages ∧
        messageId.namedId? = some message.id ∧
          message.sender = session.userId) now := by
  have hfind : (MessageOperations.query (fun chat => chat.findMessage
      config.conversations.server config.pickMessage messageId)).Tracks
      KeepsAuthors (Evolves rights) (fun found state => ∀ message ∈ found,
        message ∈ state.messages ∧
          messageId.namedId? = some message.id) now := by
    refine tracks_command (fun state _ => ⟨.of_same rfl rfl, ?_⟩)
    intro found hfound message hmessage
    cases hmessage
    exact ⟨mem_of_findMessage hfound, namedId?_of_findMessage hid hfound⟩
  have howned : (hasAccessToMessage config session messageId).Tracks
      KeepsAuthors (Evolves rights) (fun found state => ∀ entry ∈ found,
        entry.1 ∈ state.messages ∧ messageId.namedId? = some entry.1.id ∧
          entry.2 = decide (entry.1.sender = session.userId)) now := by
    refine tracks_bind hfind (fun found state hfound => tracks_pure ?_)
    intro entry hentry
    obtain ⟨message, hmessage, rfl⟩ := Option.mem_map.1 hentry
    exact ⟨(hfound message hmessage).1, (hfound message hmessage).2, rfl⟩
  refine tracks_bind howned (fun found state hfound => ?_)
  cases found with
  | none => exact tracks_throw _
  | some entry =>
      obtain ⟨hmem, hnamed, howner⟩ := hfound entry rfl
      dsimp only
      split
      · next hown =>
          rw [howner] at hown
          exact tracks_pure ⟨hmem, hnamed, of_decide_eq_true hown⟩
      · exact tracks_throw _

/-- What an edit has checked stays good: whatever the others do before it
writes, its message is one of its caller. -/
theorem tracks_edit {messageId : IdParam} (hid : messageId.operator? = none)
    {newBody : String} (hedits : ∀ message,
      messageId.namedId? = some message.id →
      message.sender = session.userId → rights.edits message newBody)
    (now : ChatStore) :
    (edit config session messageId newBody).Tracks KeepsAuthors
      (Evolves rights) (fun _ _ => True) now := by
  refine tracks_bind (tracks_hasAccessToEdit hid now)
    (fun message found hmessage => ?_)
  obtain ⟨hmem, hnamed, howner⟩ := hmessage
  refine tracks_bind (Q := fun _ _ => True) (tracks_command
    (fun chat hkeeps => ⟨?_, fun _ _ => trivial⟩)) (fun _ _ _ =>
      Fallible.Guarantees.tracks (guarantees_bind
        (leavesAll_conversationOf message).evolvesOnly
        (fun _ => (leavesAll_query _).evolvesOnly)))
  rw [ChatStore.updateBody]
  split
  · exact .of_same rfl rfl
  · exact .of_same rfl rfl
  · next written hwritten =>
      refine .of_map rfl rfl (fun old hold => ?_)
      split
      · next hsame =>
          have hold' : messageId.namedId? = some old.id :=
            hsame ▸ namedId?_of_findMessage hid hwritten
          have hids : old.id = message.id :=
            Option.some_inj.1 (hold'.symm.trans hnamed)
          -- the author of the message that was checked is still its author
          obtain ⟨before, hbefore, hauthor⟩ := hkeeps.old old hold
            (hids ▸ found.messages_below message hmem)
          obtain rfl := eq_of_id_eq hbefore hmem
            ((congrArg Message.id hauthor).symm.trans hids)
          refine ⟨rfl, rfl, Or.inr ⟨newBody, hedits old hold' ?_, rfl⟩,
            List.Subset.refl _, fun _ => Or.inl⟩
          exact (congrArg Message.sender hauthor).trans howner
      · exact .refl _ old

end MessageOperations

/-! ### Requests -/

namespace RunningRequest

open MessageOperations

theorem evolvesOnly_conversationUpdate (running : RunningRequest)
    {params : UpdateParams}
    (hrequest : running.request = .conversation (.update params)) :
    EvolvesOnly running.rights (ConversationResults.edit running.config
      running.displayName running.session params) := by
  have hwrites : ∀ c message, IsEventOf c running.session.userId message →
      running.Writes message := by
    intro c message hevent
    rw [Writes, hrequest]
    exact ⟨rfl, hevent.2⟩
  refine guarantees_bind (leavesAll_onConversations
    (ConversationService.readOnly_hasAccessToConversation
      _ _ _ _)).evolvesOnly (fun access => ?_)
  cases access with
  | none => exact guarantees_throw _
  | some access =>
      dsimp only
      split
      · exact guarantees_throw _
      · refine guarantees_bind ((addsOnly_onConversations
          (W := fun _ => False) _).evolvesOnly (fun _ => False.elim))
          (fun updated => ?_)
        cases updated with
        | none => exact guarantees_throw _
        | some conversation =>
            dsimp only
            split
            · exact guarantees_pure _
            · exact (ConversationResults.addsOnly_editShared _ _ _
                conversation params).evolvesOnly (hwrites _)

theorem evolvesOnly_conversationDelete (running : RunningRequest)
    {id : IdParam}
    (hrequest : running.request = .conversation (.delete id)) :
    EvolvesOnly running.rights (ConversationResults.delete running.config
      running.displayName running.session id) := by
  have hwrites : ∀ c message, IsEventOf c running.session.userId message →
      running.Writes message := by
    intro c message hevent
    rw [Writes, hrequest]
    exact ⟨rfl, hevent.2⟩
  refine guarantees_bind (leavesAll_onConversations
    (ConversationService.readOnly_hasAccessToConversation
      _ _ _ _)).evolvesOnly (fun access => ?_)
  cases access with
  | none => exact guarantees_throw _
  | some access =>
      dsimp only
      split
      · exact guarantees_bind ((addsOnly_onConversations
          (W := fun _ => False) _).evolvesOnly (fun _ => False.elim))
          (fun _ => guarantees_bind
            ((ConversationResults.addsOnly_createActionEvents _ _ _
              access.conversation).evolvesOnly (hwrites _))
            (fun _ => guarantees_pure _))
      · exact guarantees_throw _

theorem evolvesOnly_conversation (running : RunningRequest)
    {request : ConversationRequest}
    (hrequest : running.request = .conversation request) :
    EvolvesOnly running.rights (request.performWithEvents running.config
      running.displayName running.session) := by
  rw [ConversationRequest.performWithEvents.eq_def]
  split
  · cases request with
    | create params =>
        exact guarantees_bind ((ConversationResults.addsOnly_create
          (W := fun _ => False) params).evolvesOnly (fun _ => False.elim))
          (fun _ => guarantees_pure _)
    | update params =>
        exact guarantees_bind (running.evolvesOnly_conversationUpdate
          hrequest) (fun _ => guarantees_pure _)
    | delete id =>
        exact guarantees_bind (running.evolvesOnly_conversationDelete
          hrequest) (fun _ => guarantees_pure _)
    | subscribe cid =>
        exact (addsOnly_onConversations (W := fun _ => False)
          _).evolvesOnly (fun _ => False.elim)
    | unsubscribe cid =>
        exact (addsOnly_onConversations (W := fun _ => False)
          _).evolvesOnly (fun _ => False.elim)
  · exact guarantees_throw _

theorem evolvesOnly_chat (running : RunningRequest) {request : ChatRequest}
    (hrequest : running.request = .chat request) :
    EvolvesOnly running.rights (request.perform running.config
      running.session.toConversationSession) := by
  cases request with
  | message params =>
      refine guarantees_bind (evolvesOnly_create (fun message hnames hsent =>
        ?_)) (fun _ => guarantees_pure _)
      change running.Writes message
      rw [Writes, hrequest]
      exact ⟨hnames, hsent⟩
  | messageList cid filter limit =>
      refine guarantees_bind (evolvesOnly_list cid filter limit
        (fun message c mids hnames hmids hmem => ?_))
        (fun _ => guarantees_pure _)
      change running.Removes message
      rw [Removes, hrequest]
      exact ⟨c, mids, hnames, hmids, hmem⟩
  | messageRead cid ids =>
      exact guarantees_bind (leavesAll_read cid ids).evolvesOnly
        (fun _ => guarantees_pure _)
  | messageDelete cid ids isDeleteAll =>
      refine guarantees_bind (evolvesOnly_delete cid ids isDeleteAll ?_ ?_)
        (fun _ => guarantees_pure _)
      · rintro rfl message hnames hasked
        change running.Hides message _
        rw [Hides, hrequest]
        exact ⟨hnames, hasked, rfl⟩
      · rintro rfl message hnames hasked
        change running.Removes message
        rw [Removes, hrequest]
        exact ⟨hnames, hasked⟩
  | messageSummary cid filter =>
      exact guarantees_bind (leavesAll_summary cid filter).evolvesOnly
        (fun _ => guarantees_pure _)
  | systemMessage cid =>
      exact guarantees_bind (LeavesAll.evolvesOnly (guarantees_bind
        (leavesAll_hasAccess _ _ _ cid) (fun _ => leavesAll_query _)))
        (fun _ => guarantees_pure _)
  | typing cid =>
      exact guarantees_bind (leavesAll_typing cid).evolvesOnly
        (fun _ => guarantees_pure _)
  | decryptionFailed cid mids =>
      rw [ChatRequest.perform]
      split
      · exact guarantees_throw _
      · exact guarantees_bind
          (leavesAll_decryptionFailed cid mids).evolvesOnly
          (fun _ => guarantees_pure _)

/-- Whatever the other requests do in between, no step of a request does more
to the messages than the request may do. -/
theorem tracks_perform {running : RunningRequest}
    (hnames : running.NamesOne) (now : ChatStore) :
    running.perform.Tracks KeepsAuthors (Evolves running.rights)
      (fun _ _ => True) now := by
  rw [perform, ServerRequest.perform.eq_def]
  cases hrequest : running.request with
  | conversation request =>
      exact Fallible.Guarantees.tracks
        (running.evolvesOnly_conversation hrequest)
  | chat request =>
      exact Fallible.Guarantees.tracks (running.evolvesOnly_chat hrequest)
  | message request =>
      cases request with
      | edit id newBody =>
          refine tracks_bind (tracks_edit (hnames id newBody hrequest)
            (fun message hnamed howner => ?_) now)
            (fun _ _ _ => tracks_pure trivial)
          change running.Edits message newBody
          rw [Edits, hrequest]
          exact ⟨hnamed, howner, rfl⟩
      | reactionsUpdate id add remove =>
          exact Fallible.Guarantees.tracks
            (MessageRequest.leavesAll_perform rfl).evolvesOnly
      | reactionsList id =>
          exact Fallible.Guarantees.tracks
            (MessageRequest.leavesAll_perform rfl).evolvesOnly

end RunningRequest

/-! ### Interleavings -/

abbrev ServerSystem := System (Option RunningRequest) Unit ChatStore

/-- A request comes in, or one in flight takes its next step. -/
abbrev ServerStep := Event (Option RunningRequest) Unit ChatStore

namespace RunningRequest

/-- The request in flight; its result goes back to the client. -/
def task (running : RunningRequest) :
    Task (Option RunningRequest) Unit ChatStore :=
  ⟨some running, Async.bind running.perform (fun _ => .done ())⟩

end RunningRequest

namespace ServerSystem

/-- What happens is a step, the arrival of a request whose id names its
message, or of work that has nothing to do with messages. -/
def Arrives : ServerStep → Prop
  | .spawn task =>
      (∃ running : RunningRequest, running.NamesOne ∧ task = running.task) ∨
        task.tag = none ∧ task.body.Guarantees (fun _ before after =>
          after.messages = before.messages ∧
            after.nextMessageId = before.nextMessageId)
  | .tick _ => True

/-- Work that has nothing to do with messages does nothing to them. -/
def rightsOf : Option RunningRequest → MessageRights
  | some running => running.rights
  | none => ⟨fun _ => False, fun _ _ => False, fun _ _ => False,
      fun _ => False⟩

/-- Every program in flight counts on the authors only, and does no more to
the messages than it may. -/
def Tracked (system : ServerSystem) : Prop :=
  ∀ task ∈ system.tasks, task.body.Tracks (fun _ => KeepsAuthors)
    (fun _ => Evolves (rightsOf task.tag)) (fun _ _ => True) system.state

/-- The event is a step of that request. -/
def Acts (system : ServerSystem) (event : ServerStep)
    (running : RunningRequest) : Prop :=
  ∃ index task, event = .tick index ∧ system.tasks[index]? = some task ∧
    task.tag = some running

/-- What a step does to a message that stays. -/
def Passes (system : ServerSystem) (event : ServerStep)
    (old new : ChatMessage) : Prop :=
  new = old ∨ ∃ index task, event = .tick index ∧
    system.tasks[index]? = some task ∧ Carries (rightsOf task.tag) old new

variable {system : ServerSystem} {event : ServerStep}

theorem tracked_task {running : RunningRequest} (hnames : running.NamesOne)
    (now : ChatStore) :
    running.task.body.Tracks (fun _ => KeepsAuthors)
      (fun _ => Evolves (rightsOf running.task.tag)) (fun _ _ => True) now :=
  Async.tracks_bind (RunningRequest.tracks_perform hnames now)
    (fun _ _ _ => trivial)

/-- A step is one that the rights of its task allow, and all tasks can count
on it. -/
theorem tracked_exec (htracked : Tracked system) (harrives : Arrives event) :
    Tracked (system.exec event) ∧
      ((system.exec event).state = system.state ∨
        ∃ index task, event = .tick index ∧
          system.tasks[index]? = some task ∧
          Evolves (rightsOf task.tag) system.state
            (system.exec event).state) := by
  cases event with
  | spawn started =>
      refine ⟨?_, Or.inl rfl⟩
      intro task htask
      rcases List.mem_append.1 htask with hold | hnew
      · exact htracked task hold
      · obtain rfl := List.mem_singleton.1 hnew
        rcases harrives with ⟨running, hnames, rfl⟩ | ⟨htag, hbody⟩
        · exact tracked_task hnames system.state
        · refine Async.Guarantees.tracks (hbody.mono
            (fun _ before after hsame => ?_))
          exact .of_same hsame.1 hsame.2
  | tick index =>
      rcases system.tick_cases index with hsame | ⟨tag, label, effect, next,
        hfound, htick⟩
      · rw [System.exec, hsame]
        exact ⟨htracked, Or.inl rfl⟩
      · have hbody := htracked _ (List.mem_of_getElem? hfound) system.state
          (.refl system.state)
        have hevolves : Evolves (rightsOf tag) system.state
            (effect system.state) := hbody.1
        rw [System.exec, htick]
        refine ⟨System.forall_mem_set ?_ hbody.2,
          Or.inr ⟨index, _, rfl, hfound, hevolves⟩⟩
        intro task htask
        exact (htracked task htask).of_rely
          (fun _ _ _ _ => KeepsAuthors.trans)
          (fun _ _ => hevolves.keepsAuthors)

theorem keepsAuthors_exec (htracked : Tracked system)
    (harrives : Arrives event) :
    KeepsAuthors system.state (system.exec event).state := by
  rcases (tracked_exec htracked harrives).2 with hsame |
    ⟨_, _, -, -, hevolves⟩
  · rw [hsame]
    exact .refl system.state
  · exact hevolves.keepsAuthors

/-! ### Runs -/

/-- The owner of the private conversation edits the message while the opponent
hides it and writes an answer. -/
def helloOverlap : List ServerStep :=
  let edited : RunningRequest := ⟨.plain, fun _ => "user", ⟨⟨0, 9⟩, true⟩,
    .message (.edit (.hex 0 true) "new")⟩
  let hidden : RunningRequest := ⟨.plain, fun _ => "user", ⟨⟨1, 9⟩, true⟩,
    .chat (.messageDelete (.hex 4 true) [.hex 0 true] false)⟩
  let answered : RunningRequest := ⟨.plain, fun _ => "user", ⟨⟨1, 9⟩, true⟩,
    .chat (.message ⟨.hex 4 true, some "hi", none, []⟩)⟩
  [.spawn edited.task, .spawn hidden.task, .spawn answered.task, .tick 0,
    .tick 1, .tick 2, .tick 1, .tick 2, .tick 0, .tick 2, .tick 1, .tick 2,
    .tick 2]

/-- The owner deletes the message for everyone while the opponent answers. -/
def helloDropped : List ServerStep :=
  let deleted : RunningRequest := ⟨.plain, fun _ => "user", ⟨⟨0, 9⟩, true⟩,
    .chat (.messageDelete (.hex 4 true) [.hex 0 true] true)⟩
  let answered : RunningRequest := ⟨.plain, fun _ => "user", ⟨⟨1, 9⟩, true⟩,
    .chat (.message ⟨.hex 4 true, some "hi", none, []⟩)⟩
  [.spawn deleted.task, .spawn answered.task, .tick 0, .tick 1, .tick 1,
    .tick 0, .tick 1, .tick 0]

theorem arrives_task {running : RunningRequest} (hnames : running.NamesOne) :
    Arrives (.spawn running.task) := Or.inl ⟨running, hnames, rfl⟩

theorem helloOverlap_arrives : ∀ event ∈ helloOverlap, Arrives event := by
  simp only [helloOverlap, List.forall_mem_cons]
  refine ⟨arrives_task ?_, arrives_task ?_, arrives_task ?_, trivial, trivial,
    trivial, trivial, trivial, trivial, trivial, trivial, trivial, trivial,
    by rintro event ⟨⟩⟩
  · rintro id newBody ⟨⟩
    rfl
  · rintro id newBody ⟨⟩
  · rintro id newBody ⟨⟩

theorem helloDropped_arrives : ∀ event ∈ helloDropped, Arrives event := by
  simp only [helloDropped, List.forall_mem_cons]
  refine ⟨arrives_task ?_, arrives_task ?_, trivial, trivial, trivial, trivial,
    trivial, trivial, by rintro event ⟨⟩⟩
  · rintro id newBody ⟨⟩
  · rintro id newBody ⟨⟩

section Runs

variable {chat : ChatStore} {earlier later : List ServerStep}

theorem tracked_run (harrives : ∀ event ∈ earlier, Arrives event)
    (system : ServerSystem) (htracked : Tracked system) :
    Tracked (system.run earlier) ∧
      KeepsAuthors system.state (system.run earlier).state := by
  induction earlier generalizing system with
  | nil => exact ⟨htracked, .refl system.state⟩
  | cons event events ih =>
      have hevent := harrives event List.mem_cons_self
      obtain ⟨hlast, hkeeps⟩ := ih
        (fun other hother => harrives other (List.mem_cons_of_mem _ hother))
        (system.exec event) (tracked_exec htracked hevent).1
      exact ⟨hlast, (keepsAuthors_exec htracked hevent).trans hkeeps⟩

theorem tracked_start (chat : ChatStore) :
    Tracked (System.start chat : ServerSystem) := by
  rintro task ⟨⟩

theorem run_append (system : ServerSystem) :
    system.run (earlier ++ later) = (system.run earlier).run later :=
  List.foldl_append

/-- A message after a step was there before, or a request stored it. -/
theorem source_exec (system : ServerSystem) (event : ServerStep)
    (message : ChatMessage) (htracked : Tracked system)
    (harrives : Arrives event)
    (hmessage : message ∈ (system.exec event).state.messages) :
    (∃ old ∈ system.state.messages, Passes system event old message) ∨
      system.state.nextMessageId ≤ message.id ∧
        ∃ running, Acts system event running ∧ running.Writes message := by
  rcases (tracked_exec htracked harrives).2 with hsame |
    ⟨index, ⟨tag, body⟩, rfl, hfound, hevolves⟩
  · rw [hsame] at hmessage
    exact Or.inl ⟨message, hmessage, Or.inl rfl⟩
  · rcases hevolves.source message hmessage with ⟨old, hold, hcarries⟩ |
      ⟨hnew, hwrites⟩
    · exact Or.inl ⟨old, hold, Or.inr ⟨index, _, rfl, hfound, hcarries⟩⟩
    · cases tag with
      | none => exact hwrites.elim
      | some running =>
          exact Or.inr ⟨hnew, running, ⟨index, _, rfl, hfound, rfl⟩, hwrites⟩

/-- A message before a step is there after it, or a request removed it. -/
theorem target_exec (system : ServerSystem) (event : ServerStep)
    (old : ChatMessage) (htracked : Tracked system)
    (harrives : Arrives event) (hold : old ∈ system.state.messages) :
    (∃ message ∈ (system.exec event).state.messages,
        Passes system event old message) ∨
      ∃ running, Acts system event running ∧ running.Removes old := by
  rcases (tracked_exec htracked harrives).2 with hsame |
    ⟨index, ⟨tag, body⟩, rfl, hfound, hevolves⟩
  · rw [hsame]
    exact Or.inl ⟨old, hold, Or.inl rfl⟩
  · rcases hevolves.target old hold with ⟨message, hmessage, hcarries⟩ |
      hremoves
    · exact Or.inl ⟨message, hmessage,
        Or.inr ⟨index, _, rfl, hfound, hcarries⟩⟩
    · cases tag with
      | none => exact hremoves.elim
      | some running =>
          exact Or.inr ⟨running, ⟨index, _, rfl, hfound, rfl⟩, hremoves⟩

theorem Passes.message {old new : ChatMessage}
    (hpasses : Passes system event old new) :
    new.toMessage = old.toMessage := by
  rcases hpasses with rfl | ⟨_, _, -, -, hcarries⟩
  · rfl
  · exact hcarries.message

theorem Passes.organizationId {old new : ChatMessage}
    (hpasses : Passes system event old new) :
    new.organizationId = old.organizationId := by
  rcases hpasses with rfl | ⟨_, _, -, -, hcarries⟩
  · rfl
  · exact hcarries.organizationId

/-- A text that was not there before is the one of an edit of the author. -/
theorem Passes.body {old new : ChatMessage}
    (hpasses : Passes system event old new) : new.body = old.body ∨
      ∃ running body, Acts system event running ∧ running.Edits old body ∧
        new.body = some body := by
  rcases hpasses with rfl | ⟨index, ⟨tag, program⟩, rfl, hfound, hcarries⟩
  · exact Or.inl rfl
  · refine hcarries.body.imp_right (fun ⟨body, hedits, hbody⟩ => ?_)
    cases tag with
    | none => exact hedits.elim
    | some running =>
        exact ⟨running, body, ⟨index, _, rfl, hfound, rfl⟩, hedits, hbody⟩

theorem Passes.kept {old new : ChatMessage}
    (hpasses : Passes system event old new) :
    old.deletedFor ⊆ new.deletedFor := by
  rcases hpasses with rfl | ⟨_, _, -, -, hcarries⟩
  · exact List.Subset.refl _
  · exact hcarries.kept

/-- A user from whom the message was not hidden before hides it. -/
theorem Passes.hidden {old new : ChatMessage}
    (hpasses : Passes system event old new) {userId : StoredId}
    (huser : userId ∈ new.deletedFor) : userId ∈ old.deletedFor ∨
      ∃ running, Acts system event running ∧ running.Hides old userId := by
  rcases hpasses with rfl | ⟨index, ⟨tag, program⟩, rfl, hfound, hcarries⟩
  · exact Or.inl huser
  · refine (hcarries.hidden userId huser).imp_right (fun hhides => ?_)
    cases tag with
    | none => exact hhides.elim
    | some running =>
        exact ⟨running, ⟨index, _, rfl, hfound, rfl⟩, hhides⟩

/-- The versions of a message over a run. -/
abbrev Story (system : ServerSystem) (events : List ServerStep)
    (old last : ChatMessage) : Prop :=
  Line System.exec Passes system events old last

/-- An id stands for one message over a whole run. -/
theorem story_of_id_eq (harrives : ∀ event ∈ earlier ++ later, Arrives event)
    {message last : ChatMessage}
    (hmessage : message ∈ ((System.start chat).run earlier).state.messages)
    (hlast : last ∈
      ((System.start chat).run (earlier ++ later)).state.messages)
    (hid : last.id = message.id) :
    Story ((System.start chat).run earlier) later message last := by
  have hfirst := tracked_run (fun event hevent =>
    harrives event (List.mem_append_left later hevent)) _
    (tracked_start chat)
  have hlater : ∀ event ∈ later, Arrives event := fun event hevent =>
    harrives event (List.mem_append_right earlier hevent)
  rw [run_append] at hlast
  rcases exists_source (fun system : ServerSystem => system.state.messages)
    (W := fun system event item => system.state.nextMessageId ≤ item.id ∧
      ∃ running, Acts system event running ∧ running.Writes item)
    (F := Passes) (fun _ _ htracked hevent =>
      (tracked_exec htracked hevent).1) source_exec
    _ later hfirst.1 hlater hlast with ⟨old, hold, hstory⟩ |
      ⟨between, event, after, item, rfl, ⟨hnew, -⟩, hstory⟩
  · have hsame := hstory.same (fun _ _ _ _ => Passes.message)
    obtain rfl := eq_of_id_eq hold hmessage
      ((congrArg Message.id hsame).symm.trans hid)
    exact hstory
  · have hsame := hstory.same (fun _ _ _ _ => Passes.message)
    have hitem : item.id = message.id :=
      (congrArg Message.id hsame).symm.trans hid
    have hkeeps := (tracked_run (fun event hevent =>
      hlater event (List.mem_append_left _ hevent)) _ hfirst.1).2
    have hbelow := Nat.lt_of_lt_of_le
      (((System.start chat).run earlier).state.messages_below message
        hmessage) (Nat.le_trans hkeeps.next hnew)
    rw [hitem] at hbelow
    exact absurd hbelow (Nat.lt_irrefl _)

/-- While a message is stored its author, its conversation and its organization
stay.  Its text changes only in a step of an edit of its author, and it is
hidden from a user, for good, only in a step of a deletion of that user. -/
theorem run_overlapping
    (harrives : ∀ event ∈ earlier ++ later, Arrives event)
    {message last : ChatMessage}
    (hmessage : message ∈ ((System.start chat).run earlier).state.messages)
    (hlast : last ∈
      ((System.start chat).run (earlier ++ later)).state.messages)
    (hid : last.id = message.id) :
    last.toMessage = message.toMessage ∧
    last.organizationId = message.organizationId ∧
    (last.body = message.body ∨
      ∃ between event after running version body,
        later = between ++ event :: after ∧
        Acts ((System.start chat).run (earlier ++ between)) event running ∧
        running.Edits version body ∧
        version.toMessage = message.toMessage ∧ last.body = some body) ∧
    ∀ userId,
      (message.isVisibleTo userId = false →
        last.isVisibleTo userId = false) ∧
      (message.isVisibleTo userId = true →
        last.isVisibleTo userId = false →
        ∃ between event after running version,
          later = between ++ event :: after ∧
          Acts ((System.start chat).run (earlier ++ between)) event
            running ∧
          running.Hides version (.id userId) ∧
          version.toMessage = message.toMessage) := by
  have hstory := story_of_id_eq harrives hmessage hlast hid
  refine ⟨hstory.same (fun _ _ _ _ => Passes.message),
    hstory.same (fun _ _ _ _ => Passes.organizationId), ?_, ?_⟩
  · rcases hstory.cause
      (P := fun version => last.body = version.body)
      (C := fun system event version => ∃ running body,
        Acts system event running ∧ running.Edits version body ∧
          last.body = some body)
      (fun system event old item hpasses hitem => by
        rcases hpasses.body with hsame | ⟨running, body, hacts, hedits, hbody⟩
        · exact Or.inl (hitem.trans hsame)
        · exact Or.inr ⟨running, body, hacts, hedits, hitem.trans hbody⟩)
      rfl with hsame | ⟨between, event, after, version, rfl, hversions,
        running, body, hacts, hedits, hbody⟩
    · exact Or.inl hsame
    · refine Or.inr ⟨between, event, after, running, version, body, rfl, ?_,
        hedits, hversions.same (fun _ _ _ _ => Passes.message), hbody⟩
      rw [run_append]
      exact hacts
  · intro userId
    simp only [ChatMessage.isVisibleTo, decide_eq_true_eq,
      decide_eq_false_iff_not, not_not]
    refine ⟨fun hhidden => ?_, fun hvisible hhidden => ?_⟩
    · exact hstory.kept (P := fun version =>
        StoredId.id userId ∈ version.deletedFor)
        (fun _ _ _ _ hpasses hin => hpasses.kept hin) hhidden
    · rcases hstory.cause
        (P := fun version => StoredId.id userId ∈ version.deletedFor)
        (C := fun system event version => ∃ running,
          Acts system event running ∧ running.Hides version (.id userId))
        (fun _ _ _ _ hpasses => hpasses.hidden) hhidden with
        hbefore | ⟨between, event, after, version, rfl, hversions, running,
          hacts, hhides⟩
      · exact absurd hbefore hvisible
      · refine ⟨between, event, after, running, version, rfl, ?_, hhides,
          hversions.same (fun _ _ _ _ => Passes.message)⟩
        rw [run_append]
        exact hacts

theorem run_overlapping_hello :
    ∃ between event after running version body,
      helloOverlap = between ++ event :: after ∧
      Acts ((System.start ChatStore.oneMessage).run between) event running ∧
      running.Edits version body ∧ version.toMessage = ⟨0, 4, 0⟩ ∧
      some "new" = some body := by
  have hlast : (⟨⟨0, 4, 0⟩, 9, some "new", [.id 1]⟩ : ChatMessage) ∈
      ((System.start ChatStore.oneMessage).run
        ([] ++ helloOverlap)).state.messages := by
    decide +kernel
  have hstart : (⟨⟨0, 4, 0⟩, 9, some "hello", []⟩ : ChatMessage) ∈
      ((System.start ChatStore.oneMessage : ServerSystem).run
        []).state.messages := List.mem_singleton_self _
  have harrives : ∀ event ∈ [] ++ helloOverlap, Arrives event :=
    helloOverlap_arrives
  exact (run_overlapping harrives hstart hlast rfl).2.2.1.resolve_left
    (by decide)

/-- With a query operator for an id the check of an edit is no protection: a
user whose own message is deleted in between writes another user's message. -/
example :
    let server : MongoServer :=
      ⟨.oldest, .oldest, fun _ _ => true, fun _ => false, fun _ => false⟩
    let config : ChatConfig := { ChatConfig.plain with
      conversations := ⟨50, false, fun _ _ => true, server⟩ }
    let edited : RunningRequest := ⟨config, fun _ => "user", ⟨⟨0, 9⟩, true⟩,
      .message (.edit (.object ⟨none, some "$exists", false⟩) "new")⟩
    let deleted : RunningRequest := ⟨config, fun _ => "user",
      ⟨⟨0, 9⟩, true⟩, .chat (.messageDelete (.hex 4 true) [.hex 0 true] true)⟩
    let chat := ChatStore.oneMessage.createMessage 4 1 9 (some "hi") []
    (((System.start chat : ServerSystem).run [.spawn edited.task,
      .spawn deleted.task, .tick 0, .tick 1, .tick 1, .tick 1,
      .tick 0]).state.messages) = [⟨⟨1, 4, 1⟩, 9, some "new", []⟩] := by
  decide +kernel

end Runs

end ServerSystem

end SamaServer
