/-
Where the messages of a server come from and how they go.  In any run of
requests a stored message was sent by its author, who took part in the
conversation, or belongs to an event or an answer of a script; only its author
has edited it, it is hidden from users who hid it, and it is only removed by
its author, by those who moderate the conversation or by a list of encrypted
messages.
-/
import SamaServer.EditAccess
import SamaServer.Histories
import SamaServer.MessageEffects

namespace SamaServer

open Fallible MessageOperations ConversationStore

namespace ServerEvent

/-- The owner or an admin of a group or a channel. -/
def IsModerator (s : ConversationStore) (session : ConversationSession)
    (c : ObjectId) : Prop :=
  ∃ stored, s.conversations.get? c = some stored ∧ stored.type ≠ .u ∧
    MayUpdate s session c stored

/-- A participant of a conversation of the organization. -/
def IsParticipant (s : ConversationStore) (session : ConversationSession)
    (c : ObjectId) : Prop :=
  ∃ stored, s.conversations.get? c = some stored ∧
    stored.organizationId = session.organizationId ∧
    ∃ row ∈ s.rowsOf c, row.userId = .id session.userId

/-- The text names the conversation. -/
def Names (cid : TextId) (c : ObjectId) : Prop :=
  ∃ isLowerCase, cid = .hex c isLowerCase

variable (config : ConversationConfig) (chat : ChatStore)

/-- The event may store the message. -/
def Writes (message : ChatMessage) : ServerEvent → Prop
  | requested scripts _ session (.chat (.message params)) =>
      Names params.cid message.cid ∧
      (ChatRequest.message params).IsAllowed
        { scripts with conversations := config }
        session.toConversationSession chat ∧
      IsSent { scripts with conversations := config } session.userId
        message.cid params message
  | requested _ _ session (.conversation (.update _)) =>
      IsEventOf message.cid session.userId message ∧
      IsModerator chat.conversations session.toConversationSession
        message.cid
  | requested _ _ session (.conversation (.delete _)) =>
      IsEventOf message.cid session.userId message ∧
      IsParticipant chat.conversations session.toConversationSession
        message.cid
  | _ => False

/-- The event is an edit by the author of the message. -/
def Edits (message : ChatMessage) (body : String) : ServerEvent → Prop
  | requested scripts _ session (.message (.edit id newBody)) =>
      chat.findMessage config.server scripts.pickMessage id =
        .ok (some message) ∧
      message.sender = session.userId ∧ newBody = body
  | _ => False

/-- The event is a deletion of the message by a participant for themselves. -/
def Hides (message : ChatMessage) (userId : StoredId) : ServerEvent → Prop
  | requested _ _ session (.chat (.messageDelete cid ids false)) =>
      Names cid message.cid ∧ Requested ids message ∧
      IsParticipant chat.conversations session.toConversationSession
        message.cid ∧ userId = .id session.userId
  | _ => False

/-- The event is a deletion of the message for everyone by its author or a
moderator, or a list of a conversation that is encrypted. -/
def Removes (message : ChatMessage) : ServerEvent → Prop
  | requested _ _ session (.chat (.messageDelete cid ids true)) =>
      Names cid message.cid ∧ Requested ids message ∧
      IsParticipant chat.conversations session.toConversationSession
        message.cid ∧
      (message.sender = session.userId ∨
        IsModerator chat.conversations session.toConversationSession
          message.cid)
  | requested scripts _ session (.chat (.messageList cid _ _)) =>
      ∃ c stored mids, Names cid c ∧
        chat.conversations.conversations.get? c = some stored ∧
        (stored.isEncrypted.map EncryptedFlag.isTruthy).getD false = true ∧
        IsParticipant chat.conversations session.toConversationSession c ∧
        scripts.encryptedMids session.userId c = .ok mids ∧
        message.id ∈ mids.2
  | _ => False

/-- What the event may do to the messages. -/
abbrev rights (event : ServerEvent) : MessageRights where
  writes message := event.Writes config chat message
  edits message body := event.Edits config chat message body
  hides message userId := event.Hides chat message userId
  removes message := event.Removes chat message

/-- The message as it is before and after the event. -/
abbrev Follows (event : ServerEvent) (old new : ChatMessage) : Prop :=
  Carries (event.rights config chat) old new

/-- The messages before and after the event. -/
abbrev Changes (event : ServerEvent) (after : ChatStore) : Prop :=
  Evolves (event.rights config chat) chat after

variable {config chat}

/-! ### Requests on conversations -/

section Conversations

variable {scripts : ChatConfig} {displayName : User → String}
  {session : ApiSession}

/-- A conversation that a text names is found or not. -/
theorem exec_hasAccess_isText (config : ConversationConfig)
    (session : ConversationSession) {id : IdParam}
    (htext : id.isText = true) (isHeld : Bool) (s : ConversationStore) :
    (ConversationService.hasAccessToConversation config session id
        isHeld).exec s = (.ok none, s) ∨
      ∃ c isLowerCase stored, id = .hex c isLowerCase ∧
        s.conversations.get? c = some stored ∧
        stored.organizationId = session.organizationId ∧
        (ConversationService.hasAccessToConversation config session id
          isHeld).exec s =
            (.ok (some (accessTo config session s c stored)), s) := by
  cases id with
  | number isZero => simp [IdParam.isText] at htext
  | object value => simp [IdParam.isText] at htext
  | text value =>
      exact Or.inl (exec_hasAccessToConversation_none
        (findByIdWithOrgScope_text _ _ _ value) isHeld)
  | hex c isLowerCase =>
      have hfind := findByIdWithOrgScope_hex config.server s
        session.organizationId c isLowerCase
      cases hget : s.conversations.get? c with
      | none =>
          rw [hget] at hfind
          exact Or.inl (exec_hasAccessToConversation_none hfind isHeld)
      | some stored =>
          by_cases horganization :
              stored.organizationId = session.organizationId
          · exact Or.inr ⟨c, isLowerCase, stored, rfl, hget, horganization,
              exec_hasAccessToConversation config hget horganization
                isLowerCase isHeld⟩
          · rw [hget] at hfind
            dsimp only at hfind
            rw [if_neg horganization] at hfind
            exact Or.inl (exec_hasAccessToConversation_none hfind isHeld)

/-- The fields are written, and a private conversation gets no events. -/
theorem adds_editFields {params : UpdateParams} {c : ObjectId}
    {isLowerCase : Bool} {stored : Conversation}
    (hid : params.id = .hex c isLowerCase)
    (hget : chat.conversations.conversations.get? c = some stored) :
    Adds (fun message => IsEventOf c session.userId message ∧
        stored.type ≠ .u) chat
      ((ConversationResults.editFields scripts displayName session
        params).exec chat).2 := by
  have hupdate : chat.conversations.updateFields scripts.conversations.server
      params.id params.fields =
      if scripts.conversations.server.rejectsFields params.fields then
        (none, chat.conversations)
      else (some (edited c stored params.fields),
        chat.conversations.withFields c params.fields) := by
    rw [hid]
    change (if scripts.conversations.server.rejectsFields params.fields then
        (none, chat.conversations)
      else (((chat.conversations.withFields c
          params.fields).conversations.get? c).map (ConversationModel.mk c),
        chat.conversations.withFields c params.fields)) = _
    rw [(rewrites_withFields hget params.fields).after]
    rfl
  rw [ConversationResults.editFields, onConversations, exec_command_bind]
  dsimp only
  rw [exec_command]
  dsimp only
  rw [hupdate]
  by_cases hrejects :
      scripts.conversations.server.rejectsFields params.fields = true
  · rw [if_pos hrejects]
    exact .of_same rfl rfl
  · rw [if_neg hrejects]
    by_cases htype : stored.type = .u
    · dsimp only [edited]
      rw [if_pos htype]
      exact .of_same rfl rfl
    · dsimp only [edited]
      rw [if_neg htype]
      have hadds := (ConversationResults.addsOnly_editShared scripts
        displayName session (edited c stored params.fields) params).exec
        { chat with
          conversations := chat.conversations.withFields c params.fields }
      exact ⟨hadds.kept, fun message hmessage =>
        (hadds.new message hmessage).imp_right (fun hevent =>
          ⟨hevent.1, hevent.2, htype⟩), hadds.next⟩

theorem changes_update {params : UpdateParams}
    (htext : params.id.isText = true) :
    (requested scripts displayName session
        (.conversation (.update params))).Changes config chat
      ((ConversationResults.edit { scripts with conversations := config }
        displayName session params).exec chat).2 := by
  rw [ConversationResults.edit]
  rcases exec_hasAccess_isText config session.toConversationSession htext
    false chat.conversations with hnone | ⟨c, isLowerCase, stored, hid, hget,
      horganization, haccess⟩
  · rw [exec_bind_ok (ConversationResults.exec_onConversations hnone)]
    exact .of_same rfl rfl
  · rw [exec_bind_ok (ConversationResults.exec_onConversations haccess)]
    dsimp only
    split
    · exact .of_same rfl rfl
    · next hallowed =>
        refine .of_adds (adds_editFields hid hget) ?_
        rintro message ⟨hevent, htype⟩
        have hc := hevent.1
        refine ⟨hc ▸ hevent, stored, hc ▸ hget, htype, horganization, ?_⟩
        rw [if_neg htype]
        have hrole := not_not.1 (fun hnot => hallowed ⟨htype, hnot⟩)
        rw [hc]
        exact hrole.imp (by simp [accessTo]) admin_row

theorem changes_delete {id : IdParam} (htext : id.isText = true) :
    (requested scripts displayName session
        (.conversation (.delete id))).Changes config chat
      ((ConversationResults.delete { scripts with conversations := config }
        displayName session id).exec chat).2 := by
  rw [ConversationResults.delete]
  rcases exec_hasAccess_isText config session.toConversationSession htext
    true chat.conversations with hnone | ⟨c, isLowerCase, stored, hid, hget,
      horganization, haccess⟩
  · rw [exec_bind_ok (ConversationResults.exec_onConversations hnone)]
    exact .of_same rfl rfl
  · rw [exec_bind_ok (ConversationResults.exec_onConversations haccess)]
    dsimp only
    split
    · next hparticipant =>
        have hrow := (asParticipant_iff config session.toConversationSession
          chat.conversations c stored).1 hparticipant
        have hrest : AddsOnly (IsEventOf c session.userId) (do
            let _ ← onConversations (ConversationService.removeParticipants
              config ⟨c, stored⟩ [session.userId])
            let conversationEvents ←
              ConversationResults.createActionEvents
                { scripts with conversations := config } displayName session
                ⟨c, stored⟩
            pure (⟨session.organizationId, session.userId,
              conversationEvents⟩ : ConversationDeleteResult)) :=
          guarantees_bind (addsOnly_onConversations _) (fun _ =>
            guarantees_bind (ConversationResults.addsOnly_createActionEvents
              _ _ _ ⟨c, stored⟩) (fun _ => guarantees_pure _))
        refine .of_adds (hrest.exec chat) (fun message hevent => ?_)
        have hc := hevent.1
        exact ⟨hc ▸ hevent, stored, hc ▸ hget, horganization, hc ▸ hrow⟩
    · exact .of_same rfl rfl

end Conversations

/-! ### Requests on messages -/

section Messages

variable {scripts : ChatConfig} {displayName : User → String}
  {session : ApiSession}

/-- A caller with access is a participant. -/
theorem isParticipant_of_hasAccess (session : ApiSession)
    {settings : ChatConfig}
    {refuses : ConversationService.ConversationAccess → Bool} {cid : TextId}
    {access : ConversationService.ConversationAccess}
    (haccess : HasAccess settings session.toConversationSession refuses cid
      chat access) :
    Names cid access.conversation.id ∧
      chat.conversations.conversations.get? access.conversation.id =
        some access.conversation.params ∧
      IsParticipant chat.conversations session.toConversationSession
        access.conversation.id := by
  obtain ⟨c, isLowerCase, stored, hcid, hget, horganization, rfl, -,
    hparticipant⟩ := haccess
  exact ⟨⟨isLowerCase, hcid⟩, hget, stored, hget, horganization,
    (asParticipant_iff _ _ _ _ _).1 hparticipant⟩

/-- A caller with access who owns or administers it moderates it. -/
theorem isModerator_of_hasAccess {settings : ChatConfig}
    {refuses : ConversationService.ConversationAccess → Bool} {cid : TextId}
    {access : ConversationService.ConversationAccess}
    (haccess : HasAccess settings session.toConversationSession refuses cid
      chat access) (htype : access.conversation.params.type ≠ .u)
    (hrole : access.asOwner = true ∨ access.asAdmin = true) :
    IsModerator chat.conversations session.toConversationSession
      access.conversation.id := by
  obtain ⟨c, isLowerCase, stored, hcid, hget, horganization, rfl, -, -⟩ :=
    haccess
  refine ⟨stored, hget, htype, horganization, ?_⟩
  rw [if_neg (show ¬ stored.type = .u from htype)]
  exact hrole.imp (by simp [accessTo]) admin_row

theorem changes_message (params : MessageParams) :
    (requested scripts displayName session
        (.chat (.message params))).Changes config chat
      ((MessageOperations.create { scripts with conversations := config }
        session.toConversationSession params).exec chat).2 := by
  rw [MessageOperations.create, MessageOperations.query, exec_command_bind]
  dsimp only
  rcases exec_hasAccess_cases { scripts with conversations := config }
    session.toConversationSession _ params.cid chat with
    ⟨access, haccess, hexec⟩ | ⟨-, status, -, hexec⟩
  · rw [hasAccessToCreate, exec_bind_ok hexec]
    refine .of_adds ((addsOnly_create_rest (fun user huser =>
      id_of_findUserById huser)).exec chat) (fun message hsent => ?_)
    have hnames := (isParticipant_of_hasAccess session haccess).1
    have hallowed : (ChatRequest.message params).IsAllowed
        { scripts with conversations := config }
        session.toConversationSession chat :=
      ChatRequest.isAllowed_of_hasAccess haccess (by
        intro _ _ access hrefuses hlogic htype
        have hchannels : scripts.disableChannelsLogic = false := hlogic
        simp only [hchannels, htype, Bool.false_eq_true, not_false_eq_true,
          true_and, decide_eq_false_iff_not, not_not] at hrefuses
        exact hrefuses)
    have hc := hsent.1
    exact ⟨hc ▸ hnames, hallowed, hc ▸ hsent⟩
  · rw [hasAccessToCreate, exec_bind_error hexec]
    exact .of_same rfl rfl

/-- A deletion gives no ids away. -/
theorem nextMessageId_delete (settings : ChatConfig) (session : ApiSession)
    (cid : TextId) (ids : List IdParam) (isDeleteAll : Bool)
    (chat : ChatStore) :
    ((MessageOperations.delete settings session.toConversationSession cid ids
      isDeleteAll).exec chat).2.nextMessageId = chat.nextMessageId := by
  have hdelete : (MessageOperations.delete settings
      session.toConversationSession cid ids isDeleteAll).Guarantees
        (fun before after => after.nextMessageId = before.nextMessageId) := by
    refine guarantees_bind ((leavesAll_hasAccess _ _ _ cid).mono
      (fun _ _ hleaves => hleaves.nextMessageId)) (fun access => ?_)
    refine guarantees_bind (guarantees_command (fun _ => rfl))
      (fun messages => ?_)
    refine guarantees_bind ?_ (fun _ => guarantees_bind
      (guarantees_command (fun chat => ?_)) (fun _ => ?_))
    · rw [validateMessagesForDelete]
      split
      · exact guarantees_throw _
      · exact guarantees_pure _
    · dsimp only
      split
      · rfl
      · split <;> rfl
    · split
      · exact guarantees_command (fun _ => rfl)
      · exact guarantees_pure _
  refine Fallible.Guarantees.exec (G := fun before after =>
    after.nextMessageId = before.nextMessageId) (fun _ => rfl) ?_ hdelete chat
  intro first second third hfirst hsecond
  exact hsecond.trans hfirst

theorem changes_messageDelete (cid : TextId) (ids : List IdParam)
    (isDeleteAll : Bool) :
    (requested scripts displayName session
        (.chat (.messageDelete cid ids isDeleteAll))).Changes config chat
      ((MessageOperations.delete { scripts with conversations := config }
        session.toConversationSession cid ids isDeleteAll).exec chat).2 := by
  rcases exec_delete_cases { scripts with conversations := config }
    session.toConversationSession cid ids isDeleteAll chat with
    ⟨error, hexec⟩ | ⟨access, deliveries, after, haccess, hdeletable, hexec,
      hmessages, -⟩
  · rw [hexec]
    exact .of_same rfl rfl
  · have hnext := nextMessageId_delete { scripts with conversations := config }
      session cid ids isDeleteAll chat
    rw [hexec] at hnext ⊢
    obtain ⟨hnames, -, hparticipant⟩ :=
      isParticipant_of_hasAccess session haccess
    cases isDeleteAll with
    | true =>
        refine .of_filter hmessages hnext (fun old hold hgone => ?_)
        have hrequested : Requested ids old := by simpa using hgone
        have hdeleted := hdeletable old hold hrequested
        refine ⟨hdeleted.cid ▸ hnames, hrequested,
          hdeleted.cid ▸ hparticipant, ?_⟩
        refine (hdeleted.sender rfl).imp_right (fun hmoderates => ?_)
        rw [hdeleted.cid]
        exact isModerator_of_hasAccess haccess hmoderates.1 hmoderates.2
    | false =>
        refine .of_map hmessages hnext (fun old hold => ?_)
        by_cases hrequested : Requested ids old
        · have hc := (hdeletable old hold hrequested).cid
          obtain ⟨deletedFor, hhide, hmem⟩ := hide_eq session.userId old
          rw [if_pos hrequested, hhide]
          refine ⟨rfl, rfl, Or.inl rfl,
            fun userId huser => (hmem userId).2 (Or.inl huser), ?_⟩
          intro userId huser
          exact ((hmem userId).1 huser).imp_right (fun hcaller =>
            ⟨hc ▸ hnames, hrequested, hc ▸ hparticipant, hcaller⟩)
        · rw [if_neg hrequested]
          exact .refl _ old

/-- The messages that no device needs any more are gone after a list. -/
theorem exec_encryptedList_messages (settings : ChatConfig)
    (session : ApiSession) (conversation : ConversationModel)
    (filter : ListFilter) (limit : Nat) (chat : ChatStore) :
    let after := ((encryptedList settings session.toConversationSession
      conversation filter limit).exec chat).2
    after.nextMessageId = chat.nextMessageId ∧
      (after.messages = chat.messages ∨
        ∃ mids, settings.encryptedMids session.userId conversation.id =
            .ok mids ∧
          after.messages = chat.messages.filter (fun message =>
            message.id ∉ mids.2)) := by
  rw [encryptedList]
  cases hmids : settings.encryptedMids session.userId conversation.id with
  | error error => exact ⟨rfl, Or.inl rfl⟩
  | ok mids =>
      have hexec : ((ofExcept (.ok mids) >>= fun mids =>
          (do
            let messages ← MessageOperations.query (fun chat =>
              .ok ((chat.messages.filter (fun message =>
                message.id ∈ mids.1 ∧ filter.inPeriod message)).reverse.take
                  limit))
            let shown ← MessageOperations.query (fun chat =>
              .ok (assignMessageVirtualFields session.toConversationSession
                messages chat))
            write (fun chat => if mids.2 = [] then chat
              else chat.deleteMessages (fun message =>
                message.id ∈ mids.2))
            pure shown : ChatProgram _)).exec chat).2 =
          if mids.2 = [] then chat
          else chat.deleteMessages (fun message => message.id ∈ mids.2) := rfl
      rw [hexec]
      split
      · exact ⟨rfl, Or.inl rfl⟩
      · refine ⟨rfl, Or.inr ⟨mids, rfl, ?_⟩⟩
        exact List.filter_congr (fun message _ => by simp)

/-- A list reads, and of an encrypted conversation it removes messages. -/
theorem changes_messageList (cid : TextId) (filter : ListFilter)
    (limit : Option Nat) :
    (requested scripts displayName session
        (.chat (.messageList cid filter limit))).Changes config chat
      ((MessageOperations.list { scripts with conversations := config }
        session.toConversationSession cid filter limit).exec chat).2 := by
  rw [MessageOperations.list, MessageOperations.query, exec_command_bind]
  dsimp only
  rcases exec_hasAccess_cases { scripts with conversations := config }
    session.toConversationSession (fun _ => false) cid chat with
    ⟨access, haccess, hexec⟩ | ⟨-, status, -, hexec⟩
  · rw [hasAccessToList, exec_bind_ok hexec]
    obtain ⟨hnames, hget, hparticipant⟩ :=
      isParticipant_of_hasAccess session haccess
    cases chat.conversations.findUserById session.userId with
    | none => exact .of_same rfl rfl
    | some user =>
        have huser : (requireUser (some user)).exec chat = (.ok user, chat) :=
          rfl
        rw [exec_bind_ok huser]
        split
        · next hencrypted =>
            rcases exec_encryptedList_messages
              { scripts with conversations := config } session
              access.conversation filter (normalizeLimitParam
                { scripts with conversations := config } limit) chat with
              ⟨hnext, hsame | ⟨mids, hmids, hmessages⟩⟩
            · exact .of_same hsame hnext
            · refine .of_filter hmessages hnext (fun old hold hgone => ?_)
              exact ⟨access.conversation.id, access.conversation.params,
                mids, hnames, hget, hencrypted, hparticipant, hmids,
                by simpa using hgone⟩
        · exact .of_leaves (LeavesAll.exec (guarantees_bind
            (leavesAll_query _) (fun _ => leavesAll_query _)) chat)
  · rw [hasAccessToList, exec_bind_error hexec]
    exact .of_same rfl rfl

theorem eq_of_id_eq {first second : ChatMessage}
    (hfirst : first ∈ chat.messages) (hsecond : second ∈ chat.messages)
    (hid : first.id = second.id) : first = second :=
  List.inj_on_of_nodup_map (f := fun message : ChatMessage => message.id)
    (by
      rw [List.Nodup, List.pairwise_map]
      exact chat.messages_sorted.imp (fun hlt => Nat.ne_of_lt hlt))
    hfirst hsecond hid

theorem mem_of_findMessage {server : MongoServer}
    {pick : Documents.Choice ChatMessage} {id : IdParam}
    {message : ChatMessage}
    (hfound : chat.findMessage server pick id = .ok (some message)) :
    message ∈ chat.messages := by
  rw [ChatStore.findMessage] at hfound
  split at hfound
  · cases hfound
  · split at hfound
    · cases hfound
    · exact (List.mem_filter.1 (pick.mem _ _ (Except.ok.inj hfound))).1

/-- An edit writes the body of the message that the id finds, which is one of
the caller. -/
theorem changes_messageEdit (id : IdParam) (newBody : String) :
    (requested scripts displayName session
        (.message (.edit id newBody))).Changes config chat
      ((MessageOperations.edit { scripts with conversations := config }
        session.toConversationSession id newBody).exec chat).2 := by
  rcases @MessageRequest.exec_hasAccessToEdit { scripts with conversations := config }
    session.toConversationSession chat id with
    ⟨found, hfound, hsender, haccess⟩ | ⟨-, error, herror⟩
  · rw [MessageOperations.edit, exec_bind_ok haccess, exec_command_bind]
    have hupdate : chat.updateBody config.server scripts.pickMessage id
        newBody = (.ok (), chat.updateMessages (fun message =>
          if message.id = found.id then { message with body := some newBody }
          else message) (fun message => by split <;> rfl)) := by
      rw [ChatStore.updateBody, hfound]
    rw [hupdate]
    dsimp only
    rw [exec_bind_snd_of_readOnly (fun _ => fun _ => rfl),
      MessageRequest.readOnly_conversationOf]
    refine .of_map rfl rfl (fun old hold => ?_)
    split
    · next hid =>
        obtain rfl := eq_of_id_eq hold (mem_of_findMessage hfound) hid
        exact ⟨rfl, rfl, Or.inr ⟨newBody, ⟨hfound, hsender, rfl⟩, rfl⟩,
          List.Subset.refl _, fun _ => Or.inl⟩
    · exact .refl _ old
  · rw [MessageOperations.edit, exec_bind_error herror]
    exact .of_same rfl rfl

end Messages

/-! ### Runs -/

theorem changes_conversation (scripts : ChatConfig)
    (displayName : User → String) (session : ApiSession)
    (request : ConversationRequest) :
    (requested scripts displayName session
        (.conversation request)).Changes config chat
      ((request.performWithEvents { scripts with conversations := config }
        displayName session).exec chat).2 := by
  rw [ConversationRequest.performWithEvents.eq_def]
  split
  · next haccepted =>
      cases request with
      | create params =>
          dsimp only
          rw [exec_bind_pure_snd _ (fun _ => ())]
          exact .of_adds (W := fun _ => False)
            ((ConversationResults.addsOnly_create params).exec chat)
            (fun _ => False.elim)
      | update params =>
          dsimp only
          rw [exec_bind_pure_snd _ (fun _ => ())]
          rw [ConversationRequest.isAccepted, UpdateParams.isAccepted,
            decide_eq_true_eq] at haccepted
          exact changes_update haccepted.1
      | delete id =>
          dsimp only
          rw [exec_bind_pure_snd _ (fun _ => ())]
          exact changes_delete haccepted
      | subscribe cid => exact .of_same rfl rfl
      | unsubscribe cid => exact .of_same rfl rfl
  · exact .of_same rfl rfl

theorem changes_chat (scripts : ChatConfig) (displayName : User → String)
    (session : ApiSession) (request : ChatRequest) :
    (requested scripts displayName session (.chat request)).Changes config
      chat ((request.perform { scripts with conversations := config }
        session.toConversationSession).exec chat).2 := by
  cases request with
  | message params =>
      rw [ChatRequest.perform, exec_bind_pure_snd _ (fun _ => ())]
      exact changes_message params
  | messageList cid filter limit =>
      rw [ChatRequest.perform, exec_bind_pure_snd _ (fun _ => ())]
      exact changes_messageList cid filter limit
  | messageDelete cid ids isDeleteAll =>
      rw [ChatRequest.perform, exec_bind_pure_snd _ (fun _ => ())]
      exact changes_messageDelete cid ids isDeleteAll
  | messageRead cid ids =>
      rw [ChatRequest.perform, exec_bind_pure_snd _ (fun _ => ())]
      exact .of_leaves ((leavesAll_read cid ids).exec chat)
  | messageSummary cid filter =>
      rw [ChatRequest.perform, exec_bind_pure_snd _ (fun _ => ())]
      exact .of_leaves ((leavesAll_summary cid filter).exec chat)
  | systemMessage cid =>
      rw [ChatRequest.perform, exec_bind_pure_snd _ (fun _ => ())]
      exact .of_leaves (LeavesAll.exec (guarantees_bind
        (leavesAll_hasAccess _ _ _ cid)
        (fun _ => leavesAll_query _)) chat)
  | typing cid =>
      rw [ChatRequest.perform, exec_bind_pure_snd _ (fun _ => ())]
      exact .of_leaves ((leavesAll_typing cid).exec chat)
  | decryptionFailed cid mids =>
      rw [ChatRequest.perform]
      split
      · exact .of_same rfl rfl
      · rw [exec_bind_pure_snd _ (fun _ => ())]
        exact .of_leaves ((leavesAll_decryptionFailed cid mids).exec chat)

/-- The operations that neither add nor change messages, and the others. -/
theorem changes_perform (scripts : ChatConfig) (displayName : User → String)
    (session : ApiSession) (request : ServerRequest) :
    (requested scripts displayName session request).Changes config chat
      (chat.step config (requested scripts displayName session request)) := by
  cases request with
  | conversation request =>
      exact changes_conversation scripts displayName session request
  | chat request => exact changes_chat scripts displayName session request
  | message request =>
      rw [ChatStore.step, ServerRequest.perform]
      cases request with
      | edit id newBody =>
          rw [MessageRequest.perform, exec_bind_pure_snd _ (fun _ => ())]
          exact changes_messageEdit id newBody
      | reactionsUpdate id add remove =>
          exact .of_leaves ((MessageRequest.leavesAll_perform rfl).exec chat)
      | reactionsList id =>
          exact .of_leaves ((MessageRequest.leavesAll_perform rfl).exec chat)

/-- What every event does to the messages. -/
theorem changes_step (config : ConversationConfig) (chat : ChatStore)
    (event : ServerEvent) :
    event.Changes config chat (chat.step config event) := by
  cases event with
  | userCreated organizationId => exact .of_same rfl rfl
  | userDeleted id => exact .of_same rfl rfl
  | blockUser session ids => exact .of_same rfl rfl
  | unblockUser session ids => exact .of_same rfl rfl
  | blockListEnable session isEnabled => exact .of_same rfl rfl
  | requested scripts displayName session request =>
      exact changes_perform scripts displayName session request

/-- The versions of a message over a run. -/
abbrev Versions (config : ConversationConfig) :
    ChatStore → List ServerEvent → ChatMessage → ChatMessage → Prop :=
  Line (ChatStore.step config)
    (fun chat event => event.Follows config chat)

theorem nextMessageId_le_foldl (config : ConversationConfig)
    (chat : ChatStore) (events : List ServerEvent) :
    chat.nextMessageId ≤
      (events.foldl (ChatStore.step config) chat).nextMessageId := by
  induction events generalizing chat with
  | nil => exact Nat.le_refl _
  | cons event events ih =>
      exact Nat.le_trans (changes_step config chat event).next
        (ih (chat.step config event))

theorem run_append (config : ConversationConfig)
    (earlier later : List ServerEvent) :
    ChatStore.run config (earlier ++ later) =
      later.foldl (ChatStore.step config) (ChatStore.run config earlier) :=
  List.foldl_append

end ServerEvent

namespace ChatStore

open ServerEvent

variable {config : ConversationConfig}

/-- Two users, whose private conversation gets a message. -/
def helloSent : List ServerEvent :=
  [.userCreated 9, .userCreated 9,
    .requested .plain (fun _ => "user") ⟨⟨0, 9⟩, true⟩
      (.conversation (.create ⟨.u, none, none, none, some (.hex 1 true),
        some [.hex 1 true], none⟩)),
    .requested .plain (fun _ => "user") ⟨⟨0, 9⟩, true⟩
      (.chat (.message ⟨.hex 3 true, some "hello", none, []⟩))]

/-- A user deletes the message, for everyone or not. -/
def helloDeleted (userId : ObjectId) (isDeleteAll : Bool) : ServerEvent :=
  .requested .plain (fun _ => "user") ⟨⟨userId, 9⟩, true⟩
    (.chat (.messageDelete (.hex 3 true) [.hex 0 true] isDeleteAll))

theorem hello_mem : (⟨⟨0, 3, 0⟩, 9, some "hello", []⟩ : ChatMessage) ∈
    (run ChatConfig.plain.conversations helloSent).messages := by
  decide +kernel

/-- A message that was stored and is gone later was removed by an event that
may remove it: a request of its author, of the owner or an admin, or a list of
an encrypted conversation. -/
theorem run_removed (config : ConversationConfig)
    (earlier later : List ServerEvent) {message : ChatMessage}
    (hmessage : message ∈ (run config earlier).messages)
    (hgone : ∀ other ∈ (run config (earlier ++ later)).messages,
      other.id ≠ message.id) :
    ∃ between event after version, later = between ++ event :: after ∧
      event.Removes (run config (earlier ++ between)) version ∧
      version.toMessage = message.toMessage := by
  rw [run_append] at hgone
  rcases exists_target ChatStore.messages
    (R := fun chat event => event.Removes chat)
    (F := fun chat event => event.Follows config chat)
    (I := fun _ => True) (P := fun _ => True) (fun _ _ _ _ => trivial)
    (fun chat event old _ _ => (changes_step config chat event).target old)
    (run config earlier) later trivial (fun _ _ => trivial) hmessage with ⟨last, hlast, hversions⟩ |
      ⟨between, event, after, version, rfl, hversions, hremoves⟩
  · have hsame := hversions.same (fun _ _ _ _ hfollows => hfollows.message)
    exact absurd (congrArg Message.id hsame) (hgone last hlast)
  · refine ⟨between, event, after, version, rfl, ?_,
      hversions.same (fun _ _ _ _ hfollows => hfollows.message)⟩
    rw [run_append]
    exact hremoves

theorem run_removed_hello :
    ∃ between event after version,
      [helloDeleted 0 true] = between ++ event :: after ∧
      event.Removes (run ChatConfig.plain.conversations
        (helloSent ++ between)) version ∧
      version.toMessage = ⟨0, 3, 0⟩ :=
  run_removed ChatConfig.plain.conversations helloSent [helloDeleted 0 true]
    hello_mem (by decide +kernel)

/-- A message that is found again at a later moment of a run is the same one:
an id is not given to another message. -/
theorem versions_of_id_eq {earlier later : List ServerEvent}
    {message last : ChatMessage}
    (hmessage : message.id < (run config earlier).nextMessageId)
    (hlast : last ∈ (run config (earlier ++ later)).messages)
    (hid : last.id = message.id) :
    ∃ old ∈ (run config earlier).messages, old.id = message.id ∧
      Versions config (run config earlier) later old last := by
  rw [run_append] at hlast
  rcases exists_source ChatStore.messages
    (W := fun chat event item => chat.nextMessageId ≤ item.id ∧
      event.Writes config chat item)
    (F := fun chat event => event.Follows config chat)
    (I := fun _ => True) (P := fun _ => True) (fun _ _ _ _ => trivial)
    (fun chat event item _ _ => (changes_step config chat event).source item)
    (run config earlier) later trivial (fun _ _ => trivial) hlast with ⟨old, hold, hversions⟩ |
      ⟨between, event, after, item, rfl, ⟨hnew, -⟩, hversions⟩
  · have hsame := hversions.same (fun _ _ _ _ hfollows => hfollows.message)
    exact ⟨old, hold, (congrArg Message.id hsame).symm.trans hid, hversions⟩
  · have hsame := hversions.same (fun _ _ _ _ hfollows => hfollows.message)
    have hitem : item.id = message.id :=
      (congrArg Message.id hsame).symm.trans hid
    have hle := nextMessageId_le_foldl config (run config earlier) between
    have hbelow := Nat.lt_of_lt_of_le hmessage (Nat.le_trans hle hnew)
    rw [hitem] at hbelow
    exact absurd hbelow (Nat.lt_irrefl _)

/-- A message that is gone does not come back, whatever happens, and neither
does another one under its id. -/
theorem run_gone (config : ConversationConfig)
    (earlier middle later : List ServerEvent) {message : ChatMessage}
    (hmessage : message ∈ (run config earlier).messages)
    (hgone : ∀ other ∈ (run config (earlier ++ middle)).messages,
      other.id ≠ message.id) :
    ∀ other ∈ (run config (earlier ++ middle ++ later)).messages,
      other.id ≠ message.id := by
  intro other hother hid
  have hbelow := (run config earlier).messages_below message hmessage
  have hle := nextMessageId_le_foldl config (run config earlier) middle
  rw [← run_append] at hle
  obtain ⟨old, hold, hsame, -⟩ := versions_of_id_eq
    (Nat.lt_of_lt_of_le hbelow hle) hother hid
  exact hgone old hold hsame

theorem run_gone_hello :
    (run ChatConfig.plain.conversations
      (helloSent ++ [helloDeleted 0 true] ++ helloSent)).messages.filter
        (fun message => message.id = 0) = [] := by
  have hall := run_gone ChatConfig.plain.conversations helloSent
    [helloDeleted 0 true] helloSent hello_mem (by decide +kernel)
  refine List.filter_eq_nil_iff.2 (fun message hmessage hid => ?_)
  exact hall message hmessage (of_decide_eq_true hid)

/-- A message that is hidden from a user stays hidden, and one that the user
saw is hidden later only by a request of that user. -/
theorem run_visibility (config : ConversationConfig)
    (earlier later : List ServerEvent) {message last : ChatMessage}
    (hmessage : message ∈ (run config earlier).messages)
    (hlast : last ∈ (run config (earlier ++ later)).messages)
    (hid : last.id = message.id) (userId : ObjectId) :
    (message.isVisibleTo userId = false →
      last.isVisibleTo userId = false) ∧
    (message.isVisibleTo userId = true → last.isVisibleTo userId = false →
      ∃ between hide after version, later = between ++ hide :: after ∧
        hide.Hides (run config (earlier ++ between)) version (.id userId) ∧
        version.toMessage = message.toMessage) := by
  obtain ⟨old, hold, hsame, hversions⟩ := versions_of_id_eq
    ((run config earlier).messages_below message hmessage) hlast hid
  obtain rfl := eq_of_id_eq hold hmessage hsame
  simp only [ChatMessage.isVisibleTo, decide_eq_true_eq,
    decide_eq_false_iff_not, not_not]
  refine ⟨fun hhidden => ?_, fun hvisible hhidden => ?_⟩
  · exact hversions.kept (P := fun version =>
      StoredId.id userId ∈ version.deletedFor)
      (fun _ _ _ _ hfollows hin => hfollows.kept hin) hhidden
  · rcases hversions.cause
      (P := fun version => StoredId.id userId ∈ version.deletedFor)
      (C := fun chat event version => event.Hides chat version (.id userId))
      (fun _ _ _ _ hfollows hin => hfollows.hidden _ hin) hhidden with
      hbefore | ⟨between, hide, after, version, rfl, hline, hhides⟩
    · exact absurd hbefore hvisible
    · refine ⟨between, hide, after, version, rfl, ?_,
        hline.same (fun _ _ _ _ hfollows => hfollows.message)⟩
      rw [run_append]
      exact hhides

theorem run_visibility_hello :
    ∃ between hide after version,
      [helloDeleted 1 false] = between ++ hide :: after ∧
      hide.Hides (run ChatConfig.plain.conversations (helloSent ++ between))
        version (.id 1) ∧
      version.toMessage = ⟨0, 3, 0⟩ := by
  have hlast : (⟨⟨0, 3, 0⟩, 9, some "hello", [.id 1]⟩ : ChatMessage) ∈
      (run ChatConfig.plain.conversations
        (helloSent ++ [helloDeleted 1 false])).messages := by
    decide +kernel
  exact (run_visibility ChatConfig.plain.conversations helloSent
    [helloDeleted 1 false] hello_mem hlast rfl 1).2 rfl (by decide +kernel)

end ChatStore

end SamaServer
