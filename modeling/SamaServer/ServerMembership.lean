/-
The conversations of a server with messages and events.  Requests on
conversations do what they do on the conversations alone, and a message only
brings back the members of a private conversation, so the participants of
groups and channels are as they are on a server without messages.
-/
import SamaServer.MessageEffects

namespace SamaServer

open Fallible MessageOperations ConversationStore

/-- The conversations are left alone. -/
def SameConversations (before after : ChatStore) : Prop :=
  after.conversations = before.conversations

abbrev KeepsConversations {A : Type} (program : ChatProgram A) : Prop :=
  program.Guarantees SameConversations

theorem LeavesAll.keepsConversations {A : Type} {program : ChatProgram A}
    (hprogram : LeavesAll program) : KeepsConversations program :=
  Fallible.Guarantees.mono hprogram (fun _ _ hleaves => hleaves.conversations)

theorem KeepsConversations.exec {A : Type} {program : ChatProgram A}
    (hprogram : KeepsConversations program) (chat : ChatStore) :
    (program.exec chat).2.conversations = chat.conversations := by
  refine Fallible.Guarantees.exec (G := SameConversations) (fun _ => rfl) ?_
    hprogram chat
  intro first second third hfirst hsecond
  exact Eq.trans hsecond hfirst

namespace MessageOperations

variable {config : ChatConfig} {session : ConversationSession}

theorem keepsConversations_edit (messageId : IdParam) (newBody : String) :
    KeepsConversations (edit config session messageId newBody) := by
  have haccess : KeepsConversations
      (hasAccessToEdit config session messageId) := by
    refine guarantees_bind (guarantees_bind (leavesAll_query
      _).keepsConversations (fun _ => guarantees_pure _)) (fun found => ?_)
    cases found with
    | none => exact guarantees_throw _
    | some found =>
        dsimp only
        split
        · exact guarantees_pure _
        · exact guarantees_throw _
  refine guarantees_bind haccess (fun message => ?_)
  refine guarantees_bind (guarantees_command (fun chat => ?_)) (fun _ => ?_)
  · rw [SameConversations, ChatStore.updateBody]
    split <;> rfl
  · exact guarantees_bind (leavesAll_conversationOf
      message).keepsConversations
      (fun _ => (leavesAll_query _).keepsConversations)

theorem keepsConversations_list (cid : TextId) (filter : ListFilter)
    (limit : Option Nat) :
    KeepsConversations (list config session cid filter limit) := by
  refine guarantees_bind (leavesAll_query _).keepsConversations (fun _ =>
    guarantees_bind (leavesAll_hasAccess _ _ _ _).keepsConversations
      (fun access => guarantees_bind
        (leavesAll_requireUser _).keepsConversations (fun user => ?_)))
  split
  · refine guarantees_bind (guarantees_ofExcept _) (fun mids => ?_)
    refine guarantees_bind (leavesAll_query _).keepsConversations (fun _ =>
      guarantees_bind (leavesAll_query _).keepsConversations (fun _ =>
        guarantees_bind (guarantees_command (fun chat => ?_))
          (fun _ => guarantees_pure _)))
    dsimp only
    split <;> rfl
  · exact guarantees_bind (leavesAll_query _).keepsConversations
      (fun _ => (leavesAll_query _).keepsConversations)

theorem conversations_delete (cid : TextId) (ids : List IdParam)
    (isDeleteAll : Bool) (chat : ChatStore) :
    ((delete config session cid ids isDeleteAll).exec chat).2.conversations =
      chat.conversations := by
  rcases exec_delete_cases config session cid ids isDeleteAll chat with
    ⟨error, hexec⟩ | ⟨_, _, _, -, -, hexec, -, honly⟩
  · rw [hexec]
  · rw [hexec]
    exact honly.conversations

/-! ### A new message -/

/-- The members of a private conversation may come back, and nothing else
happens to the conversations. -/
def MayRestore {A : Type} (settings : ConversationConfig)
    (conversation : ConversationModel) (program : ChatProgram A) : Prop :=
  ∀ chat, (program.exec chat).2.conversations = chat.conversations ∨
    conversation.params.type = .u ∧
      (program.exec chat).2.conversations =
        ((ConversationService.restorePrivateConversation settings
          conversation).exec chat.conversations).2

variable {settings : ConversationConfig} {conversation : ConversationModel}
  {A B : Type}

theorem MayRestore.after {program : ChatProgram A}
    {rest : A → ChatProgram B} (hprogram : KeepsConversations program)
    (hrest : ∀ result, MayRestore settings conversation (rest result)) :
    MayRestore settings conversation (program >>= rest) := by
  intro chat
  have hsame := hprogram.exec chat
  rcases hexec : program.exec chat with ⟨outcome, after⟩
  rw [hexec] at hsame
  cases outcome with
  | ok result =>
      rw [exec_bind_ok hexec, ← hsame]
      exact hrest result after
  | error error =>
      rw [exec_bind_error hexec]
      exact Or.inl hsame

theorem MayRestore.before {program : ChatProgram A}
    {rest : A → ChatProgram B}
    (hprogram : MayRestore settings conversation program)
    (hrest : ∀ result, KeepsConversations (rest result)) :
    MayRestore settings conversation (program >>= rest) := by
  intro chat
  have hfirst := hprogram chat
  rcases hexec : program.exec chat with ⟨outcome, after⟩
  rw [hexec] at hfirst
  cases outcome with
  | ok result =>
      rw [exec_bind_ok hexec, (hrest result).exec]
      exact hfirst
  | error error =>
      rw [exec_bind_error hexec]
      exact hfirst

theorem mayRestore_restoreMembers :
    MayRestore config.conversations conversation
      (restoreMembers config conversation) := by
  rw [restoreMembers]
  split
  · next htype =>
      refine MayRestore.before (fun chat => Or.inr ⟨htype, rfl⟩)
        (fun missed => ?_)
      split
      · exact guarantees_pure _
      · exact guarantees_pure _
  · exact fun chat => Or.inl rfl

theorem keepsConversations_createMessage (user : User) (body : Option String)
    (deletedFor : List IdParam) :
    KeepsConversations (createMessage conversation user body deletedFor) :=
  guarantees_bind (leavesAll_query _).keepsConversations (fun _ =>
    guarantees_bind (guarantees_command (fun _ => rfl))
      (fun _ => (leavesAll_query _).keepsConversations))

theorem mayRestore_create {params : MessageParams}
    {currentUser : Option User} :
    MayRestore config.conversations conversation (do
      checkBlocked session conversation
      validateRepliedMessageId session conversation.id params.repliedMessageId
      let user ← requireUser currentUser
      let response ← executeConversationHandler config conversation params
      let created ← createMessage conversation user
        (response.newBody.getD params.body) params.deletedFor
      let restored ← restoreMembers config conversation
      let answered ← createBotMessage conversation response.botMessage
        params.deletedFor
      pure (restored ++ created ++ answered) : ChatProgram _) := by
  refine MayRestore.after (leavesAll_checkBlocked _).keepsConversations
    (fun _ => ?_)
  refine MayRestore.after
    (leavesAll_validateRepliedMessageId _ _).keepsConversations (fun _ => ?_)
  refine MayRestore.after (leavesAll_requireUser _).keepsConversations
    (fun user => ?_)
  refine MayRestore.after ?_ (fun response => ?_)
  · rw [executeConversationHandler]
    split
    · exact guarantees_throw _
    · exact guarantees_pure _
  refine MayRestore.after (keepsConversations_createMessage _ _ _)
    (fun _ => MayRestore.before mayRestore_restoreMembers (fun _ => ?_))
  refine guarantees_bind ?_ (fun _ => guarantees_pure _)
  rw [createBotMessage.eq_def]
  split
  · exact guarantees_pure _
  · exact keepsConversations_createMessage _ _ _

end MessageOperations

/-! ### What happens to the conversations -/

/-- What happens to the conversations of a server: the events of a server
without messages, and messages that bring back the members of a private
conversation. -/
inductive ConversationChange
  | event (event : ConversationEvent)
  | restored (conversation : ConversationModel)

namespace ConversationStore

def change (config : ConversationConfig) (s : ConversationStore) :
    ConversationChange → ConversationStore
  | .event event => s.step config event
  | .restored conversation =>
      ((ConversationService.restorePrivateConversation config
        conversation).exec s).2

/-- Only a stored private conversation has its members brought back. -/
def Allows (s : ConversationStore) : ConversationChange → Prop
  | .event _ => True
  | .restored conversation => conversation.params.type = .u ∧
      s.conversations.get? conversation.id = some conversation.params

/-- Each change is one that the earlier ones allow. -/
def AllowsAll (config : ConversationConfig) :
    ConversationStore → List ConversationChange → Prop
  | _, [] => True
  | s, change :: changes =>
      s.Allows change ∧ AllowsAll config (s.change config change) changes

theorem allowsAll_append {config : ConversationConfig}
    {first second : List ConversationChange} {s : ConversationStore}
    (hfirst : AllowsAll config s first)
    (hsecond : AllowsAll config (first.foldl (change config) s) second) :
    AllowsAll config s (first ++ second) := by
  induction first generalizing s with
  | nil => exact hsecond
  | cons change changes ih => exact ⟨hfirst.1, ih hfirst.2 hsecond⟩

theorem populated_restored (config : ConversationConfig)
    {conversation : ConversationModel} {limit : Nat}
    {s : ConversationStore} (hpopulated : Populated limit s)
    (hallows : s.Allows (.restored conversation)) :
    Populated limit (s.change config (.restored conversation)) := by
  obtain ⟨added, hextends⟩ := extends_addParticipants_private config
    conversation hallows.1 (conversation.params.ownerId.param ::
      (conversation.params.opponentId.map StoredId.param).toList) false s
  rw [change, ConversationService.restorePrivateConversation,
    exec_bind_pure_snd _ Prod.fst]
  exact hpopulated.of_extends_private hallows.2 hallows.1 hextends

end ConversationStore

open ConversationStore (AllowsAll change)

def ConversationChange.event? : ConversationChange → Option ConversationEvent
  | event e => some e
  | restored _ => none

def ServerEvent.conversationEvent? : ServerEvent → Option ConversationEvent
  | userCreated organizationId => some (.userCreated organizationId)
  | userDeleted id => some (.userDeleted id)
  | requested _ _ session (.conversation request) =>
      some (.requested session.toConversationSession request)
  | _ => none

namespace ServerRequest

variable {config : ChatConfig} {session : ApiSession}

/-- A new message leaves the conversations alone, or brings back the members
of a stored private conversation. -/
theorem conversations_create (config : ChatConfig)
    (session : ConversationSession) (params : MessageParams)
    (chat : ChatStore) :
    ((create config session params).exec chat).2.conversations =
        chat.conversations ∨
      ∃ conversation, chat.conversations.Allows (.restored conversation) ∧
        ((create config session params).exec chat).2.conversations =
          chat.conversations.change config.conversations
            (.restored conversation) := by
  rw [create, MessageOperations.query, exec_command_bind]
  dsimp only
  rcases exec_hasAccess_cases config session _ params.cid chat with
    ⟨access, haccess, hexec⟩ | ⟨-, status, -, hexec⟩
  · rw [hasAccessToCreate, exec_bind_ok hexec]
    obtain ⟨c, isLowerCase, stored, -, hget, -, rfl, -⟩ := haccess
    rcases mayRestore_create chat with hsame | ⟨htype, hrestored⟩
    · exact Or.inl hsame
    · exact Or.inr ⟨_, ⟨htype, hget⟩, hrestored⟩
  · rw [hasAccessToCreate, exec_bind_error hexec]
    exact Or.inl rfl

/-- No other request on messages touches the conversations. -/
theorem conversations_chat (config : ChatConfig) (session : ApiSession)
    (request : ChatRequest) (chat : ChatStore) :
    ((request.perform config session.toConversationSession).exec
        chat).2.conversations = chat.conversations ∨
      ∃ conversation, chat.conversations.Allows (.restored conversation) ∧
        ((request.perform config session.toConversationSession).exec
          chat).2.conversations =
          chat.conversations.change config.conversations
            (.restored conversation) := by
  have hkeeps : ∀ {A : Type} {program : ChatProgram A},
      KeepsConversations program →
      ((program >>= fun _ => (pure () : ChatProgram Unit)).exec
        chat).2.conversations = chat.conversations := by
    intro A program hprogram
    rw [exec_bind_pure_snd _ (fun _ => ()), hprogram.exec]
  cases request with
  | message params =>
      rw [ChatRequest.perform, exec_bind_pure_snd _ (fun _ => ())]
      exact conversations_create config _ params chat
  | messageList cid filter limit =>
      exact Or.inl (hkeeps (keepsConversations_list cid filter limit))
  | messageRead cid ids =>
      exact Or.inl (hkeeps (leavesAll_read cid ids).keepsConversations)
  | messageDelete cid ids isDeleteAll =>
      rw [ChatRequest.perform, exec_bind_pure_snd _ (fun _ => ()),
        conversations_delete]
      exact Or.inl rfl
  | messageSummary cid filter =>
      exact Or.inl (hkeeps (leavesAll_summary cid filter).keepsConversations)
  | systemMessage cid =>
      exact Or.inl (hkeeps (LeavesAll.keepsConversations (guarantees_bind
        (leavesAll_hasAccess _ _ _ cid) (fun _ => leavesAll_query _))))
  | typing cid =>
      exact Or.inl (hkeeps (leavesAll_typing cid).keepsConversations)
  | decryptionFailed cid mids =>
      rw [ChatRequest.perform]
      split
      · exact Or.inl rfl
      · exact Or.inl
          (hkeeps (leavesAll_decryptionFailed cid mids).keepsConversations)

theorem keepsConversations_message (request : MessageRequest) :
    KeepsConversations (request.perform config
      session.toConversationSession) := by
  cases request with
  | edit id newBody =>
      exact guarantees_bind (keepsConversations_edit id newBody)
        (fun _ => guarantees_pure _)
  | reactionsUpdate id add remove =>
      exact (MessageRequest.leavesAll_perform rfl).keepsConversations
  | reactionsList id =>
      exact (MessageRequest.leavesAll_perform rfl).keepsConversations

end ServerRequest

namespace ChatStore

/-- The changes that one event of the server makes to the conversations. -/
theorem conversations_step (config : ConversationConfig) (chat : ChatStore)
    (event : ServerEvent) :
    ∃ changes : List ConversationChange,
      changes.filterMap ConversationChange.event? =
        event.conversationEvent?.toList ∧
      AllowsAll config chat.conversations changes ∧
      (chat.step config event).conversations =
        changes.foldl (change config) chat.conversations := by
  have hnone : ∀ {after : ConversationStore}, after = chat.conversations →
      ∃ changes : List ConversationChange,
        changes.filterMap ConversationChange.event? = [] ∧
        AllowsAll config chat.conversations changes ∧
        after = changes.foldl (change config) chat.conversations :=
    fun hsame => ⟨[], rfl, trivial, hsame⟩
  have hone : ∀ (event : ConversationEvent) {after : ConversationStore},
      after = chat.conversations.step config event →
      ∃ changes : List ConversationChange,
        changes.filterMap ConversationChange.event? = [event] ∧
        AllowsAll config chat.conversations changes ∧
        after = changes.foldl (change config) chat.conversations :=
    fun event _ hstep => ⟨[.event event], rfl, ⟨trivial, trivial⟩, hstep⟩
  cases event with
  | userCreated organizationId => exact hone (.userCreated organizationId) rfl
  | userDeleted id => exact hone (.userDeleted id) rfl
  | blockUser session ids => exact hnone rfl
  | unblockUser session ids => exact hnone rfl
  | blockListEnable session isEnabled => exact hnone rfl
  | requested scripts displayName session request =>
      cases request with
      | conversation request =>
          exact hone (.requested session.toConversationSession request)
            ((request.refines_performWithEvents
              { scripts with conversations := config } displayName
              session).view_exec chat)
      | message request =>
          exact hnone
            ((ServerRequest.keepsConversations_message request).exec chat)
      | chat request =>
          rcases ServerRequest.conversations_chat
            { scripts with conversations := config } session request chat with
            hsame | ⟨conversation, hallows, hrestored⟩
          · exact hnone hsame
          · exact ⟨[.restored conversation], rfl, ⟨hallows, trivial⟩,
              hrestored⟩

/-- The conversations of a server with messages and events are those of a
server without them, but for private conversations whose members a message
brought back. -/
theorem run_conversations (config : ConversationConfig)
    (events : List ServerEvent) :
    ∃ changes : List ConversationChange,
      changes.filterMap ConversationChange.event? =
        events.filterMap ServerEvent.conversationEvent? ∧
      AllowsAll config .empty changes ∧
      (run config events).conversations =
        changes.foldl (change config) .empty := by
  suffices hall : ∀ chat : ChatStore, ∃ changes : List ConversationChange,
      changes.filterMap ConversationChange.event? =
        events.filterMap ServerEvent.conversationEvent? ∧
      AllowsAll config chat.conversations changes ∧
      (events.foldl (step config) chat).conversations =
        changes.foldl (change config) chat.conversations from hall empty
  induction events with
  | nil => exact fun chat => ⟨[], rfl, trivial, rfl⟩
  | cons event events ih =>
      intro chat
      obtain ⟨first, hevent, hfirst, hstep⟩ :=
        chat.conversations_step config event
      obtain ⟨others, hevents, hothers, hrun⟩ := ih (chat.step config event)
      rw [hstep] at hothers hrun
      refine ⟨first ++ others, ?_, allowsAll_append hfirst hothers, ?_⟩
      · rw [List.filterMap_append, hevent, hevents]
        cases hkind : event.conversationEvent? with
        | none => rw [List.filterMap_cons_none hkind]; rfl
        | some e => rw [List.filterMap_cons_some hkind]; rfl
      · rw [List.foldl_append, List.foldl_cons, hrun]

/-- Whether the event is not a request on a conversation that fails. -/
def isComplete (config : ConversationConfig) (chat : ChatStore) :
    ServerEvent → Bool
  | .requested scripts displayName session (.conversation request) =>
      ((request.performWithEvents { scripts with conversations := config }
        displayName session).exec chat).1.isOk
  | _ => true

/-- Whether no request on a conversation fails, each in the state that the
earlier events leave. -/
def allComplete (config : ConversationConfig) :
    ChatStore → List ServerEvent → Bool
  | _, [] => true
  | chat, event :: events =>
      chat.isComplete config event &&
        allComplete config (chat.step config event) events

theorem populated_step {config : ConversationConfig} {chat : ChatStore}
    (hpopulated : Populated config.maxParticipants chat.conversations)
    {event : ServerEvent} (hcomplete : chat.isComplete config event = true) :
    Populated config.maxParticipants
      (chat.step config event).conversations := by
  cases event with
  | userCreated organizationId =>
      exact hpopulated.congr rfl (Nat.le_succ _) (fun _ => rfl)
  | userDeleted id =>
      exact hpopulated.congr rfl (Nat.le_refl _) (fun _ => rfl)
  | blockUser session ids => exact hpopulated
  | unblockUser session ids => exact hpopulated
  | blockListEnable session isEnabled => exact hpopulated
  | requested scripts displayName session request =>
      cases request with
      | conversation request =>
          have hrefines := request.refines_performWithEvents
            { scripts with conversations := config } displayName session
          have hsucceeds : chat.conversations.succeeds config
              (.requested session.toConversationSession request) = true :=
            (hrefines.isOk_exec chat).symm.trans hcomplete
          have hsame := hrefines.view_exec chat
          rw [step, ServerRequest.perform, hsame]
          exact step_populated hpopulated hsucceeds
      | chat request =>
          rw [step, ServerRequest.perform]
          rcases ServerRequest.conversations_chat
            { scripts with conversations := config } session request chat with
            hsame | ⟨conversation, hallows, hrestored⟩
          · rw [hsame]
            exact hpopulated
          · rw [hrestored]
            exact populated_restored config hpopulated hallows
      | message request =>
          rw [step, ServerRequest.perform,
            (ServerRequest.keepsConversations_message request).exec]
          exact hpopulated

theorem populated_foldl {config : ConversationConfig}
    (events : List ServerEvent) (chat : ChatStore)
    (hpopulated : Populated config.maxParticipants chat.conversations)
    (hcomplete : allComplete config chat events = true) :
    Populated config.maxParticipants
      (events.foldl (step config) chat).conversations := by
  induction events generalizing chat with
  | nil => exact hpopulated
  | cons event events ih =>
      rw [allComplete, Bool.and_eq_true] at hcomplete
      exact ih (chat.step config event)
        (populated_step hpopulated hcomplete.1) hcomplete.2

/-- Whatever messages are sent in between and whatever events are written:
after a run in which the requests on conversations succeed, every group and
every channel has one row for each participant, at least one and at most as
many as the limit, an owner among them, and a channel counts its rows. -/
theorem run_participants (config : ConversationConfig)
    (events : List ServerEvent)
    (hcomplete : allComplete config empty events = true) (id : ObjectId)
    (conversation : Conversation)
    (hget : (run config events).conversations.conversations.get? id =
      some conversation) (htype : conversation.type ≠ .u) :
    let s := (run config events).conversations
    (s.userIdsOf id).Nodup ∧ 1 ≤ (s.rowsOf id).length ∧
      (s.rowsOf id).length ≤ config.maxParticipants ∧
      conversation.ownerId ∈ s.userIdsOf id ∧
      (conversation.type = .c → conversation.subscribersCount =
        .int (s.rowsOf id).length) := by
  have hhealthy := (populated_foldl events empty populated_empty
    hcomplete).healthy id conversation hget htype
  have hlength : ((run config events).conversations.userIdsOf id).length =
      ((run config events).conversations.rowsOf id).length := by
    rw [ConversationStore.userIdsOf, List.length_map]
  dsimp only
  rw [← hlength]
  exact ⟨hhealthy.nodup, List.length_pos_of_mem hhealthy.owner,
    hhealthy.limit, hhealthy.owner, hhealthy.count⟩

/-- A channel that a third user joins, with a message of its owner, who then
leaves it. -/
def newsRun : List ServerEvent :=
  [.userCreated 9, .userCreated 9, .userCreated 9,
    .requested .plain (fun _ => "user") ⟨⟨0, 9⟩, true⟩
      (.conversation (.create ⟨.c, some "news", none, none, none,
        some [.hex 1 true], none⟩)),
    .requested .plain (fun _ => "user") ⟨⟨2, 9⟩, true⟩
      (.conversation (.subscribe (some (.hex 4 true)))),
    .requested .plain (fun _ => "user") ⟨⟨0, 9⟩, true⟩
      (.chat (.message ⟨.hex 4 true, some "hello", none, []⟩)),
    .requested .plain (fun _ => "user") ⟨⟨0, 9⟩, true⟩
      (.conversation (.unsubscribe (some (.hex 4 true))))]

def newsConfig : ConversationConfig :=
  { ChatConfig.plain.conversations with isEventsEnabled := true }

theorem run_participants_news :
    ∃ conversation, (run newsConfig newsRun).conversations.conversations.get?
        4 = some conversation ∧ conversation.type = .c ∧
      conversation.ownerId ∈
        (run newsConfig newsRun).conversations.userIdsOf 4 ∧
      conversation.subscribersCount =
        .int ((run newsConfig newsRun).conversations.rowsOf 4).length := by
  have hsome : ∃ conversation,
      (run newsConfig newsRun).conversations.conversations.get? 4 =
        some conversation ∧ conversation.type = .c :=
    ⟨_, by rfl, by decide +kernel⟩
  obtain ⟨conversation, hget, htype⟩ := hsome
  have hall := run_participants newsConfig newsRun (by decide +kernel) 4
    conversation hget (by simp [htype])
  exact ⟨conversation, hget, htype, hall.2.2.2.1, hall.2.2.2.2 htype⟩

end ChatStore

end SamaServer
