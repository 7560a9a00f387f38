/-
What a script can do to a message.  A message is blocked when the last reason
of the script counts as true and can be printed, whatever else the script has
called, and an accepted message is stored as it was sent.  The operation is
also a refinement of the one that knows a script only by its answer.
-/
import SamaServer.ConversationHandler
import SamaServer.MessageAccess

namespace SamaServer

namespace ConversationHandler

open Fallible MessageOperations

/-! ### The result of a script -/

/-- The argument of a call that rejects. -/
def Callback.reason? : Callback → Option ScriptValue
  | .reject message => some message
  | _ => none

/-- The reasons that a script has given, in their order. -/
def reasons (trace : List Callback) : List ScriptValue :=
  trace.filterMap Callback.reason?

def IsAccepted (trace : List Callback) : Prop := Callback.accept ∈ trace

theorem errorMessage_call (result : CompilationResult) (call : Callback) :
    (result.call call).errorMessage =
      call.reason?.getD result.errorMessage := by
  cases call <;> rfl

theorem accept_call (result : CompilationResult) (call : Callback) :
    (result.call call).accept = true ↔
      result.accept = true ∨ call = .accept := by
  cases call <;> simp [CompilationResult.call]

/-- Each reason replaces the one before it. -/
theorem errorMessage_run (trace : List Callback)
    (result : CompilationResult) :
    (trace.foldl CompilationResult.call result).errorMessage =
      (reasons trace).getLast?.getD result.errorMessage := by
  induction trace generalizing result with
  | nil => rfl
  | cons call rest ih =>
      rw [List.foldl_cons, ih, errorMessage_call]
      cases hreason : call.reason? with
      | none => simp [reasons, hreason]
      | some reason =>
          simp [reasons, hreason, List.getLast?_cons]

theorem accept_run (trace : List Callback) (result : CompilationResult) :
    (trace.foldl CompilationResult.call result).accept = true ↔
      result.accept = true ∨ IsAccepted trace := by
  induction trace generalizing result with
  | nil => simp [IsAccepted]
  | cons call rest ih =>
      rw [List.foldl_cons, ih, accept_call]
      simp only [IsAccepted, List.mem_cons, or_assoc, eq_comm]

/-- The reason blocks a message: it counts as true and has a text. -/
def Blocks (reason : ScriptValue) : Prop :=
  reason.isTruthy = true ∧ reason.isPrintable = true

theorem prepareAndExecute_blocked {trace : List Callback}
    {reason : ScriptValue} (hlast : (reasons trace).getLast? = some reason)
    (hblocks : Blocks reason) :
    prepareAndExecuteConversationHandler trace =
      .error (.blocked reason) := by
  have herror := errorMessage_run trace .initial
  rw [hlast, Option.getD_some] at herror
  rw [prepareAndExecuteConversationHandler]
  rw [herror, if_pos hblocks.1, if_pos hblocks.2]

theorem prepareAndExecute_not_blocked {trace : List Callback}
    {reason : ScriptValue} (hlast : (reasons trace).getLast? = some reason)
    (hblocks : ¬ Blocks reason) (shown : ScriptValue) :
    prepareAndExecuteConversationHandler trace ≠
      .error (.blocked shown) := by
  have herror := errorMessage_run trace .initial
  rw [hlast, Option.getD_some] at herror
  rw [prepareAndExecuteConversationHandler]
  rw [herror]
  split
  · next htruthy =>
      rw [if_neg (fun hprintable => hblocks ⟨htruthy, hprintable⟩)]
      intro hsame
      cases hsame
  · intro hsame
    cases hsame

theorem prepareAndExecute_of_no_reason {trace : List Callback}
    (hnone : reasons trace = []) :
    prepareAndExecuteConversationHandler trace =
      .ok (trace.foldl CompilationResult.call .initial) := by
  have herror := errorMessage_run trace .initial
  rw [hnone] at herror
  rw [prepareAndExecuteConversationHandler]
  rw [herror]
  rfl

/-! ### The request -/

variable {config : HandlerConfig} {session : ConversationSession}
  {params : HandledParams} {conversation : ConversationModel} {user : User}
  {trace : List Callback} {s : HandledStore}

/-- The request passes all checks that stand before the script: the sender
is stored, has access to the conversation, is not blocked, and replies to a
message that is there. -/
structure Reaches (config : HandlerConfig) (session : ConversationSession)
    (params : HandledParams) (s : HandledStore)
    (conversation : ConversationModel) (user : User) : Prop where
  user : s.chat.conversations.findUserById session.userId = some user
  access : ∃ access,
    (hasAccessToCreate config.chat session params.cid).exec s.chat =
      (.ok access, s.chat) ∧ access.conversation = conversation
  blocked : (checkBlocked session conversation).exec s.chat = (.ok (), s.chat)
  replied : (validateRepliedMessageId session conversation.id
    params.repliedMessageId).exec s.chat = (.ok (), s.chat)

/-- What follows the script. -/
def afterScript (config : HandlerConfig) (params : HandledParams)
    (conversation : ConversationModel) (user : User)
    (response : ProcessedResponse) : HandledProgram (List ChatDelivery) := do
  let created ← createMessage conversation user
    (response.newMessageFields.getD params.content) params.deletedFor
  let restored ← onChat (restoreMembers config.chat conversation)
  let answered ← createBotMessage conversation response.botMessage
    params.deletedFor
  pure (restored ++ created ++ answered)

theorem exec_onChat_ok {A : Type} {program : ChatProgram A} {result : A}
    (hexec : program.exec s.chat = (.ok result, s.chat)) :
    (onChat program).exec s = (.ok result, s) := by
  rw [onChat, exec_command, hexec]
  rfl

theorem exec_create (hreaches : Reaches config session params s conversation
    user) :
    (create config session params).exec s =
      (ofExcept (executeConversationHandler config conversation.id user) >>=
        afterScript config params conversation user).exec s := by
  obtain ⟨access, haccess, rfl⟩ := hreaches.access
  have huser : (query (fun chat =>
      .ok (chat.conversations.findUserById session.userId))).exec s.chat =
      (.ok (some user), s.chat) := by
    rw [query, exec_command, hreaches.user]
  rw [create, exec_bind_ok (exec_onChat_ok huser),
    exec_bind_ok (exec_onChat_ok haccess),
    exec_bind_ok (exec_onChat_ok hreaches.blocked),
    exec_bind_ok (exec_onChat_ok hreaches.replied),
    exec_bind_ok (exec_onChat_ok rfl)]
  rfl

theorem exec_create_error {error : HandlerError}
    (hreaches : Reaches config session params s conversation user)
    (hscript : executeConversationHandler config conversation.id user =
      .error error) :
    (create config session params).exec s = (.error error, s) := by
  rw [exec_create hreaches, hscript]
  exact exec_bind_error (exec_ofExcept _ _) _

theorem exec_create_ok {response : ProcessedResponse}
    (hreaches : Reaches config session params s conversation user)
    (hscript : executeConversationHandler config conversation.id user =
      .ok response) :
    (create config session params).exec s =
      (afterScript config params conversation user response).exec s := by
  rw [exec_create hreaches, hscript]
  exact exec_bind_ok (exec_ofExcept _ _) _

/-- The document that a message is stored as, without its attachments. -/
def sentMessage (params : HandledParams) (conversation : ConversationModel)
    (user : User) (s : HandledStore) : ChatMessage :=
  ⟨⟨s.chat.nextMessageId, conversation.id, user.id⟩, user.organizationId,
    params.body, params.deletedFor.filterMap IdParam.queryId?⟩

/-- The message, and nothing else, was stored as it was sent. -/
structure StoredAsSent (params : HandledParams)
    (conversation : ConversationModel) (user : User)
    (before after : HandledStore) : Prop where
  messages : after.chat.messages = before.chat.messages ++
    [sentMessage params conversation user before]
  contents : after.contents = before.contents ++
    [(before.chat.nextMessageId, params.content)]

theorem restoreMembers_messages (config : ChatConfig)
    (conversation : ConversationModel) (chat : ChatStore) :
    ((restoreMembers config conversation).exec chat).2.messages =
      chat.messages := by
  rw [restoreMembers]
  split
  · refine exec_bind_related (R := fun first second : ChatStore =>
      second.messages = first.messages) ?_ rfl ?_
    · intro first second third hfirst hsecond
      exact hsecond.trans hfirst
    · intro result after _
      split <;> rfl
  · rfl

theorem text?_content (params : HandledParams) :
    params.content.body.text? = params.body := by
  rw [HandledParams.content]
  cases params.body <;> rfl

/-- A message is stored as one document. -/
theorem exec_createMessage (conversation : ConversationModel) (user : User)
    (content : MessageContent) (deletedFor : List IdParam)
    (s : HandledStore) :
    ∃ deliveries, (createMessage conversation user content deletedFor).exec s =
      (.ok deliveries, {
        chat := s.chat.createMessage conversation.id user.id
          user.organizationId content.body.text?
          (deletedFor.filterMap IdParam.queryId?)
        contents := s.contents ++ [(s.chat.nextMessageId, content)] }) :=
  ⟨_, rfl⟩

/-- A script that changes nothing lets the message be stored as it was
sent, also when the other member of the conversation cannot be restored. -/
theorem afterScript_storedAsSent (config : HandlerConfig)
    (params : HandledParams) (conversation : ConversationModel) (user : User)
    (s : HandledStore) :
    StoredAsSent params conversation user s
      ((afterScript config params conversation user ⟨none, none⟩).exec s).2 := by
  obtain ⟨deliveries, hcreated⟩ := exec_createMessage conversation user
    params.content params.deletedFor s
  rw [text?_content] at hcreated
  rw [afterScript, Option.getD_none, exec_bind_ok hcreated]
  have hrest := restoreMembers_messages config.chat conversation
    (s.chat.createMessage conversation.id user.id user.organizationId
      params.body (params.deletedFor.filterMap IdParam.queryId?))
  have hkept : ∀ middle : HandledStore,
      ((onChat (restoreMembers config.chat conversation) >>= fun restored =>
        createBotMessage conversation none params.deletedFor >>=
          fun answered => pure (restored ++ deliveries ++ answered)).exec
            middle).2 =
        { middle with
          chat := ((restoreMembers config.chat conversation).exec
            middle.chat).2 } := by
    intro middle
    rw [onChat, exec_command_bind]
    cases ((restoreMembers config.chat conversation).exec middle.chat).1 with
    | ok restored => rfl
    | error error => rfl
  rw [hkept]
  exact ⟨hrest, rfl⟩

/-! ### The rules -/

/-- What a script is promised: a rejection blocks the message, and an
acceptance without a rejection lets it through as it is. -/
structure MeetsRules (config : HandlerConfig) (session : ConversationSession)
    (params : HandledParams) (conversation : ConversationModel) (user : User)
    (trace : List Callback) (s : HandledStore) : Prop where
  rejected : (∃ reason, Callback.reject reason ∈ trace) →
    ∃ shown, (create config session params).exec s =
      (.error (.blocked shown), s)
  accepted : (∀ reason, Callback.reject reason ∉ trace) →
    Callback.accept ∈ trace →
    StoredAsSent params conversation user s
      ((create config session params).exec s).2

theorem mem_reasons_iff (reason : ScriptValue) :
    reason ∈ reasons trace ↔ Callback.reject reason ∈ trace := by
  rw [reasons, List.mem_filterMap]
  constructor
  · rintro ⟨call, hcall, hreason⟩
    cases call with
    | reject message =>
        cases hreason
        exact hcall
    | accept => cases hreason
    | resolve messageObject options => cases hreason
  · intro hreject
    exact ⟨_, hreject, rfl⟩

theorem execute_of_trace (htrace : config.trace conversation.id = some trace)
    {error : HandlerError}
    (hprepared : prepareAndExecuteConversationHandler trace = .error error) :
    executeConversationHandler config conversation.id user = .error error := by
  rw [executeConversationHandler, htrace]
  dsimp only
  rw [hprepared]
  rfl

/-! ### Only a reason blocks -/

/-- No reason of a script is thrown. -/
def NotBlocked {A : Type} (result : Except HandlerError A) : Prop :=
  ∀ reason, result ≠ .error (.blocked reason)

theorem notBlocked_ok {A : Type} (result : A) :
    NotBlocked (.ok result) := by
  intro reason hsame
  cases hsame

theorem notBlocked_service {A : Type} (error : ConversationError) :
    NotBlocked (.error (.service error) : Except HandlerError A) := by
  intro reason hsame
  cases hsame

theorem notBlocked_mapError {A : Type} (result : Except ConversationError A) :
    NotBlocked (result.mapError HandlerError.service) := by
  cases result with
  | ok result => exact notBlocked_ok result
  | error error => exact notBlocked_service error

theorem notBlocked_bind {A B : Type} {result : Except HandlerError A}
    {rest : A → Except HandlerError B} (hresult : NotBlocked result)
    (hrest : ∀ value, NotBlocked (rest value)) :
    NotBlocked (result >>= rest) := by
  cases result with
  | ok value => exact hrest value
  | error error =>
      intro reason hsame
      cases hsame
      exact hresult reason rfl

theorem notBlocked_exec_bind {A B : Type} {program : HandledProgram A}
    {rest : A → HandledProgram B}
    (hprogram : ∀ s, NotBlocked (program.exec s).1)
    (hrest : ∀ value s, NotBlocked ((rest value).exec s).1)
    (s : HandledStore) : NotBlocked ((program >>= rest).exec s).1 := by
  rw [exec_bind]
  have hfirst := hprogram s
  cases hexec : (program.exec s).1 with
  | ok value => exact hrest value _
  | error error =>
      rw [hexec] at hfirst
      intro reason hsame
      cases hsame
      exact hfirst reason rfl

theorem notBlocked_onChat {A : Type} (program : ChatProgram A)
    (s : HandledStore) : NotBlocked ((onChat program).exec s).1 :=
  notBlocked_mapError _

theorem notBlocked_createMessage (conversation : ConversationModel)
    (user : User) (content : MessageContent) (deletedFor : List IdParam)
    (s : HandledStore) :
    NotBlocked ((createMessage conversation user content deletedFor).exec
      s).1 := by
  obtain ⟨deliveries, hexec⟩ := exec_createMessage conversation user content
    deletedFor s
  rw [hexec]
  exact notBlocked_ok deliveries

theorem notBlocked_afterScript (config : HandlerConfig)
    (params : HandledParams) (conversation : ConversationModel) (user : User)
    (response : ProcessedResponse) (s : HandledStore) :
    NotBlocked ((afterScript config params conversation user response).exec
      s).1 := by
  refine notBlocked_exec_bind (notBlocked_createMessage _ _ _ _) ?_ s
  intro created
  refine notBlocked_exec_bind (notBlocked_onChat _) ?_
  intro restored
  refine notBlocked_exec_bind ?_ (fun _ _ => notBlocked_ok _)
  intro between
  rw [createBotMessage.eq_def]
  split
  · exact notBlocked_ok []
  · exact notBlocked_createMessage _ _ _ _ between

theorem notBlocked_validateAttachments (attachments : ScriptValue) :
    NotBlocked (validateAttachments attachments) := by
  rw [validateAttachments.eq_def]
  split
  · split
    · split
      · exact notBlocked_ok ()
      · exact notBlocked_service _
    · exact notBlocked_service _
    · exact notBlocked_service _
  · exact notBlocked_ok ()

/-- What is thrown when the result is processed has a cause of its own. -/
theorem notBlocked_processHandlerResult (existServerBot : Option User)
    (accept : Bool) (message options : ScriptValue) :
    NotBlocked (processHandlerResult existServerBot accept message
      options) := by
  rw [processHandlerResult]
  split
  · exact notBlocked_ok _
  · refine notBlocked_bind (notBlocked_validateAttachments _) ?_
    intro _
    refine notBlocked_bind ?_ ?_
    · rw [validateBody]
      split
      · exact notBlocked_service _
      · exact notBlocked_ok ()
    · intro _
      split
      · exact notBlocked_ok _
      · refine notBlocked_bind ?_ ?_
        · rw [isReplaceBody.eq_def]
          split
          · exact notBlocked_service _
          · exact notBlocked_ok _
        · intro replaces
          split
          · exact notBlocked_ok _
          · exact notBlocked_ok _

/-- A last reason that does not block leaves the message unblocked, whatever
the reasons before it were. -/
theorem notBlocked_create {reason : ScriptValue}
    (htrace : config.trace conversation.id = some trace)
    (hreaches : Reaches config session params s conversation user)
    (hlast : (reasons trace).getLast? = some reason)
    (hblocks : ¬ Blocks reason) :
    NotBlocked ((create config session params).exec s).1 := by
  rw [exec_create hreaches]
  refine notBlocked_exec_bind ?_
    (notBlocked_afterScript config params conversation user) s
  intro between
  rw [exec_ofExcept, executeConversationHandler, htrace]
  refine notBlocked_bind (prepareAndExecute_not_blocked hlast hblocks) ?_
  intro result
  exact notBlocked_processHandlerResult _ _ _ _

/-- A script whose result says nothing but that it accepts. -/
theorem execute_accepted (htrace : config.trace conversation.id = some trace)
    (hnone : reasons trace = []) (haccept : IsAccepted trace) :
    executeConversationHandler config conversation.id user =
      .ok ⟨none, none⟩ := by
  have hresult := (accept_run trace .initial).2 (Or.inr haccept)
  rw [executeConversationHandler, htrace]
  dsimp only
  rw [prepareAndExecute_of_no_reason hnone]
  change processHandlerResult _ _ _ _ = _
  rw [processHandlerResult, if_pos hresult]

theorem meetsRules_iff
    (htrace : config.trace conversation.id = some trace)
    (hreaches : Reaches config session params s conversation user) :
    MeetsRules config session params conversation user trace s ↔
      ∀ reason, (reasons trace).getLast? = some reason → Blocks reason := by
  constructor
  · intro hrules reason hlast
    by_contra hblocks
    obtain ⟨shown, hexec⟩ := hrules.rejected
      ⟨reason, (mem_reasons_iff reason).1 (List.mem_of_getLast? hlast)⟩
    have hnot := notBlocked_create htrace hreaches hlast hblocks
    rw [hexec] at hnot
    exact hnot shown rfl
  · intro hlast
    constructor
    · rintro ⟨reason, hreject⟩
      have hne : reasons trace ≠ [] :=
        List.ne_nil_of_mem ((mem_reasons_iff reason).2 hreject)
      obtain ⟨last, hgetLast⟩ : ∃ last, (reasons trace).getLast? = some last :=
        ⟨_, List.getLast?_eq_some_getLast hne⟩
      exact ⟨last, exec_create_error hreaches (execute_of_trace htrace
        (prepareAndExecute_blocked hgetLast (hlast last hgetLast)))⟩
    · intro hnone haccept
      have hempty : reasons trace = [] := by
        refine List.eq_nil_iff_forall_not_mem.2 ?_
        intro reason hreason
        exact hnone reason ((mem_reasons_iff reason).1 hreason)
      rw [exec_create_ok hreaches (execute_accepted htrace hempty haccept)]
      exact afterScript_storedAsSent config params conversation user s

/-- A service in which every conversation has a script with these calls. -/
def HandlerConfig.calling (trace : List Callback) : HandlerConfig :=
  ⟨.plain, fun _ => some trace, fun _ => none⟩

/-- The owner of the private conversation says something. -/
def greeting : HandledParams :=
  ⟨⟨.hex 4 true, some "hi", none, []⟩, .undefined⟩

def privateChat : ConversationModel :=
  ⟨4, ⟨9, .u, .id 0, some (.id 1), none, ⟨none, none, none, none⟩,
    .undefined⟩⟩

theorem reaches_calling (trace : List Callback) :
    Reaches (.calling trace) ⟨0, 9⟩ greeting ⟨.oneMessage, []⟩ privateChat
      ⟨0, 9⟩ where
  user := rfl
  access := ⟨_, rfl, rfl⟩
  blocked := rfl
  replied := rfl

theorem meetsRules_of_printed_reason :
    Reaches (.calling [.reject (.text "no"), .accept]) ⟨0, 9⟩ greeting
      ⟨.oneMessage, []⟩ privateChat ⟨0, 9⟩ ∧
    MeetsRules (.calling [.reject (.text "no"), .accept]) ⟨0, 9⟩ greeting
      privateChat ⟨0, 9⟩ [.reject (.text "no"), .accept]
      ⟨.oneMessage, []⟩ := by
  refine ⟨reaches_calling _, (meetsRules_iff rfl (reaches_calling _)).2 ?_⟩
  intro reason hlast
  cases hlast
  exact ⟨rfl, rfl⟩

/-- A rejection without a reason does not keep the message out. -/
theorem missingReason_stored :
    Reaches (.calling [.reject .undefined]) ⟨0, 9⟩ greeting
      ⟨.oneMessage, []⟩ privateChat ⟨0, 9⟩ ∧
    ¬ MeetsRules (.calling [.reject .undefined]) ⟨0, 9⟩ greeting privateChat
      ⟨0, 9⟩ [.reject .undefined] ⟨.oneMessage, []⟩ := by
  refine ⟨reaches_calling _, ?_⟩
  intro hrules
  obtain ⟨shown, hexec⟩ := hrules.rejected ⟨.undefined, List.mem_cons_self⟩
  have hstored : (1 : Nat) = 0 :=
    congrArg (fun result => result.2.contents.length) hexec
  cases hstored

/-! ### The script by its answer -/

/-- The answer of a script, as far as the messages of a conversation show
it. -/
def ProcessedResponse.toHandlerResponse (response : ProcessedResponse) :
    HandlerResponse :=
  ⟨response.newMessageFields.map (fun content => content.body.text?),
    response.botMessage.map (fun (serverBot, content) =>
      (serverBot, content.body.text?))⟩

/-- The service with the scripts of the conversations as answers to the
messages of one user. -/
def HandlerConfig.answering (config : HandlerConfig) (user : User) :
    ChatConfig :=
  { config.chat with
    executeHandler := fun cid _ =>
      match executeConversationHandler config cid user with
      | .ok response => some response.toHandlerResponse
      | .error _ => none }

/-- The first program does to messages and conversations what the second
does, and when it answers, the second answers the same, seen through `f`. -/
def Simulates {A B : Type} (f : A → B) (program : HandledProgram A)
    (abstract : ChatProgram B) : Prop :=
  ∀ s : HandledStore,
    (program.exec s).2.chat = (abstract.exec s.chat).2 ∧
      (program.exec s).1.toOption.map f = (abstract.exec s.chat).1.toOption

theorem simulates_onChat {A : Type} (program : ChatProgram A) :
    Simulates id (onChat program) program := by
  intro s
  refine ⟨rfl, ?_⟩
  rw [onChat, exec_command]
  cases (program.exec s.chat).1 <;> rfl

theorem Simulates.bind {A B A' B' : Type} {f : A → A'} {g : B → B'}
    {program : HandledProgram A} {abstract : ChatProgram A'}
    {rest : A → HandledProgram B} {abstractRest : A' → ChatProgram B'}
    (hprogram : Simulates f program abstract)
    (hrest : ∀ value, Simulates g (rest value) (abstractRest (f value))) :
    Simulates g (program >>= rest) (abstract >>= abstractRest) := by
  intro s
  obtain ⟨hstate, hresult⟩ := hprogram s
  rw [exec_bind, exec_bind, ← hstate]
  cases hfirst : (program.exec s).1 with
  | ok value =>
      cases hsecond : (abstract.exec s.chat).1 with
      | ok other =>
          rw [hfirst, hsecond] at hresult
          cases hresult
          exact hrest value _
      | error error =>
          rw [hfirst, hsecond] at hresult
          cases hresult
  | error error =>
      cases hsecond : (abstract.exec s.chat).1 with
      | ok other =>
          rw [hfirst, hsecond] at hresult
          cases hresult
      | error other => exact ⟨rfl, rfl⟩

/-- The sender that was found is the one whose answers are known. -/
theorem Simulates.bind_requireUser {A B : Type} {f : A → B}
    {rest : User → HandledProgram A} {abstractRest : User → ChatProgram B}
    (hrest : Simulates f (rest user) (abstractRest user)) :
    Simulates f (onChat (requireUser (some user)) >>= rest)
      (requireUser (some user) >>= abstractRest) := hrest

theorem Simulates.same {A : Type} {program : HandledProgram A}
    {abstract : ChatProgram A} (hsimulates : Simulates id program abstract)
    (s : HandledStore) :
    (program.exec s).2.chat = (abstract.exec s.chat).2 ∧
      (program.exec s).1.toOption = (abstract.exec s.chat).1.toOption := by
  simpa using hsimulates s

theorem simulates_createMessage (conversation : ConversationModel)
    (user : User) (content : MessageContent) (deletedFor : List IdParam) :
    Simulates id (createMessage conversation user content deletedFor)
      (MessageOperations.createMessage conversation user content.body.text?
        deletedFor) := by
  intro s
  exact ⟨rfl, rfl⟩

theorem simulates_createBotMessage (conversation : ConversationModel)
    (response : ProcessedResponse) (deletedFor : List IdParam) :
    Simulates id
      (createBotMessage conversation response.botMessage deletedFor)
      (MessageOperations.createBotMessage conversation
        response.toHandlerResponse.botMessage deletedFor) := by
  rw [ProcessedResponse.toHandlerResponse]
  cases response.botMessage with
  | none =>
      intro s
      exact ⟨rfl, rfl⟩
  | some message => exact simulates_createMessage _ message.1 message.2 _

theorem simulates_executeConversationHandler (config : HandlerConfig)
    (params : HandledParams) (conversation : ConversationModel)
    (user : User) :
    Simulates ProcessedResponse.toHandlerResponse
      (ofExcept (executeConversationHandler config conversation.id user))
      (MessageOperations.executeConversationHandler (config.answering user)
        conversation params.toMessageParams) := by
  intro s
  rw [MessageOperations.executeConversationHandler.eq_def,
    HandlerConfig.answering, exec_ofExcept]
  dsimp only
  cases executeConversationHandler config conversation.id user with
  | ok response => exact ⟨rfl, rfl⟩
  | error error => exact ⟨rfl, rfl⟩

theorem text?_getD (params : HandledParams) (response : ProcessedResponse) :
    (response.newMessageFields.getD params.content).body.text? =
      response.toHandlerResponse.newBody.getD params.body := by
  rw [ProcessedResponse.toHandlerResponse]
  cases response.newMessageFields with
  | none => exact text?_content params
  | some content => rfl

/-- The operation with the whole script refines the operation that knows the
script by its answer. -/
theorem create_refines (config : HandlerConfig)
    (session : ConversationSession) (params : HandledParams)
    (huser : s.chat.conversations.findUserById session.userId = some user) :
    ((create config session params).exec s).2.chat =
        ((MessageOperations.create (config.answering user) session
          params.toMessageParams).exec s.chat).2 ∧
      ((create config session params).exec s).1.toOption =
        ((MessageOperations.create (config.answering user) session
          params.toMessageParams).exec s.chat).1.toOption := by
  have hfound : (query (fun chat =>
      .ok (chat.conversations.findUserById session.userId))).exec s.chat =
      (.ok (some user), s.chat) := by
    rw [query, exec_command, huser]
  rw [create, exec_bind_ok (exec_onChat_ok hfound), MessageOperations.create,
    exec_bind_ok hfound]
  refine Simulates.same ?_ s
  refine Simulates.bind (simulates_onChat _) ?_
  intro access
  refine Simulates.bind (simulates_onChat _) ?_
  intro _
  refine Simulates.bind (simulates_onChat _) ?_
  intro _
  refine Simulates.bind_requireUser ?_
  refine Simulates.bind (simulates_executeConversationHandler config params
    access.conversation user) ?_
  intro response
  rw [← text?_getD params response]
  refine Simulates.bind (simulates_createMessage _ _ _ _) ?_
  intro created
  refine Simulates.bind (simulates_onChat _) ?_
  intro restored
  refine Simulates.bind (simulates_createBotMessage _ _ _) ?_
  intro answered s
  exact ⟨rfl, rfl⟩

end ConversationHandler

end SamaServer
