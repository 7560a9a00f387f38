/-
The script of a conversation and the message it is run for.  The script sees
three functions that write into a shared result, and after it has ended the
result is looked at by the truth of its fields, first for an error and then
for a new body or an answer of the bot.
-/
import SamaServer.JsonPackets
import SamaServer.MessageOperations

namespace SamaServer

/-- A value that a script passes to a function of the service.  A missing
argument is `undefined`, and a number without value is `NaN`. -/
inductive ScriptValue
  | undefined
  | null
  | bool (value : Bool)
  | number (value : Option JsonNumber)
  | bigint (value : Int)
  | text (value : String)
  | array (items : List ScriptValue)
  | object (members : List (String × ScriptValue))
  | function (length : Nat)

namespace ScriptValue

def isTruthy : ScriptValue → Bool
  | undefined => false
  | null => false
  | bool value => value
  | number none => false
  | number (some (.finite value)) => value ≠ 0
  | number (some (.infinite _)) => true
  | bigint value => value ≠ 0
  | text value => value ≠ ""
  | array _ => true
  | object _ => true
  | function _ => true

/-- The number of code units of a text. -/
def textLength (value : String) : Nat :=
  (value.toList.map (fun c => if c.toNat < 65536 then 1 else 2)).sum

def ofNat (value : Nat) : ScriptValue := number (some (.finite value))

/-- The member of an object that was set last under a name. -/
def member? (members : List (String × ScriptValue)) (name : String) :
    Option ScriptValue :=
  (members.reverse.find? (fun member => member.1 = name)).map Prod.snd

/-- `value?.name` for the names that are asked for. -/
def property (value : ScriptValue) (name : String) : ScriptValue :=
  match value with
  | object members => (member? members name).getD undefined
  | text value => if name = "length" then ofNat (textLength value)
      else undefined
  | array items => if name = "length" then ofNat items.length
      else undefined
  | function length => if name = "length" then ofNat length else undefined
  | _ => undefined

def isFunction : ScriptValue → Bool
  | function _ => true
  | _ => false

mutual

/-- Whether the value can be converted to a text.  An object cannot when it
has a `toString` of its own that is no function, and no `valueOf` of its own
that is one.  The functions of a script are taken to return texts. -/
def isPrintable : ScriptValue → Bool
  | array items => arePrintable items
  | object members => (member? members "toString").all isFunction ||
      (member? members "valueOf").any isFunction
  | _ => true

/-- The text of an array has the texts of its items. -/
def arePrintable : List ScriptValue → Bool
  | [] => true
  | item :: items => item.isPrintable && arePrintable items

end

def text? : ScriptValue → Option String
  | text value => some value
  | _ => none

end ScriptValue

namespace ErrorStatus

def invalidAttachmentFields : ErrorStatus :=
  ⟨422, "Invalid attachment fields."⟩

def incorrectTypeOfBody : ErrorStatus :=
  ⟨422, "Incorrect type of message body."⟩

end ErrorStatus

/-- The fields of a message that a script can replace. -/
structure MessageContent where
  body : ScriptValue
  attachments : ScriptValue

/-- What a message is refused with.  A script that blocks it puts its own
reason in the place of the message of `MESSAGE_BLOCKED_BY_HANDLER`. -/
inductive HandlerError
  | service (error : ConversationError)
  | blocked (reason : ScriptValue)

namespace ConversationHandler

/-- A call that the script makes. -/
inductive Callback
  | accept
  | resolve (messageObject options : ScriptValue)
  | reject (message : ScriptValue)

structure CompilationResult where
  accept : Bool
  message : ScriptValue
  options : ScriptValue
  errorMessage : ScriptValue

def CompilationResult.initial : CompilationResult :=
  ⟨false, .object [], .object [], .null⟩

/-- `options = {}` for an argument that is missing. -/
def defaultOptions : ScriptValue → ScriptValue
  | .undefined => .object []
  | options => options

def CompilationResult.call (result : CompilationResult) :
    Callback → CompilationResult
  | .accept => { result with accept := true }
  | .resolve messageObject options =>
      let message := messageObject.property "message"
      { result with
        message := if message.isTruthy then message else .object []
        options := defaultOptions options }
  | .reject message => { result with errorMessage := message }

/-- The script has ended, and its calls are looked at. -/
def prepareAndExecuteConversationHandler (trace : List Callback) :
    Except HandlerError CompilationResult :=
  let compilationResult :=
    trace.foldl CompilationResult.call CompilationResult.initial
  if compilationResult.errorMessage.isTruthy then
    -- the conversion of the reason in `new Error` may throw
    if compilationResult.errorMessage.isPrintable then
      .error (.blocked compilationResult.errorMessage)
    else .error (.service .typeError)
  else .ok compilationResult

def allowedBotAttachmentFields : List String :=
  ["file_url", "file_blur_hash", "file_content_type", "file_size",
    "file_width", "file_height"]

/-- An empty array has no keys. -/
def validateAttachmentInMessage : ScriptValue → Bool
  | .object members =>
      members.all (fun member => member.1 ∈ allowedBotAttachmentFields)
  | .array items => items.isEmpty
  | _ => false

def hasLength (value : ScriptValue) : Bool :=
  (value.property "length").isTruthy

/-- The loop over the attachments.  A text is a sequence of texts, and other
values with a length are no sequence. -/
def validateAttachments (attachments : ScriptValue) :
    Except HandlerError Unit :=
  if hasLength attachments then
    match attachments with
    | .array items =>
        if items.all validateAttachmentInMessage then .ok ()
        else .error (.service (.cause .invalidAttachmentFields))
    | .text _ => .error (.service (.cause .invalidAttachmentFields))
    | _ => .error (.service .typeError)
  else .ok ()

/-- `body && typeof body !== "string"` throws. -/
def validateBody (body : ScriptValue) : Except HandlerError Unit :=
  if body.isTruthy ∧ body.text?.isNone then
    .error (.service (.cause .incorrectTypeOfBody))
  else .ok ()

/-- `options.isReplaceBody`. -/
def isReplaceBody : ScriptValue → Except HandlerError Bool
  | .null => .error (.service .typeError)
  | options => .ok (options.property "isReplaceBody").isTruthy

/-- What is done with the message: new fields, or an answer of the bot. -/
structure ProcessedResponse where
  newMessageFields : Option MessageContent
  botMessage : Option (User × MessageContent)

def processHandlerResult (existServerBot : Option User) (accept : Bool)
    (message options : ScriptValue) :
    Except HandlerError ProcessedResponse :=
  if accept then .ok ⟨none, none⟩
  else do
    let body := message.property "body"
    let attachments := message.property "attachments"
    validateAttachments attachments
    validateBody body
    if ¬ hasLength body ∧ ¬ hasLength attachments then pure ⟨none, none⟩
    else do
      let replaces ← isReplaceBody options
      if replaces then pure ⟨some ⟨body, attachments⟩, none⟩
      else pure ⟨none, existServerBot.map (fun serverBot =>
        (serverBot, ⟨body, attachments⟩))⟩

/-- Messages of conversations with the fields that a script can replace, as
they were stored. -/
structure HandledStore where
  chat : ChatStore
  contents : List (ObjectId × MessageContent)

abbrev HandledProgram := Fallible Unit HandledStore HandlerError

/-- `trace` has the calls of the script of a conversation, if it has one, and
`serverBot` is the user of an organization with the login of the bot. -/
structure HandlerConfig where
  chat : ChatConfig
  trace : ObjectId → Option (List Callback)
  serverBot : ObjectId → Option User

/-- `message` with its attachments. -/
structure HandledParams extends MessageParams where
  attachments : ScriptValue

def HandledParams.content (params : HandledParams) : MessageContent :=
  ⟨(params.body.map ScriptValue.text).getD .undefined, params.attachments⟩

section Operation

open Fallible MessageOperations

/-- A part of the operation that does not look at attachments. -/
def onChat {A : Type} (program : ChatProgram A) : HandledProgram A :=
  command () (fun s => ((program.exec s.chat).1.mapError .service,
    { s with chat := (program.exec s.chat).2 }))

variable (config : HandlerConfig) (session : ConversationSession)

/-- The script is run when the conversation has one. -/
def executeConversationHandler (cid : ObjectId) (user : User) :
    Except HandlerError ProcessedResponse :=
  match config.trace cid with
  | none => .ok ⟨none, none⟩
  | some trace => do
      let result ← prepareAndExecuteConversationHandler trace
      processHandlerResult (config.serverBot user.organizationId)
        result.accept result.message result.options

/-- A message is stored as one document, with its content. -/
def createMessage (conversation : ConversationModel) (user : User)
    (content : MessageContent) (deletedFor : List IdParam) :
    HandledProgram (List ChatDelivery) := do
  command () (fun s => (.ok (), { s with
    contents := s.contents ++ [(s.chat.nextMessageId, content)] }))
  onChat (MessageOperations.createMessage conversation user
    content.body.text? deletedFor)

def createBotMessage (conversation : ConversationModel)
    (botMessage : Option (User × MessageContent))
    (deletedFor : List IdParam) : HandledProgram (List ChatDelivery) :=
  match botMessage with
  | none => pure []
  | some (serverBot, content) =>
      createMessage conversation serverBot content deletedFor

/-- `message`. -/
def create (params : HandledParams) : HandledProgram (List ChatDelivery) := do
  let currentUser ← onChat (query (fun chat =>
    .ok (chat.conversations.findUserById session.userId)))
  let access ← onChat (hasAccessToCreate config.chat session params.cid)
  let conversation := access.conversation
  onChat (checkBlocked session conversation)
  onChat (validateRepliedMessageId session conversation.id
    params.repliedMessageId)
  let user ← onChat (requireUser currentUser)
  let response ← ofExcept (executeConversationHandler config conversation.id
    user)
  let created ← createMessage conversation user
    (response.newMessageFields.getD params.content) params.deletedFor
  let restored ← onChat (restoreMembers config.chat conversation)
  let answered ← createBotMessage conversation response.botMessage
    params.deletedFor
  pure (restored ++ created ++ answered)

end Operation

end ConversationHandler

end SamaServer
