/-
The requests about conversations and messages on one server, and what they do
to the conversations.  A request on a conversation does what it does on the
conversations alone; of the requests on messages only a new message touches
them, when it brings back the members of a private conversation.
-/
import SamaServer.EventRefinement
import SamaServer.MembershipRuns
import SamaServer.MessageAccess
import SamaServer.MessageIdAccess
import SamaServer.Triples

namespace SamaServer

open Fallible

/-- A request that is addressed to conversations, to one of them by its id, or
to one message by its id. -/
inductive ServerRequest
  | conversation (request : ConversationRequest)
  | chat (request : ChatRequest)
  | message (request : MessageRequest)

/-- A request on a conversation, with its events. -/
def ConversationRequest.performWithEvents (config : ChatConfig)
    (displayName : User → String) (session : ApiSession)
    (request : ConversationRequest) : ChatProgram Unit :=
  if request.isAccepted config.conversations then
    match request with
    | .create params => do
        let _ ← ConversationResults.create config session params
        pure ()
    | .update params => do
        let _ ← ConversationResults.edit config displayName session params
        pure ()
    | .delete id => do
        let _ ← ConversationResults.delete config displayName session id
        pure ()
    | .subscribe cid => MessageOperations.onConversations
        (ConversationOperations.subscribe config.conversations
          session.toConversationSession cid)
    | .unsubscribe cid => MessageOperations.onConversations
        (ConversationOperations.unsubscribe config.conversations
          session.toConversationSession cid)
  else throw .validation

def ServerRequest.perform (config : ChatConfig) (displayName : User → String)
    (session : ApiSession) : ServerRequest → ChatProgram Unit
  | conversation request =>
      request.performWithEvents config displayName session
  | chat request => request.perform config session.toConversationSession
  | message request => request.perform config session.toConversationSession

/-- What happens at the server when no two requests overlap.  The scripts, the
language model and the collection of encrypted messages may have changed from
one request to the next. -/
inductive ServerEvent
  | userCreated (organizationId : ObjectId)
  | userDeleted (id : ObjectId)
  | blockUser (session : ConversationSession) (ids : List IdParam)
  | unblockUser (session : ConversationSession) (ids : List IdParam)
  | blockListEnable (session : ConversationSession) (isEnabled : Bool)
  | requested (config : ChatConfig) (displayName : User → String)
      (session : ApiSession) (request : ServerRequest)

namespace ChatStore

/-- `config` holds the settings of the conversations, which stay. -/
def step (config : ConversationConfig) (chat : ChatStore) :
    ServerEvent → ChatStore
  | .userCreated organizationId =>
      { chat with
        conversations := chat.conversations.createUser organizationId }
  | .userDeleted id =>
      { chat with
        conversations := chat.conversations.deleteUser id
        blocks := chat.blocks.deleteAllBlocks id }
  | .blockUser session ids =>
      { chat with
        blocks := (BlockList.block chat.conversations session ids
          chat.blocks).2 }
  | .unblockUser session ids =>
      { chat with blocks := (BlockList.unblock session ids chat.blocks).2 }
  | .blockListEnable session isEnabled =>
      { chat with blocks := BlockList.enable session isEnabled chat.blocks }
  | .requested scripts displayName session request =>
      ((request.perform { scripts with conversations := config } displayName
        session).exec chat).2

theorem no_messages_sorted : ([] : List ChatMessage).Pairwise
    (fun earlier later => earlier.id < later.id) := .nil

theorem no_messages_below : ∀ message ∈ ([] : List ChatMessage),
    message.id < 0 := by
  intro message hmessage
  cases hmessage

def empty : ChatStore :=
  ⟨.empty, [], [], [], [], .empty, 0, 0, no_messages_sorted,
    no_messages_below⟩

def run (config : ConversationConfig) (events : List ServerEvent) :
    ChatStore :=
  events.foldl (step config) empty

end ChatStore

/-! ### Requests on conversations -/

variable (config : ChatConfig) (displayName : User → String)
  (session : ApiSession)

/-- A request on a conversation leaves the conversations as the request on
the conversations alone leaves them, and ends with the same error or without
one. -/
theorem ConversationRequest.refines_performWithEvents
    (request : ConversationRequest) :
    Refines ChatStore.conversations id
      (request.performWithEvents config displayName session)
      (request.perform config.conversations
        session.toConversationSession) := by
  rw [performWithEvents.eq_def, perform.eq_def]
  split
  · cases request with
    | create params =>
        exact refines_bind (ConversationResults.refines_create config session
          params) (fun _ => refines_pure ())
    | update params =>
        exact (ConversationResults.refines_edit config displayName session
          params).bind_pure (fun _ => rfl)
    | delete id =>
        exact (ConversationResults.refines_delete config displayName session
          id).bind_pure (fun _ => rfl)
    | subscribe cid => exact ConversationResults.refines_onConversations _
    | unsubscribe cid => exact ConversationResults.refines_onConversations _
  · exact refines_throw _

end SamaServer
