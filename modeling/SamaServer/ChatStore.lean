/-
The collections behind the messages of conversations: messages, their status
rows and reactions, and the block list.  Dates are left out, except that every
write stores a new one: `writes` counts them.
-/
import SamaServer.BlockList
import SamaServer.MessageReads

namespace SamaServer

/-- A message, without its attachments. -/
structure ChatMessage extends Message where
  organizationId : ObjectId
  body : Option String
  deletedFor : List StoredId
deriving DecidableEq

namespace ChatMessage

def isVisibleTo (message : ChatMessage) (userId : ObjectId) : Bool :=
  StoredId.id userId ∉ message.deletedFor

/-- What the regular expression `\s` of the database matches. -/
def isSpace (c : Char) : Bool :=
  c = ' ' ∨ (9 ≤ c.toNat ∧ c.toNat ≤ 13)

/-- The filter `/\S/` on a body that is there. -/
def hasText (message : ChatMessage) : Bool :=
  message.body.any (fun body => body.toList.any (fun c => ¬ isSpace c))

end ChatMessage

structure MessageReaction where
  mid : ObjectId
  userId : ObjectId
  reaction : String
deriving DecidableEq

/-- A status row for a conversation id that is no object id. -/
structure StrayStatus where
  cid : String
  mid : ObjectId
  userId : ObjectId
  status : ReadStatus
deriving DecidableEq

/-- A text sent in the place of an id. -/
inductive TextId
  | hex (id : ObjectId) (isLowerCase : Bool)
  | other (value : String)
deriving DecidableEq

def TextId.param : TextId → IdParam
  | hex id isLowerCase => .hex id isLowerCase
  | other value => .text value

structure ChatStore where
  conversations : ConversationStore
  messages : List ChatMessage
  statuses : List MessageStatus
  strayStatuses : List StrayStatus
  reactions : List MessageReaction
  blocks : BlockList
  nextMessageId : ObjectId
  writes : Nat
  messages_sorted : messages.Pairwise (fun earlier later =>
    earlier.id < later.id)
  messages_below : ∀ message ∈ messages, message.id < nextMessageId

/-- The filters of a list of messages.  `inPeriod` is what the dates let
through, and a lower date also reverses the order. -/
structure ListFilter where
  ids : Option (List IdParam)
  inPeriod : ChatMessage → Bool
  fromOldest : Bool
  bodyNotEmpty : Bool

def ListFilter.all : ListFilter := ⟨none, fun _ => true, false, false⟩

namespace ChatStore

/-- Messages and status rows as reading sees them. -/
def reads (chat : ChatStore) : MessageStore where
  messages := chat.messages.map ChatMessage.toMessage
  statuses := chat.statuses
  nextId := chat.nextMessageId
  messages_sorted := by
    rw [List.pairwise_map]
    exact chat.messages_sorted
  messages_below := by
    intro message hmessage
    obtain ⟨stored, hstored, rfl⟩ := List.mem_map.1 hmessage
    exact chat.messages_below stored hstored

/-! ### Messages -/

/-- A message with the id that the driver generates. -/
def createMessage (chat : ChatStore) (cid sender organizationId : ObjectId)
    (body : Option String) (deletedFor : List StoredId) : ChatStore :=
  { chat with
    messages := chat.messages ++ [⟨⟨chat.nextMessageId, cid, sender⟩,
      organizationId, body, deletedFor⟩]
    nextMessageId := chat.nextMessageId + 1
    writes := chat.writes + 1
    messages_sorted := by
      rw [List.pairwise_append]
      refine ⟨chat.messages_sorted, List.pairwise_singleton _ _, ?_⟩
      intro message hmessage last hlast
      rw [List.mem_singleton.1 hlast]
      exact chat.messages_below message hmessage
    messages_below := by
      intro message hmessage
      rcases List.mem_append.1 hmessage with hold | hnew
      · exact Nat.lt_succ_of_lt (chat.messages_below message hold)
      · rw [List.mem_singleton.1 hnew]
        exact Nat.lt_succ_self chat.nextMessageId }

/-- Write to messages without touching their ids. -/
def updateMessages (chat : ChatStore) (update : ChatMessage → ChatMessage)
    (hid : ∀ message, (update message).id = message.id) : ChatStore :=
  { chat with
    messages := chat.messages.map update
    writes := chat.writes + 1
    messages_sorted := by
      rw [List.pairwise_map]
      simp only [hid]
      exact chat.messages_sorted
    messages_below := by
      intro message hmessage
      obtain ⟨stored, hstored, rfl⟩ := List.mem_map.1 hmessage
      rw [hid]
      exact chat.messages_below stored hstored }

def deleteMessages (chat : ChatStore) (deleted : ChatMessage → Bool) :
    ChatStore :=
  { chat with
    messages := chat.messages.filter (fun message => ¬ deleted message)
    writes := chat.writes + 1
    messages_sorted := chat.messages_sorted.sublist List.filter_sublist
    messages_below := fun message hmessage =>
      chat.messages_below message (List.mem_filter.1 hmessage).1 }

/-- `findById` of a message. -/
def findMessage (server : MongoServer) (pick : Documents.Choice ChatMessage)
    (chat : ChatStore) (messageId : IdParam) :
    Except ConversationError (Option ChatMessage) :=
  match messageId.queryId? with
  | none => .ok none
  | some query =>
      if server.rejectsId query then .error .databaseError
      else .ok (pick.pick (chat.messages.filter (fun message =>
        server.matchesId query (.id message.id))))

/-- The message that an answer refers to: one of the conversation that the
user can see. -/
def findMessageById (chat : ChatStore) (cid userId : ObjectId)
    (mid : TextId) : Option ChatMessage :=
  chat.messages.find? (fun message => mid.param.namedId? = some message.id ∧
    message.cid = cid ∧ message.isVisibleTo userId)

/-- `updateOne` of the body, for the message that the id finds. -/
def updateBody (server : MongoServer) (pick : Documents.Choice ChatMessage)
    (messageId : IdParam) (newBody : String) (chat : ChatStore) :
    Except ConversationError Unit × ChatStore :=
  match chat.findMessage server pick messageId with
  | .error error => (.error error, chat)
  | .ok none => (.ok (), chat)
  | .ok (some found) =>
      (.ok (), chat.updateMessages (fun message =>
        if message.id = found.id then { message with body := some newBody }
        else message) (fun message => by split <;> rfl))

/-- An operator inside a list of ids makes the query fail. -/
def namedIds (ids : List IdParam) : Except ConversationError (List ObjectId) :=
  if ids.any (fun param => param.operator?.isSome) then
    .error .databaseError
  else .ok (ids.filterMap IdParam.namedId?)

def findAllByIds (chat : ChatStore) (ids : List IdParam) :
    Except ConversationError (List ChatMessage) := do
  let mids ← namedIds ids
  pure (chat.messages.filter (fun message => message.id ∈ mids))

/-- The messages that a user sees of a conversation. -/
def list (chat : ChatStore) (cid userId : ObjectId) (filter : ListFilter)
    (limit : Nat) : Except ConversationError (List ChatMessage) := do
  let mids ←
    match filter.ids with
    | none => pure none
    | some ids => do pure (some (← namedIds ids))
  let found := chat.messages.filter (fun message => message.cid = cid ∧
    message.isVisibleTo userId ∧ mids.all (fun mids => message.id ∈ mids) ∧
    filter.inPeriod message ∧ (filter.bodyNotEmpty → message.hasText))
  pure ((if filter.fromOldest then found else found.reverse).take limit)

/-! ### Status rows and reactions -/

/-- The bulk write of status rows for a conversation id as it was sent. -/
def upsertMessageStatus (chat : ChatStore) (cid : TextId)
    (mids : List ObjectId) (userId : ObjectId) (status : ReadStatus) :
    ChatStore :=
  match cid with
  | .hex id _ =>
      { chat with
        statuses := mids.foldl (MessageStore.upsertStatus id userId status)
          chat.statuses
        writes := chat.writes + mids.length }
  | .other value =>
      { chat with
        strayStatuses := mids.foldl (fun rows mid => Documents.upsert
          (fun row => row.cid = value ∧ row.mid = mid ∧ row.userId = userId)
          (fun row => { row with status := status })
          ⟨value, mid, userId, status⟩ rows) chat.strayStatuses
        writes := chat.writes + mids.length }

/-- Whether `findReadStatusForMids` finds a user for the message. -/
def hasStatus (chat : ChatStore) (mid : ObjectId) : Bool :=
  chat.statuses.any (fun row => row.mid = mid) ||
    chat.strayStatuses.any (fun row => row.mid = mid)

def readMessagesInConversation (chat : ChatStore) (cid userId : ObjectId)
    (mids : Option (List ObjectId)) : List Message × ChatStore :=
  let (unreadMessages, after) :=
    chat.reads.readMessagesInConversation cid userId mids
  (unreadMessages, { chat with
    statuses := after.statuses
    writes := chat.writes + unreadMessages.length })

/-- `messageReactionRepo.upsert`: whether a reaction was given and is new. -/
def addReaction (chat : ChatStore) (mid userId : ObjectId)
    (add : Option String) : Bool × ChatStore :=
  match add.filter (· ≠ "") with
  | none => (false, chat)
  | some reaction =>
      if ⟨mid, userId, reaction⟩ ∈ chat.reactions then (false, chat)
      else (true, { chat with
        reactions := chat.reactions ++ [⟨mid, userId, reaction⟩]
        writes := chat.writes + 1 })

/-- `messageReactionRepo.remove`: whether a reaction was given and was
there. -/
def removeReaction (chat : ChatStore) (mid userId : ObjectId)
    (remove : Option String) : Bool × ChatStore :=
  match remove.filter (· ≠ "") with
  | none => (false, chat)
  | some reaction =>
      if ⟨mid, userId, reaction⟩ ∈ chat.reactions then (true, { chat with
        reactions := chat.reactions.filter (fun row =>
          row ≠ ⟨mid, userId, reaction⟩)
        writes := chat.writes + 1 })
      else (false, chat)

/-- Whether a reaction was added or removed. -/
def updateReactions (chat : ChatStore) (mid userId : ObjectId)
    (add remove : Option String) : Bool × ChatStore :=
  let (isAdded, added) := chat.addReaction mid userId add
  let (isRemoved, removed) := added.removeReaction mid userId remove
  (isAdded || isRemoved, removed)

end ChatStore

/-! ### Blocks -/

namespace BlockList

/-- The users of a list with an enabled row to or from the user.  A value
that is an operator makes the query fail. -/
def listMutualBlockedIds (list : BlockList) (userId : ObjectId)
    (recipientsIds : List StoredId) :
    Except ConversationError (List ObjectId) :=
  if recipientsIds.any (fun recipient =>
      recipient.param.operator?.isSome) then .error .databaseError
  else
    let blockedByUser := (list.rows.filter (fun row =>
      row.userId = userId ∧ row.enabled ∧
        StoredId.id row.blockedUserId ∈ recipientsIds)).take
          MessageStore.findAllLimit
    let userInBlock := (list.rows.filter (fun row =>
      row.blockedUserId = userId ∧ row.enabled ∧
        StoredId.id row.userId ∈ recipientsIds)).take
          MessageStore.findAllLimit
    .ok (blockedByUser.map BlockedUser.blockedUserId ++
      userInBlock.map BlockedUser.userId)

end BlockList

end SamaServer
