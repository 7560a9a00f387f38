/-
Conversations and the rows of their participants with their dates, and the
list of the conversations of a user.  A row gets its dates when the user
joins and keeps them; a conversation gets a new one with every message.  The
list asks both collections for the same period, with the same limit.
-/
import SamaServer.ConversationStore
import SamaServer.Pages

namespace SamaServer

/-- A date of the clock, in milliseconds after the epoch. -/
structure Date where
  time : Nat
  after_epoch : 0 < time
deriving DecidableEq

/-- A bound of a period as a request holds it: a number of milliseconds or
the text of a date. -/
inductive DateParam
  | number (time : Int)
  | text (time : Int)
deriving DecidableEq

namespace DateParam

/-- `new Date(param)`. -/
def time : DateParam → Int
  | number time => time
  | text time => time

/-- The truth value of the parameter in the language. -/
def isTruthy : DateParam → Bool
  | number time => time ≠ 0
  | text _ => true

end DateParam

structure DatedConversation where
  organizationId : ObjectId
  createdAt : Date
  updatedAt : Date
deriving DecidableEq

structure DatedParticipant where
  conversationId : ObjectId
  userId : ObjectId
  createdAt : Date
  updatedAt : Date
deriving DecidableEq

/-- Both collections, by the ids of their documents. -/
structure DatedStore where
  conversations : OrderedMap ObjectId DatedConversation
  participants : OrderedMap ObjectId DatedParticipant

namespace DatedStore

def empty : DatedStore := ⟨.empty, .empty⟩

/-! ### Writes -/

/-- An id that is taken is refused. -/
def insert {D : Type} (documents : OrderedMap ObjectId D) (id : ObjectId)
    (document : D) : OrderedMap ObjectId D :=
  if id ∈ documents.keys then documents else documents.set id document

def createConversation (store : DatedStore) (id organizationId : ObjectId)
    (currentDate : Date) : DatedStore :=
  { store with
    conversations := insert store.conversations id
      ⟨organizationId, currentDate, currentDate⟩ }

/-- The upsert for one participant, which only writes when it inserts. -/
def addNoExistedParticipant (store : DatedStore)
    (id conversationId userId : ObjectId) (currentDate : Date) :
    DatedStore :=
  if store.participants.entries.any (fun row =>
      row.2.conversationId = conversationId ∧ row.2.userId = userId) then
    store
  else
    { store with
      participants := insert store.participants id
        ⟨conversationId, userId, currentDate, currentDate⟩ }

def removeExistedParticipant (store : DatedStore)
    (conversationId userId : ObjectId) : DatedStore :=
  { store with
    participants :=
      ⟨store.participants.entries.filter (fun row =>
          ¬ (row.2.conversationId = conversationId ∧ row.2.userId = userId)),
        store.participants.keys_nodup.sublist
          (List.filter_sublist.map Prod.fst)⟩ }

def deleteConversation (store : DatedStore) (id : ObjectId) : DatedStore :=
  { store with conversations := store.conversations.erase id }

/-- What a message does to its conversation; `updatedAt` is the date of the
message. -/
def updateLastActivity (store : DatedStore) (id : ObjectId)
    (updatedAt : Date) : DatedStore :=
  { store with
    conversations := store.conversations.modify id (fun conversation =>
      { conversation with updatedAt := updatedAt }) }

end DatedStore

/-- The writes that concern dates. -/
inductive DatedEvent
  | created (id organizationId : ObjectId) (date : Date)
  | joined (id conversationId userId : ObjectId) (date : Date)
  | left (conversationId userId : ObjectId)
  | deleted (id : ObjectId)
  | messaged (conversationId : ObjectId) (date : Date)

namespace DatedStore

def apply (store : DatedStore) : DatedEvent → DatedStore
  | .created id organizationId date =>
      store.createConversation id organizationId date
  | .joined id conversationId userId date =>
      store.addNoExistedParticipant id conversationId userId date
  | .left conversationId userId =>
      store.removeExistedParticipant conversationId userId
  | .deleted id => store.deleteConversation id
  | .messaged conversationId date =>
      store.updateLastActivity conversationId date

end DatedStore

/-! ### Reads -/

/-- The period that the repositories ask for. -/
structure FilterOptions where
  updatedAtFrom : Option Int
  updatedAtTo : Option Int
deriving DecidableEq

def FilterOptions.admits (options : FilterOptions) (date : Date) : Bool :=
  options.updatedAtFrom.all (fun bound => bound < (date.time : Int)) &&
    options.updatedAtTo.all (fun bound => (date.time : Int) < bound)

/-- The period that a request asks for. -/
structure DatePeriod where
  gt : Option DateParam
  lt : Option DateParam
deriving DecidableEq

/-- A bound that is false in the language is no bound. -/
def DatePeriod.filterOptions (updatedAt : DatePeriod) : FilterOptions where
  updatedAtFrom := (updatedAt.gt.filter DateParam.isTruthy).map DateParam.time
  updatedAtTo := (updatedAt.lt.filter DateParam.isTruthy).map DateParam.time

structure ConversationListOptions where
  updatedAt : DatePeriod
  ids : List ObjectId
deriving DecidableEq

namespace DatedStore

/-- A query sorted by descending ids; a limit of zero is none. -/
def findAll {D : Type} (documents : List (ObjectId × D)) (limit : Nat) :
    List (ObjectId × D) :=
  if limit = 0 then Pages.descending Prod.fst documents
  else Pages.page Prod.fst limit documents

variable (store : DatedStore)

def findParticipantConversations (userId : ObjectId)
    (options : FilterOptions) (limit : Nat) : List ObjectId :=
  (findAll (store.participants.entries.filter (fun row =>
    row.2.userId = userId ∧ options.admits row.2.updatedAt)) limit).map
      (fun row => row.2.conversationId)

/-- A query without a limit takes a hundred documents. -/
def validateConvIdsWhichUserHasAccess (conversationIds : List ObjectId)
    (userId : ObjectId) : List ObjectId :=
  ((store.participants.entries.filter (fun row =>
    row.2.conversationId ∈ conversationIds ∧ row.2.userId = userId)).take
      100).map (fun row => row.2.conversationId)

def list (organizationId : ObjectId) (conversationIds : List ObjectId)
    (options : FilterOptions) (limit : Nat) :
    List (ObjectId × DatedConversation) :=
  findAll (store.conversations.entries.filter (fun conversation =>
    conversation.2.organizationId = organizationId ∧
      conversation.1 ∈ conversationIds ∧
      options.admits conversation.2.updatedAt)) limit

def conversationsList (user : User) (options : ConversationListOptions)
    (limit : Nat) : List (ObjectId × DatedConversation) :=
  let filterOptions := options.updatedAt.filterOptions
  let conversationIds :=
    if options.ids ≠ [] then
      store.validateConvIdsWhichUserHasAccess options.ids user.id
    else store.findParticipantConversations user.id filterOptions limit
  store.list user.organizationId conversationIds filterOptions limit

/-- The limit of a request; zero and values above the configured number stand
for that number. -/
def normalizeLimitParam (preloadCount limit : Nat) : Nat :=
  if preloadCount < limit then preloadCount
  else if limit = 0 then preloadCount
  else limit

/-- `conversation_list`, up to the last messages and images that are added to
the conversations. -/
def listConversations (preloadCount : Nat) (user : User)
    (options : ConversationListOptions) (limit : Nat) :
    List (ObjectId × DatedConversation) :=
  store.conversationsList user options
    (normalizeLimitParam preloadCount limit)

end DatedStore

end SamaServer
