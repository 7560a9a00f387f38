/-
Users and the contacts that other users keep of them.  A contact has a list of
emails and a list of phones, and an entry of it may carry the id of a user with
its value.
-/
import SamaServer.OrderedMap
import SamaServer.Pages
import SamaServer.Documents
import SamaServer.SessionStore

namespace SamaServer

/-- The two fields by which users and contacts are matched. -/
inductive ContactField
  | email
  | phone
deriving DecidableEq

namespace ContactField

universe u

/-- A value for each field. -/
def choose {A : Type u} (email phone : A) : ContactField → A
  | .email => email
  | .phone => phone

@[simp] theorem choose_email {A : Type u} (email phone : A) :
    choose email phone .email = email := rfl

@[simp] theorem choose_phone {A : Type u} (email phone : A) :
    choose email phone .phone = phone := rfl

end ContactField

/-! ### Users -/

/-- A user as far as requests about users and contacts read it.  Texts are not
empty, and a field that was never set is missing. -/
structure UserParams where
  organizationId : ObjectId
  login : Identifier
  email : Option Identifier
  phone : Option Identifier
  password : Option Identifier
deriving DecidableEq

namespace UserParams

def value (user : UserParams) : ContactField → Option Identifier :=
  ContactField.choose user.email user.phone

end UserParams

structure UserModel where
  id : ObjectId
  params : UserParams
deriving DecidableEq

/-- When the collection of users takes two texts for the same: it was made with
a collation that ignores case. -/
structure Collation where
  same : Identifier → Identifier → Bool
  refl : ∀ text, same text text = true
  symm : ∀ text other, same text other = true → same other text = true

namespace Collation

/-- The collation that tells all texts apart. -/
def exact : Collation where
  same text other := text = other
  refl _ := decide_eq_true rfl
  symm _ _ hsame := decide_eq_true (of_decide_eq_true hsame).symm

/-- Values of an index that leaves out documents without the field. -/
def sameIndexed (collation : Collation) :
    Option Identifier → Option Identifier → Bool
  | some text, some other => collation.same text other
  | _, _ => false

/-- Values of a query; a missing one is sent as `null` and finds a missing
field. -/
def sameQueried (collation : Collation) :
    Option Identifier → Option Identifier → Bool
  | some text, some other => collation.same text other
  | none, none => true
  | _, _ => false

/-- Two users of one organization with the same login, email or phone, as the
unique indexes and `findRegistered` compare them. -/
def clash (collation : Collation) (user peer : UserParams) : Bool :=
  user.organizationId = peer.organizationId ∧
    (collation.same user.login peer.login ∨
      collation.sameIndexed user.email peer.email ∨
      collation.sameIndexed user.phone peer.phone)

theorem sameIndexed_symm (collation : Collation)
    {value other : Option Identifier}
    (hsame : collation.sameIndexed value other = true) :
    collation.sameIndexed other value = true := by
  cases value with
  | none => simp [sameIndexed] at hsame
  | some text =>
      cases other with
      | none => simp [sameIndexed] at hsame
      | some peer => exact collation.symm text peer hsame

theorem clash_symm (collation : Collation) {user peer : UserParams}
    (hclash : collation.clash user peer = true) :
    collation.clash peer user = true := by
  obtain ⟨horganization, hvalues⟩ := of_decide_eq_true hclash
  refine decide_eq_true ⟨horganization.symm, ?_⟩
  rcases hvalues with hlogin | hemail | hphone
  · exact .inl (collation.symm _ _ hlogin)
  · exact .inr (.inl (collation.sameIndexed_symm hemail))
  · exact .inr (.inr (collation.sameIndexed_symm hphone))

/-- Users of one organization clash when they have the same value. -/
theorem clash_of_value (collation : Collation) {user peer : UserParams}
    {field : ContactField} {text : Identifier}
    (horganization : user.organizationId = peer.organizationId)
    (huser : user.value field = some text)
    (hpeer : peer.value field = some text) :
    collation.clash user peer = true := by
  have hsame : collation.sameIndexed (user.value field) (peer.value field) =
      true := by
    rw [huser, hpeer]
    exact collation.refl text
  refine decide_eq_true ⟨horganization, .inr ?_⟩
  cases field with
  | email => exact .inl hsame
  | phone => exact .inr hsame

end Collation

/-- The collection of users with its unique indexes. -/
structure UserCollection (collation : Collation) where
  documents : OrderedMap ObjectId UserParams
  unique : ∀ id user other peer, documents.get? id = some user →
    documents.get? other = some peer → collation.clash user peer = true →
    id = other

namespace UserCollection

variable {collation : Collation}

def empty : UserCollection collation :=
  ⟨.empty, fun _ _ _ _ huser => by simp at huser⟩

theorem unique_set (users : UserCollection collation) {id : ObjectId}
    {user : UserParams}
    (hfree : ∀ document ∈ users.documents.entries, document.1 ≠ id →
      collation.clash user document.2 = false)
    (first : ObjectId) (userFirst : UserParams) (second : ObjectId)
    (userSecond : UserParams)
    (hfirst : (users.documents.set id user).get? first = some userFirst)
    (hsecond : (users.documents.set id user).get? second = some userSecond)
    (hclash : collation.clash userFirst userSecond = true) :
    first = second := by
  have hother : ∀ other peer, other ≠ id →
      users.documents.get? other = some peer →
      collation.clash user peer ≠ true := by
    intro other peer hne hpeer
    rw [hfree (other, peer)
      ((users.documents.mem_entries_iff other peer).2 hpeer) hne]
    exact Bool.false_ne_true
  rw [OrderedMap.get?_set] at hfirst hsecond
  by_cases hf : first = id
  · by_cases hs : second = id
    · rw [hf, hs]
    · rw [if_pos hf, Option.some_inj] at hfirst
      rw [if_neg hs] at hsecond
      subst hfirst
      exact absurd hclash (hother second userSecond hs hsecond)
  · rw [if_neg hf] at hfirst
    by_cases hs : second = id
    · rw [if_pos hs, Option.some_inj] at hsecond
      subst hsecond
      exact absurd (collation.clash_symm hclash)
        (hother first userFirst hf hfirst)
    · rw [if_neg hs] at hsecond
      exact users.unique first userFirst second userSecond hfirst hsecond
        hclash

/-- Insert or update a document; a duplicate key is refused. -/
def write (users : UserCollection collation) (id : ObjectId)
    (user : UserParams) : Option (UserCollection collation) :=
  if hfree : ∀ document ∈ users.documents.entries, document.1 ≠ id →
      collation.clash user document.2 = false then
    some ⟨users.documents.set id user, users.unique_set hfree⟩
  else none

theorem write_eq_some {users written : UserCollection collation}
    {id : ObjectId} {user : UserParams}
    (hwritten : users.write id user = some written) :
    written.documents = users.documents.set id user := by
  rw [write] at hwritten
  split at hwritten
  · cases hwritten
    rfl
  · cases hwritten

theorem mem_keys_of_write {users written : UserCollection collation}
    {id other : ObjectId} {user : UserParams}
    (hwritten : users.write id user = some written)
    (hother : other ∈ written.documents.keys) :
    other = id ∨ other ∈ users.documents.keys := by
  rw [write_eq_some hwritten] at hother
  exact (OrderedMap.mem_keys_set _ _ _ _).1 hother

def erase (users : UserCollection collation) (id : ObjectId) :
    UserCollection collation :=
  ⟨users.documents.erase id, by
    intro first userFirst second userSecond hfirst hsecond
    rw [OrderedMap.get?_erase] at hfirst hsecond
    split at hfirst
    · cases hfirst
    · split at hsecond
      · cases hsecond
      · exact users.unique first userFirst second userSecond hfirst hsecond⟩

end UserCollection

/-! ### Contacts -/

/-- What `matched_user_id` holds: the id of a user, or something that is the
id of nobody. -/
inductive MatchedId
  | user (id : ObjectId)
  | other
deriving DecidableEq

structure ContactEntry where
  value : Option Identifier
  matchedUserId : Option MatchedId
deriving DecidableEq

structure Contact where
  organizationId : ObjectId
  userId : ObjectId
  email : Option (List ContactEntry)
  phone : Option (List ContactEntry)
deriving DecidableEq

namespace Contact

def entries (contact : Contact) :
    ContactField → Option (List ContactEntry) :=
  ContactField.choose contact.email contact.phone

/-- `$set` of the lists that are given. -/
def set (contact : Contact) (email phone : Option (List ContactEntry)) :
    Contact :=
  { contact with
    email := email.or contact.email
    phone := phone.or contact.phone }

end Contact

structure ContactModel where
  id : ObjectId
  params : Contact
deriving DecidableEq

/-- The values of a request, which are checked to carry nothing else. -/
structure ContactData where
  email : Option (List (Option Identifier))
  phone : Option (List (Option Identifier))

namespace ContactData

def values (data : ContactData) :
    ContactField → Option (List (Option Identifier)) :=
  ContactField.choose data.email data.phone

end ContactData

inductive ContactError
  | orgNotFound
  | organizationBlocked
  | userAlreadyExists
  | userLoginOrPass
  | incorrectCurrentPassword
  | forbidden
  | contactNotFound
  | databaseError
deriving DecidableEq

/-- What neither the requests nor the service decide: the collation of the
users, the order in which a search without a sort finds them, whether a text is
the password of a stored hash, and what an object gives by a name once a user
became its prototype. -/
structure ContactServer where
  collation : Collation
  order : List UserModel → List UserModel
  order_perm : ∀ users, (order users).Perm users
  verifyPassword : Identifier → Identifier → Bool
  inherited : List UserModel → ContactField → Identifier →
    Option MatchedId

namespace ContactServer

/-- A server that tells all texts apart and finds the oldest first. -/
def plain : ContactServer where
  collation := .exact
  order := id
  order_perm := List.Perm.refl
  verifyPassword text other := text = other
  inherited := fun _ _ _ => none

end ContactServer

/-- The two collections.  Every id that was generated is below `nextId`. -/
structure ContactStore (server : ContactServer) where
  users : UserCollection server.collation
  contacts : OrderedMap ObjectId Contact
  nextId : ObjectId
  users_below : ∀ id ∈ users.documents.keys, id < nextId
  contacts_below : ∀ id ∈ contacts.keys, id < nextId

namespace ContactStore

variable {server : ContactServer}

def empty : ContactStore server :=
  ⟨.empty, .empty, 0, by simp [UserCollection.empty, OrderedMap.empty,
    OrderedMap.keys], by simp [OrderedMap.empty, OrderedMap.keys]⟩

/-! ### The repository of users -/

def findUserById (s : ContactStore server) (id : ObjectId) :
    Option UserParams :=
  s.users.documents.get? id

def userModels (s : ContactStore server) : List UserModel :=
  s.users.documents.entries.map (fun (id, params) => ⟨id, params⟩)

/-- Whether `findRegistered` finds a user. -/
def findRegistered (s : ContactStore server) (params : UserParams) : Bool :=
  s.userModels.any (fun user => server.collation.clash params user.params)

def insertUser (s : ContactStore server) (params : UserParams) :
    Option (ContactStore server) :=
  match hwritten : s.users.write s.nextId params with
  | none => none
  | some users => some {
      users := users
      contacts := s.contacts
      nextId := s.nextId + 1
      users_below := by
        intro id hid
        rcases UserCollection.mem_keys_of_write hwritten hid with rfl | hold
        · exact Nat.lt_succ_self _
        · exact Nat.lt_succ_of_lt (s.users_below id hold)
      contacts_below := fun id hid =>
        Nat.lt_succ_of_lt (s.contacts_below id hid) }

/-- The update of a user that is there. -/
def updateUser (s : ContactStore server) (id : ObjectId)
    (params : UserParams) : Option (ContactStore server) :=
  if hid : id ∈ s.users.documents.keys then
    match hwritten : s.users.write id params with
    | none => none
    | some users => some { s with
        users := users
        users_below := by
          intro other hother
          rcases UserCollection.mem_keys_of_write hwritten hother with
            rfl | hold
          · exact s.users_below other hid
          · exact s.users_below other hold }
  else none

def deleteUserById (s : ContactStore server) (id : ObjectId) :
    ContactStore server :=
  { s with
    users := s.users.erase id
    users_below := by
      intro other hother
      apply s.users_below other
      rw [UserCollection.erase, OrderedMap.keys_erase] at hother
      exact List.mem_of_mem_filter hother }

/-- Whether the value of a user is in a list of a query. -/
def isAmong (server : ContactServer)
    (values : Option (List (Option Identifier)))
    (value : Option Identifier) : Bool :=
  (values.getD []).any (server.collation.sameQueried value)

/-- The users of an organization with one of the emails or phones, a hundred at
most.  With no value at all the list of conditions is empty, which the
database refuses. -/
def matchUserContact (s : ContactStore server) (organizationId : ObjectId)
    (emails phones : Option (List (Option Identifier))) :
    Except ContactError (List UserModel) :=
  if (emails.getD []).isEmpty ∧ (phones.getD []).isEmpty then
    .error .databaseError
  else
    .ok ((server.order (s.userModels.filter (fun user =>
      user.params.organizationId = organizationId ∧
        (isAmong server emails user.params.email ∨
          isAmong server phones user.params.phone)))).take 100)

/-! ### The repository of contacts -/

def contactModels (s : ContactStore server) : List ContactModel :=
  s.contacts.entries.map (fun (id, params) => ⟨id, params⟩)

def createContact (s : ContactStore server) (contact : Contact) :
    ContactStore server :=
  { s with
    contacts := s.contacts.set s.nextId contact
    nextId := s.nextId + 1
    users_below := fun id hid => Nat.lt_succ_of_lt (s.users_below id hid)
    contacts_below := by
      intro id hid
      rcases (OrderedMap.mem_keys_set _ _ _ _).1 hid with rfl | hold
      · exact Nat.lt_succ_self _
      · exact Nat.lt_succ_of_lt (s.contacts_below id hold) }

/-- A query for the value of an entry.  A missing value is sent as `null`: it
finds contacts without the list or with an entry without a value. -/
def holdsValue (value : Option Identifier) :
    Option (List ContactEntry) → Bool
  | none => value.isNone
  | some entries => entries.any (fun entry => entry.value = value)

/-- The newest hundred contacts that the query finds.  The email decides
whether the phone is searched, and the phone whether the email is. -/
def findByEmailPhone (s : ContactStore server) (organizationId : ObjectId)
    (email phone : Option Identifier) : List ContactModel :=
  Pages.page ContactModel.id 100 (s.contactModels.filter (fun contact =>
    contact.params.organizationId = organizationId ∧
      (email.isSome ∧ holdsValue phone contact.params.phone ∨
        phone.isSome ∧ holdsValue email contact.params.email)))

def findByIdAndUpdate (s : ContactStore server) (userId contactId : ObjectId)
    (email phone : Option (List ContactEntry)) :
    Option ContactModel × ContactStore server :=
  match hfound : s.contacts.get? contactId with
  | none => (none, s)
  | some contact =>
      if contact.userId = userId then
        (some ⟨contactId, contact.set email phone⟩, { s with
          contacts := s.contacts.set contactId (contact.set email phone)
          contacts_below := by
            intro id hid
            rcases (OrderedMap.mem_keys_set _ _ _ _).1 hid with rfl | hold
            · exact s.contacts_below id
                ((s.contacts.mem_keys_iff id).2 ⟨contact, hfound⟩)
            · exact s.contacts_below id hold })
      else (none, s)

def deleteUserContact (s : ContactStore server)
    (ownerId contactId : ObjectId) : ContactStore server :=
  match s.contacts.get? contactId with
  | none => s
  | some contact =>
      if contact.userId = ownerId then { s with
        contacts := s.contacts.erase contactId
        contacts_below := by
          intro id hid
          apply s.contacts_below id
          rw [OrderedMap.keys_erase] at hid
          exact List.mem_of_mem_filter hid }
      else s

end ContactStore

end SamaServer
