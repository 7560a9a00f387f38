/-
The matching of users and contacts.  A contact that is added or changed looks
for the users with its values; a user that is created, edited or deleted looks
for the contacts with its email or phone.
-/
import SamaServer.ContactStore

namespace SamaServer

/-! ### The contact service -/

/-- How a value is written as the name of a property. -/
def propertyName (value : Option Identifier) : Identifier :=
  value.getD undefinedText

/-- The name by which an object's prototype is read and written. -/
def protoText : Identifier := ⟨"__proto__", by decide⟩

namespace ContactService

open ContactStore

variable {server : ContactServer}

/-- What the object of the found users gives for the value of an entry.  Later
users replace earlier ones of the same name.  Every object has a prototype
under `__proto__`, and a user of that name becomes the prototype. -/
def foundUsersObj (server : ContactServer) (foundUsersList : List UserModel)
    (field : ContactField) (value : Option Identifier) : Option MatchedId :=
  if foundUsersList.any (fun user =>
      user.params.value field = some protoText) then
    server.inherited foundUsersList field (propertyName value)
  else
    match (foundUsersList.filter (fun user =>
        propertyName (user.params.value field) =
          propertyName value)).getLast? with
    | some user => some (.user user.id)
    | none =>
        if propertyName value = protoText then some .other else none

def matchEntries (server : ContactServer) (foundUsersList : List UserModel)
    (field : ContactField) (values : List (Option Identifier)) :
    List ContactEntry :=
  values.map (fun value =>
    ⟨value, foundUsersObj server foundUsersList field value⟩)

/-- The lists of a request with the ids of the users that have the values. -/
def matchContactWithUser (s : ContactStore server)
    (organizationId : ObjectId) (data : ContactData) :
    Except ContactError
      (Option (List ContactEntry) × Option (List ContactEntry)) :=
  if data.email = none ∧ data.phone = none then .ok (none, none)
  else
    (s.matchUserContact organizationId data.email data.phone).map
      (fun foundUsersList =>
        (data.email.map (matchEntries server foundUsersList .email),
          data.phone.map (matchEntries server foundUsersList .phone)))

def updateFieldOnCreate (userId : ObjectId) (value : Identifier)
    (data : List ContactEntry) : List ContactEntry :=
  data.map (fun entry =>
    if entry.value = some value then
      { entry with matchedUserId := some (.user userId) }
    else entry)

/-- An entry with the old value gets the new one. -/
def updateFieldOnUpdate (userId : ObjectId) (oldValue : Option Identifier)
    (value : Identifier) (data : List ContactEntry) : List ContactEntry :=
  data.map (fun entry =>
    let renamed :=
      if entry.value = oldValue then { entry with value := some value }
      else entry
    if renamed.value = some value then
      { renamed with matchedUserId := some (.user userId) }
    else renamed)

def updateFieldOnDelete (value : Identifier) (data : List ContactEntry) :
    List ContactEntry :=
  data.map (fun entry =>
    if entry.value = some value then { entry with matchedUserId := none }
    else entry)

/-- A rewriting of the lists of a contact that has both of them. -/
def updateContact
    (onField : ContactField →
      Option (List ContactEntry → List ContactEntry))
    (s : ContactStore server) (contact : ContactModel) :
    ContactStore server :=
  match contact.params.email, contact.params.phone with
  | some email, some phone =>
      (s.findByIdAndUpdate contact.params.userId contact.id
        ((onField .email).map (· email)) ((onField .phone).map (· phone))).2
  | _, _ => s

/-- The loop over the contacts that a search found. -/
def updateContacts
    (onField : ContactField →
      Option (List ContactEntry → List ContactEntry))
    (contacts : List ContactModel) (s : ContactStore server) :
    ContactStore server :=
  contacts.foldl (updateContact onField) s

def matchUserWithContactOnCreate (s : ContactStore server)
    (organizationId userId : ObjectId) (phone email : Option Identifier) :
    ContactStore server :=
  if email.isSome ∧ phone.isSome then
    updateContacts (ContactField.choose
        (email.map (updateFieldOnCreate userId))
        (phone.map (updateFieldOnCreate userId)))
      (s.findByEmailPhone organizationId email phone) s
  else s

def matchUserWithContactOnUpdate (s : ContactStore server)
    (organizationId userId : ObjectId)
    (phone email oldPhone oldEmail : Option Identifier) :
    ContactStore server :=
  if email.isSome ∧ oldEmail.isSome ∨ phone.isSome ∧ oldPhone.isSome then
    updateContacts (ContactField.choose
        (email.map (updateFieldOnUpdate userId oldEmail))
        (phone.map (updateFieldOnUpdate userId oldPhone)))
      (s.findByEmailPhone organizationId email phone) s
  else s

def matchUserWithContactOnDelete (s : ContactStore server)
    (organizationId : ObjectId) (phone email : Option Identifier) :
    ContactStore server :=
  if email.isSome ∧ phone.isSome then
    updateContacts (ContactField.choose (email.map updateFieldOnDelete)
        (phone.map updateFieldOnDelete))
      (s.findByEmailPhone organizationId email phone) s
  else s

end ContactService

/-! ### Requests -/

structure Organization where
  isBlocked : Bool
deriving DecidableEq

/-- The fields of an edit; `$set` leaves out what is not given. -/
structure UserUpdate where
  login : Option Identifier
  email : Option Identifier
  phone : Option Identifier
  currentPassword : Option Identifier
  newPassword : Option Identifier

namespace UserUpdate

def apply (update : UserUpdate) (user : UserParams) : UserParams :=
  { user with
    login := update.login.getD user.login
    email := update.email.or user.email
    phone := update.phone.or user.phone
    password := update.newPassword.or user.password }

end UserUpdate

namespace ContactOperations

open ContactStore ContactService

variable {server : ContactServer}

/-- `user_create`, with the organization as it is at that time. -/
def createUser (organization : Option Organization) (params : UserParams)
    (s : ContactStore server) :
    Except ContactError ObjectId × ContactStore server :=
  match organization with
  | none => (.error .orgNotFound, s)
  | some organization =>
      if organization.isBlocked then (.error .organizationBlocked, s)
      else if s.findRegistered params then (.error .userAlreadyExists, s)
      else
        match s.insertUser params with
        | none => (.error .databaseError, s)
        | some created => (.ok s.nextId, matchUserWithContactOnCreate created
            params.organizationId s.nextId params.phone params.email)

/-- Whether the current password allows a new one. -/
def validatePassword (server : ContactServer) (user : UserParams)
    (update : UserUpdate) : Bool :=
  update.newPassword.isNone || update.currentPassword.any (fun current =>
    user.password.any (server.verifyPassword current))

/-- `user_edit`. -/
def editUser (userId : ObjectId) (update : UserUpdate)
    (s : ContactStore server) :
    Except ContactError Unit × ContactStore server :=
  match s.findUserById userId with
  | none => (.error .userLoginOrPass, s)
  | some current =>
      if validatePassword server current update then
        let updated := update.apply current
        match s.updateUser userId updated with
        | none => (.error .userAlreadyExists, s)
        | some written => (.ok (), matchUserWithContactOnUpdate written
            updated.organizationId userId updated.phone updated.email
            current.phone current.email)
      else (.error .incorrectCurrentPassword, s)

/-- `user_delete`. -/
def deleteUser (userId : ObjectId) (s : ContactStore server) :
    Except ContactError Unit × ContactStore server :=
  match s.findUserById userId with
  | none => (.error .forbidden, s)
  | some user => (.ok (), (matchUserWithContactOnDelete s
      user.organizationId user.phone user.email).deleteUserById userId)

/-- `contact_add`. -/
def singleAdd (organizationId currentUserId : ObjectId) (data : ContactData)
    (s : ContactStore server) :
    Except ContactError ContactModel × ContactStore server :=
  match matchContactWithUser s organizationId data with
  | .error error => (.error error, s)
  | .ok (email, phone) =>
      let contact := ⟨organizationId, currentUserId, email, phone⟩
      (.ok ⟨s.nextId, contact⟩, s.createContact contact)

/-- `contact_batch_add`: contacts without one of the lists are skipped. -/
def batchAdd (organizationId currentUserId : ObjectId) :
    List ContactData → ContactStore server →
      Except ContactError (List ContactModel) × ContactStore server
  | [], s => (.ok [], s)
  | data :: contactsData, s =>
      if data.email = none ∨ data.phone = none then
        batchAdd organizationId currentUserId contactsData s
      else
        match singleAdd organizationId currentUserId data s with
        | (.error error, after) => (.error error, after)
        | (.ok contact, after) =>
            let (result, final) :=
              batchAdd organizationId currentUserId contactsData after
            (result.map (fun contacts => contact :: contacts), final)

/-- `contact_update`.  A text that is not an id finds no contact. -/
def editContact (organizationId currentUserId contactId : ObjectId)
    (data : ContactData) (s : ContactStore server) :
    Except ContactError ContactModel × ContactStore server :=
  match matchContactWithUser s organizationId data with
  | .error error => (.error error, s)
  | .ok (email, phone) =>
      match s.findByIdAndUpdate currentUserId contactId email phone with
      | (none, after) => (.error .contactNotFound, after)
      | (some contact, after) => (.ok contact, after)

end ContactOperations

/-- The requests that write users or contacts.  The sessions of a user are in
the organization that the user was created in. -/
inductive ContactRequest
  | userCreate (organization : Option Organization) (params : UserParams)
  | userEdit (userId : ObjectId) (update : UserUpdate)
  | userDelete (userId : ObjectId)
  | contactAdd (userId : ObjectId) (data : ContactData)
  | contactBatchAdd (userId : ObjectId) (contactsData : List ContactData)
  | contactUpdate (userId contactId : ObjectId) (data : ContactData)
  | contactDelete (userId contactId : ObjectId)

namespace ContactRequest

open ContactOperations

variable {server : ContactServer} (organizationOf : ObjectId → ObjectId)

/-- The collections after a request, with the organization of each user's
sessions. -/
def step (s : ContactStore server) : ContactRequest → ContactStore server
  | .userCreate organization params => (createUser organization params s).2
  | .userEdit userId update => (editUser userId update s).2
  | .userDelete userId => (deleteUser userId s).2
  | .contactAdd userId data =>
      (singleAdd (organizationOf userId) userId data s).2
  | .contactBatchAdd userId contactsData =>
      (batchAdd (organizationOf userId) userId contactsData s).2
  | .contactUpdate userId contactId data =>
      (editContact (organizationOf userId) userId contactId data s).2
  | .contactDelete userId contactId => s.deleteUserContact userId contactId

end ContactRequest

end SamaServer
