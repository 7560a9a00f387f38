/-
The users that a request on a contact finds, and the names under which their
ids are kept until they are written into the entries.
-/
import SamaServer.ContactSteps

namespace SamaServer

namespace ContactOperations

open ContactStore ContactService

variable {server : ContactServer}

/-- No name stands for two values: the value of an entry and the values of the
users are not `__proto__`, and a user that is written like the value has it.
Where a value is missing, or the text `undefined`, no user lacks the field. -/
def PlainValue (found : List UserModel) (field : ContactField)
    (value : Option Identifier) : Prop :=
  value ≠ some protoText ∧ ∀ user ∈ found,
    user.params.value field ≠ some protoText ∧
      (propertyName (user.params.value field) = propertyName value →
        value ≠ none ∧ user.params.value field = value)

def PlainData (s : ContactStore server) (organizationId : ObjectId)
    (data : ContactData) : Prop :=
  ∀ found, s.matchUserContact organizationId data.email data.phone =
      .ok found →
    ∀ field, ∀ value ∈ (data.values field).getD [],
      PlainValue found field value

/-- Values with plain names find the last user that has them. -/
theorem foundUsersObj_plain {found : List UserModel} {field : ContactField}
    {value : Option Identifier} (hplain : PlainValue found field value) :
    foundUsersObj server found field value =
      ((found.filter (fun user => value ≠ none ∧
        user.params.value field = value)).getLast?).map
          (fun user => .user user.id) := by
  obtain ⟨hvalue, husers⟩ := hplain
  have hproto : found.any (fun user =>
      user.params.value field = some protoText) = false := by
    rw [List.any_eq_false]
    intro user huser
    simpa using (husers user huser).1
  have hfilter : found.filter (fun user =>
      propertyName (user.params.value field) = propertyName value) =
        found.filter (fun user => value ≠ none ∧
          user.params.value field = value) := by
    refine List.filter_congr (fun user huser => ?_)
    rw [decide_eq_decide]
    exact ⟨(husers user huser).2, fun hsame => congrArg propertyName hsame.2⟩
  have hname : propertyName value ≠ protoText := by
    cases value with
    | none => decide
    | some text =>
        intro heq
        exact hvalue (congrArg some heq)
  rw [foundUsersObj, hproto, hfilter]
  simp only [Bool.false_eq_true, ↓reduceIte, hname]
  split
  case h_1 user hlast =>
      rw [hlast]
      rfl
  case h_2 hnone =>
      rw [hnone]
      rfl

theorem mem_matchUserContact {s : ContactStore server}
    {organizationId : ObjectId}
    {emails phones : Option (List (Option Identifier))}
    {found : List UserModel}
    (hfound : s.matchUserContact organizationId emails phones = .ok found)
    {user : UserModel} (huser : user ∈ found) :
    s.findUserById user.id = some user.params ∧
      user.params.organizationId = organizationId := by
  rw [matchUserContact] at hfound
  split at hfound
  · cases hfound
  · cases hfound
    have hmem := (server.order_perm _).mem_iff.1 (List.mem_of_mem_take huser)
    rw [List.mem_filter] at hmem
    exact ⟨(s.mem_userModels user.id user.params).1 hmem.1,
      (of_decide_eq_true hmem.2).1⟩

end ContactOperations

namespace ContactRequest

open ContactStore ContactService ContactOperations

variable {server : ContactServer} (organizationOf : ObjectId → ObjectId)

/-- The contacts that a request writes have plain names. -/
def PlainNames (s : ContactStore server) : ContactRequest → Prop
  | .contactAdd userId data => PlainData s (organizationOf userId) data
  | .contactBatchAdd userId contactsData =>
      ∀ data ∈ stored contactsData, PlainData s (organizationOf userId) data
  | .contactUpdate userId contactId data =>
      OwnsContact s userId contactId →
        PlainData s (organizationOf userId) data
  | _ => True

end ContactRequest

end SamaServer
