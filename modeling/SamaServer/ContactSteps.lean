/-
The state after each request on users and contacts: the users, and a property
of all entries of all contacts read back in the state before.
-/
import Mathlib.Data.List.Induction
import SamaServer.ContactUpdates

namespace SamaServer

namespace ContactStore

variable {server : ContactServer}

/-! ### Writing users -/

/-- No other user of the organization has the login, the email or the
phone. -/
def Free (s : ContactStore server) (id : ObjectId) (params : UserParams) :
    Prop :=
  ∀ other peer, other ≠ id → s.findUserById other = some peer →
    server.collation.clash params peer = false

theorem forall_documents (s : ContactStore server) (id : ObjectId)
    (params : UserParams) :
    (∀ document ∈ s.users.documents.entries, document.1 ≠ id →
      server.collation.clash params document.2 = false) ↔
      s.Free id params := by
  constructor
  · intro hall other peer hne hpeer
    exact hall (other, peer)
      ((s.users.documents.mem_entries_iff other peer).2 hpeer) hne
  · rintro hfree ⟨other, peer⟩ hdocument hne
    exact hfree other peer hne
      ((s.users.documents.mem_entries_iff other peer).1 hdocument)

theorem free_of_findRegistered {s : ContactStore server} {params : UserParams}
    (hnew : s.findRegistered params = false) (id : ObjectId) :
    s.Free id params := by
  intro other peer _ hpeer
  have hpeers := List.any_eq_false.1 hnew ⟨other, peer⟩
    ((s.mem_userModels other peer).2 hpeer)
  simpa using hpeers

theorem write_of_free {s : ContactStore server} {id : ObjectId}
    {params : UserParams} (hfree : s.Free id params) :
    ∃ users, s.users.write id params = some users := by
  rw [UserCollection.write, dif_pos ((s.forall_documents id params).2 hfree)]
  exact ⟨_, rfl⟩

theorem write_of_not_free {s : ContactStore server} {id : ObjectId}
    {params : UserParams} (hclash : ¬s.Free id params) :
    s.users.write id params = none := by
  rw [UserCollection.write, dif_neg (fun hall =>
    hclash ((s.forall_documents id params).1 hall))]

theorem insertUser_of_free {s : ContactStore server} {params : UserParams}
    (hfree : s.Free s.nextId params) :
    ∃ created, s.insertUser params = some created ∧
      created.users.documents = s.users.documents.set s.nextId params ∧
      created.contacts = s.contacts := by
  obtain ⟨users, hwritten⟩ := write_of_free hfree
  rw [insertUser]
  split
  case h_1 hnone =>
      rw [hwritten] at hnone
      cases hnone
  case h_2 written hwrite =>
      exact ⟨_, rfl, UserCollection.write_eq_some hwrite, rfl⟩

theorem updateUser_of_free {s : ContactStore server} {id : ObjectId}
    {current params : UserParams} (hcurrent : s.findUserById id = some current)
    (hfree : s.Free id params) :
    ∃ written, s.updateUser id params = some written ∧
      written.users.documents = s.users.documents.set id params ∧
      written.contacts = s.contacts := by
  have hid : id ∈ s.users.documents.keys :=
    (s.users.documents.mem_keys_iff id).2 ⟨current, hcurrent⟩
  obtain ⟨users, hwritten⟩ := write_of_free hfree
  rw [updateUser, dif_pos hid]
  split
  case h_1 hnone =>
      rw [hwritten] at hnone
      cases hnone
  case h_2 written hwrite =>
      exact ⟨_, rfl, UserCollection.write_eq_some hwrite, rfl⟩

theorem updateUser_of_not_free {s : ContactStore server} {id : ObjectId}
    {params : UserParams} (hclash : ¬s.Free id params) :
    s.updateUser id params = none := by
  rw [updateUser]
  split
  · split
    case h_1 => rfl
    case h_2 written hwrite =>
        rw [write_of_not_free hclash] at hwrite
        cases hwrite
  · rfl

/-! ### Reading contacts -/

section SameContacts

variable {s t : ContactStore server} (hcontacts : t.contacts = s.contacts)

include hcontacts

theorem reaches_congr (organizationId : ObjectId)
    (email phone : Option Identifier) (contact : ContactModel) :
    t.Reaches organizationId email phone contact ↔
      s.Reaches organizationId email phone contact := by
  simp only [Reaches, findByEmailPhone, contactModels, hcontacts]

theorem forEntries_congr
    (Q : ContactModel → ContactField → ContactEntry → Prop) :
    t.ForEntries Q ↔ s.ForEntries Q := by
  simp only [ForEntries, hcontacts]

end SameContacts

end ContactStore

namespace ContactOperations

open ContactStore ContactService

variable {server : ContactServer} {s : ContactStore server}

/-! ### Requests on users -/

/-- The organization takes users, and none has the login, email or phone. -/
def CreatesUser (s : ContactStore server)
    (organization : Option Organization) (params : UserParams) : Prop :=
  organization = some ⟨false⟩ ∧ s.findRegistered params = false

theorem createUser_refused {organization : Option Organization}
    {params : UserParams} (hrefused : ¬CreatesUser s organization params) :
    (createUser organization params s).2 = s := by
  cases organization with
  | none => rfl
  | some found =>
      obtain ⟨isBlocked⟩ := found
      cases isBlocked with
      | true => rfl
      | false =>
          cases hregistered : s.findRegistered params with
          | true => simp [createUser, hregistered]
          | false => exact absurd ⟨rfl, hregistered⟩ hrefused

theorem createUser_accepted {organization : Option Organization}
    {params : UserParams} (haccepted : CreatesUser s organization params) :
    (createUser organization params s).2.users.documents =
        s.users.documents.set s.nextId params ∧
      ∀ Q, (createUser organization params s).2.AllEntries Q ↔
        s.ForEntries (fun contact field entry =>
          Q contact.params.organizationId field
            (if (params.email.isSome ∧ params.phone.isSome) ∧
                s.Reaches params.organizationId params.email params.phone
                  contact then
              entryOnCreate s.nextId (params.value field) entry
            else entry)) := by
  obtain ⟨rfl, hnew⟩ := haccepted
  obtain ⟨created, hinsert, husers, hcontacts⟩ :=
    insertUser_of_free (free_of_findRegistered hnew s.nextId)
  have hafter : (createUser (some ⟨false⟩) params s).2 =
      matchUserWithContactOnCreate created params.organizationId s.nextId
        params.phone params.email := by
    simp [createUser, hnew, hinsert]
  rw [hafter]
  constructor
  · rw [matchUserWithContactOnCreate, users_search, husers]
  · intro Q
    rw [allEntries_onCreate, forEntries_congr hcontacts]
    simp only [reaches_congr hcontacts]
    rfl

/-- The user is there, the password is right if one is changed, and no other
user has the new login, email or phone. -/
def EditsUser (s : ContactStore server) (userId : ObjectId)
    (update : UserUpdate) (current : UserParams) : Prop :=
  s.findUserById userId = some current ∧
    validatePassword server current update = true ∧
    s.Free userId (update.apply current)

theorem forall_editsUser {userId : ObjectId} {update : UserUpdate}
    {current : UserParams} (haccepted : EditsUser s userId update current)
    (P : UserParams → Prop) :
    (∀ other, EditsUser s userId update other → P other) ↔ P current := by
  constructor
  · intro hall
    exact hall current haccepted
  · intro hcurrent other hother
    have hsame : current = other :=
      Option.some.inj (haccepted.1.symm.trans hother.1)
    rw [← hsame]
    exact hcurrent

theorem editUser_refused {userId : ObjectId} {update : UserUpdate}
    (hrefused : ∀ current, ¬EditsUser s userId update current) :
    (editUser userId update s).2 = s := by
  rw [editUser]
  split
  · rfl
  case h_2 current hcurrent =>
      split
      case isTrue hpassword =>
          have hclash : ¬s.Free userId (update.apply current) := fun hfree =>
            hrefused current ⟨hcurrent, hpassword, hfree⟩
          simp [updateUser_of_not_free hclash]
      · rfl

theorem editUser_accepted {userId : ObjectId} {update : UserUpdate}
    {current : UserParams} (haccepted : EditsUser s userId update current) :
    (editUser userId update s).2.users.documents =
        s.users.documents.set userId (update.apply current) ∧
      ∀ Q, (editUser userId update s).2.AllEntries Q ↔
        s.ForEntries (fun contact field entry =>
          Q contact.params.organizationId field
            (if ((update.apply current).email.isSome ∧
                  current.email.isSome ∨
                (update.apply current).phone.isSome ∧
                  current.phone.isSome) ∧
                s.Reaches current.organizationId (update.apply current).email
                  (update.apply current).phone contact then
              entryOnUpdate userId (current.value field)
                ((update.apply current).value field) entry
            else entry)) := by
  obtain ⟨hcurrent, hpassword, hfree⟩ := haccepted
  obtain ⟨written, hupdate, husers, hcontacts⟩ :=
    updateUser_of_free hcurrent hfree
  have hafter : (editUser userId update s).2 =
      matchUserWithContactOnUpdate written current.organizationId userId
        (update.apply current).phone (update.apply current).email
        current.phone current.email := by
    simp only [editUser, hcurrent, hpassword, hupdate, ↓reduceIte]
    rfl
  rw [hafter]
  constructor
  · rw [matchUserWithContactOnUpdate, users_search, husers]
  · intro Q
    rw [allEntries_onUpdate, forEntries_congr hcontacts]
    simp only [reaches_congr hcontacts]
    rfl

theorem deleteUser_refused {userId : ObjectId}
    (hrefused : s.findUserById userId = none) :
    (deleteUser userId s).2 = s := by
  simp [deleteUser, hrefused]

theorem deleteUser_accepted {userId : ObjectId} {user : UserParams}
    (huser : s.findUserById userId = some user) :
    (deleteUser userId s).2.users.documents =
        s.users.documents.erase userId ∧
      ∀ Q, (deleteUser userId s).2.AllEntries Q ↔
        s.ForEntries (fun contact field entry =>
          Q contact.params.organizationId field
            (if (user.email.isSome ∧ user.phone.isSome) ∧
                s.Reaches user.organizationId user.email user.phone
                  contact then
              entryOnDelete (user.value field) entry
            else entry)) := by
  have hafter : (deleteUser userId s).2 =
      (matchUserWithContactOnDelete s user.organizationId user.phone
        user.email).deleteUserById userId := by
    simp [deleteUser, huser]
  rw [hafter]
  constructor
  · have husers : (matchUserWithContactOnDelete s user.organizationId
        user.phone user.email).users = s.users := users_search _ s
    simp [deleteUserById, UserCollection.erase, husers]
  · intro Q
    exact allEntries_onDelete s user.organizationId user.phone user.email

/-! ### Requests on contacts -/

/-- A property of the entries that a request writes, with the users that are
found for it. -/
def ForNew (s : ContactStore server) (organizationId : ObjectId)
    (data : ContactData) (Q : ContactField → ContactEntry → Prop) : Prop :=
  ∀ found, s.matchUserContact organizationId data.email data.phone =
      .ok found →
    ∀ field, ∀ value ∈ (data.values field).getD [],
      Q field ⟨value, foundUsersObj server found field value⟩

theorem forNew_congr {t : ContactStore server} (husers : t.users = s.users)
    (organizationId : ObjectId) (data : ContactData)
    (Q : ContactField → ContactEntry → Prop) :
    ForNew t organizationId data Q ↔ ForNew s organizationId data Q := by
  simp only [ForNew, matchUserContact, userModels, husers]

/-- The request gives no value, which the search for users refuses. -/
def hasNoValue (data : ContactData) : Bool :=
  (data.email.getD []).isEmpty ∧ (data.phone.getD []).isEmpty

theorem matchUserContact_of_hasNoValue {data : ContactData}
    (hempty : hasNoValue data = true) (organizationId : ObjectId) :
    s.matchUserContact organizationId data.email data.phone =
      .error .databaseError :=
  if_pos (of_decide_eq_true hempty)

theorem matchUserContact_of_value {data : ContactData}
    (hvalue : hasNoValue data = false) (organizationId : ObjectId) :
    ∃ found, s.matchUserContact organizationId data.email data.phone =
      .ok found :=
  ⟨_, if_neg (of_decide_eq_false hvalue)⟩

/-- The lists that a request writes, if it is not refused. -/
theorem matchContactWithUser_cases (s : ContactStore server)
    (organizationId : ObjectId) (data : ContactData) :
    (∃ error, matchContactWithUser s organizationId data = .error error ∧
        hasNoValue data = true) ∨
      ∃ email phone,
        matchContactWithUser s organizationId data = .ok (email, phone) ∧
        ∀ Q, (∀ field,
            ∀ entry ∈ (ContactField.choose email phone field).getD [],
              Q field entry) ↔
          ForNew s organizationId data Q := by
  by_cases hmissing : data.email = none ∧ data.phone = none
  · have hvalues : ∀ field, data.values field = none := by
      intro field
      cases field with
      | email => exact hmissing.1
      | phone => exact hmissing.2
    have hnone : ∀ field, ContactField.choose
        (none : Option (List ContactEntry)) none field = none := by
      intro field
      cases field <;> rfl
    refine .inr ⟨none, none, if_pos hmissing, fun Q => ?_⟩
    simp [ForNew, hnone, hvalues]
  · cases hempty : hasNoValue data with
    | true =>
        refine .inl ⟨.databaseError, ?_, rfl⟩
        rw [matchContactWithUser, if_neg hmissing,
          matchUserContact_of_hasNoValue hempty]
        rfl
    | false =>
        obtain ⟨found, hfound⟩ :=
          matchUserContact_of_value (s := s) hempty organizationId
        have hlist : ∀ field, ContactField.choose
            (data.email.map (matchEntries server found .email))
            (data.phone.map (matchEntries server found .phone)) field =
              (data.values field).map (matchEntries server found field) := by
          intro field
          cases field <;> rfl
        refine .inr ⟨data.email.map (matchEntries server found .email),
          data.phone.map (matchEntries server found .phone), ?_, ?_⟩
        · rw [matchContactWithUser, if_neg hmissing, hfound]
          rfl
        · intro Q
          simp only [ForNew, hfound, Except.ok.injEq, forall_eq', hlist]
          refine forall_congr' (fun field => ?_)
          cases data.values field with
          | none => simp
          | some values => simp [matchEntries]

/-- The contacts after an insertion. -/
theorem allEntries_createContact (contact : Contact)
    (Q : ObjectId → ContactField → ContactEntry → Prop) :
    (s.createContact contact).AllEntries Q ↔
      s.AllEntries Q ∧ ∀ field, ∀ entry ∈ contact.list field,
        Q contact.organizationId field entry := by
  have hget : ∀ id, (s.createContact contact).contacts.get? id =
      if id = s.nextId then some contact else s.contacts.get? id :=
    fun id => OrderedMap.get?_set s.contacts s.nextId id contact
  constructor
  · intro hall
    constructor
    · intro id old hold
      have hne : id ≠ s.nextId := by
        intro heq
        rw [heq, s.get?_contacts_nextId] at hold
        cases hold
      exact hall id old (by rw [hget, if_neg hne, hold])
    · exact hall s.nextId contact (by rw [hget, if_pos rfl])
  · rintro ⟨hold, hnew⟩ id after hafter
    rw [hget] at hafter
    by_cases hid : id = s.nextId
    · rw [if_pos hid, Option.some_inj] at hafter
      subst hafter
      exact hnew
    · rw [if_neg hid] at hafter
      exact hold id after hafter

theorem users_singleAdd (organizationId userId : ObjectId)
    (data : ContactData) :
    (singleAdd organizationId userId data s).2.users = s.users := by
  rw [singleAdd]
  split <;> rfl

theorem allEntries_singleAdd (organizationId userId : ObjectId)
    (data : ContactData)
    (Q : ObjectId → ContactField → ContactEntry → Prop) :
    (singleAdd organizationId userId data s).2.AllEntries Q ↔
      s.AllEntries Q ∧
        ForNew s organizationId data (Q organizationId) := by
  rcases matchContactWithUser_cases s organizationId data with
    ⟨error, herror, hempty⟩ | ⟨email, phone, hok, hentries⟩
  · have hvacuous : ForNew s organizationId data (Q organizationId) := by
      intro found hfound
      rw [matchUserContact_of_hasNoValue hempty] at hfound
      cases hfound
    simp [singleAdd, herror, hvacuous]
  · simp only [singleAdd, hok]
    rw [allEntries_createContact, ← hentries]
    rfl

/-- The contacts of a batch that are stored: those with both lists, up to the
first without a value. -/
def stored (contactsData : List ContactData) : List ContactData :=
  (contactsData.filter (fun data =>
    data.email.isSome && data.phone.isSome)).takeWhile
      (fun data => !hasNoValue data)

theorem singleAdd_of_hasNoValue {data : ContactData}
    (hemail : data.email ≠ none) (hempty : hasNoValue data = true)
    (organizationId userId : ObjectId) :
    singleAdd organizationId userId data s = (.error .databaseError, s) := by
  have hmissing : ¬(data.email = none ∧ data.phone = none) :=
    fun hnone => hemail hnone.1
  rw [singleAdd, matchContactWithUser, if_neg hmissing,
    matchUserContact_of_hasNoValue hempty]
  rfl

theorem singleAdd_of_value {data : ContactData}
    (hvalue : hasNoValue data = false) (organizationId userId : ObjectId) :
    ∃ contact, (singleAdd organizationId userId data s).1 = .ok contact := by
  rcases matchContactWithUser_cases s organizationId data with
    ⟨error, -, hempty⟩ | ⟨email, phone, hok, -⟩
  · rw [hvalue] at hempty
    cases hempty
  · simp [singleAdd, hok]

theorem batchAdd_cons_of_value {data : ContactData}
    (hemail : data.email ≠ none) (hphone : data.phone ≠ none)
    (hvalue : hasNoValue data = false) (organizationId userId : ObjectId)
    (contactsData : List ContactData) :
    (batchAdd organizationId userId (data :: contactsData) s).2 =
      (batchAdd organizationId userId contactsData
        (singleAdd organizationId userId data s).2).2 := by
  obtain ⟨contact, hcontact⟩ :=
    singleAdd_of_value (s := s) hvalue organizationId userId
  rw [batchAdd, if_neg (by simp [hemail, hphone])]
  split
  case h_1 error after hadd => simp [hadd] at hcontact
  case h_2 added after hadd => rw [hadd]

/-- A batch is added by skipping, stopping and adding. -/
theorem batchAdd_induction (organizationId userId : ObjectId)
    {P : List ContactData → ContactStore server → ContactStore server → Prop}
    (hnil : ∀ s, P [] s s)
    (hskip : ∀ data rest s after, data.email = none ∨ data.phone = none →
      P rest s after → P (data :: rest) s after)
    (hstop : ∀ data rest s, ¬(data.email = none ∨ data.phone = none) →
      hasNoValue data = true → P (data :: rest) s s)
    (hadd : ∀ data rest s after, ¬(data.email = none ∨ data.phone = none) →
      hasNoValue data = false →
      P rest (singleAdd organizationId userId data s).2 after →
      P (data :: rest) s after)
    (contactsData : List ContactData) (s : ContactStore server) :
    P contactsData s (batchAdd organizationId userId contactsData s).2 := by
  induction contactsData generalizing s with
  | nil => exact hnil s
  | cons data contactsData ih =>
      by_cases hmissing : data.email = none ∨ data.phone = none
      · rw [batchAdd, if_pos hmissing]
        exact hskip data contactsData s _ hmissing (ih s)
      · obtain ⟨hemail, hphone⟩ := not_or.1 hmissing
        cases hempty : hasNoValue data with
        | true =>
            rw [batchAdd, if_neg hmissing,
              singleAdd_of_hasNoValue hemail hempty]
            exact hstop data contactsData s hmissing hempty
        | false =>
            rw [batchAdd_cons_of_value hemail hphone hempty]
            exact hadd data contactsData s _ hmissing hempty (ih _)

theorem users_batchAdd (organizationId userId : ObjectId)
    (contactsData : List ContactData) (s : ContactStore server) :
    (batchAdd organizationId userId contactsData s).2.users = s.users := by
  refine batchAdd_induction organizationId userId
    (P := fun _ before after => after.users = before.users) (fun _ => rfl)
    (fun _ _ _ _ _ hrest => hrest) (fun _ _ _ _ _ => rfl) ?_ contactsData s
  intro data rest before after _ _ hrest
  exact hrest.trans (users_singleAdd organizationId userId data)

theorem stored_cons_of_missing {data : ContactData}
    (hmissing : data.email = none ∨ data.phone = none)
    (contactsData : List ContactData) :
    stored (data :: contactsData) = stored contactsData := by
  rcases hmissing with hemail | hphone
  · simp [stored, hemail]
  · simp [stored, hphone]

theorem stored_cons_of_both {data : ContactData}
    (hboth : ¬(data.email = none ∨ data.phone = none))
    (contactsData : List ContactData) :
    stored (data :: contactsData) =
      if hasNoValue data then [] else data :: stored contactsData := by
  obtain ⟨hemail, hphone⟩ := not_or.1 hboth
  cases hempty : hasNoValue data with
  | true =>
      simp [stored, Option.isSome_iff_ne_none, hemail, hphone, hempty]
  | false =>
      simp [stored, Option.isSome_iff_ne_none, hemail, hphone, hempty]

theorem allEntries_batchAdd (organizationId userId : ObjectId)
    (contactsData : List ContactData) (s : ContactStore server)
    (Q : ObjectId → ContactField → ContactEntry → Prop) :
    (batchAdd organizationId userId contactsData s).2.AllEntries Q ↔
      s.AllEntries Q ∧ ∀ data ∈ stored contactsData,
        ForNew s organizationId data (Q organizationId) := by
  refine batchAdd_induction organizationId userId
    (P := fun list before after => after.AllEntries Q ↔
      before.AllEntries Q ∧ ∀ data ∈ stored list,
        ForNew before organizationId data (Q organizationId))
    (fun _ => by simp [stored]) ?_ ?_ ?_ contactsData s
  · intro data rest before after hmissing hrest
    rw [stored_cons_of_missing hmissing]
    exact hrest
  · intro data rest before hboth hempty
    rw [stored_cons_of_both hboth, if_pos hempty]
    simp
  · intro data rest before after hboth hvalue hrest
    rw [stored_cons_of_both hboth, hvalue, hrest, allEntries_singleAdd,
      and_assoc]
    simp only [forNew_congr (users_singleAdd organizationId userId data),
      Bool.false_eq_true, ↓reduceIte, List.forall_mem_cons]

/-- The user has the contact. -/
def OwnsContact (s : ContactStore server) (userId contactId : ObjectId) :
    Prop :=
  ∃ contact, s.contacts.get? contactId = some contact ∧
    contact.userId = userId

theorem list_set (contact : Contact)
    (email phone : Option (List ContactEntry)) (field : ContactField) :
    (contact.set email phone).list field =
      (ContactField.choose email phone field).getD (contact.list field) := by
  cases field with
  | email => cases email <;> rfl
  | phone => cases phone <;> rfl

theorem editContact_state {organizationId userId contactId : ObjectId}
    {data : ContactData} {email phone : Option (List ContactEntry)}
    (hok : matchContactWithUser s organizationId data = .ok (email, phone)) :
    (editContact organizationId userId contactId data s).2 =
      (s.findByIdAndUpdate userId contactId email phone).2 := by
  simp only [editContact, hok]
  split
  case h_1 after hupdate => rw [hupdate]
  case h_2 contact after hupdate => rw [hupdate]

theorem users_editContact (organizationId userId contactId : ObjectId)
    (data : ContactData) :
    (editContact organizationId userId contactId data s).2.users =
      s.users := by
  rcases matchContactWithUser_cases s organizationId data with
    ⟨error, herror, -⟩ | ⟨email, phone, hok, -⟩
  · simp [editContact, herror]
  · rw [editContact_state hok]
    exact users_findByIdAndUpdate s userId contactId email phone

/-- An update of a contact that is stored in the organization of its
user. -/
theorem allEntries_editContact {organizationId userId contactId : ObjectId}
    (data : ContactData)
    {Q : ObjectId → ContactField → ContactEntry → Prop}
    (hlocated : ∀ contact, s.contacts.get? contactId = some contact →
      contact.userId = userId → contact.organizationId = organizationId)
    (hall : s.AllEntries Q) :
    (editContact organizationId userId contactId data s).2.AllEntries Q ↔
      (OwnsContact s userId contactId →
        ForNew s organizationId data (Q organizationId)) := by
  rcases matchContactWithUser_cases s organizationId data with
    ⟨error, herror, hempty⟩ | ⟨email, phone, hok, hentries⟩
  · have hvacuous : ForNew s organizationId data (Q organizationId) := by
      intro found hfound
      rw [matchUserContact_of_hasNoValue hempty] at hfound
      cases hfound
    simp [editContact, herror, hvacuous, hall]
  · have hget := get?_findByIdAndUpdate s userId contactId email phone
    rw [editContact_state hok, ← hentries]
    constructor
    · rintro hafter ⟨contact, hcontact, howner⟩ field entry hentry
      have hnew := hget contactId
      rw [hcontact, Option.map_some, if_pos ⟨rfl, howner⟩] at hnew
      rw [← hlocated contact hcontact howner]
      refine hafter contactId _ hnew field entry ?_
      rw [list_set]
      cases hlist : ContactField.choose email phone field with
      | none => simp [hlist] at hentry
      | some entries => simpa [hlist] using hentry
    · intro hnew id after hafter field entry hentry
      rw [hget, Option.map_eq_some_iff] at hafter
      obtain ⟨contact, hcontact, rfl⟩ := hafter
      by_cases hedited : id = contactId ∧ contact.userId = userId
      · obtain ⟨rfl, howner⟩ := hedited
        rw [if_pos ⟨rfl, howner⟩] at hentry ⊢
        rw [list_set] at hentry
        cases hlist : ContactField.choose email phone field with
        | none =>
            rw [hlist] at hentry
            exact hall id contact hcontact field entry hentry
        | some entries =>
            rw [hlist] at hentry
            have horganization := hlocated contact hcontact howner
            have hwritten := hnew ⟨contact, hcontact, howner⟩ field entry
              (by rw [hlist]; exact hentry)
            rw [← horganization] at hwritten
            exact hwritten
      · rw [if_neg hedited] at hentry ⊢
        exact hall id contact hcontact field entry hentry

theorem get?_deleteUserContact (ownerId contactId id : ObjectId)
    {contact : Contact}
    (hcontact : (s.deleteUserContact ownerId contactId).contacts.get? id =
      some contact) : s.contacts.get? id = some contact := by
  rw [deleteUserContact] at hcontact
  split at hcontact
  · exact hcontact
  · split at hcontact
    · rw [OrderedMap.get?_erase] at hcontact
      split at hcontact
      · cases hcontact
      · exact hcontact
    · exact hcontact

theorem users_deleteUserContact (ownerId contactId : ObjectId) :
    (s.deleteUserContact ownerId contactId).users = s.users := by
  rw [deleteUserContact]
  split
  · rfl
  · split <;> rfl

end ContactOperations

/-! ### The organization of a contact -/

namespace ContactStore

variable {server : ContactServer}

/-- Every contact after is one from before, of the same user. -/
def SameOwners (s t : ContactStore server) : Prop :=
  ∀ id contact, t.contacts.get? id = some contact →
    ∃ old, s.contacts.get? id = some old ∧
      contact.organizationId = old.organizationId ∧
      contact.userId = old.userId

theorem SameOwners.of_contacts {s t : ContactStore server}
    (hcontacts : t.contacts = s.contacts) : SameOwners s t := by
  intro id contact hcontact
  rw [hcontacts] at hcontact
  exact ⟨contact, hcontact, rfl, rfl⟩

theorem SameOwners.trans {s t u : ContactStore server}
    (hfirst : SameOwners s t) (hsecond : SameOwners t u) :
    SameOwners s u := by
  intro id contact hcontact
  obtain ⟨middle, hmiddle, horganization, huser⟩ :=
    hsecond id contact hcontact
  obtain ⟨old, hold, holdOrganization, holdUser⟩ := hfirst id middle hmiddle
  exact ⟨old, hold, horganization.trans holdOrganization,
    huser.trans holdUser⟩

/-- Every contact is in the organization of its user's sessions. -/
def Located (organizationOf : ObjectId → ObjectId)
    (s : ContactStore server) : Prop :=
  ∀ id contact, s.contacts.get? id = some contact →
    contact.organizationId = organizationOf contact.userId

theorem SameOwners.located {organizationOf : ObjectId → ObjectId}
    {s t : ContactStore server} (hsame : SameOwners s t)
    (hlocated : s.Located organizationOf) : t.Located organizationOf := by
  intro id contact hcontact
  obtain ⟨old, hold, horganization, huser⟩ := hsame id contact hcontact
  rw [horganization, huser]
  exact hlocated id old hold

end ContactStore

namespace ContactRequest

open ContactStore ContactService ContactOperations

variable {server : ContactServer} {organizationOf : ObjectId → ObjectId}

theorem sameOwners_findByIdAndUpdate (s : ContactStore server)
    (userId contactId : ObjectId)
    (email phone : Option (List ContactEntry)) :
    SameOwners s (s.findByIdAndUpdate userId contactId email phone).2 := by
  intro id contact hcontact
  rw [get?_findByIdAndUpdate, Option.map_eq_some_iff] at hcontact
  obtain ⟨old, hold, rfl⟩ := hcontact
  refine ⟨old, hold, ?_⟩
  split
  · exact ⟨rfl, rfl⟩
  · exact ⟨rfl, rfl⟩

theorem sameOwners_updateContacts
    (onField : ContactField →
      Option (List ContactEntry → List ContactEntry))
    (contacts : List ContactModel) (s : ContactStore server) :
    SameOwners s (updateContacts onField contacts s) := by
  induction contacts generalizing s with
  | nil => exact .of_contacts rfl
  | cons contact contacts ih =>
      refine SameOwners.trans ?_ (ih (updateContact onField s contact))
      rw [updateContact]
      split
      · exact sameOwners_findByIdAndUpdate s _ _ _ _
      · exact .of_contacts rfl

/-- A search made under a condition. -/
theorem sameOwners_search {searches : Prop} [Decidable searches]
    (onField : ContactField →
      Option (List ContactEntry → List ContactEntry))
    (contacts : List ContactModel) (s : ContactStore server) :
    SameOwners s (if searches then updateContacts onField contacts s
      else s) := by
  split
  · exact sameOwners_updateContacts onField contacts s
  · exact .of_contacts rfl

theorem sameOwners_createUser (organization : Option Organization)
    (params : UserParams) (s : ContactStore server) :
    SameOwners s (createUser organization params s).2 := by
  by_cases haccepted : CreatesUser s organization params
  · obtain ⟨rfl, hnew⟩ := haccepted
    obtain ⟨created, hinsert, -, hcontacts⟩ :=
      insertUser_of_free (free_of_findRegistered hnew s.nextId)
    simp only [createUser, hnew, hinsert, Bool.false_eq_true, ↓reduceIte]
    exact (SameOwners.of_contacts hcontacts).trans
      (sameOwners_search _ _ created)
  · rw [createUser_refused haccepted]
    exact .of_contacts rfl

theorem sameOwners_editUser (userId : ObjectId) (update : UserUpdate)
    (s : ContactStore server) :
    SameOwners s (editUser userId update s).2 := by
  by_cases haccepted : ∃ current, EditsUser s userId update current
  · obtain ⟨current, hcurrent, hpassword, hfree⟩ := haccepted
    obtain ⟨written, hupdate, -, hcontacts⟩ :=
      updateUser_of_free hcurrent hfree
    simp only [editUser, hcurrent, hpassword, hupdate, ↓reduceIte]
    exact (SameOwners.of_contacts hcontacts).trans
      (sameOwners_search _ _ written)
  · rw [editUser_refused (not_exists.1 haccepted)]
    exact .of_contacts rfl

theorem sameOwners_deleteUser (userId : ObjectId)
    (s : ContactStore server) : SameOwners s (deleteUser userId s).2 := by
  rw [deleteUser]
  split
  · exact .of_contacts rfl
  · exact (sameOwners_search _ _ s).trans (.of_contacts rfl)

theorem located_createContact {s : ContactStore server}
    (hlocated : s.Located organizationOf) {contact : Contact}
    (hcontact : contact.organizationId = organizationOf contact.userId) :
    (s.createContact contact).Located organizationOf := by
  intro id other hother
  rw [createContact, OrderedMap.get?_set] at hother
  split at hother
  · cases hother
    exact hcontact
  · exact hlocated id other hother

theorem located_singleAdd {s : ContactStore server}
    (hlocated : s.Located organizationOf) (userId : ObjectId)
    (data : ContactData) :
    (singleAdd (organizationOf userId) userId data s).2.Located
      organizationOf := by
  rw [singleAdd]
  split
  · exact hlocated
  · exact located_createContact hlocated rfl

theorem located_batchAdd {s : ContactStore server}
    (hlocated : s.Located organizationOf) (userId : ObjectId)
    (contactsData : List ContactData) :
    (batchAdd (organizationOf userId) userId contactsData s).2.Located
      organizationOf := by
  refine batchAdd_induction (organizationOf userId) userId
    (P := fun _ before after => before.Located organizationOf →
      after.Located organizationOf) (fun _ => id)
    (fun _ _ _ _ _ hrest => hrest) (fun _ _ _ _ _ => id) ?_ contactsData s
    hlocated
  intro data rest before after _ _ hrest hbefore
  exact hrest (located_singleAdd hbefore userId data)

theorem located_step {s : ContactStore server}
    (hlocated : s.Located organizationOf) (request : ContactRequest) :
    (step organizationOf s request).Located organizationOf := by
  cases request with
  | userCreate organization params =>
      exact (sameOwners_createUser organization params s).located hlocated
  | userEdit userId update =>
      exact (sameOwners_editUser userId update s).located hlocated
  | userDelete userId =>
      exact (sameOwners_deleteUser userId s).located hlocated
  | contactAdd userId data => exact located_singleAdd hlocated userId data
  | contactBatchAdd userId contactsData =>
      exact located_batchAdd hlocated userId contactsData
  | contactUpdate userId contactId data =>
      refine SameOwners.located ?_ hlocated
      rcases matchContactWithUser_cases s (organizationOf userId) data with
        ⟨error, herror, -⟩ | ⟨email, phone, hok, -⟩
      · exact .of_contacts (by simp [step, editContact, herror])
      · rw [step, editContact_state hok]
        exact sameOwners_findByIdAndUpdate s userId contactId email phone
  | contactDelete userId contactId =>
      exact fun id contact hcontact => hlocated id contact
        (get?_deleteUserContact userId contactId id hcontact)

/-- The contacts of a run are in the organizations of their users. -/
theorem located_run (requests : List ContactRequest) :
    (requests.foldl (step organizationOf)
      (empty : ContactStore server)).Located organizationOf := by
  induction requests using List.reverseRecOn with
  | nil =>
      intro id contact hcontact
      simp [empty] at hcontact
  | append_singleton requests request ih =>
      rw [List.foldl_append]
      exact located_step ih request

end ContactRequest

end SamaServer
