/-
What a request does to the entries of all contacts.  A change of a user
rewrites the entries of the contacts that its search reaches; a change of a
contact writes the entries of one contact.
-/
import SamaServer.ContactOperations

namespace SamaServer

/-! ### Reading the collections -/

namespace Contact

/-- The entries of a field, none if the list is missing. -/
def list (contact : Contact) (field : ContactField) : List ContactEntry :=
  (contact.entries field).getD []

def HasBoth (contact : Contact) : Prop :=
  contact.email.isSome ∧ contact.phone.isSome

instance (contact : Contact) : Decidable contact.HasBoth :=
  inferInstanceAs (Decidable (_ ∧ _))

end Contact

namespace ContactStore

variable {server : ContactServer}

theorem mem_userModels (s : ContactStore server) (id : ObjectId)
    (user : UserParams) :
    ⟨id, user⟩ ∈ s.userModels ↔ s.findUserById id = some user := by
  rw [findUserById, ← OrderedMap.mem_entries_iff]
  simp [userModels]

theorem mem_contactModels (s : ContactStore server) (contact : ContactModel) :
    contact ∈ s.contactModels ↔
      s.contacts.get? contact.id = some contact.params := by
  obtain ⟨id, params⟩ := contact
  rw [← OrderedMap.mem_entries_iff]
  simp [contactModels]

theorem contactModels_nodup (s : ContactStore server) :
    (s.contactModels.map ContactModel.id).Nodup := by
  have hids : s.contactModels.map ContactModel.id = s.contacts.keys := by
    simp [contactModels, OrderedMap.keys, Function.comp_def]
  rw [hids]
  exact s.contacts.keys_nodup

theorem findUserById_nextId (s : ContactStore server) :
    s.findUserById s.nextId = none := by
  rw [Option.eq_none_iff_forall_ne_some]
  intro user huser
  exact absurd (s.users_below s.nextId
    ((s.users.documents.mem_keys_iff s.nextId).2 ⟨user, huser⟩))
    (Nat.lt_irrefl s.nextId)

theorem get?_contacts_nextId (s : ContactStore server) :
    s.contacts.get? s.nextId = none := by
  rw [Option.eq_none_iff_forall_ne_some]
  intro contact hcontact
  exact absurd (s.contacts_below s.nextId
    ((s.contacts.mem_keys_iff s.nextId).2 ⟨contact, hcontact⟩))
    (Nat.lt_irrefl s.nextId)

theorem mem_findByEmailPhone {s : ContactStore server}
    {organizationId : ObjectId} {email phone : Option Identifier}
    {contact : ContactModel}
    (hfound : contact ∈ s.findByEmailPhone organizationId email phone) :
    s.contacts.get? contact.id = some contact.params ∧
      contact.params.organizationId = organizationId := by
  have hmem := List.mem_filter.1 (Pages.mem_of_mem_page hfound)
  exact ⟨(s.mem_contactModels contact).1 hmem.1,
    (of_decide_eq_true hmem.2).1⟩

theorem findByEmailPhone_nodup (s : ContactStore server)
    (organizationId : ObjectId) (email phone : Option Identifier) :
    ((s.findByEmailPhone organizationId email phone).map
      ContactModel.id).Nodup := by
  have hfilter := s.contactModels_nodup.sublist
    ((List.filter_sublist (p := fun contact : ContactModel =>
      decide (contact.params.organizationId = organizationId ∧
        (email.isSome ∧ holdsValue phone contact.params.phone ∨
          phone.isSome ∧ holdsValue email contact.params.email)))).map
      ContactModel.id)
  have hperm := ((Pages.descending_perm ContactModel.id
    (s.contactModels.filter _)).map ContactModel.id).nodup_iff.2 hfilter
  exact hperm.sublist ((List.take_sublist _ _).map ContactModel.id)

end ContactStore

/-! ### The loop over the contacts of a search -/

namespace Contact

/-- A change of every entry. -/
def rewrite (onEntry : ContactField → ContactEntry → ContactEntry)
    (contact : Contact) : Contact :=
  { contact with
    email := contact.email.map (List.map (onEntry .email))
    phone := contact.phone.map (List.map (onEntry .phone)) }

variable (onEntry : ContactField → ContactEntry → ContactEntry)

@[simp] theorem organizationId_rewrite (contact : Contact) :
    (contact.rewrite onEntry).organizationId = contact.organizationId := rfl

theorem list_rewrite (contact : Contact) (field : ContactField) :
    (contact.rewrite onEntry).list field =
      (contact.list field).map (onEntry field) := by
  cases field with
  | email =>
      cases hlist : contact.email <;>
        simp [list, entries, rewrite, hlist]
  | phone =>
      cases hlist : contact.phone <;>
        simp [list, entries, rewrite, hlist]

end Contact

namespace ContactService

open ContactStore

variable {server : ContactServer}
  {onField : ContactField → Option (List ContactEntry → List ContactEntry)}
  {onEntry : ContactField → ContactEntry → ContactEntry}

/-- A rewriting of lists that changes entry by entry. -/
def Entrywise
    (onField : ContactField →
      Option (List ContactEntry → List ContactEntry))
    (onEntry : ContactField → ContactEntry → ContactEntry) : Prop :=
  ∀ field data, ((onField field).map (· data)).getD data =
    data.map (onEntry field)

theorem users_findByIdAndUpdate (s : ContactStore server)
    (userId contactId : ObjectId) (email phone : Option (List ContactEntry)) :
    (s.findByIdAndUpdate userId contactId email phone).2.users =
      s.users := by
  rw [findByIdAndUpdate]
  split
  · rfl
  · split <;> rfl

theorem get?_findByIdAndUpdate (s : ContactStore server)
    (userId contactId : ObjectId) (email phone : Option (List ContactEntry))
    (id : ObjectId) :
    (s.findByIdAndUpdate userId contactId email phone).2.contacts.get? id =
      (s.contacts.get? id).map (fun contact =>
        if id = contactId ∧ contact.userId = userId then
          contact.set email phone
        else contact) := by
  rw [findByIdAndUpdate]
  by_cases hid : id = contactId
  · subst hid
    split
    case h_1 hnone => simp [hnone]
    case h_2 contact hcontact =>
        by_cases howner : contact.userId = userId
        · simp [hcontact, howner]
        · simp [hcontact, howner]
  · simp only [hid, false_and, ↓reduceIte, Option.map_id']
    split
    · rfl
    · split
      · simp [hid]
      · rfl

theorem users_updateContact (s : ContactStore server)
    (contact : ContactModel) :
    (updateContact onField s contact).users = s.users := by
  rw [updateContact]
  split
  · exact users_findByIdAndUpdate s _ _ _ _
  · rfl

theorem users_updateContacts (contacts : List ContactModel)
    (s : ContactStore server) :
    (updateContacts onField contacts s).users = s.users := by
  induction contacts generalizing s with
  | nil => rfl
  | cons contact contacts ih =>
      exact (ih (updateContact onField s contact)).trans
        (users_updateContact s contact)

/-- A loop that is made under a condition. -/
theorem users_search {searches : Prop} [Decidable searches]
    (contacts : List ContactModel) (s : ContactStore server) :
    (if searches then updateContacts onField contacts s else s).users =
      s.users := by
  split
  · exact users_updateContacts contacts s
  · rfl

/-- One turn of the loop, for a contact as it is stored. -/
theorem get?_updateContact (hentries : Entrywise onField onEntry)
    {s : ContactStore server} {contact : ContactModel}
    (hcontact : s.contacts.get? contact.id = some contact.params)
    (id : ObjectId) :
    (updateContact onField s contact).contacts.get? id =
      if id = contact.id ∧ contact.params.HasBoth then
        some (contact.params.rewrite onEntry)
      else s.contacts.get? id := by
  rw [updateContact]
  split
  case h_1 email phone hemail hphone =>
      have hboth : contact.params.HasBoth := by
        simp [Contact.HasBoth, hemail, hphone]
      rw [get?_findByIdAndUpdate]
      by_cases hid : id = contact.id
      · have hset : contact.params.set ((onField .email).map (· email))
            ((onField .phone).map (· phone)) =
              contact.params.rewrite onEntry := by
          simp [Contact.set, Contact.rewrite, hemail, hphone,
            hentries .email email, hentries .phone phone]
        simp [hid, hboth, hcontact, hset]
      · simp [hid]
  case h_2 hmissing =>
      have hboth : ¬contact.params.HasBoth := by
        rintro ⟨hemail, hphone⟩
        obtain ⟨email, hemail⟩ := Option.isSome_iff_exists.1 hemail
        obtain ⟨phone, hphone⟩ := Option.isSome_iff_exists.1 hphone
        exact hmissing email phone hemail hphone
      simp [hboth]

/-- The whole loop rewrites the contacts that were found and have both
lists. -/
theorem get?_updateContacts (hentries : Entrywise onField onEntry)
    {contacts : List ContactModel} {s : ContactStore server}
    (hfound : ∀ contact ∈ contacts,
      s.contacts.get? contact.id = some contact.params)
    (hnodup : (contacts.map ContactModel.id).Nodup) (id : ObjectId) :
    (updateContacts onField contacts s).contacts.get? id =
      (s.contacts.get? id).map (fun contact =>
        if ⟨id, contact⟩ ∈ contacts ∧ contact.HasBoth then
          contact.rewrite onEntry
        else contact) := by
  induction contacts generalizing s with
  | nil => simp [updateContacts]
  | cons head contacts ih =>
      rw [List.map_cons, List.nodup_cons] at hnodup
      have hhead := hfound head List.mem_cons_self
      have hturn := get?_updateContact hentries hhead
      have hrest : ∀ contact ∈ contacts,
          (updateContact onField s head).contacts.get? contact.id =
            some contact.params := by
        intro contact hcontact
        have hne : contact.id ≠ head.id := fun heq =>
          hnodup.1 (heq ▸ List.mem_map_of_mem hcontact)
        simp [hturn, hne, hfound contact (List.mem_cons_of_mem head hcontact)]
      have hloop : (updateContacts onField (head :: contacts) s).contacts.get?
          id = ((updateContact onField s head).contacts.get? id).map
            (fun contact => if ⟨id, contact⟩ ∈ contacts ∧ contact.HasBoth
              then contact.rewrite onEntry else contact) :=
        ih hrest hnodup.2
      rw [hloop, hturn]
      by_cases hid : id = head.id
      · subst hid
        have hnew : ∀ contact : Contact, ⟨head.id, contact⟩ ∉ contacts :=
          fun contact hmem => hnodup.1 (List.mem_map.2 ⟨_, hmem, rfl⟩)
        by_cases hboth : head.params.HasBoth
        · simp [hhead, hboth, hnew]
        · simp [hhead, hboth, hnew]
      · have hother : ∀ contact : Contact, (⟨id, contact⟩ : ContactModel) ≠
            head := fun contact heq => hid (congrArg ContactModel.id heq)
        simp [hid, hother]

end ContactService

/-! ### Changes of users -/

namespace ContactStore

variable {server : ContactServer}

/-- A property of the entries of all contacts. -/
def ForEntries (s : ContactStore server)
    (Q : ContactModel → ContactField → ContactEntry → Prop) : Prop :=
  ∀ id contact, s.contacts.get? id = some contact →
    ∀ field, ∀ entry ∈ contact.list field, Q ⟨id, contact⟩ field entry

/-- A property that depends on the organization of the contact only. -/
def AllEntries (s : ContactStore server)
    (Q : ObjectId → ContactField → ContactEntry → Prop) : Prop :=
  s.ForEntries (fun contact => Q contact.params.organizationId)

theorem AllEntries.iff_of {s : ContactStore server}
    {H : ObjectId → ContactField → ContactEntry → Prop}
    {P Q : ContactModel → ContactField → ContactEntry → Prop}
    (hall : s.AllEntries H)
    (hpoint : ∀ contact field entry,
      H contact.params.organizationId field entry →
      (P contact field entry ↔ Q contact field entry)) :
    s.ForEntries P ↔ s.ForEntries Q := by
  constructor
  · intro hp id contact hcontact field entry hentry
    exact (hpoint _ field entry (hall id contact hcontact field entry
      hentry)).1 (hp id contact hcontact field entry hentry)
  · intro hq id contact hcontact field entry hentry
    exact (hpoint _ field entry (hall id contact hcontact field entry
      hentry)).2 (hq id contact hcontact field entry hentry)

/-- The contact is among the newest hundred that hold the phone or the email,
and has both lists. -/
def Reaches (s : ContactStore server) (organizationId : ObjectId)
    (email phone : Option Identifier) (contact : ContactModel) : Prop :=
  contact ∈ s.findByEmailPhone organizationId email phone ∧
    contact.params.HasBoth

instance (s : ContactStore server) (organizationId : ObjectId)
    (email phone : Option Identifier) (contact : ContactModel) :
    Decidable (s.Reaches organizationId email phone contact) :=
  inferInstanceAs (Decidable (_ ∧ _))

theorem Reaches.organizationId_eq {s : ContactStore server}
    {organizationId : ObjectId} {email phone : Option Identifier}
    {contact : ContactModel}
    (hreached : s.Reaches organizationId email phone contact) :
    contact.params.organizationId = organizationId :=
  (mem_findByEmailPhone hreached.1).2

end ContactStore

namespace ContactService

open ContactStore

variable {server : ContactServer} (s : ContactStore server)
  (organizationId userId : ObjectId)
  {Q : ObjectId → ContactField → ContactEntry → Prop}

/-- A search that is made under a condition, and the loop over what it
finds. -/
theorem allEntries_updateContacts
    {onField : ContactField → Option (List ContactEntry → List ContactEntry)}
    {onEntry : ContactField → ContactEntry → ContactEntry}
    (hentries : Entrywise onField onEntry) (email phone : Option Identifier)
    (searches : Prop) [Decidable searches] :
    (if searches then updateContacts onField
        (s.findByEmailPhone organizationId email phone) s
      else s).AllEntries Q ↔
      s.ForEntries (fun contact field entry =>
        Q contact.params.organizationId field
          (if searches ∧ s.Reaches organizationId email phone contact then
            onEntry field entry
          else entry)) := by
  by_cases hsearches : searches
  · simp only [hsearches, ↓reduceIte, true_and]
    have hget : ∀ id, (updateContacts onField (s.findByEmailPhone
        organizationId email phone) s).contacts.get? id =
          (s.contacts.get? id).map (fun contact =>
            if s.Reaches organizationId email phone ⟨id, contact⟩ then
              contact.rewrite onEntry
            else contact) :=
      get?_updateContacts hentries
        (fun contact hcontact => (mem_findByEmailPhone hcontact).1)
        (s.findByEmailPhone_nodup organizationId email phone)
    constructor
    · intro hall id contact hcontact field entry hentry
      have hafter := hget id
      rw [hcontact, Option.map_some] at hafter
      by_cases hreached : s.Reaches organizationId email phone ⟨id, contact⟩
      · rw [if_pos hreached] at hafter ⊢
        refine hall id _ hafter field _ ?_
        rw [Contact.list_rewrite]
        exact List.mem_map_of_mem hentry
      · rw [if_neg hreached] at hafter ⊢
        exact hall id contact hafter field entry hentry
    · intro hall id after hafter field entry hentry
      rw [hget, Option.map_eq_some_iff] at hafter
      obtain ⟨contact, hcontact, rfl⟩ := hafter
      have hbefore := hall id contact hcontact field
      by_cases hreached : s.Reaches organizationId email phone ⟨id, contact⟩
      · rw [if_pos hreached] at hentry ⊢
        rw [Contact.list_rewrite, List.mem_map] at hentry
        obtain ⟨old, hold, rfl⟩ := hentry
        simpa only [hreached, ↓reduceIte, Contact.organizationId_rewrite]
          using hbefore old hold
      · rw [if_neg hreached] at hentry ⊢
        simpa only [hreached, ↓reduceIte] using hbefore entry hentry
  · simp only [hsearches, ↓reduceIte, false_and]
    rfl

/-- An entry after a user was created with the value. -/
def entryOnCreate (value : Option Identifier) (entry : ContactEntry) :
    ContactEntry :=
  if value.isSome ∧ entry.value = value then
    { entry with matchedUserId := some (.user userId) }
  else entry

/-- An entry after the value of a user was changed. -/
def entryOnUpdate (oldValue value : Option Identifier)
    (entry : ContactEntry) : ContactEntry :=
  if value.isSome ∧ (entry.value = oldValue ∨ entry.value = value) then
    ⟨value, some (.user userId)⟩
  else entry

/-- An entry after the user with the value was deleted. -/
def entryOnDelete (value : Option Identifier) (entry : ContactEntry) :
    ContactEntry :=
  if value.isSome ∧ entry.value = value then
    { entry with matchedUserId := none }
  else entry

theorem map_updateFieldOnCreate (value : Option Identifier)
    (data : List ContactEntry) :
    ((value.map (updateFieldOnCreate userId)).map (· data)).getD data =
      data.map (entryOnCreate userId value) := by
  cases value with
  | none =>
      exact (List.map_id'' (fun entry => by simp [entryOnCreate]) data).symm
  | some text => simp [entryOnCreate, updateFieldOnCreate]

theorem map_updateFieldOnUpdate (oldValue value : Option Identifier)
    (data : List ContactEntry) :
    ((value.map (updateFieldOnUpdate userId oldValue)).map
        (· data)).getD data =
      data.map (entryOnUpdate userId oldValue value) := by
  cases value with
  | none =>
      exact (List.map_id'' (fun entry => by simp [entryOnUpdate]) data).symm
  | some text =>
      simp only [Option.map_some, Option.getD_some, updateFieldOnUpdate]
      refine List.map_congr_left (fun entry _ => ?_)
      by_cases hold : entry.value = oldValue
      · simp [entryOnUpdate, hold]
      · by_cases hnew : entry.value = some text
        · rw [hnew] at hold
          simp [entryOnUpdate, hold, hnew]
        · simp [entryOnUpdate, hold, hnew]

theorem map_updateFieldOnDelete (value : Option Identifier)
    (data : List ContactEntry) :
    ((value.map updateFieldOnDelete).map (· data)).getD data =
      data.map (entryOnDelete value) := by
  cases value with
  | none =>
      exact (List.map_id'' (fun entry => by simp [entryOnDelete]) data).symm
  | some text => simp [entryOnDelete, updateFieldOnDelete]

theorem allEntries_onCreate (phone email : Option Identifier) :
    (matchUserWithContactOnCreate s organizationId userId phone
        email).AllEntries Q ↔
      s.ForEntries (fun contact field entry =>
        Q contact.params.organizationId field
          (if (email.isSome ∧ phone.isSome) ∧
              s.Reaches organizationId email phone contact then
            entryOnCreate userId (ContactField.choose email phone field) entry
          else entry)) := by
  refine allEntries_updateContacts s organizationId (fun field data => ?_)
    email phone _
  cases field with
  | email => exact map_updateFieldOnCreate userId email data
  | phone => exact map_updateFieldOnCreate userId phone data

theorem allEntries_onUpdate
    (phone email oldPhone oldEmail : Option Identifier) :
    (matchUserWithContactOnUpdate s organizationId userId phone email
        oldPhone oldEmail).AllEntries Q ↔
      s.ForEntries (fun contact field entry =>
        Q contact.params.organizationId field
          (if (email.isSome ∧ oldEmail.isSome ∨
                phone.isSome ∧ oldPhone.isSome) ∧
              s.Reaches organizationId email phone contact then
            entryOnUpdate userId
              (ContactField.choose oldEmail oldPhone field)
              (ContactField.choose email phone field) entry
          else entry)) := by
  refine allEntries_updateContacts s organizationId (fun field data => ?_)
    email phone _
  cases field with
  | email => exact map_updateFieldOnUpdate userId oldEmail email data
  | phone => exact map_updateFieldOnUpdate userId oldPhone phone data

theorem allEntries_onDelete (phone email : Option Identifier) :
    (matchUserWithContactOnDelete s organizationId phone email).AllEntries
        Q ↔
      s.ForEntries (fun contact field entry =>
        Q contact.params.organizationId field
          (if (email.isSome ∧ phone.isSome) ∧
              s.Reaches organizationId email phone contact then
            entryOnDelete (ContactField.choose email phone field) entry
          else entry)) := by
  refine allEntries_updateContacts s organizationId (fun field data => ?_)
    email phone _
  cases field with
  | email => exact map_updateFieldOnDelete email data
  | phone => exact map_updateFieldOnDelete phone data

end ContactService

end SamaServer
