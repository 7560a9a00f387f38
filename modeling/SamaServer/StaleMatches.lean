/-
Entries of contacts that carry the id of a user.  In a run they all name users
that have their value, exactly when every edit and every deletion of a user
reaches the contacts that carry its id.
-/
import SamaServer.FoundUsers
import SamaServer.Runs

namespace SamaServer

namespace ContactStore

open ContactService ContactOperations

variable {server : ContactServer}

/-- If the entry carries an id, a user of the organization has the id and the
value. -/
def FreshEntry (users : OrderedMap ObjectId UserParams)
    (organizationId : ObjectId) (field : ContactField)
    (entry : ContactEntry) : Prop :=
  ∀ matched, entry.matchedUserId = some matched →
    ∃ id user text, matched = .user id ∧ users.get? id = some user ∧
      user.organizationId = organizationId ∧ entry.value = some text ∧
      user.value field = some text

/-- No entry of a contact is stale. -/
def NotStale (s : ContactStore server) : Prop :=
  s.AllEntries (FreshEntry s.users.documents)

variable {users : OrderedMap ObjectId UserParams} {organizationId : ObjectId}
  {field : ContactField} {entry : ContactEntry}

/-- An entry that carries the id of a user that has its value. -/
theorem freshEntry_of_value {id : ObjectId} {user : UserParams}
    {value : Option Identifier} (hvalue : value.isSome)
    (huser : users.get? id = some user)
    (horganization : user.organizationId = organizationId)
    (hsame : user.value field = value) :
    FreshEntry users organizationId field ⟨value, some (.user id)⟩ := by
  obtain ⟨text, rfl⟩ := Option.isSome_iff_exists.1 hvalue
  intro matched hmatched
  cases hmatched
  exact ⟨id, user, text, rfl, huser, horganization, rfl, hsame⟩

/-- Users other than the one of the entry do not matter. -/
theorem FreshEntry.of_get? {others : OrderedMap ObjectId UserParams}
    (hfresh : FreshEntry users organizationId field entry)
    (hkept : ∀ id user, entry.matchedUserId = some (.user id) →
      users.get? id = some user → others.get? id = some user) :
    FreshEntry others organizationId field entry := by
  intro matched hmatched
  obtain ⟨id, user, text, rfl, huser, hrest⟩ := hfresh matched hmatched
  exact ⟨id, user, text, rfl, hkept id user hmatched huser, hrest⟩

theorem freshEntry_onCreate {newId : ObjectId} {params : UserParams}
    (hnew : users.get? newId = none)
    (hfresh : FreshEntry users organizationId field entry)
    (searched : Prop) [Decidable searched]
    (horganization : searched → params.organizationId = organizationId) :
    FreshEntry (users.set newId params) organizationId field
      (if searched then entryOnCreate newId (params.value field) entry
        else entry) := by
  have hkept : FreshEntry (users.set newId params) organizationId field
      entry := by
    refine hfresh.of_get? (fun id user _ huser => ?_)
    have hne : id ≠ newId := by
      rintro rfl
      rw [hnew] at huser
      cases huser
    simp [hne, huser]
  by_cases hsearched : searched
  · rw [if_pos hsearched, entryOnCreate]
    split
    case isTrue hvalue =>
        rw [hvalue.2]
        exact freshEntry_of_value hvalue.1 (by simp)
          (horganization hsearched) rfl
    · exact hkept
  · rw [if_neg hsearched]
    exact hkept

/-- After an edit, an entry of the user is fresh if it was rewritten or the
value did not change. -/
theorem freshEntry_onUpdate {userId : ObjectId} {current updated : UserParams}
    (hcurrent : users.get? userId = some current)
    (hsame : updated.organizationId = current.organizationId)
    (hkept : ∀ field, (current.value field).isSome →
      (updated.value field).isSome)
    (hfresh : FreshEntry users organizationId field entry)
    (searches reached : Prop) [Decidable searches] [Decidable reached]
    (hsearches : (current.value field).isSome → searches)
    (horganization : reached → current.organizationId = organizationId) :
    FreshEntry (users.set userId updated) organizationId field
        (if searches ∧ reached then
          entryOnUpdate userId (current.value field) (updated.value field)
            entry
        else entry) ↔
      (entry.matchedUserId = some (.user userId) →
        current.value field ≠ updated.value field → reached) := by
  have hupdated : (users.set userId updated).get? userId = some updated := by
    simp
  by_cases hmine : entry.matchedUserId = some (.user userId)
  · obtain ⟨id, user, text, hid, huser, hcontact, hvalue, hold⟩ :=
      hfresh _ hmine
    cases hid
    rw [hcurrent, Option.some_inj] at huser
    subst huser
    have hsome : (current.value field).isSome := by simp [hold]
    by_cases hreached : reached
    · refine iff_of_true ?_ (fun _ _ => hreached)
      rw [if_pos ⟨hsearches hsome, hreached⟩, entryOnUpdate,
        if_pos ⟨hkept field hsome, .inl (hvalue.trans hold.symm)⟩]
      exact freshEntry_of_value (hkept field hsome) hupdated
        (hsame.trans hcontact) rfl
    · rw [if_neg (fun hboth => hreached hboth.2)]
      constructor
      · intro hafter _ hchanged
        obtain ⟨other, user, found, hother, huser, -, hentry, hnow⟩ :=
          hafter _ hmine
        cases hother
        rw [hupdated, Option.some_inj] at huser
        subst huser
        exact absurd (hold.trans (hvalue.symm.trans
          (hentry.trans hnow.symm))) hchanged
      · intro hunchanged matched hmatched
        rw [hmine, Option.some_inj] at hmatched
        have hnow : current.value field = updated.value field :=
          not_not.1 (fun hchanged => hreached (hunchanged hmine hchanged))
        exact ⟨userId, updated, text, hmatched.symm, hupdated,
          hsame.trans hcontact, hvalue, hnow.symm.trans hold⟩
  · refine iff_of_true ?_ (fun hmatched => absurd hmatched hmine)
    have hother : FreshEntry (users.set userId updated) organizationId field
        entry := by
      refine hfresh.of_get? (fun id user hmatched huser => ?_)
      have hne : id ≠ userId := fun heq => hmine (heq ▸ hmatched)
      simp [hne, huser]
    split
    case isTrue hboth =>
        rw [entryOnUpdate]
        split
        case isTrue hvalue =>
            exact freshEntry_of_value hvalue.1 hupdated
              (hsame.trans (horganization hboth.2)) rfl
        · exact hother
    · exact hother

/-- After a deletion, an entry of the user is fresh if it was rewritten. -/
theorem freshEntry_onDelete {userId : ObjectId} {user : UserParams}
    (huser : users.get? userId = some user)
    (hfresh : FreshEntry users organizationId field entry)
    (searched : Prop) [Decidable searched] :
    FreshEntry (users.erase userId) organizationId field
        (if searched then entryOnDelete (user.value field) entry
          else entry) ↔
      (entry.matchedUserId = some (.user userId) → searched) := by
  by_cases hmine : entry.matchedUserId = some (.user userId)
  · obtain ⟨id, found, text, hid, hfound, -, hvalue, hold⟩ := hfresh _ hmine
    cases hid
    rw [huser, Option.some_inj] at hfound
    subst hfound
    by_cases hsearched : searched
    · refine iff_of_true ?_ (fun _ => hsearched)
      rw [if_pos hsearched, entryOnDelete,
        if_pos ⟨by simp [hold], hvalue.trans hold.symm⟩]
      intro matched hmatched
      cases hmatched
    · refine iff_of_false ?_ (fun hall => hsearched (hall hmine))
      rw [if_neg hsearched]
      intro hafter
      obtain ⟨other, found, -, hother, hfound, -⟩ := hafter _ hmine
      cases hother
      simp at hfound
  · refine iff_of_true ?_ (fun hmatched => absurd hmatched hmine)
    have hother : FreshEntry (users.erase userId) organizationId field
        entry := by
      refine hfresh.of_get? (fun id found hmatched hfound => ?_)
      have hne : id ≠ userId := fun heq => hmine (heq ▸ hmatched)
      simp [hne, hfound]
    split
    · rw [entryOnDelete]
      split
      · intro matched hmatched
        cases hmatched
      · exact hother
    · exact hother

/-- What is written into an entry with a plain name is fresh. -/
theorem freshEntry_foundUsersObj {s : ContactStore server}
    {emails phones : Option (List (Option Identifier))}
    {found : List UserModel}
    (hfound : s.matchUserContact organizationId emails phones = .ok found)
    {value : Option Identifier} (hplain : PlainValue found field value) :
    FreshEntry s.users.documents organizationId field
      ⟨value, foundUsersObj server found field value⟩ := by
  intro matched hmatched
  rw [foundUsersObj_plain hplain, Option.map_eq_some_iff] at hmatched
  obtain ⟨user, hlast, rfl⟩ := hmatched
  have hmem := List.mem_filter.1 (List.mem_of_getLast? hlast)
  obtain ⟨hvalue, hsame⟩ := of_decide_eq_true hmem.2
  obtain ⟨huser, horganization⟩ := mem_matchUserContact hfound hmem.1
  obtain ⟨text, htext⟩ := Option.ne_none_iff_exists'.1 hvalue
  exact ⟨user.id, user.params, text, rfl, huser, horganization, htext,
    hsame.trans htext⟩

end ContactStore

/-! ### Requests and runs -/

namespace ContactRequest

open ContactStore ContactService ContactOperations

variable {server : ContactServer} {organizationOf : ObjectId → ObjectId}

/-- An edit reaches every contact that carries the id of the user in a field
that changes; a deletion reaches every contact that carries it at all, and the
user has an email and a phone. -/
def ReachesMatches (s : ContactStore server) : ContactRequest → Prop
  | .userEdit userId update =>
      ∀ current, EditsUser s userId update current →
        s.ForEntries (fun contact field entry =>
          entry.matchedUserId = some (.user userId) →
            current.value field ≠ (update.apply current).value field →
            s.Reaches current.organizationId (update.apply current).email
              (update.apply current).phone contact)
  | .userDelete userId =>
      ∀ user, s.findUserById userId = some user →
        s.ForEntries (fun contact _ entry =>
          entry.matchedUserId = some (.user userId) →
            (user.email.isSome ∧ user.phone.isSome) ∧
              s.Reaches user.organizationId user.email user.phone contact)
  | _ => True

theorem notStale_createUser {s : ContactStore server} (hfresh : s.NotStale)
    (organization : Option Organization) (params : UserParams) :
    (createUser organization params s).2.NotStale := by
  by_cases haccepted : CreatesUser s organization params
  · obtain ⟨husers, hentries⟩ := createUser_accepted haccepted
    rw [NotStale, husers, hentries]
    intro id contact hcontact field entry hentry
    exact freshEntry_onCreate s.findUserById_nextId
      (hfresh id contact hcontact field entry hentry) _
      (fun hsearched => hsearched.2.organizationId_eq.symm)
  · rw [createUser_refused haccepted]
    exact hfresh

theorem isSome_value_apply (update : UserUpdate) (user : UserParams)
    (field : ContactField) (hsome : (user.value field).isSome) :
    ((update.apply user).value field).isSome := by
  cases field with
  | email =>
      have hemail : user.email.isSome := hsome
      simp [UserUpdate.apply, UserParams.value, hemail]
  | phone =>
      have hphone : user.phone.isSome := hsome
      simp [UserUpdate.apply, UserParams.value, hphone]

theorem notStale_editUser {s : ContactStore server} (hfresh : s.NotStale)
    (userId : ObjectId) (update : UserUpdate) :
    (editUser userId update s).2.NotStale ↔
      ReachesMatches s (.userEdit userId update) := by
  by_cases haccepted : ∃ current, EditsUser s userId update current
  · obtain ⟨current, haccepted⟩ := haccepted
    obtain ⟨husers, hentries⟩ := editUser_accepted haccepted
    have hsame : (update.apply current).organizationId =
        current.organizationId := rfl
    rw [NotStale, husers, hentries, ReachesMatches,
      forall_editsUser haccepted]
    refine AllEntries.iff_of hfresh
      (fun contact field entry hentry => ?_)
    refine freshEntry_onUpdate haccepted.1 hsame
      (isSome_value_apply update current) hentry _ _ ?_
      (fun hreached => hreached.organizationId_eq.symm)
    intro hsome
    have hnow := isSome_value_apply update current field hsome
    cases field with
    | email => exact .inl ⟨hnow, hsome⟩
    | phone => exact .inr ⟨hnow, hsome⟩
  · rw [editUser_refused (not_exists.1 haccepted)]
    exact iff_of_true hfresh (fun current hcurrent =>
      absurd ⟨current, hcurrent⟩ haccepted)

theorem notStale_deleteUser {s : ContactStore server} (hfresh : s.NotStale)
    (userId : ObjectId) :
    (deleteUser userId s).2.NotStale ↔
      ReachesMatches s (.userDelete userId) := by
  cases huser : s.findUserById userId with
  | none =>
      rw [deleteUser_refused huser]
      refine iff_of_true hfresh (fun user hsome => ?_)
      rw [huser] at hsome
      cases hsome
  | some user =>
      obtain ⟨husers, hentries⟩ := deleteUser_accepted huser
      rw [NotStale, husers, hentries]
      simp only [ReachesMatches, huser, Option.some.injEq, forall_eq']
      exact AllEntries.iff_of hfresh
        (fun contact field entry hentry =>
          freshEntry_onDelete huser hentry _)

theorem notStale_step {s : ContactStore server}
    (hlocated : s.Located organizationOf) (hfresh : s.NotStale)
    (request : ContactRequest)
    (hplain : PlainNames organizationOf s request) :
    (step organizationOf s request).NotStale ↔
      ReachesMatches s request := by
  have hnew : ∀ organizationId data, PlainData s organizationId data →
      ForNew s organizationId data
        (FreshEntry s.users.documents organizationId) :=
    fun organizationId data hdata found hfound field value hvalue =>
      freshEntry_foundUsersObj hfound (hdata found hfound field value hvalue)
  cases request with
  | userCreate organization params =>
      exact iff_of_true (notStale_createUser hfresh organization params)
        trivial
  | userEdit userId update => exact notStale_editUser hfresh userId update
  | userDelete userId => exact notStale_deleteUser hfresh userId
  | contactAdd userId data =>
      refine iff_of_true ?_ trivial
      rw [step, NotStale, users_singleAdd, allEntries_singleAdd]
      exact ⟨hfresh, hnew _ data hplain⟩
  | contactBatchAdd userId contactsData =>
      refine iff_of_true ?_ trivial
      rw [step, NotStale, users_batchAdd, allEntries_batchAdd]
      exact ⟨hfresh, fun data hdata => hnew _ data (hplain data hdata)⟩
  | contactUpdate userId contactId data =>
      refine iff_of_true ?_ trivial
      rw [step, NotStale, users_editContact, allEntries_editContact data
        (fun contact hcontact howner => by
          rw [hlocated contactId contact hcontact, howner]) hfresh]
      exact fun howns => hnew _ data (hplain howns)
  | contactDelete userId contactId =>
      refine iff_of_true ?_ trivial
      rw [step, NotStale, users_deleteUserContact]
      exact fun id contact hcontact => hfresh id contact
        (get?_deleteUserContact userId contactId id hcontact)

/-- In the runs whose contacts have plain names, no entry is ever stale
exactly when every edit and deletion of a user reaches the contacts that carry
the id of the user. -/
theorem matches_not_stale (server : ContactServer)
    (organizationOf : ObjectId → ObjectId) (requests : List ContactRequest) :
    ((∀ done request, done ++ [request] <+: requests →
        PlainNames organizationOf (done.foldl (step organizationOf)
          (empty : ContactStore server)) request) ∧
      ∀ done, done <+: requests →
        (done.foldl (step organizationOf)
          (empty : ContactStore server)).NotStale) ↔
      ∀ done request, done ++ [request] <+: requests →
        PlainNames organizationOf (done.foldl (step organizationOf)
          (empty : ContactStore server)) request ∧
        ReachesMatches (done.foldl (step organizationOf)
          (empty : ContactStore server)) request := by
  refine throughout_and_iff ?_ (fun done request hfresh hplain => ?_) requests
  · intro id contact hcontact
    simp [empty] at hcontact
  · rw [List.foldl_append]
    exact notStale_step (located_run done) hfresh request hplain

/-- Two users without a phone; one adds a contact with the email of the other,
who is then deleted. -/
def deletedContact : List ContactRequest :=
  [.userCreate (some ⟨false⟩)
      ⟨9, Sample.alice, some Sample.alice, none, some Sample.phone⟩,
    .userCreate (some ⟨false⟩)
      ⟨9, Sample.bob, some Sample.bob, none, some Sample.phone⟩,
    .contactAdd 0 ⟨some [some Sample.bob], none⟩,
    .userDelete 1]

/-- The contact still carries the id of the deleted user. -/
theorem deleted_user_stays_matched :
    ¬∀ (server : ContactServer) (organizationOf : ObjectId → ObjectId)
        (requests : List ContactRequest),
      (requests.foldl (step organizationOf)
        (empty : ContactStore server)).NotStale := by
  intro hall
  have hcontact : (deletedContact.foldl (step (fun _ => 9))
      (empty : ContactStore .plain)).contacts.get? 2 =
        some ⟨9, 0, some [⟨some Sample.bob, some (.user 1)⟩], none⟩ := by
    decide
  have huser : (deletedContact.foldl (step (fun _ => 9))
      (empty : ContactStore .plain)).users.documents.get? 1 = none := by
    decide
  obtain ⟨id, user, _, hid, hfound, _⟩ := hall .plain (fun _ => 9)
    deletedContact 2 _ hcontact .email _ List.mem_cons_self _ rfl
  cases hid
  rw [huser] at hfound
  cases hfound

end ContactRequest

end SamaServer
