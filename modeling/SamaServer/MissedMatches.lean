/-
Entries of contacts whose value a user has.  In a run they all carry the id of
the user, exactly when every creation and every edit of a user reaches the
contacts with its values, and the search of every contact finds all the users
with its values.
-/
import SamaServer.FoundUsers
import SamaServer.Runs

namespace SamaServer

namespace UserCollection

variable {collation : Collation}

/-- The users of an organization have different values. -/
def UniqueValues (users : OrderedMap ObjectId UserParams) : Prop :=
  ∀ id user other peer field text, users.get? id = some user →
    users.get? other = some peer →
    user.organizationId = peer.organizationId →
    user.value field = some text → peer.value field = some text → id = other

theorem uniqueValues (users : UserCollection collation) :
    UniqueValues users.documents := by
  intro id user other peer field text huser hpeer horganization hvalue hsame
  exact users.unique id user other peer huser hpeer
    (collation.clash_of_value horganization hvalue hsame)

end UserCollection

namespace ContactStore

open ContactService ContactOperations UserCollection

variable {server : ContactServer}

/-- The entry carries the id of the user that has its value. -/
def MatchedEntry (users : OrderedMap ObjectId UserParams)
    (organizationId : ObjectId) (field : ContactField)
    (entry : ContactEntry) : Prop :=
  ∀ id user text, users.get? id = some user →
    user.organizationId = organizationId → entry.value = some text →
    user.value field = some text → entry.matchedUserId = some (.user id)

/-- No match is missed. -/
def Complete (s : ContactStore server) : Prop :=
  s.AllEntries (MatchedEntry s.users.documents)

variable {users : OrderedMap ObjectId UserParams} {organizationId : ObjectId}
  {field : ContactField} {entry : ContactEntry}

/-- The entry has the value of the user and does not carry its id. -/
def Misses (userId : ObjectId) (user : UserParams)
    (organizationId : ObjectId) (field : ContactField)
    (entry : ContactEntry) : Prop :=
  user.organizationId = organizationId ∧ (user.value field).isSome ∧
    entry.value = user.value field ∧
    entry.matchedUserId ≠ some (.user userId)

/-- One user more: the entry must not miss it. -/
theorem matchedEntry_set {userId : ObjectId} {params : UserParams}
    (hmatched : MatchedEntry users organizationId field entry) :
    MatchedEntry (users.set userId params) organizationId field entry ↔
      ¬Misses userId params organizationId field entry := by
  constructor
  · rintro hafter ⟨horganization, hsome, hvalue, hmissing⟩
    obtain ⟨text, htext⟩ := Option.isSome_iff_exists.1 hsome
    exact hmissing (hafter userId params text (by simp) horganization
      (hvalue.trans htext) htext)
  · intro hnot id user text huser horganization hvalue hsame
    rw [OrderedMap.get?_set] at huser
    by_cases hid : id = userId
    · rw [if_pos hid, Option.some_inj] at huser
      subst huser hid
      refine not_not.1 (fun hmissing => hnot ⟨horganization, ?_, ?_,
        hmissing⟩)
      · simp [hsame]
      · rw [hvalue, hsame]
    · rw [if_neg hid] at huser
      exact hmatched id user text huser horganization hvalue hsame

/-- An entry that carries the id of the one user with its value. -/
theorem matchedEntry_of_value {id : ObjectId} {user : UserParams}
    {value : Option Identifier} (hunique : UniqueValues users)
    (huser : users.get? id = some user)
    (horganization : user.organizationId = organizationId)
    (hsame : user.value field = value) :
    MatchedEntry users organizationId field ⟨value, some (.user id)⟩ := by
  intro other peer text hpeer hpeerOrganization hvalue hpeerValue
  have hid := hunique id user other peer field text huser hpeer
    (horganization.trans hpeerOrganization.symm) (hsame.trans hvalue)
    hpeerValue
  rw [hid]

/-- A search that gives every entry with the value of a user its id. -/
theorem matchedEntry_searched {userId : ObjectId} {params : UserParams}
    {rewritten : ContactEntry}
    (hunique : UniqueValues (users.set userId params))
    (hmatched : MatchedEntry users organizationId field entry)
    (hrewritten : rewritten = ⟨params.value field, some (.user userId)⟩ ∨
      rewritten = entry ∧ ¬((params.value field).isSome ∧
        entry.value = params.value field))
    (searched : Prop) [Decidable searched]
    (horganization : searched → params.organizationId = organizationId) :
    MatchedEntry (users.set userId params) organizationId field
        (if searched then rewritten else entry) ↔
      (Misses userId params organizationId field entry → searched) := by
  by_cases hsearched : searched
  · refine iff_of_true ?_ (fun _ => hsearched)
    rw [if_pos hsearched]
    rcases hrewritten with rfl | ⟨rfl, hother⟩
    · exact matchedEntry_of_value hunique (by simp)
        (horganization hsearched) rfl
    · exact (matchedEntry_set hmatched).2 (fun hmisses =>
        hother ⟨hmisses.2.1, hmisses.2.2.1⟩)
  · rw [if_neg hsearched, matchedEntry_set hmatched]
    exact ⟨fun hnot hmisses => absurd hmisses hnot,
      fun hall hmisses => hsearched (hall hmisses)⟩

theorem entryOnCreate_cases (userId : ObjectId) (value : Option Identifier)
    (entry : ContactEntry) :
    entryOnCreate userId value entry = ⟨value, some (.user userId)⟩ ∨
      entryOnCreate userId value entry = entry ∧
        ¬(value.isSome ∧ entry.value = value) := by
  rw [entryOnCreate]
  split
  case isTrue hvalue =>
      rw [hvalue.2]
      exact .inl rfl
  case isFalse hother => exact .inr ⟨rfl, hother⟩

theorem entryOnUpdate_cases (userId : ObjectId)
    (oldValue value : Option Identifier) (entry : ContactEntry) :
    entryOnUpdate userId oldValue value entry =
        ⟨value, some (.user userId)⟩ ∨
      entryOnUpdate userId oldValue value entry = entry ∧
        ¬(value.isSome ∧ entry.value = value) := by
  rw [entryOnUpdate]
  split
  · exact .inl rfl
  case isFalse hother =>
      exact .inr ⟨rfl, fun hvalue => hother ⟨hvalue.1, .inr hvalue.2⟩⟩

theorem matchedEntry_onDelete {userId : ObjectId} {user : UserParams}
    (hunique : UniqueValues users) (huser : users.get? userId = some user)
    (hmatched : MatchedEntry users organizationId field entry)
    (searched : Prop) [Decidable searched]
    (horganization : searched → user.organizationId = organizationId) :
    MatchedEntry (users.erase userId) organizationId field
      (if searched then entryOnDelete (user.value field) entry
        else entry) := by
  have hleft : ∀ id peer, (users.erase userId).get? id = some peer →
      id ≠ userId ∧ users.get? id = some peer := by
    intro id peer hpeer
    rw [OrderedMap.get?_erase] at hpeer
    split at hpeer
    · cases hpeer
    · next hne => exact ⟨hne, hpeer⟩
  have hkept : MatchedEntry (users.erase userId) organizationId field
      entry := by
    intro id peer text hpeer hpeerOrganization hvalue hsame
    exact hmatched id peer text (hleft id peer hpeer).2 hpeerOrganization
      hvalue hsame
  by_cases hsearched : searched
  · rw [if_pos hsearched, entryOnDelete]
    split
    case isTrue hvalue =>
        -- the value was that of the deleted user alone
        intro id peer text hpeer hpeerOrganization htext hsame
        obtain ⟨hne, hget⟩ := hleft id peer hpeer
        exact absurd (hunique id peer userId user field text hget huser
          (hpeerOrganization.trans (horganization hsearched).symm) hsame
          (hvalue.2.symm.trans htext)) hne
    · exact hkept
  · rw [if_neg hsearched]
    exact hkept

/-- A new entry with a plain name misses nobody exactly when the search finds
the user that has its value. -/
theorem matchedEntry_foundUsersObj {s : ContactStore server}
    {emails phones : Option (List (Option Identifier))}
    {found : List UserModel}
    (hfound : s.matchUserContact organizationId emails phones = .ok found)
    {value : Option Identifier} (hplain : PlainValue found field value) :
    MatchedEntry s.users.documents organizationId field
        ⟨value, foundUsersObj server found field value⟩ ↔
      ∀ id user text, s.findUserById id = some user →
        user.organizationId = organizationId → value = some text →
        user.value field = some text → ⟨id, user⟩ ∈ found := by
  rw [foundUsersObj_plain hplain]
  constructor
  · intro hmatched id user text huser horganization hvalue hsame
    have hcarried := hmatched id user text huser horganization hvalue hsame
    obtain ⟨last, hlast, hid⟩ := Option.map_eq_some_iff.1 hcarried
    cases hid
    have hmem := (List.mem_filter.1 (List.mem_of_getLast? hlast)).1
    have hparams : last.params = user := Option.some.inj
      ((mem_matchUserContact hfound hmem).1.symm.trans huser)
    rw [← hparams]
    exact hmem
  · intro hall id user text huser horganization hvalue hsame
    have hvalue : value = some text := hvalue
    have hmem : ⟨id, user⟩ ∈ found.filter (fun user => value ≠ none ∧
        user.params.value field = value) := by
      refine List.mem_filter.2 ⟨hall id user text huser horganization hvalue
        hsame, decide_eq_true ⟨?_, hsame.trans hvalue.symm⟩⟩
      simp [hvalue]
    obtain ⟨last, hlast⟩ := Option.ne_none_iff_exists'.1
      (fun hnone => List.ne_nil_of_mem hmem (List.getLast?_eq_none_iff.1
        hnone))
    have hlastMem := List.mem_filter.1 (List.mem_of_getLast? hlast)
    obtain ⟨-, hlastValue⟩ := of_decide_eq_true hlastMem.2
    obtain ⟨hlastUser, hlastOrganization⟩ :=
      mem_matchUserContact hfound hlastMem.1
    have hid : last.id = id := s.users.uniqueValues last.id last.params id
      user field text hlastUser huser
      (hlastOrganization.trans horganization.symm)
      (hlastValue.trans hvalue) hsame
    change Option.map _ _ = _
    rw [hlast, ← hid]
    rfl

end ContactStore

/-! ### Requests and runs -/

namespace ContactOperations

open ContactStore

variable {server : ContactServer}

/-- The search for the users of a contact finds every user with one of its
values among the hundred it takes. -/
def FindsUsers (s : ContactStore server) (organizationId : ObjectId)
    (data : ContactData) : Prop :=
  ∀ found, s.matchUserContact organizationId data.email data.phone =
      .ok found →
    ∀ field, ∀ value ∈ (data.values field).getD [],
      ∀ id user text, s.findUserById id = some user →
        user.organizationId = organizationId → value = some text →
        user.value field = some text → ⟨id, user⟩ ∈ found

theorem forNew_matchedEntry {s : ContactStore server}
    {organizationId : ObjectId} {data : ContactData}
    (hplain : PlainData s organizationId data) :
    ForNew s organizationId data
        (MatchedEntry s.users.documents organizationId) ↔
      FindsUsers s organizationId data := by
  refine forall₂_congr (fun found hfound => forall_congr' (fun field =>
    forall₂_congr (fun value hvalue => ?_)))
  exact matchedEntry_foundUsersObj hfound
    (hplain found hfound field value hvalue)

end ContactOperations

namespace ContactRequest

open ContactStore ContactService ContactOperations

variable {server : ContactServer} (organizationOf : ObjectId → ObjectId)

/-- A creation or an edit of a user reaches every contact with an entry of its
email or phone that does not carry its id yet; a contact finds its users. -/
def ReachesValues (s : ContactStore server) : ContactRequest → Prop
  | .userCreate organization params =>
      CreatesUser s organization params →
        s.ForEntries (fun contact field entry =>
          Misses s.nextId params contact.params.organizationId field entry →
            (params.email.isSome ∧ params.phone.isSome) ∧
              s.Reaches params.organizationId params.email params.phone
                contact)
  | .userEdit userId update =>
      ∀ current, EditsUser s userId update current →
        s.ForEntries (fun contact field entry =>
          Misses userId (update.apply current)
              contact.params.organizationId field entry →
            ((update.apply current).email.isSome ∧ current.email.isSome ∨
              (update.apply current).phone.isSome ∧
                current.phone.isSome) ∧
              s.Reaches current.organizationId (update.apply current).email
                (update.apply current).phone contact)
  | .contactAdd userId data => FindsUsers s (organizationOf userId) data
  | .contactBatchAdd userId contactsData =>
      ∀ data ∈ stored contactsData, FindsUsers s (organizationOf userId) data
  | .contactUpdate userId contactId data =>
      OwnsContact s userId contactId →
        FindsUsers s (organizationOf userId) data
  | _ => True

theorem complete_createUser {s : ContactStore server}
    (hcomplete : s.Complete) (organization : Option Organization)
    (params : UserParams) :
    (createUser organization params s).2.Complete ↔
      ReachesValues organizationOf s (.userCreate organization params) := by
  by_cases haccepted : CreatesUser s organization params
  · obtain ⟨husers, hentries⟩ := createUser_accepted haccepted
    have hunique := (createUser organization params s).2.users.uniqueValues
    rw [husers] at hunique
    rw [Complete, husers, hentries, ReachesValues,
      forall_prop_of_true haccepted]
    refine AllEntries.iff_of hcomplete
      (fun contact field entry hentry => ?_)
    exact matchedEntry_searched hunique hentry
      (entryOnCreate_cases s.nextId (params.value field) entry) _
      (fun hsearched => hsearched.2.organizationId_eq.symm)
  · rw [createUser_refused haccepted]
    exact iff_of_true hcomplete (fun hcreates => absurd hcreates haccepted)

theorem complete_editUser {s : ContactStore server} (hcomplete : s.Complete)
    (userId : ObjectId) (update : UserUpdate) :
    (editUser userId update s).2.Complete ↔
      ReachesValues organizationOf s (.userEdit userId update) := by
  by_cases haccepted : ∃ current, EditsUser s userId update current
  · obtain ⟨current, haccepted⟩ := haccepted
    obtain ⟨husers, hentries⟩ := editUser_accepted haccepted
    have hunique := (editUser userId update s).2.users.uniqueValues
    rw [husers] at hunique
    have hsame : (update.apply current).organizationId =
        current.organizationId := rfl
    rw [Complete, husers, hentries, ReachesValues,
      forall_editsUser haccepted]
    refine AllEntries.iff_of hcomplete
      (fun contact field entry hentry => ?_)
    exact matchedEntry_searched hunique hentry
      (entryOnUpdate_cases userId (current.value field)
        ((update.apply current).value field) entry) _
      (fun hsearched => hsame.trans hsearched.2.organizationId_eq.symm)
  · rw [editUser_refused (not_exists.1 haccepted)]
    exact iff_of_true hcomplete (fun current hcurrent =>
      absurd ⟨current, hcurrent⟩ haccepted)

theorem complete_deleteUser {s : ContactStore server}
    (hcomplete : s.Complete) (userId : ObjectId) :
    (deleteUser userId s).2.Complete := by
  cases huser : s.findUserById userId with
  | none =>
      rw [deleteUser_refused huser]
      exact hcomplete
  | some user =>
      obtain ⟨husers, hentries⟩ := deleteUser_accepted huser
      rw [Complete, husers, hentries]
      intro id contact hcontact field entry hentry
      exact matchedEntry_onDelete s.users.uniqueValues huser
        (hcomplete id contact hcontact field entry hentry) _
        (fun hsearched => hsearched.2.organizationId_eq.symm)

theorem complete_step {s : ContactStore server}
    (hlocated : s.Located organizationOf) (hcomplete : s.Complete)
    (request : ContactRequest)
    (hplain : PlainNames organizationOf s request) :
    (step organizationOf s request).Complete ↔
      ReachesValues organizationOf s request := by
  cases request with
  | userCreate organization params =>
      exact complete_createUser organizationOf hcomplete organization params
  | userEdit userId update =>
      exact complete_editUser organizationOf hcomplete userId update
  | userDelete userId =>
      exact iff_of_true (complete_deleteUser hcomplete userId) trivial
  | contactAdd userId data =>
      rw [step, Complete, users_singleAdd, allEntries_singleAdd,
        forNew_matchedEntry hplain]
      exact and_iff_right hcomplete
  | contactBatchAdd userId contactsData =>
      rw [step, Complete, users_batchAdd, allEntries_batchAdd]
      refine (and_iff_right hcomplete).trans ?_
      exact forall₂_congr (fun data hdata =>
        forNew_matchedEntry (hplain data hdata))
  | contactUpdate userId contactId data =>
      rw [step, Complete, users_editContact, allEntries_editContact data
        (fun contact hcontact howner => by
          rw [hlocated contactId contact hcontact, howner]) hcomplete]
      exact forall_congr' (fun howns => forNew_matchedEntry (hplain howns))
  | contactDelete userId contactId =>
      refine iff_of_true ?_ trivial
      rw [step, Complete, users_deleteUserContact]
      exact fun id contact hcontact => hcomplete id contact
        (get?_deleteUserContact userId contactId id hcontact)

/-- In the runs whose contacts have plain names, no match is ever missed
exactly when every creation and edit of a user reaches the contacts with its
values and every contact finds its users. -/
theorem matches_complete (server : ContactServer)
    (organizationOf : ObjectId → ObjectId) (requests : List ContactRequest) :
    ((∀ done request, done ++ [request] <+: requests →
        PlainNames organizationOf (done.foldl (step organizationOf)
          (empty : ContactStore server)) request) ∧
      ∀ done, done <+: requests →
        (done.foldl (step organizationOf)
          (empty : ContactStore server)).Complete) ↔
      ∀ done request, done ++ [request] <+: requests →
        PlainNames organizationOf (done.foldl (step organizationOf)
          (empty : ContactStore server)) request ∧
        ReachesValues organizationOf (done.foldl (step organizationOf)
          (empty : ContactStore server)) request := by
  refine throughout_and_iff ?_ (fun done request hcomplete hplain => ?_)
    requests
  · intro id contact hcontact
    simp [empty] at hcontact
  · rw [List.foldl_append]
    exact complete_step organizationOf (located_run done) hcomplete request
      hplain

/-- A contact with an email only, and then a user with this email and no
phone. -/
def createdLater : List ContactRequest :=
  [.userCreate (some ⟨false⟩)
      ⟨9, Sample.alice, some Sample.alice, none, some Sample.phone⟩,
    .contactAdd 0 ⟨some [some Sample.bob], none⟩,
    .userCreate (some ⟨false⟩)
      ⟨9, Sample.bob, some Sample.bob, none, some Sample.phone⟩]

/-- The contact does not get the id of the new user. -/
theorem created_user_missed :
    ¬∀ (server : ContactServer) (organizationOf : ObjectId → ObjectId)
        (requests : List ContactRequest),
      (requests.foldl (step organizationOf)
        (empty : ContactStore server)).Complete := by
  intro hall
  have hcontact : (createdLater.foldl (step (fun _ => 9))
      (empty : ContactStore .plain)).contacts.get? 1 =
        some ⟨9, 0, some [⟨some Sample.bob, none⟩], none⟩ := by
    decide
  have huser : (createdLater.foldl (step (fun _ => 9))
      (empty : ContactStore .plain)).users.documents.get? 2 =
        some ⟨9, Sample.bob, some Sample.bob, none, some Sample.phone⟩ := by
    decide
  have hmatched := hall .plain (fun _ => 9) createdLater 1 _ hcontact .email
    _ List.mem_cons_self 2 _ Sample.bob huser rfl rfl rfl
  cases hmatched

end ContactRequest

end SamaServer
