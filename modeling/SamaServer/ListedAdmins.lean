/-
Who is listed as an admin.  For each conversation the owner comes first and
the participants with the role follow; an owner who has the role as well, or
who owns or administers another of the conversations, is listed twice, once
as an object and once as a text.
-/
import SamaServer.AdminLists
import SamaServer.AdminRows

namespace SamaServer

namespace OrderedMap

universe u v

variable {K : Type u} {V : Type v} [DecidableEq K]

theorem keys_foldl_erase (keys : List K) (m : OrderedMap K V) :
    (keys.foldl erase m).keys =
      m.keys.filter (fun key => key ∉ keys) := by
  induction keys generalizing m with
  | nil => simp
  | cons key keys ih =>
      rw [List.foldl_cons, ih, keys_erase, List.filter_filter]
      refine List.filter_congr ?_
      intro other _
      simp [Bool.and_comm]

theorem keys_foldl_modify (keys : List K) (f : K → V → V)
    (m : OrderedMap K V) :
    (keys.foldl (fun m key => m.modify key (f key)) m).keys = m.keys := by
  induction keys generalizing m with
  | nil => rfl
  | cons key keys ih => rw [List.foldl_cons, ih, keys_modify]

/-- Every key of a list without repetitions is modified once. -/
theorem get?_foldl_modify {keys : List K} (hnodup : keys.Nodup)
    (f : K → V → V) (m : OrderedMap K V) (other : K) :
    (keys.foldl (fun m key => m.modify key (f key)) m).get? other =
      (m.get? other).map (if other ∈ keys then f other else id) := by
  induction keys generalizing m with
  | nil => simp
  | cons key keys ih =>
      obtain ⟨hnew, hrest⟩ := List.nodup_cons.1 hnodup
      rw [List.foldl_cons, ih hrest, get?_modify, Option.map_map]
      by_cases hother : other = key
      · subst hother
        simp [hnew]
      · simp [hother]

theorem flatMap_entries {A : Type v} (m : OrderedMap K (List A)) :
    m.entries.flatMap Prod.snd = m.keys.flatMap m.members := by
  rw [keys, List.flatMap_map]
  refine List.flatMap_congr ?_
  intro entry hentry
  have hget := (m.mem_entries_iff entry.1 entry.2).1 hentry
  rw [members, hget]
  rfl

/-- New keys go to the end in the order of a list. -/
theorem entries_foldl_set {list : List (K × V)} {m : OrderedMap K V}
    (hnew : ∀ entry ∈ list, entry.1 ∉ m.keys)
    (hnodup : (list.map Prod.fst).Nodup) :
    (list.foldl (fun m entry => m.set entry.1 entry.2) m).entries =
      m.entries ++ list := by
  induction list generalizing m with
  | nil => simp
  | cons entry list ih =>
      obtain ⟨hfirst, hlater⟩ := List.forall_mem_cons.1 hnew
      obtain ⟨hdistinct, hrest⟩ := List.nodup_cons.1 hnodup
      have hset : (m.set entry.1 entry.2).entries = m.entries ++ [entry] := by
        have hmissing : entry.1 ∉ m.entries.map Prod.fst := hfirst
        rw [set, dif_neg hmissing]
      rw [List.foldl_cons, ih ?_ hrest, hset, List.append_assoc]
      · rfl
      · intro other hother hmem
        rcases (mem_keys_set _ _ _ _).1 hmem with hsame | hold
        · exact hdistinct (hsame ▸ List.mem_map_of_mem hother)
        · exact hlater other hother hold

end OrderedMap

namespace ConversationService

open ConversationStore

variable {s : ConversationStore} {conversations : List ConversationModel}

/-! ### What is computed -/

/-- The users with the role of an admin in a conversation. -/
def adminsOf (s : ConversationStore) (c : ObjectId) : List StoredId :=
  ((s.rowsOf c).filter (fun row => row.role = some .admin)).map
    Participant.userId

/-- The list for one conversation. -/
def listOf (s : ConversationStore) (conversation : ConversationModel) :
    List (Ref StoredId) :=
  conversation.params.ownerId.loaded ::
    (adminsOf s conversation.id).map Ref.value

theorem groupByConversation_concat (rows : List Participant)
    (row : Participant) :
    groupByConversation (rows ++ [row]) =
      (groupByConversation rows).set row.conversationId
        ((groupByConversation rows).members row.conversationId ++
          [.value row.userId]) := by
  rw [groupByConversation, List.foldl_append]
  rfl

theorem members_groupByConversation (rows : List Participant)
    (c : ObjectId) :
    (groupByConversation rows).members c =
      (rows.filter (fun row => row.conversationId = c)).map
        (fun row => .value row.userId) := by
  induction rows using List.reverseRecOn with
  | nil => rfl
  | append_singleton rows row ih =>
      rw [groupByConversation_concat, OrderedMap.members_set,
        List.filter_append, List.map_append, ← ih]
      by_cases hc : c = row.conversationId
      · subst hc
        simp
      · simp [hc, Ne.symm hc]

theorem mem_keys_groupByConversation {rows : List Participant}
    {c : ObjectId} (hc : c ∈ (groupByConversation rows).keys) :
    ∃ row ∈ rows, row.conversationId = c := by
  induction rows using List.reverseRecOn with
  | nil => cases hc
  | append_singleton rows row ih =>
      rw [groupByConversation_concat, OrderedMap.mem_keys_set] at hc
      rcases hc with rfl | hold
      · exact ⟨row, by simp, rfl⟩
      · obtain ⟨old, hmem, hsame⟩ := ih hold
        exact ⟨old, by simp [hmem], hsame⟩

/-- The owners, in the order of the conversations. -/
theorem entries_ownersOf
    (hnodup : (conversations.map ConversationModel.id).Nodup) :
    (ownersOf conversations).entries = conversations.map (fun conversation =>
      (conversation.id, [conversation.params.ownerId.loaded])) := by
  have hset := @OrderedMap.entries_foldl_set ObjectId (List (Ref StoredId))
    _ (conversations.map (fun conversation =>
      (conversation.id, [conversation.params.ownerId.loaded]))) .empty
    (fun _ _ hkey => by cases hkey)
    (by simpa [Function.comp_def] using hnodup)
  rw [List.foldl_map] at hset
  exact hset

theorem keys_ownersOf
    (hnodup : (conversations.map ConversationModel.id).Nodup) :
    (ownersOf conversations).keys =
      conversations.map ConversationModel.id := by
  rw [OrderedMap.keys, entries_ownersOf hnodup, List.map_map]
  rfl

theorem get?_ownersOf
    (hnodup : (conversations.map ConversationModel.id).Nodup)
    {conversation : ConversationModel}
    (hmem : conversation ∈ conversations) :
    (ownersOf conversations).get? conversation.id =
      some [conversation.params.ownerId.loaded] := by
  rw [← OrderedMap.mem_entries_iff, entries_ownersOf hnodup]
  exact List.mem_map_of_mem hmem

/-- When every group has an owner the lists are joined key by key. -/
theorem joinAdmins_spec {owners admins : OrderedMap ObjectId
      (List (Ref StoredId))} (hkeys : ∀ c ∈ admins.keys, c ∈ owners.keys) :
    (joinAdmins owners admins).keys = owners.keys ∧
      ∀ c ids, owners.get? c = some ids →
        (joinAdmins owners admins).get? c =
          some (ids ++ admins.members c) := by
  have hleft : (owners.keys.foldl OrderedMap.erase admins).entries = [] := by
    have hnone : (owners.keys.foldl OrderedMap.erase admins).keys = [] := by
      rw [OrderedMap.keys_foldl_erase, List.filter_eq_nil_iff]
      intro c hc
      simpa using hkeys c hc
    exact List.map_eq_nil_iff.1 hnone
  rw [joinAdmins, hleft, List.foldl_nil]
  refine ⟨OrderedMap.keys_foldl_modify _
    (fun id ids => ids ++ admins.members id) _, ?_⟩
  intro c ids hget
  have hnodup : owners.keys.Nodup := owners.keys_nodup
  rw [OrderedMap.get?_foldl_modify hnodup
    (fun id ids => ids ++ admins.members id), hget,
    if_pos ((owners.mem_keys_iff c).2 ⟨ids, hget⟩)]
  rfl

/-- The rows that the aggregation for admins takes. -/
def adminRows (s : ConversationStore) (ids : List ObjectId) :
    List Participant :=
  s.participants.filter (fun row => row.conversationId ∈ ids ∧
    row.role = some .admin)

theorem findConversationsParticipants_admin (hs : Regular s)
    (ids : List ObjectId) :
    s.findConversationsParticipants ids (some .admin) =
      .ok (groupByConversation (adminRows s ids)) := by
  have hrows : s.participants.filter (fun row => row.conversationId ∈ ids ∧
      (some ParticipantRole.admin).all (fun role => row.role = some role)) =
        adminRows s ids := by
    refine List.filter_congr ?_
    intro row _
    simp
  rw [findConversationsParticipants, hrows]
  refine if_pos (List.all_eq_true.2 ?_)
  intro row hrow
  obtain ⟨hmem, hmatched⟩ := List.mem_filter.1 hrow
  have hid := hs.admins row hmem (of_decide_eq_true hmatched).2
  cases huser : row.userId with
  | id value => rfl
  | raw value =>
      rw [huser] at hid
      cases hid

/-- Grouping gives each conversation its own admins. -/
theorem members_adminRows {ids : List ObjectId} {c : ObjectId}
    (hc : c ∈ ids) :
    (groupByConversation (adminRows s ids)).members c =
      (adminsOf s c).map Ref.value := by
  rw [members_groupByConversation, adminsOf, List.map_map, adminRows, rowsOf,
    List.filter_filter, List.filter_filter]
  refine congrArg (List.map _) (List.filter_congr ?_)
  intro row _
  by_cases hrow : row.conversationId = c
  · simp [hrow, hc]
  · simp [hrow]

/-- The answer for stored conversations, of which none is asked for twice. -/
theorem findConversationsAdminIds_eq (hs : Regular s)
    (hnodup : (conversations.map ConversationModel.id).Nodup) :
    ∃ answer, findConversationsAdminIds conversations s = .ok answer ∧
      (∀ conversation ∈ conversations,
        answer.adminIdsByCids.get? conversation.id =
          some (listOf s conversation)) ∧
      answer.adminIds = Ref.setOf (conversations.flatMap (listOf s)) := by
  let ids := conversations.map ConversationModel.id
  let admins := groupByConversation (adminRows s ids)
  have hkeys : ∀ c ∈ admins.keys, c ∈ (ownersOf conversations).keys := by
    intro c hc
    obtain ⟨row, hrow, rfl⟩ := mem_keys_groupByConversation hc
    rw [keys_ownersOf hnodup]
    exact (of_decide_eq_true (List.mem_filter.1 hrow).2).1
  obtain ⟨hjoined, hlists⟩ := joinAdmins_spec hkeys
  have hlist : ∀ conversation ∈ conversations,
      (joinAdmins (ownersOf conversations) admins).get? conversation.id =
        some (listOf s conversation) := by
    intro conversation hmem
    have hid : conversation.id ∈ ids := List.mem_map_of_mem hmem
    rw [hlists _ _ (get?_ownersOf hnodup hmem), members_adminRows hid]
    rfl
  have hfound : findConversationsAdminIds conversations s =
      .ok ⟨Ref.setOf ((joinAdmins (ownersOf conversations)
        admins).entries.flatMap Prod.snd),
        joinAdmins (ownersOf conversations) admins⟩ := by
    rw [findConversationsAdminIds, findConversationsParticipants_admin hs]
    rfl
  refine ⟨_, hfound, hlist, ?_⟩
  rw [OrderedMap.flatMap_entries, hjoined, keys_ownersOf hnodup,
    List.flatMap_map]
  refine congrArg Ref.setOf (List.flatMap_congr ?_)
  intro conversation hmem
  rw [OrderedMap.members, hlist conversation hmem]
  rfl

/-! ### What is asked for -/

/-- The caller owns the conversation or has the role of an admin in it. -/
def MayAdminister (session : ConversationSession) (s : ConversationStore)
    (conversation : ConversationModel) : Prop :=
  s.conversations.get? conversation.id = some conversation.params ∧
    conversation.params.organizationId = session.organizationId ∧
    (conversation.params.ownerId = .id session.userId ∨
      .id session.userId ∈ adminsOf s conversation.id)

/-- For every conversation the owner and the admins, each once, and no user
twice in the list of all. -/
structure ListsAdmins (s : ConversationStore)
    (conversations : List ConversationModel) (answer : AdminLists) :
    Prop where
  byCids : ∀ conversation ∈ conversations,
    ∃ ids, answer.adminIdsByCids.get? conversation.id = some ids ∧
      (ids.map Ref.content).Nodup ∧
      ∀ userId, userId ∈ ids.map Ref.content ↔
        userId = conversation.params.ownerId ∨
          ∃ row ∈ s.rowsOf conversation.id, row.userId = userId ∧
            row.role = some .admin
  adminIds : (answer.adminIds.map Ref.content).Nodup

/-- No user owns two of the conversations, and no owner of one of them has
the role of an admin in one of them. -/
def OwnersApart (s : ConversationStore)
    (conversations : List ConversationModel) : Prop :=
  (conversations.map (fun conversation =>
      conversation.params.ownerId)).Nodup ∧
    ∀ conversation ∈ conversations, ∀ other ∈ conversations,
      conversation.params.ownerId ∉ adminsOf s other.id

theorem mem_adminsOf (s : ConversationStore) (c : ObjectId)
    (userId : StoredId) :
    userId ∈ adminsOf s c ↔
      ∃ row ∈ s.rowsOf c, row.userId = userId ∧ row.role = some .admin := by
  rw [adminsOf, List.mem_map]
  constructor
  · rintro ⟨row, hrow, huser⟩
    obtain ⟨hmem, hrole⟩ := List.mem_filter.1 hrow
    exact ⟨row, hmem, huser, of_decide_eq_true hrole⟩
  · rintro ⟨row, hmem, huser, hrole⟩
    exact ⟨row, List.mem_filter.2 ⟨hmem, decide_eq_true hrole⟩, huser⟩

/-- No user has two rows with the role in one conversation. -/
theorem nodup_adminsOf (hs : Regular s) (c : ObjectId) :
    (adminsOf s c).Nodup := by
  rw [adminsOf, List.Nodup, List.pairwise_map]
  have honce := (hs.once.sublist List.filter_sublist).sublist
    (List.filter_sublist (p := fun row => row.role = some .admin)
      (l := s.rowsOf c))
  refine honce.imp_of_mem ?_
  intro first second hfirst hsecond hpair huser
  obtain ⟨hrow, hrole⟩ := List.mem_filter.1 hfirst
  have hother := (List.mem_filter.1 hsecond).1
  have hsame : first.conversationId = second.conversationId :=
    (of_decide_eq_true (List.mem_filter.1 hrow).2).trans
      (of_decide_eq_true (List.mem_filter.1 hother).2).symm
  have hid := hs.admins first (List.mem_filter.1 hrow).1
    (of_decide_eq_true hrole)
  rw [hpair hsame huser] at hid
  cases hid

/-- The owner is the object of the list, the admins are its texts. -/
theorem listOf_parts {conversation : ConversationModel}
    (howner : conversation.params.ownerId.isId = true) :
    Ref.objects (listOf s conversation) = [conversation.params.ownerId] ∧
      Ref.values (listOf s conversation) = adminsOf s conversation.id := by
  cases hid : conversation.params.ownerId with
  | id value =>
      rw [listOf, hid]
      simp [StoredId.loaded, Ref.object?, Ref.value?]
  | raw value =>
      rw [hid] at howner
      cases howner

/-- Which set of all lists has no user twice. -/
theorem nodup_adminIds_iff
    (howners : ∀ conversation ∈ conversations,
      conversation.params.ownerId.isId = true) :
    ((Ref.setOf (conversations.flatMap (listOf s))).map Ref.content).Nodup ↔
      OwnersApart s conversations := by
  have hobjects : Ref.objects (conversations.flatMap (listOf s)) =
      conversations.map (fun conversation =>
        conversation.params.ownerId) := by
    rw [Ref.objects_flatMap, List.map_eq_flatMap]
    exact List.flatMap_congr (fun conversation hmem =>
      (listOf_parts (howners conversation hmem)).1)
  have hvalues : Ref.values (conversations.flatMap (listOf s)) =
      conversations.flatMap (fun conversation =>
        adminsOf s conversation.id) := by
    rw [Ref.values_flatMap]
    exact List.flatMap_congr (fun conversation hmem =>
      (listOf_parts (howners conversation hmem)).2)
  rw [Ref.nodup_setOf_iff, hobjects, hvalues, OwnersApart]
  simp

theorem content_listOf (s : ConversationStore)
    (conversation : ConversationModel) :
    (listOf s conversation).map Ref.content =
      conversation.params.ownerId :: adminsOf s conversation.id := by
  have howner : conversation.params.ownerId.loaded.content =
      conversation.params.ownerId := by
    rw [StoredId.loaded.eq_def]
    split <;> next hid => rw [hid]; rfl
  have hadmins : Ref.content ∘ Ref.value = (id : StoredId → StoredId) := rfl
  rw [listOf, List.map_cons, howner, List.map_map, hadmins, List.map_id]

/-! ### When the lists are right -/

theorem exists_listsAdmins_iff (hs : Regular s)
    (hstored : ∀ conversation ∈ conversations,
      s.conversations.get? conversation.id = some conversation.params)
    (hnodup : (conversations.map ConversationModel.id).Nodup) :
    (∃ answer, findConversationsAdminIds conversations s = .ok answer ∧
        ListsAdmins s conversations answer) ↔
      OwnersApart s conversations := by
  obtain ⟨answer, hfound, hbyCids, hadminIds⟩ :=
    findConversationsAdminIds_eq hs hnodup
  have hlists : (answer.adminIds.map Ref.content).Nodup ↔
      OwnersApart s conversations := by
    rw [hadminIds]
    exact nodup_adminIds_iff (fun conversation hmem =>
      hs.owners _ _ (hstored conversation hmem))
  constructor
  · rintro ⟨other, hother, hlisted⟩
    rw [hfound] at hother
    cases hother
    exact hlists.1 hlisted.adminIds
  · intro hapart
    refine ⟨answer, hfound, ?_, hlists.2 hapart⟩
    intro conversation hmem
    refine ⟨_, hbyCids conversation hmem, ?_, ?_⟩
    · rw [content_listOf]
      exact List.nodup_cons.2 ⟨hapart.2 conversation hmem conversation hmem,
        nodup_adminsOf hs conversation.id⟩
    · intro userId
      rw [content_listOf, List.mem_cons, mem_adminsOf]

/-- In every reachable store the lists are right when no owner is owner or
admin a second time, and then only. -/
theorem listsAdmins_iff (config : ConversationConfig)
    (events : List ConversationEvent) {session : ConversationSession}
    {conversations : List ConversationModel}
    (hadministers : ∀ conversation ∈ conversations,
      MayAdminister session (run config events) conversation)
    (hnodup : (conversations.map ConversationModel.id).Nodup) :
    (∃ answer, findConversationsAdminIds conversations (run config events) =
        .ok answer ∧ ListsAdmins (run config events) conversations answer) ↔
      OwnersApart (run config events) conversations :=
  exists_listsAdmins_iff (regular_run config events)
    (fun conversation hmem => (hadministers conversation hmem).1) hnodup

instance (session : ConversationSession) (s : ConversationStore)
    (conversation : ConversationModel) :
    Decidable (MayAdminister session s conversation) :=
  inferInstanceAs (Decidable (_ ∧ _))

instance (s : ConversationStore) (conversations : List ConversationModel) :
    Decidable (OwnersApart s conversations) :=
  inferInstanceAs (Decidable (_ ∧ _))

/-- A group of two users whose owner changes the admins. -/
def groupRun (admins : List IdParam) : List ConversationEvent :=
  [.userCreated 9, .userCreated 9,
    .requested ⟨0, 9⟩ (.create ⟨.g, some "team", none, none, none,
      some [.hex 1 true], none⟩),
    .requested ⟨0, 9⟩ (.update ⟨.hex 3 true, ⟨none, none, none, none⟩,
      some ⟨some admins, none⟩⟩)]

def groupConfig : ConversationConfig :=
  ⟨50, false, fun _ _ => true, .oldestFirst⟩

theorem otherAdmin_listed :
    (∀ conversation ∈ (run groupConfig (groupRun [.hex 1 true])).models,
      MayAdminister ⟨0, 9⟩ (run groupConfig (groupRun [.hex 1 true]))
        conversation) ∧
    ∃ answer, findConversationsAdminIds
        (run groupConfig (groupRun [.hex 1 true])).models
        (run groupConfig (groupRun [.hex 1 true])) = .ok answer ∧
      ListsAdmins (run groupConfig (groupRun [.hex 1 true]))
        (run groupConfig (groupRun [.hex 1 true])).models answer := by
  have hadministers : ∀ conversation ∈
      (run groupConfig (groupRun [.hex 1 true])).models,
      MayAdminister ⟨0, 9⟩ (run groupConfig (groupRun [.hex 1 true]))
        conversation := by
    decide +kernel
  exact ⟨hadministers, (listsAdmins_iff groupConfig (groupRun [.hex 1 true])
    hadministers (by decide +kernel)).2 (by decide +kernel)⟩

/-- An owner who is given the role is listed as an object and as a text. -/
theorem ownerAsAdmin_twice :
    (∀ conversation ∈ (run groupConfig (groupRun [.hex 0 true])).models,
      MayAdminister ⟨0, 9⟩ (run groupConfig (groupRun [.hex 0 true]))
        conversation) ∧
    ¬ ∃ answer, findConversationsAdminIds
        (run groupConfig (groupRun [.hex 0 true])).models
        (run groupConfig (groupRun [.hex 0 true])) = .ok answer ∧
      ListsAdmins (run groupConfig (groupRun [.hex 0 true]))
        (run groupConfig (groupRun [.hex 0 true])).models answer := by
  refine ⟨by decide +kernel, ?_⟩
  rintro ⟨answer, hfound, hlists⟩
  have hcomputed : (findConversationsAdminIds
      (run groupConfig (groupRun [.hex 0 true])).models
      (run groupConfig (groupRun [.hex 0 true]))).toOption.map (fun answer =>
        answer.adminIds.map Ref.content) = some [.id 0, .id 0] := by
    decide +kernel
  rw [hfound] at hcomputed
  have hids : answer.adminIds.map Ref.content = [.id 0, .id 0] :=
    Option.some_inj.1 hcomputed
  have hnodup := hlists.adminIds
  rw [hids] at hnodup
  revert hnodup
  decide

/-! ### The request -/

theorem nodup_models (s : ConversationStore) :
    (s.models.map ConversationModel.id).Nodup := by
  rw [models, List.map_map]
  exact s.conversations.keys_nodup

theorem findByIdsWithOrgScope_ok {organizationId : ObjectId}
    {cids : List IdParam} {found : List ConversationModel}
    (hfound : s.findByIdsWithOrgScope organizationId cids = .ok found) :
    found.Sublist s.models ∧ ∀ conversation ∈ found,
      conversation.params.organizationId = organizationId := by
  rw [findByIdsWithOrgScope] at hfound
  split at hfound
  · cases hfound
  · cases hfound
    refine ⟨(List.take_sublist _ _).trans List.filter_sublist, ?_⟩
    intro conversation hmem
    exact (of_decide_eq_true
      (List.mem_filter.1 (List.mem_of_mem_take hmem)).2).1

theorem mem_adminsOf_of_available {ids : List ObjectId} {userId c : ObjectId}
    (hmem : c ∈ s.filterAvailableConversationIds ids userId (some .admin)) :
    .id userId ∈ adminsOf s c := by
  obtain ⟨row, hrow, rfl⟩ := List.mem_map.1 hmem
  obtain ⟨hstored, hmatched⟩ :=
    List.mem_filter.1 (List.mem_of_mem_take hrow)
  obtain ⟨_, huser, hrole⟩ := of_decide_eq_true hmatched
  refine (mem_adminsOf s _ _).2 ⟨row, ?_, huser, of_decide_eq_true hrole⟩
  exact List.mem_filter.2 ⟨hstored, decide_eq_true rfl⟩

/-- The conversations that a request is checked for are stored, different,
and of a caller who may administer them. -/
theorem mayAdminister_of_validated {session : ConversationSession}
    {cids : List IdParam}
    (hvalidated : validateConvIdsWhichUserHasAccessAsAdmin session cids s =
      .ok conversations) :
    (conversations.map ConversationModel.id).Nodup ∧
      ∀ conversation ∈ conversations,
        MayAdminister session s conversation := by
  rw [validateConvIdsWhichUserHasAccessAsAdmin] at hvalidated
  cases hquery : s.findByIdsWithOrgScope session.organizationId cids with
  | error error =>
      rw [hquery] at hvalidated
      cases hvalidated
  | ok found =>
      rw [hquery] at hvalidated
      cases hvalidated
      obtain ⟨hsublist, horganization⟩ := findByIdsWithOrgScope_ok hquery
      constructor
      · -- the two parts are disjoint parts of what was found
        have hparts := List.filter_append_perm (fun conversation =>
          conversation.params.ownerId = .id session.userId) found
        have hfound := (nodup_models s).sublist
          (hsublist.map ConversationModel.id)
        rw [← (hparts.map ConversationModel.id).nodup_iff] at hfound
        refine hfound.sublist (List.Sublist.map _
          (List.Sublist.append (List.Sublist.refl _) ?_))
        simp only [decide_not]
        exact List.filter_sublist
      · intro conversation hmem
        have hmodel : conversation ∈ found := by
          rcases List.mem_append.1 hmem with howned | hleft
          · exact (List.mem_filter.1 howned).1
          · exact (List.mem_filter.1 (List.mem_filter.1 hleft).1).1
        refine ⟨mem_models.1 (hsublist.subset hmodel),
          horganization conversation hmodel, ?_⟩
        rcases List.mem_append.1 hmem with howned | hleft
        · exact Or.inl (of_decide_eq_true (List.mem_filter.1 howned).2)
        · exact Or.inr (mem_adminsOf_of_available
            (of_decide_eq_true (List.mem_filter.1 hleft).2))

end ConversationService

open ConversationService in
/-- `get_admins_by_cids` in a reachable store.  When it answers, the lists
are right for the conversations that were checked unless an owner among them
is owner or admin a second time. -/
theorem ConversationOperations.listAdmins_right
    (config : ConversationConfig) (events : List ConversationEvent)
    {session : ConversationSession} {cids : List IdParam}
    {conversations : List ConversationModel}
    (hvalidated : validateConvIdsWhichUserHasAccessAsAdmin session cids
      (ConversationStore.run config events) = .ok conversations)
    (hapart : OwnersApart (ConversationStore.run config events)
      conversations) :
    ∃ answer, listAdmins session cids (ConversationStore.run config events) =
        .ok answer ∧
      ListsAdmins (ConversationStore.run config events) conversations
        answer := by
  obtain ⟨hnodup, hadministers⟩ := mayAdminister_of_validated hvalidated
  rw [listAdmins, hvalidated]
  change ∃ answer, (if conversations = [] then _ else _) = _ ∧ _
  split
  · next hnone =>
      subst hnone
      exact ⟨_, rfl, by simp, List.nodup_nil⟩
  · exact (exists_listsAdmins_iff (ConversationStore.regular_run config
      events) (fun conversation hmem => (hadministers conversation hmem).1)
      hnodup).2 hapart

end SamaServer
