/-
The block list.  A unique index allows one row for each pair of users; a bulk
insert goes through its rows in order, stops at the first that the index
refuses and keeps the ones before it.
-/
import SamaServer.ConversationOperations

namespace SamaServer

/-- A row of `blocked_users`. -/
structure BlockedUser where
  organizationId : ObjectId
  userId : ObjectId
  blockedUserId : ObjectId
  enabled : Bool
deriving DecidableEq

/-- The columns of the unique index. -/
def BlockedUser.key (row : BlockedUser) : ObjectId × ObjectId :=
  (row.userId, row.blockedUserId)

/-- The collection `blocked_users` with its unique index. -/
structure BlockList where
  rows : List BlockedUser
  unique : (rows.map BlockedUser.key).Nodup

/-- How a request on the block list fails: at its schema, in the query for the
users, because the caller is among them, with a batch that is empty, or at the
unique index. -/
inductive BlockError
  | validation
  | databaseError
  | selfUser
  | emptyBatch
  | duplicateKey
deriving DecidableEq

namespace BlockList

def empty : BlockList := ⟨[], List.nodup_nil⟩

def keys (list : BlockList) : List (ObjectId × ObjectId) :=
  list.rows.map BlockedUser.key

def insert (list : BlockList) (row : BlockedUser)
    (hnew : row.key ∉ list.keys) : BlockList where
  rows := list.rows ++ [row]
  unique := by
    rw [List.map_append, List.nodup_append']
    refine ⟨list.unique, List.nodup_singleton _, ?_⟩
    intro key hkey hrow
    rw [List.map_singleton, List.mem_singleton] at hrow
    exact hnew (hrow ▸ hkey)

/-- The rows of an ordered bulk insert, one after the other. -/
def insertMany : List BlockedUser → BlockList →
    Except BlockError Unit × BlockList
  | [], list => (.ok (), list)
  | row :: rows, list =>
      if hkey : row.key ∈ list.keys then (.error .duplicateKey, list)
      else insertMany rows (list.insert row hkey)

/-- The driver refuses a batch without rows. -/
def createMany (params : List BlockedUser) (list : BlockList) :
    Except BlockError Unit × BlockList :=
  if params = [] then (.error .emptyBatch, list) else insertMany params list

def blockMany (organizationId userId : ObjectId)
    (blockUserIds : List ObjectId) (list : BlockList) :
    Except BlockError Unit × BlockList :=
  if userId ∈ blockUserIds then (.error .selfUser, list)
  else createMany (blockUserIds.map (fun blockedUserId =>
    ⟨organizationId, userId, blockedUserId, true⟩)) list

/-- What the schema takes for the id of a user. -/
def isAcceptedId : IdParam → Bool
  | .text value => 24 ≤ utf16Length value
  | _ => true

/-- `block_user`. -/
def block (s : ConversationStore) (session : ConversationSession)
    (ids : List IdParam) (list : BlockList) :
    Except BlockError Unit × BlockList :=
  if ids.all isAcceptedId then
    match s.retrieveExistedIds session.organizationId ids with
    | .error _ => (.error .databaseError, list)
    | .ok normalizedIds =>
        blockMany session.organizationId session.userId normalizedIds list
  else (.error .validation, list)

def filterRows (keep : BlockedUser → Bool) (list : BlockList) :
    BlockList where
  rows := list.rows.filter keep
  unique := list.unique.sublist (List.filter_sublist.map _)

/-- `unblock_user`. -/
def unblock (session : ConversationSession) (ids : List IdParam)
    (list : BlockList) : Except BlockError Unit × BlockList :=
  if ids.all isAcceptedId then
    if ids.any (fun param => param.operator?.isSome) then
      (.error .databaseError, list)
    else
      (.ok (), list.filterRows (fun row => ¬ (row.userId = session.userId ∧
        row.blockedUserId ∈ ids.filterMap IdParam.namedId?)))
  else (.error .validation, list)

/-- `block_list_enable`: all rows of the caller at once. -/
def enable (session : ConversationSession) (isEnabled : Bool)
    (list : BlockList) : BlockList where
  rows := list.rows.map (fun row =>
    if row.userId = session.userId then { row with enabled := isEnabled }
    else row)
  unique := by
    have hkeys : (list.rows.map (fun row =>
        if row.userId = session.userId then { row with enabled := isEnabled }
        else row)).map BlockedUser.key = list.rows.map BlockedUser.key := by
      rw [List.map_map]
      apply List.map_congr_left
      intro row _
      rw [Function.comp_apply]
      split <;> rfl
    rw [hkeys]
    exact list.unique

/-- The rows of a user who is deleted, in both directions. -/
def deleteAllBlocks (userId : ObjectId) (list : BlockList) : BlockList :=
  list.filterRows (fun row =>
    ¬ (row.userId = userId ∨ row.blockedUserId = userId))

/-! ### Bulk inserts -/

/-- The rows that were new are inserted up to the first that was not. -/
theorem insertMany_cases (rows : List BlockedUser) (list : BlockList)
    (hnodup : (rows.map BlockedUser.key).Nodup) :
    (∃ after, insertMany rows list = (.ok (), after) ∧
      after.rows = list.rows ++ rows ∧
      ∀ row ∈ rows, row.key ∉ list.keys) ∨
    ∃ before row later after, rows = before ++ row :: later ∧
      row.key ∈ list.keys ∧ (∀ earlier ∈ before, earlier.key ∉ list.keys) ∧
      insertMany rows list = (.error .duplicateKey, after) ∧
      after.rows = list.rows ++ before := by
  induction rows generalizing list with
  | nil => exact Or.inl ⟨list, rfl, by simp, by simp⟩
  | cons row rows ih =>
      rw [List.map_cons, List.nodup_cons] at hnodup
      by_cases hkey : row.key ∈ list.keys
      · refine Or.inr ⟨[], row, rows, list, rfl, hkey, by simp, ?_, by simp⟩
        rw [insertMany, dif_pos hkey]
      · have hold : ∀ other : BlockedUser, other ∈ rows →
            (other.key ∈ (list.insert row hkey).keys ↔
              other.key ∈ list.keys) := by
          intro other hother
          have hne : other.key ≠ row.key := by
            intro heq
            exact hnodup.1 (heq ▸ List.mem_map_of_mem hother)
          simp [keys, insert, hne]
        rcases ih (list.insert row hkey) hnodup.2 with
          ⟨after, hinsert, hrows, hnew⟩ |
          ⟨before, found, later, after, rfl, hfound, hbefore, hinsert,
            hrows⟩
        · refine Or.inl ⟨after, ?_, ?_, ?_⟩
          · rw [insertMany, dif_neg hkey]
            exact hinsert
          · rw [hrows, insert, List.append_assoc, List.singleton_append]
          · intro other hother
            rcases List.mem_cons.1 hother with rfl | hlater
            · exact hkey
            · exact fun hmem => hnew other hlater ((hold other hlater).2 hmem)
        · refine Or.inr ⟨row :: before, found, later, after, rfl,
            (hold found (by simp)).1 hfound, ?_, ?_, ?_⟩
          · intro earlier hearlier
            rcases List.mem_cons.1 hearlier with rfl | hlater
            · exact hkey
            · exact fun hmem => hbefore earlier hlater
                ((hold earlier (by simp [hlater])).2 hmem)
          · rw [insertMany, dif_neg hkey]
            exact hinsert
          · rw [hrows, insert, List.append_assoc, List.singleton_append]

/-! ### Block requests -/

/-- The rows of a user. -/
def rowsOf (list : BlockList) (userId : ObjectId) : List BlockedUser :=
  list.rows.filter (fun row => row.userId = userId)

/-- A request succeeds and every user of the organization in its list is
blocked once, or it fails and the rows of the caller stay as they are. -/
def AllOrNothing (s : ConversationStore) (session : ConversationSession)
    (ids : List IdParam) (list : BlockList) :
    Except BlockError Unit × BlockList → Prop
  | (.ok _, after) => ∀ id ∈ ids.filterMap IdParam.namedId?,
      s.users.get? id = some session.organizationId →
      ((after.rowsOf session.userId).filter (fun row =>
        row.blockedUserId = id)).length = 1
  | (.error _, after) => after.rowsOf session.userId =
      list.rowsOf session.userId

/-- If one of the users that are found is already blocked, then the first one
is. -/
def FirstIsBlocked (s : ConversationStore) (session : ConversationSession)
    (ids : List IdParam) (list : BlockList) : Prop :=
  ids.all isAcceptedId = true → ∀ normalizedIds,
    s.retrieveExistedIds session.organizationId ids = .ok normalizedIds →
    session.userId ∉ normalizedIds →
    (∃ id ∈ normalizedIds, (session.userId, id) ∈ list.keys) →
    ∃ id, normalizedIds.head? = some id ∧ (session.userId, id) ∈ list.keys

theorem mem_of_retrieveExistedIds {s : ConversationStore}
    {organizationId : ObjectId} {ids : List IdParam}
    {normalizedIds : List ObjectId}
    (hfound : s.retrieveExistedIds organizationId ids = .ok normalizedIds)
    (id : ObjectId) :
    id ∈ normalizedIds ↔ id ∈ ids.filterMap IdParam.namedId? ∧
      s.users.get? id = some organizationId := by
  rw [ConversationStore.retrieveExistedIds] at hfound
  split at hfound
  · cases hfound
  · cases hfound
    rw [List.mem_map]
    constructor
    · rintro ⟨⟨found, organization⟩, hentry, rfl⟩
      obtain ⟨hentry, hmatch⟩ := List.mem_filter.1 hentry
      rw [decide_eq_true_eq] at hmatch
      rw [OrderedMap.mem_entries_iff] at hentry
      exact ⟨hmatch.2, hmatch.1 ▸ hentry⟩
    · rintro ⟨hnamed, hget⟩
      refine ⟨(id, organizationId), List.mem_filter.2 ⟨?_, ?_⟩, rfl⟩
      · exact (OrderedMap.mem_entries_iff _ _ _).2 hget
      · exact decide_eq_true ⟨rfl, hnamed⟩

theorem nodup_of_retrieveExistedIds {s : ConversationStore}
    {organizationId : ObjectId} {ids : List IdParam}
    {normalizedIds : List ObjectId}
    (hfound : s.retrieveExistedIds organizationId ids = .ok normalizedIds) :
    normalizedIds.Nodup := by
  rw [ConversationStore.retrieveExistedIds] at hfound
  split at hfound
  · cases hfound
  · cases hfound
    exact s.users.keys_nodup.sublist (List.filter_sublist.map _)

/-- The index allows one row for a pair. -/
theorem length_of_mem_keys (list : BlockList) {userId id : ObjectId}
    (hmem : (userId, id) ∈ list.keys) :
    ((list.rowsOf userId).filter (fun row =>
      row.blockedUserId = id)).length = 1 := by
  have hcount : list.keys.count (userId, id) = 1 :=
    List.count_eq_one_of_mem list.unique hmem
  rw [keys, List.count_eq_length_filter, List.filter_map,
    List.length_map] at hcount
  rw [rowsOf, List.filter_filter, ← hcount]
  congr 1
  apply List.filter_congr
  intro row _
  rw [Bool.eq_iff_iff]
  simp [BlockedUser.key, and_comm, Prod.ext_iff]

theorem keys_rowsFor (organizationId userId : ObjectId)
    (ids : List ObjectId) :
    (ids.map (fun id => (⟨organizationId, userId, id, true⟩ :
      BlockedUser))).map BlockedUser.key = ids.map (Prod.mk userId) := by
  rw [List.map_map]
  rfl

/-- The insert for the users that are found, of whom there is at least
one. -/
theorem allOrNothing_insertMany_iff {s : ConversationStore}
    {session : ConversationSession} {ids : List IdParam} {list : BlockList}
    {first : ObjectId} {normalizedIds : List ObjectId}
    (hfound : s.retrieveExistedIds session.organizationId ids =
      .ok (first :: normalizedIds)) :
    AllOrNothing s session ids list
        (insertMany ((first :: normalizedIds).map (fun id =>
          ⟨session.organizationId, session.userId, id, true⟩)) list) ↔
      ((∃ id ∈ first :: normalizedIds, (session.userId, id) ∈ list.keys) →
        (session.userId, first) ∈ list.keys) := by
  have hnodup : (((first :: normalizedIds).map (fun id =>
      (⟨session.organizationId, session.userId, id, true⟩ :
        BlockedUser))).map BlockedUser.key).Nodup := by
    rw [keys_rowsFor]
    exact (nodup_of_retrieveExistedIds hfound).map
      (fun _ _ heq => congrArg Prod.snd heq)
  rcases insertMany_cases _ list hnodup with
    ⟨after, hinsert, hrows, hnew⟩ |
    ⟨before, row, later, after, hsplit, hkey, hbefore, hinsert, hrows⟩
  · rw [hinsert]
    constructor
    · rintro _ ⟨id, hid, hblocked⟩
      exact absurd hblocked (hnew ⟨session.organizationId, session.userId, id,
        true⟩ (List.mem_map.2 ⟨id, hid, rfl⟩))
    · intro _ id hnamed hget
      refine length_of_mem_keys after ?_
      rw [keys, hrows, List.map_append, keys_rowsFor, List.mem_append]
      exact Or.inr (List.mem_map.2 ⟨id,
        (mem_of_retrieveExistedIds hfound id).2 ⟨hnamed, hget⟩, rfl⟩)
  · rw [hinsert]
    change after.rowsOf session.userId = list.rowsOf session.userId ↔ _
    cases before with
    | nil =>
        rw [List.append_nil] at hrows
        rw [List.nil_append, List.map_cons, List.cons.injEq] at hsplit
        refine ⟨fun _ _ => ?_, fun _ => by rw [rowsOf, hrows, rowsOf]⟩
        rw [← hsplit.1] at hkey
        exact hkey
    | cons earlier before =>
        rw [List.cons_append, List.map_cons, List.cons.injEq] at hsplit
        have hearlier := hbefore earlier List.mem_cons_self
        constructor
        · intro hsame
          rw [rowsOf, hrows, List.filter_append, rowsOf,
            List.append_right_eq_self, List.filter_eq_nil_iff] at hsame
          have hother := hsame earlier List.mem_cons_self
          rw [← hsplit.1] at hother
          simp at hother
        · intro hmeets
          have hrow : row ∈ (first :: normalizedIds).map (fun id =>
              (⟨session.organizationId, session.userId, id, true⟩ :
                BlockedUser)) := by
            rw [List.map_cons, hsplit.2]
            simp
          obtain ⟨id, hid, rfl⟩ := List.mem_map.1 hrow
          rw [← hsplit.1] at hearlier
          exact absurd (hmeets ⟨id, hid, hkey⟩) hearlier

/-- Three users, of whom the first has blocked the last. -/
def threeUsers : ConversationStore :=
  ConversationStore.run ⟨50, false, fun _ _ => true, .oldestFirst⟩
    [.userCreated 9, .userCreated 9, .userCreated 9]

def lastIsBlocked : BlockList := (block threeUsers ⟨0, 9⟩ [.hex 2 true] empty).2

end BlockList

end SamaServer
