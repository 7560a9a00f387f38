/-
The collection of reactions.  An added reaction is looked up and then
inserted, in two commands and without a unique index, and two aggregations
count the rows: one for each reaction, the other by the users of each.
-/
import Mathlib.Data.List.Dedup
import Mathlib.Data.List.Sort
import SamaServer.Async
import SamaServer.ChatStore

namespace SamaServer

/-- What one command does with the rows of a reaction. -/
inductive ReactionCommand
  | findOne (row : MessageReaction)
  | insertOne (row : MessageReaction)
  | deleteMany (row : MessageReaction)
deriving DecidableEq

namespace MessageReactions

abbrev ReactionProgram := Async ReactionCommand (List MessageReaction)

open Async (atomic)

/-! ### Commands -/

def remove (row : MessageReaction) : ReactionProgram Bool :=
  atomic (.deleteMany row) (fun rows =>
    (decide (row ∈ rows), rows.filter (fun stored => stored ≠ row)))

def upsert (row : MessageReaction) : ReactionProgram Bool := do
  let existed ← atomic (.findOne row) (fun rows =>
    (decide (row ∈ rows), rows))
  if existed then pure false
  else do
    atomic (.insertOne row) (fun rows => ((), rows ++ [row]))
    pure true

structure UpdatedReactions where
  add : Bool
  remove : Bool
deriving DecidableEq

/-- Work on a reaction that was given and is not empty. -/
def ifPresent (mid userId : ObjectId) (reaction : Option String)
    (work : MessageReaction → ReactionProgram Bool) :
    ReactionProgram Bool :=
  match reaction.filter (· ≠ "") with
  | some reaction => work ⟨mid, userId, reaction⟩
  | none => pure false

def updateReactions (mid userId : ObjectId)
    (addReaction removeReaction : Option String) :
    ReactionProgram UpdatedReactions := do
  let add ← ifPresent mid userId addReaction upsert
  let removed ← ifPresent mid userId removeReaction remove
  pure ⟨add, removed⟩

theorem run_upsert (row : MessageReaction) (rows : List MessageReaction) :
    (upsert row).run rows =
      if row ∈ rows then (false, rows) else (true, rows ++ [row]) := by
  simp only [upsert, atomic, Async.run_bind, Async.run]
  by_cases hrow : row ∈ rows
  · simp [hrow]
  · simp [hrow, Async.run]

theorem run_add (chat : ChatStore) (mid userId : ObjectId)
    (reaction : Option String) :
    (ifPresent mid userId reaction upsert).run chat.reactions =
      ((chat.addReaction mid userId reaction).1,
        (chat.addReaction mid userId reaction).2.reactions) := by
  rw [ifPresent, ChatStore.addReaction]
  cases reaction.filter (· ≠ "") with
  | none => rfl
  | some reaction =>
      simp only [run_upsert]
      split <;> rfl

theorem run_remove (chat : ChatStore) (mid userId : ObjectId)
    (reaction : Option String) :
    (ifPresent mid userId reaction remove).run chat.reactions =
      ((chat.removeReaction mid userId reaction).1,
        (chat.removeReaction mid userId reaction).2.reactions) := by
  rw [ifPresent, ChatStore.removeReaction]
  cases reaction.filter (· ≠ "") with
  | none => rfl
  | some reaction =>
      dsimp only
      split
      · next hrow => simp [remove, atomic, Async.run, hrow]
      · next hrow =>
          have hkept : chat.reactions.filter (fun stored =>
              stored ≠ ⟨mid, userId, reaction⟩) = chat.reactions := by
            refine List.filter_eq_self.2 (fun stored hstored => ?_)
            exact decide_eq_true (fun heq => hrow (heq ▸ hstored))
          simp only [remove, atomic, Async.run, hrow, hkept, decide_false]

/-- What a request does to the rows when no other one comes in between. -/
theorem run_updateReactions (chat : ChatStore) (mid userId : ObjectId)
    (addReaction removeReaction : Option String) :
    (updateReactions mid userId addReaction removeReaction).run
        chat.reactions =
      (⟨(chat.addReaction mid userId addReaction).1,
        ((chat.addReaction mid userId addReaction).2.removeReaction mid
          userId removeReaction).1⟩,
      (chat.updateReactions mid userId addReaction
        removeReaction).2.reactions) := by
  rw [updateReactions, Async.run_bind, run_add, Async.run_bind, run_remove]
  rfl

/-! ### Aggregations -/

/-- An assignment to a property of a plain object.  One to `__proto__` makes
no property. -/
def setProperty {V : Type} (object : OrderedMap String V) (key : String)
    (value : V) : OrderedMap String V :=
  if key = "__proto__" then object else object.set key value

/-- The code units of a text, by which texts are sorted. -/
def codeUnits (text : String) : List Nat :=
  text.toList.flatMap (fun c =>
    if c.toNat < 65536 then [c.toNat]
    else [55296 + (c.toNat - 65536) / 1024, 56320 + (c.toNat - 65536) % 1024])

def sortTexts (texts : List String) : List String :=
  texts.insertionSort (fun text other =>
    (codeUnits other).lex (codeUnits text) (fun unit next => unit < next) =
      false)

/-- Ids are sorted by their texts, which is the order of the ids. -/
def sortIds (ids : List ObjectId) : List ObjectId :=
  ids.insertionSort (· ≤ ·)

/-- The reactions of a message, one group for each. -/
def reactionsOf (rows : List MessageReaction) (mid : ObjectId) :
    List String :=
  ((rows.filter (fun row => row.mid = mid)).map
    MessageReaction.reaction).dedup

/-- The rows of one group. -/
def groupOf (rows : List MessageReaction) (mid : ObjectId)
    (reaction : String) : List MessageReaction :=
  rows.filter (fun row => row.mid = mid ∧ row.reaction = reaction)

structure UserReactions where
  own : List String
  total : OrderedMap String Nat

/-- The elements that a group collects in `own`: the reaction for a row of
the user and an empty list for any other row. -/
def ownOf (rows : List MessageReaction) (mid userId : ObjectId)
    (reaction : String) : List (Option String) :=
  ((groupOf rows mid reaction).map (fun row =>
    if row.userId = userId then some reaction else none)).dedup

/-- `aggregateForUserMessages` for one message with reactions. -/
def userReactions (rows : List MessageReaction) (mid userId : ObjectId) :
    UserReactions where
  -- the lists of all groups, flattened twice
  own := sortTexts (((reactionsOf rows mid).map
    (ownOf rows mid userId)).dedup.flatten.filterMap id)
  total := (reactionsOf rows mid).foldl (fun acc reaction =>
    setProperty acc reaction (groupOf rows mid reaction).length) .empty

def aggregateForUserMessages (rows : List MessageReaction)
    (mIds : List ObjectId) (userId : ObjectId) :
    OrderedMap ObjectId UserReactions :=
  ((rows.filter (fun row => row.mid ∈ mIds)).map
    MessageReaction.mid).dedup.foldl (fun acc mid =>
      acc.set mid (userReactions rows mid userId)) .empty

def aggregateMessageReactions (rows : List MessageReaction)
    (mid : ObjectId) : OrderedMap String (List ObjectId) :=
  (reactionsOf rows mid).foldl (fun acc reaction =>
    setProperty acc reaction (sortIds ((groupOf rows mid reaction).map
      MessageReaction.userId).dedup)) .empty

/-- The totals are the numbers of users, and the own reactions of a user are
those that have the user in their lists. -/
def Agree (rows : List MessageReaction) : Prop :=
  ∀ mIds mid userId, mid ∈ mIds →
    let counted := (aggregateForUserMessages rows mIds userId).get? mid
    let users := aggregateMessageReactions rows mid
    (∀ reaction, counted.bind (fun result => result.total.get? reaction) =
      (users.get? reaction).map List.length) ∧
    ∀ reaction, reaction ∈ (counted.map UserReactions.own).getD [] ↔
      ∃ userIds, users.get? reaction = some userIds ∧ userId ∈ userIds

variable {rows : List MessageReaction} {mid userId : ObjectId}
  {reaction : String}

theorem get?_setProperty {V : Type} (object : OrderedMap String V)
    (key other : String) (value : V) :
    (setProperty object key value).get? other =
      if other = key ∧ other ≠ "__proto__" then some value
      else object.get? other := by
  unfold setProperty
  by_cases hproto : key = "__proto__"
  · simp [hproto]
  · by_cases hkey : other = key
    · simp [hproto, hkey]
    · simp [hproto, hkey]

/-- The properties that a loop over keys has set. -/
theorem get?_foldl_setProperty {V : Type} (value : String → V)
    (keys : List String) (object : OrderedMap String V) (key : String) :
    (keys.foldl (fun acc key => setProperty acc key (value key))
        object).get? key =
      if key ∈ keys ∧ key ≠ "__proto__" then some (value key)
      else object.get? key := by
  induction keys generalizing object with
  | nil => simp
  | cons first keys ih =>
      rw [List.foldl_cons, ih, get?_setProperty]
      by_cases hproto : key = "__proto__"
      · simp [hproto]
      · by_cases hfirst : key = first
        · subst hfirst
          simp [hproto]
        · simp [hfirst, hproto]

theorem get?_foldl_set {K V : Type} [DecidableEq K] (value : K → V)
    (keys : List K) (object : OrderedMap K V) (key : K) :
    (keys.foldl (fun acc key => acc.set key (value key)) object).get? key =
      if key ∈ keys then some (value key) else object.get? key := by
  induction keys generalizing object with
  | nil => simp
  | cons first keys ih =>
      rw [List.foldl_cons, ih, OrderedMap.get?_set]
      by_cases hfirst : key = first
      · simp [hfirst]
      · simp [hfirst]

theorem mem_reactionsOf :
    reaction ∈ reactionsOf rows mid ↔
      ∃ row ∈ rows, row.mid = mid ∧ row.reaction = reaction := by
  simp [reactionsOf, and_assoc]

theorem get?_total (rows : List MessageReaction) (mid userId : ObjectId)
    (reaction : String) :
    (userReactions rows mid userId).total.get? reaction =
      if reaction ∈ reactionsOf rows mid ∧ reaction ≠ "__proto__" then
        some (groupOf rows mid reaction).length
      else none :=
  get?_foldl_setProperty _ _ _ _

theorem get?_aggregateMessageReactions (rows : List MessageReaction)
    (mid : ObjectId) (reaction : String) :
    (aggregateMessageReactions rows mid).get? reaction =
      if reaction ∈ reactionsOf rows mid ∧ reaction ≠ "__proto__" then
        some (sortIds ((groupOf rows mid reaction).map
          MessageReaction.userId).dedup)
      else none :=
  get?_foldl_setProperty _ _ _ _

/-- A message with reactions is in the result. -/
theorem get?_aggregateForUserMessages {mIds : List ObjectId}
    (hmid : mid ∈ mIds) (userId : ObjectId) :
    (aggregateForUserMessages rows mIds userId).get? mid =
      if ∃ row ∈ rows, row.mid = mid then
        some (userReactions rows mid userId)
      else none := by
  rw [aggregateForUserMessages, get?_foldl_set]
  refine if_congr ?_ rfl rfl
  simp only [List.mem_dedup, List.mem_map, List.mem_filter,
    decide_eq_true_eq]
  constructor
  · rintro ⟨row, ⟨hrow, -⟩, heq⟩
    exact ⟨row, hrow, heq⟩
  · rintro ⟨row, hrow, heq⟩
    exact ⟨row, ⟨hrow, heq ▸ hmid⟩, heq⟩

theorem mem_own :
    reaction ∈ (userReactions rows mid userId).own ↔
      (⟨mid, userId, reaction⟩ : MessageReaction) ∈ rows := by
  rw [userReactions, sortTexts, (List.perm_insertionSort _ _).mem_iff]
  simp only [List.mem_filterMap, List.mem_flatten, List.mem_dedup,
    List.mem_map, id_eq, exists_eq_right, ownOf, groupOf]
  constructor
  · rintro ⟨_, ⟨group, -, rfl⟩, hown⟩
    simp only [List.mem_dedup, List.mem_map, List.mem_filter,
      decide_eq_true_eq] at hown
    obtain ⟨row, ⟨hrow, hmid, hreaction⟩, hsome⟩ := hown
    split at hsome
    · next huser =>
        cases hsome
        rw [← hmid, ← huser, ← hreaction]
        exact hrow
    · cases hsome
  · intro hrow
    refine ⟨_, ⟨reaction, mem_reactionsOf.2 ⟨_, hrow, rfl, rfl⟩, rfl⟩, ?_⟩
    simp only [List.mem_dedup, List.mem_map, List.mem_filter,
      decide_eq_true_eq]
    exact ⟨_, ⟨hrow, rfl, rfl⟩, if_pos rfl⟩

/-- The users of a reaction. -/
theorem mem_userIds :
    userId ∈ sortIds ((groupOf rows mid reaction).map
        MessageReaction.userId).dedup ↔
      (⟨mid, userId, reaction⟩ : MessageReaction) ∈ rows := by
  rw [sortIds, (List.perm_insertionSort _ _).mem_iff, List.mem_dedup,
    List.mem_map]
  simp only [groupOf, List.mem_filter, decide_eq_true_eq]
  constructor
  · rintro ⟨row, ⟨hrow, hmid, hreaction⟩, huser⟩
    rw [← hmid, ← huser, ← hreaction]
    exact hrow
  · intro hrow
    exact ⟨_, ⟨hrow, rfl, rfl⟩, rfl⟩

theorem length_sortIds (ids : List ObjectId) :
    (sortIds ids).length = ids.length :=
  (List.perm_insertionSort _ _).length_eq

/-- Rows that are stored once have different users in every group. -/
theorem nodup_users (hnodup : rows.Nodup) (mid : ObjectId)
    (reaction : String) :
    ((groupOf rows mid reaction).map MessageReaction.userId).Nodup := by
  refine List.Nodup.map_on ?_ (hnodup.filter _)
  intro row hrow other hother huser
  simp only [groupOf, List.mem_filter, decide_eq_true_eq] at hrow hother
  cases row
  cases other
  simp only [MessageReaction.mk.injEq] at huser ⊢
  exact ⟨hrow.2.1.trans hother.2.1.symm, huser,
    hrow.2.2.trans hother.2.2.symm⟩

/-- The aggregations agree on rows that are stored once and can be named. -/
theorem agree_of_nodup (hnodup : rows.Nodup)
    (hnamed : ∀ row ∈ rows, row.reaction ≠ "__proto__") : Agree rows := by
  intro mIds mid userId hmid
  have hproto : ∀ reaction, reaction ∈ reactionsOf rows mid →
      reaction ≠ "__proto__" := by
    intro reaction hreaction
    obtain ⟨row, hrow, -, rfl⟩ := mem_reactionsOf.1 hreaction
    exact hnamed row hrow
  dsimp only
  rw [get?_aggregateForUserMessages hmid]
  constructor
  · intro reaction
    rw [get?_aggregateMessageReactions]
    by_cases hreaction : reaction ∈ reactionsOf rows mid
    · obtain ⟨row, hrow, hrowMid, -⟩ := mem_reactionsOf.1 hreaction
      have hboth := And.intro hreaction (hproto reaction hreaction)
      rw [if_pos ⟨row, hrow, hrowMid⟩, Option.bind_some, get?_total,
        if_pos hboth, if_pos hboth, Option.map_some, length_sortIds,
        (nodup_users hnodup mid reaction).dedup, List.length_map]
    · have hneither := fun hboth :
          reaction ∈ reactionsOf rows mid ∧ reaction ≠ "__proto__" =>
        hreaction hboth.1
      rw [if_neg hneither]
      split
      · rw [Option.bind_some, get?_total, if_neg hneither]
        rfl
      · rfl
  · intro reaction
    rw [get?_aggregateMessageReactions]
    by_cases hrow : (⟨mid, userId, reaction⟩ : MessageReaction) ∈ rows
    · have hreaction := mem_reactionsOf.2 ⟨_, hrow, rfl, rfl⟩
      rw [if_pos ⟨_, hrow, rfl⟩,
        if_pos ⟨hreaction, hproto reaction hreaction⟩]
      exact iff_of_true (mem_own.2 hrow) ⟨_, rfl, mem_userIds.2 hrow⟩
    · refine iff_of_false ?_ ?_
      · intro hown
        split at hown
        · exact hrow (mem_own.1 hown)
        · cases hown
      · rintro ⟨userIds, hfound, huser⟩
        split at hfound
        · cases hfound
          exact hrow (mem_userIds.1 huser)
        · cases hfound

end MessageReactions

end SamaServer
