/-
Finite maps that remember the order in which their keys were first written.
Writing an existing key keeps its place, erasing a key forgets it, and a map
whose values are lists of members is a family of named sets in which an empty
set and a missing set are the same thing.
-/
import Mathlib.Data.List.Nodup

namespace SamaServer

universe u v

/-- A finite map as the list of its entries in insertion order. -/
structure OrderedMap (K : Type u) (V : Type v) where
  entries : List (K × V)
  keys_nodup : (entries.map Prod.fst).Nodup

namespace OrderedMap

variable {K : Type u} {V : Type v}

def empty : OrderedMap K V := ⟨[], List.nodup_nil⟩

def keys (m : OrderedMap K V) : List K := m.entries.map Prod.fst

variable [DecidableEq K]

def get? (m : OrderedMap K V) (key : K) : Option V := m.entries.lookup key

/-- Overwrite one entry in place; every other entry is returned as it is. -/
def overwrite (key : K) (value : V) (entry : K × V) : K × V :=
  if entry.1 = key then (key, value) else entry

theorem overwrite_fst (key : K) (value : V) (entry : K × V) :
    (overwrite key value entry).1 = entry.1 := by
  by_cases hkey : entry.1 = key <;> simp [overwrite, hkey]

theorem overwrite_keys (key : K) (value : V) (entries : List (K × V)) :
    (entries.map (overwrite key value)).map Prod.fst =
      entries.map Prod.fst := by
  simp [Function.comp_def, overwrite_fst]

/-- An existing key keeps its place, a new key goes to the end. -/
def set (m : OrderedMap K V) (key : K) (value : V) : OrderedMap K V :=
  if hkey : key ∈ m.entries.map Prod.fst then
    ⟨m.entries.map (overwrite key value), by
      rw [overwrite_keys]
      exact m.keys_nodup⟩
  else
    ⟨m.entries ++ [(key, value)], by
      rw [List.map_append, List.nodup_append']
      refine ⟨m.keys_nodup, List.nodup_singleton key, ?_⟩
      simpa [List.disjoint_left] using hkey⟩

def erase (m : OrderedMap K V) (key : K) : OrderedMap K V :=
  ⟨m.entries.filter (fun entry => entry.1 ≠ key),
    m.keys_nodup.sublist ((List.filter_sublist).map Prod.fst)⟩

@[simp] theorem get?_empty (key : K) :
    (empty : OrderedMap K V).get? key = none := rfl

theorem lookup_overwrite_self (key : K) (value : V) (entries : List (K × V))
    (hkey : key ∈ entries.map Prod.fst) :
    (entries.map (overwrite key value)).lookup key = some value := by
  induction entries with
  | nil => simp at hkey
  | cons entry rest ih =>
      obtain ⟨name, old⟩ := entry
      by_cases hname : name = key
      · simp [overwrite, hname]
      · have hne : key ≠ name := Ne.symm hname
        have hrest : key ∈ rest.map Prod.fst := by
          simpa only [List.map_cons, List.mem_cons, hne, false_or] using hkey
        simpa [overwrite, hname, List.lookup_cons, beq_false_of_ne hne]
          using ih hrest

theorem lookup_overwrite_ne {key other : K} (hne : other ≠ key) (value : V)
    (entries : List (K × V)) :
    (entries.map (overwrite key value)).lookup other =
      entries.lookup other := by
  induction entries with
  | nil => rfl
  | cons entry rest ih =>
      obtain ⟨name, old⟩ := entry
      by_cases hname : name = key
      · simp [overwrite, hname, List.lookup_cons, beq_false_of_ne hne, ih]
      · simp [overwrite, hname, List.lookup_cons, ih]

theorem lookup_filter_ne (key other : K) (entries : List (K × V)) :
    (entries.filter (fun entry => entry.1 ≠ key)).lookup other =
      if other = key then none else entries.lookup other := by
  induction entries with
  | nil => simp
  | cons entry rest ih =>
      obtain ⟨name, old⟩ := entry
      by_cases hname : name = key
      · by_cases hother : other = key
        · simpa [hname, hother] using ih
        · simpa [hname, hother, List.lookup_cons, beq_false_of_ne hother]
            using ih
      · by_cases hother : other = name
        · simp [hname, hother]
        · simpa [hname, List.lookup_cons, beq_false_of_ne hother] using ih

@[simp] theorem get?_set (m : OrderedMap K V) (key other : K) (value : V) :
    (m.set key value).get? other =
      if other = key then some value else m.get? other := by
  by_cases hkey : key ∈ m.entries.map Prod.fst
  · simp only [get?, set, hkey, ↓reduceDIte]
    by_cases hother : other = key
    · subst other
      rw [lookup_overwrite_self key value m.entries hkey, if_pos rfl]
    · rw [lookup_overwrite_ne hother, if_neg hother]
  · simp only [get?, set, hkey, ↓reduceDIte, List.lookup_append]
    by_cases hother : other = key
    · subst other
      have hnone : m.entries.lookup key = none := by
        rw [List.lookup_eq_none_iff]
        intro entry hentry
        have hne : key ≠ entry.1 := fun heq =>
          hkey (heq ▸ List.mem_map_of_mem hentry)
        simpa using hne
      simp [hnone]
    · have htail : [(key, value)].lookup other = none := by
        simp [List.lookup_cons, beq_false_of_ne hother]
      simp [hother, htail]

@[simp] theorem get?_erase (m : OrderedMap K V) (key other : K) :
    (m.erase key).get? other = if other = key then none else m.get? other :=
  lookup_filter_ne key other m.entries

theorem mem_keys_iff (m : OrderedMap K V) (key : K) :
    key ∈ m.keys ↔ ∃ value, m.get? key = some value := by
  rw [← Option.isSome_iff_exists]
  simp [keys, get?, List.lookup_isSome_iff]

theorem mem_keys_set (m : OrderedMap K V) (key other : K) (value : V) :
    other ∈ (m.set key value).keys ↔ other = key ∨ other ∈ m.keys := by
  rw [mem_keys_iff, mem_keys_iff, get?_set]
  by_cases hother : other = key
  · simp [hother]
  · simp [hother]

/-- Change the value of a key that is there. -/
def modify (m : OrderedMap K V) (key : K) (f : V → V) : OrderedMap K V :=
  match m.get? key with
  | none => m
  | some value => m.set key (f value)

@[simp] theorem get?_modify (m : OrderedMap K V) (key other : K)
    (f : V → V) :
    (m.modify key f).get? other =
      (m.get? other).map (if other = key then f else id) := by
  rw [modify]
  by_cases hother : other = key
  · subst other
    cases hvalue : m.get? key with
    | none => simp [hvalue]
    | some value => simp
  · cases hvalue : m.get? key with
    | none => simp [hother]
    | some value => simp [hother]

theorem mem_keys_modify (m : OrderedMap K V) (key other : K) (f : V → V) :
    other ∈ (m.modify key f).keys ↔ other ∈ m.keys := by
  simp [mem_keys_iff]

theorem mem_entries_iff (m : OrderedMap K V) (key : K) (value : V) :
    (key, value) ∈ m.entries ↔ m.get? key = some value := by
  obtain ⟨entries, hnodup⟩ := m
  simp only [get?]
  induction entries with
  | nil => simp
  | cons entry rest ih =>
      obtain ⟨name, old⟩ := entry
      simp only [List.map_cons, List.nodup_cons] at hnodup
      by_cases hname : key = name
      · subst hname
        have hrest : (key, value) ∉ rest := fun hmem =>
          hnodup.1 (List.mem_map_of_mem hmem)
        simp [hrest, eq_comm]
      · simpa [hname, List.lookup_cons, beq_false_of_ne hname]
          using ih hnodup.2

theorem keys_modify (m : OrderedMap K V) (key : K) (f : V → V) :
    (m.modify key f).keys = m.keys := by
  rw [modify]
  cases hvalue : m.get? key with
  | none => rfl
  | some value =>
      have hkey : key ∈ m.entries.map Prod.fst :=
        (m.mem_keys_iff key).2 ⟨value, hvalue⟩
      dsimp only
      rw [set, dif_pos hkey]
      exact overwrite_keys key (f value) m.entries

theorem keys_set (m : OrderedMap K V) (key : K) (value : V) :
    (m.set key value).keys =
      if key ∈ m.keys then m.keys else m.keys ++ [key] := by
  rw [set]
  by_cases hkey : key ∈ m.entries.map Prod.fst
  · have hmem : key ∈ m.keys := hkey
    rw [dif_pos hkey, if_pos hmem]
    exact overwrite_keys key value m.entries
  · have hnew : key ∉ m.keys := hkey
    rw [dif_neg hkey, if_neg hnew]
    simp [keys]

theorem keys_erase (m : OrderedMap K V) (key : K) :
    (m.erase key).keys = m.keys.filter (fun other => other ≠ key) := by
  simp only [erase, keys, List.filter_map]
  rfl

/-- Maps with the same keys in the same order and the same values. -/
theorem eq_of_get? {m n : OrderedMap K V} (hkeys : m.keys = n.keys)
    (hvalues : ∀ key, m.get? key = n.get? key) : m = n := by
  have hentries : m.entries = n.entries := by
    have hlength : m.entries.length = n.entries.length := by
      simpa [keys] using congrArg List.length hkeys
    apply List.ext_getElem hlength
    intro index hm hn
    have hkey : m.entries[index].1 = n.entries[index].1 := by
      have hat := congrArg (fun list => list[index]?) hkeys
      simpa [keys, hm, hn] using hat
    have hfirst : m.get? m.entries[index].1 = some m.entries[index].2 :=
      (m.mem_entries_iff _ _).1 (List.getElem_mem hm)
    have hsecond : n.get? n.entries[index].1 = some n.entries[index].2 :=
      (n.mem_entries_iff _ _).1 (List.getElem_mem hn)
    rw [hvalues, hkey, hsecond, Option.some_inj] at hfirst
    exact Prod.ext hkey hfirst.symm
  obtain ⟨entries, _⟩ := m
  obtain ⟨others, _⟩ := n
  cases hentries
  rfl

/-- The named sets kept in a map of member lists. -/
def members {A : Type v} (m : OrderedMap K (List A)) (key : K) : List A :=
  (m.get? key).getD []

section Members

variable {A : Type v}

@[simp] theorem members_empty (key : K) :
    (empty : OrderedMap K (List A)).members key = [] := rfl

theorem members_set (m : OrderedMap K (List A)) (key other : K)
    (left : List A) :
    (m.set key left).members other =
      if other = key then left else m.members other := by
  by_cases hother : other = key <;> simp [members, hother]

@[simp] theorem members_erase (m : OrderedMap K (List A)) (key other : K) :
    (m.erase key).members other =
      if other = key then [] else m.members other := by
  by_cases hother : other = key <;> simp [members, hother]

/-- Storing a list, or dropping the key when the list is empty. -/
theorem members_setOrErase (m : OrderedMap K (List A)) (key other : K)
    (left : List A) :
    (if left.isEmpty then m.erase key else m.set key left).members other =
      if other = key then left else m.members other := by
  by_cases hleft : left.isEmpty
  · rw [if_pos hleft, members_erase, List.isEmpty_iff.1 hleft]
  · rw [if_neg hleft, members_set]

variable [DecidableEq A]

def addMember (m : OrderedMap K (List A)) (key : K) (member : A) :
    OrderedMap K (List A) :=
  if member ∈ m.members key then m
  else m.set key (m.members key ++ [member])

/-- The key of a set that becomes empty is dropped. -/
def removeMember (m : OrderedMap K (List A)) (key : K) (member : A) :
    OrderedMap K (List A) :=
  let left := (m.members key).filter (fun other => other ≠ member)
  if left = [] then m.erase key else m.set key left

@[simp] theorem mem_members_addMember (m : OrderedMap K (List A))
    (key other : K) (member a : A) :
    a ∈ (m.addMember key member).members other ↔
      (other = key ∧ a = member) ∨ a ∈ m.members other := by
  by_cases hmem : member ∈ m.members key
  · simp only [addMember, hmem, ↓reduceIte]
    constructor
    · exact Or.inr
    · rintro (⟨rfl, rfl⟩ | hold)
      · exact hmem
      · exact hold
  · simp only [addMember, hmem, ↓reduceIte, members_set]
    by_cases hother : other = key
    · subst other
      simp [or_comm]
    · simp [hother]

@[simp] theorem members_removeMember (m : OrderedMap K (List A))
    (key other : K) (member : A) :
    (m.removeMember key member).members other =
      if other = key then (m.members key).filter (fun a => a ≠ member)
      else m.members other := by
  simp only [removeMember]
  split
  · next hleft => rw [members_erase, hleft]
  · rw [members_set]

theorem mem_members_removeMember (m : OrderedMap K (List A))
    (key other : K) (member a : A) :
    a ∈ (m.removeMember key member).members other ↔
      a ∈ m.members other ∧ ¬ (other = key ∧ a = member) := by
  rw [members_removeMember]
  by_cases hother : other = key
  · subst other
    simp
  · simp [hother]

end Members

end OrderedMap

end SamaServer
