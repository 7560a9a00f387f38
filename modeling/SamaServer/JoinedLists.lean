/-
Lists of texts that are kept as one text, joined by a separator, and sets that
list their members in the order of insertion.
-/
import Mathlib.Data.List.Dedup

namespace SamaServer

universe u

namespace JoinedLists

variable (separator : Char)

def join (texts : List String) : String :=
  String.ofList ([separator].intercalate (texts.map String.toList))

def split (text : String) : List String :=
  (text.toList.splitOn separator).map String.ofList

variable {separator}

/-- A list is read back, unless it is empty or one of its texts contains the
separator. -/
theorem split_join {texts : List String} (hne : texts ≠ [])
    (hplain : ∀ text ∈ texts, separator ∉ text.toList) :
    split separator (join separator texts) = texts := by
  have hparts : ∀ part ∈ texts.map String.toList, separator ∉ part := by
    intro part hpart
    obtain ⟨text, htext, rfl⟩ := List.mem_map.1 hpart
    exact hplain text htext
  rw [split, join, String.toList_ofList,
    List.splitOn_intercalate separator hparts (by simpa using hne),
    List.map_map]
  simp

/-- Only the empty list and lists of empty texts join to nothing. -/
theorem join_ne_empty {texts : List String} (hne : texts ≠ [])
    (htexts : ∀ text ∈ texts, text ≠ "") : join separator texts ≠ "" := by
  cases texts with
  | nil => exact absurd rfl hne
  | cons text texts =>
      have hfirst : text.toList ≠ [] := by
        simpa using htexts text List.mem_cons_self
      intro hempty
      have hnil : [separator].intercalate
          ((text :: texts).map String.toList) = [] := by
        simpa [join] using hempty
      rw [List.map_cons] at hnil
      cases hrest : texts.map String.toList with
      | nil => simp [hrest, hfirst] at hnil
      | cons other rest =>
          rw [hrest] at hnil
          simp at hnil

end JoinedLists

namespace InsertionSet

variable {A : Type u} [DecidableEq A]

/-- The distinct items of a list, each where it is first met. -/
def ofList (items : List A) : List A := items.reverse.dedup.reverse

def add (items : List A) (item : A) : List A :=
  if item ∈ items then items else items ++ [item]

def delete (items : List A) (item : A) : List A :=
  items.filter (fun other => other ≠ item)

@[simp] theorem mem_ofList (items : List A) (item : A) :
    item ∈ ofList items ↔ item ∈ items := by
  simp [ofList]

@[simp] theorem mem_add (items : List A) (item other : A) :
    other ∈ add items item ↔ other = item ∨ other ∈ items := by
  unfold add
  split
  · constructor
    · exact Or.inr
    · rintro (rfl | hmem)
      · assumption
      · exact hmem
  · simp [or_comm]

@[simp] theorem mem_delete (items : List A) (item other : A) :
    other ∈ delete items item ↔ other ∈ items ∧ other ≠ item := by
  simp [delete]

theorem ofList_of_nodup {items : List A} (hitems : items.Nodup) :
    ofList items = items := by
  rw [ofList, (List.nodup_reverse.2 hitems).dedup, List.reverse_reverse]

theorem add_ne_nil (items : List A) (item : A) : add items item ≠ [] :=
  List.ne_nil_of_mem ((mem_add items item item).2 (Or.inl rfl))

theorem nodup_delete {items : List A} (hitems : items.Nodup) (item : A) :
    (delete items item).Nodup := hitems.filter _

theorem delete_of_not_mem {items : List A} {item : A}
    (hitem : item ∉ items) : delete items item = items := by
  rw [delete, List.filter_eq_self]
  intro other hother
  simp only [decide_eq_true_eq]
  exact fun heq => hitem (heq ▸ hother)

end InsertionSet

end SamaServer
