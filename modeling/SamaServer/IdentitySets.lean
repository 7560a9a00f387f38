/-
Sets of values of which some are compared by content and some by identity.
Texts and numbers with the same content are one member of such a set; every
object that is put into it is a member of its own, whatever it holds.
-/
import Mathlib.Data.List.Induction
import Mathlib.Data.List.Nodup

namespace SamaServer

universe u

/-- A value that is the same as any other with its content, or an object that
is only the same as itself. -/
inductive Ref (A : Type u)
  | object (content : A)
  | value (content : A)
deriving DecidableEq

namespace Ref

variable {A : Type u}

def content : Ref A → A
  | object content => content
  | value content => content

def object? : Ref A → Option A
  | object content => some content
  | value _ => none

def value? : Ref A → Option A
  | object _ => none
  | value content => some content

/-- The contents of the objects in a list. -/
def objects (refs : List (Ref A)) : List A := refs.filterMap object?

def values (refs : List (Ref A)) : List A := refs.filterMap value?

@[simp] theorem objects_concat (refs : List (Ref A)) (ref : Ref A) :
    objects (refs ++ [ref]) = objects refs ++ ref.object?.toList := by
  cases ref <;> simp [objects, object?]

@[simp] theorem values_concat (refs : List (Ref A)) (ref : Ref A) :
    values (refs ++ [ref]) = values refs ++ ref.value?.toList := by
  cases ref <;> simp [values, value?]

@[simp] theorem objects_cons (ref : Ref A) (refs : List (Ref A)) :
    objects (ref :: refs) = ref.object?.toList ++ objects refs := by
  cases ref <;> rfl

@[simp] theorem values_cons (ref : Ref A) (refs : List (Ref A)) :
    values (ref :: refs) = ref.value?.toList ++ values refs := by
  cases ref <;> rfl

@[simp] theorem objects_map_value (contents : List A) :
    objects (contents.map value) = [] := by
  simp [objects, object?, Function.comp_def]

@[simp] theorem values_map_value (contents : List A) :
    values (contents.map value) = contents := by
  induction contents with
  | nil => rfl
  | cons content contents ih =>
      rw [List.map_cons, values_cons, ih]
      rfl

theorem objects_flatMap {B : Type u} (list : List B) (f : B → List (Ref A)) :
    objects (list.flatMap f) = list.flatMap (fun item => objects (f item)) :=
  List.filterMap_flatMap ..

theorem values_flatMap {B : Type u} (list : List B) (f : B → List (Ref A)) :
    values (list.flatMap f) = list.flatMap (fun item => values (f item)) :=
  List.filterMap_flatMap ..

theorem content_perm (refs : List (Ref A)) :
    (refs.map content).Perm (objects refs ++ values refs) := by
  induction refs with
  | nil => exact List.Perm.refl _
  | cons ref refs ih =>
      cases ref with
      | object head => exact ih.cons head
      | value head =>
          exact (ih.cons head).trans List.perm_middle.symm

/-- A list has different contents when its objects have, its values have, and
no object has the content of a value. -/
theorem nodup_content_iff (refs : List (Ref A)) :
    (refs.map content).Nodup ↔ (objects refs).Nodup ∧ (values refs).Nodup ∧
      ∀ content ∈ objects refs, content ∉ values refs := by
  rw [(content_perm refs).nodup_iff, List.nodup_append']
  rfl

variable [DecidableEq A]

/-- Whether the set has the member; no object of a list is in it twice. -/
def isIn (set : List (Ref A)) : Ref A → Bool
  | object _ => false
  | value content => content ∈ values set

def insertNew (set : List (Ref A)) (ref : Ref A) : List (Ref A) :=
  if isIn set ref then set else set ++ [ref]

/-- The members of a list in the order in which they were first met. -/
def setOf (refs : List (Ref A)) : List (Ref A) := refs.foldl insertNew []

theorem setOf_concat (refs : List (Ref A)) (ref : Ref A) :
    setOf (refs ++ [ref]) = insertNew (setOf refs) ref := by
  rw [setOf, List.foldl_append]
  rfl

@[simp] theorem insertNew_object (set : List (Ref A)) (content : A) :
    insertNew set (object content) = set ++ [object content] := rfl

@[simp] theorem insertNew_value (set : List (Ref A)) (content : A) :
    insertNew set (value content) =
      if content ∈ values set then set else set ++ [value content] := by
  simp [insertNew, isIn]

/-- No object is dropped. -/
theorem objects_setOf (refs : List (Ref A)) :
    objects (setOf refs) = objects refs := by
  induction refs using List.reverseRecOn with
  | nil => rfl
  | append_singleton refs ref ih =>
      rw [setOf_concat, objects_concat, ← ih]
      cases ref with
      | object content => simp
      | value content =>
          rw [insertNew_value]
          split <;> simp [object?]

/-- A list of objects is the set of its members. -/
theorem setOf_of_objects {refs : List (Ref A)}
    (hobjects : ∀ ref ∈ refs, ∃ content, ref = object content) :
    setOf refs = refs := by
  induction refs using List.reverseRecOn with
  | nil => rfl
  | append_singleton refs ref ih =>
      obtain ⟨content, rfl⟩ := hobjects ref (by simp)
      rw [setOf_concat, ih (fun other hother =>
        hobjects other (by simp [hother])), insertNew_object]

theorem mem_values_setOf (refs : List (Ref A)) (content : A) :
    content ∈ values (setOf refs) ↔ content ∈ values refs := by
  induction refs using List.reverseRecOn with
  | nil => rfl
  | append_singleton refs ref ih =>
      rw [setOf_concat, values_concat, List.mem_append, ← ih]
      cases ref with
      | object other => simp [value?]
      | value other =>
          rw [insertNew_value]
          split
          · next hin =>
              constructor
              · exact Or.inl
              · rintro (hold | hnew)
                · exact hold
                · rw [Option.mem_toList] at hnew
                  cases hnew
                  exact hin
          · simp

/-- Contents that are compared are in the set once. -/
theorem nodup_values_setOf (refs : List (Ref A)) :
    (values (setOf refs)).Nodup := by
  induction refs using List.reverseRecOn with
  | nil => exact List.nodup_nil
  | append_singleton refs ref ih =>
      rw [setOf_concat]
      cases ref with
      | object content => simpa [value?] using ih
      | value content =>
          rw [insertNew_value]
          split
          · exact ih
          · next hnew =>
              rw [values_concat, List.nodup_append']
              refine ⟨ih, List.nodup_singleton content, ?_⟩
              simpa [value?, List.disjoint_left] using hnew

/-- Which lists are the contents of a set without repetitions. -/
theorem nodup_setOf_iff (refs : List (Ref A)) :
    ((setOf refs).map content).Nodup ↔ (objects refs).Nodup ∧
      ∀ content ∈ objects refs, content ∉ values refs := by
  rw [nodup_content_iff, objects_setOf]
  simp only [mem_values_setOf, nodup_values_setOf, true_and]

end Ref

end SamaServer
