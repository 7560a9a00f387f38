/-
The order in which an object lists its own properties: names that are array
indices come first, in increasing numerical order, and every other name
follows in the order of insertion.
-/
import Mathlib.Algebra.GroupWithZero.Nat
import Mathlib.Data.List.Sort

namespace SamaServer

universe u

/-- The number written by a list of decimal digits. -/
def digitsValue (digits : List Char) : Nat :=
  digits.foldl (fun value digit => value * 10 + (digit.toNat - 48)) 0

/-- A canonical decimal below 2^32 - 1. -/
def isArrayIndex (name : String) : Bool :=
  let digits := name.toList
  !digits.isEmpty && digits.all Char.isDigit &&
    (digits.head? ≠ some '0' || digits.length == 1) &&
    digitsValue digits < 4294967295

theorem le_foldl_digits (digits : List Char) (value : Nat) :
    value * 10 ^ digits.length ≤ digits.foldl (fun value digit =>
      value * 10 + (digit.toNat - 48)) value := by
  induction digits generalizing value with
  | nil => simp
  | cons digit digits ih =>
      have hrest := ih (value * 10 + (digit.toNat - 48))
      rw [List.foldl_cons, List.length_cons, pow_succ]
      have hfirst : value * 10 * 10 ^ digits.length ≤
          (value * 10 + (digit.toNat - 48)) * 10 ^ digits.length :=
        Nat.mul_le_mul_right _ (Nat.le_add_right _ _)
      calc value * (10 ^ digits.length * 10)
          = value * 10 * 10 ^ digits.length := by
            rw [Nat.mul_comm (10 ^ digits.length) 10, Nat.mul_assoc]
        _ ≤ _ := Nat.le_trans hfirst hrest

section Items

variable {A : Type u}

/-- Items inserted under the given names, as `Object.keys`,
`Object.values` and `Object.entries` enumerate them. -/
def propertyOrder (name : A → String) (items : List A) : List A :=
  (items.filter (fun item => isArrayIndex (name item))).insertionSort
      (fun left right =>
        digitsValue (name left).toList ≤ digitsValue (name right).toList) ++
    items.filter (fun item => !isArrayIndex (name item))

theorem propertyOrder_perm (name : A → String) (items : List A) :
    (propertyOrder name items).Perm items :=
  ((List.perm_insertionSort _ _).append_right _).trans
    (List.filter_append_perm _ _)

@[simp] theorem mem_propertyOrder (name : A → String) (items : List A)
    (item : A) : item ∈ propertyOrder name items ↔ item ∈ items :=
  (propertyOrder_perm name items).mem_iff

/-- Items without array indices stay in the order of insertion. -/
theorem propertyOrder_of_no_index (name : A → String) {items : List A}
    (hnone : ∀ item ∈ items, isArrayIndex (name item) = false) :
    propertyOrder name items = items := by
  have hindices : items.filter (fun item => isArrayIndex (name item)) =
      [] := by
    rw [List.filter_eq_nil_iff]
    intro item hitem
    rw [hnone item hitem]
    exact Bool.false_ne_true
  have hothers : items.filter (fun item => !isArrayIndex (name item)) =
      items := by
    rw [List.filter_eq_self]
    intro item hitem
    rw [hnone item hitem]
    rfl
  rw [propertyOrder, hindices, hothers]
  rfl

end Items

end SamaServer
