import Mathlib.Data.List.Perm.Basic

/-! # Meets of lists

Folding a nonempty list with a meet: neither the order nor the element that the fold
starts from matters, and what every meet hands on holds of all elements.
-/

namespace Eva

variable {Value : Type} {meet : Value → Value → Value} {values rest others : List Value}

structure IsMeet (meet : Value → Value → Value) : Prop where
  comm : ∀ left right, meet left right = meet right left
  assoc : ∀ left middle right, meet (meet left middle) right = meet left (meet middle right)
  idem : ∀ value, meet value value = value

namespace IsMeet

theorem rightCommutative (isMeet : IsMeet meet) : RightCommutative meet where
  right_comm left middle right := by
    rw [isMeet.assoc, isMeet.comm middle, isMeet.assoc]

theorem foldl_of_mem (isMeet : IsMeet meet) (member : value ∈ values) (start : Value) :
    values.foldl meet (meet start value) = values.foldl meet start := by
  induction values generalizing start with
  | nil => cases member
  | cons first rest induction =>
      rw [List.foldl_cons, List.foldl_cons, isMeet.rightCommutative.right_comm]
      rcases List.mem_cons.mp member with rfl | member
      · rw [isMeet.assoc, isMeet.idem]
      · exact induction member _

theorem foldl_perm (isMeet : IsMeet meet) (same : (first :: rest).Perm (other :: others)) :
    rest.foldl meet first = others.foldl meet other := by
  have rightCommutative := isMeet.rightCommutative
  calc rest.foldl meet first
      = (first :: rest).foldl meet first := by rw [List.foldl_cons, isMeet.idem]
    _ = (other :: others).foldl meet first := same.foldl_eq first
    _ = (other :: others).foldl meet other := by
        rw [← isMeet.foldl_of_mem List.mem_cons_self, isMeet.comm,
          isMeet.foldl_of_mem (same.mem_iff.mp List.mem_cons_self)]
    _ = others.foldl meet other := by rw [List.foldl_cons, isMeet.idem]

end IsMeet

theorem foldl_iff_forall {property : Value → Prop}
    (meets : ∀ left right, property (meet left right) ↔ property left ∧ property right) :
    property (rest.foldl meet first) ↔ ∀ value ∈ first :: rest, property value := by
  induction rest generalizing first with
  | nil => simp
  | cons second rest induction =>
      rw [List.foldl_cons, induction]
      simp [meets, and_assoc]

end Eva
