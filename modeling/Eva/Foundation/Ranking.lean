import Mathlib.Data.List.Sort

/-! # The first of a sorted list

Which values stand among the first of a list without equal ranks, and when two such lists
begin alike.
-/

namespace Eva

variable {Value : Type} {before : Value → Value → Prop}
  (asymmetric : ∀ one two, before one two → ¬before two one)
include asymmetric

theorem mem_take_iff_countP [DecidableRel before] {values : List Value}
    (sorted : values.Pairwise before) :
    value ∈ values.take limit ↔
      value ∈ values ∧ values.countP (fun other => before other value) < limit := by
  induction values generalizing limit with
  | nil => simp
  | cons head values induction =>
      obtain ⟨first, rest⟩ := List.pairwise_cons.mp sorted
      cases limit with
      | zero => simp
      | succ limit =>
          rw [List.take_succ_cons, List.mem_cons, List.mem_cons, List.countP_cons, induction rest]
          by_cases here : value = head
          · have none : values.countP (fun other => before other head) = 0 :=
              List.countP_eq_zero.mpr fun other member => by
                simpa using asymmetric _ _ (first other member)
            have self : ¬before head head := fun reflexive =>
              asymmetric _ _ reflexive reflexive
            simp [here, none, self]
          · simp only [here, false_or]
            refine and_congr_right fun member => ?_
            simp [first value member]

theorem take_eq_take {left right : List Value} (leftSorted : left.Pairwise before)
    (rightSorted : right.Pairwise before) (inRight : ∀ value ∈ left.take limit, value ∈ right)
    (inLeft : ∀ value ∈ right.take limit, value ∈ left) : left.take limit = right.take limit := by
  induction limit generalizing left right with
  | zero => rfl
  | succ limit induction =>
      cases left with
      | nil =>
          cases right with
          | nil => rfl
          | cons two right => simpa using inLeft two
      | cons one left =>
          cases right with
          | nil => simpa using inRight one
          | cons two right =>
              obtain ⟨leftFirst, leftRest⟩ := List.pairwise_cons.mp leftSorted
              obtain ⟨rightFirst, rightRest⟩ := List.pairwise_cons.mp rightSorted
              simp only [List.take_succ_cons, List.forall_mem_cons] at inRight inLeft ⊢
              obtain rfl : one = two := by
                rcases List.mem_cons.mp inRight.1 with same | later
                · exact same
                · rcases List.mem_cons.mp inLeft.1 with same | earlier
                  · exact same.symm
                  · exact absurd (leftFirst two earlier) (asymmetric _ _ (rightFirst one later))
              have other (value : Value) (after : before one value) : value ≠ one := by
                rintro rfl
                exact asymmetric _ _ after after
              refine congrArg _ (induction leftRest rightRest (fun value member => ?_)
                fun value member => ?_)
              · exact (List.mem_cons.mp (inRight.2 value member)).resolve_left
                  (other value (leftFirst value (List.mem_of_mem_take member)))
              · exact (List.mem_cons.mp (inLeft.2 value member)).resolve_left
                  (other value (rightFirst value (List.mem_of_mem_take member)))

end Eva
