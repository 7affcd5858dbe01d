import Mathlib.Data.List.Infix

/-! # Replacing text

`str::find` and `str::replace` for a text that is not empty. A replacement reaches what
it is meant for, and nothing else, if the text starts nowhere else.
-/

namespace Eva.Text

/-- Replaces from left to right, after the first `skip` characters. -/
def replaceFrom (pattern replacement : List Char) : (skip : Nat) → List Char → List Char
  | _, [] => []
  | skip + 1, _ :: rest => replaceFrom pattern replacement skip rest
  | 0, char :: rest =>
      if pattern.isPrefixOf (char :: rest) then
        replacement ++ replaceFrom pattern replacement (pattern.length - 1) rest
      else char :: replaceFrom pattern replacement 0 rest

def replaceAll (pattern replacement text : List Char) : List Char :=
  replaceFrom pattern replacement 0 text

def splitAtFirst (pattern : List Char) : List Char → Option (List Char × List Char)
  | [] => none
  | char :: rest =>
      if pattern.isPrefixOf (char :: rest) then some ([], char :: rest)
      else (splitAtFirst pattern rest).map fun (front, back) => (char :: front, back)

theorem splitAtFirst_eq_some (found : splitAtFirst pattern text = some (front, back)) :
    text = front ++ back ∧ pattern <+: back := by
  induction text generalizing front with
  | nil => cases found
  | cons char rest induction =>
      unfold splitAtFirst at found
      split at found
      next here =>
          cases found
          exact ⟨rfl, List.isPrefixOf_iff_prefix.mp here⟩
      next =>
          obtain ⟨⟨before, after⟩, later, same⟩ := Option.map_eq_some_iff.mp found
          cases same
          obtain ⟨whole, starts⟩ := induction later
          exact ⟨congrArg _ whole, starts⟩

/-! ## Segments -/

/-- A part of a text, which may be there to be replaced. -/
structure Segment where
  text : List Char
  marked : Bool

def content (segments : List Segment) : List Char := segments.flatMap (·.text)

def contentWith (replacement : List Char) (segments : List Segment) : List Char :=
  segments.flatMap fun segment => if segment.marked then replacement else segment.text

/-- The marked segments are the pattern, and it starts in no other segment. -/
def StartsOnlyMarked (pattern : List Char) : List Segment → Prop
  | [] => True
  | segment :: rest =>
      (if segment.marked then segment.text = pattern
        else ∀ suffix ∈ segment.text.tails, suffix ≠ [] →
          ¬pattern <+: suffix ++ content rest) ∧ StartsOnlyMarked pattern rest

instance decidableStartsOnlyMarked (pattern : List Char) :
    (segments : List Segment) → Decidable (StartsOnlyMarked pattern segments)
  | [] => inferInstanceAs (Decidable True)
  | _ :: rest =>
      have := decidableStartsOnlyMarked pattern rest
      inferInstanceAs (Decidable (_ ∧ _))

section Replace

theorem replaceAll_ne_nil (nonempty : text ≠ [])
    (replaced : replacement ≠ []) : replaceAll pattern replacement text ≠ [] := by
  cases text with
  | nil => exact absurd rfl nonempty
  | cons char text =>
      rw [replaceAll, replaceFrom]
      split
      next => simp [replaced]
      next => simp

theorem replaceFrom_drop (skip : Nat) (text : List Char) :
    replaceFrom pattern replacement skip text =
      replaceAll pattern replacement (text.drop skip) := by
  induction text generalizing skip with
  | nil => simp [replaceAll, replaceFrom]
  | cons char rest induction =>
      cases skip with
      | zero => rfl
      | succ skip => exact induction skip

theorem replaceAll_pattern (nonempty : pattern ≠ []) (rest : List Char) :
    replaceAll pattern replacement (pattern ++ rest) =
      replacement ++ replaceAll pattern replacement rest := by
  cases pattern with
  | nil => exact absurd rfl nonempty
  | cons char pattern =>
      have here : (char :: pattern).isPrefixOf (char :: (pattern ++ rest)) = true :=
        List.isPrefixOf_iff_prefix.mpr (List.prefix_append _ _)
      rw [replaceAll, List.cons_append, replaceFrom, if_pos here, replaceFrom_drop,
        List.length_cons, Nat.add_sub_cancel, List.drop_left]

theorem replaceAll_append (rest : List Char)
    (nowhere : ∀ suffix ∈ front.tails, suffix ≠ [] → ¬pattern <+: suffix ++ rest) :
    replaceAll pattern replacement (front ++ rest) =
      front ++ replaceAll pattern replacement rest := by
  induction front with
  | nil => rfl
  | cons char front induction =>
      rw [List.tails_cons, List.forall_mem_cons] at nowhere
      have elsewhere : ¬pattern.isPrefixOf (char :: (front ++ rest)) := fun here =>
        nowhere.1 (List.cons_ne_nil _ _) (List.isPrefixOf_iff_prefix.mp here)
      rw [replaceAll, List.cons_append, replaceFrom, if_neg elsewhere]
      exact congrArg _ (induction nowhere.2)

theorem replaceAll_content (nonempty : pattern ≠ []) (only : StartsOnlyMarked pattern segments) :
    replaceAll pattern replacement (content segments) = contentWith replacement segments := by
  induction segments with
  | nil => rfl
  | cons segment rest induction =>
      obtain ⟨here, later⟩ := only
      rw [content, contentWith, List.flatMap_cons, List.flatMap_cons]
      split at here
      next marked =>
          rw [here, if_pos marked, replaceAll_pattern nonempty]
          exact congrArg _ (induction later)
      next unmarked =>
          rw [if_neg unmarked]
          exact (replaceAll_append _ here).trans (congrArg _ (induction later))

end Replace

end Eva.Text
