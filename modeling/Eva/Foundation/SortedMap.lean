import Mathlib.Data.List.Sort

/-! # Maps in key order

A finite map whose entries stand in the order of their keys, so that maps with the same
entries are equal and a walk over the values is determined by them.
-/

namespace Eva

structure SortedMap (Key Value : Type) [LinearOrder Key] where
  entries : List (Key × Value)
  sorted : entries.Pairwise fun earlier later => earlier.1 < later.1

namespace SortedMap

variable {Key Value : Type} [LinearOrder Key]

def empty : SortedMap Key Value := ⟨[], .nil⟩

def get? (map : SortedMap Key Value) (key : Key) : Option Value :=
  (map.entries.find? fun entry => entry.1 = key).map Prod.snd

def values (map : SortedMap Key Value) : List Value := map.entries.map Prod.snd

/-! ## Insertion -/

def insertEntry (key : Key) (value : Value) : List (Key × Value) → List (Key × Value)
  | [] => [(key, value)]
  | entry :: entries =>
      if key < entry.1 then (key, value) :: entry :: entries
      else if key = entry.1 then (key, value) :: entries
      else entry :: insertEntry key value entries

theorem mem_insertEntry
    {entries : List (Key × Value)} (member : entry ∈ insertEntry key value entries) :
    entry = (key, value) ∨ entry ∈ entries := by
  induction entries with
  | nil => exact .inl (List.mem_singleton.mp member)
  | cons head entries induction =>
      unfold insertEntry at member
      split at member
      next => exact List.mem_cons.mp member
      next =>
          split at member
          next =>
              rcases List.mem_cons.mp member with same | member
              · exact .inl same
              · exact .inr (List.mem_cons_of_mem _ member)
          next =>
              rcases List.mem_cons.mp member with same | member
              · exact .inr (List.mem_cons.mpr (.inl same))
              · exact (induction member).imp_right (List.mem_cons_of_mem _)

theorem sorted_insertEntry {entries : List (Key × Value)}
    (sorted : entries.Pairwise fun earlier later => earlier.1 < later.1) :
    (insertEntry key value entries).Pairwise fun earlier later => earlier.1 < later.1 := by
  induction entries with
  | nil => exact List.pairwise_singleton _ _
  | cons head entries induction =>
      obtain ⟨first, rest⟩ := List.pairwise_cons.mp sorted
      unfold insertEntry
      split
      next before =>
          refine List.pairwise_cons.mpr ⟨fun entry member => ?_, sorted⟩
          rcases List.mem_cons.mp member with rfl | member
          · exact before
          · exact before.trans (first entry member)
      next after =>
          split
          next same =>
              exact List.pairwise_cons.mpr ⟨fun entry member => same ▸ first entry member, rest⟩
          next different =>
              refine List.pairwise_cons.mpr ⟨fun entry member => ?_, induction rest⟩
              rcases mem_insertEntry member with rfl | member
              · exact lt_of_le_of_ne (not_lt.mp after) (Ne.symm different)
              · exact first entry member

def insert (map : SortedMap Key Value) (key : Key) (value : Value) : SortedMap Key Value :=
  ⟨insertEntry key value map.entries, sorted_insertEntry map.sorted⟩

variable {map : SortedMap Key Value}

private theorem find?_insertEntry_self (key : Key) (value : Value) (entries : List (Key × Value)) :
    (insertEntry key value entries).find? (fun entry => entry.1 = key) = some (key, value) := by
  induction entries with
  | nil => simp [insertEntry]
  | cons head entries induction =>
      unfold insertEntry
      split
      next => simp
      next =>
          split
          next => simp
          next different => simpa [Ne.symm different] using induction

private theorem find?_insertEntry_of_ne (different : wanted ≠ key)
    (value : Value) (entries : List (Key × Value)) :
    (insertEntry key value entries).find? (fun entry => entry.1 = wanted) =
      entries.find? fun entry => entry.1 = wanted := by
  induction entries with
  | nil => simp [insertEntry, Ne.symm different]
  | cons head entries induction =>
      unfold insertEntry
      split
      next => simp [Ne.symm different]
      next =>
          split
          next same => simp [Ne.symm different, ← same]
          next => simp only [List.find?_cons, induction]

@[simp] theorem get?_empty : (empty : SortedMap Key Value).get? key = none := rfl

@[simp] theorem get?_insert_self : (map.insert key value).get? key = some value := by
  simp [get?, insert, find?_insertEntry_self]

theorem get?_insert_of_ne (different : wanted ≠ key) :
    (map.insert key value).get? wanted = map.get? wanted := by
  simp [get?, insert, find?_insertEntry_of_ne different]

/-! ## Other values under the same keys -/

def mapValues (change : Value → Other) (map : SortedMap Key Value) : SortedMap Key Other where
  entries := map.entries.map fun entry => (entry.1, change entry.2)
  sorted := List.pairwise_map.mpr map.sorted

theorem get?_eq_some_iff : map.get? key = some value ↔ (key, value) ∈ map.entries := by
  obtain ⟨entries, sorted⟩ := map
  simp only [get?]
  induction entries with
  | nil => simp
  | cons head entries induction =>
      obtain ⟨first, rest⟩ := List.pairwise_cons.mp sorted
      by_cases same : head.1 = key
      · subst same
        have absent : (head.1, value) ∉ entries := fun member =>
          lt_irrefl head.1 (first (head.1, value) member)
        simp only [List.find?_cons, decide_true, Option.map_some, Option.some.injEq,
          List.mem_cons, absent, or_false]
        exact ⟨fun equal => equal ▸ rfl, fun equal => equal ▸ rfl⟩
      · have other : (key, value) ≠ head := fun equal => same (equal ▸ rfl)
        simp only [List.find?_cons, same, decide_false, List.mem_cons, other, false_or]
        exact induction rest

end SortedMap

end Eva
