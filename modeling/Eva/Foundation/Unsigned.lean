import Mathlib.Algebra.GroupWithZero.Nat

/-! # Fixed-width unsigned integers

A value of `Unsigned bits` carries the proof that it fits its width. Arithmetic
that may leave the width is explicit: it is checked or it saturates.
-/

namespace Eva

structure Unsigned (bits : Nat) where
  value : Nat
  inRange : value < 2 ^ bits
deriving DecidableEq

abbrev U32 := Unsigned 32
abbrev U64 := Unsigned 64
abbrev U128 := Unsigned 128

namespace Unsigned

instance : OfNat (Unsigned bits) number where
  ofNat := ⟨number % 2 ^ bits, Nat.mod_lt _ (Nat.two_pow_pos bits)⟩

instance : LT (Unsigned bits) := ⟨fun left right => left.value < right.value⟩

instance : LE (Unsigned bits) := ⟨fun left right => left.value ≤ right.value⟩

instance (left right : Unsigned bits) : Decidable (left < right) :=
  inferInstanceAs (Decidable (left.value < right.value))

instance (left right : Unsigned bits) : Decidable (left ≤ right) :=
  inferInstanceAs (Decidable (left.value ≤ right.value))

theorem eq_iff {left right : Unsigned bits} :
    left = right ↔ left.value = right.value := by
  constructor
  · rintro rfl
    rfl
  · intro equal
    cases right
    cases equal
    rfl

theorem lt_iff {left right : Unsigned bits} :
    left < right ↔ left.value < right.value := Iff.rfl

theorem le_iff {left right : Unsigned bits} :
    left ≤ right ↔ left.value ≤ right.value := Iff.rfl

theorem ne_zero_of_value {number : Unsigned bits}
    (next : number.value = predecessor + 1) : number ≠ 0 := by
  rintro rfl
  simp [OfNat.ofNat] at next

theorem one_ne_zero : (1 : U64) ≠ 0 := by decide

def maximum (bits : Nat) : Unsigned bits :=
  ⟨2 ^ bits - 1, Nat.sub_lt (Nat.two_pow_pos bits) Nat.one_pos⟩

def ofNat? (bits value : Nat) : Option (Unsigned bits) :=
  if inRange : value < 2 ^ bits then some ⟨value, inRange⟩ else none

def checkedAdd (left right : Unsigned bits) : Option (Unsigned bits) :=
  ofNat? bits (left.value + right.value)

def saturatingAdd (left right : Unsigned bits) : Unsigned bits :=
  (left.checkedAdd right).getD (maximum bits)

def saturatingMul (left right : Unsigned bits) : Unsigned bits :=
  (ofNat? bits (left.value * right.value)).getD (maximum bits)

def widen (number : Unsigned bits) (fits : bits ≤ wider) : Unsigned wider :=
  ⟨number.value, Nat.lt_of_lt_of_le number.inRange
    (Nat.pow_le_pow_right Nat.two_pos fits)⟩

def truncate (bits value : Nat) : Unsigned bits :=
  ⟨value % 2 ^ bits, Nat.mod_lt _ (Nat.two_pow_pos bits)⟩

theorem ofNat?_eq_some_iff {bits value : Nat} {number : Unsigned bits} :
    ofNat? bits value = some number ↔ number.value = value := by
  unfold ofNat?
  split
  next inRange => simp [eq_iff, eq_comm]
  next outOfRange =>
      simp only [reduceCtorEq, false_iff]
      intro equal
      exact outOfRange (equal ▸ number.inRange)

theorem checkedAdd_eq_some_iff {left right sum : Unsigned bits} :
    left.checkedAdd right = some sum ↔ sum.value = left.value + right.value :=
  ofNat?_eq_some_iff

theorem saturatingAdd_value (left right : Unsigned bits) :
    (left.saturatingAdd right).value =
      min (left.value + right.value) (2 ^ bits - 1) := by
  unfold saturatingAdd checkedAdd ofNat?
  split
  next inRange => simp; omega
  next outOfRange => simp [maximum]; omega

end Unsigned

end Eva
