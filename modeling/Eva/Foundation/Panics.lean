import Eva.Foundation.Checks

/-! # Computations that can panic

A computation ends with a value, reports an error or panics. Nothing after a panic
happens.
-/

namespace Eva

inductive Failure (Error : Type) where
  | reported (error : Error)
  | panicked

abbrev Fallible (Error Value : Type) := Except (Failure Error) Value

variable {Error Value : Type}

def fallible (result : Except Error Value) : Fallible Error Value := result.mapError .reported

def orPanic : Option Value → Fallible Error Value
  | some value => .ok value
  | none => .error .panicked

def Panics (result : Fallible Error Value) : Prop := result = .error .panicked

@[simp] theorem fallible_ok (value : Value) :
    fallible (.ok value : Except Error Value) = .ok value := rfl

@[simp] theorem fallible_eq_ok_iff :
    fallible result = .ok value ↔ result = .ok value := by
  cases result <;> simp [fallible, Except.mapError]

@[simp] theorem not_panics_fallible (result : Except Error Value) :
    ¬Panics (fallible result) := by
  cases result <;> simp [Panics, fallible, Except.mapError]

@[simp] theorem not_panics_pure (value : Value) :
    ¬Panics (pure value : Fallible Error Value) := nofun

@[simp] theorem panics_orPanic_iff :
    Panics (orPanic value : Fallible Error Value) ↔ value = none := by
  cases value <;> simp [Panics, orPanic]

@[simp] theorem panics_bind_iff :
    Panics (first >>= next) ↔
      Panics first ∨ ∃ value, first = .ok value ∧ Panics (next value) := by
  cases first <;> simp [Panics, bind, Except.bind]

end Eva
