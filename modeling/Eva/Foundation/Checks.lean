import Mathlib.Tactic.Common

/-! # Fallible checks

Straight-line validation in `Except`: a chain of checks succeeds exactly when
each of its checks does.
-/

namespace Eva

def rejectIf (condition : Prop) [Decidable condition] (error : Error) :
    Except Error Unit :=
  if condition then .error error else .ok ()

@[simp] theorem rejectIf_eq_ok_iff [Decidable condition] :
    rejectIf condition error = .ok result ↔ ¬condition := by
  unfold rejectIf
  split <;> simp_all

def orReject (error : Error) : Option α → Except Error α
  | some value => .ok value
  | none => .error error

@[simp] theorem orReject_eq_ok_iff :
    orReject error option = .ok value ↔ option = some value := by
  cases option <;> simp [orReject]

@[simp] theorem bind_eq_ok_iff {next : α → Except Error β}
    {result : β} :
    (first >>= next) = .ok result ↔
      ∃ value, first = .ok value ∧ next value = .ok result := by
  cases first <;> simp [bind, Except.bind]

@[simp] theorem pure_eq_ok_iff :
    (pure value : Except Error α) = .ok result ↔ value = result := by
  simp [pure, Except.pure]

@[simp] theorem exists_unit_iff {property : Unit → Prop} :
    (∃ value, property value) ↔ property () :=
  ⟨fun ⟨_, holds⟩ => holds, fun holds => ⟨(), holds⟩⟩

@[simp] theorem ok_bind (value : α) (next : α → Except Error β) :
    (Except.ok value >>= next) = next value := rfl

theorem map_bind (step : β → γ) (first : Except Error α) (next : α → Except Error β) :
    (first >>= next).map step = first >>= fun value => (next value).map step := by
  cases first <;> rfl

theorem mapError_eq_ok_iff {result : Except Error α} :
    result.mapError change = .ok value ↔ result = .ok value := by
  cases result <;> simp [Except.mapError]

theorem seq_eq_ok_iff {next : Except Error β} {result : β} :
    (first >>= fun _ => next) = .ok result ↔ first = .ok () ∧ next = .ok result := by
  cases first <;> simp [bind, Except.bind]

theorem exists_error_of_not_isOk {result : Except Error α} (failed : (!result.isOk) = true) :
    ∃ error, result = .error error := by
  cases result with
  | ok value => cases failed
  | error error => exact ⟨error, rfl⟩

/-! ## Values that carry their check -/

/-- What a successful check allows to build. -/
def certify (check : Except Error α) (make : ∀ value, check = .ok value → β) :
    Except Error β :=
  match check, make with
  | .ok value, make => .ok (make value rfl)
  | .error error, _ => .error error

theorem certify_of_ok
    (checked : check = .ok value) : certify check make = .ok (make value checked) := by
  subst checked
  rfl

theorem certify_eq_ok_iff :
    certify check make = .ok result ↔ ∃ value checked, make value checked = result := by
  constructor
  · intro certified
    cases check with
    | ok value => exact ⟨value, rfl, Except.ok.inj certified⟩
    | error error => cases certified
  · rintro ⟨value, checked, rfl⟩
    exact certify_of_ok checked

/-! ## Steps over a list -/

section MapM

variable {step : α → Except Error β} {items : List α}

theorem mapM_ok_of_forall (all : ∀ item ∈ items, ∃ result, step item = .ok result) :
    ∃ results, items.mapM step = .ok results := by
  induction items with
  | nil => exact ⟨[], rfl⟩
  | cons item items induction =>
      obtain ⟨result, first⟩ := all item List.mem_cons_self
      obtain ⟨results, rest⟩ := induction fun item member => all item (List.mem_cons_of_mem _ member)
      exact ⟨result :: results, by simp [List.mapM_cons, first, rest]⟩

theorem mapM_cons_eq_ok (ran : (item :: items).mapM step = .ok results) :
    ∃ result rest, step item = .ok result ∧ items.mapM step = .ok rest ∧
      results = result :: rest := by
  simp only [List.mapM_cons, bind_eq_ok_iff, pure_eq_ok_iff] at ran
  obtain ⟨result, first, rest, others, rfl⟩ := ran
  exact ⟨result, rest, first, others, rfl⟩

theorem mapM_source (ran : items.mapM step = .ok results)
    (member : result ∈ results) : ∃ item ∈ items, step item = .ok result := by
  induction items generalizing results with
  | nil =>
      rw [List.mapM_nil, pure_eq_ok_iff] at ran
      rw [← ran] at member
      cases member
  | cons head items induction =>
      obtain ⟨first, rest, stepped, others, rfl⟩ := mapM_cons_eq_ok ran
      rcases List.mem_cons.mp member with rfl | member
      · exact ⟨head, List.mem_cons_self, stepped⟩
      · obtain ⟨item, held, found⟩ := induction others member
        exact ⟨item, List.mem_cons_of_mem _ held, found⟩

end MapM

end Eva
