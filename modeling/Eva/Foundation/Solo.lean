import Eva.Foundation.Program

/-! # A program on its own

What a program can do while no other one takes a turn. Its surroundings may change
from one action to the next, and it may be stopped anywhere.
-/

namespace Eva.Program

variable {Action : Type} {Response : Action → Type} {State Environment Result : Type}
  {perform : State → (action : Action) → Environment → Option (State × Response action)}

/-- On its own, the program leads from one state to another and leaves `rest` to do. -/
inductive Reaches
    (perform : State → (action : Action) → Environment → Option (State × Response action)) :
    State → Program Action Response Result → State → Program Action Response Result → Prop where
  | here {state program} : Reaches perform state program state program
  | step {state middle after action next rest response} (environment : Environment)
      (performed : perform state action environment = some (middle, response))
      (tail : Reaches perform middle (next response) after rest) :
      Reaches perform state (.step action next) after rest

/-- What the program ends with when its surroundings stay the same. -/
def conclude
    (perform : State → (action : Action) → Environment → Option (State × Response action))
    (environment : Environment) : Program Action Response Result → State → Option (State × Result)
  | .done result, state => some (state, result)
  | .step action next, state =>
      match perform state action environment with
      | none => none
      | some (after, response) => conclude perform environment (next response) after

theorem step_ne_done : step action next ≠ done result := by
  intro same
  cases same

theorem done_ne_done (different : first ≠ second) :
    (done first : Program Action Response Result) ≠ done second := by
  intro same
  cases same
  exact different rfl

namespace Reaches

theorem done (reaches : Reaches perform state (.done result) after rest) :
    after = state ∧ rest = .done result := by
  cases reaches
  exact ⟨rfl, rfl⟩

/-- The first action has not happened yet, or it has. -/
theorem step_cases (reaches : Reaches perform state (.step action next) after rest) :
    (after = state ∧ rest = .step action next) ∨
      ∃ environment middle response,
        perform state action environment = some (middle, response) ∧
          Reaches perform middle (next response) after rest := by
  cases reaches with
  | here => exact .inl ⟨rfl, rfl⟩
  | step environment performed tail => exact .inr ⟨environment, _, _, performed, tail⟩

theorem bind_cases (reaches : Reaches perform state (program.bind continuation) after rest) :
    (∃ action next, Reaches perform state program after (.step action next) ∧
        rest = .step action fun response => (next response).bind continuation) ∨
      ∃ middle result, Reaches perform state program middle (.done result) ∧
        Reaches perform middle (continuation result) after rest := by
  induction program generalizing state with
  | done result => exact .inr ⟨state, result, .here, reaches⟩
  | step action next induction =>
      rcases step_cases reaches with
        ⟨rfl, rfl⟩ | ⟨environment, middle, response, performed, tail⟩
      · exact .inl ⟨action, next, .here, rfl⟩
      · rcases induction response tail with
          ⟨last, branches, first, rfl⟩ | ⟨last, result, first, second⟩
        · exact .inl ⟨last, branches, .step environment performed first, rfl⟩
        · exact .inr ⟨last, result, .step environment performed first, second⟩

/-- The second part is not there yet or will never be, or the first one has succeeded. -/
theorem andThen_cases {program : Program Action Response (Except Error Result)}
    {continuation : Result → Program Action Response (Except Error Next)}
    {rest : Program Action Response (Except Error Next)}
    (reaches : Reaches perform state (program.andThen continuation) after rest) :
    (∃ left, Reaches perform state program after left) ∨
      ∃ middle result, Reaches perform state program middle (.done (.ok result)) ∧
        Reaches perform middle (continuation result) after rest := by
  rcases bind_cases reaches with ⟨action, next, first, -⟩ | ⟨middle, result, first, second⟩
  · exact .inl ⟨_, first⟩
  · cases result with
    | ok value => exact .inr ⟨middle, value, first, second⟩
    | error error =>
        obtain ⟨rfl, -⟩ := done second
        exact .inl ⟨_, first⟩

/-- What every action of the program keeps is kept. -/
theorem keeps {program rest : Program Action Response Result}
    (relation : State → State → Prop) (same : ∀ state, relation state state)
    (compose : ∀ first second third, relation first second → relation second third →
      relation first third)
    (acts : ∀ past action environment before middle response, program.Emits past action →
      perform before action environment = some (middle, response) → relation before middle)
    (reaches : Reaches perform state program after rest) : relation state after := by
  induction reaches with
  | here => exact same _
  | @step state middle after action next rest response environment performed tail induction =>
      refine compose _ _ _ (acts [] action environment _ _ _ ⟨next, .here _⟩ performed)
        (induction fun past later environment before between answer emits => ?_)
      obtain ⟨further, path⟩ := emits
      exact acts (⟨action, response⟩ :: past) later environment before between answer
        ⟨further, .step path⟩

end Reaches

section Conclude

theorem reaches_of_conclude
    (concluded : program.conclude perform environment state = some (after, result)) :
    Reaches perform state program after (.done result) := by
  induction program generalizing state with
  | done answer =>
      cases concluded
      exact .here
  | step action next induction =>
      unfold conclude at concluded
      split at concluded
      next => cases concluded
      next middle response performed =>
          exact .step environment performed (induction response concluded)

theorem conclude_bind {program : Program Action Response Result}
    (first : program.conclude perform environment state = some (middle, result)) :
    (program.bind continuation).conclude perform environment state =
      (continuation result).conclude perform environment middle := by
  induction program generalizing state with
  | done answer =>
      cases first
      rfl
  | step action next induction =>
      unfold conclude at first
      split at first
      next => cases first
      next between response performed =>
          change (step action fun response => (next response).bind continuation).conclude
            perform environment state = _
          rw [conclude, performed]
          exact induction response first

end Conclude

end Eva.Program
