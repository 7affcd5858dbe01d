import Mathlib.Data.List.Basic

/-! # Programs over shared state

A program is a tree of atomic actions, each followed by what to do with its
response. A system runs any number of programs interleaved over one state; a
crash loses the programs and keeps what the state survives with.
-/

namespace Eva

inductive Program (Action : Type) (Response : Action → Type) (Result : Type) where
  | done (result : Result)
  | step (action : Action) (next : Response action → Program Action Response Result)

structure Observation (Action : Type) (Response : Action → Type) where
  action : Action
  response : Response action

namespace Program

variable {Action : Type} {Response : Action → Type} {Result Next : Type}

def call (action : Action) : Program Action Response (Response action) := step action done

def bind : Program Action Response Result → (Result → Program Action Response Next) →
    Program Action Response Next
  | done result, continuation => continuation result
  | step action next, continuation => step action fun response =>
      (next response).bind continuation

def map (program : Program Action Response Result) (convert : Result → Next) :
    Program Action Response Next :=
  program.bind fun result => done (convert result)

def andThen {Error : Type} (program : Program Action Response (Except Error Result))
    (continuation : Result → Program Action Response (Except Error Next)) :
    Program Action Response (Except Error Next) :=
  program.bind fun
    | .ok result => continuation result
    | .error error => done (.error error)

/-- Runs `attempt` until it has a result, at most `limit` times. -/
def repeatUntil (attempt : Program Action Response (Option Result)) (exhausted : Result) :
    (limit : Nat) → Program Action Response Result
  | 0 => done exhausted
  | limit + 1 => attempt.bind fun
      | some result => done result
      | none => repeatUntil attempt exhausted limit

theorem bind_done (program : Program Action Response Result) : program.bind done = program := by
  induction program with
  | done result => rfl
  | step action next induction =>
      exact congrArg (step action) (funext induction)

/-! ## Paths -/

/-- What remains of a program after the responses it has seen. -/
inductive Path : Program Action Response Result → List (Observation Action Response) →
    Program Action Response Result → Prop where
  | here (program) : Path program [] program
  | step {action next response past rest} (tail : Path (next response) past rest) :
      Path (.step action next) (⟨action, response⟩ :: past) rest

/-- The program performs `action` after the observations `past`. -/
def Emits (program : Program Action Response Result)
    (past : List (Observation Action Response)) (action : Action) : Prop :=
  ∃ next, Path program past (.step action next)

/-- The program ends with `result` after the observations `past`. -/
def Returns (program : Program Action Response Result)
    (past : List (Observation Action Response)) (result : Result) : Prop :=
  Path program past (.done result)

theorem Path.extend (path : Path program past (.step action next)) (response : Response action) :
    Path program (past ++ [⟨action, response⟩]) (next response) := by
  generalize equal : Program.step action next = rest at path
  induction path with
  | here => exact equal ▸ .step (.here _)
  | step tail induction => exact .step (induction equal)

@[simp] theorem emits_done :
    ¬(done result : Program Action Response Result).Emits past action := by
  rintro ⟨next, path⟩
  cases path

theorem returns_done_iff :
    (done result : Program Action Response Result).Returns past returned ↔
      past = [] ∧ returned = result := by
  constructor
  · intro path
    cases path
    exact ⟨rfl, rfl⟩
  · rintro ⟨rfl, rfl⟩
    exact .here _

theorem emits_step_iff :
    (step action next).Emits past emitted ↔
      (past = [] ∧ emitted = action) ∨
        ∃ response rest, past = ⟨action, response⟩ :: rest ∧
          (next response).Emits rest emitted := by
  constructor
  · rintro ⟨after, path⟩
    cases path with
    | here => exact .inl ⟨rfl, rfl⟩
    | step tail => exact .inr ⟨_, _, rfl, _, tail⟩
  · rintro (⟨rfl, rfl⟩ | ⟨response, rest, rfl, after, tail⟩)
    · exact ⟨next, .here _⟩
    · exact ⟨after, .step tail⟩

theorem returns_step_iff :
    (step action next).Returns past result ↔
      ∃ response rest, past = ⟨action, response⟩ :: rest ∧
        (next response).Returns rest result := by
  constructor
  · intro path
    cases path with
    | step tail => exact ⟨_, _, rfl, tail⟩
  · rintro ⟨response, rest, rfl, tail⟩
    exact .step tail

theorem emits_bind {program : Program Action Response Result}
    (emits : (program.bind continuation).Emits past action) :
    program.Emits past action ∨
      ∃ left right result, past = left ++ right ∧ program.Returns left result ∧
        (continuation result).Emits right action := by
  induction program generalizing past with
  | done result => exact .inr ⟨[], past, result, rfl, .here _, emits⟩
  | step first next induction =>
      rcases emits_step_iff.mp emits with ⟨rfl, rfl⟩ | ⟨response, rest, rfl, tail⟩
      · exact .inl ⟨next, .here _⟩
      · rcases induction response tail with ⟨after, path⟩ | ⟨left, right, result, rfl, path, tail⟩
        · exact .inl ⟨after, .step path⟩
        · exact .inr ⟨⟨first, response⟩ :: left, right, result, rfl, .step path, tail⟩

theorem returns_bind {program : Program Action Response Result}
    (returns : (program.bind continuation).Returns past result) :
    ∃ left right middle, past = left ++ right ∧ program.Returns left middle ∧
      (continuation middle).Returns right result := by
  induction program generalizing past with
  | done middle => exact ⟨[], past, middle, rfl, .here _, returns⟩
  | step first next induction =>
      obtain ⟨response, rest, rfl, tail⟩ := returns_step_iff.mp returns
      obtain ⟨left, right, middle, rfl, path, tail⟩ := induction response tail
      exact ⟨⟨first, response⟩ :: left, right, middle, rfl, .step path, tail⟩

theorem emits_map {program : Program Action Response Result}
    (emits : (program.map convert).Emits past action) : program.Emits past action := by
  rcases emits_bind emits with emits | ⟨left, right, result, -, -, emits⟩
  · exact emits
  · exact absurd emits emits_done

theorem returns_map {program : Program Action Response Result}
    (returns : (program.map convert).Returns past result) :
    ∃ inner, program.Returns past inner ∧ result = convert inner := by
  obtain ⟨left, right, inner, rfl, path, tail⟩ := returns_bind returns
  obtain ⟨rfl, rfl⟩ := returns_done_iff.mp tail
  exact ⟨inner, by simpa using path, rfl⟩

theorem path_map (path : Path (program.map convert) past rest) :
    ∃ inner, Path program past inner ∧ rest = inner.map convert := by
  induction program generalizing past with
  | done result =>
      cases path
      exact ⟨_, .here _, rfl⟩
  | step action next induction =>
      cases path with
      | here => exact ⟨_, .here _, rfl⟩
      | step tail =>
          obtain ⟨inner, path, rfl⟩ := induction _ tail
          exact ⟨inner, .step path, rfl⟩

/-! ## Contracts -/

/-- Whatever the responses, every action is one that `acts` allows after the observations
before it, and every result one that `ends` allows. -/
def Meets (acts : List (Observation Action Response) → Action → Prop)
    (ends : List (Observation Action Response) → Result → Prop) :
    Program Action Response Result → List (Observation Action Response) → Prop
  | done result, past => ends past result
  | step action next, past =>
      acts past action ∧ ∀ response, Meets acts ends (next response) (past ++ [⟨action, response⟩])

section Contracts

variable {program : Program Action Response Result}

theorem Meets.emits (meets : program.Meets acts ends before) (emits : program.Emits past action) :
    acts (before ++ past) action := by
  induction program generalizing before past with
  | done result => exact absurd emits emits_done
  | step first next induction =>
      rcases emits_step_iff.mp emits with ⟨rfl, rfl⟩ | ⟨response, rest, rfl, tail⟩
      · simpa using meets.1
      · simpa using induction response (meets.2 response) tail

theorem Meets.returns (meets : program.Meets acts ends before)
    (returns : program.Returns past result) : ends (before ++ past) result := by
  induction program generalizing before past with
  | done final =>
      obtain ⟨rfl, rfl⟩ := returns_done_iff.mp returns
      rw [List.append_nil]
      exact meets
  | step first next induction =>
      obtain ⟨response, rest, rfl, tail⟩ := returns_step_iff.mp returns
      simpa using induction response (meets.2 response) tail

theorem Meets.mono (meets : program.Meets acts ends past)
    (allowed : ∀ past action, acts past action → wider past action)
    (ended : ∀ past result, ends past result → final past result) :
    program.Meets wider final past := by
  induction program generalizing past with
  | done result => exact ended _ _ meets
  | step action next induction =>
      exact ⟨allowed _ _ meets.1, fun response => induction response (meets.2 response)⟩

theorem Meets.bind {final : List (Observation Action Response) → Next → Prop}
    (meets : program.Meets acts
      (fun past result => (continuation result).Meets acts final past) past) :
    (program.bind continuation).Meets acts final past := by
  induction program generalizing past with
  | done result => exact meets
  | step action next induction =>
      exact ⟨meets.1, fun response => induction response (meets.2 response)⟩

theorem Meets.map
    (meets : program.Meets acts (fun past result => final past (convert result)) past) :
    (program.map convert).Meets acts final past :=
  Meets.bind meets

/-- What a loop keeps up between its iterations. -/
theorem Meets.repeatUntil {attempt : Program Action Response (Option Result)}
    (between : List (Observation Action Response) → Prop)
    (round : ∀ past, between past → attempt.Meets acts
      (fun past result => result.elim (between past) (ends past)) past)
    (last : ∀ past, between past → ends past exhausted) (started : between past) :
    (repeatUntil attempt exhausted limit).Meets acts ends past := by
  induction limit generalizing past with
  | zero => exact last past started
  | succ limit induction =>
      refine Meets.bind ((round past started).mono (fun _ _ allowed => allowed) ?_)
      intro past result ended
      cases result with
      | none => exact induction ended
      | some result => exact ended

end Contracts

end Program

end Eva
