import Eva.Foundation.System

/-! # Threads that rely on each other

Each thread asks for a number and from then on acts under it. A discipline says what
an action requires of the state that it is performed in. When every program keeps to
the discipline, relying on no more than the others keeping to it as well, every action
of every run is performed in a state that it requires.
-/

namespace Eva

structure Discipline {interface : Interface} (system : System interface) where
  /-- The action that hands out a number. -/
  enter : interface.Action
  number : interface.Response enter → Nat
  /-- The number that an action is performed under. -/
  actor : interface.Action → Option Nat
  handedOut : system.State → Nat
  requires : interface.Action → system.State → Prop
  enters : ∀ {before environment after response},
    system.perform before enter environment = some (after, response) →
      number response = handedOut before ∧ handedOut after = handedOut before + 1
  advances : ∀ {action before environment after response},
    system.perform before action environment = some (after, response) →
      handedOut before ≤ handedOut after
  survives : ∀ state, handedOut state ≤ handedOut (system.restart state)
  unnumbered : actor enter = none
  unconditional : ∀ state, requires enter state

namespace Discipline

variable {interface : Interface} {system : System interface} (discipline : Discipline system)

/-- What the actions of others do not end. -/
def Stable (self : Nat) (holds : system.State → Prop) : Prop :=
  ∀ ⦃action before environment after response⦄, discipline.actor action ≠ some self →
    discipline.requires action before →
    system.perform before action environment = some (after, response) →
    holds before → holds after

/-- Started where `holds`, the program performs every action as required and ends
where `ends`, whatever the others do in between. -/
def Keeps {Result : Type} (self : Nat) :
    Program interface.Action interface.Response Result → (system.State → Prop) →
      (Result → system.State → Prop) → Prop
  | .done result, holds, ends => ∀ state, holds state → ends result state
  | .step action next, holds, ends =>
      discipline.actor action = some self ∧
      ∃ later : interface.Response action → system.State → Prop,
        (∀ response, discipline.Stable self (later response)) ∧
        (∀ before environment after response, holds before →
          system.perform before action environment = some (after, response) →
          discipline.requires action before ∧ later response after) ∧
        ∀ response, Keeps self (next response) (later response) ends

/-- A program that asks for a number and keeps to the discipline under any number. -/
def Obeys (program : Program interface.Action interface.Response interface.Result) : Prop :=
  ∃ body, program = .step discipline.enter body ∧
    ∀ response, discipline.Keeps (discipline.number response) (body response)
      (fun _ => True) (fun _ _ => True)

/-! ## Programs that keep to a discipline -/

variable {discipline}

theorem stable_true : discipline.Stable self fun _ => True :=
  fun _ _ _ _ _ _ _ _ _ => trivial

theorem Stable.and (first : discipline.Stable self left)
    (second : discipline.Stable self right) :
    discipline.Stable self fun state => left state ∧ right state :=
  fun _ _ _ _ _ other required performed holds =>
    ⟨first other required performed holds.1, second other required performed holds.2⟩

variable {Result : Type} {holds : system.State → Prop}

theorem keeps_done (ended : ∀ state, holds state → ends result state) :
    discipline.Keeps self (.done result) holds ends := ended

theorem keeps_step
    (own : discipline.actor action = some self)
    (later : interface.Response action → system.State → Prop)
    (stable : ∀ response, discipline.Stable self (later response))
    (performs : ∀ before environment after response, holds before →
      system.perform before action environment = some (after, response) →
      discipline.requires action before ∧ later response after)
    (rest : ∀ response, discipline.Keeps self (next response) (later response) ends) :
    discipline.Keeps self (.step action next) holds ends :=
  ⟨own, later, stable, performs, rest⟩

/-- More may be known at the start and less asked for at the end. -/
theorem Keeps.weaken (keeps : discipline.Keeps self program holds ends)
    (start : ∀ state, known state → holds state)
    (finish : ∀ result state, ends result state → asked result state) :
    discipline.Keeps self program known asked := by
  induction program generalizing holds known with
  | done result => exact fun state given => finish result state (keeps state (start state given))
  | step action next induction =>
      obtain ⟨own, later, stable, performs, rest⟩ := keeps
      refine ⟨own, later, stable, ?_,
        fun response => induction response (rest response) fun _ given => given⟩
      intro before environment after response given
      exact performs before environment after response (start before given)

/-- Two results about one program hold together. -/
theorem Keeps.and (first : discipline.Keeps self program holds left)
    (second : discipline.Keeps self program known right) :
    discipline.Keeps self program (fun state => holds state ∧ known state)
      fun result state => left result state ∧ right result state := by
  induction program generalizing holds known with
  | done result => exact fun state given => ⟨first state given.1, second state given.2⟩
  | step action next induction =>
      obtain ⟨own, sooner, stable, performs, rest⟩ := first
      obtain ⟨-, later, lasting, acts, remaining⟩ := second
      refine ⟨own, fun response state => sooner response state ∧ later response state,
        fun response => (stable response).and (lasting response), ?_,
        fun response => induction response (rest response) (remaining response)⟩
      intro before environment after response given performed
      obtain ⟨required, left⟩ := performs before environment after response given.1 performed
      exact ⟨required, left, (acts before environment after response given.2 performed).2⟩

theorem Keeps.bind (first : discipline.Keeps self program holds middle)
    (second : ∀ result, discipline.Keeps self (continuation result) (middle result) ends) :
    discipline.Keeps self (program.bind continuation) holds ends := by
  induction program generalizing holds with
  | done result => exact (second result).weaken first fun _ _ given => given
  | step action next induction =>
      obtain ⟨own, later, stable, performs, rest⟩ := first
      exact ⟨own, later, stable, performs, fun response => induction response (rest response)⟩

/-- What is known after a success; a failure may be met with anything. -/
def OnSuccess {Error State : Type} (ends : Result → State → Prop) :
    Except Error Result → State → Prop
  | .ok result => ends result
  | .error _ => fun _ => True

theorem Keeps.onSuccess
    {program : Program interface.Action interface.Response (Except Error Result)}
    (keeps : discipline.Keeps self program holds fun _ => ends) :
    discipline.Keeps self program holds (OnSuccess fun _ => ends) := by
  refine keeps.weaken (fun _ given => given) fun result state given => ?_
  cases result with
  | ok result => exact given
  | error error => trivial

theorem Keeps.andThen {program : Program interface.Action interface.Response (Except Error Result)}
    {continuation : Result → Program interface.Action interface.Response (Except Error Next)}
    (first : discipline.Keeps self program holds (OnSuccess middle))
    (second : ∀ result, discipline.Keeps self (continuation result) (middle result)
      (OnSuccess ends)) :
    discipline.Keeps self (program.andThen continuation) holds (OnSuccess ends) := by
  refine first.bind fun result => ?_
  cases result with
  | ok result => exact second result
  | error error => exact keeps_done fun _ _ => trivial

theorem keeps_check {checked : Except Error Result}
    {continuation : Result → Program interface.Action interface.Response (Except Error Next)}
    (rest : ∀ result, checked = .ok result →
      discipline.Keeps self (continuation result) holds (OnSuccess ends)) :
    discipline.Keeps self ((Program.done checked).andThen continuation) holds
      (OnSuccess ends) := by
  cases checked with
  | ok result => exact rest result rfl
  | error error => exact keeps_done fun _ _ => trivial

/-- What is known after one turn of a loop. -/
def OnTurn {State : Type} (ends : Result → State → Prop) (again : State → Prop) :
    Option Result → State → Prop
  | some result => ends result
  | none => again

theorem Keeps.repeatUntil (once : discipline.Keeps self attempt holds (OnTurn ends holds))
    (last : ∀ state, holds state → ends exhausted state) (limit : Nat) :
    discipline.Keeps self (Program.repeatUntil attempt exhausted limit) holds ends := by
  induction limit with
  | zero => exact keeps_done last
  | succ limit induction =>
      refine once.bind fun result => ?_
      cases result with
      | some result => exact keeps_done fun _ given => given
      | none => exact induction

/-! ## Runs -/

/-- Every thread is before its number, or it has one of its own and keeps to the
discipline from where it is. -/
structure Follows (discipline : Discipline system) (configuration : system.Configuration)
    (numbers : Nat → Option Nat) : Prop where
  distinct : ∀ first second number, numbers first = some number →
    numbers second = some number → first = second
  given : ∀ thread number, numbers thread = some number →
    number < discipline.handedOut configuration.state
  started : ∀ thread running, configuration.threads thread = some running →
    numbers thread = none → running.rest = interface.program running.label
  keeps : ∀ thread running number, configuration.threads thread = some running →
    numbers thread = some number → ∃ holds, discipline.Stable number holds ∧
      holds configuration.state ∧
      discipline.Keeps number running.rest holds fun _ _ => True

private theorem Follows.spawn (follows : discipline.Follows configuration numbers) (thread : Nat)
    (label : interface.Label) : discipline.Follows
      { configuration with
        threads := Function.update configuration.threads thread
          (some ⟨label, [], interface.program label⟩) }
      (Function.update numbers thread none) := by
  have kept {other number : Nat} (numbered : Function.update numbers thread none other =
      some number) : other ≠ thread ∧ numbers other = some number :=
    (System.update_eq_some numbered).resolve_left (nomatch ·.2)
  constructor
  · intro first second number left right
    exact follows.distinct first second number (kept left).2 (kept right).2
  · intro other number numbered
    exact follows.given other number (kept numbered).2
  · intro other running scheduled unnumbered
    rcases System.update_eq_some scheduled with ⟨rfl, ⟨⟩⟩ | ⟨different, scheduled⟩
    · rfl
    · rw [Function.update_of_ne different] at unnumbered
      exact follows.started other running scheduled unnumbered
  · intro other running number scheduled numbered
    obtain ⟨different, numbered⟩ := kept numbered
    simp only [Function.update_of_ne different] at scheduled
    exact follows.keeps other running number scheduled numbered

section

variable (obeys : ∀ label, discipline.Obeys (interface.program label))
include obeys

/-- The action is required where it is performed, and afterwards all still follow. -/
private theorem Follows.act
    (follows : discipline.Follows configuration numbers)
    (act : system.Act)
    {next : interface.Response act.action → Program interface.Action interface.Response
      interface.Result}
    (scheduled : configuration.threads act.thread =
      some ⟨act.label, past, .step act.action next⟩)
    (current : configuration.state = act.before)
    (performed : system.perform act.before act.action act.environment =
      some (act.after, act.response)) :
    discipline.requires act.action act.before ∧ ∃ numbers, discipline.Follows
      { state := act.after
        threads := Function.update configuration.threads act.thread
          (some ⟨act.label, past ++ [act.observation], next act.response⟩) } numbers := by
  have advances := discipline.advances performed
  -- The other threads keep what they know.
  have others {number : Nat} (required : discipline.requires act.action act.before)
      (other : discipline.actor act.action ≠ some number) {holds : system.State → Prop}
      (stable : discipline.Stable number holds) (before : holds configuration.state) :
      holds act.after :=
    stable other required performed (current ▸ before)
  cases numbered : numbers act.thread with
  | none =>
      obtain ⟨body, entering, keeps⟩ := obeys act.label
      have first := follows.started act.thread _ scheduled numbered
      simp only [entering, Program.step.injEq] at first
      obtain ⟨entered, branches⟩ := first
      obtain ⟨thread, label, environment, before, after, action, response⟩ := act
      simp only at *
      subst entered
      obtain rfl := eq_of_heq branches
      obtain ⟨fresh, counted⟩ := discipline.enters performed
      have below : ∀ other number, numbers other = some number →
          number < discipline.handedOut before := by
        intro other number held
        have given := follows.given other number held
        rwa [current] at given
      refine ⟨discipline.unconditional before,
        Function.update numbers thread (some (discipline.number response)), ?_, ?_, ?_, ?_⟩
      · intro first second number left right
        rcases System.update_eq_some left with ⟨rfl, ⟨⟩⟩ | ⟨one, left⟩ <;>
          rcases System.update_eq_some right with ⟨two, right⟩ | ⟨two, right⟩
        · exact two.symm
        · have smaller := below second _ right
          omega
        · cases right
          have smaller := below first _ left
          omega
        · exact follows.distinct first second number left right
      · intro other number held
        rcases System.update_eq_some held with ⟨rfl, ⟨⟩⟩ | ⟨-, held⟩
        · simp only [counted]
          omega
        · have smaller := below other number held
          simp only
          omega
      · intro other running held unnumbered
        have different : other ≠ thread := by
          rintro rfl
          simp at unnumbered
        simp only [Function.update_of_ne different] at held unnumbered
        exact follows.started other running held unnumbered
      · intro other running number held numbered
        rcases System.update_eq_some held with ⟨rfl, ⟨⟩⟩ | ⟨same, held⟩
        · rw [Function.update_self, Option.some.injEq] at numbered
          subst numbered
          exact ⟨_, stable_true, trivial, keeps response⟩
        · rw [Function.update_of_ne same] at numbered
          obtain ⟨holds, stable, before, rest⟩ := follows.keeps other running number held numbered
          have different : discipline.actor discipline.enter ≠ some number := by
            rw [discipline.unnumbered]
            exact nofun
          exact ⟨holds, stable, others (discipline.unconditional _) different stable before, rest⟩
  | some number =>
      obtain ⟨holds, stable, before, own, later, stays, performs, rest⟩ :=
        follows.keeps act.thread _ number scheduled numbered
      obtain ⟨required, after⟩ :=
        performs _ act.environment _ act.response (current ▸ before) performed
      refine ⟨required, numbers, follows.distinct, ?_, ?_, ?_⟩
      · intro other held holding
        have given := follows.given other held holding
        rw [current] at given
        exact Nat.lt_of_lt_of_le given advances
      · intro other running held unnumbered
        have different : other ≠ act.thread := by
          rintro rfl
          rw [numbered] at unnumbered
          cases unnumbered
        simp only [Function.update_of_ne different] at held
        exact follows.started other running held unnumbered
      · intro other running taken held holding
        rcases System.update_eq_some held with ⟨rfl, ⟨⟩⟩ | ⟨same, held⟩
        · rw [numbered, Option.some.injEq] at holding
          subst holding
          exact ⟨_, stays act.response, after, rest act.response⟩
        · obtain ⟨known, kept, before, remaining⟩ :=
            follows.keeps other running taken held holding
          have different : discipline.actor act.action ≠ some taken := by
            rw [own]
            intro equal
            exact same (follows.distinct other act.thread taken holding (equal ▸ numbered))
          exact ⟨known, kept, others required different kept before, remaining⟩

private theorem run_follows
    (run : system.Run initial trace configuration) :
    ∃ numbers, discipline.Follows configuration numbers := by
  induction run with
  | start => exact ⟨fun _ => none, nofun, nofun, nofun, nofun⟩
  | spawn run thread label fresh induction =>
      obtain ⟨numbers, follows⟩ := induction
      exact ⟨_, follows.spawn thread label⟩
  | act run act scheduled current performed induction =>
      obtain ⟨numbers, follows⟩ := induction
      exact (follows.act obeys act scheduled current performed).2
  | crash run => exact ⟨fun _ => none, nofun, nofun, nofun, nofun⟩

theorem act_requires
    (run : system.Run initial (later ++ .act act :: earlier) configuration) :
    discipline.requires act.action act.before := by
  obtain ⟨after, run⟩ := run.before
  cases run with
  | act run act scheduled current performed =>
      obtain ⟨numbers, follows⟩ := run_follows obeys run
      exact (follows.act obeys act scheduled current performed).1

end

/-- What holds at the start and is kept by every action that is performed as required
holds throughout a run. -/
theorem invariant (obeys : ∀ label, discipline.Obeys (interface.program label))
    (property : List system.Event → system.State → Prop) (start : property [] initial)
    (spawn : ∀ {trace state} thread label, property trace state →
      property (.spawn thread label :: trace) state)
    (act : ∀ {trace} (act : system.Act), property trace act.before →
      discipline.requires act.action act.before →
      system.perform act.before act.action act.environment = some (act.after, act.response) →
      property (.act act :: trace) act.after)
    (crash : ∀ {trace state}, property trace state →
      property (.crash :: trace) (system.restart state))
    (run : system.Run initial trace configuration) : property trace configuration.state := by
  induction run with
  | start => exact start
  | spawn run thread label fresh induction => exact spawn thread label induction
  | act run performed scheduled current result induction =>
      obtain ⟨numbers, follows⟩ := run_follows obeys run
      have required := (follows.act obeys performed scheduled current result).1
      exact act performed (current ▸ induction) required result
  | crash run induction => exact crash induction

end Discipline

end Eva
