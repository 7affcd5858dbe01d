import Eva.Foundation.System

/-! # Calls one after the other

The runs in which every call ends before the next one starts can be computed.
They carry over to every system that simulates the one they were computed in.
-/

namespace Eva.System

variable {interface : Interface} (system : System interface)

/-! ## Execution -/

/-- What has happened so far when calls follow each other. -/
structure Session where
  state : system.State
  trace : List system.Event
  results : List (interface.Label × interface.Result)

/-- A part of a call that nothing interrupts, with the events it adds to the trace. -/
def execute {Result : Type} (environment : interface.Environment) (thread : Nat)
    (label : interface.Label) :
    Program interface.Action interface.Response Result →
      system.State → List system.Event →
      Option (system.State × List system.Event × Result)
  | .done result, state, trace => some (state, trace, result)
  | .step action next, state, trace =>
      match system.perform state action environment with
      | none => none
      | some (after, response) =>
          execute environment thread label (next response) after
            (.act ⟨thread, label, environment, state, after, action, response⟩ :: trace)

/-- What a call returns when nothing comes between its actions. -/
def outcome (state : system.State) (environment : interface.Environment)
    (label : interface.Label) : Option interface.Result :=
  (system.execute environment 0 label (interface.program label) state []).map (·.2.2)

/-- The number of a call is the number of calls before it. -/
def Session.call {system : System interface} (session : system.Session)
    (environment : interface.Environment) (label : interface.Label) :
    Option system.Session :=
  let thread := session.results.length
  match system.execute environment thread label (interface.program label) session.state
      (.spawn thread label :: session.trace) with
  | none => none
  | some (state, trace, result) =>
      some { state, trace, results := (label, result) :: session.results }

/-- The calls of a script stand newest first, like the events of a trace. -/
def script (initial : system.State) :
    List (interface.Environment × interface.Label) → Option system.Session
  | [] => some { state := initial, trace := [], results := [] }
  | (environment, label) :: calls =>
      match script initial calls with
      | none => none
      | some session => session.call environment label

/-- Started in `state`, the program adds `events` to any trace and ends in `after`. -/
def Executes {Result : Type} (environment : interface.Environment) (thread : Nat)
    (label : interface.Label)
    (program : Program interface.Action interface.Response Result)
    (state after : system.State) (events : List system.Event) (result : Result) : Prop :=
  ∀ trace, system.execute environment thread label program state trace =
    some (after, events ++ trace, result)

section Composition

variable {system} {Result : Type}

namespace Executes

theorem done :
    system.Executes environment thread label (.done result) state state [] result :=
  fun _ => rfl

theorem step (performed : system.perform state action environment = some (middle, response))
    (rest : system.Executes environment thread label (next response) middle after events result) :
    system.Executes environment thread label (.step action next) state after
      (events ++ [.act ⟨thread, label, environment, state, middle, action, response⟩])
      result := by
  intro trace
  rw [execute, performed]
  simpa using rest _

theorem bind (first : system.Executes environment thread label program state middle events result)
    (second : system.Executes environment thread label (continuation result) middle after later
      next) :
    system.Executes environment thread label (program.bind continuation) state after
      (later ++ events) next := by
  have extend (trace extended : List system.Event)
      (executed : system.execute environment thread label program state trace =
        some (middle, extended, result)) :
      system.execute environment thread label (program.bind continuation) state trace =
        some (after, later ++ extended, next) := by
    clear first
    induction program generalizing state trace with
    | done value =>
        simp only [execute, Option.some.injEq, Prod.mk.injEq] at executed
        obtain ⟨rfl, rfl, rfl⟩ := executed
        exact second trace
    | step action branches induction =>
        unfold execute at executed
        split at executed
        next => cases executed
        next reached response performed =>
            rw [Program.bind, execute, performed]
            exact induction response _ executed
  intro trace
  rw [List.append_assoc]
  exact extend trace _ (first trace)

theorem map (executes : system.Executes environment thread label program state after events result)
    (convert : Result → Next) :
    system.Executes environment thread label (program.map convert) state after events
      (convert result) := by
  change system.Executes environment thread label (program.bind fun result =>
    .done (convert result)) state after ([] ++ events) _
  exact executes.bind done

/-- A loop whose first attempt has a result ends with it. -/
theorem repeatUntil
    (executes : system.Executes environment thread label attempt state after events (some result)) :
    system.Executes environment thread label (.repeatUntil attempt exhausted (limit + 1)) state after
      events result := by
  change system.Executes environment thread label (attempt.bind _) state after ([] ++ events) _
  exact executes.bind done

theorem outcome
    (executes : system.Executes environment 0 label (interface.program label) state after events
      result) : system.outcome state environment label = some result := by
  rw [System.outcome, executes []]
  rfl

end Executes

end Composition

/-! ## Executions are runs -/

section Runs

variable {system} {initial : system.State}

/-- The session is what a run of finished calls has led to. -/
structure Session.Reached (initial : system.State) (session : system.Session) : Prop where
  run : ∃ threads, system.Run initial session.trace ⟨session.state, threads⟩
  numbered : ∀ event ∈ session.trace, ∀ thread, event.thread = some thread →
    thread < session.results.length
  returned : ∀ entry ∈ session.results,
    system.HasReturned initial session.trace entry.1 entry.2

theorem HasReturned.later (returned : system.HasReturned initial trace label result)
    (events : List system.Event) :
    system.HasReturned initial (events ++ trace) label result := by
  obtain ⟨later, earlier, configuration, number, past, rfl, run, finished⟩ := returned
  exact ⟨events ++ later, earlier, configuration, number, past, by simp, run, finished⟩

/-- What the next part of a scheduled call does on its own it can do in a run. -/
theorem execute_run (run : system.Run initial trace ⟨state, threads⟩)
    (scheduled : threads thread = some ⟨label, past, program.bind continuation⟩)
    (executed : system.execute environment thread label program state trace =
      some (after, extended, result)) :
    ∃ threads past events, system.Run initial extended ⟨after, threads⟩ ∧
      threads thread = some ⟨label, past, continuation result⟩ ∧ extended = events ++ trace ∧
      ∀ event ∈ events, event.thread = some thread := by
  induction program generalizing state trace threads past with
  | done result =>
      obtain ⟨rfl, rfl, rfl⟩ := executed
      exact ⟨threads, past, [], run, scheduled, rfl, by simp⟩
  | step action next induction =>
      unfold execute at executed
      split at executed
      next => cases executed
      next after response performed =>
          obtain ⟨threads, past, events, run, finished, rfl, own⟩ := induction response
            (run.act ⟨thread, label, environment, state, after, action, response⟩ scheduled rfl
              performed) (Function.update_self ..) executed
          refine ⟨threads, past, events ++ [.act ⟨thread, label, environment, state, after,
            action, response⟩], run, finished, by simp, ?_⟩
          intro event member
          rcases List.mem_append.mp member with member | member
          · exact own event member
          · rw [List.mem_singleton.mp member]
            rfl

/-- The next call of a session starts, acts and ends. -/
theorem Session.Reached.call_run {session extended : system.Session}
    (reached : session.Reached initial)
    (called : session.call environment label = some extended) :
    ∃ threads events past result,
      system.Run initial extended.trace ⟨extended.state, threads⟩ ∧
      threads session.results.length = some ⟨label, past, .done result⟩ ∧
      extended.trace = events ++ .spawn session.results.length label :: session.trace ∧
      extended.results = (label, result) :: session.results ∧
      ∀ event ∈ events, event.thread = some session.results.length := by
  unfold Session.call at called
  dsimp only at called
  split at called
  next => cases called
  next state trace result executed =>
      obtain rfl := Option.some.inj called
      obtain ⟨threads, run⟩ := reached.run
      have fresh : ∀ event ∈ session.trace,
          event.thread ≠ some session.results.length := fun event member same =>
        Nat.lt_irrefl _ (reached.numbered event member _ same)
      have whole : (interface.program label).bind .done = interface.program label :=
        Program.bind_done _
      obtain ⟨threads, past, events, run, finished, rfl, own⟩ := execute_run
        (run.spawn session.results.length label fresh)
        (by rw [Function.update_self, whole]) executed
      exact ⟨threads, events, past, result, run, finished, rfl, rfl, own⟩

theorem Session.Reached.call {session extended : system.Session}
    (reached : session.Reached initial)
    (called : session.call environment label = some extended) :
    extended.Reached initial := by
  obtain ⟨threads, events, past, result, run, finished, traces, results, own⟩ :=
    reached.call_run called
  refine ⟨⟨threads, run⟩, ?_, ?_⟩
  · intro event member thread same
    rw [results, List.length_cons]
    rw [traces] at member
    rcases List.mem_append.mp member with member | member
    · rw [own event member, Option.some.injEq] at same
      omega
    rcases List.mem_cons.mp member with rfl | member
    · rw [Event.thread, Option.some.injEq] at same
      omega
    · exact Nat.lt_succ_of_lt (reached.numbered event member thread same)
  · intro entry member
    rw [results] at member
    rcases List.mem_cons.mp member with rfl | member
    · exact ⟨[], _, _, _, past, rfl, run, finished⟩
    · have kept := (reached.returned entry member).later
        (events ++ [.spawn session.results.length label])
      rw [traces]
      simpa using kept

theorem script_reached (executed : system.script initial calls = some session) :
    session.Reached initial := by
  induction calls generalizing session with
  | nil =>
      obtain rfl := Option.some.inj executed
      exact ⟨⟨_, .start⟩, by simp, by simp⟩
  | cons call calls induction =>
      unfold script at executed
      split at executed
      next => cases executed
      next earlier first => exact (induction first).call executed

theorem script_cons
    (executed : system.script initial ((environment, label) :: calls) = some session) :
    ∃ earlier, system.script initial calls = some earlier ∧
      earlier.call environment label = some session := by
  unfold script at executed
  split at executed
  next => cases executed
  next earlier first => exact ⟨earlier, first, executed⟩

end Runs

/-! ## Simulation -/

/-- Every step of `abstract` is a step of `concrete` with the same response. -/
structure Simulation (abstract concrete : System interface) where
  Related : abstract.State → concrete.State → Prop
  perform : ∀ {state after image action environment response}, Related state image →
    abstract.perform state action environment = some (after, response) →
    ∃ imageAfter, concrete.perform image action environment = some (imageAfter, response) ∧
      Related after imageAfter

/-- The two events differ in the states at most. -/
inductive SameEvent {abstract concrete : System interface} :
    abstract.Event → concrete.Event → Prop where
  | spawn (thread : Nat) (label : interface.Label) :
      SameEvent (.spawn thread label) (.spawn thread label)
  | act (left : abstract.Act) (before after : concrete.State) :
      SameEvent (.act left) (.act ⟨left.thread, left.label, left.environment, before, after,
        left.action, left.response⟩)

namespace Simulation

variable (simulation : Simulation abstract concrete)

include simulation

private theorem execute
    (related : simulation.Related state image) (same : List.Forall₂ SameEvent trace imageTrace)
    (executed : abstract.execute environment thread label program state trace =
      some (after, extended, result)) :
    ∃ imageAfter imageExtended, concrete.execute environment thread label program image
        imageTrace = some (imageAfter, imageExtended, result) ∧
      simulation.Related after imageAfter ∧ List.Forall₂ SameEvent extended imageExtended := by
  induction program generalizing state image trace imageTrace with
  | done result =>
      obtain ⟨rfl, rfl, rfl⟩ := executed
      exact ⟨image, imageTrace, rfl, related, same⟩
  | step action next induction =>
      unfold System.execute at executed ⊢
      split at executed
      next => cases executed
      next middle response performed =>
          obtain ⟨imageMiddle, imagePerformed, related⟩ := simulation.perform related performed
          simp only [imagePerformed]
          exact induction response related (.cons (.act ⟨thread, label, environment, state,
            middle, action, response⟩ image imageMiddle) same) executed

theorem script (related : simulation.Related initial imageInitial)
    (executed : abstract.script initial calls = some session) :
    ∃ imageSession, concrete.script imageInitial calls = some imageSession ∧
      simulation.Related session.state imageSession.state ∧
      List.Forall₂ SameEvent session.trace imageSession.trace ∧
      imageSession.results = session.results := by
  induction calls generalizing session with
  | nil =>
      obtain rfl := Option.some.inj executed
      exact ⟨_, rfl, related, .nil, rfl⟩
  | cons call calls induction =>
      unfold System.script at executed ⊢
      split at executed
      next => cases executed
      next earlier first =>
          obtain ⟨imageEarlier, imageFirst, related, same, results⟩ := induction first
          simp only [imageFirst]
          unfold Session.call at executed ⊢
          dsimp only at executed ⊢
          split at executed
          next => cases executed
          next state extended result ran =>
              obtain rfl := Option.some.inj executed
              obtain ⟨imageState, imageExtended, imageRan, related, same⟩ :=
                simulation.execute related (.cons (.spawn _ _) same) ran
              rw [results, imageRan]
              exact ⟨_, rfl, related, same, rfl⟩

end Simulation

end Eva.System
