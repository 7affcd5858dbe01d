import Eva.Foundation.Program

/-! # Interleaved runs

Threads of a system take turns performing the next action of their programs.
The environment decides the order, when a new thread starts, how each action
meets its surroundings, and when the whole system crashes.
-/

namespace Eva

/-- What can be called and what the calls do, whatever carries them out. -/
structure Interface where
  Action : Type
  Response : Action → Type
  /-- What the surroundings add to an action. -/
  Environment : Type
  Label : Type
  Result : Type
  program : Label → Program Action Response Result

structure System (interface : Interface) where
  State : Type
  /-- `none` when the action has to wait. -/
  perform : State → (action : interface.Action) → interface.Environment →
    Option (State × interface.Response action)
  /-- What a crash leaves of the state. -/
  restart : State → State

abbrev Interface.Observation (interface : Interface) :=
  Eva.Observation interface.Action interface.Response

structure Thread (interface : Interface) where
  label : interface.Label
  past : List interface.Observation
  rest : Program interface.Action interface.Response interface.Result

namespace System

variable {interface : Interface} (system : System interface)

structure Configuration where
  state : system.State
  threads : Nat → Option (Thread interface)

structure Act where
  thread : Nat
  label : interface.Label
  environment : interface.Environment
  before : system.State
  after : system.State
  action : interface.Action
  response : interface.Response action

inductive Event where
  | spawn (thread : Nat) (label : interface.Label)
  | act (act : system.Act)
  | crash

variable {system} in
def Act.observation (act : system.Act) : interface.Observation :=
  ⟨act.action, act.response⟩

variable {system} in
def Event.thread : system.Event → Option Nat
  | spawn thread _ => some thread
  | act performed => some performed.thread
  | crash => none

/-- Traces have the newest event first. Thread numbers are never used again. -/
inductive Run (initial : system.State) :
    List system.Event → system.Configuration → Prop where
  | start : Run initial [] ⟨initial, fun _ => none⟩
  | spawn {trace configuration} (run : Run initial trace configuration) (thread : Nat)
      (label : interface.Label) (fresh : ∀ event ∈ trace, event.thread ≠ some thread) :
      Run initial (.spawn thread label :: trace)
        { configuration with
          threads := Function.update configuration.threads thread
            (some ⟨label, [], interface.program label⟩) }
  | act {trace configuration} (run : Run initial trace configuration) (act : system.Act)
      {past next}
      (scheduled : configuration.threads act.thread =
        some ⟨act.label, past, .step act.action next⟩)
      (current : configuration.state = act.before)
      (performed : system.perform act.before act.action act.environment =
        some (act.after, act.response)) :
      Run initial (.act act :: trace)
        { state := act.after
          threads := Function.update configuration.threads act.thread
            (some ⟨act.label, past ++ [act.observation], next act.response⟩) }
  | crash {trace configuration} (run : Run initial trace configuration) :
      Run initial (.crash :: trace) ⟨system.restart configuration.state, fun _ => none⟩

/-- Some call has ended with the result by the end of the trace. -/
def HasReturned (initial : system.State) (trace : List system.Event)
    (label : interface.Label) (result : interface.Result) : Prop :=
  ∃ later earlier configuration number past, trace = later ++ earlier ∧
    system.Run initial earlier configuration ∧
    configuration.threads number = some ⟨label, past, .done result⟩

variable {system} {initial : system.State} {trace : List system.Event}

/-- Runs are closed under going back in time. -/
theorem Run.before (run : system.Run initial (later ++ earlier) configuration) :
    ∃ past, system.Run initial earlier past := by
  induction later generalizing configuration with
  | nil => exact ⟨configuration, run⟩
  | cons event later induction =>
      cases run with
      | spawn run => exact induction run
      | act run => exact induction run
      | crash run => exact induction run

def stateAfter (initial : system.State) : List system.Event → system.State
  | [] => initial
  | .spawn .. :: trace => stateAfter initial trace
  | .act act :: _ => act.after
  | .crash :: trace => system.restart (stateAfter initial trace)

theorem Run.state_eq (run : system.Run initial trace configuration) :
    configuration.state = stateAfter initial trace := by
  induction run with
  | start | act => rfl
  | spawn run thread label fresh induction => exact induction
  | crash run induction => exact congrArg system.restart induction

theorem Run.first_act (run : system.Run initial trace configuration) (act : system.Act)
    {next : interface.Response act.action → Program interface.Action interface.Response
      interface.Result}
    (fresh : ∀ event ∈ trace, event.thread ≠ some act.thread)
    (first : interface.program act.label = .step act.action next)
    (current : configuration.state = act.before)
    (performed : system.perform act.before act.action act.environment =
      some (act.after, act.response)) :
    ∃ after, system.Run initial (.act act :: .spawn act.thread act.label :: trace) after ∧
      after.state = act.after := by
  have scheduled : Function.update configuration.threads act.thread
      (some ⟨act.label, [], interface.program act.label⟩) act.thread =
        some ⟨act.label, [], .step act.action next⟩ := by
    rw [Function.update_self, first]
  exact ⟨_, .act (run.spawn act.thread act.label fresh) act scheduled current performed, rfl⟩

/-- What every event keeps is kept between any two moments of a run. -/
theorem Run.segment (relation : system.State → system.State → Prop)
    (same : ∀ state, relation state state)
    (act : ∀ act : system.Act, .act act ∈ later →
      system.perform act.before act.action act.environment = some (act.after, act.response) →
      ∀ state, relation state act.before → relation state act.after)
    (crash : ∀ past state, relation past state → relation past (system.restart state))
    (run : system.Run initial (later ++ earlier) configuration) :
    relation (stateAfter initial earlier) configuration.state := by
  induction later generalizing configuration with
  | nil => exact run.state_eq ▸ same _
  | cons event later induction =>
      have kept := fun {configuration} => @induction configuration
        fun performed member => act performed (List.mem_cons_of_mem _ member)
      cases run with
      | spawn run =>
          have kept := kept run
          exact kept
      | act run performed scheduled current result =>
          exact act performed List.mem_cons_self result _ (current ▸ kept run)
      | crash run => exact crash _ _ (kept run)

def observationsOf (thread : Nat) : List system.Event →
    List interface.Observation
  | [] => []
  | .act act :: trace =>
      if act.thread = thread then observationsOf thread trace ++ [act.observation]
      else observationsOf thread trace
  | _ :: trace => observationsOf thread trace

theorem observationsOf_of_fresh (fresh : ∀ event ∈ trace, event.thread ≠ some thread) :
    observationsOf thread trace = [] := by
  induction trace with
  | nil => rfl
  | cons event trace induction =>
      have rest := induction fun event member => fresh event (List.mem_cons_of_mem _ member)
      have head := fresh event List.mem_cons_self
      cases event with
      | act act =>
          have other : act.thread ≠ thread := by simpa [Event.thread] using head
          simpa [observationsOf, other] using rest
      | _ => simpa [observationsOf] using rest

theorem mem_observationsOf (member : observation ∈ observationsOf thread trace) :
    ∃ act, Event.act act ∈ trace ∧ act.thread = thread ∧ act.observation = observation := by
  induction trace with
  | nil => simp [observationsOf] at member
  | cons event trace induction =>
      have older (found : observation ∈ observationsOf thread trace) :
          ∃ act, Event.act act ∈ event :: trace ∧ act.thread = thread ∧
            act.observation = observation := by
        obtain ⟨act, inTrace, same, equal⟩ := induction found
        exact ⟨act, List.mem_cons_of_mem _ inTrace, same, equal⟩
      cases event with
      | act act =>
          by_cases same : act.thread = thread
          · simp only [observationsOf, same, if_true, List.mem_append, List.mem_singleton]
              at member
            rcases member with member | rfl
            · exact older member
            · exact ⟨act, List.mem_cons_self, same, rfl⟩
          · exact older (by simpa [observationsOf, same] using member)
      | _ => exact older (by simpa [observationsOf] using member)

theorem observation_mem (member : .act act ∈ trace) :
    act.observation ∈ observationsOf act.thread trace := by
  induction trace with
  | nil => cases member
  | cons event trace induction =>
      cases event with
      | act other =>
          simp only [observationsOf]
          rcases List.mem_cons.mp member with equal | member
          · cases equal
            simp
          · split
            next => exact List.mem_append_left _ (induction member)
            next => exact induction member
      | _ => exact induction (by simpa using member)

theorem update_eq_some {table : Nat → Option Entry} {value : Option Entry}
    {entry : Entry} (updated : Function.update table key value other = some entry) :
    other = key ∧ value = some entry ∨ other ≠ key ∧ table other = some entry := by
  by_cases same : other = key
  · subst same
    exact .inl ⟨rfl, by simpa using updated⟩
  · exact .inr ⟨same, by simpa [same] using updated⟩

/-- A thread is where the responses it has seen have taken its program. -/
theorem Run.thread_path (run : system.Run initial trace configuration)
    (running : configuration.threads number = some thread) :
    thread.past = observationsOf number trace ∧
      (interface.program thread.label).Path thread.past thread.rest := by
  induction run generalizing number thread with
  | start => cases running
  | spawn run spawned label fresh induction =>
      rcases update_eq_some running with ⟨rfl, ⟨⟩⟩ | ⟨-, running⟩
      · exact ⟨(observationsOf_of_fresh fresh).symm, .here _⟩
      · exact induction running
  | act run act scheduled current performed induction =>
      rcases update_eq_some running with ⟨rfl, ⟨⟩⟩ | ⟨different, running⟩
      · obtain ⟨past, path⟩ := induction scheduled
        exact ⟨by simp [observationsOf, ← past], path.extend act.response⟩
      · simpa [observationsOf, different.symm] using induction running
  | crash run => cases running

/-- The events of a thread come after its start and carry its label. -/
theorem Run.spawned
    (run : system.Run initial (later ++ .spawn number label :: earlier) configuration) :
    (∀ thread, configuration.threads number = some thread → thread.label = label) ∧
      (∀ act, .act act ∈ later → act.thread = number → act.label = label) ∧
      ∀ event ∈ earlier, event.thread ≠ some number := by
  induction later generalizing configuration with
  | nil =>
      cases run with
      | spawn run number label fresh =>
          refine ⟨?_, by simp, fresh⟩
          intro thread running
          simp only [Function.update_self, Option.some.injEq] at running
          exact running ▸ rfl
  | cons event later induction =>
      cases run with
      | spawn run other otherLabel fresh =>
          obtain ⟨threads, acts, older⟩ := induction run
          have different : number ≠ other := fun same => fresh (.spawn number label)
            (by simp) (congrArg some same)
          refine ⟨fun thread running => ?_, fun act member => ?_, older⟩
          · simp only [Function.update_of_ne different] at running
            exact threads thread running
          · exact acts act (by simpa using member)
      | act run act scheduled =>
          obtain ⟨threads, acts, older⟩ := induction run
          refine ⟨fun thread running => ?_, fun other member same => ?_, older⟩
          · rcases update_eq_some running with ⟨rfl, ⟨⟩⟩ | ⟨-, running⟩
            · have labelled := threads _ scheduled
              exact labelled
            · exact threads thread running
          · rcases List.mem_cons.mp member with equal | member
            · cases equal
              exact threads _ (same ▸ scheduled)
            · exact acts other member same
      | crash run =>
          obtain ⟨-, acts, older⟩ := induction run
          refine ⟨?_, fun act member => acts act (by simpa using member), older⟩
          intro thread running
          cases running

theorem Run.started (run : system.Run initial trace configuration)
    (running : configuration.threads number = some thread) :
    ∃ later earlier, trace = later ++ .spawn number thread.label :: earlier := by
  induction run generalizing thread with
  | start => cases running
  | @spawn trace configuration run spawned label fresh induction =>
      rcases update_eq_some running with ⟨rfl, ⟨⟩⟩ | ⟨-, running⟩
      · exact ⟨[], trace, rfl⟩
      · obtain ⟨later, earlier, rfl⟩ := induction running
        exact ⟨.spawn spawned label :: later, earlier, rfl⟩
  | act run act scheduled current performed induction =>
      rcases update_eq_some running with ⟨rfl, ⟨⟩⟩ | ⟨-, running⟩
      · obtain ⟨later, earlier, rfl⟩ := induction scheduled
        exact ⟨.act act :: later, earlier, rfl⟩
      · obtain ⟨later, earlier, rfl⟩ := induction running
        exact ⟨.act act :: later, earlier, rfl⟩
  | crash run => cases running

theorem Run.act_label (run : system.Run initial trace configuration)
    (running : configuration.threads number = some thread)
    {act : system.Act} (member : .act act ∈ trace) (own : act.thread = number) :
    act.label = thread.label := by
  obtain ⟨later, earlier, rfl⟩ := run.started running
  obtain ⟨-, acts, older⟩ := run.spawned
  rcases List.mem_append.mp member with member | member
  · exact acts act member own
  · rcases List.mem_cons.mp member with equal | member
    · cases equal
    · exact absurd (congrArg some own) (older _ member)

/-- Everything there is to know about one action of a run. -/
theorem Run.act_cases {act : system.Act}
    (run : system.Run initial (later ++ .act act :: earlier) configuration) :
    ∃ before, system.Run initial earlier before ∧ before.state = act.before ∧
      system.perform act.before act.action act.environment = some (act.after, act.response) ∧
      (interface.program act.label).Emits (observationsOf act.thread earlier) act.action := by
  obtain ⟨after, run⟩ := run.before
  cases run with
  | act run act scheduled current performed =>
      obtain ⟨past, path⟩ := run.thread_path scheduled
      exact ⟨_, run, current, performed, past ▸ ⟨_, path⟩⟩

/-- What holds at the start and is kept by every event holds throughout a run. -/
theorem Run.invariant (property : List system.Event → system.State → Prop)
    (start : property [] initial)
    (spawn : ∀ {trace state} thread label, property trace state →
      property (.spawn thread label :: trace) state)
    (act : ∀ {trace} (act : system.Act), property trace act.before →
      system.perform act.before act.action act.environment = some (act.after, act.response) →
      (interface.program act.label).Emits (observationsOf act.thread trace) act.action →
      property (.act act :: trace) act.after)
    (crash : ∀ {trace state}, property trace state →
      property (.crash :: trace) (system.restart state))
    (run : system.Run initial trace configuration) : property trace configuration.state := by
  induction run with
  | start => exact start
  | spawn run thread label fresh induction => exact spawn thread label induction
  | act run performed scheduled current result induction =>
      obtain ⟨past, path⟩ := run.thread_path scheduled
      exact act performed (current ▸ induction) result (past ▸ ⟨_, path⟩)
  | crash run induction => exact crash induction

/-- A quantity added up over the acts of a trace. -/
def total (measure : interface.Observation → Nat) : List system.Event → Nat
  | [] => 0
  | .act act :: trace => measure act.observation + total measure trace
  | _ :: trace => total measure trace

end System

end Eva
