import Mathlib.Tactic.Common

/-! # Machines

A machine takes events one after the other and refuses those that cannot happen in its
state. The traces of its runs have the newest event first.
-/

namespace Eva

structure Machine (State Event : Type) where
  initial : State
  step : State → Event → Option State

namespace Machine

variable {State Event : Type} (machine : Machine State Event)

inductive Run : List Event → State → Prop where
  | start : Run [] machine.initial
  | step {trace before event after} (run : Run trace before)
      (stepped : machine.step before event = some after) : Run (event :: trace) after

def follow (state : State) : List Event → Option State
  | [] => some state
  | event :: events => (machine.step state event).bind fun after => follow after events

variable {machine}

theorem Run.follow (run : machine.Run trace state)
    (followed : machine.follow state events = some after) :
    machine.Run (events.reverse ++ trace) after := by
  induction events generalizing trace state with
  | nil =>
      obtain rfl := Option.some.inj followed
      exact run
  | cons event events induction =>
      obtain ⟨between, stepped, followed⟩ := Option.bind_eq_some_iff.mp followed
      simpa using induction (run.step stepped) followed

theorem run_follow (events : List Event)
    (followed : (machine.follow machine.initial events).isSome) :
    machine.Run events.reverse ((machine.follow machine.initial events).get followed) := by
  have run := Run.start.follow (Option.some_get followed).symm
  rwa [List.append_nil] at run

end Machine

end Eva
