import Eva.EventBus.DeadLetterStore
import Eva.Foundation.System
import Eva.Storage.EventLog.Log

/-! # The durable event bus

The bus joins the event log and the dead letters of one runtime writer. Each of the
two is changed under a lock of its own, so a crash can come between any two changes,
and several handles of the writer can take turns.
-/

namespace Eva.EventBus

open Eva.Storage RecordFiles

/-! ## Directories -/

def eventLogDir : String := "log"
def deadLetterDir : String := "dead_letters"

structure BusState where
  log : Files
  deadLetters : DeadLetterState

structure BusEnvironment where
  log : LogEnvironment
  deadLetters : DeadLetterEnvironment

inductive BusAction where
  | openLog
  | refreshLog (view : FileSystemEventLog)
  | mutateLog (view : FileSystemEventLog) (mutation : LogMutation)
  | openDeadLetters
  | deadLetters (view : List DeadLetterRecord) (operation : DeadLetterOperation)

namespace BusAction

@[reducible] def Response : BusAction → Type
  | openLog => Fallible EvaError FileSystemEventLog
  | refreshLog _ => FileSystemEventLog × Fallible EvaError Unit
  | mutateLog _ _ => FileSystemEventLog × Fallible EvaError EventLogRecord
  | openDeadLetters => Fallible EvaError (List DeadLetterRecord)
  | deadLetters _ operation => List DeadLetterRecord × Fallible EvaError operation.Value

def perform (eventDir : String) (state : BusState) (environment : BusEnvironment) :
    (action : BusAction) → BusState × action.Response
  | openLog =>
      (state, FileSystemEventLog.openWithWriter (recordPath eventDir eventLogDir)
        environment.log state.log)
  | refreshLog view =>
      let outcome := view.refresh (recordPath eventDir eventLogDir) environment.log state.log
      ({ state with log := outcome.files }, (outcome.view, outcome.result))
  | mutateLog view mutation =>
      let outcome :=
        view.mutate (recordPath eventDir eventLogDir) environment.log state.log mutation
      ({ state with log := outcome.files }, (outcome.view, outcome.result))
  | openDeadLetters =>
      (state, openWithWriter (recordPath eventDir deadLetterDir) environment.deadLetters
        state.deadLetters)
  | deadLetters view operation =>
      let outcome := operation.perform (recordPath eventDir deadLetterDir)
        environment.deadLetters state.deadLetters view
      ({ state with deadLetters := outcome.state }, (outcome.view, outcome.result))

end BusAction

abbrev BusProgram (Result : Type) := Program BusAction BusAction.Response Result

/-! ## The bus -/

/-- What a handle has read of the two directories. -/
structure DurableEventBus where
  log : FileSystemEventLog
  deadLetters : List DeadLetterRecord

namespace DurableEventBus

variable (bus : DurableEventBus) (eventId : EventId)

end DurableEventBus

/-! ## Any number of handles -/

/-- Callers run any program of these actions. The bulk redrive of the bus, for one, redrives every
dead letter before it appends the first replay. -/
structure BusCallers where
  Label : Type
  Result : Type
  program : Label → BusProgram Result

@[reducible] def BusCallers.interface (callers : BusCallers) : Interface where
  Action := BusAction
  Response := BusAction.Response
  Environment := BusEnvironment
  Label := callers.Label
  Result := callers.Result
  program := callers.program

/-- A crash leaves the files; the locks of the next process are not poisoned. -/
@[reducible] def eventBus (eventDir : String) (callers : BusCallers) :
    System callers.interface where
  State := BusState
  perform state action environment := some (action.perform eventDir state environment)
  restart state := { state with deadLetters := { state.deadLetters with poisoned := false } }

end Eva.EventBus
