import Eva.EventBus.ReplayIdentity
import Eva.Storage.EventLog.Refinement

/-! # The latest replay of an event

The log is searched from its end for an id that begins like those of the replays.
Replays of a replay begin like that too.
-/

namespace Eva.EventBus

open Eva.Storage RecordFiles

namespace Sample

def appended (sequence : U64) (eventId : EventId) : EventLogRecord :=
  .appended sequence { exampleEvent with eventId }

def bus (log : InMemoryEventLog) : DurableEventBus where
  log := log.view
  deadLetters := []

end Sample

end Eva.EventBus
