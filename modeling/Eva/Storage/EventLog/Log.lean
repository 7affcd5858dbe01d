import Eva.Foundation.RecordFiles
import Eva.Storage.EventLog.Record
import Eva.Storage.Writer

/-! # The event log

One log is kept in memory. The other one is a directory with a file for each record;
a handle of the runtime writer loads the whole directory before each change, so what
the handle remembered does not matter.
-/

namespace Eva.Storage

open RecordFiles

/-! ## Both logs -/

inductive LogMutation where
  | append (event : Event)
  | ack (eventId : EventId) (consumer : AgentId)
  | fail (eventId : EventId) (consumer : AgentId) (error : EvaError)

def eventExists (event : Event) : EvaError :=
  (EvaError.conflict "event already exists in log").withContext "event_id" event.eventId.text

def eventMissing (eventId : EventId) : EvaError :=
  (EvaError.notFound "event log record does not exist").withContext "event_id" eventId.text

def EventLogRecord.isOf (eventId : EventId) (record : EventLogRecord) : Bool :=
  record.event.eventId = eventId

def replaceRecord : EventLogRecord → List EventLogRecord → List EventLogRecord :=
  replaceBy fun record => record.event.eventId

/-! ## In memory -/

structure InMemoryEventLog where
  nextSequence : U64
  records : List EventLogRecord

namespace InMemoryEventLog

def new : InMemoryEventLog where
  nextSequence := 0
  records := []

def append (log : InMemoryEventLog) (event : Event) :
    Fallible EvaError (InMemoryEventLog × EventLogRecord) := do
  fallible (rejectIf (log.records.any (·.isOf event.eventId)) (eventExists event))
  let sequence ← orPanic (log.nextSequence.checkedAdd 1)
  let record := EventLogRecord.appended sequence event
  pure ({ nextSequence := sequence, records := log.records ++ [record] }, record)

def ack (log : InMemoryEventLog) (eventId : EventId) (consumer : AgentId) :
    Fallible EvaError (InMemoryEventLog × EventLogRecord) := do
  let record ← fallible (orReject (eventMissing eventId) (log.records.find? (·.isOf eventId)))
  let (record, _) ← fallible (transitionToAcked record consumer)
  pure ({ log with records := replaceRecord record log.records }, record)

def fail (log : InMemoryEventLog) (eventId : EventId) (consumer : AgentId) (error : EvaError) :
    Fallible EvaError (InMemoryEventLog × EventLogRecord) := do
  let record ← fallible (orReject (eventMissing eventId) (log.records.find? (·.isOf eventId)))
  let record ← fallible (transitionToFailed record consumer error)
  pure ({ log with records := replaceRecord record log.records }, record)

def mutate (log : InMemoryEventLog) : LogMutation →
    Fallible EvaError (InMemoryEventLog × EventLogRecord)
  | .append event => log.append event
  | .ack eventId consumer => log.ack eventId consumer
  | .fail eventId consumer error => log.fail eventId consumer error

end InMemoryEventLog

/-! ## In a directory -/

def eventFileName (sequence : U64) : String :=
  String.ofList (Text.padUnsigned 20 sequence) ++ "." ++ "event"

def eventLogScheme (root : String) : Scheme U64 EventLogRecord EvaError where
  selects := hasExtension "event"
  fileName := eventFileName
  key := EventLogRecord.sequence
  render := recordToStorage
  parse name content := withPath (recordPath root name) (recordFromStorage content)
  directoryError :=
    pathError (.internal "failed to read durable event log directory") root
  entryError := pathError (.internal "failed to read durable event log entry") root
  fileError name :=
    pathError (.conflict "failed to read durable event log record") (recordPath root name)

/-- What a handle knows of the directory. -/
structure FileSystemEventLog where
  nextSequence : U64
  records : List EventLogRecord

/-- What the surroundings decide about one call. -/
structure LogEnvironment where
  /-- The error of the lock of the writer. -/
  lockError : Option EvaError
  fault : Option LoadFault
  listing : Listing
  write : WriteOutcome

def validateLoadedRecords (sequences : List U64) (eventIds : List EventId) :
    List EventLogRecord → Except EvaError Unit
  | [] => pure ()
  | record :: records => do
      rejectIf (record.sequence ∈ sequences)
        ((EvaError.conflict "durable event log sequence is duplicated").withContext
          "sequence" record.sequence.text)
      rejectIf (record.event.eventId ∈ eventIds)
        ((EvaError.conflict "durable event log event id is duplicated").withContext
          "event_id" record.event.eventId.text)
      validateLoadedRecords (record.sequence :: sequences) (record.event.eventId :: eventIds)
        records

def loadAuthoritativeRecords (root : String) (environment : LogEnvironment) (files : Files) :
    Fallible EvaError FileSystemEventLog := do
  let records ← (eventLogScheme root).load environment.fault environment.listing files
  let records := records.insertionSort fun left right =>
    left.sequence.value ≤ right.sequence.value
  fallible (validateLoadedRecords [] [] records)
  pure
    { nextSequence := (records.getLast?.map (·.sequence)).getD 0
      records }

namespace FileSystemEventLog

/-- The record that a call returns and, where it has to be written, the view after it
was. -/
structure Change where
  record : EventLogRecord
  after : Option FileSystemEventLog

def appendLoaded (log : FileSystemEventLog) (event : Event) : Fallible EvaError Change := do
  fallible (rejectIf (log.records.any (·.isOf event.eventId)) (eventExists event))
  let sequence ← orPanic (log.nextSequence.checkedAdd 1)
  let record := EventLogRecord.appended sequence event
  pure
    { record
      after := some { nextSequence := sequence, records := log.records ++ [record] } }

def ackLoaded (log : FileSystemEventLog) (eventId : EventId) (consumer : AgentId) :
    Fallible EvaError Change := do
  let record ← fallible (orReject (eventMissing eventId) (log.records.find? (·.isOf eventId)))
  let (record, changed) ← fallible (transitionToAcked record consumer)
  pure
    { record
      after := if changed then some { log with records := replaceRecord record log.records }
        else none }

def failLoaded (log : FileSystemEventLog) (eventId : EventId) (consumer : AgentId)
    (error : EvaError) : Fallible EvaError Change := do
  let record ← fallible (orReject (eventMissing eventId) (log.records.find? (·.isOf eventId)))
  let record ← fallible (transitionToFailed record consumer error)
  pure { record, after := some { log with records := replaceRecord record log.records } }

def change (log : FileSystemEventLog) : LogMutation → Fallible EvaError Change
  | .append event => log.appendLoaded event
  | .ack eventId consumer => log.ackLoaded eventId consumer
  | .fail eventId consumer error => log.failLoaded eventId consumer error

def persistError (root : String) (record : EventLogRecord) : String → EvaError :=
  pathError (.internal "failed to atomically write durable event log record")
    (recordPath root (eventFileName record.sequence))

/-- What a call leaves in the directory and in its handle. -/
structure Outcome (Value : Type) where
  files : Files
  view : FileSystemEventLog
  result : Fallible EvaError Value

def mutateLoaded (root : String) (environment : LogEnvironment) (files : Files)
    (loaded : FileSystemEventLog) (mutation : LogMutation) : Outcome EventLogRecord :=
  match loaded.change mutation with
  | .error failure => { files, view := loaded, result := .error failure }
  | .ok { record, after := none } => { files, view := loaded, result := .ok record }
  | .ok { record, after := some after } =>
      let written := environment.write.files (eventFileName record.sequence)
        (recordToStorage record) files
      match environment.write.result (persistError root record) with
      | .ok () => { files := written, view := after, result := .ok record }
      | .error error => { files := written, view := loaded, result := .error (.reported error) }

/-- `with_mutation` of a handle that has the writer. -/
def mutate (root : String) (environment : LogEnvironment) (files : Files)
    (view : FileSystemEventLog) (mutation : LogMutation) : Outcome EventLogRecord :=
  match environment.lockError with
  | some error => { files, view, result := .error (.reported error) }
  | none =>
      match loadAuthoritativeRecords root environment files with
      | .error failure => { files, view, result := .error failure }
      | .ok loaded => mutateLoaded root environment files loaded mutation

/-- A failed load leaves the view as it was. -/
def refresh (root : String) (environment : LogEnvironment) (files : Files)
    (view : FileSystemEventLog) : Outcome Unit :=
  match environment.lockError with
  | some error => { files, view, result := .error (.reported error) }
  | none =>
      match loadAuthoritativeRecords root environment files with
      | .error failure => { files, view, result := .error failure }
      | .ok loaded => { files, view := loaded, result := .ok () }

/-- `open_with_writer`, in the root of the writer. -/
def openWithWriter (root : String) (environment : LogEnvironment) (files : Files) :
    Fallible EvaError FileSystemEventLog :=
  match environment.lockError with
  | some error => .error (.reported error)
  | none => loadAuthoritativeRecords root environment files

end FileSystemEventLog

/-! ## The scheme of the directory -/

theorem eventFileName_injective (same : eventFileName left = eventFileName right) :
    left = right := by
  have stems : String.ofList (Text.padUnsigned 20 left) =
      String.ofList (Text.padUnsigned 20 right) := by simpa [eventFileName] using same
  exact Text.padUnsigned_injective (by simpa using congrArg String.toList stems)

theorem eventLogScheme_lawful (root : String) :
    (eventLogScheme root).Lawful EventLogRecord.fromEpoch
      fun record => ∀ error ∈ record.error, error.Countable where
  injective _ _ := eventFileName_injective
  selected sequence := by
    refine hasExtension_append "event" ?_
    rw [Ne, ← String.toList_eq_nil_iff, String.toList_ofList]
    exact Text.padUnsigned_ne_nil 20 sequence
  keyed _ := rfl
  parsed record countable := by
    simp only [eventLogScheme, recordFromStorage_recordToStorage countable, withPath]

end Eva.Storage
