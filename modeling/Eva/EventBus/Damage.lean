import Eva.EventBus.DeadLetter
import Eva.Storage.EventLog.Record

/-! # Damaged records

Both readers report what they cannot read, with one exception: the time of the event
is built with an addition that panics when the seconds leave the range of the clock.
-/

namespace Eva.EventBus

open Eva.Storage
open Fields (FieldMap)

/-- The numbers for a time, where they can be read, stand for one. -/
def TimeInRange (time : Except EvaError (U64 × U32)) : Prop :=
  ∀ seconds nanos, time = .ok (seconds, nanos) →
    seconds.value + nanos.value / nanosPerSecond < 2 ^ 63

def Readable (read : Except EvaError Value) : Prop := ∃ value, read = .ok value

/-- Of an event, everything is read and checked before its time is built. -/
structure ReadableUpToTime (texts : RecordTexts) (fields : FieldMap) : Prop where
  eventId : Readable (texts.decodedRequiredString fields "event_id" >>= Identifier.new "event")
  topic : Readable (texts.decodedRequiredString fields "topic" >>= Topic.parse)
  target : Readable (texts.targetFromFields fields)
  payload : Readable (texts.payloadFromFields fields)
  requestId : Readable (texts.optionalIdentifier fields "request" "request_id")
  generationId : Readable (texts.optionalIdentifier fields "generation" "generation_id")
  correlationId : Readable (texts.optionalIdentifier fields "event" "correlation_id")
  causationId : Readable (texts.optionalIdentifier fields "event" "causation_id")

/-- What the reader of the log takes before the event. -/
structure ReadableHead (fields : FieldMap) : Prop where
  version : fields.lookup "version" = some eventRecordVersion
  sequence : Readable (eventLogTexts.requiredNumber fields 64 "sequence")
  status : ∃ text, fields.lookup "status" = some text ∧ Readable (EventLogStatus.fromStorage text)

theorem panics_eventFromFields_iff {texts : RecordTexts} :
    Panics (texts.eventFromFields fields time) ↔
      ReadableUpToTime texts fields ∧ ¬TimeInRange time := by
  have late : ¬TimeInRange time ↔
      ∃ seconds nanos, time = .ok (seconds, nanos) ∧ createdAt seconds nanos = none := by
    simp only [TimeInRange, createdAt_eq_none_iff, not_forall, not_lt, exists_prop]
  rw [late]
  simp only [RecordTexts.eventFromFields, RecordTexts.metadataFromFields, panics_bind_iff,
    not_panics_fallible, false_or, not_panics_pure, and_false, exists_false, or_false,
    fallible_eq_ok_iff, panics_orPanic_iff]
  constructor
  · rintro ⟨_, eventId, _, topic, _, target, _, payload, read, readTime, _, requestId, _,
      generationId, _, correlationId, _, causationId, unbuilt⟩
    exact ⟨⟨⟨_, eventId⟩, ⟨_, topic⟩, ⟨_, target⟩, ⟨_, payload⟩, ⟨_, requestId⟩,
      ⟨_, generationId⟩, ⟨_, correlationId⟩, ⟨_, causationId⟩⟩, _, _, readTime, unbuilt⟩
  · rintro ⟨⟨⟨_, eventId⟩, ⟨_, topic⟩, ⟨_, target⟩, ⟨_, payload⟩, ⟨_, requestId⟩,
      ⟨_, generationId⟩, ⟨_, correlationId⟩, ⟨_, causationId⟩⟩, _, _, readTime, unbuilt⟩
    exact ⟨_, eventId, _, topic, _, target, _, payload, _, readTime, _, requestId, _,
      generationId, _, correlationId, _, causationId, unbuilt⟩

theorem requireField_eq_ok_iff {texts : RecordTexts} :
    texts.requireField fields key = .ok value ↔ fields.lookup key = some value :=
  orReject_eq_ok_iff

theorem panics_recordFromFields_iff :
    Panics (recordFromFields fields) ↔ ReadableHead fields ∧
      Panics (eventLogTexts.eventFromFields fields (logTimeFromFields fields)) := by
  simp only [recordFromFields, panics_bind_iff, not_panics_fallible, false_or, not_panics_pure,
    and_false, exists_false, or_false, fallible_eq_ok_iff, rejectIf_eq_ok_iff, not_not,
    requireField_eq_ok_iff, exists_unit_iff]
  constructor
  · rintro ⟨_, version, rfl, _, sequence, text, status, _, known, panics⟩
    exact ⟨⟨version, ⟨_, sequence⟩, text, status, _, known⟩, panics⟩
  · rintro ⟨⟨version, ⟨_, sequence⟩, text, status, _, known⟩, panics⟩
    exact ⟨_, version, rfl, _, sequence, text, status, _, known, panics⟩

theorem panics_deadLetterFromFields_iff :
    Panics (deadLetterFromFields fields) ↔ fields.lookup "version" = some deadLetterVersion ∧
      Panics (deadLetterTexts.eventFromFields fields (deadLetterTimeFromFields fields)) := by
  simp only [deadLetterFromFields, panics_bind_iff, not_panics_fallible, false_or,
    not_panics_pure, and_false, exists_false, or_false, fallible_eq_ok_iff, rejectIf_eq_ok_iff,
    not_not, requireField_eq_ok_iff, exists_unit_iff]
  constructor
  · rintro ⟨_, version, rfl, panics⟩
    exact ⟨version, panics⟩
  · rintro ⟨version, panics⟩
    exact ⟨_, version, rfl, panics⟩

/-- Reading a text panics exactly at a time that the clock cannot represent, where nothing
that is read before the time is built is rejected. -/
theorem damaged_records_reported (logData deadLetterData : String) :
    (¬Panics (recordFromStorage logData) ↔
      ∀ fields, eventLogRules.parse logData = .ok fields → ReadableHead fields →
        ReadableUpToTime eventLogTexts fields → TimeInRange (logTimeFromFields fields)) ∧
    (¬Panics (deadLetterFromStorage deadLetterData) ↔
      ∀ fields, deadLetterRules.parse deadLetterData = .ok fields →
        fields.lookup "version" = some deadLetterVersion →
          ReadableUpToTime deadLetterTexts fields →
            TimeInRange (deadLetterTimeFromFields fields)) := by
  constructor
  · simp only [recordFromStorage, panics_bind_iff, not_panics_fallible, false_or,
      fallible_eq_ok_iff, panics_recordFromFields_iff, panics_eventFromFields_iff, not_exists,
      not_and, not_not]
  · simp only [deadLetterFromStorage, panics_bind_iff, not_panics_fallible, false_or,
      fallible_eq_ok_iff, panics_deadLetterFromFields_iff, panics_eventFromFields_iff, not_exists,
      not_and, not_not]

/-! ## The first second after the last one of the clock -/

def afterLastSecond : U64 := ⟨2 ^ 63, by decide⟩

def exampleLogRecord : EventLogRecord := .appended 1 exampleEvent

def exampleReason : EvaError := .unavailable "provider offline"

def logDataAt (seconds : U64) : String := Fields.render (exampleLogRecord.fieldsAt seconds 0)

def deadLetterDataAt (seconds : U64) : String :=
  Fields.render ((exampleDeadLetter exampleReason).fieldsAt seconds 0)

/-- Both readers panic. -/
theorem late_times_panic :
    Panics (recordFromStorage (logDataAt afterLastSecond)) ∧
      Panics (deadLetterFromStorage (deadLetterDataAt afterLastSecond)) := by
  have unbuilt : createdAt afterLastSecond 0 = none := by decide
  constructor
  · rw [logDataAt, recordFromStorage_fieldsAt (by nofun), unbuilt]
    rfl
  · rw [deadLetterDataAt, deadLetterFromStorage_fieldsAt (by decide), unbuilt]
    rfl

end Eva.EventBus
