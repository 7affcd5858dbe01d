import Eva.Storage.EventFields

/-! # Records of the event log

A record holds an event, its place in the log and how far its consumer got. The
acknowledged state is final.
-/

namespace Eva.Storage

open Fields (FieldMap)

inductive EventLogStatus where
  | appended
  | acked
  | failed
deriving DecidableEq

structure EventLogRecord where
  sequence : U64
  event : Event
  status : EventLogStatus
  consumer : Option AgentId
  error : Option EvaError
deriving DecidableEq

namespace EventLogStatus

def asStr : EventLogStatus → String
  | appended => "appended"
  | acked => "acked"
  | failed => "failed"

def fromStorage (value : String) : Except EvaError EventLogStatus :=
  match value with
  | "appended" => pure appended
  | "acked" => pure acked
  | "failed" => pure failed
  | _ => .error ((EvaError.conflict "event log status is invalid").withContext "status" value)

theorem fromStorage_asStr (status : EventLogStatus) : fromStorage status.asStr = .ok status := by
  cases status <;> rfl

end EventLogStatus

namespace EventLogRecord

def appended (sequence : U64) (event : Event) : EventLogRecord where
  sequence := sequence
  event := event
  status := .appended
  consumer := none
  error := none

def ackedBy (record : EventLogRecord) (consumer : AgentId) : EventLogRecord :=
  { record with status := .acked, consumer := some consumer, error := none }

def failedBy (record : EventLogRecord) (consumer : AgentId) (error : EvaError) :
    EventLogRecord :=
  { record with status := .failed, consumer := some consumer, error := some error }

/-- The record as it is read again. -/
def fromEpoch (record : EventLogRecord) : EventLogRecord :=
  { record with event := record.event.fromEpoch }

end EventLogRecord

def consumerConflict (message : String) (record : EventLogRecord) (consumer : AgentId) :
    EvaError :=
  ((EvaError.conflict message).withContext "event_id" record.event.eventId.text).withContext
    "consumer" consumer.text

/-- The flag tells whether the record changed. -/
def transitionToAcked (record : EventLogRecord) (consumer : AgentId) :
    Except EvaError (EventLogRecord × Bool) :=
  if record.status = .acked then
    if record.consumer = some consumer then pure (record, false)
    else .error (consumerConflict "acked event cannot be reassigned to another consumer" record
      consumer)
  else pure (record.ackedBy consumer, true)

def transitionToFailed (record : EventLogRecord) (consumer : AgentId) (error : EvaError) :
    Except EvaError EventLogRecord :=
  if record.status = .acked then
    .error (consumerConflict "acked event cannot transition to failed" record consumer)
  else pure (record.failedBy consumer error)

/-! ## Writing -/

def eventRecordVersion : String := "1"

def contextStem : String := "error_context_"

def contextParts (entry : String × String) : FieldMap :=
  [("key", encodedString entry.1), ("value", encodedString entry.2)]

/-- A record without an error has the same fields, without entries. -/
def logErrorFields : Option EvaError → FieldMap
  | some error =>
      [("error_kind", error.kind.asStr),
        ("error_message", encodedString error.message),
        ("error_retryable", boolText error.retryable),
        ("error_provider_code", optionalString (error.providerCode.map (·.text))),
        ("error_context_len", (Unsigned.truncate 64 error.context.length).text)] ++
        Fields.indexedFields contextStem contextParts 0 error.context
  | none =>
      [("error_kind", ""), ("error_message", ""), ("error_retryable", ""),
        ("error_provider_code", ""), ("error_context_len", "0")]

def EventLogRecord.fieldsAt (seconds : U64) (nanos : U32) (record : EventLogRecord) : FieldMap :=
  [("version", eventRecordVersion),
    ("sequence", record.sequence.text),
    ("status", record.status.asStr)] ++
    eventFieldsAt seconds nanos record.event ++
    [("consumer", optionalString (record.consumer.map (·.text)))] ++
    logErrorFields record.error

def EventLogRecord.fields (record : EventLogRecord) : FieldMap :=
  record.fieldsAt record.event.metadata.createdAt.stored.seconds
    record.event.metadata.createdAt.stored.nanos

def recordToStorage (record : EventLogRecord) : String := Fields.render record.fields

/-! ## Reading -/

def eventLogTexts : RecordTexts where
  malformed := "durable event log record field is invalid"
  invalidName := "durable event log record field key is invalid"
  missing := "durable event log record field is missing"
  notUtf8 := "durable event log string field is not utf-8"
  numeric := "durable event log numeric field is invalid"
  boolean := "durable event log boolean field is invalid"
  targetKind := "event target kind is invalid"
  payloadKind := "event payload kind is invalid"
  errorKind := "error kind is invalid"

/-- Of a name that comes twice, the later value is taken. -/
def eventLogRules : Fields.Rules EvaError := eventLogTexts.rules fun _ => pure ()

def logTimeFromFields (fields : FieldMap) : Except EvaError (U64 × U32) := do
  let seconds ← eventLogTexts.requiredNumber fields 64 "created_at_secs"
  let nanos ← eventLogTexts.requiredNumber fields 32 "created_at_nanos"
  pure (seconds, nanos)

def contextFromFields (fields : FieldMap) : Nat → Nat → EvaError → Except EvaError EvaError
  | _, 0, error => pure error
  | index, remaining + 1, error => do
      let key ← eventLogTexts.decodedRequiredString fields
        (Fields.indexedName contextStem index "key")
      let value ← eventLogTexts.decodedRequiredString fields
        (Fields.indexedName contextStem index "value")
      contextFromFields fields (index + 1) remaining (error.withContext key value)

def logErrorFromFields (fields : FieldMap) : Except EvaError (Option EvaError) := do
  let kindValue ← eventLogTexts.requireField fields "error_kind"
  if kindValue = "" then pure none
  else do
    let kind ← eventLogTexts.errorKindFromStorage kindValue
    let message ← eventLogTexts.decodedRequiredString fields "error_message"
    let retryableText ← eventLogTexts.requireField fields "error_retryable"
    let retryable ← eventLogTexts.parseBool retryableText "error_retryable"
    let error := (EvaError.new kind message).withRetryable retryable
    let code ← eventLogTexts.optionalDecodedString fields "error_provider_code"
    let error := (code.map error.withProviderCode).getD error
    let contextLen ← eventLogTexts.requiredNumber fields 64 "error_context_len"
    let error ← contextFromFields fields 0 contextLen.value error
    pure (some error)

def recordFromFields (fields : FieldMap) : Fallible EvaError EventLogRecord := do
  let version ← fallible (eventLogTexts.requireField fields "version")
  fallible (rejectIf (version ≠ eventRecordVersion)
    ((EvaError.conflict "event log record version is unsupported").withContext "version" version))
  let sequence ← fallible (eventLogTexts.requiredNumber fields 64 "sequence")
  let statusText ← fallible (eventLogTexts.requireField fields "status")
  let status ← fallible (EventLogStatus.fromStorage statusText)
  let event ← eventLogTexts.eventFromFields fields (logTimeFromFields fields)
  let consumer ← fallible (eventLogTexts.optionalIdentifier fields "agent" "consumer")
  let error ← fallible (logErrorFromFields fields)
  pure { sequence, event, status, consumer, error }

def recordFromStorage (data : String) : Fallible EvaError EventLogRecord := do
  let fields ← fallible (eventLogRules.parse data)
  recordFromFields fields

/-! ## Reading back -/

open RecordTexts Text

private theorem contextFromFields_of_holds
    (labelled : ∀ entry ∈ entries, isBlank entry.1.toList = false) (index : Nat)
    (holds : Holds fields (Fields.indexedFields contextStem contextParts index entries))
    (error : EvaError) :
    ∃ result, contextFromFields fields index entries.length error = .ok result ∧
      result.kind = error.kind ∧ result.message = error.message ∧
      result.retryable = error.retryable ∧ result.providerCode = error.providerCode ∧
      result.context = error.context ++ entries := by
  induction entries generalizing index error with
  | nil => exact ⟨error, rfl, rfl, rfl, rfl, rfl, (List.append_nil _).symm⟩
  | cons entry entries induction =>
      have key : eventLogTexts.decodedRequiredString fields
          (Fields.indexedName contextStem index "key") = .ok entry.1 :=
        decodedRequiredString_of_lookup (holds.found (by simp [Fields.indexedFields, contextParts]))
      have value : eventLogTexts.decodedRequiredString fields
          (Fields.indexedName contextStem index "value") = .ok entry.2 :=
        decodedRequiredString_of_lookup (holds.found (by simp [Fields.indexedFields, contextParts]))
      have visible := labelled entry List.mem_cons_self
      obtain ⟨result, read, kind, message, retryable, code, context⟩ :=
        induction (fun other member => labelled other (List.mem_cons_of_mem _ member)) (index + 1)
          (holds.of_subset (List.subset_append_right _ _)) (error.withContext entry.1 entry.2)
      refine ⟨result, ?_, ?_, ?_, ?_, ?_, ?_⟩
      · rw [List.length_cons, contextFromFields, key, ok_bind, value, ok_bind, read]
      · rw [kind, EvaError.withContext_kind]
      · simp [message, EvaError.withContext, visible]
      · simp [retryable, EvaError.withContext, visible]
      · simp [code, EvaError.withContext, visible]
      · simp [context, EvaError.withContext, visible]

private theorem logErrorFromFields_of_holds (countable : ∀ held ∈ error, held.Countable)
    (holds : Holds fields (logErrorFields error)) :
    logErrorFromFields fields = .ok error := by
  cases error with
  | none =>
      have kind : eventLogTexts.requireField fields "error_kind" = .ok "" :=
        requireField_of_lookup (holds.found (by simp [logErrorFields]))
      rw [logErrorFromFields, kind, ok_bind]
      rfl
  | some error =>
      have kind : eventLogTexts.requireField fields "error_kind" = .ok error.kind.asStr :=
        requireField_of_lookup (holds.found (by simp [logErrorFields]))
      have message : eventLogTexts.decodedRequiredString fields "error_message" =
          .ok error.message :=
        decodedRequiredString_of_lookup (holds.found (by simp [logErrorFields]))
      have retryable : eventLogTexts.requireField fields "error_retryable" =
          .ok (boolText error.retryable) :=
        requireField_of_lookup (holds.found (by simp [logErrorFields]))
      have nonempty : error.providerCode.map (·.text) ≠ some "" := by
        cases error.providerCode with
        | none => nofun
        | some code => exact fun empty => code.nonempty (Option.some.inj empty)
      have code : eventLogTexts.optionalDecodedString fields "error_provider_code" =
          .ok (error.providerCode.map (·.text)) :=
        optionalDecodedString_of_lookup nonempty (holds.found (by simp [logErrorFields]))
      have contextLen : eventLogTexts.requiredNumber fields 64 "error_context_len" =
          .ok (Unsigned.truncate 64 error.context.length) :=
        requiredNumber_of_lookup (holds.found (by simp [logErrorFields]))
      have length : (Unsigned.truncate 64 error.context.length).value = error.context.length :=
        Nat.mod_eq_of_lt (countable error rfl)
      have named : error.kind.asStr ≠ "" := by cases error.kind <;> decide
      have read := contextFromFields_of_holds error.labelled 0
        (holds.of_subset (List.subset_append_right _ _))
      rw [logErrorFromFields]
      simp only [kind, ok_bind, named, if_false, errorKindFromStorage_asStr, message, retryable,
        parseBool_boolText, code, contextLen, length]
      obtain ⟨result, context, sameKind, sameMessage, sameRetryable, sameCode, sameContext⟩ :=
        read (((error.providerCode.map (·.text)).map
          ((EvaError.new error.kind error.message).withRetryable
            error.retryable).withProviderCode).getD
          ((EvaError.new error.kind error.message).withRetryable error.retryable))
      rw [context, ok_bind]
      refine congrArg (fun error => Except.ok (some error)) ?_
      apply EvaError.ext
      all_goals
        cases found : error.providerCode <;>
          simp_all [EvaError.new, EvaError.withRetryable, EvaError.withProviderCode]

def logFixedNames : List String :=
  ["version", "sequence", "status"] ++ eventFieldNames ++
    ["consumer", "error_kind", "error_message", "error_retryable", "error_provider_code",
      "error_context_len"]

def contextFields (error : Option EvaError) : FieldMap :=
  Fields.indexedFields contextStem contextParts 0 ((error.map (·.context)).getD [])

section WrittenFields

variable (seconds : U64) (nanos : U32) (record : EventLogRecord)

private theorem map_fst_fieldsAt_log :
    (record.fieldsAt seconds nanos).map Prod.fst =
      logFixedNames ++ (contextFields record.error).map Prod.fst := by
  cases error : record.error <;>
    simp [EventLogRecord.fieldsAt, error, logErrorFields, contextFields, logFixedNames,
      map_fst_eventFieldsAt, Fields.indexedFields]

private theorem plain_logErrorFields (error : Option EvaError) :
    ∀ field ∈ logErrorFields error, Plain field.2.toList := by
  cases error with
  | none => simp [logErrorFields, Plain]
  | some error =>
      have kind : Plain error.kind.asStr.toList := by
        cases error.kind <;> exact ⟨by decide, by decide⟩
      have retryable : Plain (boolText error.retryable).toList := by
        cases error.retryable <;> exact ⟨by decide, by decide⟩
      intro field member
      rcases List.mem_append.mp member with fixed | indexed
      · clear member
        revert field
        simp [kind, retryable, plain_encodedString, plain_optionalString, plain_text]
      · obtain ⟨index, entry, part, -, -, within, rfl⟩ := Fields.mem_indexedFields indexed
        simp only [contextParts, List.mem_cons, List.not_mem_nil, or_false] at within
        rcases within with rfl | rfl
        · exact plain_encodedString _
        · exact plain_encodedString _

private theorem plain_fieldsAt_log :
    ∀ field ∈ record.fieldsAt seconds nanos, Plain field.2.toList := by
  have status : Plain record.status.asStr.toList := by
    cases record.status <;> exact ⟨by decide, by decide⟩
  have version : Plain eventRecordVersion.toList := ⟨by decide, by decide⟩
  intro field member
  simp only [EventLogRecord.fieldsAt, List.mem_append, List.mem_cons, List.not_mem_nil,
    or_false] at member
  rcases member with (((rfl | rfl | rfl) | event) | rfl) | error
  · exact version
  · exact plain_text _
  · exact status
  · exact plain_eventFieldsAt _ _ _ field event
  · exact plain_optionalString _
  · exact plain_logErrorFields _ field error

theorem parse_fieldsAt_log :
    eventLogRules.parse (Fields.render (record.fieldsAt seconds nanos)) =
        .ok (record.fieldsAt seconds nanos).reverse ∧
      Holds (record.fieldsAt seconds nanos).reverse (record.fieldsAt seconds nanos) :=
  parse_render_indexed ["key", "value"] (map_fst_fieldsAt_log _ _ _) (fun _ => rfl) (by decide)
    (by decide) (by decide) (plain_fieldsAt_log _ _ _)

end WrittenFields

attribute [local simp] EventLogRecord.fieldsAt

theorem logTimeFromFields_of_holds
    {record : EventLogRecord} (holds : Holds fields (record.fieldsAt seconds nanos)) :
    logTimeFromFields fields = .ok (seconds, nanos) := by
  have readSeconds : eventLogTexts.requiredNumber fields 64 "created_at_secs" = .ok seconds :=
    requiredNumber_of_lookup (holds.found (by simp [eventFieldsAt]))
  have readNanos : eventLogTexts.requiredNumber fields 32 "created_at_nanos" = .ok nanos :=
    requiredNumber_of_lookup (holds.found (by simp [eventFieldsAt]))
  rw [logTimeFromFields, readSeconds, ok_bind, readNanos, ok_bind]
  rfl

section ReadBack

variable {record : EventLogRecord} (countable : ∀ error ∈ record.error, error.Countable)
include countable

theorem recordFromFields_of_holds (holds : Holds fields (record.fieldsAt seconds nanos)) :
    recordFromFields fields = orPanic (createdAt seconds nanos) >>= fun time =>
      pure { record with event := record.event.withCreatedAt time } := by
  have version : eventLogTexts.requireField fields "version" = .ok eventRecordVersion :=
    requireField_of_lookup (holds.found (by simp))
  have sequence : eventLogTexts.requiredNumber fields 64 "sequence" = .ok record.sequence :=
    requiredNumber_of_lookup (holds.found (by simp))
  have status : eventLogTexts.requireField fields "status" = .ok record.status.asStr :=
    requireField_of_lookup (holds.found (by simp))
  have ofEvent : Holds fields (eventFieldsAt seconds nanos record.event) :=
    holds.of_subset fun field member => by simp [member]
  have consumer : eventLogTexts.optionalIdentifier fields "agent" "consumer" =
      .ok record.consumer :=
    optionalIdentifier_of_lookup (holds.found (by simp))
  have error := logErrorFromFields_of_holds countable
    (holds.of_subset fun field member => by simp [member])
  rw [recordFromFields, version, fallible_ok, ok_bind, rejectIf, if_neg (by simp), fallible_ok,
    ok_bind, sequence, fallible_ok, ok_bind, status, fallible_ok, ok_bind,
    EventLogStatus.fromStorage_asStr, fallible_ok, ok_bind, logTimeFromFields_of_holds holds,
    eventFromFields_of_holds ofEvent, consumer, error]
  cases createdAt seconds nanos <;> rfl

theorem recordFromStorage_fieldsAt :
    recordFromStorage (Fields.render (record.fieldsAt seconds nanos)) =
      orPanic (createdAt seconds nanos) >>= fun time =>
        pure { record with event := record.event.withCreatedAt time } := by
  obtain ⟨parsed, holds⟩ := parse_fieldsAt_log seconds nanos record
  rw [recordFromStorage, parsed, fallible_ok, ok_bind, recordFromFields_of_holds countable holds]

theorem recordFromStorage_recordToStorage :
    recordFromStorage (recordToStorage record) = .ok record.fromEpoch := by
  rw [recordToStorage, EventLogRecord.fields, recordFromStorage_fieldsAt countable, createdAt,
    SystemTime.new_stored]
  rfl

end ReadBack

end Eva.Storage
