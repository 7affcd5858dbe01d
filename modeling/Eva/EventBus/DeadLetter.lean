import Eva.Storage.EventFields

/-! # Dead letters

An event that could not be delivered is kept with the reason and with the handlers
that a replay goes to. The file of a dead letter does not hold everything of the
reason, and times before the epoch are moved to it.
-/

namespace Eva.EventBus

open Eva.Storage
open Fields (FieldMap)

/-! ## Handler bindings -/

def maxReplayHandlerKindBytes : Nat := 128
def maxReplayHandlers : Nat := 32

def handlerKindError (value message : String) : EvaError :=
  (EvaError.invalidArgument message).withContext "handler_kind" value

def validateHandlerKind (value : String) : Except EvaError Unit := do
  rejectIf (value = "" ∨ Text.trim value.toList ≠ value.toList ∨
      maxReplayHandlerKindBytes < value.utf8ByteSize)
    (handlerKindError value "replay handler kind must be a stable dotted name")
  (value.toList.splitOn '.').forM fun segment =>
    rejectIf (segment = [] ∨ ¬segment.all fun char =>
        Text.isAsciiAlphanumeric char || char == '_' || char == '-')
      (handlerKindError value "replay handler kind contains an invalid segment")

structure ReplayHandlerBinding where
  handlerKind : String
  agentId : AgentId
  idempotencyKey : Option RequestId
  valid : validateHandlerKind handlerKind = .ok ()
deriving DecidableEq

namespace ReplayHandlerBinding

def new (handlerKind : String) (agentId : AgentId) : Except EvaError ReplayHandlerBinding :=
  certify (validateHandlerKind handlerKind) fun _ valid =>
    { handlerKind, agentId, idempotencyKey := none, valid }

def withIdempotencyKey (binding : ReplayHandlerBinding) (idempotencyKey : RequestId) :
    ReplayHandlerBinding :=
  { binding with idempotencyKey := some idempotencyKey }

end ReplayHandlerBinding

def handlerCountError (kind : ErrorKind) (count : Nat) : EvaError :=
  ((EvaError.new kind
    "dead-letter replay handler count exceeds scheduler route limit").withContext
      "replay_handler_count" (toString count)).withContext
      "max_replay_handlers" (toString maxReplayHandlers)

def validateReplayHandlers (bindings : List ReplayHandlerBinding) : Except EvaError Unit := do
  rejectIf (maxReplayHandlers < bindings.length)
    (handlerCountError .invalidArgument bindings.length)
  bindings.forM fun binding => validateHandlerKind binding.handlerKind

/-! ## Records -/

structure RedrivePolicy where
  retryDelayMs : U64
  nextAttemptAfterMs : U64
deriving DecidableEq

def RedrivePolicy.default : RedrivePolicy where
  retryDelayMs := 0
  nextAttemptAfterMs := 0

structure DeadLetterRecord where
  event : Event
  reason : EvaError
  replayCount : U64
  redrive : RedrivePolicy
  replayHandlers : List ReplayHandlerBinding
  valid : validateReplayHandlers replayHandlers = .ok ()
deriving DecidableEq

namespace DeadLetterRecord

def withReplayHandlersAndRedrive (event : Event) (reason : EvaError)
    (replayHandlers : List ReplayHandlerBinding) (redrive : RedrivePolicy) :
    Except EvaError DeadLetterRecord :=
  certify (validateReplayHandlers replayHandlers) fun _ valid =>
    { event, reason, replayCount := 0, redrive, replayHandlers, valid }

def withReplayHandlers (event : Event) (reason : EvaError)
    (replayHandlers : List ReplayHandlerBinding) : Except EvaError DeadLetterRecord :=
  withReplayHandlersAndRedrive event reason replayHandlers .default

def eventId (record : DeadLetterRecord) : EventId := record.event.eventId

theorem withReplayHandlersAndRedrive_eq_ok {event : Event} {reason : EvaError}
    {replayHandlers : List ReplayHandlerBinding}
    (made : withReplayHandlersAndRedrive event reason replayHandlers policy = .ok record) :
    record.event = event ∧ record.reason = reason ∧ record.replayCount = 0 ∧
      record.redrive = policy ∧ record.replayHandlers = replayHandlers := by
  obtain ⟨-, -, rfl⟩ := certify_eq_ok_iff.mp made
  exact ⟨rfl, rfl, rfl, rfl, rfl⟩

/-- What a file with the fields of the record and any time stands for. -/
def storedAt (record : DeadLetterRecord) (time : SystemTime) : DeadLetterRecord :=
  { record with
    event := record.event.withCreatedAt time
    reason := (EvaError.new record.reason.kind record.reason.message).withRetryable
      record.reason.retryable }

/-- What the file of the record holds of it. -/
def stored (record : DeadLetterRecord) : DeadLetterRecord :=
  record.storedAt record.event.metadata.createdAt.orEpoch

end DeadLetterRecord

/-! ## Writing -/

def deadLetterVersion : String := "1"

def reasonFields (error : EvaError) : FieldMap :=
  [("reason_kind", error.kind.asStr),
    ("reason_message", encodedString error.message),
    ("reason_retryable", boolText error.retryable)]

def handlerStem : String := "replay_handler_"

def handlerParts (binding : ReplayHandlerBinding) : FieldMap :=
  [("kind", encodedString binding.handlerKind),
    ("agent_id", encodedString binding.agentId.text),
    ("idempotency_key", optionalString (binding.idempotencyKey.map (·.text)))]

def DeadLetterRecord.fieldsAt (seconds : U64) (nanos : U32) (record : DeadLetterRecord) :
    FieldMap :=
  [("version", deadLetterVersion)] ++ eventFieldsAt seconds nanos record.event ++
    reasonFields record.reason ++
    [("replay_count", record.replayCount.text),
      ("retry_delay_ms", record.redrive.retryDelayMs.text),
      ("next_attempt_after_ms", record.redrive.nextAttemptAfterMs.text),
      ("replay_handler_count", (Unsigned.truncate 64 record.replayHandlers.length).text)] ++
    Fields.indexedFields handlerStem handlerParts 0 record.replayHandlers

def DeadLetterRecord.fields (record : DeadLetterRecord) : FieldMap :=
  record.fieldsAt record.event.metadata.createdAt.stored.seconds
    record.event.metadata.createdAt.stored.nanos

def deadLetterToStorage (record : DeadLetterRecord) : String := Fields.render record.fields

/-! ## Reading -/

def deadLetterTexts : RecordTexts where
  malformed := "dead-letter record field is invalid"
  invalidName := "dead-letter record field key is invalid"
  missing := "dead-letter record field is missing"
  notUtf8 := "dead-letter string field is not utf-8"
  numeric := "dead-letter numeric field is invalid"
  boolean := "dead-letter boolean field is invalid"
  targetKind := "dead-letter target kind is invalid"
  payloadKind := "dead-letter payload kind is invalid"
  errorKind := "dead-letter error kind is invalid"

def deadLetterRules : Fields.Rules EvaError :=
  deadLetterTexts.rules fun name =>
    .error (fieldError "dead-letter record field is duplicated" name)

/-- Records from before the time was written have the epoch. -/
def deadLetterTimeFromFields (fields : FieldMap) : Except EvaError (U64 × U32) := do
  let seconds ← deadLetterTexts.optionalNumber fields 64 "created_at_secs"
  let nanos ← deadLetterTexts.optionalNumber fields 32 "created_at_nanos"
  rejectIf (nanosPerSecond ≤ (nanos.getD 0).value)
    (fieldError "dead-letter created_at_nanos is invalid" "created_at_nanos")
  pure (seconds.getD 0, nanos.getD 0)

def reasonFromFields (fields : FieldMap) : Except EvaError (Option EvaError) := do
  let kindValue ← deadLetterTexts.requireField fields "reason_kind"
  if kindValue = "" then pure none
  else do
    let kind ← deadLetterTexts.errorKindFromStorage kindValue
    let message ← deadLetterTexts.decodedRequiredString fields "reason_message"
    let retryableText ← deadLetterTexts.requireField fields "reason_retryable"
    let retryable ← deadLetterTexts.parseBool retryableText "reason_retryable"
    pure (some ((EvaError.new kind message).withRetryable retryable))

def handlerFromFields (fields : FieldMap) (index : Nat) :
    Except EvaError ReplayHandlerBinding := do
  let handlerKind ← deadLetterTexts.decodedRequiredString fields
    (Fields.indexedName handlerStem index "kind")
  let agentText ← deadLetterTexts.decodedRequiredString fields
    (Fields.indexedName handlerStem index "agent_id")
  let agentId ← Identifier.new "agent" agentText
  let idempotencyKey ← deadLetterTexts.optionalIdentifier fields "request"
    (Fields.indexedName handlerStem index "idempotency_key")
  let binding ← ReplayHandlerBinding.new handlerKind agentId
  pure ((idempotencyKey.map binding.withIdempotencyKey).getD binding)

def deadLetterFromFields (fields : FieldMap) : Fallible EvaError DeadLetterRecord := do
  let version ← fallible (deadLetterTexts.requireField fields "version")
  fallible (rejectIf (version ≠ deadLetterVersion)
    ((EvaError.conflict "dead-letter record version is unsupported").withContext
      "version" version))
  let event ← deadLetterTexts.eventFromFields fields (deadLetterTimeFromFields fields)
  let reason ← fallible (reasonFromFields fields >>=
    orReject (.conflict "dead-letter reason is missing"))
  let replayCount ← fallible (deadLetterTexts.requiredNumber fields 64 "replay_count")
  let retryDelayMs ← fallible (deadLetterTexts.optionalNumber fields 64 "retry_delay_ms")
  let nextAttemptAfterMs ← fallible
    (deadLetterTexts.optionalNumber fields 64 "next_attempt_after_ms")
  let handlerCount ← fallible (deadLetterTexts.optionalNumber fields 64 "replay_handler_count")
  let handlerCount := (handlerCount.getD 0).value
  fallible (rejectIf (maxReplayHandlers < handlerCount)
    (handlerCountError .conflict handlerCount))
  let replayHandlers ← fallible ((List.range handlerCount).mapM (handlerFromFields fields))
  let record ← fallible (DeadLetterRecord.withReplayHandlers event reason replayHandlers)
  pure { record with
    replayCount
    redrive :=
      { retryDelayMs := retryDelayMs.getD 0, nextAttemptAfterMs := nextAttemptAfterMs.getD 0 } }

def deadLetterFromStorage (data : String) : Fallible EvaError DeadLetterRecord := do
  let fields ← fallible (deadLetterRules.parse data)
  deadLetterFromFields fields

/-! ## Reading back -/

open RecordTexts Text

private theorem reasonFromFields_of_holds (holds : Holds fields (reasonFields reason)) :
    reasonFromFields fields =
      .ok (some ((EvaError.new reason.kind reason.message).withRetryable reason.retryable)) := by
  have kind : deadLetterTexts.requireField fields "reason_kind" = .ok reason.kind.asStr :=
    requireField_of_lookup (holds.found (by simp [reasonFields]))
  have message : deadLetterTexts.decodedRequiredString fields "reason_message" =
      .ok reason.message :=
    decodedRequiredString_of_lookup (holds.found (by simp [reasonFields]))
  have retryable : deadLetterTexts.requireField fields "reason_retryable" =
      .ok (boolText reason.retryable) :=
    requireField_of_lookup (holds.found (by simp [reasonFields]))
  have named : reason.kind.asStr ≠ "" := by cases reason.kind <;> decide
  simp only [reasonFromFields, kind, ok_bind, named, if_false, errorKindFromStorage_asStr, message,
    retryable, parseBool_boolText]
  rfl

private theorem handlerFromFields_of_holds (holds : Holds fields
      ((handlerParts binding).map fun field =>
        (Fields.indexedName handlerStem index field.1, field.2))) :
    handlerFromFields fields index = .ok binding := by
  have kind : deadLetterTexts.decodedRequiredString fields
      (Fields.indexedName handlerStem index "kind") = .ok binding.handlerKind :=
    decodedRequiredString_of_lookup (holds.found (by simp [handlerParts]))
  have agentId : deadLetterTexts.decodedRequiredString fields
      (Fields.indexedName handlerStem index "agent_id") = .ok binding.agentId.text :=
    decodedRequiredString_of_lookup (holds.found (by simp [handlerParts]))
  have key : deadLetterTexts.optionalIdentifier fields "request"
      (Fields.indexedName handlerStem index "idempotency_key") = .ok binding.idempotencyKey :=
    optionalIdentifier_of_lookup (holds.found (by simp [handlerParts]))
  simp only [handlerFromFields, kind, agentId, key, ok_bind, Identifier.new_text,
    ReplayHandlerBinding.new, certify_of_ok binding.valid]
  cases binding with
  | mk handlerKind agentId idempotencyKey valid => cases idempotencyKey <;> rfl

private theorem handlersFromFields_of_holds (bindings : List ReplayHandlerBinding) (start : Nat)
    (holds : Holds fields (Fields.indexedFields handlerStem handlerParts start bindings)) :
    (List.range' start bindings.length).mapM (handlerFromFields fields) = .ok bindings := by
  induction bindings generalizing start with
  | nil => rfl
  | cons binding bindings induction =>
      have first := handlerFromFields_of_holds
        (holds.of_subset (List.subset_append_left _ _))
      have rest := induction (start + 1) (holds.of_subset (List.subset_append_right _ _))
      simp only [List.length_cons, List.range'_succ, List.mapM_cons, first, ok_bind, rest]
      rfl

def deadLetterFixedNames : List String :=
  ["version"] ++ eventFieldNames ++
    ["reason_kind", "reason_message", "reason_retryable", "replay_count", "retry_delay_ms",
      "next_attempt_after_ms", "replay_handler_count"]

section WrittenFields

variable (seconds : U64) (nanos : U32) (record : DeadLetterRecord)

private theorem map_fst_fieldsAt_deadLetter :
    (record.fieldsAt seconds nanos).map Prod.fst = deadLetterFixedNames ++
      (Fields.indexedFields handlerStem handlerParts 0 record.replayHandlers).map Prod.fst := by
  simp [DeadLetterRecord.fieldsAt, deadLetterFixedNames, map_fst_eventFieldsAt, reasonFields]

private theorem plain_fieldsAt_deadLetter :
    ∀ field ∈ record.fieldsAt seconds nanos, Plain field.2.toList := by
  have version : Plain deadLetterVersion.toList := ⟨by decide, by decide⟩
  have kind : Plain record.reason.kind.asStr.toList := by
    cases record.reason.kind <;> exact ⟨by decide, by decide⟩
  have retryable : Plain (boolText record.reason.retryable).toList := by
    cases record.reason.retryable <;> exact ⟨by decide, by decide⟩
  intro field member
  simp only [DeadLetterRecord.fieldsAt, reasonFields, List.mem_append, List.mem_cons,
    List.not_mem_nil, or_false] at member
  rcases member with
    (((rfl | event) | rfl | rfl | rfl) | rfl | rfl | rfl | rfl) | indexed
  · exact version
  · exact plain_eventFieldsAt _ _ _ field event
  · exact kind
  · exact plain_encodedString _
  · exact retryable
  · exact plain_text _
  · exact plain_text _
  · exact plain_text _
  · exact plain_text _
  · obtain ⟨index, binding, part, -, -, within, rfl⟩ := Fields.mem_indexedFields indexed
    simp only [handlerParts, List.mem_cons, List.not_mem_nil, or_false] at within
    rcases within with rfl | rfl | rfl
    · exact plain_encodedString _
    · exact plain_encodedString _
    · exact plain_optionalString _

theorem parse_fieldsAt_deadLetter :
    deadLetterRules.parse (Fields.render (record.fieldsAt seconds nanos)) =
        .ok (record.fieldsAt seconds nanos).reverse ∧
      Holds (record.fieldsAt seconds nanos).reverse (record.fieldsAt seconds nanos) :=
  parse_render_indexed ["kind", "agent_id", "idempotency_key"]
    (map_fst_fieldsAt_deadLetter _ _ _) (fun _ => rfl) (by decide) (by decide) (by decide)
    (plain_fieldsAt_deadLetter _ _ _)

end WrittenFields

namespace DeadLetterRecord

theorem length_le (record : DeadLetterRecord) :
    record.replayHandlers.length ≤ maxReplayHandlers := by
  have valid := record.valid
  simp only [validateReplayHandlers, seq_eq_ok_iff, rejectIf_eq_ok_iff] at valid
  omega

end DeadLetterRecord

attribute [local simp] DeadLetterRecord.fieldsAt

section ReadBack

variable {nanos : U32} {record : DeadLetterRecord} (normal : nanos.value < nanosPerSecond)
include normal

theorem deadLetterTimeFromFields_of_holds (holds : Holds fields (record.fieldsAt seconds nanos)) :
    deadLetterTimeFromFields fields = .ok (seconds, nanos) := by
  have readSeconds : deadLetterTexts.optionalNumber fields 64 "created_at_secs" =
      .ok (some seconds) :=
    optionalNumber_of_lookup (holds.found (by simp [eventFieldsAt]))
  have readNanos : deadLetterTexts.optionalNumber fields 32 "created_at_nanos" =
      .ok (some nanos) :=
    optionalNumber_of_lookup (holds.found (by simp [eventFieldsAt]))
  rw [deadLetterTimeFromFields, readSeconds, ok_bind, readNanos, ok_bind, rejectIf,
    if_neg (by simpa using normal), ok_bind]
  rfl

theorem deadLetterFromFields_of_holds (holds : Holds fields (record.fieldsAt seconds nanos)) :
    deadLetterFromFields fields = orPanic (createdAt seconds nanos) >>= fun time =>
      pure (record.storedAt time) := by
  have version : deadLetterTexts.requireField fields "version" = .ok deadLetterVersion :=
    requireField_of_lookup (holds.found (by simp))
  have ofEvent : Holds fields (eventFieldsAt seconds nanos record.event) :=
    holds.of_subset fun field member => by simp [member]
  have ofReason : Holds fields (reasonFields record.reason) :=
    holds.of_subset fun field member => by simp [member]
  have ofHandlers : Holds fields
      (Fields.indexedFields handlerStem handlerParts 0 record.replayHandlers) :=
    holds.of_subset (List.subset_append_right _ _)
  have replayCount : deadLetterTexts.requiredNumber fields 64 "replay_count" =
      .ok record.replayCount :=
    requiredNumber_of_lookup (holds.found (by simp))
  have retryDelayMs : deadLetterTexts.optionalNumber fields 64 "retry_delay_ms" =
      .ok (some record.redrive.retryDelayMs) :=
    optionalNumber_of_lookup (holds.found (by simp))
  have nextAttemptAfterMs : deadLetterTexts.optionalNumber fields 64 "next_attempt_after_ms" =
      .ok (some record.redrive.nextAttemptAfterMs) :=
    optionalNumber_of_lookup (holds.found (by simp))
  have handlerCount : deadLetterTexts.optionalNumber fields 64 "replay_handler_count" =
      .ok (some (Unsigned.truncate 64 record.replayHandlers.length)) :=
    optionalNumber_of_lookup (holds.found (by simp))
  have few := record.length_le
  have length : (Unsigned.truncate 64 record.replayHandlers.length).value =
      record.replayHandlers.length :=
    Nat.mod_eq_of_lt (Nat.lt_of_le_of_lt few (by decide))
  have allowed : rejectIf (maxReplayHandlers < record.replayHandlers.length)
      (handlerCountError .conflict record.replayHandlers.length) = .ok () :=
    rejectIf_eq_ok_iff.mpr (by omega)
  have handlers := handlersFromFields_of_holds record.replayHandlers 0 ofHandlers
  rw [← List.range_eq_range'] at handlers
  have built : ∀ event reason,
      DeadLetterRecord.withReplayHandlers event reason record.replayHandlers =
        .ok { event, reason, replayCount := 0, redrive := .default,
              replayHandlers := record.replayHandlers, valid := record.valid } :=
    fun _ _ => certify_of_ok record.valid
  rw [deadLetterFromFields, version, fallible_ok, ok_bind, rejectIf, if_neg (by simp),
    fallible_ok, ok_bind, deadLetterTimeFromFields_of_holds normal holds,
    eventFromFields_of_holds ofEvent]
  cases createdAt seconds nanos with
  | none => rfl
  | some time =>
      simp only [orPanic, ok_bind, pure, Except.pure, reasonFromFields_of_holds ofReason, orReject,
        fallible_ok, replayCount, retryDelayMs, nextAttemptAfterMs, handlerCount,
        Option.getD_some, length, allowed, handlers, built]
      rfl

theorem deadLetterFromStorage_fieldsAt :
    deadLetterFromStorage (Fields.render (record.fieldsAt seconds nanos)) =
      orPanic (createdAt seconds nanos) >>= fun time => pure (record.storedAt time) := by
  obtain ⟨parsed, holds⟩ := parse_fieldsAt_deadLetter seconds nanos record
  rw [deadLetterFromStorage, parsed, fallible_ok, ok_bind,
    deadLetterFromFields_of_holds normal holds]

end ReadBack

theorem deadLetterFromStorage_deadLetterToStorage (record : DeadLetterRecord) :
    deadLetterFromStorage (deadLetterToStorage record) = .ok record.stored := by
  rw [deadLetterToStorage, DeadLetterRecord.fields,
    deadLetterFromStorage_fieldsAt record.event.metadata.createdAt.stored.normal, createdAt,
    SystemTime.new_stored]
  rfl

theorem DeadLetterRecord.stored_eq_self_iff {record : DeadLetterRecord} :
    record.stored = record ↔
      record.reason.providerCode = none ∧ record.reason.context = [] ∧
        record.event.metadata.createdAt.sinceEpoch ≠ none := by
  constructor
  · intro same
    have reason : (EvaError.new record.reason.kind record.reason.message).withRetryable
        record.reason.retryable = record.reason :=
      congrArg DeadLetterRecord.reason same
    have event : record.event.fromEpoch = record.event := congrArg DeadLetterRecord.event same
    exact ⟨(congrArg EvaError.providerCode reason).symm, (congrArg EvaError.context reason).symm,
      Event.fromEpoch_eq_self_iff.mp event⟩
  · rintro ⟨noCode, noContext, afterEpoch⟩
    have reason : (EvaError.new record.reason.kind record.reason.message).withRetryable
        record.reason.retryable = record.reason :=
      EvaError.ext rfl rfl rfl noCode.symm noContext.symm
    have event : record.event.withCreatedAt record.event.metadata.createdAt.orEpoch =
        record.event := Event.fromEpoch_eq_self_iff.mpr afterEpoch
    unfold stored storedAt
    rw [reason, event]

/-- Every dead letter can be read again. It is the same exactly when its reason has
neither a provider code nor context entries and its event is not from before the
epoch. -/
theorem deadLetter_survives_iff (record : DeadLetterRecord) :
    (∃ read, deadLetterFromStorage (deadLetterToStorage record) = .ok read) ∧
      (deadLetterFromStorage (deadLetterToStorage record) = .ok record ↔
        record.reason.providerCode = none ∧ record.reason.context = [] ∧
          record.event.metadata.createdAt.sinceEpoch ≠ none) := by
  rw [deadLetterFromStorage_deadLetterToStorage]
  refine ⟨⟨record.stored, rfl⟩, ?_⟩
  rw [← DeadLetterRecord.stored_eq_self_iff]
  exact ⟨Except.ok.inj, congrArg Except.ok⟩

/-! ## An example -/

def exampleDeadLetter (reason : EvaError) : DeadLetterRecord where
  event := exampleEvent
  reason := reason
  replayCount := 0
  redrive := .default
  replayHandlers := []
  valid := rfl

/-- The code of the provider that failed does not survive. -/
theorem provider_code_lost :
    let record := exampleDeadLetter
      (((EvaError.unavailable "provider offline").withProviderCode "E42").withContext
        "adapter" "cli")
    record.reason.providerCode ≠ none ∧ record.reason.context ≠ [] ∧
      ∃ read, deadLetterFromStorage (deadLetterToStorage record) = .ok read ∧
        read.reason.providerCode = none ∧ read.reason.context = [] ∧ read ≠ record := by
  intro record
  have coded : record.reason.providerCode ≠ none := by decide
  have labelled : record.reason.context ≠ [] := by decide
  refine ⟨coded, labelled, record.stored, deadLetterFromStorage_deadLetterToStorage record, rfl,
    rfl, ?_⟩
  intro same
  exact coded (DeadLetterRecord.stored_eq_self_iff.mp same).1

end Eva.EventBus
