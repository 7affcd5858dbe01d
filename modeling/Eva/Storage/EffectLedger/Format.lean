import Eva.Foundation.Fields
import Eva.Storage.EffectLedger.Record
import Eva.Storage.FieldCodec

/-! # The file of an effect record

Sixteen named fields, none of them optional; a missing result is written as an
empty value. Every valid record reads back.
-/

namespace Eva.Storage

def effectLedgerFormat : String := "eva.effect-ledger.v1"

def effectFieldNames : List String :=
  ["format", "idempotency_key", "operation_digest", "task_kind", "agent_id", "effect_scope",
    "input_digest", "state", "prepared_task_id", "prepared_owner_generation",
    "prepared_attempt", "prepared_fence_digest", "prepared_at_ms", "committed_at_ms",
    "result_digest", "result_size_bytes"]

/-! ## Writing -/

def EffectLedgerRecord.fields (record : EffectLedgerRecord) : Fields.FieldMap :=
  [("format", effectLedgerFormat),
    ("idempotency_key", record.operation.idempotencyKey),
    ("operation_digest", record.operation.operationDigest),
    ("task_kind", record.operation.taskKind),
    ("agent_id", record.operation.agentId),
    ("effect_scope", record.operation.effectScope),
    ("input_digest", record.operation.inputDigest),
    ("state", record.state.asStr),
    ("prepared_task_id", record.preparedTaskId),
    ("prepared_owner_generation", record.preparedOwnerGeneration.text),
    ("prepared_attempt", record.preparedAttempt.text),
    ("prepared_fence_digest", record.preparedFenceDigest),
    ("prepared_at_ms", record.preparedAtMs.text),
    ("committed_at_ms", optionalNumber record.committedAtMs),
    ("result_digest", record.resultDigest.getD ""),
    ("result_size_bytes", optionalNumber record.resultSizeBytes)]

def effectRecordToStorage (record : EffectLedgerRecord) : String :=
  Fields.render record.fields

/-! ## Reading -/

def effectFieldError (message field : String) : EvaError :=
  (EvaError.conflict message).withContext "field" field

def effectRules : Fields.Rules EvaError where
  skips line := line = []
  malformed := .conflict "effect ledger record field is invalid"
  checkName name := rejectIf (name ∉ effectFieldNames)
    (effectFieldError "effect ledger record has unknown field" name)
  repeated name := .error (effectFieldError "effect ledger record field is duplicated" name)

def requiredField (fields : Fields.FieldMap) (key : String) : Except EvaError String :=
  orReject (effectFieldError "effect ledger record field is missing" key) (fields.lookup key)

def optionalTextField (fields : Fields.FieldMap) (key : String) :
    Except EvaError (Option String) := do
  let value ← requiredField fields key
  pure (if value = "" then none else some value)

def parseNumericField (bits : Nat) (fields : Fields.FieldMap) (key : String) :
    Except EvaError (Unsigned bits) := do
  let value ← requiredField fields key
  orReject (effectFieldError "effect ledger numeric field is invalid" key)
    (Text.parseUnsigned bits value.toList)

def parseOptionalField (bits : Nat) (fields : Fields.FieldMap) (key : String) :
    Except EvaError (Option (Unsigned bits)) := do
  let value ← requiredField fields key
  if value = "" then pure none
  else do
    let number ← orReject (effectFieldError "effect ledger numeric field is invalid" key)
      (Text.parseUnsigned bits value.toList)
    pure (some number)

def effectOperationFromFields (fields : Fields.FieldMap) :
    Except EvaError EffectOperationIdentity := do
  let format ← requiredField fields "format"
  rejectIf (format ≠ effectLedgerFormat) (.conflict "effect ledger record format is unsupported")
  let idempotencyKey ← requiredField fields "idempotency_key"
  let taskKind ← requiredField fields "task_kind"
  let agentId ← requiredField fields "agent_id"
  let effectScope ← requiredField fields "effect_scope"
  let inputDigest ← requiredField fields "input_digest"
  let operation ← EffectOperationIdentity.new idempotencyKey taskKind agentId effectScope
    inputDigest
  let operationDigest ← requiredField fields "operation_digest"
  rejectIf (operation.operationDigest ≠ operationDigest)
    (.conflict "effect operation digest does not match stored identity")
  pure operation

def effectRecordFromFields (fields : Fields.FieldMap) : Except EvaError EffectLedgerRecord := do
  let operation ← effectOperationFromFields fields
  let stateText ← requiredField fields "state"
  let state ← EffectLedgerState.fromStorage stateText
  let preparedTaskId ← requiredField fields "prepared_task_id"
  let preparedOwnerGeneration ← parseNumericField 64 fields "prepared_owner_generation"
  let preparedAttempt ← parseNumericField 64 fields "prepared_attempt"
  let preparedFenceDigest ← requiredField fields "prepared_fence_digest"
  let preparedAtMs ← parseNumericField 128 fields "prepared_at_ms"
  let committedAtMs ← parseOptionalField 128 fields "committed_at_ms"
  let resultDigest ← optionalTextField fields "result_digest"
  let resultSizeBytes ← parseOptionalField 64 fields "result_size_bytes"
  let record : EffectLedgerRecord :=
    { operation, state, preparedTaskId, preparedOwnerGeneration, preparedAttempt,
      preparedFenceDigest, preparedAtMs, committedAtMs, resultDigest, resultSizeBytes }
  record.validate
  pure record

def effectRecordFromStorage (data : String) : Except EvaError EffectLedgerRecord := do
  let fields ← effectRules.parse data
  rejectIf (fields.length ≠ 16) (.conflict "effect ledger record field set is incomplete")
  effectRecordFromFields fields

/-! ## Reading back -/

open Text

private theorem plain_of_segments {value : String}
    (segments : ∀ segment ∈ value.toList.splitOn '.', segment.all fun char =>
      isAsciiAlphanumeric char || char == '_' || char == '-') : Plain value.toList := by
  have joined : ['.'].intercalate (value.toList.splitOn '.') = value.toList :=
    List.intercalate_splitOn '.'
  have within : ∀ char ∈ value.toList, (char == '.' || isAsciiAlphanumeric char ||
      char == '_' || char == '-') := by
    intro char member
    rw [← joined] at member
    rcases mem_intercalate member with rfl | ⟨segment, held, inside⟩
    · rfl
    · have allowed := List.all_eq_true.mp (segments segment held) char inside
      simp only [Bool.or_eq_true] at allowed ⊢
      rcases allowed with (allowed | allowed) | allowed <;> simp [allowed]
  exact plain_of_forall within (by decide) (by decide)

theorem plain_of_taskKind (valid : validateTaskKind value = .ok ()) :
    Plain value.toList := by
  simp only [validateTaskKind, seq_eq_ok_iff, rejectIf_eq_ok_iff, not_exists, not_and, not_or,
    not_not] at valid
  exact plain_of_segments fun segment member => (valid.2 segment member).2

theorem plain_of_sha256Digest
    (valid : validateSha256Digest field value = .ok ()) : Plain value.toList := by
  obtain ⟨hex, rfl, digits⟩ := validateSha256Digest_eq_ok valid
  simp only [isSha256Hex, Bool.and_eq_true, List.all_eq_true] at digits
  rw [String.toList_append, plain_append]
  refine ⟨⟨by decide, by decide⟩, ?_⟩
  rw [String.toList_ofList]
  exact plain_of_forall digits.2 (by decide) (by decide)

namespace EffectLedgerRecord

variable {record : EffectLedgerRecord}

theorem plain_resultDigest (valid : record.Valid) : Plain (record.resultDigest.getD "").toList := by
  cases valid.result with
  | prepared state untimed undigested unsized =>
      rw [undigested]
      exact ⟨by decide, by decide⟩
  | committed state timed ordered digested canonical sized =>
      rw [digested]
      exact plain_of_sha256Digest canonical

theorem fields_writable (valid : record.Valid) : Fields.Writable effectRules record.fields := by
  refine .of_names effectFieldNames rfl (by decide) (by decide +kernel)
    (by simp [effectRules, Fields.line]) ?_
  have state : Plain record.state.asStr.toList := by
    cases record.state <;> exact ⟨by decide, by decide⟩
  have format : Plain effectLedgerFormat.toList := ⟨by decide, by decide⟩
  simp only [fields, List.mem_cons, List.not_mem_nil, or_false, forall_eq_or_imp, forall_eq]
  exact ⟨format, plain_of_isIdentifier (validateId_eq_ok_iff.mp record.operation.keyed),
    plain_of_sha256Digest (validateSha256Digest_canonicalDigest "" _ _),
    plain_of_taskKind record.operation.kinded,
    plain_of_isIdentifier (validateId_eq_ok_iff.mp record.operation.owned),
    plain_of_isIdentifier (validateId_eq_ok_iff.mp record.operation.slotted),
    plain_of_sha256Digest record.operation.digested, state,
    plain_of_isIdentifier valid.identified, plain_text _, plain_text _,
    plain_of_sha256Digest valid.fenced, plain_text _, plain_optionalNumber _,
    plain_resultDigest valid, plain_optionalNumber _⟩

private theorem requiredField_fields (valid : record.Valid)
    (found : record.fields.lookup key = some value) :
    requiredField record.fields.reverse key = .ok value := by
  rw [requiredField, Fields.lookup_reverse (fields_writable valid).distinct, found]
  rfl

private theorem parseNumericField_text {fields : Fields.FieldMap}
    (found : requiredField fields key = .ok number.text) :
    parseNumericField bits fields key = .ok number := by
  simp only [parseNumericField, found, ok_bind, parseUnsigned_text, orReject]

private theorem parseOptionalField_text {fields : Fields.FieldMap}
    {number : Option (Unsigned bits)}
    (found : requiredField fields key = .ok (optionalNumber number)) :
    parseOptionalField bits fields key = .ok number := by
  simp only [parseOptionalField, found, ok_bind]
  cases number with
  | none => rfl
  | some number =>
      have nonempty : optionalNumber (some number) ≠ "" := by
        simp [optionalNumber]
      rw [if_neg nonempty]
      simp only [optionalNumber, Option.map_some, Option.getD_some, parseUnsigned_text, orReject,
        ok_bind]
      rfl

private theorem optionalTextField_digest (valid : record.Valid) {fields : Fields.FieldMap}
    (found : requiredField fields key = .ok (record.resultDigest.getD "")) :
    optionalTextField fields key = .ok record.resultDigest := by
  simp only [optionalTextField, found, ok_bind]
  cases valid.result with
  | prepared state untimed undigested unsized =>
      rw [undigested]
      rfl
  | committed state timed ordered digested canonical sized =>
      rename_i _ resultDigest _
      have nonempty : resultDigest ≠ "" := by
        rintro rfl
        cases canonical
      simp [digested, nonempty, pure, Except.pure]

end EffectLedgerRecord

theorem effectRecordFromStorage_toStorage (valid : record.Valid) :
    effectRecordFromStorage (effectRecordToStorage record) = .ok record := by
  have parsed := Fields.parse_render (EffectLedgerRecord.fields_writable valid)
  have required {key value : String} (found : record.fields.lookup key = some value) :=
    EffectLedgerRecord.requiredField_fields valid found
  have operation : effectOperationFromFields record.fields.reverse = .ok record.operation := by
    simp only [effectOperationFromFields, @required "format" _ rfl,
      @required "idempotency_key" _ rfl, @required "task_kind" _ rfl, @required "agent_id" _ rfl,
      @required "effect_scope" _ rfl, @required "input_digest" _ rfl,
      @required "operation_digest" _ rfl, EffectOperationIdentity.new_self, ok_bind, rejectIf,
      ne_eq, not_true_eq_false, if_false]
    rfl
  have fields : effectRecordFromFields record.fields.reverse = .ok record := by
    simp only [effectRecordFromFields, operation, @required "state" _ rfl,
      EffectLedgerState.fromStorage_asStr, @required "prepared_task_id" _ rfl,
      EffectLedgerRecord.parseNumericField_text (@required "prepared_owner_generation" _ rfl),
      EffectLedgerRecord.parseNumericField_text (@required "prepared_attempt" _ rfl),
      @required "prepared_fence_digest" _ rfl,
      EffectLedgerRecord.parseNumericField_text (@required "prepared_at_ms" _ rfl),
      EffectLedgerRecord.parseOptionalField_text (@required "committed_at_ms" _ rfl),
      EffectLedgerRecord.optionalTextField_digest valid (@required "result_digest" _ rfl),
      EffectLedgerRecord.parseOptionalField_text (@required "result_size_bytes" _ rfl),
      ok_bind, EffectLedgerRecord.validate_eq_ok_iff.mpr valid]
    rfl
  have whole : record.fields.reverse.length = 16 := rfl
  simp only [effectRecordFromStorage, effectRecordToStorage, parsed, ok_bind, whole, fields,
    rejectIf, ne_eq, not_true_eq_false, if_false]

end Eva.Storage
