import Eva.Storage.TaskState.Snapshot

/-! # Validation of task snapshots

`validate` is the chain of checks the store runs on every record that it reads
or writes. `Valid` says what a record that passes them looks like.
-/

namespace Eva.Storage

def maxTaskKindBytes : Nat := 128
def maxInlineTaskInputBytes : Nat := 1024 * 1024
def maxTaskExecutionOwnerBytes : Nat := 512
def maxTaskCancelTokenBytes : Nat := 256
def replayDeliveryTaskPrefix : String := "replay-delivery-"

/-! ## Texts -/

/-- Exactly sixty-four lower-case hexadecimal digits. -/
def isSha256Hex (hex : List Char) : Bool :=
  (String.ofList hex).utf8ByteSize == 64 && hex.all Text.isLowerHex

def validateCanonicalSha256 (value field : String) : Except EvaError Unit :=
  let error := ((EvaError.invalidArgument "task digest must use canonical lowercase SHA-256")
    |>.withContext "field" field |>.withContext "digest" value)
  match Text.stripPrefix "sha256:".toList value.toList with
  | none => .error error
  | some hex => rejectIf (¬isSha256Hex hex) error

def validateTaskKind (value : String) : Except EvaError Unit := do
  rejectIf (value = "" ∨ Text.trim value.toList ≠ value.toList ∨
      maxTaskKindBytes < value.utf8ByteSize)
    ((EvaError.invalidArgument "task kind must be a stable non-empty dotted name")
      |>.withContext "task_kind" value)
  rejectIf (∃ segment ∈ value.toList.splitOn '.', segment = [] ∨
      ¬segment.all fun char => Text.isAsciiAlphanumeric char || char == '_' || char == '-')
    ((EvaError.invalidArgument "task kind contains an invalid dotted segment")
      |>.withContext "task_kind" value)

def artifactPathError (key : String) : EvaError :=
  (EvaError.invalidArgument "artifact key must be a stable relative path")
    |>.withContext "artifact_key" key

/-- The checks of one segment come before those of the next one. -/
def validateArtifactSegment (key : String) (segment : List Char) : Except EvaError Unit := do
  rejectIf (segment = [] ∨ segment = ['.'] ∨ segment = ['.', '.']) (artifactPathError key)
  rejectIf (¬segment.all fun char =>
      Text.isAsciiAlphanumeric char || char == '-' || char == '_' || char == '.')
    ((EvaError.invalidArgument "artifact key contains unsupported filesystem characters")
      |>.withContext "artifact_key" key)

def validateFilesystemArtifactKey (key : String) : Except EvaError Unit := do
  rejectIf (Text.isBlank key.toList ∨ Text.trim key.toList ≠ key.toList ∨ '\\' ∈ key.toList)
    (artifactPathError key)
  (key.toList.splitOn '/').forM (validateArtifactSegment key)

def isReplayDeliveryTaskId (taskId : String) : Bool :=
  match Text.stripPrefix replayDeliveryTaskPrefix.toList taskId.toList with
  | some suffix => isSha256Hex suffix
  | none => false

/-- Not empty, no surrounding white space, no control characters, bounded. -/
def isBoundedIdentity (limit : Nat) (value : String) : Bool :=
  value ≠ "" && Text.trim value.toList = value.toList && value.utf8ByteSize ≤ limit &&
    !value.toList.any Text.isControl

def validateExecutionOwner (value : String) : Except EvaError Unit :=
  rejectIf (¬isBoundedIdentity maxTaskExecutionOwnerBytes value)
    (.invalidArgument "task execution owner is not a stable bounded identity")

def validateCancelToken (value : String) : Except EvaError Unit :=
  rejectIf (¬isBoundedIdentity maxTaskCancelTokenBytes value)
    (.invalidArgument "task cancel token is not a stable bounded fence")

/-! ## Envelopes -/

namespace TaskAttemptPolicySnapshot

def validate (policy : TaskAttemptPolicySnapshot) : Except EvaError Unit := do
  rejectIf (policy.maxAttempts = 0)
    (.invalidArgument "task attempt policy max_attempts must be at least one")
  rejectIf (policy.attemptTimeoutMs = some 0)
    (.invalidArgument "task attempt timeout must be greater than zero when present")

def new (maxAttempts : U32) (retryBackoffMs : U64) (attemptTimeoutMs : Option U64) :
    Except EvaError TaskAttemptPolicySnapshot := do
  let policy : TaskAttemptPolicySnapshot := { maxAttempts, retryBackoffMs, attemptTimeoutMs }
  policy.validate
  pure policy

end TaskAttemptPolicySnapshot

namespace TaskInputSnapshot

def digest : TaskInputSnapshot → String
  | inline _ digest => digest
  | artifact _ digest => digest

def validate : TaskInputSnapshot → Except EvaError Unit
  | inline bytes digest => do
      rejectIf (maxInlineTaskInputBytes < bytes.length)
        ((EvaError.invalidArgument "inline task input exceeds the durable size limit")
          |>.withContext "size_bytes" (toString bytes.length)
          |>.withContext "max_size_bytes" (toString maxInlineTaskInputBytes))
      validateCanonicalSha256 digest "task input digest"
      let actual := sha256Digest bytes
      rejectIf (digest ≠ actual)
        ((EvaError.invalidArgument "inline task input digest does not match payload bytes")
          |>.withContext "expected_digest" digest
          |>.withContext "actual_digest" actual)
  | artifact artifactRef digest => do
      validateFilesystemArtifactKey artifactRef
      validateCanonicalSha256 digest "task artifact digest"

end TaskInputSnapshot

namespace TaskEnvelopeSnapshot

def validate (envelope : TaskEnvelopeSnapshot) : Except EvaError Unit := do
  validateTaskKind envelope.kind
  AgentId.parse envelope.agentId
  (RequestId.parse envelope.idempotencyKey).mapError fun error =>
    (EvaError.invalidArgument "task idempotency key is invalid")
      |>.withContext "idempotency_key" envelope.idempotencyKey
      |>.withContext "cause" error.message
  envelope.input.validate
  envelope.attemptPolicy.validate

def new (kind agentId : String) (input : TaskInputSnapshot) (idempotencyKey : String)
    (attemptPolicy : TaskAttemptPolicySnapshot) : Except EvaError TaskEnvelopeSnapshot := do
  let envelope : TaskEnvelopeSnapshot :=
    { kind, agentId, input, idempotencyKey, attemptPolicy }
  envelope.validate
  pure envelope

end TaskEnvelopeSnapshot

namespace TaskReplayDeliverySnapshot

def validate (delivery : TaskReplayDeliverySnapshot) : Except EvaError Unit :=
  EventId.parse delivery.replayEventId

def new (replayEventId : String) (deliveryIndex : Usize) :
    Except EvaError TaskReplayDeliverySnapshot := do
  let marker : TaskReplayDeliverySnapshot := { replayEventId, deliveryIndex }
  marker.validate
  pure marker

end TaskReplayDeliverySnapshot

/-! ## Snapshots -/

namespace TaskStateSnapshot

variable (snapshot : TaskStateSnapshot)

def validateExecutionIdentity : Except EvaError Unit := do
  if let some executionOwner := snapshot.executionOwner then
    validateExecutionOwner executionOwner
    rejectIf (snapshot.envelope = none ∨ snapshot.attempts = 0 ∨ snapshot.cancelToken = none)
      (.invalidArgument
        "task execution owner requires an envelope, active attempt, and cancel token")
  if let some cancelToken := snapshot.cancelToken then
    validateCancelToken cancelToken

def validateReplayDelivery : Except EvaError Unit := do
  if let some replayDelivery := snapshot.replayDelivery then
    replayDelivery.validate
    rejectIf (¬isReplayDeliveryTaskId snapshot.taskId)
      ((EvaError.invalidArgument
          "replay delivery marker requires a reserved deterministic task id")
        |>.withContext "task_id" snapshot.taskId)
    let envelope ← orReject
      (.invalidArgument "replay delivery marker requires a task envelope") snapshot.envelope
    rejectIf (envelope.attemptPolicy.maxAttempts ≠ Unsigned.maximum 32 ∨
        envelope.attemptPolicy.attemptTimeoutMs ≠ none)
      ((EvaError.invalidArgument
          "replay delivery envelope does not match its internal retry contract")
        |>.withContext "task_id" snapshot.taskId)

def isUnsuccessful : Bool := snapshot.status = .failed || snapshot.status = .timedOut

def validateRetry : Except EvaError Unit := do
  rejectIf (snapshot.errorRetryable ≠ none ∧ (¬snapshot.isUnsuccessful ∨
      snapshot.errorKind = none ∨ snapshot.errorMessage = none))
    (.invalidArgument "task retry classification requires a failed or timed-out outcome")
  rejectIf (snapshot.retryReadyAtMs ≠ none ∧ (¬snapshot.isUnsuccessful ∨
      snapshot.retryMaxAttempts ≤ snapshot.attempts ∨
      snapshot.errorRetryable = some false))
    (.invalidArgument
      "task retry readiness requires a retryable outcome with remaining attempts")

def validateResult : Except EvaError Unit :=
  match snapshot.resultDigest, snapshot.resultSizeBytes with
  | none, none => .ok ()
  | some digest, some _ =>
      if snapshot.status = .completed ∧ snapshot.envelope ≠ none then
        validateCanonicalSha256 digest "task result digest"
      else .error (.invalidArgument "task result metadata requires completed status")
  | _, _ => .error (.invalidArgument "task result digest and size must appear together")

def noFailureMetadata : Bool :=
  snapshot.errorKind = none && snapshot.errorMessage = none &&
    snapshot.errorRetryable = none && snapshot.retryReadyAtMs = none &&
    snapshot.interruptedReason = none

def executionMetadataValid : Bool :=
  match snapshot.status with
  | .running | .cancelling | .cancelled =>
      snapshot.resultDigest = none && snapshot.noFailureMetadata
  | .completed => snapshot.resultDigest ≠ none && snapshot.noFailureMetadata
  | .failed =>
      snapshot.resultDigest = none && snapshot.errorKind ≠ none &&
        snapshot.errorMessage ≠ none && snapshot.interruptedReason = none
  | .timedOut =>
      snapshot.resultDigest = none && snapshot.errorKind = some "timeout" &&
        snapshot.errorMessage ≠ none && snapshot.heartbeatAtMs ≠ none &&
        snapshot.interruptedReason = none
  | .interrupted | .recovering => snapshot.resultDigest = none
  | _ => true

def validateExecutionMetadata : Except EvaError Unit :=
  rejectIf (snapshot.executionOwner ≠ none ∧ ¬snapshot.executionMetadataValid)
    ((EvaError.invalidArgument "task execution metadata does not match lifecycle status")
      |>.withContext "status" snapshot.status.asStr)

def validateEnvelope : Except EvaError Unit := do
  if let some envelope := snapshot.envelope then
    envelope.validate
    rejectIf (snapshot.retryMaxAttempts.value ≠ envelope.attemptPolicy.maxAttempts.value)
      ((EvaError.invalidArgument
          "task retry policy mirror does not match immutable envelope")
        |>.withContext "retry_max_attempts" snapshot.retryMaxAttempts.text
        |>.withContext "envelope_max_attempts" envelope.attemptPolicy.maxAttempts.text)

def validate : Except EvaError Unit := do
  RequestId.parse snapshot.taskId
  rejectIf (snapshot.status.asStr = "")
    (.invalidArgument "task state status cannot be empty")
  rejectIf (snapshot.retryMaxAttempts = 0)
    (.invalidArgument "task retry_max_attempts must be at least one")
  rejectIf (snapshot.retryMaxAttempts < snapshot.attempts)
    ((EvaError.invalidArgument "task attempts cannot exceed retry_max_attempts")
      |>.withContext "attempts" snapshot.attempts.text
      |>.withContext "retry_max_attempts" snapshot.retryMaxAttempts.text)
  snapshot.validateExecutionIdentity
  snapshot.validateReplayDelivery
  snapshot.validateRetry
  snapshot.validateResult
  snapshot.validateExecutionMetadata
  snapshot.validateEnvelope

/-! ## What validation accepts -/

/-- The digest and the size of a result stand together, on completed tasks only. -/
def ResultConsistent : Prop :=
  (snapshot.resultDigest = none ∧ snapshot.resultSizeBytes = none) ∨
    ∃ digest size, snapshot.resultDigest = some digest ∧
      snapshot.resultSizeBytes = some size ∧ snapshot.status = .completed ∧
      snapshot.envelope ≠ none ∧
      validateCanonicalSha256 digest "task result digest" = .ok ()

@[mk_iff] structure Valid : Prop where
  identified : IsIdentifier snapshot.taskId
  statusNamed : snapshot.status.asStr ≠ ""
  retryMaxPositive : snapshot.retryMaxAttempts ≠ 0
  withinBudget : snapshot.attempts ≤ snapshot.retryMaxAttempts
  ownerBounded : ∀ owner, snapshot.executionOwner = some owner →
    isBoundedIdentity maxTaskExecutionOwnerBytes owner
  ownerBacked : snapshot.executionOwner ≠ none →
    snapshot.envelope ≠ none ∧ snapshot.attempts ≠ 0 ∧ snapshot.cancelToken ≠ none
  tokenBounded : ∀ token, snapshot.cancelToken = some token →
    isBoundedIdentity maxTaskCancelTokenBytes token
  replayBacked : ∀ delivery, snapshot.replayDelivery = some delivery →
    IsIdentifier delivery.replayEventId ∧ isReplayDeliveryTaskId snapshot.taskId ∧
      ∃ envelope, snapshot.envelope = some envelope ∧
        envelope.attemptPolicy.maxAttempts = Unsigned.maximum 32 ∧
        envelope.attemptPolicy.attemptTimeoutMs = none
  retryClassified : snapshot.errorRetryable ≠ none → snapshot.isUnsuccessful ∧
    snapshot.errorKind ≠ none ∧ snapshot.errorMessage ≠ none
  retryScheduled : snapshot.retryReadyAtMs ≠ none → snapshot.isUnsuccessful ∧
    snapshot.attempts < snapshot.retryMaxAttempts ∧ snapshot.errorRetryable ≠ some false
  resultConsistent : snapshot.ResultConsistent
  metadataConsistent : snapshot.executionOwner ≠ none → snapshot.executionMetadataValid
  envelopeValid : ∀ envelope, snapshot.envelope = some envelope →
    envelope.validate = .ok () ∧
      snapshot.retryMaxAttempts.value = envelope.attemptPolicy.maxAttempts.value

variable {snapshot}

theorem Valid.enveloped_of_replay (valid : snapshot.Valid)
    (replay : snapshot.replayDelivery ≠ none) : snapshot.envelope ≠ none := by
  obtain ⟨delivery, present⟩ := Option.ne_none_iff_exists'.mp replay
  obtain ⟨-, -, envelope, enveloped, -⟩ := valid.replayBacked delivery present
  rw [enveloped]
  nofun

private theorem validateExecutionIdentity_eq_ok_iff :
    snapshot.validateExecutionIdentity = .ok () ↔
      (∀ owner, snapshot.executionOwner = some owner →
        isBoundedIdentity maxTaskExecutionOwnerBytes owner) ∧
      (snapshot.executionOwner ≠ none →
        snapshot.envelope ≠ none ∧ snapshot.attempts ≠ 0 ∧ snapshot.cancelToken ≠ none) ∧
      (∀ token, snapshot.cancelToken = some token →
        isBoundedIdentity maxTaskCancelTokenBytes token) := by
  unfold validateExecutionIdentity validateExecutionOwner validateCancelToken
  cases snapshot.executionOwner <;> cases snapshot.cancelToken <;>
    simp [and_assoc]

private theorem validateReplayDelivery_eq_ok_iff :
    snapshot.validateReplayDelivery = .ok () ↔
      ∀ delivery, snapshot.replayDelivery = some delivery →
        IsIdentifier delivery.replayEventId ∧ isReplayDeliveryTaskId snapshot.taskId ∧
          ∃ envelope, snapshot.envelope = some envelope ∧
            envelope.attemptPolicy.maxAttempts = Unsigned.maximum 32 ∧
            envelope.attemptPolicy.attemptTimeoutMs = none := by
  unfold validateReplayDelivery TaskReplayDeliverySnapshot.validate EventId.parse
  cases snapshot.replayDelivery <;> simp [validateId_eq_ok_iff]

private theorem validateRetry_eq_ok_iff :
    snapshot.validateRetry = .ok () ↔
      (snapshot.errorRetryable ≠ none → snapshot.isUnsuccessful ∧
        snapshot.errorKind ≠ none ∧ snapshot.errorMessage ≠ none) ∧
      (snapshot.retryReadyAtMs ≠ none → snapshot.isUnsuccessful ∧
        snapshot.attempts < snapshot.retryMaxAttempts ∧
        snapshot.errorRetryable ≠ some false) := by
  simp [validateRetry, Unsigned.le_iff, Unsigned.lt_iff]

private theorem validateResult_eq_ok_iff :
    snapshot.validateResult = .ok () ↔ snapshot.ResultConsistent := by
  unfold validateResult ResultConsistent
  cases snapshot.resultDigest <;> cases snapshot.resultSizeBytes <;> simp
  split <;> simp_all

private theorem validateEnvelope_eq_ok_iff :
    snapshot.validateEnvelope = .ok () ↔
      ∀ envelope, snapshot.envelope = some envelope → envelope.validate = .ok () ∧
        snapshot.retryMaxAttempts.value = envelope.attemptPolicy.maxAttempts.value := by
  unfold validateEnvelope
  cases snapshot.envelope <;> simp

theorem validate_eq_ok_iff : snapshot.validate = .ok () ↔ snapshot.Valid := by
  have withinBudget : ¬snapshot.retryMaxAttempts < snapshot.attempts ↔
      snapshot.attempts ≤ snapshot.retryMaxAttempts := by
    simp [Unsigned.le_iff, Unsigned.lt_iff]
  have metadata : ¬(snapshot.executionOwner ≠ none ∧ ¬snapshot.executionMetadataValid) ↔
      (snapshot.executionOwner ≠ none → snapshot.executionMetadataValid) := by
    simp
  rw [valid_iff]
  simp only [validate, seq_eq_ok_iff, rejectIf_eq_ok_iff, RequestId.parse,
    validateId_eq_ok_iff, validateExecutionIdentity_eq_ok_iff,
    validateReplayDelivery_eq_ok_iff, validateRetry_eq_ok_iff, validateResult_eq_ok_iff,
    validateExecutionMetadata, validateEnvelope_eq_ok_iff, withinBudget, metadata, and_assoc]

theorem executionMetadataValid_iff
    (clean : snapshot.status = .running ∨ snapshot.status = .cancelling ∨
      snapshot.status = .cancelled) :
    snapshot.executionMetadataValid ↔ snapshot.resultDigest = none ∧
      snapshot.errorKind = none ∧ snapshot.errorMessage = none ∧
      snapshot.errorRetryable = none ∧ snapshot.retryReadyAtMs = none ∧
      snapshot.interruptedReason = none := by
  rcases clean with running | cancelling | cancelled <;>
    simp [executionMetadataValid, noFailureMetadata, and_assoc, *]

instance : Decidable snapshot.Valid :=
  decidable_of_iff _ validate_eq_ok_iff

end TaskStateSnapshot

end Eva.Storage
