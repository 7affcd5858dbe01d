import Eva.Storage.FieldCodec
import Eva.Storage.TaskState.Validation

/-! # The line format of task records

Texts inside a file are lists of characters. A record is written as lines
`name=value`; every name but the last three stands at most once.
-/

namespace Eva.Storage

def taskStateFormatV2 : String := "eva.task-state.v2"
def taskStateFormatV3 : String := "eva.task-state.v3"
def taskStateFormatV4 : String := "eva.task-state.v4"
def taskStateFormatV5 : String := "eva.task-state.v5"

inductive TaskField where
  | format
  | recordVersion
  | ownerGeneration
  | taskId
  | status
  | attempts
  | executionOwner
  | retryMaxAttempts
  | envelopeKind
  | envelopeAgentId
  | envelopeInputKind
  | envelopeInlineInputHex
  | envelopeArtifactRef
  | envelopeInputDigest
  | envelopeIdempotencyKey
  | envelopeMaxAttempts
  | envelopeRetryBackoffMs
  | envelopeAttemptTimeoutMs
  | replayEventId
  | replayDeliveryIndex
  | errorRetryable
  | retryReadyAtMs
  | cancelRequested
  | cancelAccepted
  | cancelReason
  | heartbeatAtMs
  | deadlineAtMs
  | cancelToken
  | resultDigest
  | resultSizeBytes
  | interruptedReason
  | errorKind
  | errorMessage
  | log
  | deadLetter
  | replay
deriving DecidableEq

namespace TaskField

def name : TaskField → String
  | format => "format"
  | recordVersion => "record_version"
  | ownerGeneration => "owner_generation"
  | taskId => "task_id"
  | status => "status"
  | attempts => "attempts"
  | executionOwner => "execution_owner"
  | retryMaxAttempts => "retry_max_attempts"
  | envelopeKind => "envelope_kind"
  | envelopeAgentId => "envelope_agent_id"
  | envelopeInputKind => "envelope_input_kind"
  | envelopeInlineInputHex => "envelope_inline_input_hex"
  | envelopeArtifactRef => "envelope_artifact_ref"
  | envelopeInputDigest => "envelope_input_digest"
  | envelopeIdempotencyKey => "envelope_idempotency_key"
  | envelopeMaxAttempts => "envelope_max_attempts"
  | envelopeRetryBackoffMs => "envelope_retry_backoff_ms"
  | envelopeAttemptTimeoutMs => "envelope_attempt_timeout_ms"
  | replayEventId => "replay_event_id"
  | replayDeliveryIndex => "replay_delivery_index"
  | errorRetryable => "error_retryable"
  | retryReadyAtMs => "retry_ready_at_ms"
  | cancelRequested => "cancel_requested"
  | cancelAccepted => "cancel_accepted"
  | cancelReason => "cancel_reason"
  | heartbeatAtMs => "heartbeat_at_ms"
  | deadlineAtMs => "deadline_at_ms"
  | cancelToken => "cancel_token"
  | resultDigest => "result_digest"
  | resultSizeBytes => "result_size_bytes"
  | interruptedReason => "interrupted_reason"
  | errorKind => "error_kind"
  | errorMessage => "error_message"
  | log => "log"
  | deadLetter => "dead_letter"
  | replay => "replay"

/-- All fields, in the order in which a line is compared with them. -/
def all : List TaskField :=
  [format, recordVersion, ownerGeneration, taskId, status, attempts, executionOwner,
    retryMaxAttempts, envelopeKind, envelopeAgentId, envelopeInputKind,
    envelopeInlineInputHex, envelopeArtifactRef, envelopeInputDigest,
    envelopeIdempotencyKey, envelopeMaxAttempts, envelopeRetryBackoffMs,
    envelopeAttemptTimeoutMs, replayEventId, replayDeliveryIndex, errorRetryable,
    retryReadyAtMs, cancelRequested, cancelAccepted, cancelReason, heartbeatAtMs,
    deadlineAtMs, cancelToken, resultDigest, resultSizeBytes, interruptedReason, errorKind,
    errorMessage, log, deadLetter, replay]

def isSingle : TaskField → Bool
  | log | deadLetter | replay => false
  | _ => true

def ofSingleName (name : List Char) : Option TaskField :=
  all.find? fun field => field.isSingle && field.name.toList = name

def line (field : TaskField) (value : List Char) : List Char :=
  field.name.toList ++ '=' :: value

/-- The first field whose name and equals sign start the line. -/
def ofLine (line : List Char) : Option (TaskField × List Char) :=
  all.findSome? fun field =>
    (Text.stripPrefix (field.name.toList ++ ['=']) line).map fun value => (field, value)

end TaskField

/-! ## Writing -/

namespace TaskStateSnapshot

def encodeNumber {bits : Nat} (number : Option (Unsigned bits)) : List Char :=
  (number.map Text.formatUnsigned).getD []

def encodeBool : Bool → List Char
  | true => "true".toList
  | false => "false".toList

variable (snapshot : TaskStateSnapshot)

def headerFields : List (TaskField × List Char) :=
  [(.format, (if snapshot.envelope.isSome then taskStateFormatV5 else taskStateFormatV2).toList),
    (.recordVersion, Text.formatUnsigned snapshot.recordVersion),
    (.ownerGeneration, Text.formatUnsigned snapshot.ownerGeneration),
    (.taskId, encodeField snapshot.taskId),
    (.status, encodeField snapshot.status.asStr),
    (.attempts, Text.formatUnsigned snapshot.attempts),
    (.retryMaxAttempts, Text.formatUnsigned snapshot.retryMaxAttempts)]

def inputKind : TaskInputSnapshot → List Char
  | .inline _ _ => "inline".toList
  | .artifact _ _ => "artifact".toList

def inlineInputHex : TaskInputSnapshot → List Char
  | .inline bytes _ => Text.encodeHex bytes
  | .artifact _ _ => []

def inputArtifactRef : TaskInputSnapshot → List Char
  | .inline _ _ => []
  | .artifact artifactRef _ => encodeField artifactRef

def envelopeFields (envelope : TaskEnvelopeSnapshot) : List (TaskField × List Char) :=
  [(.envelopeKind, encodeField envelope.kind),
    (.envelopeAgentId, encodeField envelope.agentId),
    (.envelopeInputKind, inputKind envelope.input),
    (.envelopeInlineInputHex, inlineInputHex envelope.input),
    (.envelopeArtifactRef, inputArtifactRef envelope.input),
    (.envelopeInputDigest, envelope.input.digest.toList),
    (.envelopeIdempotencyKey, encodeField envelope.idempotencyKey),
    (.envelopeMaxAttempts, Text.formatUnsigned envelope.attemptPolicy.maxAttempts),
    (.envelopeRetryBackoffMs, Text.formatUnsigned envelope.attemptPolicy.retryBackoffMs),
    (.envelopeAttemptTimeoutMs, encodeNumber envelope.attemptPolicy.attemptTimeoutMs),
    (.executionOwner, encodeOptionalField snapshot.executionOwner),
    (.resultDigest, (snapshot.resultDigest.getD "").toList),
    (.resultSizeBytes, encodeNumber snapshot.resultSizeBytes),
    (.replayEventId, encodeOptionalField (snapshot.replayDelivery.map (·.replayEventId))),
    (.replayDeliveryIndex, encodeNumber (snapshot.replayDelivery.map (·.deliveryIndex))),
    (.errorRetryable, (snapshot.errorRetryable.map encodeBool).getD []),
    (.retryReadyAtMs, encodeNumber snapshot.retryReadyAtMs)]

def lifecycleFields : List (TaskField × List Char) :=
  [(.cancelRequested, encodeBool snapshot.cancelRequested),
    (.cancelAccepted, encodeBool snapshot.cancelAccepted),
    (.cancelReason, encodeOptionalField snapshot.cancelReason),
    (.heartbeatAtMs, encodeNumber snapshot.heartbeatAtMs),
    (.deadlineAtMs, encodeNumber snapshot.deadlineAtMs),
    (.cancelToken, encodeOptionalField snapshot.cancelToken),
    (.interruptedReason, encodeOptionalField snapshot.interruptedReason),
    (.errorKind, encodeOptionalField snapshot.errorKind),
    (.errorMessage, encodeOptionalField snapshot.errorMessage)]

def joinStoredFields (parts : List (List Char)) : List Char := ['|'].intercalate parts

def logValue (entry : TaskStateLogSnapshot) : List Char :=
  joinStoredFields
    [Text.formatUnsigned entry.sequence, encodeField entry.level, encodeField entry.message]

def deadLetterValue (entry : TaskStateDeadLetterSnapshot) : List Char :=
  joinStoredFields
    [encodeField entry.eventId, encodeField entry.topic, encodeField entry.reasonKind,
      encodeField entry.reason, Text.formatUnsigned entry.replayCount]

def replayValue (entry : TaskStateReplaySnapshot) : List Char :=
  joinStoredFields
    [encodeField entry.eventId, Text.formatUnsigned entry.sequence, encodeField entry.topic]

def singleFields : List (TaskField × List Char) :=
  snapshot.headerFields ++
    (match snapshot.envelope with
      | some envelope => snapshot.envelopeFields envelope
      | none => []) ++
    snapshot.lifecycleFields

def storageFields : List (TaskField × List Char) :=
  snapshot.singleFields ++
    snapshot.logs.map (fun entry => (.log, logValue entry)) ++
    snapshot.deadLetters.map (fun entry => (.deadLetter, deadLetterValue entry)) ++
    snapshot.replayedEvents.map (fun entry => (.replay, replayValue entry))

def toStorage : String :=
  let lines := snapshot.storageFields.map fun (field, value) => field.line value
  String.ofList (['\n'].intercalate (lines ++ [[]]))

end TaskStateSnapshot

/-! ## Reading single values -/

def storedNumberError (message name : String) (value : List Char) : EvaError :=
  (EvaError.invalidArgument message)
    |>.withContext "field" name |>.withContext "value" (String.ofList value)

/-- The readers of fixed-width numbers differ in the width and the message. -/
def parseStored (bits : Nat) (message name : String) (value : List Char) :
    Except EvaError (Unsigned bits) :=
  orReject (storedNumberError message name value) (Text.parseUnsigned bits value)

def parseStoredUsize (name : String) (value : List Char) : Except EvaError Usize :=
  parseStored 64 "stored task field is not an unsigned integer" name value

def parseStoredU32 (name : String) (value : List Char) : Except EvaError U32 :=
  parseStored 32 "stored task field is not an unsigned 32-bit integer" name value

def parseStoredU64 (name : String) (value : List Char) : Except EvaError U64 :=
  parseStored 64 "stored task field is not an unsigned integer" name value

/-- The empty text stands for no number. -/
def parseOptionalStored (bits : Nat) (name : String) (value : List Char) :
    Except EvaError (Option (Unsigned bits)) :=
  if value = [] then .ok none
  else (parseStored bits "stored task field is not an unsigned integer" name value).map some

def parseOptionalStoredUsize (name : String) (value : List Char) :
    Except EvaError (Option Usize) := parseOptionalStored 64 name value

def parseOptionalStoredU64 (name : String) (value : List Char) :
    Except EvaError (Option U64) := parseOptionalStored 64 name value

def parseOptionalStoredU128 (name : String) (value : List Char) :
    Except EvaError (Option U128) := parseOptionalStored 128 name value

def parseOptionalStoredBool (name : String) (value : List Char) :
    Except EvaError (Option Bool) :=
  if value = [] then .ok none
  else if value = "true".toList then .ok (some true)
  else if value = "false".toList then .ok (some false)
  else .error ((EvaError.invalidArgument "task state contains an invalid optional boolean")
    |>.withContext "field" name |>.withContext "value" (String.ofList value))

def splitStoredFields (value : List Char) (expected : Nat) (field : String) :
    Except EvaError (List (List Char)) := do
  let parts := value.splitOn '|'
  rejectIf (parts.length ≠ expected)
    ((EvaError.invalidArgument "task state field has invalid arity")
      |>.withContext "field" field
      |>.withContext "expected" (toString expected)
      |>.withContext "actual" (toString parts.length))
  pure parts

def decodeStoredHex (value : List Char) (field : String) : Except EvaError (List UInt8) :=
  orReject ((EvaError.invalidArgument
      "task state binary field is not canonical lowercase hex") |>.withContext "field" field)
    (Text.decodeHex value)

def requiredStoredField (value : Option α) (field : TaskField) : Except EvaError α :=
  orReject ((EvaError.invalidArgument "task state is missing an envelope scalar field")
    |>.withContext "field" field.name) value

/-! ## Reading a record -/

/-- What the reader has gathered so far. -/
structure TaskStateDraft where
  snapshot : TaskStateSnapshot
  format : Option (List Char)
  envelopeKind : Option String
  envelopeAgentId : Option String
  envelopeInputKind : Option (List Char)
  envelopeInlineInputHex : Option (List Char)
  envelopeArtifactRef : Option String
  envelopeInputDigest : Option (List Char)
  envelopeIdempotencyKey : Option String
  envelopeMaxAttempts : Option U32
  envelopeRetryBackoffMs : Option U64
  envelopeAttemptTimeoutMs : Option (Option U64)
  replayEventId : Option (Option String)
  replayDeliveryIndex : Option (Option Usize)
  seenScalars : List TaskField

def TaskStateSnapshot.unread : TaskStateSnapshot where
  recordVersion := 0
  ownerGeneration := 0
  taskId := ""
  envelope := none
  replayDelivery := none
  status := .ofStr ""
  attempts := 0
  executionOwner := none
  retryMaxAttempts := 1
  cancelRequested := false
  cancelAccepted := false
  cancelReason := none
  heartbeatAtMs := none
  deadlineAtMs := none
  cancelToken := none
  resultDigest := none
  resultSizeBytes := none
  interruptedReason := none
  errorKind := none
  errorMessage := none
  errorRetryable := none
  retryReadyAtMs := none
  logs := []
  deadLetters := []
  replayedEvents := []

namespace TaskStateDraft

def empty : TaskStateDraft where
  snapshot := .unread
  format := none
  envelopeKind := none
  envelopeAgentId := none
  envelopeInputKind := none
  envelopeInlineInputHex := none
  envelopeArtifactRef := none
  envelopeInputDigest := none
  envelopeIdempotencyKey := none
  envelopeMaxAttempts := none
  envelopeRetryBackoffMs := none
  envelopeAttemptTimeoutMs := none
  replayEventId := none
  replayDeliveryIndex := none
  seenScalars := []

variable (draft : TaskStateDraft)

def setLog (value : List Char) : Except EvaError TaskStateDraft := do
  match ← splitStoredFields value 3 "log" with
  | [sequence, level, message] =>
      let sequence ← parseStoredU64 "log.sequence" sequence
      let entry : TaskStateLogSnapshot :=
        { sequence, level := decodeField level, message := decodeField message }
      pure { draft with
        snapshot := { draft.snapshot with logs := draft.snapshot.logs ++ [entry] } }
  | _ => pure draft

def setDeadLetter (value : List Char) : Except EvaError TaskStateDraft := do
  match ← splitStoredFields value 5 "dead_letter" with
  | [eventId, topic, reasonKind, reason, replayCount] =>
      let replayCount ← parseStoredUsize "dead_letter.replay_count" replayCount
      let entry : TaskStateDeadLetterSnapshot :=
        { eventId := decodeField eventId, topic := decodeField topic
          reasonKind := decodeField reasonKind, reason := decodeField reason, replayCount }
      pure { draft with
        snapshot := { draft.snapshot with deadLetters := draft.snapshot.deadLetters ++ [entry] } }
  | _ => pure draft

def setReplay (value : List Char) : Except EvaError TaskStateDraft := do
  match ← splitStoredFields value 3 "replay" with
  | [eventId, sequence, topic] =>
      let sequence ← parseStoredU64 "replay.sequence" sequence
      let entry : TaskStateReplaySnapshot :=
        { eventId := decodeField eventId, sequence, topic := decodeField topic }
      pure { draft with
        snapshot :=
          { draft.snapshot with replayedEvents := draft.snapshot.replayedEvents ++ [entry] } }
  | _ => pure draft

def setField (field : TaskField) (value : List Char) : Except EvaError TaskStateDraft :=
  let snapshot := draft.snapshot
  match field with
  | .format => pure { draft with format := some value }
  | .recordVersion => do
      let recordVersion ← parseStoredU64 "record_version" value
      pure { draft with snapshot := { snapshot with recordVersion } }
  | .ownerGeneration => do
      let ownerGeneration ← parseStoredU64 "owner_generation" value
      pure { draft with snapshot := { snapshot with ownerGeneration } }
  | .taskId => pure { draft with snapshot := { snapshot with taskId := decodeField value } }
  | .status =>
      pure { draft with snapshot := { snapshot with status := .ofStr (decodeField value) } }
  | .attempts => do
      let attempts ← parseStoredUsize "attempts" value
      pure { draft with snapshot := { snapshot with attempts } }
  | .executionOwner =>
      pure { draft with
        snapshot := { snapshot with executionOwner := decodeOptionalField value } }
  | .retryMaxAttempts => do
      let retryMaxAttempts ← parseStoredUsize "retry_max_attempts" value
      pure { draft with snapshot := { snapshot with retryMaxAttempts } }
  | .envelopeKind => pure { draft with envelopeKind := some (decodeField value) }
  | .envelopeAgentId => pure { draft with envelopeAgentId := some (decodeField value) }
  | .envelopeInputKind => pure { draft with envelopeInputKind := some value }
  | .envelopeInlineInputHex => pure { draft with envelopeInlineInputHex := some value }
  | .envelopeArtifactRef => pure { draft with envelopeArtifactRef := some (decodeField value) }
  | .envelopeInputDigest => pure { draft with envelopeInputDigest := some value }
  | .envelopeIdempotencyKey =>
      pure { draft with envelopeIdempotencyKey := some (decodeField value) }
  | .envelopeMaxAttempts => do
      let maxAttempts ← parseStoredU32 "envelope_max_attempts" value
      pure { draft with envelopeMaxAttempts := some maxAttempts }
  | .envelopeRetryBackoffMs => do
      let retryBackoffMs ← parseStoredU64 "envelope_retry_backoff_ms" value
      pure { draft with envelopeRetryBackoffMs := some retryBackoffMs }
  | .envelopeAttemptTimeoutMs => do
      let attemptTimeoutMs ← parseOptionalStoredU64 "envelope_attempt_timeout_ms" value
      pure { draft with envelopeAttemptTimeoutMs := some attemptTimeoutMs }
  | .replayEventId => pure { draft with replayEventId := some (decodeOptionalField value) }
  | .replayDeliveryIndex => do
      let deliveryIndex ← parseOptionalStoredUsize "replay_delivery_index" value
      pure { draft with replayDeliveryIndex := some deliveryIndex }
  | .errorRetryable => do
      let errorRetryable ← parseOptionalStoredBool "error_retryable" value
      pure { draft with snapshot := { snapshot with errorRetryable } }
  | .retryReadyAtMs => do
      let retryReadyAtMs ← parseOptionalStoredU128 "retry_ready_at_ms" value
      pure { draft with snapshot := { snapshot with retryReadyAtMs } }
  | .cancelRequested =>
      pure { draft with
        snapshot := { snapshot with cancelRequested := value = "true".toList } }
  | .cancelAccepted =>
      pure { draft with snapshot := { snapshot with cancelAccepted := value = "true".toList } }
  | .cancelReason =>
      pure { draft with snapshot := { snapshot with cancelReason := decodeOptionalField value } }
  | .heartbeatAtMs => do
      let heartbeatAtMs ← parseOptionalStoredU128 "heartbeat_at_ms" value
      pure { draft with snapshot := { snapshot with heartbeatAtMs } }
  | .deadlineAtMs => do
      let deadlineAtMs ← parseOptionalStoredU128 "deadline_at_ms" value
      pure { draft with snapshot := { snapshot with deadlineAtMs } }
  | .cancelToken =>
      pure { draft with snapshot := { snapshot with cancelToken := decodeOptionalField value } }
  | .resultDigest =>
      pure { draft with snapshot := { snapshot with resultDigest := decodeOptionalField value } }
  | .resultSizeBytes => do
      let resultSizeBytes ← parseOptionalStoredUsize "result_size_bytes" value
      pure { draft with snapshot := { snapshot with resultSizeBytes } }
  | .interruptedReason =>
      pure { draft with
        snapshot := { snapshot with interruptedReason := decodeOptionalField value } }
  | .errorKind =>
      pure { draft with snapshot := { snapshot with errorKind := decodeOptionalField value } }
  | .errorMessage =>
      pure { draft with snapshot := { snapshot with errorMessage := decodeOptionalField value } }
  | .log => draft.setLog value
  | .deadLetter => draft.setDeadLetter value
  | .replay => draft.setReplay value

/-- Remember a single-valued field, which may not have been seen before. -/
def see (line : List Char) : Except EvaError TaskStateDraft :=
  match (Text.splitOnce '=' line).bind fun (key, _) => TaskField.ofSingleName key with
  | none => pure draft
  | some field => do
      rejectIf (field ∈ draft.seenScalars)
        ((EvaError.invalidArgument "task state contains a duplicate scalar field")
          |>.withContext "field" field.name)
      pure { draft with seenScalars := field :: draft.seenScalars }

/-- Lines that match no field are ignored. -/
def readLine (line : List Char) : Except EvaError TaskStateDraft := do
  let draft ← draft.see line
  match TaskField.ofLine line with
  | some (field, value) => draft.setField field value
  | none => pure draft

def readLines (lines : List (List Char)) : Except EvaError TaskStateDraft :=
  lines.foldlM readLine draft

/-! ### Putting the record together -/

def executionFields : List TaskField := [.executionOwner, .resultDigest, .resultSizeBytes]

def v5Fields : List TaskField :=
  [.replayEventId, .replayDeliveryIndex, .errorRetryable, .retryReadyAtMs]

def hasEnvelopeFields : Bool :=
  draft.envelopeKind.isSome || draft.envelopeAgentId.isSome ||
    draft.envelopeInputKind.isSome || draft.envelopeInlineInputHex.isSome ||
    draft.envelopeArtifactRef.isSome || draft.envelopeInputDigest.isSome ||
    draft.envelopeIdempotencyKey.isSome || draft.envelopeMaxAttempts.isSome ||
    draft.envelopeRetryBackoffMs.isSome || draft.envelopeAttemptTimeoutMs.isSome

def hasExecutionFields : Bool := executionFields.any (· ∈ draft.seenScalars)

def hasV5Fields : Bool := v5Fields.any (· ∈ draft.seenScalars)

/-- A record that was never committed has no durable owner. -/
def isVersioned : Bool :=
  draft.snapshot.recordVersion ≠ 0 || draft.snapshot.ownerGeneration = 0

def requireSeen (fields : List TaskField) (message : String) : Except EvaError Unit :=
  fields.forM fun field =>
    rejectIf (field ∉ draft.seenScalars)
      ((EvaError.invalidArgument message) |>.withContext "field" field.name)

def readInput (inputKind inlineInputHex : List Char) (artifactRef : String)
    (digest : List Char) : Except EvaError TaskInputSnapshot :=
  if inputKind = "inline".toList ∧ artifactRef = "" then do
    let bytes ← decodeStoredHex inlineInputHex "envelope_inline_input_hex"
    pure (.inline bytes (String.ofList digest))
  else if inputKind = "artifact".toList ∧ inlineInputHex = [] then
    pure (.artifact artifactRef (String.ofList digest))
  else if inputKind = "inline".toList ∨ inputKind = "artifact".toList then
    .error ((EvaError.invalidArgument
        "task envelope input discriminator has conflicting fields")
      |>.withContext "input_kind" (String.ofList inputKind))
  else
    .error ((EvaError.invalidArgument "task envelope input discriminator is unsupported")
      |>.withContext "input_kind" (String.ofList inputKind))

def readEnvelope : Except EvaError TaskEnvelopeSnapshot := do
  let kind ← requiredStoredField draft.envelopeKind .envelopeKind
  let agentId ← requiredStoredField draft.envelopeAgentId .envelopeAgentId
  let inputKind ← requiredStoredField draft.envelopeInputKind .envelopeInputKind
  let inlineInputHex ←
    requiredStoredField draft.envelopeInlineInputHex .envelopeInlineInputHex
  let artifactRef ← requiredStoredField draft.envelopeArtifactRef .envelopeArtifactRef
  let digest ← requiredStoredField draft.envelopeInputDigest .envelopeInputDigest
  let idempotencyKey ←
    requiredStoredField draft.envelopeIdempotencyKey .envelopeIdempotencyKey
  let maxAttempts ← requiredStoredField draft.envelopeMaxAttempts .envelopeMaxAttempts
  let retryBackoffMs ←
    requiredStoredField draft.envelopeRetryBackoffMs .envelopeRetryBackoffMs
  let attemptTimeoutMs ←
    requiredStoredField draft.envelopeAttemptTimeoutMs .envelopeAttemptTimeoutMs
  let input ← readInput inputKind inlineInputHex artifactRef digest
  let attemptPolicy ←
    TaskAttemptPolicySnapshot.new maxAttempts retryBackoffMs attemptTimeoutMs
  TaskEnvelopeSnapshot.new kind agentId input idempotencyKey attemptPolicy

def readReplayDelivery : Except EvaError (Option TaskReplayDeliverySnapshot) := do
  let replayEventId ← orReject
    (.invalidArgument "v5 task state is missing replay_event_id") draft.replayEventId
  let replayDeliveryIndex ← orReject
    (.invalidArgument "v5 task state is missing replay_delivery_index")
    draft.replayDeliveryIndex
  match replayEventId, replayDeliveryIndex with
  | none, none => pure none
  | some eventId, some deliveryIndex => do
      let delivery ← TaskReplayDeliverySnapshot.new eventId deliveryIndex
      pure (some delivery)
  | _, _ =>
      .error (.invalidArgument "replay delivery identity fields must appear together")

/-- Formats three to five, told apart by `version`. -/
def readEnvelopeFormat (version : Nat) : Except EvaError TaskStateSnapshot := do
  rejectIf (version = 3 ∧ (draft.hasExecutionFields ∨ draft.hasV5Fields))
    (.invalidArgument "v3 task state cannot contain later execution fields")
  rejectIf (version = 4 ∧ draft.hasV5Fields)
    (.invalidArgument "v4 task state cannot contain v5 replay or retry fields")
  if 4 ≤ version then
    draft.requireSeen executionFields "task state is missing an execution scalar field"
  if version = 5 then
    draft.requireSeen v5Fields "v5 task state is missing a replay or retry scalar field"
  let envelope ← draft.readEnvelope
  let replayDelivery ←
    if version = 5 then draft.readReplayDelivery else pure draft.snapshot.replayDelivery
  pure { draft.snapshot with envelope := some envelope, replayDelivery }

def readFormat : Except EvaError TaskStateSnapshot :=
  let unowned : EvaError :=
    .invalidArgument "uncommitted task state cannot have a durable owner generation"
  match draft.format with
  | none => do
      rejectIf (¬(draft.snapshot.recordVersion = 0 ∧ draft.snapshot.ownerGeneration = 0 ∧
          ¬draft.hasEnvelopeFields ∧ ¬draft.hasExecutionFields ∧ ¬draft.hasV5Fields))
        (.invalidArgument "legacy task state cannot contain version metadata")
      pure draft.snapshot
  | some format =>
      if format = taskStateFormatV2.toList then do
        rejectIf (¬draft.isVersioned) unowned
        rejectIf (draft.hasEnvelopeFields ∨ draft.hasExecutionFields ∨ draft.hasV5Fields)
          (.invalidArgument "v2 task state cannot contain envelope or execution fields")
        pure draft.snapshot
      else if format = taskStateFormatV3.toList then do
        rejectIf (¬draft.isVersioned) unowned
        draft.readEnvelopeFormat 3
      else if format = taskStateFormatV4.toList then do
        rejectIf (¬draft.isVersioned) unowned
        draft.readEnvelopeFormat 4
      else if format = taskStateFormatV5.toList then do
        rejectIf (¬draft.isVersioned) unowned
        draft.readEnvelopeFormat 5
      else
        .error ((EvaError.invalidArgument "task state format is unsupported")
          |>.withContext "format" (String.ofList format))

def finish : Except EvaError TaskStateSnapshot := do
  rejectIf (draft.snapshot.taskId = "" ∨ draft.snapshot.status.asStr = "")
    (.invalidArgument "task state file is incomplete")
  let snapshot ← draft.readFormat
  snapshot.validate
  pure snapshot

end TaskStateDraft

def TaskStateSnapshot.fromStorage (data : String) : Except EvaError TaskStateSnapshot := do
  let lines := (Text.lines data.toList).filter fun line => !Text.isBlank line
  let draft ← TaskStateDraft.empty.readLines lines
  draft.finish

end Eva.Storage
