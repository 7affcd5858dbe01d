import Eva.Storage.TaskState.Validation

/-! # Effect records

One record for each idempotency key of a non-idempotent operation. It is
prepared before the operation may start and committed with the identity of its
result, under the fence of the attempt that prepared it.
-/

namespace Eva.Storage

/-! ## Digests -/

/-- A text behind its length as eight big-endian bytes. -/
def lengthPrefixed (text : String) : List UInt8 :=
  let length := UInt64.ofNat text.utf8ByteSize
  (List.range 8).map (fun index => (length >>> UInt64.ofNat (8 * (7 - index))).toUInt8) ++
    text.toUTF8.data.toList

/-- The digits of the digest of some fields within a domain. -/
def canonicalHex (domain : String) (fields : List String) : List Char :=
  sha256Hex (lengthPrefixed domain ++ fields.flatMap lengthPrefixed)

def canonicalDigest (domain : String) (fields : List String) : String :=
  "sha256:" ++ String.ofList (canonicalHex domain fields)

def validateSha256Digest (field value : String) : Except EvaError Unit :=
  let error := (EvaError.conflict "effect digest is not canonical SHA-256")
    |>.withContext "field" field
  match Text.stripPrefix "sha256:".toList value.toList with
  | none => .error error
  | some hex => rejectIf (¬isSha256Hex hex) error

theorem isSha256Hex_canonicalHex (domain : String) (fields : List String) :
    isSha256Hex (canonicalHex domain fields) := by
  have lower := sha256Hex_isLowerHex (lengthPrefixed domain ++ fields.flatMap lengthPrefixed)
  simp only [isSha256Hex, Bool.and_eq_true, beq_iff_eq, List.all_eq_true]
  exact ⟨(Text.utf8ByteSize_of_isLowerHex lower).trans (sha256Hex_length _), lower⟩

theorem validateSha256Digest_canonicalDigest (field domain : String) (fields : List String) :
    validateSha256Digest field (canonicalDigest domain fields) = .ok () := by
  simp only [validateSha256Digest, canonicalDigest, String.toList_append, String.toList_ofList,
    Text.stripPrefix_append, rejectIf_eq_ok_iff, not_not]
  exact isSha256Hex_canonicalHex domain fields

theorem validateSha256Digest_eq_ok (valid : validateSha256Digest field value = .ok ()) :
    ∃ hex, value = "sha256:" ++ String.ofList hex ∧ isSha256Hex hex := by
  unfold validateSha256Digest at valid
  split at valid
  next => cases valid
  next hex stripped =>
      refine ⟨hex, ?_, by simpa using valid⟩
      rw [← String.toList_inj, Text.stripPrefix_eq_some_iff.mp stripped]
      simp

/-! ## Operations -/

/-- The business operation that an idempotency key stands for. -/
structure EffectOperationIdentity where
  idempotencyKey : String
  taskKind : String
  agentId : String
  effectScope : String
  inputDigest : String
  keyed : RequestId.parse idempotencyKey = .ok ()
  kinded : validateTaskKind taskKind = .ok ()
  owned : AgentId.parse agentId = .ok ()
  slotted : RequestId.parse effectScope = .ok ()
  digested : validateSha256Digest "input_digest" inputDigest = .ok ()
deriving DecidableEq

namespace EffectOperationIdentity

def new (idempotencyKey taskKind agentId effectScope inputDigest : String) :
    Except EvaError EffectOperationIdentity :=
  match keyed : RequestId.parse idempotencyKey with
  | .error error =>
      .error ((EvaError.invalidArgument "effect idempotency key is invalid")
        |>.withContext "cause" error.message)
  | .ok () =>
  match kinded : validateTaskKind taskKind with
  | .error error => .error error
  | .ok () =>
  match owned : AgentId.parse agentId with
  | .error error => .error error
  | .ok () =>
  match slotted : RequestId.parse effectScope with
  | .error error =>
      .error ((EvaError.invalidArgument "effect scope is invalid")
        |>.withContext "cause" error.message)
  | .ok () =>
  match digested : validateSha256Digest "input_digest" inputDigest with
  | .error error => .error error
  | .ok () =>
      .ok { idempotencyKey, taskKind, agentId, effectScope, inputDigest, keyed, kinded, owned,
            slotted, digested }

/-- The digest that the source keeps next to the fields it is computed from. -/
def operationDigest (operation : EffectOperationIdentity) : String :=
  canonicalDigest "eva.effect-operation.v1"
    [operation.idempotencyKey, operation.taskKind, operation.agentId, operation.effectScope,
      operation.inputDigest]

@[simp] theorem new_self (operation : EffectOperationIdentity) :
    new operation.idempotencyKey operation.taskKind operation.agentId operation.effectScope
      operation.inputDigest = .ok operation := by
  obtain ⟨key, kind, agent, scope, digest, keyed, kinded, owned, slotted, digested⟩ := operation
  unfold new
  repeat' split
  all_goals simp_all

theorem new_eq_ok {idempotencyKey taskKind agentId effectScope inputDigest : String}
    (made : new idempotencyKey taskKind agentId effectScope inputDigest = .ok operation) :
    operation.idempotencyKey = idempotencyKey ∧ operation.taskKind = taskKind ∧
      operation.agentId = agentId ∧ operation.effectScope = effectScope ∧
      operation.inputDigest = inputDigest := by
  unfold new at made
  repeat' split at made
  all_goals cases made
  exact ⟨rfl, rfl, rfl, rfl, rfl⟩

end EffectOperationIdentity

/-! ## Intents -/

/-- The attempt that prepares and commits an operation, with its fence as a digest. -/
structure EffectLedgerIntent where
  operation : EffectOperationIdentity
  taskId : String
  ownerGeneration : WriterGeneration
  attempt : Usize
  fenceDigest : String
  preparedAtMs : U128
  identified : RequestId.parse taskId = .ok ()
  generated : ownerGeneration ≠ 0
  attempted : attempt ≠ 0
  digested : validateSha256Digest "prepared_fence_digest" fenceDigest = .ok ()
deriving DecidableEq

def effectFenceDigest (taskId : String) (ownerGeneration : WriterGeneration)
    (executionOwner : String) (attempt : Usize) (cancelToken : String) : String :=
  canonicalDigest "eva.effect-attempt-fence.v1"
    [taskId, ownerGeneration.text, executionOwner, attempt.text, cancelToken]

/-! ## Records -/

inductive EffectLedgerState where
  | prepared
  | committed
deriving DecidableEq

namespace EffectLedgerState

def asStr : EffectLedgerState → String
  | prepared => "prepared"
  | committed => "committed"

def fromStorage (value : String) : Except EvaError EffectLedgerState :=
  if value = "prepared" then .ok prepared
  else if value = "committed" then .ok committed
  else .error ((EvaError.conflict "effect ledger state is invalid").withContext "state" value)

@[simp] theorem fromStorage_asStr (state : EffectLedgerState) :
    fromStorage state.asStr = .ok state := by
  cases state <;> rfl

end EffectLedgerState

structure EffectLedgerRecord where
  operation : EffectOperationIdentity
  state : EffectLedgerState
  preparedTaskId : String
  preparedOwnerGeneration : WriterGeneration
  preparedAttempt : Usize
  preparedFenceDigest : String
  preparedAtMs : U128
  committedAtMs : Option U128
  resultDigest : Option String
  resultSizeBytes : Option Usize
deriving DecidableEq

namespace EffectLedgerRecord

def prepared (intent : EffectLedgerIntent) : EffectLedgerRecord where
  operation := intent.operation
  state := .prepared
  preparedTaskId := intent.taskId
  preparedOwnerGeneration := intent.ownerGeneration
  preparedAttempt := intent.attempt
  preparedFenceDigest := intent.fenceDigest
  preparedAtMs := intent.preparedAtMs
  committedAtMs := none
  resultDigest := none
  resultSizeBytes := none

def validateResult (record : EffectLedgerRecord) : Except EvaError Unit :=
  match record.state with
  | .prepared =>
      rejectIf (record.committedAtMs ≠ none ∨ record.resultDigest ≠ none ∨
          record.resultSizeBytes ≠ none)
        (.conflict "prepared effect record contains committed result fields")
  | .committed => do
      let committedAtMs ← orReject
        (.conflict "committed effect record is missing commit time") record.committedAtMs
      rejectIf (committedAtMs < record.preparedAtMs)
        (.conflict "effect commit time precedes its prepare boundary")
      let resultDigest ← orReject
        (.conflict "committed effect record is missing result digest") record.resultDigest
      validateSha256Digest "result_digest" resultDigest
      rejectIf (record.resultSizeBytes = none)
        (.conflict "committed effect record is missing result size")

def validate (record : EffectLedgerRecord) : Except EvaError Unit := do
  let canonical ← EffectOperationIdentity.new record.operation.idempotencyKey
    record.operation.taskKind record.operation.agentId record.operation.effectScope
    record.operation.inputDigest
  rejectIf (canonical.operationDigest ≠ record.operation.operationDigest)
    (.conflict "effect operation digest does not match its immutable identity")
  RequestId.parse record.preparedTaskId
  rejectIf (record.preparedOwnerGeneration = 0 ∨ record.preparedAttempt = 0)
    (.conflict "effect prepared task fence is incomplete")
  validateSha256Digest "prepared_fence_digest" record.preparedFenceDigest
  record.validateResult

inductive ResultConsistent (record : EffectLedgerRecord) : Prop where
  | prepared (state : record.state = .prepared) (untimed : record.committedAtMs = none)
      (undigested : record.resultDigest = none) (unsized : record.resultSizeBytes = none)
  | committed {committedAtMs resultDigest resultSizeBytes} (state : record.state = .committed)
      (timed : record.committedAtMs = some committedAtMs)
      (ordered : record.preparedAtMs ≤ committedAtMs)
      (digested : record.resultDigest = some resultDigest)
      (canonical : validateSha256Digest "result_digest" resultDigest = .ok ())
      (sized : record.resultSizeBytes = some resultSizeBytes)

structure Valid (record : EffectLedgerRecord) : Prop where
  identified : IsIdentifier record.preparedTaskId
  generated : record.preparedOwnerGeneration ≠ 0
  attempted : record.preparedAttempt ≠ 0
  fenced : validateSha256Digest "prepared_fence_digest" record.preparedFenceDigest = .ok ()
  result : record.ResultConsistent

variable {record : EffectLedgerRecord}

theorem validateResult_eq_ok_iff :
    record.validateResult = .ok () ↔ record.ResultConsistent := by
  unfold validateResult
  constructor
  · intro valid
    split at valid
    next state =>
        rw [rejectIf_eq_ok_iff, not_or, not_or, not_not, not_not, not_not] at valid
        exact .prepared state valid.1 valid.2.1 valid.2.2
    next state =>
        simp only [bind_eq_ok_iff, exists_unit_iff, orReject_eq_ok_iff, rejectIf_eq_ok_iff]
          at valid
        obtain ⟨committedAtMs, timed, ordered, resultDigest, digested, canonical, sized⟩ := valid
        obtain ⟨resultSizeBytes, sized⟩ := Option.ne_none_iff_exists'.mp sized
        exact .committed state timed (Nat.le_of_not_lt ordered) digested canonical sized
  · rintro (⟨state, untimed, undigested, unsized⟩ |
      ⟨state, timed, ordered, digested, canonical, sized⟩)
    · simp [state, untimed, undigested, unsized]
    · simp only [state, timed, digested, sized, orReject, ok_bind, canonical, seq_eq_ok_iff,
        rejectIf_eq_ok_iff, reduceCtorEq, not_false_eq_true, and_true]
      exact Nat.not_lt_of_le ordered

theorem validate_eq_ok_iff : record.validate = .ok () ↔ record.Valid := by
  simp only [validate, EffectOperationIdentity.new_self, ok_bind, seq_eq_ok_iff,
    rejectIf_eq_ok_iff, not_not, not_or, true_and, validateResult_eq_ok_iff, RequestId.parse,
    validateId_eq_ok_iff]
  constructor
  · rintro ⟨identified, ⟨generated, attempted⟩, fenced, result⟩
    exact ⟨identified, generated, attempted, fenced, result⟩
  · rintro ⟨identified, generated, attempted, fenced, result⟩
    exact ⟨identified, ⟨generated, attempted⟩, fenced, result⟩

theorem prepared_valid (intent : EffectLedgerIntent) : (prepared intent).Valid where
  identified := validateId_eq_ok_iff.mp intent.identified
  generated := intent.generated
  attempted := intent.attempted
  fenced := intent.digested
  result := .prepared rfl rfl rfl rfl

end EffectLedgerRecord

/-- What a prepare attempt has found or made. -/
inductive EffectPrepareOutcome where
  | created (record : EffectLedgerRecord)
  | prepared (record : EffectLedgerRecord)
  | committed (record : EffectLedgerRecord)
deriving DecidableEq

end Eva.Storage
