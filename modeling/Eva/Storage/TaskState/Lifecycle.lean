import Eva.Storage.TaskState.Validation

/-! # Lifecycle of a task record

The changes that the store and its callers make to a record in memory. A change
that can fail returns the changed record or the error.
-/

namespace Eva.Storage

def committedEffectRecoveryLogPrefix : String :=
  "task recovered from committed effect: operation_digest="

def unknownEffectRecoveryReasonPrefix : String :=
  "non-idempotent effect outcome is unknown; operator reconciliation required; operation_digest="

namespace TaskStateSnapshot

variable (snapshot : TaskStateSnapshot)

def isTerminal : Bool := snapshot.status.isTerminal

/-- Restart recovery has left an unknown result to an operator. -/
def requiresOperatorReconciliation : Bool :=
  snapshot.status = .interrupted &&
    snapshot.interruptedReason.any fun reason =>
      (Text.stripPrefix unknownEffectRecoveryReasonPrefix.toList reason.toList).isSome

def validated : Except EvaError TaskStateSnapshot := do
  snapshot.validate
  pure snapshot

def pushLog (level message : String) : TaskStateSnapshot :=
  { snapshot with
    logs := snapshot.logs ++
      [{ sequence := Unsigned.truncate 64 (snapshot.logs.length + 1), level, message }] }

/-- Several changes drop the classification of an earlier failure. -/
def clearError : TaskStateSnapshot :=
  { snapshot with
    errorKind := none
    errorMessage := none
    errorRetryable := none
    retryReadyAtMs := none }

def clearResult : TaskStateSnapshot :=
  { snapshot with resultDigest := none, resultSizeBytes := none }

def taskConflict (message : String) : EvaError :=
  (EvaError.conflict message) |>.withContext "task_id" snapshot.taskId

def statusConflict (message : String) : EvaError :=
  (snapshot.taskConflict message) |>.withContext "status" snapshot.status.asStr

/-! ## Marks -/

def markRunning (heartbeatAtMs : U128) (deadlineAtMs : Option U128) (cancelToken : String) :
    TaskStateSnapshot :=
  { snapshot with
    status := .running
    heartbeatAtMs := some heartbeatAtMs
    deadlineAtMs
    cancelToken := some cancelToken }.pushLog "info" "task marked running"

/-- The time of a heartbeat never goes back. -/
def touchHeartbeat (heartbeatAtMs : U128) : TaskStateSnapshot :=
  { snapshot with
    heartbeatAtMs := some (match snapshot.heartbeatAtMs with
      | some previous => if heartbeatAtMs < previous then previous else heartbeatAtMs
      | none => heartbeatAtMs) }

def requestCancel (reason : String) : TaskStateSnapshot :=
  let requested := { snapshot with cancelRequested := true, cancelReason := some reason }
  if snapshot.isTerminal then
    { requested with cancelAccepted := false }.pushLog "warning"
      "cancel requested after task reached a terminal state"
  else
    { requested with cancelAccepted := true, status := .cancelling }.pushLog "warning"
      ("cancel requested: " ++ reason)

def markCancelled : TaskStateSnapshot :=
  { snapshot.clearResult.clearError with
    status := .cancelled
    cancelRequested := true
    cancelAccepted := true }.pushLog "warning" "task marked cancelled"

def markTimedOut (nowMs : U128) (retryable : Bool) : TaskStateSnapshot :=
  { snapshot.clearResult with
    status := .timedOut
    heartbeatAtMs := some nowMs
    errorKind := some "timeout"
    errorMessage := some "task deadline exceeded"
    errorRetryable := some retryable
    retryReadyAtMs := none }.pushLog "error" ("task timed out at " ++ nowMs.text)

def markFailed (attempts : Usize) (errorKind errorMessage : String) (retryable : Bool) :
    TaskStateSnapshot :=
  { snapshot.clearResult with
    status := .failed
    attempts
    errorKind := some errorKind
    errorMessage := some errorMessage
    errorRetryable := some retryable
    retryReadyAtMs := none }.pushLog "error" "task failed"

def markInterrupted (reason : String) : TaskStateSnapshot :=
  { snapshot.clearResult with
    status := .interrupted
    interruptedReason := some reason }.pushLog "warning" ("task interrupted: " ++ reason)

def markRecovering (reason : String) : TaskStateSnapshot :=
  { snapshot.clearResult with
    status := .recovering
    interruptedReason := some reason }.pushLog "warning" ("task recovering: " ++ reason)

/-! ## Attempts -/

def claimed (executionOwner : String) (attempt : Usize) (heartbeatAtMs : U128)
    (deadlineAtMs : Option U128) (cancelToken : String) : TaskStateSnapshot :=
  ({ snapshot.clearResult.clearError with
      attempts := attempt
      executionOwner := some executionOwner
      interruptedReason := none }.markRunning heartbeatAtMs deadlineAtMs cancelToken).pushLog
    "info" ("task attempt " ++ attempt.text ++ " claimed by worker")

def claimForExecution (executionOwner : String) (heartbeatAtMs : U128)
    (deadlineAtMs : Option U128) (cancelToken : String) :
    Except EvaError TaskStateSnapshot := do
  rejectIf (snapshot.status ≠ .queued)
    (snapshot.statusConflict "only a queued task can be claimed")
  rejectIf (snapshot.envelope = none)
    (snapshot.taskConflict "task claim requires a recoverable task envelope")
  rejectIf snapshot.cancelRequested
    (snapshot.taskConflict "cancelled queued task cannot be claimed")
  rejectIf (snapshot.deadLetters ≠ [])
    (snapshot.taskConflict "task with dead letters requires the retry owner before execution")
  rejectIf (snapshot.executionOwner ≠ none ∨ snapshot.cancelToken ≠ none)
    (snapshot.taskConflict "queued task already carries an execution claim")
  validateExecutionOwner executionOwner
  validateCancelToken cancelToken
  let attempt ← orReject (.conflict "task attempt counter is exhausted")
    (snapshot.attempts.checkedAdd 1)
  rejectIf (snapshot.retryMaxAttempts < attempt)
    ((snapshot.taskConflict "task retry policy has no remaining attempt")
      |>.withContext "attempt" attempt.text
      |>.withContext "max_attempts" snapshot.retryMaxAttempts.text)
  (snapshot.claimed executionOwner attempt heartbeatAtMs deadlineAtMs cancelToken).validated

def verifyExecutionClaim (executionOwner : String) (attempt : Usize) (cancelToken : String) :
    Except EvaError Unit :=
  rejectIf (¬(snapshot.executionOwner = some executionOwner ∧ snapshot.attempts = attempt ∧
      snapshot.cancelToken = some cancelToken))
    ((snapshot.taskConflict "task execution claim no longer matches the worker")
      |>.withContext "attempt" attempt.text)

def withResult (resultDigest : String) (resultSizeBytes : Usize) : TaskStateSnapshot :=
  { snapshot.clearError with
    status := .completed
    resultDigest := some resultDigest
    resultSizeBytes := some resultSizeBytes }

def completeExecution (executionOwner : String) (attempt : Usize) (cancelToken : String)
    (resultDigest : String) (resultSizeBytes : Usize) : Except EvaError TaskStateSnapshot := do
  snapshot.verifyExecutionClaim executionOwner attempt cancelToken
  rejectIf (snapshot.status ≠ .running) (snapshot.statusConflict "task is no longer running")
  validateCanonicalSha256 resultDigest "task result digest"
  ((snapshot.withResult resultDigest resultSizeBytes).pushLog "info" "task completed").validated

/-- A cancellation that comes after the effect was committed is no longer accepted. -/
def supersedeCancellation : TaskStateSnapshot :=
  if snapshot.status = .cancelling then
    { snapshot with cancelAccepted := false }.pushLog "warning"
      "task cancellation was superseded by a committed effect"
  else snapshot

def completeCommittedEffectExecution (executionOwner : String) (attempt : Usize)
    (cancelToken : String) (resultDigest : String) (resultSizeBytes : Usize) :
    Except EvaError TaskStateSnapshot := do
  snapshot.verifyExecutionClaim executionOwner attempt cancelToken
  rejectIf (snapshot.status ≠ .running ∧ snapshot.status ≠ .cancelling)
    (snapshot.statusConflict "committed effect task is no longer active")
  validateCanonicalSha256 resultDigest "task result digest"
  ((snapshot.supersedeCancellation.withResult resultDigest resultSizeBytes).pushLog "info"
    "task completed from committed effect").validated

def failExecution (executionOwner : String) (attempt : Usize) (cancelToken : String)
    (errorKind errorMessage : String) (retryable : Bool) :
    Except EvaError TaskStateSnapshot := do
  snapshot.verifyExecutionClaim executionOwner attempt cancelToken
  rejectIf (snapshot.status ≠ .running) (snapshot.statusConflict "task is no longer running")
  (snapshot.clearResult.markFailed attempt errorKind errorMessage retryable).validated

def timeOutExecution (executionOwner : String) (attempt : Usize) (cancelToken : String)
    (nowMs : U128) (retryable : Bool) : Except EvaError TaskStateSnapshot := do
  snapshot.verifyExecutionClaim executionOwner attempt cancelToken
  rejectIf (snapshot.status ≠ .running) (snapshot.statusConflict "task is no longer running")
  (snapshot.clearResult.markTimedOut nowMs retryable).validated

def cancelExecution (executionOwner : String) (attempt : Usize) (cancelToken : String) :
    Except EvaError TaskStateSnapshot := do
  snapshot.verifyExecutionClaim executionOwner attempt cancelToken
  rejectIf (snapshot.status ≠ .cancelling)
    (snapshot.statusConflict "task is not awaiting cancellation")
  snapshot.clearResult.markCancelled.validated

/-! ## Recovery -/

/-- The record back in the queue, without a trace of its last attempt. -/
def abandonedQueued (log : String) : TaskStateSnapshot :=
  { snapshot.clearResult.clearError with
    status := .queued
    executionOwner := none
    cancelToken := none
    heartbeatAtMs := none
    deadlineAtMs := none
    interruptedReason := none }.pushLog "warning" log

/-- What both kinds of abandoned attempts need to be queued again. -/
def abandonedEligible : Bool :=
  (snapshot.status = .running || snapshot.status = .interrupted ||
      snapshot.status = .recovering) &&
    !snapshot.cancelRequested && !snapshot.cancelAccepted && snapshot.deadLetters = [] &&
    snapshot.attempts < snapshot.retryMaxAttempts && !snapshot.requiresOperatorReconciliation

def markAbandonedReplayDeliveryQueued : Except EvaError TaskStateSnapshot := do
  rejectIf (snapshot.replayDelivery = none ∨ ¬snapshot.abandonedEligible)
    (snapshot.statusConflict "task is not an abandoned replay delivery eligible for recovery")
  (snapshot.abandonedQueued ("abandoned replay delivery recovered from " ++
    snapshot.status.asStr ++ " after writer turnover")).validated

def markAbandonedTaskQueued : Except EvaError TaskStateSnapshot := do
  rejectIf (snapshot.replayDelivery ≠ none ∨ snapshot.envelope = none ∨
      ¬snapshot.abandonedEligible)
    (snapshot.statusConflict "task is not an abandoned task eligible for safe recovery")
  (snapshot.abandonedQueued ("abandoned task recovered from " ++ snapshot.status.asStr ++
    " for a safe retry")).validated

/-- Every known status but completed. -/
def isReconcilable : Bool :=
  match snapshot.status with
  | .completed | .other _ _ => false
  | _ => true

def operationConflict (message operationDigest : String) : EvaError :=
  (snapshot.taskConflict message) |>.withContext "operation_digest" operationDigest

def completedFromEffect (operationDigest resultDigest : String) (resultSizeBytes : Usize) :
    TaskStateSnapshot :=
  { snapshot.withResult resultDigest resultSizeBytes with
    cancelAccepted := false
    interruptedReason := none }.pushLog "info"
    (committedEffectRecoveryLogPrefix ++ operationDigest)

def recoverCommittedEffect (operationDigest resultDigest : String) (resultSizeBytes : Usize) :
    Except EvaError TaskStateSnapshot := do
  validateCanonicalSha256 operationDigest "effect operation digest"
  validateCanonicalSha256 resultDigest "task result digest"
  rejectIf (snapshot.envelope = none)
    (snapshot.taskConflict "committed effect recovery requires a task envelope")
  if snapshot.status = .completed then
    rejectIf (¬(snapshot.resultDigest = some resultDigest ∧
        snapshot.resultSizeBytes = some resultSizeBytes))
      (snapshot.operationConflict "committed effect conflicts with the existing task result"
        operationDigest)
    pure snapshot
  else
    rejectIf (¬snapshot.isReconcilable)
      (snapshot.statusConflict "task status cannot be reconciled from a committed effect")
    (snapshot.completedFromEffect operationDigest resultDigest resultSizeBytes).validated

/-- The record that an operator has to look at. -/
def blockedByEffect (operationDigest : String) : TaskStateSnapshot :=
  let reason := unknownEffectRecoveryReasonPrefix ++ operationDigest
  { snapshot.clearResult.clearError with
    status := .interrupted
    cancelAccepted := false
    interruptedReason := some reason }.pushLog "error" reason

def blockUnknownEffect (operationDigest : String) : Except EvaError TaskStateSnapshot := do
  validateCanonicalSha256 operationDigest "effect operation digest"
  let reason := unknownEffectRecoveryReasonPrefix ++ operationDigest
  if snapshot.status = .interrupted ∧ snapshot.interruptedReason = some reason then
    pure snapshot
  else
    rejectIf (snapshot.status = .completed)
      (snapshot.operationConflict "completed task cannot be blocked by a prepared effect"
        operationDigest)
    rejectIf (snapshot.envelope = none)
      (snapshot.taskConflict "prepared effect recovery requires a task envelope")
    rejectIf (¬snapshot.isReconcilable)
      (snapshot.statusConflict "task status cannot be blocked by a prepared effect")
    (snapshot.blockedByEffect operationDigest).validated

/-! ## What the changes return -/

variable {snapshot} {result : TaskStateSnapshot}

@[simp] theorem validated_eq_ok_iff :
    snapshot.validated = .ok result ↔ snapshot.Valid ∧ snapshot = result := by
  rw [validated, seq_eq_ok_iff, validate_eq_ok_iff, pure_eq_ok_iff]

/-- Guards that keep a queued record from being claimed. -/
structure Claimable (snapshot : TaskStateSnapshot) : Prop where
  isQueued : snapshot.status = .queued
  enveloped : snapshot.envelope ≠ none
  notCancelled : snapshot.cancelRequested = false
  noDeadLetters : snapshot.deadLetters = []
  unowned : snapshot.executionOwner = none
  untokened : snapshot.cancelToken = none
  remaining : snapshot.attempts < snapshot.retryMaxAttempts

theorem claimForExecution_eq_ok_iff {executionOwner cancelToken : String}
    {heartbeatAtMs : U128} {deadlineAtMs : Option U128} :
    snapshot.claimForExecution executionOwner heartbeatAtMs deadlineAtMs cancelToken =
        .ok result ↔
      snapshot.Claimable ∧
        isBoundedIdentity maxTaskExecutionOwnerBytes executionOwner ∧
        isBoundedIdentity maxTaskCancelTokenBytes cancelToken ∧
        ∃ attempt, snapshot.attempts.checkedAdd 1 = some attempt ∧
          result = snapshot.claimed executionOwner attempt heartbeatAtMs deadlineAtMs
            cancelToken ∧
          result.Valid := by
  have budget {attempt : Usize} (next : snapshot.attempts.checkedAdd 1 = some attempt) :
      ¬snapshot.retryMaxAttempts < attempt ↔ snapshot.attempts < snapshot.retryMaxAttempts := by
    have value := Unsigned.checkedAdd_eq_some_iff.mp next
    have one : (1 : Usize).value = 1 := rfl
    simp only [Unsigned.lt_iff]
    omega
  simp only [claimForExecution, validateExecutionOwner, validateCancelToken, bind_eq_ok_iff,
    exists_unit_iff, rejectIf_eq_ok_iff, orReject_eq_ok_iff, validated_eq_ok_iff, not_not, not_or]
  constructor
  · rintro ⟨isQueued, enveloped, notCancelled, noDeadLetters, ⟨unowned, untokened⟩, owner,
      token, attempt, next, within, valid, rfl⟩
    exact ⟨⟨isQueued, enveloped, Bool.eq_false_iff.mpr notCancelled, noDeadLetters, unowned,
      untokened, (budget next).mp within⟩, owner, token, attempt, next, rfl, valid⟩
  · rintro ⟨⟨isQueued, enveloped, notCancelled, noDeadLetters, unowned, untokened, remaining⟩,
      owner, token, attempt, next, rfl, valid⟩
    exact ⟨isQueued, enveloped, Bool.eq_false_iff.mp notCancelled, noDeadLetters,
      ⟨unowned, untokened⟩, owner, token, attempt, next, (budget next).mpr remaining, valid, rfl⟩

theorem verifyExecutionClaim_eq_ok_iff {executionOwner cancelToken : String} :
    snapshot.verifyExecutionClaim executionOwner attempt cancelToken = .ok () ↔
      snapshot.executionOwner = some executionOwner ∧ snapshot.attempts = attempt ∧
        snapshot.cancelToken = some cancelToken := by
  simp only [verifyExecutionClaim, rejectIf_eq_ok_iff, not_not]

/-! ## Recovery from effects -/

section Effects

variable (snapshot : TaskStateSnapshot)

def HasResult (resultDigest : String) (resultSizeBytes : Usize) : Prop :=
  snapshot.status = .completed ∧ snapshot.resultDigest = some resultDigest ∧
    snapshot.resultSizeBytes = some resultSizeBytes

def IsBlockedBy (operationDigest : String) : Prop :=
  snapshot.status = .interrupted ∧
    snapshot.interruptedReason = some (unknownEffectRecoveryReasonPrefix ++ operationDigest)

variable {snapshot} {operationDigest resultDigest : String} {resultSizeBytes : Usize}

theorem isReconcilable_iff :
    snapshot.isReconcilable ↔ snapshot.status.isKnown ∧ snapshot.status ≠ .completed := by
  unfold isReconcilable TaskStatus.isKnown
  cases snapshot.status <;> simp

theorem recoverCommittedEffect_eq_ok_iff :
    snapshot.recoverCommittedEffect operationDigest resultDigest resultSizeBytes = .ok result ↔
      validateCanonicalSha256 operationDigest "effect operation digest" = .ok () ∧
      validateCanonicalSha256 resultDigest "task result digest" = .ok () ∧
      snapshot.envelope ≠ none ∧
      ((snapshot.HasResult resultDigest resultSizeBytes ∧ result = snapshot) ∨
        (snapshot.isReconcilable ∧
          result = snapshot.completedFromEffect operationDigest resultDigest resultSizeBytes ∧
          result.Valid)) := by
  simp only [recoverCommittedEffect, seq_eq_ok_iff, rejectIf_eq_ok_iff]
  refine and_congr_right fun _ => and_congr_right fun _ => and_congr_right fun _ => ?_
  split
  next completed =>
      simp only [seq_eq_ok_iff, rejectIf_eq_ok_iff, not_not, pure_eq_ok_iff]
      constructor
      · rintro ⟨same, rfl⟩
        exact .inl ⟨⟨completed, same⟩, rfl⟩
      · rintro (⟨has, rfl⟩ | ⟨reconcilable, -⟩)
        · exact ⟨has.2, rfl⟩
        · exact absurd completed (isReconcilable_iff.mp reconcilable).2
  next unfinished =>
      simp only [seq_eq_ok_iff, rejectIf_eq_ok_iff, not_not, validated_eq_ok_iff]
      constructor
      · rintro ⟨reconcilable, valid, rfl⟩
        exact .inr ⟨reconcilable, rfl, valid⟩
      · rintro (⟨has, -⟩ | ⟨reconcilable, rfl, valid⟩)
        · exact absurd has.1 unfinished
        · exact ⟨reconcilable, valid, rfl⟩

theorem blockUnknownEffect_eq_ok_iff :
    snapshot.blockUnknownEffect operationDigest = .ok result ↔
      validateCanonicalSha256 operationDigest "effect operation digest" = .ok () ∧
      ((snapshot.IsBlockedBy operationDigest ∧ result = snapshot) ∨
        (¬snapshot.IsBlockedBy operationDigest ∧ snapshot.envelope ≠ none ∧
          snapshot.isReconcilable ∧ result = snapshot.blockedByEffect operationDigest ∧
          result.Valid)) := by
  simp only [blockUnknownEffect, seq_eq_ok_iff, IsBlockedBy]
  refine and_congr_right fun _ => ?_
  split
  next blocked =>
      rw [pure_eq_ok_iff]
      constructor
      · rintro rfl
        exact .inl ⟨blocked, rfl⟩
      · rintro (⟨-, rfl⟩ | ⟨unblocked, -⟩)
        · rfl
        · exact absurd blocked unblocked
  next unblocked =>
      simp only [seq_eq_ok_iff, rejectIf_eq_ok_iff, not_not, validated_eq_ok_iff]
      constructor
      · rintro ⟨-, enveloped, reconcilable, valid, rfl⟩
        exact .inr ⟨unblocked, enveloped, reconcilable, rfl, valid⟩
      · rintro (⟨blocked, -⟩ | ⟨-, enveloped, reconcilable, rfl, valid⟩)
        · exact absurd blocked unblocked
        · exact ⟨(isReconcilable_iff.mp reconcilable).2, enveloped, reconcilable, valid, rfl⟩

end Effects

end TaskStateSnapshot

end Eva.Storage
