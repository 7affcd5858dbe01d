import Eva.Storage.TaskState.Operations

/-! # What the calls propose

A call changes a task only by proposing a record to the store. This module says,
for every call, which records it can propose and from which record it computes
them.
-/

namespace Eva.Storage

variable {directory : TaskDirectory} {store : FileSystemTaskStateStore directory}
  {current candidate proposed : TaskStateSnapshot}

/-! ## Commands -/

def RetryDue (current : TaskStateSnapshot) (observedAtMs : U128) : Prop :=
  match current.retryReadyAtMs with
  | some readyAtMs => readyAtMs ≤ observedAtMs
  | none => ∃ envelope, current.envelope = some envelope ∧
      envelope.attemptPolicy.retryBackoffMs = 0

/-- The record was written under another generation than that of the store. -/
def TurnedOver (store : FileSystemTaskStateStore directory) (current : TaskStateSnapshot) :
    Prop :=
  ∃ writer, store.writer = some writer ∧ current.ownerGeneration ≠ writer.generation

/-- What a command can propose over the record it has read. -/
inductive CommandStep (store : FileSystemTaskStateStore directory)
    (current : TaskStateSnapshot) : TaskCommand → TaskStateSnapshot → Prop where
  | requeue {taskId observedAtMs} (log : String) (eligible : taskRetryIsEligible current)
      (due : RetryDue current observedAtMs) :
      CommandStep store current (.requeueRetryable taskId observedAtMs)
        (current.abandonedQueued log)
  | schedule {taskId observedAtMs envelope} (log : String)
      (eligible : taskRetryIsEligible current) (unscheduled : current.retryReadyAtMs = none)
      (enveloped : current.envelope = some envelope)
      (delayed : envelope.attemptPolicy.retryBackoffMs ≠ 0) :
      CommandStep store current (.requeueRetryable taskId observedAtMs)
        ({ current with
          retryReadyAtMs := some (observedAtMs.saturatingAdd
            (envelope.attemptPolicy.retryBackoffMs.widen (by decide))) }.pushLog "warning" log)
  | abandonedReplay {taskId} (log : String) (eligible : current.abandonedEligible)
      (replay : current.replayDelivery ≠ none)
      (turnedOver : current.status = .running → TurnedOver store current) :
      CommandStep store current (.recoverAbandonedReplayDelivery taskId)
        (current.abandonedQueued log)
  | abandonedTask {taskId} (log : String) (eligible : current.abandonedEligible)
      (enveloped : current.envelope ≠ none) (turnedOver : TurnedOver store current) :
      CommandStep store current (.recoverAbandonedTaskForRetry taskId)
        (current.abandonedQueued log)
  | committedEffect {taskId operationDigest resultDigest resultSizeBytes}
      (reconcilable : current.isReconcilable) (turnedOver : TurnedOver store current) :
      CommandStep store current
        (.recoverTaskFromCommittedEffect taskId operationDigest resultDigest resultSizeBytes)
        (current.completedFromEffect operationDigest resultDigest resultSizeBytes)
  | unknownEffect {taskId operationDigest}
      (reconcilable : current.isReconcilable) (turnedOver : TurnedOver store current) :
      CommandStep store current (.blockTaskForUnknownEffect taskId operationDigest)
        (current.blockedByEffect operationDigest)
  | finish {fence outcome candidate} (fenced : verifyTaskAttemptFence current fence = .ok ())
      (running : current.status = .running)
      (applied : applyTaskAttemptOutcome current fence outcome = .ok candidate) :
      CommandStep store current (.finishExecution fence outcome) candidate
  | finishCancelled {fence outcome} (fenced : verifyTaskAttemptFence current fence = .ok ())
      (cancelling : current.status = .cancelling) :
      CommandStep store current (.finishExecution fence outcome)
        current.clearResult.markCancelled
  | finishCommitted {fence resultDigest resultSizeBytes}
      (fenced : verifyTaskAttemptFence current fence = .ok ()) (active : current.isActive) :
      CommandStep store current
        (.finishCommittedEffectExecution fence resultDigest resultSizeBytes)
        ((current.supersedeCancellation.withResult resultDigest resultSizeBytes).pushLog "info"
          "task completed from committed effect")
  | cancelFenced {fence reason} (fenced : verifyTaskAttemptFence current fence = .ok ())
      (active : current.isActive) (unrequested : current.cancelRequested = false) :
      CommandStep store current (.requestExecutionCancellation fence reason)
        (current.requestCancel reason)
  | blockFenced {fence operationDigest}
      (fenced : verifyTaskAttemptFence current fence = .ok ()) (active : current.isActive) :
      CommandStep store current (.blockPreparedEffectExecution fence operationDigest)
        (current.blockedByEffect operationDigest)
  | heartbeat {fence heartbeatAtMs} (fenced : verifyTaskAttemptFence current fence = .ok ())
      (active : current.isActive) :
      CommandStep store current (.heartbeatExecution fence heartbeatAtMs)
        (current.touchHeartbeat heartbeatAtMs)
  | cancel {taskId reason} :
      CommandStep store current (.requestCancellation taskId reason)
        (CasOperation.cancellationCandidate reason current)

namespace CasOperation

theorem proposeOrKeep_eq_propose
    (decided : proposeOrKeep option = .propose candidate) : option = some candidate := by
  cases option with
  | none => cases decided
  | some value =>
      simp only [proposeOrKeep, CasDecision.propose.injEq] at decided
      rw [decided]

end CasOperation

theorem taskRetryTransitionCandidate_eq_some
    (retried : taskRetryTransitionCandidate current observedAtMs = some candidate) :
    CommandStep store current (.requeueRetryable taskId observedAtMs) candidate := by
  unfold taskRetryTransitionCandidate at retried
  simp only [Option.bind_eq_bind, Option.bind_eq_some_iff, Option.guard_eq_some'] at retried
  obtain ⟨-, eligible, retried⟩ := retried
  cases ready : current.retryReadyAtMs with
  | some readyAtMs =>
      simp only [ready, Option.bind_eq_some_iff, Option.guard_eq_some'] at retried
      obtain ⟨-, due, requeued⟩ := retried
      obtain ⟨eligible, log, rfl⟩ := taskRetryRequeueCandidate_eq_some requeued
      exact .requeue log eligible (by simpa [RetryDue, ready] using due)
  | none =>
      simp only [ready, Option.bind_eq_some_iff] at retried
      obtain ⟨envelope, enveloped, retried⟩ := retried
      split at retried
      next immediate =>
          obtain ⟨eligible, log, rfl⟩ := taskRetryRequeueCandidate_eq_some retried
          exact .requeue log eligible (by simp [RetryDue, ready, enveloped, immediate])
      next delayed =>
          obtain ⟨eligible, unscheduled, log, rfl⟩ := taskRetryScheduleCandidate_eq_some retried
          exact .schedule log eligible unscheduled enveloped delayed

theorem recoveryWriterGeneration_eq_ok
    (owned : recoveryWriterGeneration store message = .ok generation) :
    ∃ writer, store.writer = some writer ∧ generation = writer.generation := by
  simp only [recoveryWriterGeneration, orReject_eq_ok_iff, Option.map_eq_some_iff] at owned
  obtain ⟨writer, present, rfl⟩ := owned
  exact ⟨writer, present, rfl⟩

private theorem turnedOver_of_recovery
    (owned : recoveryWriterGeneration store message = .ok generation)
    (older : rejectCurrentGenerationRecovery current generation = .ok ()) :
    TurnedOver store current := by
  obtain ⟨writer, present, rfl⟩ := recoveryWriterGeneration_eq_ok owned
  exact ⟨writer, present, by simpa [rejectCurrentGenerationRecovery] using older⟩

namespace CasOperation

theorem restartRecovery_decide {taskId : String} {exhausted : EvaError}
    (decided : (restartRecovery taskId generation recover exhausted).decide current =
      .ok (.propose candidate)) :
    recover current = .ok candidate ∧ candidate ≠ current ∧
      rejectCurrentGenerationRecovery current generation = .ok () := by
  simp only [restartRecovery, bind_eq_ok_iff] at decided
  obtain ⟨recovered, ran, decided⟩ := decided
  split at decided
  next => cases decided
  next changed =>
      simp only [seq_eq_ok_iff, pure_eq_ok_iff, CasDecision.propose.injEq] at decided
      obtain ⟨older, rfl⟩ := decided
      exact ⟨ran, changed, older⟩

end CasOperation

/-! ### The decision of each command -/

/-- What the operation proposes is a step of the command. -/
def CasOperation.StepsAs (operation : CasOperation) (store : FileSystemTaskStateStore directory)
    (command : TaskCommand) : Prop :=
  ∀ {current candidate}, operation.decide current = .ok (.propose candidate) →
    CommandStep store current command candidate

section

variable (owned : recoveryWriterGeneration store message = .ok generation)
include owned

private theorem recoverAbandonedReplayDelivery_decide :
    (CasOperation.recoverAbandonedReplayDelivery taskId generation).StepsAs store
      (.recoverAbandonedReplayDelivery taskId) := by
  intro current candidate decided
  simp only [CasOperation.recoverAbandonedReplayDelivery, seq_eq_ok_iff, rejectIf_eq_ok_iff,
    pure_eq_ok_iff, not_and] at decided
  obtain ⟨-, older, proposed⟩ := decided
  obtain ⟨replay, eligible, ⟨log, rfl⟩, -⟩ := taskReplayRecoveryCandidate_eq_some
    (CasOperation.proposeOrKeep_eq_propose proposed)
  obtain ⟨writer, present, rfl⟩ := recoveryWriterGeneration_eq_ok owned
  exact .abandonedReplay log eligible replay fun running => ⟨writer, present, older running⟩

private theorem recoverAbandonedTaskForRetry_decide :
    (CasOperation.recoverAbandonedTaskForRetry taskId generation).StepsAs store
      (.recoverAbandonedTaskForRetry taskId) := by
  intro current candidate decided
  simp only [CasOperation.recoverAbandonedTaskForRetry, seq_eq_ok_iff] at decided
  obtain ⟨-, decided⟩ := decided
  split at decided
  next => cases decided
  next =>
      split at decided
      next => cases decided
      next abandoned =>
          simp only [seq_eq_ok_iff, pure_eq_ok_iff, CasDecision.propose.injEq] at decided
          obtain ⟨older, rfl⟩ := decided
          obtain ⟨-, enveloped, eligible, ⟨log, rfl⟩, -⟩ :=
            taskAbandonedRecoveryCandidate_eq_some abandoned
          exact .abandonedTask log eligible enveloped (turnedOver_of_recovery owned older)

private theorem recoverTaskFromCommittedEffect_decide :
    (CasOperation.recoverTaskFromCommittedEffect taskId operationDigest resultDigest
      resultSizeBytes generation).StepsAs store
      (.recoverTaskFromCommittedEffect taskId operationDigest resultDigest resultSizeBytes) := by
  intro current candidate decided
  obtain ⟨recovered, changed, older⟩ := CasOperation.restartRecovery_decide decided
  obtain ⟨-, -, -, ⟨-, same⟩ | ⟨reconcilable, rfl, -⟩⟩ :=
    TaskStateSnapshot.recoverCommittedEffect_eq_ok_iff.mp recovered
  · exact absurd same changed
  · exact .committedEffect reconcilable (turnedOver_of_recovery owned older)

private theorem blockTaskForUnknownEffect_decide :
    (CasOperation.blockTaskForUnknownEffect taskId operationDigest generation).StepsAs store
      (.blockTaskForUnknownEffect taskId operationDigest) := by
  intro current candidate decided
  obtain ⟨recovered, changed, older⟩ := CasOperation.restartRecovery_decide decided
  obtain ⟨-, ⟨-, same⟩ | ⟨-, -, reconcilable, rfl, -⟩⟩ :=
    TaskStateSnapshot.blockUnknownEffect_eq_ok_iff.mp recovered
  · exact absurd same changed
  · exact .unknownEffect reconcilable (turnedOver_of_recovery owned older)

end

private theorem finishExecution_decide :
    (CasOperation.finishExecution fence outcome).StepsAs store
      (.finishExecution fence outcome) := by
  intro current candidate decided
  simp only [CasOperation.finishExecution, seq_eq_ok_iff] at decided
  obtain ⟨fenced, decided⟩ := decided
  split at decided
  next => cases decided
  next =>
      split at decided
      next running =>
          simp only [bind_eq_ok_iff, pure_eq_ok_iff, CasDecision.propose.injEq,
            exists_eq_right] at decided
          exact .finish fenced running decided
      next cancelling =>
          simp only [bind_eq_ok_iff, pure_eq_ok_iff, CasDecision.propose.injEq,
            exists_eq_right, TaskStateSnapshot.cancelExecution, exists_unit_iff,
            TaskStateSnapshot.validated_eq_ok_iff] at decided
          obtain ⟨-, -, -, rfl⟩ := decided
          exact .finishCancelled fenced cancelling
      next => cases decided

private theorem finishCommittedEffectExecution_decide :
    (CasOperation.finishCommittedEffectExecution fence resultDigest resultSizeBytes).StepsAs store
      (.finishCommittedEffectExecution fence resultDigest resultSizeBytes) := by
  intro current candidate decided
  simp only [CasOperation.finishCommittedEffectExecution, seq_eq_ok_iff] at decided
  obtain ⟨fenced, decided⟩ := decided
  split at decided
  next => cases decided
  next =>
      simp only [bind_eq_ok_iff, exists_unit_iff, pure_eq_ok_iff, CasDecision.propose.injEq,
        exists_eq_right, rejectIf_eq_ok_iff, not_not,
        TaskStateSnapshot.completeCommittedEffectExecution,
        TaskStateSnapshot.validated_eq_ok_iff] at decided
      obtain ⟨active, -, -, -, -, rfl⟩ := decided
      exact .finishCommitted fenced active

private theorem requestExecutionCancellation_decide :
    (CasOperation.requestExecutionCancellation fence reason).StepsAs store
      (.requestExecutionCancellation fence reason) := by
  intro current candidate decided
  simp only [CasOperation.requestExecutionCancellation, seq_eq_ok_iff] at decided
  obtain ⟨fenced, decided⟩ := decided
  split at decided
  next => cases decided
  next live =>
      simp only [seq_eq_ok_iff, pure_eq_ok_iff, CasDecision.propose.injEq, rejectIf_eq_ok_iff,
        not_not] at decided
      obtain ⟨active, rfl⟩ := decided
      exact .cancelFenced fenced active (by simpa using (not_or.mp live).2)

private theorem blockPreparedEffectExecution_decide :
    (CasOperation.blockPreparedEffectExecution fence operationDigest).StepsAs store
      (.blockPreparedEffectExecution fence operationDigest) := by
  intro current candidate decided
  simp only [CasOperation.blockPreparedEffectExecution, bind_eq_ok_iff, exists_unit_iff]
    at decided
  obtain ⟨fenced, blocked, ran, decided⟩ := decided
  split at decided
  next => cases decided
  next changed =>
      simp only [bind_eq_ok_iff, exists_unit_iff, pure_eq_ok_iff, CasDecision.propose.injEq,
        rejectIf_eq_ok_iff, not_not] at decided
      obtain ⟨active, rfl⟩ := decided
      obtain ⟨-, ⟨-, same⟩ | ⟨-, -, -, rfl, -⟩⟩ :=
        TaskStateSnapshot.blockUnknownEffect_eq_ok_iff.mp ran
      · exact absurd same changed
      · exact .blockFenced fenced active

private theorem heartbeatExecution_decide :
    (CasOperation.heartbeatExecution fence heartbeatAtMs).StepsAs store
      (.heartbeatExecution fence heartbeatAtMs) := by
  intro current candidate decided
  simp only [CasOperation.heartbeatExecution, seq_eq_ok_iff, rejectIf_eq_ok_iff, not_not]
    at decided
  obtain ⟨fenced, active, decided⟩ := decided
  split at decided
  next => cases decided
  next =>
      simp only [pure_eq_ok_iff, CasDecision.propose.injEq] at decided
      exact decided ▸ .heartbeat fenced active

private theorem requestCancellation_decide :
    (CasOperation.requestCancellation taskId reason).StepsAs store
      (.requestCancellation taskId reason) := by
  intro current candidate decided
  simp only [CasOperation.requestCancellation] at decided
  split at decided
  next => cases decided
  next =>
      simp only [Except.ok.injEq, CasDecision.propose.injEq] at decided
      exact decided ▸ .cancel

namespace TaskCommand

def mode : TaskCommand → TaskStateCommitMode
  | requeueRetryable .. | recoverAbandonedReplayDelivery .. | recoverAbandonedTaskForRetry .. =>
      .retryRequeue
  | recoverTaskFromCommittedEffect .. | blockTaskForUnknownEffect .. => .restartRecovery
  | finishExecution .. | finishCommittedEffectExecution .. | blockPreparedEffectExecution .. =>
      .attemptOutcome
  | heartbeatExecution .. => .heartbeat
  | requestExecutionCancellation .. | requestCancellation .. => .compareAndSet

def taskId : TaskCommand → String
  | requeueRetryable taskId _ | recoverAbandonedReplayDelivery taskId
  | recoverAbandonedTaskForRetry taskId | recoverTaskFromCommittedEffect taskId ..
  | blockTaskForUnknownEffect taskId _ | requestCancellation taskId _ => taskId
  | finishExecution fence _ | finishCommittedEffectExecution fence ..
  | blockPreparedEffectExecution fence _ | heartbeatExecution fence _
  | requestExecutionCancellation fence _ => fence.taskId

variable {operation : CasOperation}

theorem prepare_eq_ok (prepared : command.prepare store = .ok operation) :
    operation.taskId = command.taskId ∧ operation.mode = command.mode ∧
      operation.StepsAs store command := by
  cases command <;>
    simp only [prepare, bind_eq_ok_iff, exists_unit_iff, pure_eq_ok_iff] at prepared
  case requeueRetryable taskId observedAtMs =>
      obtain ⟨-, rfl⟩ := prepared
      refine ⟨rfl, rfl, fun decided => taskRetryTransitionCandidate_eq_some ?_⟩
      simp only [CasOperation.requeueRetryable, Except.ok.injEq] at decided
      exact CasOperation.proposeOrKeep_eq_propose decided
  case recoverAbandonedReplayDelivery =>
      obtain ⟨-, generation, owned, rfl⟩ := prepared
      exact ⟨rfl, rfl, recoverAbandonedReplayDelivery_decide owned⟩
  case recoverAbandonedTaskForRetry =>
      obtain ⟨-, generation, owned, rfl⟩ := prepared
      exact ⟨rfl, rfl, recoverAbandonedTaskForRetry_decide owned⟩
  case recoverTaskFromCommittedEffect =>
      obtain ⟨-, -, -, generation, owned, rfl⟩ := prepared
      exact ⟨rfl, rfl, recoverTaskFromCommittedEffect_decide owned⟩
  case blockTaskForUnknownEffect =>
      obtain ⟨-, -, generation, owned, rfl⟩ := prepared
      exact ⟨rfl, rfl, blockTaskForUnknownEffect_decide owned⟩
  case blockPreparedEffectExecution =>
      obtain ⟨-, rfl⟩ := prepared
      exact ⟨rfl, rfl, blockPreparedEffectExecution_decide⟩
  case finishExecution =>
      subst prepared
      exact ⟨rfl, rfl, finishExecution_decide⟩
  case finishCommittedEffectExecution =>
      subst prepared
      exact ⟨rfl, rfl, finishCommittedEffectExecution_decide⟩
  case requestExecutionCancellation =>
      subst prepared
      exact ⟨rfl, rfl, requestExecutionCancellation_decide⟩
  case heartbeatExecution =>
      subst prepared
      exact ⟨rfl, rfl, heartbeatExecution_decide⟩
  case requestCancellation =>
      subst prepared
      exact ⟨rfl, rfl, requestCancellation_decide⟩

end TaskCommand

def StoreOperation.taskId : StoreOperation → Option String
  | command operation => some operation.taskId
  | tryClaimQueued taskId .. | updateSnapshot taskId _ | refreshLatest taskId => some taskId
  | create snapshot | compareAndSet snapshot => some snapshot.taskId
  | read taskId => taskId
  | listRecords | acquireRuntimeWriter _ => none

/-! ## Identity of a proposed record -/

def SameRecord (current proposed : TaskStateSnapshot) : Prop :=
  proposed.recordVersion = current.recordVersion ∧ proposed.taskId = current.taskId

theorem applyTaskAttemptOutcome_eq_ok
    (applied : applyTaskAttemptOutcome current fence outcome = .ok candidate) :
    candidate.Valid ∧ (match outcome with
      | .completed resultDigest resultSizeBytes =>
          candidate = (current.withResult resultDigest resultSizeBytes).pushLog "info"
            "task completed"
      | .failed errorKind errorMessage retryable =>
          candidate = current.clearResult.markFailed fence.attempt errorKind errorMessage
            retryable
      | .timedOut observedAtMs retryable =>
          candidate = current.clearResult.markTimedOut observedAtMs retryable) := by
  cases outcome <;>
    simp only [applyTaskAttemptOutcome, TaskStateSnapshot.completeExecution,
      TaskStateSnapshot.failExecution, TaskStateSnapshot.timeOutExecution, seq_eq_ok_iff,
      TaskStateSnapshot.validated_eq_ok_iff] at applied
  case completed => exact ⟨applied.2.2.2.2 ▸ applied.2.2.2.1, applied.2.2.2.2.symm⟩
  case failed => exact ⟨applied.2.2.2 ▸ applied.2.2.1, applied.2.2.2.symm⟩
  case timedOut => exact ⟨applied.2.2.2 ▸ applied.2.2.1, applied.2.2.2.symm⟩

theorem requestCancel_sameRecord (reason : String) :
    SameRecord current (current.requestCancel reason) := by
  unfold TaskStateSnapshot.requestCancel
  split <;> exact ⟨rfl, rfl⟩

theorem CommandStep.sameRecord
    (step : CommandStep store current command candidate) : SameRecord current candidate := by
  cases step with
  | finish fenced running applied =>
      have shape := (applyTaskAttemptOutcome_eq_ok applied).2
      split at shape <;> subst shape <;> exact ⟨rfl, rfl⟩
  | finishCommitted =>
      unfold TaskStateSnapshot.supersedeCancellation
      split <;> exact ⟨rfl, rfl⟩
  | cancelFenced => exact requestCancel_sameRecord _
  | cancel =>
      unfold CasOperation.cancellationCandidate
      split <;> exact requestCancel_sameRecord _
  | _ => exact ⟨rfl, rfl⟩

/-! ## Calls -/

/-- What a call can propose when the record of the task is `previous`. The records of
`compareAndSet`, and of an update that turns to another task, are the caller's own. -/
inductive Proposes (call : StoreCall directory) :
    Option TaskStateSnapshot → TaskStateCommitMode → TaskStateSnapshot → Prop where
  | command {command current proposed} (called : call.operation = .command command)
      (step : CommandStep call.store current command proposed) :
      Proposes call (some current) command.mode proposed
  | claim {taskId executionOwner cancelToken observedAtMs current proposed}
      (called : call.operation =
        .tryClaimQueued taskId executionOwner cancelToken observedAtMs)
      (claimed : FileSystemTaskStateStore.claimCandidate taskId executionOwner cancelToken
        observedAtMs current = .ok (some proposed)) :
      Proposes call (some current) .compareAndSet proposed
  | update {taskId update current proposed}
      (called : call.operation = .updateSnapshot taskId update)
      (updated : FileSystemTaskStateStore.updated update current = .ok proposed)
      (kept : proposed.taskId = current.taskId) :
      Proposes call (some current) .compareAndSet proposed
  | rename {taskId update current previous proposed}
      (called : call.operation = .updateSnapshot taskId update)
      (updated : FileSystemTaskStateStore.updated update current = .ok proposed)
      (renamed : proposed.taskId ≠ current.taskId) :
      Proposes call previous .compareAndSet proposed
  | create {proposed : TaskStateSnapshot} (called : call.operation = .create proposed) :
      Proposes call none .create proposed
  | compareAndSet {previous proposed} (called : call.operation = .compareAndSet proposed) :
      Proposes call previous .compareAndSet proposed

theorem Proposes.of_command {command : TaskCommand} (called : call.operation = .command command)
    (proposes : Proposes call previous mode proposed) :
    ∃ current, previous = some current ∧ mode = command.mode ∧
      CommandStep call.store current command proposed := by
  cases proposes with
  | command other step =>
      cases called.symm.trans other
      exact ⟨_, rfl, rfl, step⟩
  | claim other | update other | rename other | create other | compareAndSet other =>
      cases called.symm.trans other

theorem claimCandidate_eq_ok
    (claimed : FileSystemTaskStateStore.claimCandidate taskId executionOwner cancelToken
      observedAtMs current = .ok (some proposed)) :
    current.Claimable ∧ ∃ deadlineAtMs attempt,
      FileSystemTaskStateStore.attemptDeadline taskId observedAtMs current = .ok deadlineAtMs ∧
      current.attempts.checkedAdd 1 = some attempt ∧
      proposed = current.claimed executionOwner attempt observedAtMs deadlineAtMs
        cancelToken := by
  simp only [FileSystemTaskStateStore.claimCandidate] at claimed
  split at claimed
  next => cases claimed
  next =>
      simp only [bind_eq_ok_iff, pure_eq_ok_iff, Option.some.injEq, exists_eq_right,
        TaskStateSnapshot.claimForExecution_eq_ok_iff] at claimed
      obtain ⟨deadlineAtMs, deadline, claimable, -, -, attempt, next, rfl, -⟩ := claimed
      exact ⟨claimable, deadlineAtMs, attempt, deadline, next, rfl⟩

end Eva.Storage
