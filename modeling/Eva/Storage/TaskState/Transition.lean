import Eva.Storage.TaskState.Lifecycle

/-! # Accepted transitions

The store compares every proposed record with the current one. Its commit modes
relax different checks; `Transition` says what an accepted step looks like.
-/

namespace Eva.Storage

inductive TaskStateCommitMode where
  | create
  | compareAndSet
  | attemptOutcome
  | heartbeat
  | retryRequeue
  | restartRecovery
deriving DecidableEq

namespace TaskStateCommitMode

def createOnly (mode : TaskStateCommitMode) : Bool := mode = create
def allowAttemptOutcome (mode : TaskStateCommitMode) : Bool := mode = attemptOutcome
def allowHeartbeat (mode : TaskStateCommitMode) : Bool :=
  mode = attemptOutcome || mode = heartbeat
def allowRetryRequeue (mode : TaskStateCommitMode) : Bool := mode = retryRequeue
def allowRestartRecovery (mode : TaskStateCommitMode) : Bool := mode = restartRecovery

end TaskStateCommitMode

/-! ## Retry candidates -/

def storedTaskErrorIsRetryable (current : TaskStateSnapshot) : Bool :=
  current.errorRetryable.getD
    (current.errorKind = some "timeout" || current.errorKind = some "unavailable")

def taskRetryIsEligible (current : TaskStateSnapshot) : Bool :=
  current.isUnsuccessful && current.attempts < current.retryMaxAttempts &&
    current.envelope.isSome && !current.cancelRequested && !current.cancelAccepted &&
    storedTaskErrorIsRetryable current

def taskRetryScheduleCandidate (current : TaskStateSnapshot) (readyAtMs : U128) :
    Option TaskStateSnapshot :=
  if taskRetryIsEligible current ∧ current.retryReadyAtMs = none then
    some ({ current with retryReadyAtMs := some readyAtMs }.pushLog "warning"
      ("task attempt " ++ current.attempts.text ++ " retry scheduled for " ++ readyAtMs.text))
  else none

def taskRetryRequeueCandidate (current : TaskStateSnapshot) : Option TaskStateSnapshot :=
  if taskRetryIsEligible current then
    some (current.abandonedQueued
      ("task attempt " ++ current.attempts.text ++ " queued for retry after " ++
        current.status.asStr ++ ": kind=" ++ current.errorKind.getD "unknown" ++
        "; message=" ++ current.errorMessage.getD "failure details unavailable"))
  else none

def taskRetryTransitionCandidate (current : TaskStateSnapshot) (observedAtMs : U128) :
    Option TaskStateSnapshot := do
  guard (taskRetryIsEligible current)
  match current.retryReadyAtMs with
  | some readyAtMs =>
      guard (readyAtMs ≤ observedAtMs)
      taskRetryRequeueCandidate current
  | none =>
      let envelope ← current.envelope
      let retryBackoffMs := envelope.attemptPolicy.retryBackoffMs
      if retryBackoffMs = 0 then taskRetryRequeueCandidate current
      else
        taskRetryScheduleCandidate current
          (observedAtMs.saturatingAdd (retryBackoffMs.widen (by decide)))

def taskReplayRecoveryCandidate (current : TaskStateSnapshot) : Option TaskStateSnapshot :=
  current.markAbandonedReplayDeliveryQueued.toOption

def taskAbandonedRecoveryCandidate (current : TaskStateSnapshot) : Option TaskStateSnapshot :=
  current.markAbandonedTaskQueued.toOption

def rejectCurrentGenerationRecovery (current : TaskStateSnapshot)
    (writerGeneration : WriterGeneration) : Except EvaError Unit :=
  rejectIf (current.ownerGeneration = writerGeneration)
    ((current.statusConflict
        "task restart recovery cannot reclaim the current writer generation")
      |>.withContext "writer_generation" writerGeneration.text)

/-! ## The transition check -/

section Check

variable (current proposed : TaskStateSnapshot)

/-- The last log entry tells which recovery the proposed record must come from. -/
def taskRestartRecoveryTransitionMatches : Bool :=
  if proposed.logs.length ≠ current.logs.length + 1 ∨
      proposed.logs.take current.logs.length ≠ current.logs then false
  else match proposed.logs.getLast? with
    | none => false
    | some log =>
        if log.level = "info" then
          match Text.stripPrefix committedEffectRecoveryLogPrefix.toList log.message.toList,
            proposed.resultDigest, proposed.resultSizeBytes with
          | some operationDigest, some resultDigest, some resultSizeBytes =>
              current.recoverCommittedEffect (String.ofList operationDigest) resultDigest
                resultSizeBytes = .ok proposed
          | _, _, _ => false
        else if log.level = "error" then
          match Text.stripPrefix unknownEffectRecoveryReasonPrefix.toList
            log.message.toList with
          | some operationDigest =>
              current.blockUnknownEffect (String.ofList operationDigest) = .ok proposed
          | none => false
        else false

def taskRetrySpecialTransitionMatches : Bool :=
  taskRetryRequeueCandidate current = some proposed ||
    (match proposed.retryReadyAtMs with
      | some readyAtMs => taskRetryScheduleCandidate current readyAtMs = some proposed
      | none => false) ||
    taskReplayRecoveryCandidate current = some proposed ||
    taskAbandonedRecoveryCandidate current = some proposed

def claimDeadlineValid : Bool :=
  match current.envelope.bind (·.attemptPolicy.attemptTimeoutMs), proposed.heartbeatAtMs,
    proposed.deadlineAtMs with
  | none, some _, none => true
  | some timeoutMs, some heartbeatAtMs, some deadlineAtMs =>
      heartbeatAtMs.checkedAdd (timeoutMs.widen (by decide)) = some deadlineAtMs
  | _, _, _ => false

def isClaim : Bool :=
  current.status = .queued && proposed.status = .running &&
    current.attempts.checkedAdd 1 = some proposed.attempts && current.envelope.isSome &&
    !current.cancelRequested && !proposed.cancelRequested && current.deadLetters = [] &&
    current.attempts < current.retryMaxAttempts && current.executionOwner = none &&
    current.cancelToken = none && proposed.executionOwner.isSome &&
    proposed.cancelToken.isSome && proposed.resultDigest = none &&
    proposed.resultSizeBytes = none && proposed.interruptedReason = none &&
    proposed.errorKind = none && proposed.errorMessage = none &&
    claimDeadlineValid current proposed

def isRetryRequeue (mode : TaskStateCommitMode) : Bool :=
  mode.allowRetryRequeue && taskRetrySpecialTransitionMatches current proposed

def isRestartRecovery (mode : TaskStateCommitMode) : Bool :=
  mode.allowRestartRecovery && taskRestartRecoveryTransitionMatches current proposed

def TaskStateSnapshot.isActive (snapshot : TaskStateSnapshot) : Bool :=
  snapshot.status = .running || snapshot.status = .cancelling

def TaskStatus.isOutcome : TaskStatus → Bool
  | completed | failed | timedOut | cancelled => true
  | _ => false

/-- The fields that identify the attempt. -/
def SameFence : Prop :=
  current.attempts = proposed.attempts ∧ current.executionOwner = proposed.executionOwner ∧
    current.cancelToken = proposed.cancelToken

/-- The fields that describe how the attempt ended. -/
def SameOutcome : Prop :=
  current.resultDigest = proposed.resultDigest ∧
    current.resultSizeBytes = proposed.resultSizeBytes ∧
    current.errorKind = proposed.errorKind ∧ current.errorMessage = proposed.errorMessage ∧
    current.errorRetryable = proposed.errorRetryable ∧
    current.retryReadyAtMs = proposed.retryReadyAtMs ∧
    current.interruptedReason = proposed.interruptedReason ∧
    current.heartbeatAtMs = proposed.heartbeatAtMs

instance : Decidable (SameFence current proposed) :=
  inferInstanceAs (Decidable (_ ∧ _ ∧ _))

instance : Decidable (SameOutcome current proposed) :=
  inferInstanceAs (Decidable (_ ∧ _ ∧ _ ∧ _ ∧ _ ∧ _ ∧ _ ∧ _))

def TaskStatus.allows : TaskStatus → TaskStatus → Bool
  | queued, next =>
      next = queued || next = running || next = cancelling || next = cancelled ||
        next = interrupted || next = recovering
  | running, next =>
      next = running || next = cancelling || next = completed || next = failed ||
        next = cancelled || next = timedOut || next = interrupted || next = recovering
  | cancelling, next =>
      next = cancelling || next = completed || next = cancelled || next = interrupted ||
        next = recovering
  | recovering, next =>
      next = recovering || next = cancelling || next = cancelled || next = interrupted
  | status, next => next = status

def transitionConflict (message : String) : EvaError :=
  (current.taskConflict message)
    |>.withContext "current_status" current.status.asStr
    |>.withContext "proposed_status" proposed.status.asStr

def validateTaskStateTransition (mode : TaskStateCommitMode) : Except EvaError Unit := do
  let claim := isClaim current proposed
  let retryRequeue := isRetryRequeue current proposed mode
  let restartRecovery := isRestartRecovery current proposed mode
  rejectIf (¬SameFence current proposed ∧ ¬claim ∧ ¬retryRequeue ∧ ¬restartRecovery)
    (transitionConflict current proposed
      "task execution fence can change only during queued claim")
  rejectIf (current.executionOwner ≠ none ∧ current.deadlineAtMs ≠ proposed.deadlineAtMs ∧
      ¬retryRequeue ∧ ¬restartRecovery)
    (current.taskConflict "task attempt deadline is immutable after claim")
  rejectIf (current.executionOwner ≠ none ∧ current.isActive ∧
      current.heartbeatAtMs ≠ proposed.heartbeatAtMs ∧ ¬mode.allowHeartbeat ∧
      ¬retryRequeue ∧ ¬restartRecovery)
    (current.statusConflict "claimed task heartbeat requires the fenced heartbeat API")
  rejectIf (current.executionOwner ≠ none ∧ current.isActive ∧ proposed.status.isOutcome ∧
      ¬mode.allowAttemptOutcome ∧ ¬restartRecovery)
    ((current.taskConflict "claimed task outcome requires the fenced finish API")
      |>.withContext "proposed_status" proposed.status.asStr)
  rejectIf (current.isTerminal ∧ ¬retryRequeue ∧ ¬restartRecovery ∧
      ¬SameOutcome current proposed)
    (current.statusConflict "task terminal outcome metadata is immutable")
  rejectIf ((¬current.status.allows proposed.status ∧ ¬retryRequeue ∧ ¬restartRecovery) ∨
      (proposed.status = .running ∧ ¬claim ∧ current.status ≠ .running))
    (transitionConflict current proposed "task lifecycle transition is not allowed")

/-! ## What the check accepts -/

/-- A special mode matched its own candidate, which lifts the general rules. -/
def IsSpecial (mode : TaskStateCommitMode) : Prop :=
  isRetryRequeue current proposed mode ∨ isRestartRecovery current proposed mode

structure Transition (mode : TaskStateCommitMode) : Prop where
  fence : SameFence current proposed ∨ isClaim current proposed ∨
    IsSpecial current proposed mode
  deadline : current.executionOwner ≠ none →
    current.deadlineAtMs = proposed.deadlineAtMs ∨ IsSpecial current proposed mode
  heartbeat : current.executionOwner ≠ none → current.isActive →
    current.heartbeatAtMs = proposed.heartbeatAtMs ∨ mode.allowHeartbeat ∨
      IsSpecial current proposed mode
  outcome : current.executionOwner ≠ none → current.isActive → proposed.status.isOutcome →
    mode.allowAttemptOutcome ∨ isRestartRecovery current proposed mode
  terminal : current.isTerminal →
    SameOutcome current proposed ∨ IsSpecial current proposed mode
  status : current.status.allows proposed.status ∨ IsSpecial current proposed mode
  started : proposed.status = .running →
    isClaim current proposed ∨ current.status = .running

variable {current proposed}

theorem validateTaskStateTransition_eq_ok_iff :
    validateTaskStateTransition current proposed mode = .ok () ↔
      Transition current proposed mode := by
  simp only [validateTaskStateTransition, seq_eq_ok_iff, rejectIf_eq_ok_iff]
  constructor
  · rintro ⟨fence, deadline, heartbeat, outcome, terminal, status⟩
    constructor <;> grind [IsSpecial]
  · rintro ⟨fence, deadline, heartbeat, outcome, terminal, status, started⟩
    refine ⟨?_, ?_, ?_, ?_, ?_, ?_⟩ <;> grind [IsSpecial]

@[mk_iff] structure ClaimStep (current proposed : TaskStateSnapshot) : Prop where
  wasQueued : current.status = .queued
  isRunning : proposed.status = .running
  next : current.attempts.checkedAdd 1 = some proposed.attempts
  enveloped : current.envelope ≠ none
  uncancelled : current.cancelRequested = false ∧ proposed.cancelRequested = false
  noDeadLetters : current.deadLetters = []
  remaining : current.attempts < current.retryMaxAttempts
  unclaimed : current.executionOwner = none ∧ current.cancelToken = none
  claimed : proposed.executionOwner ≠ none ∧ proposed.cancelToken ≠ none
  noResult : proposed.resultDigest = none ∧ proposed.resultSizeBytes = none
  noInterruption : proposed.interruptedReason = none
  noError : proposed.errorKind = none ∧ proposed.errorMessage = none
  deadline : claimDeadlineValid current proposed

theorem isClaim_iff : isClaim current proposed ↔ ClaimStep current proposed := by
  rw [claimStep_iff]
  simp only [isClaim, Bool.and_eq_true, decide_eq_true_eq, Option.isSome_iff_ne_none,
    Bool.not_eq_true', and_assoc]

/-! ## Special steps -/

/-- What the retry mode can do to a record. -/
inductive RetryStep (current : TaskStateSnapshot) : TaskStateSnapshot → Prop where
  | requeue (log : String) (eligible : taskRetryIsEligible current) :
      RetryStep current (current.abandonedQueued log)
  | schedule (readyAtMs : U128) (log : String) (eligible : taskRetryIsEligible current)
      (unscheduled : current.retryReadyAtMs = none) :
      RetryStep current ({ current with retryReadyAtMs := some readyAtMs }.pushLog "warning" log)
  | abandoned (log : String) (eligible : current.abandonedEligible) :
      RetryStep current (current.abandonedQueued log)

/-- What the restart mode can do to a record. -/
inductive RestartStep (current : TaskStateSnapshot) : TaskStateSnapshot → Prop where
  | committed (operationDigest resultDigest : String) (resultSizeBytes : Usize)
      (reconcilable : current.isReconcilable) : RestartStep current
        (current.completedFromEffect operationDigest resultDigest resultSizeBytes)
  | blocked (operationDigest : String) (reconcilable : current.isReconcilable) :
      RestartStep current (current.blockedByEffect operationDigest)

theorem taskRetryRequeueCandidate_eq_some
    (candidate : taskRetryRequeueCandidate current = some proposed) :
    taskRetryIsEligible current ∧ ∃ log, proposed = current.abandonedQueued log := by
  unfold taskRetryRequeueCandidate at candidate
  split at candidate
  next eligible => exact ⟨eligible, _, (Option.some.inj candidate).symm⟩
  next => cases candidate

theorem taskRetryScheduleCandidate_eq_some
    (candidate : taskRetryScheduleCandidate current readyAtMs = some proposed) :
    taskRetryIsEligible current ∧ current.retryReadyAtMs = none ∧ ∃ log,
      proposed = { current with retryReadyAtMs := some readyAtMs }.pushLog "warning" log := by
  unfold taskRetryScheduleCandidate at candidate
  split at candidate
  next eligible => exact ⟨eligible.1, eligible.2, _, (Option.some.inj candidate).symm⟩
  next => cases candidate

private theorem eq_ok_of_toOption {result : Except EvaError TaskStateSnapshot}
    (found : result.toOption = some proposed) : result = .ok proposed := by
  cases result with
  | error error => cases found
  | ok value => exact congrArg Except.ok (Option.some.inj found)

theorem taskReplayRecoveryCandidate_eq_some
    (candidate : taskReplayRecoveryCandidate current = some proposed) :
    current.replayDelivery ≠ none ∧ current.abandonedEligible ∧
      (∃ log, proposed = current.abandonedQueued log) ∧ proposed.Valid := by
  have marked := eq_ok_of_toOption candidate
  simp only [TaskStateSnapshot.markAbandonedReplayDeliveryQueued, seq_eq_ok_iff,
    rejectIf_eq_ok_iff, TaskStateSnapshot.validated_eq_ok_iff, not_or, not_not] at marked
  obtain ⟨⟨replay, eligible⟩, valid, rfl⟩ := marked
  exact ⟨replay, eligible, ⟨_, rfl⟩, valid⟩

theorem taskAbandonedRecoveryCandidate_eq_some
    (candidate : taskAbandonedRecoveryCandidate current = some proposed) :
    current.replayDelivery = none ∧ current.envelope ≠ none ∧ current.abandonedEligible ∧
      (∃ log, proposed = current.abandonedQueued log) ∧ proposed.Valid := by
  have marked := eq_ok_of_toOption candidate
  simp only [TaskStateSnapshot.markAbandonedTaskQueued, seq_eq_ok_iff, rejectIf_eq_ok_iff,
    TaskStateSnapshot.validated_eq_ok_iff, not_or, not_not] at marked
  obtain ⟨⟨operator, enveloped, eligible⟩, valid, rfl⟩ := marked
  exact ⟨operator, enveloped, eligible, ⟨_, rfl⟩, valid⟩

theorem isRetryRequeue_cases (requeued : isRetryRequeue current proposed mode) :
    mode = .retryRequeue ∧ RetryStep current proposed := by
  simp only [isRetryRequeue, TaskStateCommitMode.allowRetryRequeue, Bool.and_eq_true,
    decide_eq_true_eq, taskRetrySpecialTransitionMatches, Bool.or_eq_true] at requeued
  refine ⟨requeued.1, ?_⟩
  rcases requeued.2 with ((requeue | schedule) | replay) | abandoned
  · obtain ⟨eligible, log, rfl⟩ := taskRetryRequeueCandidate_eq_some requeue
    exact .requeue log eligible
  · split at schedule
    next readyAtMs ready =>
        obtain ⟨eligible, unscheduled, log, rfl⟩ :=
          taskRetryScheduleCandidate_eq_some (of_decide_eq_true schedule)
        exact .schedule readyAtMs log eligible unscheduled
    next => cases schedule
  · obtain ⟨-, eligible, ⟨log, rfl⟩, -⟩ := taskReplayRecoveryCandidate_eq_some replay
    exact .abandoned log eligible
  · obtain ⟨-, -, eligible, ⟨log, rfl⟩, -⟩ := taskAbandonedRecoveryCandidate_eq_some abandoned
    exact .abandoned log eligible

/-- One of the two recoveries turns the current record into the proposed one. -/
def RecoversTo (current proposed : TaskStateSnapshot) : Prop :=
  ∃ operationDigest,
    (∃ resultDigest resultSizeBytes,
      current.recoverCommittedEffect operationDigest resultDigest resultSizeBytes =
        .ok proposed) ∨
    current.blockUnknownEffect operationDigest = .ok proposed

theorem taskRestartRecoveryTransitionMatches_cases
    (matched : taskRestartRecoveryTransitionMatches current proposed) :
    proposed ≠ current ∧ RecoversTo current proposed := by
  unfold taskRestartRecoveryTransitionMatches at matched
  split at matched
  next => cases matched
  next extended =>
      refine ⟨fun same => by simp [same] at extended, ?_⟩
      split at matched
      next => cases matched
      next log last =>
          split at matched
          next =>
              split at matched
              next => exact ⟨_, .inl ⟨_, _, of_decide_eq_true matched⟩⟩
              next => cases matched
          next =>
              split at matched
              next =>
                  split at matched
                  next => exact ⟨_, .inr (of_decide_eq_true matched)⟩
                  next => cases matched
              next => cases matched

theorem isRestartRecovery_cases (recovered : isRestartRecovery current proposed mode) :
    mode = .restartRecovery ∧ RestartStep current proposed := by
  simp only [isRestartRecovery, TaskStateCommitMode.allowRestartRecovery, Bool.and_eq_true,
    decide_eq_true_eq] at recovered
  refine ⟨recovered.1, ?_⟩
  obtain ⟨different, operationDigest, ⟨resultDigest, resultSizeBytes, completed⟩ | blocked⟩ :=
    taskRestartRecoveryTransitionMatches_cases recovered.2
  · obtain ⟨-, -, -, ⟨-, same⟩ | ⟨reconcilable, rfl, -⟩⟩ :=
      TaskStateSnapshot.recoverCommittedEffect_eq_ok_iff.mp completed
    · exact absurd same different
    · exact .committed _ resultDigest resultSizeBytes reconcilable
  · obtain ⟨-, ⟨-, same⟩ | ⟨-, -, reconcilable, rfl, -⟩⟩ :=
      TaskStateSnapshot.blockUnknownEffect_eq_ok_iff.mp blocked
    · exact absurd same different
    · exact .blocked _ reconcilable

end Check

end Eva.Storage
