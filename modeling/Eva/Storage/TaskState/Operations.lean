import Eva.Foundation.System
import Eva.Storage.TaskState.Store

/-! # Store operations

Every operation of the store is a program over the atomic actions of the task
directory. Between two actions of one call any other call can act.
-/

namespace Eva.Storage

def taskStateCasRetryLimit : Nat := 32

inductive StoreAction (directory : TaskDirectory) where
  | read (taskId : Option String)
  | taskFileNames
  | readRecord (name : String)
  | commit (store : FileSystemTaskStateStore directory) (snapshot : TaskStateSnapshot)
      (expected : StateVersion) (mode : TaskStateCommitMode)
  | writeLatest (committed : TaskStateSnapshot)
  | refreshLatest (store : FileSystemTaskStateStore directory) (taskId : String)
  | acquireWriter (processId : U32)

@[reducible] def StoreAction.Response {directory : TaskDirectory} :
    StoreAction directory → Type
  | read _ | readRecord _ | commit .. | refreshLatest .. =>
      Except EvaError TaskStateSnapshot
  | taskFileNames => Except EvaError (List String)
  | writeLatest _ => Except EvaError Unit
  | acquireWriter _ => Except EvaError DurableWriterGuard

/-- What the surroundings add to an action: a failing call, a fresh token. -/
structure StoreEnvironment where
  fault : Option IoFault
  ownerToken : String

def StoreAction.perform {directory : TaskDirectory} {format : RecordFormat}
    (state : TaskFiles format) (action : StoreAction directory)
    (environment : StoreEnvironment) : Option (TaskFiles format × action.Response) :=
  let fault := environment.fault
  match action with
  | read taskId => some (state, directory.read state fault taskId)
  | taskFileNames => some (state, directory.taskFileNames state fault)
  | readRecord name => some (state, directory.readRecord state fault name)
  | commit store snapshot expected mode =>
      TaskDirectory.commitCanonical state fault store snapshot expected mode
  | writeLatest committed => directory.writeLatest state fault committed
  | refreshLatest store taskId => TaskDirectory.refreshLatest state fault store taskId
  | acquireWriter processId =>
      let (writer, response) := DurableWriterGuard.acquire directory.writerLayout state.writer
        fault processId environment.ownerToken
      some ({ state with writer }, response)

abbrev StoreProgram (directory : TaskDirectory) (Result : Type) :=
  Program (StoreAction directory) StoreAction.Response Result

namespace FileSystemTaskStateStore

variable {directory : TaskDirectory} (store : FileSystemTaskStateStore directory)

/-! ## Commits -/

def commitSnapshot (snapshot : TaskStateSnapshot) (expected : StateVersion)
    (mode : TaskStateCommitMode) :
    StoreProgram directory (Except EvaError TaskStateSnapshot) :=
  .step (.commit store snapshot expected mode) fun
    | .error error => .done (.error error)
    | .ok committed => .step (.writeLatest committed) fun
        | .error error => .done (.error error)
        | .ok () => .done (.ok committed)

def create (snapshot : TaskStateSnapshot) :
    StoreProgram directory (Except EvaError TaskStateSnapshot) :=
  match rejectIf (snapshot.recordVersion ≠ 0)
    ((EvaError.invalidArgument "new task state must start at record version zero")
      |>.withContext "task_id" snapshot.taskId
      |>.withContext "actual" snapshot.recordVersion.text) with
  | .error error => .done (.error error)
  | .ok () => store.commitSnapshot snapshot 0 .create

def compareAndSet (snapshot : TaskStateSnapshot) :
    StoreProgram directory (Except EvaError TaskStateSnapshot) :=
  store.commitSnapshot snapshot snapshot.recordVersion .compareAndSet

/-- The change that `update_snapshot` makes to the record it has read. -/
def updated (update : TaskStateSnapshot → Except EvaError TaskStateSnapshot)
    (current : TaskStateSnapshot) : Except EvaError TaskStateSnapshot := do
  let snapshot ← update current
  rejectIf (snapshot.recordVersion ≠ current.recordVersion ∨
      snapshot.ownerGeneration ≠ current.ownerGeneration)
    (.invalidArgument "task update cannot modify record version or owner generation")
  pure snapshot

def updateSnapshot (taskId : String)
    (update : TaskStateSnapshot → Except EvaError TaskStateSnapshot) :
    StoreProgram directory (Except EvaError TaskStateSnapshot) :=
  .step (.read (some taskId)) fun
    | .error error => .done (.error error)
    | .ok current =>
        match updated update current with
        | .error error => .done (.error error)
        | .ok snapshot => store.compareAndSet snapshot

/-! ## Claims -/

def taskExecutionClaim (snapshot : TaskStateSnapshot) :
    Except EvaError TaskExecutionClaim := do
  let executionOwner ← orReject
    ((EvaError.internal "committed task claim is missing execution owner")
      |>.withContext "task_id" snapshot.taskId) snapshot.executionOwner
  let cancelToken ← orReject
    ((EvaError.internal "committed task claim is missing cancel token")
      |>.withContext "task_id" snapshot.taskId) snapshot.cancelToken
  rejectIf (snapshot.status ≠ .running ∨ snapshot.attempts = 0)
    ((EvaError.internal "committed task claim is not a running attempt")
      |>.withContext "task_id" snapshot.taskId
      |>.withContext "status" snapshot.status.asStr)
  pure {
    snapshot
    fence := {
      taskId := snapshot.taskId
      ownerGeneration := snapshot.ownerGeneration
      executionOwner
      attempt := snapshot.attempts
      cancelToken } }

/-- The time by which an attempt that starts now has to end. -/
def attemptDeadline (taskId : String) (observedAtMs : U128) (current : TaskStateSnapshot) :
    Except EvaError (Option U128) :=
  match current.envelope.bind (·.attemptPolicy.attemptTimeoutMs) with
  | none => .ok none
  | some timeoutMs =>
      (orReject
        ((EvaError.conflict "task attempt deadline is out of range")
          |>.withContext "task_id" taskId)
        (observedAtMs.checkedAdd (timeoutMs.widen (Nat.le_add_right 64 64)))).map some

/-- `none` when the record cannot be claimed. -/
def claimCandidate (taskId executionOwner cancelToken : String) (observedAtMs : U128)
    (current : TaskStateSnapshot) : Except EvaError (Option TaskStateSnapshot) :=
  if current.status ≠ .queued ∨ current.envelope = none ∨ current.cancelRequested ∨
      current.deadLetters ≠ [] ∨ current.retryMaxAttempts ≤ current.attempts ∨
      current.executionOwner ≠ none ∨ current.cancelToken ≠ none then
    .ok none
  else do
    let deadlineAtMs ← attemptDeadline taskId observedAtMs current
    let candidate ←
      current.claimForExecution executionOwner observedAtMs deadlineAtMs cancelToken
    pure (some candidate)

/-- The record carries the claim that a failed commit may have made. -/
def carriesClaim (executionOwner cancelToken : String) (attempt : Usize)
    (current : TaskStateSnapshot) : Bool :=
  current.status = .running && current.executionOwner = some executionOwner &&
    current.attempts = attempt && current.cancelToken = some cancelToken

/-- What `try_claim_queued` does after its commit failed. -/
def afterFailedClaim (taskId executionOwner cancelToken : String)
    (snapshot candidate : TaskStateSnapshot) (error : EvaError) :
    StoreProgram directory (Except EvaError (Option TaskExecutionClaim)) :=
  .step (.read (some taskId)) fun
    | .error error => .done (.error error)
    | .ok current =>
        if current.recordVersion = snapshot.recordVersion then .done (.error error)
        else if carriesClaim executionOwner cancelToken candidate.attempts current then
          .step (.refreshLatest store taskId) fun
            | .error error => .done (.error error)
            | .ok current => .done ((taskExecutionClaim current).map some)
        else .done (.ok none)

def tryClaimQueued (taskId executionOwner cancelToken : String) (observedAtMs : U128) :
    StoreProgram directory (Except EvaError (Option TaskExecutionClaim)) :=
  match validateExecutionOwner executionOwner, validateCancelToken cancelToken with
  | .error error, _ => .done (.error error)
  | _, .error error => .done (.error error)
  | .ok (), .ok () => .step (.read (some taskId)) fun
      | .error error => .done (.error error)
      | .ok snapshot =>
          match claimCandidate taskId executionOwner cancelToken observedAtMs snapshot with
          | .error error => .done (.error error)
          | .ok none => .done (.ok none)
          | .ok (some candidate) => (store.compareAndSet candidate).bind fun
              | .ok committed => .done ((taskExecutionClaim committed).map some)
              | .error error =>
                  store.afterFailedClaim taskId executionOwner cancelToken snapshot candidate
                    error

end FileSystemTaskStateStore

/-! ## Compare-and-set loops -/

/-- What a loop does with the record it has read. -/
inductive CasDecision where
  | keep
  | refresh
  | propose (candidate : TaskStateSnapshot)

/-- What a loop does with the record that won against its proposal. -/
inductive CasConflict where
  | keep
  | refresh
  | retry

structure CasOperation where
  taskId : String
  mode : TaskStateCommitMode
  decide : TaskStateSnapshot → Except EvaError CasDecision
  afterConflict : (candidate observed : TaskStateSnapshot) → Except EvaError CasConflict
  exhausted : EvaError

namespace CasOperation

variable {directory : TaskDirectory} (operation : CasOperation)
  (store : FileSystemTaskStateStore directory)

/-- The iterations that end with the alias being rewritten. -/
def finishByRefresh : StoreProgram directory (Option (Except EvaError TaskStateSnapshot)) :=
  .step (.refreshLatest store operation.taskId) fun response => .done (some response)

def afterConflictWith (candidate : TaskStateSnapshot) (expectedVersion : StateVersion)
    (error : EvaError) :
    StoreProgram directory (Option (Except EvaError TaskStateSnapshot)) :=
  .step (.read (some operation.taskId)) fun
    | .error error => .done (some (.error error))
    | .ok observed =>
        if observed.recordVersion = expectedVersion then .done (some (.error error))
        else match operation.afterConflict candidate observed with
          | .error error => .done (some (.error error))
          | .ok .keep => .done (some (.ok observed))
          | .ok .refresh => operation.finishByRefresh store
          | .ok .retry => .done none

/-- One iteration; `none` when the loop goes on. -/
def attempt : StoreProgram directory (Option (Except EvaError TaskStateSnapshot)) :=
  .step (.read (some operation.taskId)) fun
    | .error error => .done (some (.error error))
    | .ok current =>
        match operation.decide current with
        | .error error => .done (some (.error error))
        | .ok .keep => .done (some (.ok current))
        | .ok .refresh => operation.finishByRefresh store
        | .ok (.propose candidate) =>
            (store.commitSnapshot candidate candidate.recordVersion operation.mode).bind fun
              | .ok committed => .done (some (.ok committed))
              | .error error =>
                  operation.afterConflictWith store candidate current.recordVersion error

def run : StoreProgram directory (Except EvaError TaskStateSnapshot) :=
  .repeatUntil (operation.attempt store) (.error operation.exhausted) taskStateCasRetryLimit

end CasOperation

/-! ## Fences -/

def verifyTaskAttemptFence (snapshot : TaskStateSnapshot) (fence : TaskAttemptFence) :
    Except EvaError Unit := do
  rejectIf (snapshot.taskId ≠ fence.taskId)
    (.conflict "task attempt fence belongs to another task")
  rejectIf (snapshot.ownerGeneration ≠ fence.ownerGeneration)
    ((EvaError.conflict "task attempt fence belongs to another writer generation")
      |>.withContext "task_id" fence.taskId)
  snapshot.verifyExecutionClaim fence.executionOwner fence.attempt fence.cancelToken

def applyTaskAttemptOutcome (snapshot : TaskStateSnapshot) (fence : TaskAttemptFence) :
    TaskAttemptOutcome → Except EvaError TaskStateSnapshot
  | .completed resultDigest resultSizeBytes =>
      snapshot.completeExecution fence.executionOwner fence.attempt fence.cancelToken
        resultDigest resultSizeBytes
  | .failed errorKind errorMessage retryable =>
      snapshot.failExecution fence.executionOwner fence.attempt fence.cancelToken errorKind
        errorMessage retryable
  | .timedOut observedAtMs retryable =>
      snapshot.timeOutExecution fence.executionOwner fence.attempt fence.cancelToken
        observedAtMs retryable

def taskAttemptOutcomeIsCommitted (snapshot : TaskStateSnapshot) : TaskAttemptOutcome → Bool
  | .completed resultDigest resultSizeBytes =>
      snapshot.status = .completed && snapshot.resultDigest = some resultDigest &&
        snapshot.resultSizeBytes = some resultSizeBytes
  | .failed errorKind errorMessage retryable =>
      snapshot.status = .failed && snapshot.errorKind = some errorKind &&
        snapshot.errorMessage = some errorMessage && snapshot.errorRetryable = some retryable
  | .timedOut observedAtMs retryable =>
      snapshot.status = .timedOut && snapshot.heartbeatAtMs = some observedAtMs &&
        snapshot.errorRetryable = some retryable

/-! ## Commands -/

/-- The operations that run as a compare-and-set loop. -/
inductive TaskCommand where
  | requeueRetryable (taskId : String) (observedAtMs : U128)
  | recoverAbandonedReplayDelivery (taskId : String)
  | recoverAbandonedTaskForRetry (taskId : String)
  | recoverTaskFromCommittedEffect (taskId operationDigest resultDigest : String)
      (resultSizeBytes : Usize)
  | blockTaskForUnknownEffect (taskId operationDigest : String)
  | finishExecution (fence : TaskAttemptFence) (outcome : TaskAttemptOutcome)
  | finishCommittedEffectExecution (fence : TaskAttemptFence) (resultDigest : String)
      (resultSizeBytes : Usize)
  | requestExecutionCancellation (fence : TaskAttemptFence) (reason : String)
  | blockPreparedEffectExecution (fence : TaskAttemptFence) (operationDigest : String)
  | heartbeatExecution (fence : TaskAttemptFence) (heartbeatAtMs : U128)
  | requestCancellation (taskId reason : String)

namespace CasOperation

def taskError (message taskId : String) : EvaError :=
  (EvaError.conflict message) |>.withContext "task_id" taskId

def proposeOrKeep : Option TaskStateSnapshot → CasDecision
  | some candidate => .propose candidate
  | none => .keep

def keepOrRetry (settled : Bool) : CasConflict := if settled then .keep else .retry

def requeueRetryable (taskId : String) (observedAtMs : U128) : CasOperation where
  taskId
  mode := .retryRequeue
  decide current := .ok (proposeOrKeep (taskRetryTransitionCandidate current observedAtMs))
  afterConflict _ observed :=
    .ok (keepOrRetry (taskRetryTransitionCandidate observed observedAtMs).isNone)
  exhausted := taskError "task retry requeue exceeded the CAS retry limit" taskId

def recoverAbandonedReplayDelivery (taskId : String) (writerGeneration : WriterGeneration) :
    CasOperation where
  taskId
  mode := .retryRequeue
  decide current := do
    rejectIf (current.replayDelivery = none)
      (taskError "task is not a persisted replay delivery" taskId)
    rejectIf (current.status = .running ∧ current.ownerGeneration = writerGeneration)
      (taskError "current writer cannot reclaim its own running replay delivery" taskId)
    pure (proposeOrKeep (taskReplayRecoveryCandidate current))
  afterConflict _ observed := .ok (keepOrRetry (taskReplayRecoveryCandidate observed).isNone)
  exhausted := taskError "replay delivery recovery exceeded the CAS retry limit" taskId

def recoverAbandonedTaskForRetry (taskId : String) (writerGeneration : WriterGeneration) :
    CasOperation where
  taskId
  mode := .retryRequeue
  decide current := do
    rejectIf (current.replayDelivery ≠ none)
      (taskError "operator task recovery cannot mutate a replay delivery" taskId)
    if current.status = .queued then pure .keep
    else match taskAbandonedRecoveryCandidate current with
      | none => pure .keep
      | some candidate => do
          rejectCurrentGenerationRecovery current writerGeneration
          pure (.propose candidate)
  afterConflict _ observed :=
    .ok (keepOrRetry (observed.status = .queued ||
      (taskAbandonedRecoveryCandidate observed).isNone))
  exhausted := taskError "abandoned task recovery exceeded the CAS retry limit" taskId

/-- Restart recoveries keep a record that the recovery does not change. -/
def restartRecovery (taskId : String) (writerGeneration : WriterGeneration)
    (recover : TaskStateSnapshot → Except EvaError TaskStateSnapshot) (exhausted : EvaError) :
    CasOperation where
  taskId
  mode := .restartRecovery
  decide current := do
    let candidate ← recover current
    if candidate = current then pure .keep
    else do
      rejectCurrentGenerationRecovery current writerGeneration
      pure (.propose candidate)
  afterConflict _ _ := .ok .retry
  exhausted

def recoverTaskFromCommittedEffect (taskId operationDigest resultDigest : String)
    (resultSizeBytes : Usize) (writerGeneration : WriterGeneration) : CasOperation :=
  restartRecovery taskId writerGeneration
    (fun current => current.recoverCommittedEffect operationDigest resultDigest
      resultSizeBytes)
    ((taskError "committed effect task recovery exceeded the CAS retry limit" taskId)
      |>.withContext "operation_digest" operationDigest)

def blockTaskForUnknownEffect (taskId operationDigest : String)
    (writerGeneration : WriterGeneration) : CasOperation :=
  restartRecovery taskId writerGeneration
    (fun current => current.blockUnknownEffect operationDigest)
    ((taskError "unknown effect task block exceeded the CAS retry limit" taskId)
      |>.withContext "operation_digest" operationDigest)

def finishExecution (fence : TaskAttemptFence) (outcome : TaskAttemptOutcome) :
    CasOperation where
  taskId := fence.taskId
  mode := .attemptOutcome
  decide current := do
    verifyTaskAttemptFence current fence
    if taskAttemptOutcomeIsCommitted current outcome ∨ current.status = .cancelled then
      pure .refresh
    else match current.status with
      | .running => do
          let candidate ← applyTaskAttemptOutcome current fence outcome
          pure (.propose candidate)
      | .cancelling => do
          let candidate ← current.cancelExecution fence.executionOwner fence.attempt
            fence.cancelToken
          pure (.propose candidate)
      | _ => .error ((taskError "task attempt terminal result was superseded" fence.taskId)
          |>.withContext "status" current.status.asStr)
  afterConflict _ _ := .ok .retry
  exhausted := taskError "task attempt finish exceeded the CAS retry limit" fence.taskId

def finishCommittedEffectExecution (fence : TaskAttemptFence) (resultDigest : String)
    (resultSizeBytes : Usize) : CasOperation where
  taskId := fence.taskId
  mode := .attemptOutcome
  decide current := do
    verifyTaskAttemptFence current fence
    if taskAttemptOutcomeIsCommitted current (.completed resultDigest resultSizeBytes) then
      pure .refresh
    else do
      rejectIf (¬current.isActive)
        ((taskError "committed effect task outcome was superseded" fence.taskId)
          |>.withContext "status" current.status.asStr)
      let candidate ← current.completeCommittedEffectExecution fence.executionOwner
        fence.attempt fence.cancelToken resultDigest resultSizeBytes
      pure (.propose candidate)
  afterConflict _ _ := .ok .retry
  exhausted :=
    taskError "committed effect task finish exceeded the CAS retry limit" fence.taskId

def requestExecutionCancellation (fence : TaskAttemptFence) (reason : String) :
    CasOperation where
  taskId := fence.taskId
  mode := .compareAndSet
  decide current := do
    verifyTaskAttemptFence current fence
    if current.isTerminal ∨ current.cancelRequested then pure .refresh
    else do
      rejectIf (¬current.isActive)
        ((taskError "task attempt cannot enter shutdown cancellation" fence.taskId)
          |>.withContext "status" current.status.asStr)
      pure (.propose (current.requestCancel reason))
  afterConflict _ observed :=
    .ok (if observed.isTerminal ∨ observed.cancelRequested then .refresh else .retry)
  exhausted := taskError "task shutdown cancellation exceeded the CAS retry limit" fence.taskId

def blockPreparedEffectExecution (fence : TaskAttemptFence) (operationDigest : String) :
    CasOperation where
  taskId := fence.taskId
  mode := .attemptOutcome
  decide current := do
    verifyTaskAttemptFence current fence
    let candidate ← current.blockUnknownEffect operationDigest
    if candidate = current then pure .refresh
    else do
      rejectIf (¬current.isActive)
        ((taskError "prepared effect attempt is no longer active" fence.taskId)
          |>.withContext "status" current.status.asStr)
      pure (.propose candidate)
  afterConflict candidate observed :=
    if observed.requiresOperatorReconciliation then
      if observed.interruptedReason = candidate.interruptedReason then .ok .refresh
      else .error ((taskError
          "prepared effect shutdown block conflicts with another operation" fence.taskId)
        |>.withContext "operation_digest" operationDigest)
    else .ok .retry
  exhausted :=
    (taskError "prepared effect shutdown block exceeded the CAS retry limit" fence.taskId)
      |>.withContext "operation_digest" operationDigest

def heartbeatExecution (fence : TaskAttemptFence) (heartbeatAtMs : U128) : CasOperation where
  taskId := fence.taskId
  mode := .heartbeat
  decide current := do
    verifyTaskAttemptFence current fence
    rejectIf (¬current.isActive)
      ((taskError "task heartbeat cannot renew a terminal attempt" fence.taskId)
        |>.withContext "status" current.status.asStr)
    if heartbeatAtMs ≤ current.heartbeatAtMs.getD 0 then pure .keep
    else pure (.propose (current.touchHeartbeat heartbeatAtMs))
  afterConflict _ _ := .ok .retry
  exhausted := taskError "task heartbeat exceeded the CAS retry limit" fence.taskId

/-- The request has already been recorded. -/
def carriesCancellation (reason : String) (current : TaskStateSnapshot) : Bool :=
  current.cancelRequested && current.cancelReason = some reason

/-- A queued task is cancelled at once. -/
def cancellationCandidate (reason : String) (current : TaskStateSnapshot) :
    TaskStateSnapshot :=
  if current.status = .queued then (current.requestCancel reason).markCancelled
  else current.requestCancel reason

def requestCancellation (taskId reason : String) : CasOperation where
  taskId
  mode := .compareAndSet
  decide current :=
    if carriesCancellation reason current then .ok .refresh
    else .ok (.propose (cancellationCandidate reason current))
  afterConflict _ observed :=
    .ok (if carriesCancellation reason observed then .refresh else .retry)
  exhausted := taskError "task cancellation exceeded the CAS retry limit" taskId

end CasOperation

/-! ## Calls -/

def recoveryWriterGeneration {directory : TaskDirectory}
    (store : FileSystemTaskStateStore directory) (message : String) :
    Except EvaError WriterGeneration :=
  orReject (.conflict message) (store.writer.map (·.generation))

/-- The checks of a command before its loop, and the loop. -/
def TaskCommand.prepare {directory : TaskDirectory}
    (store : FileSystemTaskStateStore directory) :
    TaskCommand → Except EvaError CasOperation
  | requeueRetryable taskId observedAtMs => do
      RequestId.parse taskId
      pure (.requeueRetryable taskId observedAtMs)
  | recoverAbandonedReplayDelivery taskId => do
      RequestId.parse taskId
      let generation ← recoveryWriterGeneration store
        "replay delivery recovery requires runtime writer ownership"
      pure (.recoverAbandonedReplayDelivery taskId generation)
  | recoverAbandonedTaskForRetry taskId => do
      RequestId.parse taskId
      let generation ← recoveryWriterGeneration store
        "task restart recovery requires runtime writer ownership"
      pure (.recoverAbandonedTaskForRetry taskId generation)
  | recoverTaskFromCommittedEffect taskId operationDigest resultDigest resultSizeBytes => do
      RequestId.parse taskId
      validateCanonicalSha256 operationDigest "effect operation digest"
      validateCanonicalSha256 resultDigest "task result digest"
      let generation ← recoveryWriterGeneration store
        "task restart recovery requires runtime writer ownership"
      pure (.recoverTaskFromCommittedEffect taskId operationDigest resultDigest
        resultSizeBytes generation)
  | blockTaskForUnknownEffect taskId operationDigest => do
      RequestId.parse taskId
      validateCanonicalSha256 operationDigest "effect operation digest"
      let generation ← recoveryWriterGeneration store
        "task restart recovery requires runtime writer ownership"
      pure (.blockTaskForUnknownEffect taskId operationDigest generation)
  | finishExecution fence outcome => pure (.finishExecution fence outcome)
  | finishCommittedEffectExecution fence resultDigest resultSizeBytes =>
      pure (.finishCommittedEffectExecution fence resultDigest resultSizeBytes)
  | requestExecutionCancellation fence reason =>
      pure (.requestExecutionCancellation fence reason)
  | blockPreparedEffectExecution fence operationDigest => do
      validateCanonicalSha256 operationDigest "effect operation digest"
      pure (.blockPreparedEffectExecution fence operationDigest)
  | heartbeatExecution fence heartbeatAtMs => pure (.heartbeatExecution fence heartbeatAtMs)
  | requestCancellation taskId reason => pure (.requestCancellation taskId reason)

def TaskCommand.program {directory : TaskDirectory}
    (store : FileSystemTaskStateStore directory) (command : TaskCommand) :
    StoreProgram directory (Except EvaError TaskStateSnapshot) :=
  match command.prepare store with
  | .error error => .done (.error error)
  | .ok operation => operation.run store

/-- Everything callers can ask of a store. -/
inductive StoreOperation where
  | command (command : TaskCommand)
  | tryClaimQueued (taskId executionOwner cancelToken : String) (observedAtMs : U128)
  | updateSnapshot (taskId : String)
      (update : TaskStateSnapshot → Except EvaError TaskStateSnapshot)
  | create (snapshot : TaskStateSnapshot)
  | compareAndSet (snapshot : TaskStateSnapshot)
  | refreshLatest (taskId : String)
  | read (taskId : Option String)
  | listRecords
  | acquireRuntimeWriter (processId : U32)

inductive StoreReply where
  | record (snapshot : TaskStateSnapshot)
  | claim (claim : Option TaskExecutionClaim)
  | records (snapshots : List TaskStateSnapshot)
  | writer (guard : DurableWriterGuard)

structure StoreCall (directory : TaskDirectory) where
  store : FileSystemTaskStateStore directory
  operation : StoreOperation

/-- Reads the listed files one after the other. -/
def readRecords {directory : TaskDirectory} :
    List String → StoreProgram directory (Except EvaError (List TaskStateSnapshot))
  | [] => .done (.ok [])
  | name :: names => .step (.readRecord name) fun
      | .error error => .done (.error error)
      | .ok snapshot => (readRecords names).map fun snapshots =>
          snapshots.map (snapshot :: ·)

def listRecords {directory : TaskDirectory} :
    StoreProgram directory (Except EvaError (List TaskStateSnapshot)) :=
  .step .taskFileNames fun
    | .error error => .done (.error error)
    | .ok names => readRecords names

def StoreCall.program {directory : TaskDirectory} (call : StoreCall directory) :
    StoreProgram directory (Except EvaError StoreReply) :=
  let record := Except.map (ε := EvaError) StoreReply.record
  match call.operation with
  | .command command => (command.program call.store).map record
  | .tryClaimQueued taskId executionOwner cancelToken observedAtMs =>
      (call.store.tryClaimQueued taskId executionOwner cancelToken observedAtMs).map
        (·.map .claim)
  | .updateSnapshot taskId update => (call.store.updateSnapshot taskId update).map record
  | .create snapshot => (call.store.create snapshot).map record
  | .compareAndSet snapshot => (call.store.compareAndSet snapshot).map record
  | .refreshLatest taskId => .step (.refreshLatest call.store taskId) fun response =>
      .done (response.map .record)
  | .read taskId => .step (.read taskId) fun response => .done (response.map .record)
  | .listRecords => listRecords.map (·.map .records)
  | .acquireRuntimeWriter processId => .step (.acquireWriter processId) fun response =>
      .done (response.map .writer)

@[reducible] def storeInterface (directory : TaskDirectory) : Interface where
  Action := StoreAction directory
  Response := StoreAction.Response
  Environment := StoreEnvironment
  Label := StoreCall directory
  Result := Except EvaError StoreReply
  program := StoreCall.program

/-- Any number of calls by any callers over one task directory. A crash releases
the lock before the alias is written. -/
@[reducible] def taskStore (directory : TaskDirectory) (format : RecordFormat) :
    System (storeInterface directory) where
  State := TaskFiles format
  perform := StoreAction.perform
  restart state := { state with pendingLatest := none }

end Eva.Storage
