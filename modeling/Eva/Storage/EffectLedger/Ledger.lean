import Eva.Storage.EffectLedger.Format
import Eva.Storage.TaskState.Store

/-! # The effect directory

One file per idempotency key, named by a digest of the key. Every call reads the
whole directory under the lock of the writer and fails on the first file that is
not a record of its name; `prepare_for_claim` also reads the claim of the task.
-/

namespace Eva.Storage

/-- The later of two writes of a name hides the earlier one. -/
abbrev EffectFiles := List (String × String)

/-- The files that the stores of a runtime share. -/
structure RuntimeFiles (format : RecordFormat) where
  tasks : TaskFiles format
  effects : EffectFiles

structure FileSystemEffectLedger (directory : TaskDirectory) where
  root : String
  writer : Option DurableWriterGuard

def effectRecordStem (idempotencyKey : String) : String :=
  String.ofList (canonicalHex "eva.effect-record-key.v1" [idempotencyKey])

def effectFileName (idempotencyKey : String) : String :=
  effectRecordStem idempotencyKey ++ ".effect"

def TaskStateSnapshot.deadlineExpired (snapshot : TaskStateSnapshot) (nowMs : U128) : Bool :=
  match snapshot.deadlineAtMs with
  | some deadline => deadline ≤ nowMs
  | none => false

namespace EffectLedgerRecord

def key (record : EffectLedgerRecord) : String := record.operation.idempotencyKey

end EffectLedgerRecord

/-! ## Reading and writing files -/

section Files

variable (root : String) (effects : EffectFiles) (fault : Option IoFault)

def effectPath (name : String) : String := root ++ "/" ++ name

def effectNames : List String :=
  (effects.map Prod.fst).dedup.filter fun name =>
    (TaskDirectory.fileStem name.toList "effect".toList).isSome

def loadEffectRecord (name : String) : Except EvaError EffectLedgerRecord := do
  let path := effectPath root name
  failsAt fault .inspectEffectEntry
    (pathError (.conflict "failed to inspect effect ledger entry") path)
  failsAt fault .readEffectRecord
    (pathError (.conflict "failed to read effect ledger record") path)
  let data ← orReject
    (pathError (.conflict "failed to read effect ledger record") path "file is missing")
    (effects.lookup name)
  let record ← (effectRecordFromStorage data).mapError
    fun error => error.withContext "path" path
  rejectIf (TaskDirectory.fileStem name.toList "effect".toList ≠
      some (effectRecordStem record.key).toList)
    ((EvaError.conflict "effect ledger file key does not match record")
      |>.withContext "path" path)
  pure record

def insertEffectRecord (records : List (String × EffectLedgerRecord)) (name : String) :
    Except EvaError (List (String × EffectLedgerRecord)) := do
  let record ← loadEffectRecord root effects fault name
  rejectIf ((records.lookup record.key).isSome)
    (.conflict "effect ledger idempotency key is duplicated")
  pure ((record.key, record) :: records)

def loadEffectRecords : Except EvaError (List (String × EffectLedgerRecord)) := do
  failsAt fault .readEffectDirectory
    (pathError (.internal "failed to read effect ledger directory") root)
  failsAt fault .readEffectEntry
    (pathError (.internal "failed to read effect ledger entry") root)
  (effectNames effects).foldlM (insertEffectRecord root effects fault) []

/-- A failure after the replacement leaves the new file behind. -/
def persistEffectRecord (record : EffectLedgerRecord) : EffectFiles × Except EvaError Unit :=
  let name := effectFileName record.key
  let error := pathError (.internal "failed to atomically write effect ledger record")
    (effectPath root name)
  match failsAt fault .replaceEffectRecord error with
  | .error error => (effects, .error error)
  | .ok () =>
      ((name, effectRecordToStorage record) :: effects, failsAt fault .syncEffectDirectory error)

end Files

def ensureOperationMatches (record : EffectLedgerRecord) (operation : EffectOperationIdentity) :
    Except EvaError Unit :=
  rejectIf (record.operation ≠ operation)
    ((EvaError.conflict "effect idempotency key is already bound to another operation")
      |>.withContext "existing_operation_digest" record.operation.operationDigest
      |>.withContext "requested_operation_digest" operation.operationDigest)

/-! ## Single transactions -/

section Transactions

variable (root : String) (effects : EffectFiles) (fault : Option IoFault)
  (records : List (String × EffectLedgerRecord))

def inspectEffectRecord (operation : EffectOperationIdentity) :
    Except EvaError (Option EffectLedgerRecord) :=
  match records.lookup operation.idempotencyKey with
  | none => .ok none
  | some record => do
      ensureOperationMatches record operation
      pure (some record)

def prepareEffectRecord (intent : EffectLedgerIntent) :
    EffectFiles × Except EvaError EffectPrepareOutcome :=
  match records.lookup intent.operation.idempotencyKey with
  | some record =>
      (effects, do
        ensureOperationMatches record intent.operation
        pure (match record.state with
          | .prepared => .prepared record
          | .committed => .committed record))
  | none =>
      let record := EffectLedgerRecord.prepared intent
      match record.validate with
      | .error error => (effects, .error error)
      | .ok () =>
          let (effects, persisted) := persistEffectRecord root effects fault record
          (effects, persisted.map fun _ => .created record)

def EffectLedgerRecord.committedWith (record : EffectLedgerRecord) (resultDigest : String)
    (resultSizeBytes : Usize) (committedAtMs : U128) : EffectLedgerRecord :=
  { record with
    state := .committed
    committedAtMs := some committedAtMs
    resultDigest := some resultDigest
    resultSizeBytes := some resultSizeBytes }

/-- The record was prepared under the fence of the intent. -/
def EffectLedgerIntent.Prepared (intent : EffectLedgerIntent) (record : EffectLedgerRecord) :
    Prop :=
  record.preparedTaskId = intent.taskId ∧
    record.preparedOwnerGeneration = intent.ownerGeneration ∧
    record.preparedAttempt = intent.attempt ∧ record.preparedFenceDigest = intent.fenceDigest

instance (intent : EffectLedgerIntent) (record : EffectLedgerRecord) :
    Decidable (intent.Prepared record) :=
  inferInstanceAs (Decidable (_ ∧ _ ∧ _ ∧ _))

def checkEffectCommit (intent : EffectLedgerIntent) : Except EvaError EffectLedgerRecord := do
  let digest := intent.operation.operationDigest
  let current ← orReject
    ((EvaError.conflict "effect cannot commit before prepare")
      |>.withContext "operation_digest" digest)
    (records.lookup intent.operation.idempotencyKey)
  ensureOperationMatches current intent.operation
  rejectIf (¬intent.Prepared current)
    ((EvaError.conflict "effect commit task fence does not match the prepare owner")
      |>.withContext "operation_digest" digest)
  pure current

def commitEffectRecord (intent : EffectLedgerIntent) (resultDigest : String)
    (resultSizeBytes : Usize) (committedAtMs : U128) :
    EffectFiles × Except EvaError EffectLedgerRecord :=
  match checkEffectCommit records intent with
  | .error error => (effects, .error error)
  | .ok current =>
      match current.state with
      | .committed =>
          (effects, do
            rejectIf (¬(current.resultDigest = some resultDigest ∧
                current.resultSizeBytes = some resultSizeBytes))
              ((EvaError.conflict "committed effect result identity cannot be rewritten")
                |>.withContext "operation_digest" intent.operation.operationDigest)
            pure current)
      | .prepared =>
          let committed := current.committedWith resultDigest resultSizeBytes committedAtMs
          match committed.validate with
          | .error error => (effects, .error error)
          | .ok () =>
              let (effects, persisted) := persistEffectRecord root effects fault committed
              (effects, persisted.map fun _ => committed)

end Transactions

/-! ## Calls -/

section Calls

variable {directory : TaskDirectory} {format : RecordFormat} (state : RuntimeFiles format)
  (fault : Option IoFault) (clock : Except String U128)

def DurableWriterGuard.enterWriteLock (writer : DurableWriterGuard) (layout : WriterLayout)
    (files : WriterFiles) : Except EvaError WriterGeneration := do
  failsAt fault .processLock fun _ =>
    (EvaError.internal "durable runtime writer process lock is poisoned")
      |>.withContext "path" layout.ownerPath
  writer.verifyCurrent layout files fault
  pure writer.generation

def effectNowMs : Except EvaError U128 :=
  clock.mapError fun error =>
    (EvaError.internal "system clock is before the Unix epoch")
      |>.withContext "clock_error" error

def TaskEnvelopeSnapshot.hasOperation (envelope : TaskEnvelopeSnapshot)
    (operation : EffectOperationIdentity) : Bool :=
  envelope.idempotencyKey = operation.idempotencyKey && envelope.kind = operation.taskKind &&
    envelope.agentId = operation.agentId && envelope.input.digest = operation.inputDigest

def verifyEffectTaskClaim (directory : TaskDirectory) (tasks : TaskFiles format)
    (intent : EffectLedgerIntent) (writerGeneration : WriterGeneration) (observedAtMs : U128) :
    Except EvaError Unit := do
  let taskConflict (message : String) : EvaError :=
    (EvaError.conflict message).withContext "task_id" intent.taskId
  rejectIf (intent.ownerGeneration ≠ writerGeneration)
    (taskConflict "effect prepare belongs to another writer generation")
  let snapshot ← directory.read tasks fault (some intent.taskId)
  rejectIf (snapshot.status ≠ .running ∨ snapshot.cancelRequested ∨ snapshot.cancelAccepted)
    (((EvaError.conflict "effect prepare requires an uncancelled running task").withRetryable false)
      |>.withContext "task_id" intent.taskId
      |>.withContext "status" snapshot.status.asStr)
  rejectIf (snapshot.deadlineExpired observedAtMs)
    (.timeout "effect task deadline expired before prepare")
  let envelope ← orReject (taskConflict "effect task is missing its immutable envelope")
    snapshot.envelope
  rejectIf (¬envelope.hasOperation intent.operation)
    ((taskConflict "effect operation does not match the claimed task envelope")
      |>.withContext "operation_digest" intent.operation.operationDigest)
  let executionOwner ← orReject (taskConflict "effect task is missing its execution owner")
    snapshot.executionOwner
  let cancelToken ← orReject (taskConflict "effect task is missing its cancellation fence")
    snapshot.cancelToken
  rejectIf (snapshot.ownerGeneration ≠ intent.ownerGeneration ∨
      snapshot.attempts ≠ intent.attempt ∨
      effectFenceDigest snapshot.taskId snapshot.ownerGeneration executionOwner
        snapshot.attempts cancelToken ≠ intent.fenceDigest)
    (taskConflict "effect prepare task fence does not match the live claim")

variable (ledger : FileSystemEffectLedger directory)

namespace FileSystemEffectLedger

/-- What a claim transaction checks before it waits for the lock. -/
def claimWriter (taskStore : FileSystemTaskStateStore directory) :
    Except EvaError DurableWriterGuard := do
  let writer ← orReject (.conflict "read-only effect ledger cannot prepare records")
    ledger.writer
  rejectIf (directory.projectRoot ≠ directory.writerLayout.root ∨
      taskStore.writer.map (·.generation) ≠ some writer.generation)
    (.conflict "effect ledger and task store do not share runtime writer ownership")
  pure writer

def enterClaim (writer : DurableWriterGuard) (intent : EffectLedgerIntent) :
    Except EvaError (U128 × List (String × EffectLedgerRecord)) := do
  let generation ← writer.enterWriteLock fault directory.writerLayout state.tasks.writer
  let observedAtMs ← effectNowMs clock
  verifyEffectTaskClaim fault directory state.tasks intent generation observedAtMs
  let records ← loadEffectRecords ledger.root state.effects fault
  pure (observedAtMs, records)

/-- `none` while a task commit holds the lock. -/
def inspectForClaim (taskStore : FileSystemTaskStateStore directory)
    (intent : EffectLedgerIntent) : Option (Except EvaError (Option EffectLedgerRecord)) :=
  match ledger.claimWriter taskStore with
  | .error error => some (.error error)
  | .ok writer =>
      if state.tasks.pendingLatest.isSome then none
      else some do
        let (_, records) ← ledger.enterClaim state fault clock writer intent
        inspectEffectRecord records intent.operation

/-- The prepare time is taken under the lock. -/
def prepareForClaim (taskStore : FileSystemTaskStateStore directory)
    (intent : EffectLedgerIntent) :
    Option (RuntimeFiles format × Except EvaError EffectPrepareOutcome) :=
  match ledger.claimWriter taskStore with
  | .error error => some (state, .error error)
  | .ok writer =>
      if state.tasks.pendingLatest.isSome then none
      else match ledger.enterClaim state fault clock writer intent with
        | .error error => some (state, .error error)
        | .ok (observedAtMs, records) =>
            let (effects, result) := prepareEffectRecord ledger.root state.effects fault records
              { intent with preparedAtMs := observedAtMs }
            some ({ state with effects }, result)

def commitWriter (intent : EffectLedgerIntent) (resultDigest : String) :
    Except EvaError DurableWriterGuard := do
  validateSha256Digest "result_digest" resultDigest
  rejectIf (ledger.writer.map (·.generation) ≠ some intent.ownerGeneration)
    ((EvaError.conflict "effect commit belongs to another writer generation")
      |>.withContext "operation_digest" intent.operation.operationDigest)
  orReject (.conflict "read-only effect ledger cannot mutate records") ledger.writer

def enterWrite (writer : DurableWriterGuard) :
    Except EvaError (List (String × EffectLedgerRecord)) := do
  let _ ← writer.enterWriteLock fault directory.writerLayout state.tasks.writer
  loadEffectRecords ledger.root state.effects fault

def commit (intent : EffectLedgerIntent) (resultDigest : String) (resultSizeBytes : Usize)
    (committedAtMs : U128) :
    Option (RuntimeFiles format × Except EvaError EffectLedgerRecord) :=
  match ledger.commitWriter intent resultDigest with
  | .error error => some (state, .error error)
  | .ok writer =>
      if state.tasks.pendingLatest.isSome then none
      else match ledger.enterWrite state fault writer with
        | .error error => some (state, .error error)
        | .ok records =>
            let (effects, result) := commitEffectRecord ledger.root state.effects fault records
              intent resultDigest resultSizeBytes committedAtMs
            some ({ state with effects }, result)

/-- A handle without a writer reads the directory without the lock. -/
def inspect (operation : EffectOperationIdentity) :
    Option (Except EvaError (Option EffectLedgerRecord)) :=
  match ledger.writer with
  | some writer =>
      if state.tasks.pendingLatest.isSome then none
      else some do
        let records ← ledger.enterWrite state fault writer
        inspectEffectRecord records operation
  | none => some do
      let records ← loadEffectRecords ledger.root state.effects fault
      inspectEffectRecord records operation

end FileSystemEffectLedger

end Calls

end Eva.Storage
