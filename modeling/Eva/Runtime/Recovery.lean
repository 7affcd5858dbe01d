import Eva.Storage.EffectLedger.System

/-! # Restart recovery

What a new writer does with the records that earlier ones have left: the registered
handlers and the effect ledger decide whether a task may be queued again.
-/

namespace Eva.Runtime

open Storage

/-- The kinds that have a handler, with the effect scope of the non-idempotent ones. -/
structure TaskHandlerRegistry where
  handlers : List (String × Option String)

namespace TaskHandlerRegistry

variable (registry : TaskHandlerRegistry) (kind : String)

def contains : Bool := (registry.handlers.lookup kind).isSome

def nonIdempotentEffectScope : Option String := (registry.handlers.lookup kind).join

end TaskHandlerRegistry

structure RecoveredTask where
  taskId : String
  previousStatus : TaskStatus
  status : TaskStatus
  redriveCandidate : Bool
deriving DecidableEq

/-- The part of the report that task recovery fills in. -/
structure RuntimeRecoveryReport where
  scannedTasks : Nat
  recoveredTasks : List RecoveredTask
  unchangedTasks : List String
  recoveredSnapshots : List TaskStateSnapshot
  audit : List String
deriving DecidableEq

def emptyRecoveryReport (scannedTasks : Nat) : RuntimeRecoveryReport where
  scannedTasks := scannedTasks
  recoveredTasks := []
  unchangedTasks := []
  recoveredSnapshots := []
  audit := []

/-! ## Decisions on one record -/

/-- The status that a record gets without handler or ledger facts. -/
def recoveryStatus (snapshot : TaskStateSnapshot) : Option TaskStatus :=
  if snapshot.deadLetters ≠ [] ∧ (snapshot.status = .queued ∨ snapshot.status = .running ∨
      snapshot.status = .cancelling) then
    some .recovering
  else if snapshot.replayDelivery ≠ none ∧ ¬snapshot.cancelRequested ∧
      ¬snapshot.cancelAccepted then
    match snapshot.status with
    | .running | .interrupted | .recovering => some .queued
    | _ => none
  else
    match snapshot.status with
    | .running | .cancelling => some .interrupted
    | _ => none

def baselineCandidate (snapshot : TaskStateSnapshot) (status : TaskStatus) :
    TaskStateSnapshot :=
  { snapshot with status }.pushLog "warning"
    ("runtime recovery marked " ++ snapshot.status.asStr ++ " task as " ++ status.asStr ++
      " after restart")

variable {directory : TaskDirectory} {outside : Outside}
  (store : FileSystemTaskStateStore directory) (handlers : TaskHandlerRegistry)
  (effectLedger : FileSystemEffectLedger directory) (snapshot : TaskStateSnapshot)

def rejectCurrentGenerationLiveRecovery : Except EvaError Unit :=
  rejectIf (store.writer.map (·.generation) = some snapshot.ownerGeneration ∧ snapshot.isActive)
    ((EvaError.conflict
        "restart recovery cannot interrupt a live task from the current writer generation")
      |>.withContext "task_id" snapshot.taskId
      |>.withContext "status" snapshot.status.asStr
      |>.withContext "writer_generation" snapshot.ownerGeneration.text)

/-! ## Programs -/

def recoverAbandonedReplayDelivery :
    RuntimeProgram directory outside (Except EvaError TaskStateSnapshot) :=
  ((TaskCommand.recoverAbandonedReplayDelivery snapshot.taskId).program store).embed

def recoverAbandonedTaskForRetry :
    RuntimeProgram directory outside (Except EvaError TaskStateSnapshot) :=
  ((TaskCommand.recoverAbandonedTaskForRetry snapshot.taskId).program store).embed

def interruptTaskAfterRestart (reason : String) :
    RuntimeProgram directory outside (Except EvaError TaskStateSnapshot) :=
  (store.compareAndSet (snapshot.markInterrupted reason)).embed

def recoverBaselineSnapshot :
    RuntimeProgram directory outside (Except EvaError TaskStateSnapshot) :=
  match recoveryStatus snapshot with
  | none => .done (.ok snapshot)
  | some status =>
      if status = .queued ∧ snapshot.replayDelivery ≠ none then
        recoverAbandonedReplayDelivery store snapshot
      else (store.compareAndSet (baselineCandidate snapshot status)).embed

def interruptUnknownHandlerAfterRestart :
    RuntimeProgram directory outside (Except EvaError TaskStateSnapshot) :=
  match snapshot.status with
  | .running | .cancelling | .recovering =>
      interruptTaskAfterRestart store snapshot
        "registered task handler is unavailable during restart recovery"
  | _ => .done (.ok snapshot)

/-- An attempt that may be repeated. -/
def recoverAbandoned :
    RuntimeProgram directory outside (Except EvaError TaskStateSnapshot) :=
  if snapshot.replayDelivery ≠ none then recoverAbandonedReplayDelivery store snapshot
  else recoverAbandonedTaskForRetry store snapshot

def recoverRegisteredSafeTask :
    RuntimeProgram directory outside (Except EvaError TaskStateSnapshot) :=
  match snapshot.status with
  | .running | .interrupted | .recovering =>
      (recoverAbandoned store snapshot).andThen fun recovered =>
        if recovered ≠ snapshot ∨ snapshot.status = .interrupted then .done (.ok recovered)
        else if snapshot.replayDelivery ≠ none ∧ snapshot.deadLetters = [] then
          interruptTaskAfterRestart store snapshot
            "abandoned replay delivery is not eligible for another attempt"
        else recoverBaselineSnapshot store snapshot
  | _ => recoverBaselineSnapshot store snapshot

def effectOperation (envelope : TaskEnvelopeSnapshot) (effectScope : String) :
    Except EvaError EffectOperationIdentity :=
  (EffectOperationIdentity.new envelope.idempotencyKey envelope.kind envelope.agentId
    effectScope envelope.input.digest).mapError (·.withContext "task_id" snapshot.taskId)

/-- What the record of an operation says about its task. -/
def recoverRecordedEffect (record : EffectLedgerRecord) :
    RuntimeProgram directory outside (Except EvaError (TaskStateSnapshot × String)) :=
  let operationDigest := record.operation.operationDigest
  let missing (message : String) : EvaError :=
    (EvaError.conflict message)
      |>.withContext "task_id" snapshot.taskId
      |>.withContext "operation_digest" operationDigest
  match record.state with
  | .prepared =>
      ((TaskCommand.blockTaskForUnknownEffect snapshot.taskId operationDigest).program
        store).embed.map (·.map (·, "effect_prepared_operator_block"))
  | .committed =>
      match record.resultDigest, record.resultSizeBytes with
      | none, _ =>
          .done (.error (missing "committed effect record is missing its result digest"))
      | _, none =>
          .done (.error (missing "committed effect record is missing its result size"))
      | some resultDigest, some resultSizeBytes =>
          ((TaskCommand.recoverTaskFromCommittedEffect snapshot.taskId operationDigest
            resultDigest resultSizeBytes).program store).embed.map
              (·.map (·, "effect_committed_completed"))

/-- A task whose handler changes something outside. -/
def recoverNonIdempotentTask (envelope : TaskEnvelopeSnapshot) (effectScope : String) :
    RuntimeProgram directory outside (Except EvaError (TaskStateSnapshot × String)) :=
  match effectOperation snapshot envelope effectScope with
  | .error error => .done (.error error)
  | .ok operation => .step (.inspect effectLedger operation) fun
      | .error error => .done (.error (error.withContext "task_id" snapshot.taskId))
      | .ok none => (recoverRegisteredSafeTask store snapshot).map
          (·.map (·, "effect_absent_safe_retry"))
      | .ok (some record) => recoverRecordedEffect store snapshot record

def recoverEffectAwareTask :
    RuntimeProgram directory outside (Except EvaError (TaskStateSnapshot × String)) :=
  match rejectCurrentGenerationLiveRecovery store snapshot with
  | .error error => .done (.error error)
  | .ok () =>
  match snapshot.envelope with
  | none => (recoverBaselineSnapshot store snapshot).map (·.map (·, "legacy_conservative"))
  | some envelope =>
  match validateTaskKind envelope.kind with
  | .error error => .done (.error (error.withContext "task_id" snapshot.taskId))
  | .ok () =>
      if ¬handlers.contains envelope.kind then
        (interruptUnknownHandlerAfterRestart store snapshot).map
          (·.map (·, "unknown_handler_interrupted"))
      else match handlers.nonIdempotentEffectScope envelope.kind with
        | none => (recoverRegisteredSafeTask store snapshot).map (·.map (·, "safe_handler"))
        | some effectScope =>
            recoverNonIdempotentTask store effectLedger snapshot envelope effectScope

/-! ## The pass over all records -/

def RuntimeRecoveryReport.record (report : RuntimeRecoveryReport)
    (previous recovered : TaskStateSnapshot) (decision : String) : RuntimeRecoveryReport :=
  let report := { report with
    audit := report.audit ++ ["runtime.recovery:task:" ++ previous.taskId ++ ":" ++ decision] }
  if recovered = previous then
    { report with unchangedTasks := report.unchangedTasks ++ [previous.taskId] }
  else
    { report with
      recoveredTasks := report.recoveredTasks ++ [{
        taskId := recovered.taskId
        previousStatus := previous.status
        status := recovered.status
        redriveCandidate := recovered.status = .recovering }]
      recoveredSnapshots := report.recoveredSnapshots ++ [recovered] }

def RuntimeRecoveryReport.summarized (report : RuntimeRecoveryReport) : RuntimeRecoveryReport :=
  { report with
    audit := report.audit ++
      ["runtime.recovery:scanned:" ++ toString report.scannedTasks,
        "runtime.recovery:recovered:" ++ toString report.recoveredTasks.length,
        "runtime.recovery:unchanged:" ++ toString report.unchangedTasks.length,
        "runtime.recovery:effect_aware:true"] }

/-- The loop of `recover_effect_aware_tasks`. -/
def recoverEachTask : RuntimeRecoveryReport → List TaskStateSnapshot →
    RuntimeProgram directory outside (Except EvaError RuntimeRecoveryReport)
  | report, [] => .done (.ok report.summarized)
  | report, snapshot :: snapshots =>
      (recoverEffectAwareTask store handlers effectLedger snapshot).andThen
        fun (recovered, decision) =>
          recoverEachTask (report.record snapshot recovered decision) snapshots

def recoverEffectAwareTasks :
    RuntimeProgram directory outside (Except EvaError RuntimeRecoveryReport) :=
  (listRecords.embed).andThen fun snapshots =>
    recoverEachTask store handlers effectLedger (emptyRecoveryReport snapshots.length) snapshots

end Eva.Runtime
