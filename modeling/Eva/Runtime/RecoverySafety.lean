import Eva.Runtime.RecoveryPass
import Eva.Storage.EffectLedger.Protocol
import Eva.Storage.EffectLedger.Records

/-! # What restart recovery may repeat

Only an attempt that certainly had no effect goes back to the queue.
-/

namespace Eva.Runtime

open Storage

variable {directory : TaskDirectory} {outside : Outside}

/-- The work of the task may be done again. -/
structure Requeueable (store : FileSystemTaskStateStore directory)
    (handlers : TaskHandlerRegistry) (effects : EffectFiles) (record : TaskStateSnapshot) :
    Prop where
  registered : ∃ envelope, record.envelope = some envelope ∧ handlers.contains envelope.kind ∧
    (handlers.nonIdempotentEffectScope envelope.kind ≠ none →
      recordAt effects envelope.idempotencyKey = none)
  attemptsLeft : record.attempts < record.retryMaxAttempts
  notCancelled : record.cancelRequested = false ∧ record.cancelAccepted = false
  noDeadLetters : record.deadLetters = []
  older : TurnedOver store record ∨ record.replayDelivery ≠ none ∧ record.status ≠ .running

def HasEffect (handlers : TaskHandlerRegistry) (effects : EffectFiles)
    (record : TaskStateSnapshot) (effect : EffectLedgerRecord) : Prop :=
  ∃ envelope, record.envelope = some envelope ∧
    handlers.nonIdempotentEffectScope envelope.kind ≠ none ∧
    recordAt effects envelope.idempotencyKey = some effect

def CompletedBy (effect : EffectLedgerRecord) (final : TaskStateSnapshot) : Prop :=
  ∃ resultDigest resultSizeBytes, effect.resultDigest = some resultDigest ∧
    effect.resultSizeBytes = some resultSizeBytes ∧ final.HasResult resultDigest resultSizeBytes

inductive RecoveryOutcome (store : FileSystemTaskStateStore directory)
    (handlers : TaskHandlerRegistry) (effects : EffectFiles) (record : TaskStateSnapshot) :
    TaskStateSnapshot → Prop where
  | unchanged : RecoveryOutcome store handlers effects record record
  | queued {final} (queued : final.status = .queued)
      (requeueable : Requeueable store handlers effects record) :
      RecoveryOutcome store handlers effects record final
  | completed {final effect} (held : HasEffect handlers effects record effect)
      (committed : effect.state = .committed) (completed : CompletedBy effect final) :
      RecoveryOutcome store handlers effects record final
  | blocked {final effect} (held : HasEffect handlers effects record effect)
      (prepared : effect.state = .prepared)
      (blocked : final.IsBlockedBy effect.operation.operationDigest) :
      RecoveryOutcome store handlers effects record final
  | interrupted {final} (interrupted : final.status = .interrupted)
      (unfinished : record.isActive ∨ record.status = .recovering) :
      RecoveryOutcome store handlers effects record final
  | recovering {final} (recovering : final.status = .recovering)
      (lettered : record.deadLetters ≠ [])
      (status : record.status = .queued ∨ record.isActive) :
      RecoveryOutcome store handlers effects record final

section Outcome

variable {record : TaskStateSnapshot}

theorem recoveryStatus_eq_some (found : recoveryStatus record = some status)
    (unqueued : status ≠ .queued) :
    status = .interrupted ∧ record.isActive ∨
      status = .recovering ∧ record.deadLetters ≠ [] ∧
        (record.status = .queued ∨ record.isActive) := by
  unfold recoveryStatus at found
  split at found
  next lettered =>
      cases found
      refine .inr ⟨rfl, lettered.1, ?_⟩
      rcases lettered.2 with same | same | same <;> simp [same, TaskStateSnapshot.isActive]
  next =>
      split at found
      next => split at found <;> cases found <;> exact absurd rfl unqueued
      next => split at found <;> cases found <;> simp_all [TaskStateSnapshot.isActive]

theorem Stands.requeueable (stands : Stands handlers root effects record.envelope .repeatable)
    (eligible : record.abandonedEligible)
    (older : TurnedOver store record ∨ record.replayDelivery ≠ none ∧ record.status ≠ .running) :
    Requeueable store handlers effects record := by
  simp only [TaskStateSnapshot.abandonedEligible, Bool.and_eq_true, decide_eq_true_eq,
    Bool.not_eq_true'] at eligible
  obtain ⟨⟨⟨⟨⟨-, requested⟩, accepted⟩, letterless⟩, remaining⟩, -⟩ := eligible
  refine ⟨?_, remaining, ⟨requested, accepted⟩, letterless, older⟩
  generalize record.envelope = envelope at stands
  cases stands with
  | idempotent parsed registered unscoped =>
      exact ⟨_, rfl, registered, fun effectful => absurd unscoped effectful⟩
  | absent parsed registered effectful inspected =>
      exact ⟨_, rfl, registered, fun _ => inspected.recorded⟩

theorem Recovers.outcome (recovers : Recovers store handlers root effects record final) :
    RecoveryOutcome store handlers effects record final := by
  obtain ⟨standing, stands, candidate, step, stamps⟩ := recovers
  have status : final.status = candidate.status := by rw [stamps.stamped]
  have reason : final.interruptedReason = candidate.interruptedReason := by rw [stamps.stamped]
  have digest : final.resultDigest = candidate.resultDigest := by rw [stamps.stamped]
  have size : final.resultSizeBytes = candidate.resultSizeBytes := by rw [stamps.stamped]
  cases step with
  | queued log eligible older => exact .queued status (stands.requeueable eligible older)
  | ineligible same =>
      refine .interrupted status ?_
      rcases same with same | same <;> simp [same, TaskStateSnapshot.isActive]
  | unregistered same =>
      refine .interrupted status ?_
      rcases same with same | same | same <;> simp [same, TaskStateSnapshot.isActive]
  | baseline conservative repeated found unqueued =>
      rcases recoveryStatus_eq_some found unqueued with ⟨rfl, active⟩ | ⟨rfl, lettered, active⟩
      · exact .interrupted status (.inl active)
      · exact .recovering status lettered active
  | blocked unblocked turnedOver =>
      generalize enveloped : record.envelope = envelope at stands
      cases stands with
      | prepared parsed registered effectful inspected unfinished =>
          exact .blocked ⟨_, enveloped, by simp [effectful], inspected.recorded⟩ unfinished
            ⟨status, reason⟩
  | completed unfinished turnedOver =>
      generalize enveloped : record.envelope = envelope at stands
      cases stands with
      | committed parsed registered effectful inspected finished held length =>
          exact .completed ⟨_, enveloped, by simp [effectful], inspected.recorded⟩ finished
            ⟨_, _, held, length, status, digest, size⟩

theorem Stands.effect {effect : EffectLedgerRecord}
    (stands : Stands handlers root effects record.envelope standing)
    (held : HasEffect handlers effects record effect) :
    (effect.state = .prepared ∧ standing = .prepared effect.operation.operationDigest) ∨
      (effect.state = .committed ∧ ∃ resultDigest resultSizeBytes,
        effect.resultDigest = some resultDigest ∧ effect.resultSizeBytes = some resultSizeBytes ∧
        standing = .committed effect.operation.operationDigest resultDigest resultSizeBytes) := by
  obtain ⟨envelope, enveloped, scope, present⟩ := held
  rw [enveloped] at stands
  cases stands with
  | unregistered parsed unknown =>
      simp only [TaskHandlerRegistry.contains, Option.isSome_eq_false_iff,
        Option.isNone_iff_eq_none] at unknown
      exact absurd (by rw [TaskHandlerRegistry.nonIdempotentEffectScope, unknown]; rfl) scope
  | idempotent parsed registered unscoped => exact absurd unscoped scope
  | absent parsed registered effectful inspected =>
      rw [inspected.recorded] at present
      cases present
  | prepared parsed registered effectful inspected unfinished =>
      rw [inspected.recorded] at present
      cases present
      exact .inl ⟨unfinished, rfl⟩
  | committed parsed registered effectful inspected finished digest size =>
      rw [inspected.recorded] at present
      cases present
      exact .inr ⟨finished, _, _, digest, size, rfl⟩

theorem isBlockedBy_of_kept
    (kept : record.blockUnknownEffect operationDigest = .ok record) :
    record.IsBlockedBy operationDigest := by
  obtain ⟨-, ⟨blocked, -⟩ | ⟨-, -, -, same, -⟩⟩ :=
    TaskStateSnapshot.blockUnknownEffect_eq_ok_iff.mp kept
  · exact blocked
  · have logs := congrArg (fun snapshot : TaskStateSnapshot => snapshot.logs.length) same
    simp [TaskStateSnapshot.blockedByEffect, TaskStateSnapshot.pushLog,
      TaskStateSnapshot.clearError, TaskStateSnapshot.clearResult] at logs

theorem hasResult_of_kept
    (kept : record.recoverCommittedEffect operationDigest resultDigest resultSizeBytes =
      .ok record) : record.HasResult resultDigest resultSizeBytes := by
  obtain ⟨-, -, -, ⟨has, -⟩ | ⟨-, same, -⟩⟩ :=
    TaskStateSnapshot.recoverCommittedEffect_eq_ok_iff.mp kept
  · exact has
  · exact absurd same.symm TaskStateSnapshot.completedFromEffect_ne

theorem IsSettled.effect (settled : IsSettled handlers root effects record)
    {effect : EffectLedgerRecord} (held : HasEffect handlers effects record effect) :
    (effect.state = .prepared → record.IsBlockedBy effect.operation.operationDigest) ∧
      (effect.state = .committed → CompletedBy effect record) := by
  obtain ⟨standing, stands, settled⟩ := settled
  rcases stands.effect held with
    ⟨prepared, rfl⟩ | ⟨committed, resultDigest, resultSizeBytes, digest, size, rfl⟩
  · refine ⟨fun _ => ?_, fun other => absurd (prepared.symm.trans other) nofun⟩
    exact isBlockedBy_of_kept settled
  · refine ⟨fun other => absurd (committed.symm.trans other) nofun,
      fun _ => ⟨resultDigest, resultSizeBytes, digest, size, ?_⟩⟩
    exact hasResult_of_kept settled

theorem Recovers.effect (recovers : Recovers store handlers root effects record final)
    {effect : EffectLedgerRecord} (held : HasEffect handlers effects record effect) :
    (effect.state = .prepared → final.IsBlockedBy effect.operation.operationDigest) ∧
      (effect.state = .committed → CompletedBy effect final) := by
  obtain ⟨standing, stands, candidate, step, stamps⟩ := recovers
  have status : final.status = candidate.status := by rw [stamps.stamped]
  rcases stands.effect held with
    ⟨prepared, rfl⟩ | ⟨committed, resultDigest, resultSizeBytes, digest, size, rfl⟩
  · refine ⟨fun _ => ?_, fun other => absurd (prepared.symm.trans other) nofun⟩
    have reason : final.interruptedReason = candidate.interruptedReason := by rw [stamps.stamped]
    cases step with
    | baseline conservative => exact absurd conservative (by simp)
    | blocked => exact ⟨status, reason⟩
  · refine ⟨fun other => absurd (committed.symm.trans other) nofun,
      fun _ => ⟨resultDigest, resultSizeBytes, digest, size, ?_⟩⟩
    have held : final.resultDigest = candidate.resultDigest := by rw [stamps.stamped]
    have length : final.resultSizeBytes = candidate.resultSizeBytes := by rw [stamps.stamped]
    cases step with
    | baseline conservative => exact absurd conservative (by simp)
    | completed => exact ⟨status, held, length⟩

end Outcome

/-! ## A directory with one task -/

namespace Sample

def abandoned : TaskStateSnapshot :=
  { Storage.Sample.task with
    recordVersion := 2
    ownerGeneration := 1
    status := .running
    attempts := 1 }

def lettered : TaskStateSnapshot :=
  { abandoned with deadLetters := [⟨"event-demo", "/demo", "unavailable", "lost", 0⟩] }

def left (record : TaskStateSnapshot) : RuntimeFiles .record where
  tasks := {
    files := [(taskFileName record.taskId, record)]
    pendingLatest := none
    writer := ⟨2, some ⟨"", 2, 7⟩⟩ }
  effects := []

def registry : TaskHandlerRegistry := ⟨[("demo.echo", none)]⟩

def effectLedger : FileSystemEffectLedger Storage.Sample.durable where
  root := "/project/.eva/effects"
  writer := some (Storage.Sample.guard 2)

/-- The recovery of the second writer. -/
abbrev recovery : RuntimeProgram Storage.Sample.durable Storage.Sample.silent
    (Except EvaError RuntimeRecoveryReport) :=
  recoverEffectAwareTasks (Storage.Sample.owned 2) registry effectLedger

def endsAs (status : TaskStatus) (record : TaskStateSnapshot) : Bool :=
  match recovery.conclude RuntimeAction.perform Storage.Sample.calm (left record) with
  | some (after, .ok _) =>
      match Storage.Sample.durable.read after.tasks none (some record.taskId) with
      | .ok final => final.status = status
      | .error _ => false
  | _ => false

theorem holds_left (valid : record.Valid)
    (storable : record.Storable) (committed : record.recordVersion ≠ 0) :
    Holds (left record).tasks := by
  refine ⟨fun file member => ?_, fun _ held => by cases held⟩
  obtain rfl := List.mem_singleton.mp member
  exact ⟨record, valid, committed, (TaskStateSnapshot.stored_eq_self_iff.mpr storable).symm⟩

theorem reaches_of_endsAs {status : TaskStatus}
    (valid : record.Valid) (storable : record.Storable) (committed : record.recordVersion ≠ 0)
    (ends : endsAs status record) :
    ∃ after report final,
      Reaches ((left record).written .text) recovery after (.done (.ok report)) ∧
      Storage.Sample.durable.read ((left record).written .text).tasks none (some record.taskId) =
        .ok record ∧
      Storage.Sample.durable.read after.tasks none (some record.taskId) = .ok final ∧
      final.status = status := by
  have holds := holds_left valid storable committed
  have read : Storage.Sample.durable.read (left record).tasks none (some record.taskId) =
      .ok record :=
    TaskDirectory.read_of_file List.lookup_cons_self
      (TaskStateSnapshot.validated_eq_ok_iff.mpr ⟨valid, rfl⟩) valid.identified
  unfold endsAs at ends
  split at ends
  next after report concluded =>
      obtain ⟨image, held⟩ := conclude_written RecordFormat.text_faithful holds concluded
      split at ends
      next final reread =>
          refine ⟨_, report, final, Program.reaches_of_conclude image, ?_, ?_,
            of_decide_eq_true ends⟩
          · exact (holds.read RecordFormat.text_faithful _).trans read
          · exact (held.read RecordFormat.text_faithful _).trans reread
      next => cases ends
  next => cases ends

theorem abandoned_facts : abandoned.Valid ∧ abandoned.Storable ∧ endsAs .queued abandoned := by
  decide +kernel

/-- The attempt that the first writer has left is queued again. -/
theorem reaches_abandoned : ∃ after report final,
    Reaches ((left abandoned).written .text) recovery after (.done (.ok report)) ∧
    Storage.Sample.durable.read ((left abandoned).written .text).tasks none
      (some abandoned.taskId) = .ok abandoned ∧
    Storage.Sample.durable.read after.tasks none (some abandoned.taskId) = .ok final ∧
    final.status = .queued :=
  reaches_of_endsAs abandoned_facts.1 abandoned_facts.2.1 (by decide) abandoned_facts.2.2

end Sample

/-! ## The whole pass -/

section Pass

variable {store : FileSystemTaskStateStore directory} {handlers : TaskHandlerRegistry}
  {effectLedger : FileSystemEffectLedger directory} {record : TaskStateSnapshot}
  {taskId : String}

/-- Wherever restart recovery stops, a task that was read before reads as it did, or it went
where its effect, its handler and its record allow. If recovery has come to its end, every
recorded effect shows in its task. -/
theorem recovery_repeats_only_safe_attempts {before after : RuntimeFiles .text}
    {rest : RuntimeProgram directory outside (Except EvaError RuntimeRecoveryReport)}
    (reaches : Reaches before (recoverEffectAwareTasks store handlers effectLedger) after rest)
    (own : HasOwnFile taskId)
    (read : directory.read before.tasks none (some taskId) = .ok record) :
    ∃ final, directory.read after.tasks none (some taskId) = .ok final ∧
      RecoveryOutcome store handlers before.effects record final ∧
      (Completes rest → ∀ effect, HasEffect handlers before.effects record effect →
        (effect.state = .prepared → final.IsBlockedBy effect.operation.operationDigest) ∧
        (effect.state = .committed → CompletedBy effect final)) := by
  rcases recoverEffectAwareTasks_passes RecordFormat.text_normal reaches with
    ⟨rfl, incomplete⟩ | ⟨records, all, passes⟩
  · exact ⟨record, read, .unchanged, fun complete => absurd complete incomplete⟩
  have member := all.mem own read
  obtain ⟨-, named, -⟩ := TaskDirectory.read_eq_ok_iff.mp read
  obtain ⟨final, reread, arrived⟩ := passes.arrives record member
  rw [named] at reread
  refine ⟨final, reread, ?_⟩
  rcases arrived with ⟨rfl, settled⟩ | recovers
  · exact ⟨.unchanged, fun complete effect held => (settled complete).effect held⟩
  · exact ⟨recovers.outcome, fun _ effect held => recovers.effect held⟩

/-- An unfinished task with a dead letter ends in none of the expected ways: it is neither
queued nor completed nor interrupted, and it has changed. -/
theorem recovery_of_dead_lettered_task :
    ∃ after report final,
      Reaches ((Sample.left Sample.lettered).written .text) Sample.recovery after
        (.done (.ok report)) ∧
      Storage.Sample.durable.read ((Sample.left Sample.lettered).written .text).tasks none
        (some Sample.lettered.taskId) = .ok Sample.lettered ∧
      Sample.lettered.status = .running ∧
      Storage.Sample.durable.read after.tasks none (some Sample.lettered.taskId) = .ok final ∧
      final.status = .recovering := by
  obtain ⟨after, report, final, reaches, read, reread, recovering⟩ :=
    @Sample.reaches_of_endsAs Sample.lettered .recovering (by decide) (by decide)
      (by decide) (by decide +kernel)
  exact ⟨after, report, final, reaches, read, rfl, reread, recovering⟩

end Pass

end Eva.Runtime
