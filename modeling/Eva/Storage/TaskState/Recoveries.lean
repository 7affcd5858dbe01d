import Eva.Storage.TaskState.Alone
import Eva.Storage.TaskState.CommittedEffect

/-! # Recovery commands on their own

Each of the commands that restart recovery uses leaves a record alone or replaces it
once: what it has committed is nothing that it would change again.
-/

namespace Eva.Storage

variable {directory : TaskDirectory} {format : RecordFormat}

/-! ## Stored forms -/

namespace TaskStateSnapshot

variable {snapshot : TaskStateSnapshot}

theorem Storable.abandonedQueued (normal : snapshot.Storable) (log : String) :
    (snapshot.abandonedQueued log).Storable :=
  ⟨normal.cancelReason, nofun, nofun, nofun, fun _ => ⟨rfl, rfl⟩⟩

theorem Storable.markInterrupted (storable : snapshot.Storable)
    (nonempty : reason ≠ "") : (snapshot.markInterrupted reason).Storable :=
  { storable with interruptedReason := fun same => nonempty (Option.some.inj same) }

theorem unknownEffectReason_ne_empty (operationDigest : String) :
    unknownEffectRecoveryReasonPrefix ++ operationDigest ≠ "" := by
  intro empty
  have length := congrArg (fun text : String => text.toList.length) empty
  rw [String.toList_append, List.length_append] at length
  have positive : 0 < unknownEffectRecoveryReasonPrefix.toList.length := by decide
  have none : "".toList.length = 0 := rfl
  omega

theorem Storable.blockedByEffect (normal : snapshot.Storable) (operationDigest : String) :
    (snapshot.blockedByEffect operationDigest).Storable :=
  ⟨normal.cancelReason,
    fun empty => unknownEffectReason_ne_empty operationDigest (Option.some.inj empty),
    nofun, nofun, fun _ => ⟨rfl, rfl⟩⟩

end TaskStateSnapshot

/-! ## Single changes -/

def TaskCommand.IsRecovery : TaskCommand → Prop
  | recoverAbandonedReplayDelivery _ | recoverAbandonedTaskForRetry _
  | recoverTaskFromCommittedEffect .. | blockTaskForUnknownEffect .. => True
  | _ => False

structure Stamps (proposed committed : TaskStateSnapshot) : Prop where
  stamped : committed = { proposed with
    recordVersion := committed.recordVersion
    ownerGeneration := committed.ownerGeneration }
  newer : committed.recordVersion.value = proposed.recordVersion.value + 1
  valid : committed.Valid

theorem Accepted.stamps
    (accepted : Accepted current proposed proposed.recordVersion mode generation committed) :
    Stamps proposed committed := by
  have owner : committed.ownerGeneration = generation := by rw [accepted.stamped]
  refine ⟨?_, accepted.nextVersion, accepted.committedValid⟩
  rw [owner]
  exact accepted.stamped

/-- What the commands of restart recovery make of a record. -/
inductive RecoveryChange (store : FileSystemTaskStateStore directory)
    (current : TaskStateSnapshot) : TaskCommand → TaskStateSnapshot → Prop where
  | replayQueued {taskId} (log : String) (replay : current.replayDelivery ≠ none)
      (eligible : current.abandonedEligible)
      (turnedOver : current.status = .running → TurnedOver store current) :
      RecoveryChange store current (.recoverAbandonedReplayDelivery taskId)
        (current.abandonedQueued log)
  | taskQueued {taskId} (log : String) (eligible : current.abandonedEligible)
      (turnedOver : TurnedOver store current) :
      RecoveryChange store current (.recoverAbandonedTaskForRetry taskId)
        (current.abandonedQueued log)
  | completed {taskId operationDigest resultDigest resultSizeBytes}
      (unfinished : current.status ≠ .completed) (turnedOver : TurnedOver store current) :
      RecoveryChange store current
        (.recoverTaskFromCommittedEffect taskId operationDigest resultDigest resultSizeBytes)
        (current.completedFromEffect operationDigest resultDigest resultSizeBytes)
  | blocked {taskId operationDigest} (unblocked : ¬current.IsBlockedBy operationDigest)
      (turnedOver : TurnedOver store current) :
      RecoveryChange store current (.blockTaskForUnknownEffect taskId operationDigest)
        (current.blockedByEffect operationDigest)

section Single

variable {command : TaskCommand} {operation : CasOperation}

theorem RecoveryChange.normal (change : RecoveryChange store record command candidate)
    (normal : record.Storable) : candidate.Storable := by
  cases change with
  | replayQueued log | taskQueued log => exact normal.abandonedQueued log
  | completed => exact TaskStateSnapshot.completedFromEffect_storable normal
  | blocked => exact normal.blockedByEffect _

theorem RecoveryChange.sameRecord (change : RecoveryChange store record command candidate) :
    SameRecord record candidate := by
  cases change <;> exact ⟨rfl, rfl⟩

theorem TaskCommand.prepare_recovery (prepared : command.prepare store = .ok operation)
    (recovery : command.IsRecovery)
    (decided : operation.decide record = .ok (.propose candidate)) :
    RecoveryChange store record command candidate := by
  have step := (TaskCommand.prepare_eq_ok prepared).2.2 decided
  cases command <;> try exact absurd recovery id
  case recoverAbandonedReplayDelivery =>
      cases step with
      | abandonedReplay log eligible replay turnedOver =>
          exact .replayQueued log replay eligible turnedOver
  case recoverAbandonedTaskForRetry =>
      cases step with
      | abandonedTask log eligible enveloped turnedOver =>
          exact .taskQueued log eligible turnedOver
  case recoverTaskFromCommittedEffect =>
      have turnedOver : TurnedOver store record := by
        cases step with
        | committedEffect _ turnedOver => exact turnedOver
      simp only [TaskCommand.prepare, bind_eq_ok_iff, exists_unit_iff,
        pure_eq_ok_iff] at prepared
      obtain ⟨-, -, -, generation, -, rfl⟩ := prepared
      obtain ⟨recovered, changed, -⟩ := CasOperation.restartRecovery_decide decided
      obtain ⟨-, -, -, ⟨-, same⟩ | ⟨reconcilable, rfl, -⟩⟩ :=
        TaskStateSnapshot.recoverCommittedEffect_eq_ok_iff.mp recovered
      · exact absurd same changed
      · exact .completed (TaskStateSnapshot.isReconcilable_iff.mp reconcilable).2 turnedOver
  case blockTaskForUnknownEffect =>
      have turnedOver : TurnedOver store record := by
        cases step with
        | unknownEffect _ turnedOver => exact turnedOver
      simp only [TaskCommand.prepare, bind_eq_ok_iff, exists_unit_iff,
        pure_eq_ok_iff] at prepared
      obtain ⟨-, -, generation, -, rfl⟩ := prepared
      obtain ⟨recovered, changed, -⟩ := CasOperation.restartRecovery_decide decided
      obtain ⟨-, ⟨-, same⟩ | ⟨unblocked, -, -, rfl, -⟩⟩ :=
        TaskStateSnapshot.blockUnknownEffect_eq_ok_iff.mp recovered
      · exact absurd same changed
      · exact .blocked unblocked turnedOver

/-- A record that a recovery command has made is none that the command changes. -/
theorem RecoveryChange.last (change : RecoveryChange store record command candidate)
    (stamps : Stamps candidate committed) :
    ¬RecoveryChange store committed command again := by
  have status : committed.status = candidate.status := by rw [stamps.stamped]
  have reason : committed.interruptedReason = candidate.interruptedReason := by
    rw [stamps.stamped]
  intro next
  cases change with
  | replayQueued log =>
      cases next with
      | replayQueued _ _ eligible =>
          rw [TaskStateSnapshot.abandonedEligible, status] at eligible
          simp [TaskStateSnapshot.abandonedQueued, TaskStateSnapshot.pushLog] at eligible
  | taskQueued log =>
      cases next with
      | taskQueued _ eligible =>
          rw [TaskStateSnapshot.abandonedEligible, status] at eligible
          simp [TaskStateSnapshot.abandonedQueued, TaskStateSnapshot.pushLog] at eligible
  | completed =>
      cases next with
      | completed unfinished => exact unfinished status
  | blocked =>
      cases next with
      | blocked unblocked => exact unblocked ⟨status, reason⟩

theorem CasOperation.Changes.stamps (changes : operation.Changes store before record committed) :
    ∃ proposed, operation.decide record = .ok (.propose proposed) ∧
      Stamps proposed committed := by
  obtain ⟨proposed, decided, commits⟩ := changes
  exact ⟨proposed, decided, commits.accepted.stamps⟩

theorem TaskCommand.single (prepared : command.prepare store = .ok operation)
    (recovery : command.IsRecovery) (storable : record.Storable) :
    operation.Single store before record where
  same proposed decided := (prepare_recovery prepared recovery decided).sameRecord
  normal proposed decided := TaskStateSnapshot.stored_eq_self_iff.mpr
    ((prepare_recovery prepared recovery decided).normal storable)
  last committed changes again decided := by
    obtain ⟨proposed, chosen, stamps⟩ := changes.stamps
    exact (prepare_recovery prepared recovery chosen).last stamps
      (prepare_recovery prepared recovery decided)

end Single

/-! ## Progress on one record -/

/-- A program for one record has left it alone, or has replaced it once. It may have
ended with a record as its answer. -/
inductive Progress (before after : TaskFiles format) (record : TaskStateSnapshot)
    (Step : TaskStateSnapshot → Prop) (settled : Prop) (answers : TaskStateSnapshot → Prop) :
    Prop where
  | kept (same : before.SameRecords after)
      (ended : ∀ result, answers result → result = record ∧ settled)
  | changed {committed : TaskStateSnapshot} (step : Step committed)
      (written : (before.put committed).SameRecords after)
      (ended : ∀ result, answers result → result = committed)

namespace Progress

variable {answers : TaskStateSnapshot → Prop}

theorem answering (progress : Progress before after record Step settled answers)
    (answer : ∀ result, others result → answers result) :
    Progress before after record Step settled others := by
  cases progress with
  | kept same ended => exact .kept same fun result other => ended result (answer result other)
  | changed step written ended =>
      exact .changed step written fun result other => ended result (answer result other)

theorem unanswered (progress : Progress before after record Step settled answers)
    (unended : ∀ result, ¬others result) : Progress before after record Step weaker others := by
  cases progress with
  | kept same => exact .kept same fun result other => absurd other (unended result)
  | changed step written =>
      exact .changed step written fun result other => absurd other (unended result)

theorem from_same (same : before.SameRecords middle)
    (progress : Progress middle after record Step settled answers) :
    Progress before after record Step settled answers := by
  cases progress with
  | kept records ended => exact .kept (same.trans records) ended
  | changed step written ended => exact .changed step ((same.put _).trans written) ended

end Progress

section Progress

variable {store : FileSystemTaskStateStore directory} {after : TaskFiles format}
  {record : TaskStateSnapshot}

def TaskCommand.Keeps (command : TaskCommand) (store : FileSystemTaskStateStore directory)
    (record : TaskStateSnapshot) : Prop :=
  ∃ operation, command.prepare store = .ok operation ∧ operation.Settles record

theorem TaskCommand.program_progress (faithful : format.Faithful)
    (own : HasOwnFile record.taskId) (named : command.taskId = record.taskId)
    (recovery : command.IsRecovery) (storable : record.Storable)
    (read : directory.read before none (some record.taskId) = .ok record)
    (reaches : StoreProgram.Reaches before (command.program store) after rest) :
    Progress before after record
      (fun committed => ∃ candidate, RecoveryChange store record command candidate ∧
        Stamps candidate committed)
      (command.Keeps store record) (fun result => rest = .done (.ok result)) := by
  unfold TaskCommand.program at reaches
  split at reaches
  next =>
      obtain ⟨rfl, rfl⟩ := Program.Reaches.done reaches
      exact .kept (.refl _) fun _ ended => absurd ended (Program.done_ne_done nofun)
  next operation prepared =>
      have task : operation.taskId = record.taskId :=
        (TaskCommand.prepare_eq_ok prepared).1.trans named
      rw [← task] at own read
      rcases CasOperation.run_reaches faithful own read
        (TaskCommand.single prepared recovery storable) reaches with
        ⟨same, ended⟩ | ⟨committed, changes, written, ended⟩
      · exact .kept same fun result answered =>
          ⟨(ended result answered).1, operation, prepared, (ended result answered).2⟩
      · obtain ⟨candidate, decided, stamps⟩ := changes.stamps
        exact .changed
          ⟨candidate, TaskCommand.prepare_recovery prepared recovery decided, stamps⟩
          written ended

theorem compareAndSet_progress
    (reaches : StoreProgram.Reaches before (store.compareAndSet candidate) after rest) :
    Progress before after record (Stamps candidate) False
      (fun result => rest = .done (.ok result)) := by
  rcases commitSnapshot_reaches reaches with
    ⟨same, failed⟩ | ⟨current, committed, -, commits, written, ended⟩
  · exact .kept same fun result answered => absurd answered (failed result)
  · exact .changed commits.accepted.stamps written ended

end Progress

end Eva.Storage
