import Eva.Runtime.RecoverySafety

/-! # Recovery after recovery

What a pass has left is settled: every record is a fixed point of the branch that the next
pass takes for it, whichever writer runs it.
-/

namespace Eva.Runtime

open Storage

variable {directory : TaskDirectory} {outside : Outside} {format : RecordFormat}

/-! ## Attempts that are not repeated -/

theorem Stands.unenveloped (stands : Stands handlers root effects envelope .legacy) :
    envelope = none := by
  cases stands
  rfl

section Records

variable {record committed : TaskStateSnapshot}

theorem abandonedQueued_valid (valid : record.Valid) (log : String) :
    (record.abandonedQueued log).Valid :=
  { valid with
    statusNamed := show "queued" ≠ "" by decide
    ownerBounded := fun _ owned => by cases owned
    ownerBacked := fun owned => absurd rfl owned
    tokenBounded := fun _ held => by cases held
    retryClassified := fun classified => absurd rfl classified
    retryScheduled := fun scheduled => absurd rfl scheduled
    resultConsistent := .inl ⟨rfl, rfl⟩
    metadataConsistent := fun owned => absurd rfl owned }

/-- Nothing else than eligibility decides whether an attempt is repeated. -/
theorem repeatSettled_iff (valid : record.Valid) (enveloped : record.envelope ≠ none) :
    RepeatSettled record ↔ record.abandonedEligible = false := by
  have queued (log : String) : (record.abandonedQueued log).validated =
      .ok (record.abandonedQueued log) :=
    TaskStateSnapshot.validated_eq_ok_iff.mpr ⟨abandonedQueued_valid valid log, rfl⟩
  unfold RepeatSettled
  split
  next replay =>
      simp only [taskReplayRecoveryCandidate,
        TaskStateSnapshot.markAbandonedReplayDeliveryQueued, queued, replay, false_or]
      cases record.abandonedEligible <;> simp [rejectIf, Except.toOption, bind, Except.bind]
  next replay =>
      have absent : record.replayDelivery = none := not_not.mp replay
      simp only [taskAbandonedRecoveryCandidate, TaskStateSnapshot.markAbandonedTaskQueued, queued,
        absent, enveloped, ne_eq, not_true_eq_false, false_or]
      cases record.abandonedEligible <;> simp [rejectIf, Except.toOption, bind, Except.bind]

/-- A cancellation that is under way shows in the flags of the record. -/
def CancellationShown (record : TaskStateSnapshot) : Prop :=
  record.status = .cancelling → record.cancelRequested ∨ record.cancelAccepted

/-- The baseline rules change every active record. Only a replay delivery goes to the queue. -/
theorem recoveryStatus_of_active (active : record.isActive) (shown : CancellationShown record) :
    ∃ status, recoveryStatus record = some status ∧
      (status = .queued → record.status = .running ∧ record.replayDelivery ≠ none ∧
        record.deadLetters = []) := by
  simp only [TaskStateSnapshot.isActive, Bool.or_eq_true, decide_eq_true_eq] at active
  unfold recoveryStatus
  rcases active with running | cancelling
  · by_cases lettered : record.deadLetters = []
    · by_cases replay : record.replayDelivery ≠ none ∧ ¬record.cancelRequested ∧
        ¬record.cancelAccepted
      · exact ⟨.queued, by simp [lettered, replay, running], fun _ => ⟨running, replay.1, lettered⟩⟩
      · exact ⟨.interrupted, by rw [if_neg (by simp [lettered]), if_neg replay, running], by simp⟩
    · exact ⟨.recovering, by simp [lettered, running], by simp⟩
  · by_cases lettered : record.deadLetters = []
    · have flagged : ¬(record.replayDelivery ≠ none ∧ ¬record.cancelRequested ∧
          ¬record.cancelAccepted) := by
        rintro ⟨-, unrequested, unaccepted⟩
        exact (shown cancelling).elim unrequested unaccepted
      exact ⟨.interrupted, by rw [if_neg (by simp [lettered]), if_neg flagged, cancelling], by simp⟩
    · exact ⟨.recovering, by simp [lettered, cancelling], by simp⟩

theorem Settled.inactive (settled : Settled record standing)
    (stands : Stands handlers root effects record.envelope standing) (valid : record.Valid)
    (shown : CancellationShown record) : record.isActive = false := by
  by_contra running
  have active : record.isActive := by simpa using running
  have status : record.status = .running ∨ record.status = .cancelling := by
    simpa [TaskStateSnapshot.isActive] using active
  obtain ⟨next, found, queued⟩ := recoveryStatus_of_active active shown
  have baseline (settled : BaselineSettled record) : record.status = .running ∧
      record.replayDelivery ≠ none ∧ record.deadLetters = [] := by
    rcases settled with none | ⟨same, -⟩
    · rw [found] at none
      cases none
    · exact queued (Option.some.inj (found.symm.trans same))
  cases standing with
  | legacy =>
      exact valid.enveloped_of_replay (baseline settled).2.1 stands.unenveloped
  | unregistered => exact status.elim settled.1 settled.2.1
  | repeatable =>
      have uninterrupted : record.status ≠ .interrupted := by
        rcases status with same | same <;> rw [same] <;> simp
      obtain ⟨kept, unrepeated⟩ := settled.2 uninterrupted
      obtain ⟨same, replay⟩ := baseline kept
      exact unrepeated (.inl same) replay
  | prepared operationDigest =>
      have interrupted := (isBlockedBy_of_kept settled).1
      rcases status with same | same <;> rw [same] at interrupted <;> cases interrupted
  | committed operationDigest resultDigest resultSizeBytes =>
      have completed := (hasResult_of_kept settled).1
      rcases status with same | same <;> rw [same] at completed <;> cases completed

private theorem ineligible_of_interrupted
    (status : record.status = .running ∨ record.status = .recovering)
    (refused : record.abandonedEligible = false)
    (requested : committed.cancelRequested = record.cancelRequested)
    (accepted : committed.cancelAccepted = record.cancelAccepted)
    (letters : committed.deadLetters = record.deadLetters)
    (attempts : committed.attempts = record.attempts)
    (limit : committed.retryMaxAttempts = record.retryMaxAttempts) :
    committed.abandonedEligible = false := by
  have unblocked : record.requiresOperatorReconciliation = false := by
    rcases status with same | same <;> simp [TaskStateSnapshot.requiresOperatorReconciliation, same]
  by_contra repeated
  have eligible : committed.abandonedEligible := by simpa using repeated
  simp only [TaskStateSnapshot.abandonedEligible, Bool.and_eq_true, requested, accepted, letters,
    attempts, limit] at eligible
  obtain ⟨⟨⟨⟨⟨-, unrequested⟩, unaccepted⟩, letterless⟩, remaining⟩, -⟩ := eligible
  have again : record.abandonedEligible := by
    simp only [TaskStateSnapshot.abandonedEligible, unrequested, unaccepted, letterless, remaining,
      unblocked]
    rcases status with same | same <;> simp [same]
  rw [refused] at again
  cases again

theorem ineligible_of_flagged (flagged : record.cancelRequested ∨ record.cancelAccepted) :
    record.abandonedEligible = false := by
  rcases flagged with set | set <;> simp [TaskStateSnapshot.abandonedEligible, set]

theorem ineligible_of_lettered (lettered : record.deadLetters ≠ []) :
    record.abandonedEligible = false := by
  simp [TaskStateSnapshot.abandonedEligible, lettered]

theorem recoveryStatus_queued (status : record.status = .queued)
    (letterless : record.deadLetters = []) : recoveryStatus record = none := by
  unfold recoveryStatus
  rw [if_neg (by simp [letterless]), status]
  split <;> rfl

theorem baselineSettled_of_recovering (status : record.status = .recovering)
    (refused : record.replayDelivery ≠ none → taskReplayRecoveryCandidate record = none) :
    BaselineSettled record := by
  unfold BaselineSettled recoveryStatus
  rw [if_neg (by simp [status]), status]
  split
  next replay => exact .inr ⟨rfl, replay.1, refused replay.1⟩
  next => exact .inl rfl

theorem operationDigest_canonical (operation : EffectOperationIdentity) (field : String) :
    validateCanonicalSha256 operation.operationDigest field = .ok () := by
  simp only [validateCanonicalSha256, EffectOperationIdentity.operationDigest, canonicalDigest,
    String.toList_append, String.toList_ofList, Text.stripPrefix_append, rejectIf_eq_ok_iff,
    not_not]
  exact isSha256Hex_canonicalHex _ _

end Records

/-! ## What a pass leaves -/

section Steps

variable {record : TaskStateSnapshot}

theorem Stands.enveloped (stands : Stands handlers root effects record.envelope standing)
    (known : standing ≠ .legacy) : record.envelope ≠ none := by
  intro absent
  rw [absent] at stands
  cases stands
  exact known rfl

theorem baseline_settled (conservative : standing = .legacy ∨ standing = .repeatable)
    (repeated : standing = .repeatable → IsAbandoned record → RepeatSettled record)
    (found : recoveryStatus record = some status) (unqueued : status ≠ .queued)
    (stands : Stands handlers root effects record.envelope standing) (valid : record.Valid)
    (shown : CancellationShown record)
    (stamped : committed = { baselineCandidate record status with
      recordVersion := version
      ownerGeneration := generation })
    (committedValid : committed.Valid) : Settled committed standing := by
  subst stamped
  rcases conservative with rfl | rfl
  · have replay : record.replayDelivery = none := by
      by_contra delivered
      exact valid.enveloped_of_replay delivered stands.unenveloped
    rcases recoveryStatus_eq_some found unqueued with ⟨rfl, -⟩ | ⟨rfl, -, -⟩
    · refine .inl ?_
      unfold recoveryStatus
      rw [if_neg (by simp [baselineCandidate, TaskStateSnapshot.pushLog]),
        if_neg fun delivered => delivered.1 replay]
      rfl
    · exact baselineSettled_of_recovering rfl fun delivered => absurd replay delivered
  · have enveloped := stands.enveloped (by simp)
    rcases recoveryStatus_eq_some found unqueued with ⟨rfl, active⟩ | ⟨rfl, lettered, -⟩
    · refine ⟨fun _ => (repeatSettled_iff committedValid enveloped).mpr ?_,
        fun other => absurd rfl other⟩
      simp only [TaskStateSnapshot.isActive, Bool.or_eq_true, decide_eq_true_eq] at active
      rcases active with running | cancelling
      · exact ineligible_of_interrupted (.inl running)
          ((repeatSettled_iff valid enveloped).mp (repeated rfl (.inl running))) rfl rfl rfl rfl rfl
      · exact ineligible_of_flagged (shown cancelling)
    · have settled := (repeatSettled_iff committedValid enveloped).mpr
        (ineligible_of_lettered lettered)
      refine ⟨fun _ => settled, fun _ => ⟨baselineSettled_of_recovering rfl fun replay => ?_,
        fun _ delivered => lettered delivered.2⟩⟩
      exact (if_pos replay).symm.trans settled

theorem CommitsStep.settled (step : CommitsStep store record standing committed)
    (stands : Stands handlers root effects record.envelope standing) (valid : record.Valid)
    (shown : CancellationShown record) : Settled committed standing := by
  obtain ⟨candidate, change, stamped, -, committedValid⟩ := step
  generalize committed.recordVersion = version at stamped
  generalize committed.ownerGeneration = generation at stamped
  subst stamped
  cases change with
  | queued log eligible =>
      have letterless : record.deadLetters = [] := by
        simp only [TaskStateSnapshot.abandonedEligible, Bool.and_eq_true, decide_eq_true_eq]
          at eligible
        exact eligible.1.1.2
      have settled : ¬IsAbandoned { record.abandonedQueued log with
          recordVersion := version
          ownerGeneration := generation } := by
        rintro (same | same | same) <;> cases same
      exact ⟨fun abandoned => absurd abandoned settled, fun _ =>
        ⟨.inl (recoveryStatus_queued rfl letterless), fun abandoned => absurd abandoned settled⟩⟩
  | ineligible status replay letterless refused =>
      have enveloped := stands.enveloped (by simp)
      have ineligible : record.abandonedEligible = false :=
        (repeatSettled_iff valid enveloped).mp (by simpa [RepeatSettled, replay] using refused)
      refine ⟨fun _ => (repeatSettled_iff committedValid enveloped).mpr ?_,
        fun other => absurd rfl other⟩
      exact ineligible_of_interrupted status ineligible rfl rfl rfl rfl rfl
  | unregistered => refine ⟨?_, ?_, ?_⟩ <;> rintro ⟨⟩
  | baseline conservative repeated found unqueued =>
      exact baseline_settled conservative repeated found unqueued stands valid shown rfl
        committedValid
  | blocked unblocked =>
      generalize record.envelope = envelope at stands
      cases stands with
      | prepared parsed registered effectful inspected unfinished =>
          exact TaskStateSnapshot.blockUnknownEffect_eq_ok_iff.mpr
            ⟨operationDigest_canonical _ _, .inl ⟨⟨rfl, rfl⟩, rfl⟩⟩
  | completed unfinished =>
      have enveloped := stands.enveloped (by simp)
      rcases committedValid.resultConsistent with
        ⟨absent, -⟩ | ⟨digest, size, held, length, -, -, canonical⟩
      · cases absent
      cases held
      refine TaskStateSnapshot.recoverCommittedEffect_eq_ok_iff.mpr
        ⟨?_, canonical, enveloped, .inl ⟨⟨rfl, rfl, rfl⟩, rfl⟩⟩
      generalize record.envelope = envelope at stands
      cases stands with
      | committed => exact operationDigest_canonical _ _

/-- The task keeps its envelope, and no step leaves a cancellation under way. -/
theorem CommitsStep.kept (step : CommitsStep store record standing committed) :
    committed.envelope = record.envelope ∧ committed.status ≠ .cancelling := by
  obtain ⟨candidate, change, stamps⟩ := step
  have envelope : committed.envelope = candidate.envelope := by rw [stamps.stamped]
  have status : committed.status = candidate.status := by rw [stamps.stamped]
  rw [envelope, status]
  cases change with
  | baseline conservative repeated found unqueued =>
      rcases recoveryStatus_eq_some found unqueued with ⟨rfl, -⟩ | ⟨rfl, -⟩ <;> exact ⟨rfl, nofun⟩
  | _ => exact ⟨rfl, nofun⟩

end Steps

/-! ## The next pass -/

section Next

variable {store : FileSystemTaskStateStore directory} {handlers : TaskHandlerRegistry}
  {effectLedger : FileSystemEffectLedger directory} {environment : RuntimeEnvironment outside}
  {state : RuntimeFiles format} {record : TaskStateSnapshot}

theorem embed_bind {program : StoreProgram directory Result}
    {continuation : Result → StoreProgram directory Next} :
    (StoreProgram.embed (program.bind continuation) : RuntimeProgram directory outside Next) =
      program.embed.bind fun result => (continuation result).embed := by
  induction program with
  | done => rfl
  | step action next induction =>
      change Program.step _ _ = Program.step _ _
      congr 1
      funext response
      exact induction response

/-- Without failures the program ends with this result and has changed nothing. -/
def EndsStill {Result : Type} (environment : RuntimeEnvironment outside)
    (state : RuntimeFiles format) (program : RuntimeProgram directory outside Result)
    (result : Result) : Prop :=
  program.conclude RuntimeAction.perform environment state = some (state, result)

namespace EndsStill

variable {result : Result}

theorem done : EndsStill environment state
    (.done result : RuntimeProgram directory outside Result) result := rfl

theorem step {response : action.Response}
    {next : action.Response → RuntimeProgram directory outside Result}
    (performed : action.perform state environment = some (state, response))
    (rest : EndsStill environment state (next response) result) :
    EndsStill environment state (.step action next) result := by
  unfold EndsStill Program.conclude
  rw [performed]
  exact rest

theorem bind (first : EndsStill environment state program result)
    (second : EndsStill environment state (continuation result) final) :
    EndsStill environment state (program.bind continuation) final :=
  (Program.conclude_bind first).trans second

theorem map (first : EndsStill environment state program result) (convert : Result → Next) :
    EndsStill environment state (program.map convert) (convert result) :=
  first.bind done

theorem andThen {program : RuntimeProgram directory outside (Except EvaError Result)}
    (first : EndsStill environment state program (.ok result))
    (second : EndsStill environment state (continuation result) final) :
    EndsStill environment state (program.andThen continuation) final :=
  first.bind second

theorem keeps {operation : CasOperation} (quiet : environment.store.fault = none)
    (read : directory.read state.tasks none (some operation.taskId) = .ok record)
    (decided : operation.decide record = .ok .keep) :
    EndsStill environment state (operation.run store).embed (.ok record) := by
  have performed : (RuntimeAction.store (.read (some operation.taskId)) :
      RuntimeAction directory outside).perform state environment = some (state, .ok record) := by
    rw [← read, ← quiet]
    rfl
  have attempted :
      EndsStill environment state (operation.attempt store).embed (some (.ok record)) := by
    refine step performed ?_
    simp only [decided]
    exact done
  change EndsStill environment state (StoreProgram.embed ((operation.attempt store).bind _)) _
  rw [embed_bind]
  exact attempted.bind done

end EndsStill

/-- The handles belong to the current writer, and nothing fails. -/
structure Attends (store : FileSystemTaskStateStore directory)
    (effectLedger : FileSystemEffectLedger directory) (environment : RuntimeEnvironment outside)
    (state : RuntimeFiles format) : Prop where
  quiet : environment.store.fault = none
  idle : state.tasks.pendingLatest = none
  writer : store.writer ≠ none
  shared : effectLedger.writer = store.writer
  current : store.IsCurrent state.tasks

/-- A record that recovery finds and does not have to move. -/
structure Rests (directory : TaskDirectory) (state : RuntimeFiles format)
    (record : TaskStateSnapshot) : Prop where
  read : directory.read state.tasks none (some record.taskId) = .ok record
  valid : record.Valid
  inactive : record.isActive = false

theorem Attends.generation (attends : Attends store effectLedger environment state)
    (message : String) : ∃ generation, recoveryWriterGeneration store message = .ok generation := by
  obtain ⟨writer, held⟩ := Option.ne_none_iff_exists'.mp attends.writer
  exact ⟨writer.generation, by rw [recoveryWriterGeneration, held]; rfl⟩

theorem Rests.not_running (rests : Rests directory state record) : record.status ≠ .running := by
  intro running
  have inactive := rests.inactive
  simp [TaskStateSnapshot.isActive, running] at inactive

theorem Rests.request (rests : Rests directory state record) :
    RequestId.parse record.taskId = .ok () :=
  validateId_eq_ok_iff.mpr rests.valid.identified

section Still

variable (attends : Attends store effectLedger environment state)
  (rests : Rests directory state record)

include attends rests

theorem command_still {command : TaskCommand}
    (prepared : command.prepare store = .ok operation) (named : command.taskId = record.taskId)
    (decided : operation.decide record = .ok .keep) :
    EndsStill environment state (command.program store).embed (.ok record) := by
  have task := (TaskCommand.prepare_eq_ok prepared).1.trans named
  rw [TaskCommand.program, prepared]
  exact .keeps attends.quiet (task ▸ rests.read) decided

theorem recoverAbandonedReplayDelivery_still (replay : record.replayDelivery ≠ none)
    (refused : taskReplayRecoveryCandidate record = none) :
    EndsStill environment state (recoverAbandonedReplayDelivery store record) (.ok record) := by
  obtain ⟨generation, owned⟩ := attends.generation
    "replay delivery recovery requires runtime writer ownership"
  have prepared : (TaskCommand.recoverAbandonedReplayDelivery record.taskId).prepare store =
      .ok (.recoverAbandonedReplayDelivery record.taskId generation) := by
    simp only [TaskCommand.prepare, rests.request, owned, ok_bind]
    rfl
  refine command_still attends rests prepared rfl ?_
  simp only [CasOperation.recoverAbandonedReplayDelivery, seq_eq_ok_iff, rejectIf_eq_ok_iff,
    pure_eq_ok_iff, refused]
  exact ⟨replay, fun live => rests.not_running live.1, rfl⟩

theorem recoverBaselineSnapshot_still (settled : BaselineSettled record) :
    EndsStill environment state (recoverBaselineSnapshot store record) (.ok record) := by
  unfold recoverBaselineSnapshot
  rcases settled with none | ⟨queued, replay, refused⟩
  · rw [none]
    exact .done
  · rw [queued]
    simp only [replay, ne_eq, not_false_eq_true, and_self, if_true]
    exact recoverAbandonedReplayDelivery_still attends rests replay refused

theorem recoverAbandoned_still (settled : RepeatSettled record) :
    EndsStill environment state (recoverAbandoned store record) (.ok record) := by
  unfold recoverAbandoned
  unfold RepeatSettled at settled
  split at settled
  next replay =>
      rw [if_pos replay]
      exact recoverAbandonedReplayDelivery_still attends rests replay settled
  next replay =>
      rw [if_neg replay]
      obtain ⟨generation, owned⟩ := attends.generation
        "task restart recovery requires runtime writer ownership"
      have prepared : (TaskCommand.recoverAbandonedTaskForRetry record.taskId).prepare store =
          .ok (.recoverAbandonedTaskForRetry record.taskId generation) := by
        simp only [TaskCommand.prepare, rests.request, owned, ok_bind]
        rfl
      refine command_still attends rests prepared rfl ?_
      simp only [CasOperation.recoverAbandonedTaskForRetry, seq_eq_ok_iff, rejectIf_eq_ok_iff,
        settled]
      refine ⟨replay, ?_⟩
      split <;> rfl

theorem recoverRegisteredSafeTask_still (settled : Settled record .repeatable) :
    EndsStill environment state (recoverRegisteredSafeTask store record) (.ok record) := by
  by_cases abandoned : IsAbandoned record
  case neg =>
      rw [recoverRegisteredSafeTask_of_settled abandoned]
      refine recoverBaselineSnapshot_still attends rests (settled.2 fun same => ?_).1
      exact abandoned (.inr (.inl same))
  rw [recoverRegisteredSafeTask_of_abandoned abandoned]
  refine (recoverAbandoned_still attends rests (settled.1 abandoned)).andThen ?_
  by_cases interrupted : record.status = .interrupted
  · rw [if_pos (.inr interrupted)]
    exact .done
  · obtain ⟨baseline, unrepeated⟩ := settled.2 interrupted
    rw [if_neg (by simp [interrupted]), if_neg (unrepeated abandoned)]
    exact recoverBaselineSnapshot_still attends rests baseline

theorem restart_still {command : TaskCommand}
    (prepared : command.prepare store =
      .ok (.restartRecovery record.taskId generation recover exhausted))
    (named : command.taskId = record.taskId) (kept : recover record = .ok record) :
    EndsStill environment state (command.program store).embed (.ok record) := by
  refine command_still attends rests prepared named ?_
  simp only [CasOperation.restartRecovery, kept, ok_bind, if_true]
  rfl

omit rests in
theorem inspect_still
    (loaded : loadEffectRecords effectLedger.root state.effects none = .ok records)
    (inspected : inspectEffectRecord records operation = .ok found) :
    (RuntimeAction.inspect effectLedger operation : RuntimeAction directory outside).perform state
      environment = some (state, .ok found) := by
  obtain ⟨writer, held⟩ := Option.ne_none_iff_exists'.mp attends.writer
  have current := attends.current
  rw [FileSystemTaskStateStore.IsCurrent, held] at current
  have entered : writer.enterWriteLock none directory.writerLayout state.tasks.writer =
      .ok writer.generation := by
    simp only [DurableWriterGuard.enterWriteLock, failsAt_none, ok_bind, current]
    rfl
  simp only [RuntimeAction.perform, FileSystemEffectLedger.inspect, attends.shared, held,
    attends.quiet, attends.idle, FileSystemEffectLedger.enterWrite, entered, ok_bind, loaded,
    inspected]
  rfl

theorem recoverPreparedEffect_still (unfinished : effect.state = .prepared)
    (kept : record.blockUnknownEffect effect.operation.operationDigest = .ok record) :
    ∃ decision, EndsStill environment state (recoverRecordedEffect store record effect)
      (.ok (record, decision)) := by
  obtain ⟨generation, owned⟩ := attends.generation
    "task restart recovery requires runtime writer ownership"
  have prepared : (TaskCommand.blockTaskForUnknownEffect record.taskId
      effect.operation.operationDigest).prepare store = .ok (.blockTaskForUnknownEffect
        record.taskId effect.operation.operationDigest generation) := by
    simp only [TaskCommand.prepare, rests.request, operationDigest_canonical, owned, ok_bind]
    rfl
  unfold recoverRecordedEffect
  rw [unfinished]
  exact ⟨_, (restart_still attends rests prepared rfl kept).map _⟩

theorem recoverCommittedEffect_still
    (finished : effect.state = .committed) (digest : effect.resultDigest = some resultDigest)
    (size : effect.resultSizeBytes = some resultSizeBytes)
    (kept : record.recoverCommittedEffect effect.operation.operationDigest resultDigest
      resultSizeBytes = .ok record) :
    ∃ decision, EndsStill environment state (recoverRecordedEffect store record effect)
      (.ok (record, decision)) := by
  obtain ⟨generation, owned⟩ := attends.generation
    "task restart recovery requires runtime writer ownership"
  have canonical := (TaskStateSnapshot.recoverCommittedEffect_eq_ok_iff.mp kept).2.1
  have prepared : (TaskCommand.recoverTaskFromCommittedEffect record.taskId
      effect.operation.operationDigest resultDigest resultSizeBytes).prepare store =
        .ok (.recoverTaskFromCommittedEffect record.taskId effect.operation.operationDigest
          resultDigest resultSizeBytes generation) := by
    simp only [TaskCommand.prepare, rests.request, operationDigest_canonical, canonical, owned,
      ok_bind]
    rfl
  unfold recoverRecordedEffect
  rw [finished, digest, size]
  exact ⟨_, (restart_still attends rests prepared rfl kept).map _⟩

omit rests in
theorem recoverNonIdempotentTask_still
    (inspected : Inspected effectLedger.root state.effects envelope effectScope found)
    (absent : found = none →
      EndsStill environment state (recoverRegisteredSafeTask store record) (.ok record))
    (recorded : ∀ effect, found = some effect →
      ∃ decision, EndsStill environment state (recoverRecordedEffect store record effect)
        (.ok (record, decision))) :
    ∃ decision, EndsStill environment state
      (recoverNonIdempotentTask store effectLedger record envelope effectScope)
      (.ok (record, decision)) := by
  obtain ⟨operation, made, records, loaded, read⟩ := inspected.operates
  have identified : effectOperation record envelope effectScope = .ok operation :=
    mapError_eq_ok_iff.mpr made
  unfold recoverNonIdempotentTask
  rw [identified]
  cases found with
  | none => exact ⟨_, .step (inspect_still attends loaded read) ((absent rfl).map _)⟩
  | some effect =>
      obtain ⟨decision, ends⟩ := recorded effect rfl
      exact ⟨decision, .step (inspect_still attends loaded read) ends⟩

theorem recoverEffectAwareTask_still
    (settled : IsSettled handlers effectLedger.root state.effects record) :
    ∃ decision, EndsStill environment state
      (recoverEffectAwareTask store handlers effectLedger record) (.ok (record, decision)) := by
  obtain ⟨standing, stands, settled⟩ := settled
  have older : rejectCurrentGenerationLiveRecovery store record = .ok () := by
    rw [rejectCurrentGenerationLiveRecovery, rejectIf_eq_ok_iff]
    simp [rests.inactive]
  unfold recoverEffectAwareTask
  rw [older]
  cases enveloped : record.envelope with
  | none =>
      rw [enveloped] at stands
      cases stands
      exact ⟨_, (recoverBaselineSnapshot_still attends rests settled).map _⟩
  | some envelope =>
      rw [enveloped] at stands
      cases stands with
      | unregistered parsed unknown =>
          have unmoved : (interruptUnknownHandlerAfterRestart store record :
              RuntimeProgram directory outside _) = .done (.ok record) := by
            unfold interruptUnknownHandlerAfterRestart
            split
            next same => exact absurd same settled.1
            next same => exact absurd same settled.2.1
            next same => exact absurd same settled.2.2
            next => rfl
          simp only [parsed, unknown, Bool.false_eq_true, not_false_eq_true, if_true, unmoved]
          exact ⟨_, EndsStill.done.map _⟩
      | idempotent parsed registered unscoped =>
          simp only [parsed, registered, not_true_eq_false, if_false, unscoped]
          exact ⟨_, (recoverRegisteredSafeTask_still attends rests settled).map _⟩
      | absent parsed registered effectful inspected =>
          simp only [parsed, registered, not_true_eq_false, if_false, effectful]
          exact recoverNonIdempotentTask_still attends inspected
            (fun _ => recoverRegisteredSafeTask_still attends rests settled) nofun
      | prepared parsed registered effectful inspected unfinished =>
          simp only [parsed, registered, not_true_eq_false, if_false, effectful]
          refine recoverNonIdempotentTask_still attends inspected nofun ?_
          rintro _ ⟨⟩
          exact recoverPreparedEffect_still attends rests unfinished settled
      | committed parsed registered effectful inspected finished digest size =>
          simp only [parsed, registered, not_true_eq_false, if_false, effectful]
          refine recoverNonIdempotentTask_still attends inspected nofun ?_
          rintro _ ⟨⟩
          exact recoverCommittedEffect_still attends rests finished digest size settled

end Still

theorem recoverEachTask_still (attends : Attends store effectLedger environment state)
    (rest : ∀ record ∈ records, Rests directory state record ∧
      IsSettled handlers effectLedger.root state.effects record) (report : RuntimeRecoveryReport) :
    ∃ final, EndsStill environment state
      (recoverEachTask store handlers effectLedger report records) (.ok final) := by
  induction records generalizing report with
  | nil => exact ⟨_, .done⟩
  | cons record records induction =>
      obtain ⟨rests, settled⟩ := rest record List.mem_cons_self
      obtain ⟨decision, first⟩ := @recoverEffectAwareTask_still directory outside format store
        handlers effectLedger environment state record attends rests settled
      obtain ⟨final, second⟩ := induction
        (fun other member => rest other (List.mem_cons_of_mem _ member))
        (report.record record record decision)
      exact ⟨final, first.andThen second⟩

theorem readRecords_still (quiet : environment.store.fault = none)
    (all : names.mapM (directory.readRecord state.tasks none) = .ok records) :
    EndsStill environment state (@readRecords directory names).embed (.ok records) := by
  induction names generalizing records with
  | nil =>
      cases all
      exact .done
  | cons name names induction =>
      rw [List.mapM_cons] at all
      simp only [bind_eq_ok_iff, pure_eq_ok_iff] at all
      obtain ⟨record, read, others, rest, rfl⟩ := all
      have performed : (RuntimeAction.store (.readRecord name) :
          RuntimeAction directory outside).perform state environment =
            some (state, .ok record) := by
        rw [← read, ← quiet]
        rfl
      refine .step performed ?_
      change EndsStill environment state (StoreProgram.embed ((readRecords names).bind _)) _
      rw [embed_bind]
      exact (induction rest).bind .done

theorem listRecords_still (quiet : environment.store.fault = none)
    (listed : directory.listing state.tasks none = .ok records) :
    EndsStill environment state (@listRecords directory).embed (.ok records) := by
  simp only [TaskDirectory.listing, bind_eq_ok_iff] at listed
  obtain ⟨names, found, all⟩ := listed
  have performed : (RuntimeAction.store .taskFileNames : RuntimeAction directory outside).perform
      state environment = some (state, .ok names) := by
    rw [← found, ← quiet]
    rfl
  exact .step performed (readRecords_still quiet all)

end Next

/-! ## Two passes -/

section Passes

variable {store newer : FileSystemTaskStateStore directory} {handlers : TaskHandlerRegistry}
  {effectLedger newerLedger : FileSystemEffectLedger directory}
  {before after again : RuntimeFiles format}

theorem readRecord_of_directory_read
    (read : directory.read tasks none (some taskId) = .ok record) :
    directory.readRecord tasks none (taskFileName taskId) = .ok record := by
  obtain ⟨identified, rfl, found⟩ := TaskDirectory.read_eq_ok_iff.mp read
  exact TaskDirectory.readRecord_eq_ok_iff.mpr ⟨identified.nonempty, rfl, found⟩

/-- After a whole pass every file holds a record that the pass has settled. -/
theorem Passes.listing (normal : format.Normal) (all : ListsAll directory before.tasks records)
    (finished : complete)
    (passes : Passes store handlers effectLedger.root before after complete records)
    (shown : ∀ record ∈ records, CancellationShown record) :
    ∃ finals, directory.listing after.tasks none = .ok finals ∧
      ∀ final ∈ finals, Rests directory after final ∧
        IsSettled handlers effectLedger.root after.effects final := by
  have origin (name : String) (held : name ∈ after.tasks.files.map Prod.fst)
      (own : name ≠ latestFileName)
      (stem : (TaskDirectory.fileStem name.toList "task".toList).isSome) :
      ∃ record ∈ records, name = taskFileName record.taskId := by
    by_contra unlisted
    have kept := passes.others name own fun record member same => unlisted ⟨record, member, same⟩
    have present : name ∈ before.tasks.files.map Prod.fst := by
      by_contra missing
      rw [Fields.lookup_eq_none_iff.mpr missing, Fields.lookup_eq_none_iff] at kept
      exact kept held
    obtain ⟨record, member, same⟩ :=
      List.mem_map.mp ((mem_taskFileNames all.names).mpr ⟨present, own, stem⟩)
    exact unlisted ⟨record, member, same.symm⟩
  obtain ⟨names, found⟩ := taskFileNames_ok all.names after.tasks
  have arrives (name : String) (member : name ∈ names) : ∃ final,
      directory.readRecord after.tasks none name = .ok final ∧
        IsSettled handlers effectLedger.root after.effects final ∧ CancellationShown final := by
    obtain ⟨held, own, stem⟩ := (mem_taskFileNames found).mp member
    obtain ⟨record, listed, rfl⟩ := origin name held own stem
    obtain ⟨final, read, arrived⟩ := passes.arrives record listed
    refine ⟨final, readRecord_of_directory_read read, ?_⟩
    rw [passes.effects]
    rcases arrived with ⟨rfl, settled⟩ | ⟨standing, stands, step⟩
    · exact ⟨settled finished, shown _ listed⟩
    · have valid := (all.normal record listed).1
      have settled := step.settled stands valid (shown record listed)
      obtain ⟨enveloped, status⟩ := step.kept
      exact ⟨⟨standing, enveloped ▸ stands, settled⟩, fun same => absurd same status⟩
  obtain ⟨finals, listed⟩ := mapM_ok_of_forall fun name member =>
    (arrives name member).imp fun final facts => facts.1
  have whole : directory.listing after.tasks none = .ok finals := by
    rw [TaskDirectory.listing, found]
    exact listed
  have lists := listing_eq_ok normal whole
  refine ⟨finals, whole, fun final member => ?_⟩
  obtain ⟨name, named, read⟩ := mapM_source listed member
  obtain ⟨other, same, settled, flags⟩ := arrives name named
  cases read.symm.trans same
  obtain ⟨standing, stands, fixed⟩ := settled
  have valid := (lists.normal final member).1
  exact ⟨⟨lists.read final member, valid, fixed.inactive stands valid flags⟩,
    standing, stands, fixed⟩

/-- If a pass comes to its end and every cancellation that was under way shows in the flags
of its record, the next pass, by whichever writer is the current one then, comes to its end
as well and changes nothing at all. -/
theorem recovery_is_idempotent {before after again : RuntimeFiles .text}
    {report : RuntimeRecoveryReport} {environment : RuntimeEnvironment outside}
    (first : Reaches before (recoverEffectAwareTasks store handlers effectLedger :
      RuntimeProgram directory outside _) after (.done (.ok report)))
    (shown : ∀ taskId record, HasOwnFile taskId →
      directory.read before.tasks none (some taskId) = .ok record → CancellationShown record)
    (files : again.tasks.files = after.tasks.files) (effects : again.effects = after.effects)
    (root : newerLedger.root = effectLedger.root)
    (attends : Attends newer newerLedger environment again) :
    ∃ next, (recoverEffectAwareTasks newer handlers newerLedger :
        RuntimeProgram directory outside _).conclude RuntimeAction.perform environment again =
      some (again, .ok next) := by
  rcases recoverEffectAwareTasks_passes RecordFormat.text_normal first with
    ⟨-, incomplete⟩ | ⟨records, all, passes⟩
  · exact absurd ⟨report, rfl⟩ incomplete
  obtain ⟨finals, listed, settled⟩ := Passes.listing RecordFormat.text_normal all ⟨report, rfl⟩
    passes fun record member =>
      shown record.taskId record (all.own record member) (all.read record member)
  -- The restart has changed the lock and the writer only.
  obtain ⟨⟨newFiles, pendingLatest, writer⟩, newEffects⟩ := again
  cases files
  cases effects
  have still : ∀ final ∈ finals, Rests directory
      (⟨⟨after.tasks.files, pendingLatest, writer⟩, after.effects⟩ : RuntimeFiles .text) final ∧
      IsSettled handlers newerLedger.root after.effects final := by
    intro final member
    obtain ⟨rests, fixed⟩ := settled final member
    rw [root]
    exact ⟨⟨rests.read, rests.valid, rests.inactive⟩, fixed⟩
  have lists : EndsStill environment
      (⟨⟨after.tasks.files, pendingLatest, writer⟩, after.effects⟩ : RuntimeFiles .text)
      (@listRecords directory).embed (.ok finals) :=
    listRecords_still attends.quiet listed
  obtain ⟨final, ends⟩ := recoverEachTask_still attends still
    (emptyRecoveryReport finals.length)
  exact ⟨final, lists.andThen ends⟩

end Passes

namespace Sample

def taken {format : RecordFormat} (state : RuntimeFiles format) : RuntimeFiles format where
  tasks := {
    files := state.tasks.files
    pendingLatest := none
    writer := ⟨3, some ⟨"", 3, 7⟩⟩ }
  effects := state.effects

def newerLedger : FileSystemEffectLedger Storage.Sample.durable where
  root := effectLedger.root
  writer := some (Storage.Sample.guard 3)

/-- The recovery of the third writer. -/
abbrev nextRecovery : RuntimeProgram Storage.Sample.durable Storage.Sample.silent
    (Except EvaError RuntimeRecoveryReport) :=
  recoverEffectAwareTasks (Storage.Sample.owned 3) registry newerLedger

theorem attends_taken (state : RuntimeFiles format) :
    Attends (Storage.Sample.owned 3) newerLedger Storage.Sample.calm (taken state) where
  quiet := rfl
  idle := rfl
  writer := nofun
  shared := rfl
  current := show (Storage.Sample.guard 3).verifyCurrent Storage.Sample.durable.writerLayout
    ⟨3, some ⟨"", 3, 7⟩⟩ none = .ok () by decide

theorem read_left (valid : record.Valid)
    (storable : record.Storable) (committed : record.recordVersion ≠ 0)
    (read : Storage.Sample.durable.read ((left record).written .text).tasks none (some taskId) =
      .ok found) : found = record := by
  have holds := holds_left valid storable committed
  have read : Storage.Sample.durable.read (left record).tasks none (some taskId) = .ok found :=
    (holds.read RecordFormat.text_faithful _).symm.trans read
  obtain ⟨-, -, present⟩ := TaskDirectory.read_eq_ok_iff.mp read
  obtain ⟨-, data, file, parsed⟩ := TaskDirectory.readOptionalTaskSnapshot_eq_some_iff.mp present
  obtain ⟨-, rfl⟩ := TaskStateSnapshot.validated_eq_ok_iff.mp parsed
  simp only [left, List.lookup_cons, List.lookup_nil] at file
  split at file
  next => exact (Option.some.inj file).symm
  next => cases file

/-- A cancellation under way that the flags do not show. -/
def unflagged : TaskStateSnapshot := { abandoned with status := .cancelling }

/-- Two passes end with the task in these states. -/
def endsTwiceAs (first second : TaskStatus) (record : TaskStateSnapshot) : Bool :=
  match recovery.conclude RuntimeAction.perform Storage.Sample.calm (left record) with
  | some (after, .ok _) =>
      (match Storage.Sample.durable.read after.tasks none (some record.taskId) with
        | .ok middle => middle.status = first
        | .error _ => false) &&
      match nextRecovery.conclude RuntimeAction.perform Storage.Sample.calm (taken after) with
      | some (last, .ok _) =>
          match Storage.Sample.durable.read last.tasks none (some record.taskId) with
          | .ok final => final.status = second
          | .error _ => false
      | _ => false
  | _ => false

end Sample

/-- The task that the second writer queues again is left alone by the third one. -/
theorem recovery_is_idempotent_sample :
    ∃ after report next,
      Reaches ((Sample.left Sample.abandoned).written .text) Sample.recovery after
        (.done (.ok report)) ∧
      Sample.nextRecovery.conclude RuntimeAction.perform Storage.Sample.calm (Sample.taken after) =
        some (Sample.taken after, .ok next) := by
  obtain ⟨after, report, final, reaches, -⟩ := Sample.reaches_abandoned
  have shown (taskId : String) (record : TaskStateSnapshot) (_ : HasOwnFile taskId)
      (read : Storage.Sample.durable.read
        ((Sample.left Sample.abandoned).written .text).tasks none (some taskId) = .ok record) :
      CancellationShown record := by
    rw [Sample.read_left Sample.abandoned_facts.1 Sample.abandoned_facts.2.1 (by decide) read]
    exact fun cancelling => by cases cancelling
  obtain ⟨next, concluded⟩ := recovery_is_idempotent reaches shown
    (show (Sample.taken after).tasks.files = after.tasks.files from rfl) rfl
    (show Sample.newerLedger.root = Sample.effectLedger.root from rfl)
    (Sample.attends_taken after)
  exact ⟨after, report, next, reaches, concluded⟩

/-- A cancellation under way that no flag shows is interrupted by the first pass and queued
again by the second one. -/
theorem recovery_repeats_unflagged_cancellation :
    ∃ after report middle last next final,
      Reaches ((Sample.left Sample.unflagged).written .text) Sample.recovery after
        (.done (.ok report)) ∧
      Storage.Sample.durable.read after.tasks none (some Sample.unflagged.taskId) = .ok middle ∧
      middle.status = .interrupted ∧
      Reaches (Sample.taken after) Sample.nextRecovery last (.done (.ok next)) ∧
      Storage.Sample.durable.read last.tasks none (some Sample.unflagged.taskId) = .ok final ∧
      final.status = .queued := by
  have computed : Sample.endsTwiceAs .interrupted .queued Sample.unflagged := by decide +kernel
  have holds : Holds (Sample.left Sample.unflagged).tasks :=
    Sample.holds_left (by decide) (by decide) (by decide)
  unfold Sample.endsTwiceAs at computed
  split at computed
  next after report first =>
      obtain ⟨image, held⟩ := conclude_written RecordFormat.text_faithful holds first
      obtain ⟨interrupted, computed⟩ := Bool.and_eq_true_iff.mp computed
      split at interrupted
      next middle read =>
          split at computed
          next last next second =>
              have taken : Holds (Sample.taken after).tasks :=
                ⟨held.files, fun _ pending => by cases pending⟩
              obtain ⟨later, kept⟩ := conclude_written RecordFormat.text_faithful taken second
              split at computed
              next final reread =>
                  refine ⟨_, report, middle, _, next, final, Program.reaches_of_conclude image, ?_,
                    of_decide_eq_true interrupted, Program.reaches_of_conclude later, ?_,
                    of_decide_eq_true computed⟩
                  · exact (held.read RecordFormat.text_faithful _).trans read
                  · exact (kept.read RecordFormat.text_faithful _).trans reread
              next => cases computed
          next => cases computed
      next => cases interrupted
  next => cases computed

/-! ## A recorded effect -/

namespace Sample

/-- The task has the result of its effect. -/
def finished : TaskStateSnapshot :=
  { abandoned with
    status := .completed
    resultDigest := some Storage.Sample.digest
    resultSizeBytes := some 2 }

def sent : EffectLedgerRecord :=
  (EffectLedgerRecord.prepared (Storage.Sample.intent (by decide : IsIdentifier "task-demo")
    (by decide : IsIdentifier "key-demo"))).committedWith Storage.Sample.digest 2 5

/-- The handler must not repeat its effect. -/
def effectful : TaskHandlerRegistry := ⟨[("demo.echo", some "scope-demo")]⟩

abbrev effectRecovery : RuntimeProgram Storage.Sample.durable Storage.Sample.silent
    (Except EvaError RuntimeRecoveryReport) :=
  recoverEffectAwareTasks (Storage.Sample.owned 3) effectful newerLedger

def recorded : RuntimeFiles .record :=
  taken { left finished with effects := sent.writtenTo [] }

theorem finished_facts : finished.Valid ∧ finished.Storable ∧
    Storage.Sample.durable.listing recorded.tasks none = .ok [finished] ∧
    EffectOperationIdentity.new "key-demo" "demo.echo" "agent-demo" "scope-demo"
      Storage.Sample.digest = .ok sent.operation ∧
    validateTaskKind "demo.echo" = .ok () ∧
    validateSha256Digest "result_digest" Storage.Sample.digest = .ok () ∧
    validateCanonicalSha256 Storage.Sample.digest "task result digest" = .ok () := by
  decide +kernel

theorem sent_valid : sent.Valid :=
  { EffectLedgerRecord.prepared_valid _ with
    result := .committed rfl rfl (by decide) rfl finished_facts.2.2.2.2.2.1 rfl }

theorem inspected_sent : Inspected newerLedger.root recorded.effects Storage.Sample.envelope
    "scope-demo" (some sent) := by
  refine ⟨⟨sent.operation, finished_facts.2.2.2.1, _,
    loadEffectRecords_single sent_valid (by simp), ?_⟩, recordAt_writtenTo sent_valid⟩
  simp only [inspectEffectRecord, EffectLedgerRecord.key, List.lookup_cons_self]
  exact seq_eq_ok_iff.mpr ⟨rejectIf_eq_ok_iff.mpr (not_not.mpr rfl), rfl⟩

theorem validateCanonicalSha256_operationDigest (operation : EffectOperationIdentity) :
    validateCanonicalSha256 operation.operationDigest "effect operation digest" = .ok () := by
  simp only [validateCanonicalSha256, EffectOperationIdentity.operationDigest, canonicalDigest,
    String.toList_append, String.toList_ofList, Text.stripPrefix_append, rejectIf_eq_ok_iff,
    not_not]
  exact isSha256Hex_canonicalHex ..

theorem isSettled_finished : IsSettled effectful newerLedger.root recorded.effects finished := by
  obtain ⟨-, -, -, -, parsed, -, canonical⟩ := finished_facts
  refine ⟨_, .committed parsed (by decide) rfl inspected_sent rfl rfl rfl, ?_⟩
  exact TaskStateSnapshot.recoverCommittedEffect_eq_ok_iff.mpr
    ⟨validateCanonicalSha256_operationDigest _, canonical, nofun, .inl ⟨⟨rfl, rfl, rfl⟩, rfl⟩⟩

end Sample

/-- A task that runs when its writer stops is queued again by the second writer. The third
writer leaves a task alone that has the result of its committed effect. -/
theorem recovery_repeats_abandoned_attempt :
    (∃ after report final,
      Reaches ((Sample.left Sample.abandoned).written .text) Sample.recovery after
        (.done (.ok report)) ∧
      Storage.Sample.durable.read after.tasks none (some Sample.abandoned.taskId) = .ok final ∧
      final.status = .queued ∧
      RecoveryOutcome (Storage.Sample.owned 2) Sample.registry [] Sample.abandoned final) ∧
    ∃ report final,
      Reaches (Sample.recorded.written .text) Sample.effectRecovery
        (Sample.recorded.written .text) (.done (.ok report)) ∧
      Storage.Sample.durable.read (Sample.recorded.written .text).tasks none
        (some Sample.finished.taskId) = .ok final ∧
      HasEffect Sample.effectful Sample.recorded.effects Sample.finished Sample.sent ∧
      CompletedBy Sample.sent final := by
  have own : HasOwnFile Sample.abandoned.taskId :=
    show taskFileName Sample.abandoned.taskId ≠ latestFileName by decide
  constructor
  · obtain ⟨after, report, final, reaches, read, reread, queued⟩ := Sample.reaches_abandoned
    obtain ⟨found, again, outcome, -⟩ := recovery_repeats_only_safe_attempts reaches own read
    cases reread.symm.trans again
    exact ⟨after, report, final, reaches, reread, queued, outcome⟩
  · obtain ⟨valid, storable, listed, -⟩ := Sample.finished_facts
    have holds : Holds Sample.recorded.tasks :=
      { Sample.holds_left valid storable (by decide) with }
    have rests : Rests Storage.Sample.durable Sample.recorded Sample.finished :=
      ⟨TaskDirectory.read_of_file List.lookup_cons_self
        (TaskStateSnapshot.validated_eq_ok_iff.mpr ⟨valid, rfl⟩) valid.identified, valid, rfl⟩
    have lists : EndsStill Storage.Sample.calm Sample.recorded
        (@listRecords Storage.Sample.durable).embed (.ok [Sample.finished]) :=
      listRecords_still rfl listed
    obtain ⟨report, ends⟩ := recoverEachTask_still (Sample.attends_taken _)
      (List.forall_mem_singleton.mpr ⟨rests, Sample.isSettled_finished⟩) (emptyRecoveryReport 1)
    have ended : EndsStill Storage.Sample.calm Sample.recorded Sample.effectRecovery
      (.ok report) := lists.andThen ends
    obtain ⟨image, -⟩ := conclude_written RecordFormat.text_faithful holds ended
    have reaches := Program.reaches_of_conclude image
    have held : HasEffect Sample.effectful Sample.recorded.effects Sample.finished Sample.sent :=
      ⟨_, rfl, nofun, Sample.inspected_sent.recorded⟩
    have read : Storage.Sample.durable.read (Sample.recorded.written .text).tasks none
        (some Sample.finished.taskId) = .ok Sample.finished :=
      (holds.read RecordFormat.text_faithful _).trans rests.read
    obtain ⟨final, read, -, effects⟩ := recovery_repeats_only_safe_attempts reaches own read
    exact ⟨report, final, reaches, read, held, (effects ⟨report, rfl⟩ _ held).2 rfl⟩

end Eva.Runtime
