import Eva.Storage.TaskState.Readability
import Eva.Storage.TaskState.Undisturbed

/-! # Restart recovery of single records

After a restart a task takes the result of its committed effect, or is blocked
for an operator when the effect may or may not have happened. The store accepts
these two changes in a mode of its own and recognises them by their log entry.
-/

namespace Eva.Storage

variable {directory : TaskDirectory} {format : RecordFormat}

/-! ## The two changes -/

namespace TaskStateSnapshot

variable {snapshot : TaskStateSnapshot} {resultDigest : String} {resultSizeBytes : Usize}

theorem completedFromEffect_valid (valid : snapshot.Valid) (enveloped : snapshot.envelope ≠ none)
    (canonical : validateCanonicalSha256 resultDigest "task result digest" = .ok ()) :
    (snapshot.completedFromEffect operationDigest resultDigest resultSizeBytes).Valid :=
  { valid with
    statusNamed := show "completed" ≠ "" by decide
    retryClassified := fun classified => absurd rfl classified
    retryScheduled := fun scheduled => absurd rfl scheduled
    resultConsistent := .inr ⟨resultDigest, resultSizeBytes, rfl, rfl, rfl, enveloped, canonical⟩
    metadataConsistent := fun _ => rfl }

end TaskStateSnapshot

/-! ## The restart mode -/

section Mode

variable {current proposed : TaskStateSnapshot}

private theorem longer_log (logged : proposed.logs = current.logs ++ [log]) :
    ¬(proposed.logs.length ≠ current.logs.length + 1 ∨
        proposed.logs.take current.logs.length ≠ current.logs) ∧
      proposed.logs.getLast? = some log := by
  rw [logged]
  simp

private theorem completed_matches
    (recovered : current.recoverCommittedEffect operationDigest resultDigest resultSizeBytes =
      .ok (current.completedFromEffect operationDigest resultDigest resultSizeBytes)) :
    taskRestartRecoveryTransitionMatches current
      (current.completedFromEffect operationDigest resultDigest resultSizeBytes) := by
  obtain ⟨longer, last⟩ := @longer_log current (current.completedFromEffect operationDigest
    resultDigest resultSizeBytes) _ rfl
  unfold taskRestartRecoveryTransitionMatches
  rw [if_neg longer, last]
  simp only [if_true, String.toList_append, Text.stripPrefix_append]
  exact decide_eq_true (by rw [String.ofList_toList]; exact recovered)

private theorem blocked_matches (blocked : current.blockUnknownEffect operationDigest =
      .ok (current.blockedByEffect operationDigest)) :
    taskRestartRecoveryTransitionMatches current (current.blockedByEffect operationDigest) := by
  obtain ⟨longer, last⟩ := @longer_log current (current.blockedByEffect operationDigest) _ rfl
  unfold taskRestartRecoveryTransitionMatches
  rw [if_neg longer, last]
  simp only [if_true, String.toList_append, Text.stripPrefix_append, String.ofList_toList]
  exact decide_eq_true blocked

/-- The log entry identifies the recoveries that change the record, and nothing else. -/
theorem taskRestartRecoveryTransitionMatches_iff :
    taskRestartRecoveryTransitionMatches current proposed ↔
      proposed ≠ current ∧ RecoversTo current proposed := by
  refine ⟨taskRestartRecoveryTransitionMatches_cases, ?_⟩
  rintro ⟨changed, operationDigest, ⟨resultDigest, resultSizeBytes, recovered⟩ | blocked⟩
  · obtain ⟨-, -, -, ⟨-, same⟩ | ⟨-, rfl, -⟩⟩ :=
      TaskStateSnapshot.recoverCommittedEffect_eq_ok_iff.mp recovered
    · exact absurd same changed
    · exact completed_matches recovered
  · obtain ⟨-, ⟨-, same⟩ | ⟨-, -, -, rfl, -⟩⟩ :=
      TaskStateSnapshot.blockUnknownEffect_eq_ok_iff.mp blocked
    · exact absurd same changed
    · exact blocked_matches blocked

theorem RecoversTo.transition (recovers : RecoversTo current proposed)
    (changed : proposed ≠ current) : Transition current proposed .restartRecovery := by
  have matched : isRestartRecovery current proposed .restartRecovery := by
    exact taskRestartRecoveryTransitionMatches_iff.mpr ⟨changed, recovers⟩
  have special : IsSpecial current proposed .restartRecovery := .inr matched
  refine ⟨.inr (.inr special), fun _ => .inr special, fun _ _ => .inr (.inr special),
    fun _ _ _ => .inr matched, fun _ => .inr special, .inr special, fun running => ?_⟩
  obtain ⟨-, step⟩ := isRestartRecovery_cases matched
  cases step <;> cases running

/-- Beyond what it accepts in any update, the store accepts in the restart mode exactly the
changes that a recovery makes. -/
theorem validateTaskStateTransition_restartRecovery_iff :
    validateTaskStateTransition current proposed .restartRecovery = .ok () ↔
      (proposed ≠ current ∧ RecoversTo current proposed) ∨
        validateTaskStateTransition current proposed .compareAndSet = .ok () := by
  by_cases recovered : proposed ≠ current ∧ RecoversTo current proposed
  · simp only [recovered, ne_eq, not_false_eq_true, and_self, true_or, iff_true]
    exact validateTaskStateTransition_eq_ok_iff.mpr (recovered.2.transition recovered.1)
  · have unmatched : taskRestartRecoveryTransitionMatches current proposed = false := by
      rw [← taskRestartRecoveryTransitionMatches_iff] at recovered
      simpa using recovered
    simp only [recovered, false_or, validateTaskStateTransition, isRestartRecovery,
      isRetryRequeue, unmatched, TaskStateCommitMode.allowRestartRecovery,
      TaskStateCommitMode.allowRetryRequeue, TaskStateCommitMode.allowHeartbeat,
      TaskStateCommitMode.allowAttemptOutcome, reduceCtorEq, decide_false, Bool.false_and,
      Bool.and_false]

end Mode

/-! ## Undisturbed recoveries -/

section Calls

variable {state : TaskFiles format} {store : FileSystemTaskStateStore directory}
  {guard : DurableWriterGuard} {environment : StoreEnvironment} {number : Nat}
  {record committed : TaskStateSnapshot} {taskId operationDigest resultDigest : String}
  {resultSizeBytes : Usize}

theorem read_replaced (faithful : format.Faithful) (valid : committed.Valid)
    (numbered : committed.recordVersion ≠ 0) (storable : committed.Storable) :
    directory.read (state.replaced committed) none (some committed.taskId) = .ok committed := by
  have file : (state.replaced committed).files.lookup (taskFileName committed.taskId) =
      some (format.write committed) := by
    unfold TaskFiles.replaced
    by_cases shared : taskFileName committed.taskId = latestFileName
    · rw [shared, List.lookup_cons_self]
    · rw [List.lookup_cons, beq_false_of_ne shared, List.lookup_cons_self]
  have parsed : format.read (format.write committed) = .ok committed := by
    rw [faithful.read_write committed valid numbered, TaskStateSnapshot.validated_eq_ok_iff,
      TaskStateSnapshot.stored_eq_self_iff.mpr storable]
    exact ⟨valid, rfl⟩
  exact TaskDirectory.read_of_file file parsed valid.identified

def recoverFromEffect (store : FileSystemTaskStateStore directory)
    (taskId operationDigest resultDigest : String) (resultSizeBytes : Usize) :
    StoreCall directory where
  store := store
  operation :=
    .command (.recoverTaskFromCommittedEffect taskId operationDigest resultDigest resultSizeBytes)

/-- What the call does to a task with this record when nothing disturbs it. -/
structure CommittedEffectWins (store : FileSystemTaskStateStore directory)
    (guard : DurableWriterGuard) (state : TaskFiles format) (environment : StoreEnvironment)
    (number : Nat) (record : TaskStateSnapshot) (operationDigest resultDigest : String)
    (resultSizeBytes : Usize) (call : StoreCall directory) : Prop where
  kept : record.HasResult resultDigest resultSizeBytes →
    Ends environment number call call.program state state [] (.ok (.record record))
  conflicting : record.status = .completed → ¬record.HasResult resultDigest resultSizeBytes →
    ∃ error, Ends environment number call call.program state state [] (.error error)
  unknown : record.status.isKnown = false →
    ∃ error, Ends environment number call call.program state state [] (.error error)
  live : record.isReconcilable → record.ownerGeneration = guard.generation →
    ∃ error, Ends environment number call call.program state state [] (.error error)
  exhausted : record.isReconcilable → record.recordVersion = Unsigned.maximum 64 →
    ∃ error, Ends environment number call call.program state state [] (.error error)
  recovered : record.isReconcilable → record.ownerGeneration ≠ guard.generation →
    record.recordVersion ≠ Unsigned.maximum 64 →
    ∃ committed : TaskStateSnapshot,
      Ends environment number call call.program state (state.replaced committed)
        [⟨call, .restartRecovery,
          record.completedFromEffect operationDigest resultDigest resultSizeBytes, committed⟩]
        (.ok (.record committed)) ∧
      committed.HasResult resultDigest resultSizeBytes ∧
      directory.read (state.replaced committed) none (some record.taskId) = .ok committed ∧
      Ends environment number call call.program (state.replaced committed)
        (state.replaced committed) [] (.ok (.record committed))

namespace CasOperation

variable {exhausted : EvaError}

theorem restartRecovery_keeps (same : recover record = .ok record) :
    (restartRecovery taskId generation recover exhausted).decide record = .ok .keep := by
  simp only [restartRecovery, same, ok_bind, if_true]
  rfl

theorem restartRecovery_fails (failed : recover record = .error error) :
    (restartRecovery taskId generation recover exhausted).decide record = .error error := by
  simp only [restartRecovery, failed]
  rfl

theorem restartRecovery_live (recovered : recover record = .ok candidate)
    (changed : candidate ≠ record) (live : record.ownerGeneration = generation) :
    ∃ error, (restartRecovery taskId generation recover exhausted).decide record =
      .error error := by
  simp only [restartRecovery, recovered, ok_bind, if_neg changed,
    rejectCurrentGenerationRecovery, rejectIf, if_pos live]
  exact ⟨_, rfl⟩

theorem restartRecovery_proposes (recovered : recover record = .ok candidate)
    (changed : candidate ≠ record) (older : record.ownerGeneration ≠ generation) :
    (restartRecovery taskId generation recover exhausted).decide record =
      .ok (.propose candidate) := by
  simp only [restartRecovery, recovered, ok_bind, if_neg changed,
    rejectCurrentGenerationRecovery, rejectIf, if_neg older]
  rfl

end CasOperation

namespace TaskStateSnapshot

theorem completedFromEffect_ne :
    record.completedFromEffect operationDigest resultDigest resultSizeBytes ≠ record := by
  intro same
  have logs := congrArg (fun snapshot => snapshot.logs.length) same
  simp [completedFromEffect, pushLog, withResult, clearError] at logs

theorem completedFromEffect_storable (storable : record.Storable) :
    (record.completedFromEffect operationDigest resultDigest resultSizeBytes).Storable where
  cancelReason := storable.cancelReason
  interruptedReason := nofun
  errorKind := nofun
  errorMessage := nofun
  retry _ := ⟨rfl, rfl⟩

theorem Storable.restamp (storable : record.Storable) (recordVersion : StateVersion)
    (ownerGeneration : WriterGeneration) :
    { record with recordVersion, ownerGeneration }.Storable :=
  ⟨storable.cancelReason, storable.interruptedReason, storable.errorKind, storable.errorMessage,
    storable.retry⟩

end TaskStateSnapshot

theorem recoverFromEffect_program (owner : store.writer = some guard)
    (identified : IsIdentifier taskId)
    (operation : validateCanonicalSha256 operationDigest "effect operation digest" = .ok ())
    (result : validateCanonicalSha256 resultDigest "task result digest" = .ok ()) :
    (recoverFromEffect store taskId operationDigest resultDigest resultSizeBytes).program =
      ((CasOperation.recoverTaskFromCommittedEffect taskId operationDigest resultDigest
        resultSizeBytes guard.generation).run store).map (Except.map .record) := by
  have prepared : (TaskCommand.recoverTaskFromCommittedEffect taskId operationDigest resultDigest
      resultSizeBytes).prepare store = .ok (CasOperation.recoverTaskFromCommittedEffect taskId
        operationDigest resultDigest resultSizeBytes guard.generation) := by
    have parsed : RequestId.parse taskId = .ok () := validateId_eq_ok_iff.mpr identified
    simp only [TaskCommand.prepare, parsed, operation, result, recoveryWriterGeneration, owner,
      Option.map_some, orReject, ok_bind]
    rfl
  simp only [StoreCall.program, recoverFromEffect, TaskCommand.program, prepared]

theorem completedFromEffect_keeps :
    KeepsIdentity record
      (record.completedFromEffect operationDigest resultDigest resultSizeBytes) :=
  ⟨⟨rfl, rfl⟩, rfl, rfl, rfl⟩

theorem completedFromEffect_accepted (valid : record.Valid) (storable : record.Storable)
    (enveloped : record.envelope ≠ none)
    (canonical : validateCanonicalSha256 resultDigest "task result digest" = .ok ())
    (recovered : record.recoverCommittedEffect operationDigest resultDigest resultSizeBytes =
      .ok (record.completedFromEffect operationDigest resultDigest resultSizeBytes))
    (headroom : record.recordVersion ≠ Unsigned.maximum 64) (generation : WriterGeneration) :
    ∃ committed, Accepted (some record)
        (record.completedFromEffect operationDigest resultDigest resultSizeBytes)
        record.recordVersion .restartRecovery generation committed ∧
      committed.HasResult resultDigest resultSizeBytes ∧ committed.Storable ∧
      committed.taskId = record.taskId ∧ committed.envelope = record.envelope := by
  have transition : Transition record (record.completedFromEffect operationDigest resultDigest
      resultSizeBytes) .restartRecovery :=
    RecoversTo.transition ⟨operationDigest, .inl ⟨_, _, recovered⟩⟩
      TaskStateSnapshot.completedFromEffect_ne
  obtain ⟨committed, accepted⟩ := (@accepted_iff _ _ _ generation completedFromEffect_keeps
    (by decide)).mpr ⟨TaskStateSnapshot.completedFromEffect_valid valid enveloped canonical,
      transition, headroom⟩
  refine ⟨committed, accepted, ?_⟩
  rw [accepted.stamped]
  exact ⟨⟨rfl, rfl, rfl⟩,
    (TaskStateSnapshot.completedFromEffect_storable storable).restamp _ _, rfl, rfl⟩

theorem committedEffectWins (faithful : format.Faithful) (quiet : environment.fault = none)
    (idle : state.pendingLatest = none) (owner : store.writer = some guard)
    (owned : store.IsCurrent state) (valid : record.Valid) (storable : record.Storable)
    (enveloped : record.envelope ≠ none)
    (operation : validateCanonicalSha256 operationDigest "effect operation digest" = .ok ())
    (canonical : validateCanonicalSha256 resultDigest "task result digest" = .ok ())
    (read : directory.read state none (some record.taskId) = .ok record) :
    CommittedEffectWins store guard state environment number record operationDigest resultDigest
      resultSizeBytes (recoverFromEffect store record.taskId operationDigest resultDigest
        resultSizeBytes) := by
  have program := @recoverFromEffect_program directory store guard record.taskId operationDigest
    resultDigest resultSizeBytes owner valid.identified operation canonical
  generalize recoverFromEffect store record.taskId operationDigest resultDigest resultSizeBytes =
    call at program ⊢
  have iff {current result : TaskStateSnapshot} :=
    @TaskStateSnapshot.recoverCommittedEffect_eq_ok_iff result current operationDigest
      resultDigest resultSizeBytes
  have keeps {current : TaskStateSnapshot} {files : TaskFiles format}
      (enveloped : current.envelope ≠ none) (has : current.HasResult resultDigest resultSizeBytes)
      (read : directory.read files none (some record.taskId) = .ok current) :
      Ends environment number call call.program files files [] (.ok (.record current)) := by
    have same := iff.mpr ⟨operation, canonical, enveloped, .inl ⟨has, rfl⟩⟩
    rw [program]
    exact (CasOperation.run_keeps quiet read (CasOperation.restartRecovery_keeps same)).map _
  have refuses (decided : ∃ error, (CasOperation.recoverTaskFromCommittedEffect record.taskId
        operationDigest resultDigest resultSizeBytes guard.generation).decide record =
        .error error) :
      ∃ error, Ends environment number call call.program state state [] (.error error) := by
    obtain ⟨error, decided⟩ := decided
    rw [program]
    exact ⟨error, (CasOperation.run_refuses quiet read decided).map _⟩
  -- A record for which neither case of the recovery applies.
  have unmatched (neither : ¬record.HasResult resultDigest resultSizeBytes ∧
      ¬record.isReconcilable) := refuses (by
    cases recovered : record.recoverCommittedEffect operationDigest resultDigest
        resultSizeBytes with
    | error error => exact ⟨error, CasOperation.restartRecovery_fails recovered⟩
    | ok result =>
        obtain ⟨-, -, -, ⟨has, -⟩ | ⟨reconcilable, -⟩⟩ := iff.mp recovered
        · exact absurd has neither.1
        · exact absurd reconcilable neither.2)
  have recovers (reconcilable : record.isReconcilable) :=
    iff.mpr ⟨operation, canonical, enveloped, .inr ⟨reconcilable, rfl,
      TaskStateSnapshot.completedFromEffect_valid valid enveloped canonical⟩⟩
  have changed := @TaskStateSnapshot.completedFromEffect_ne record operationDigest resultDigest
    resultSizeBytes
  have proposes (reconcilable : record.isReconcilable)
      (older : record.ownerGeneration ≠ guard.generation) :
      (CasOperation.recoverTaskFromCommittedEffect record.taskId operationDigest resultDigest
        resultSizeBytes guard.generation).decide record =
        .ok (.propose (record.completedFromEffect operationDigest resultDigest
          resultSizeBytes)) :=
    CasOperation.restartRecovery_proposes (recovers reconcilable) changed older
  refine ⟨fun has => keeps enveloped has read, ?_, ?_, ?_, ?_, ?_⟩
  · intro completed different
    refine unmatched ⟨different, fun reconcilable => ?_⟩
    exact (TaskStateSnapshot.isReconcilable_iff.mp reconcilable).2 completed
  · intro unknown
    refine unmatched ⟨fun has => ?_, fun reconcilable => ?_⟩
    · rw [has.1] at unknown
      cases unknown
    · rw [(TaskStateSnapshot.isReconcilable_iff.mp reconcilable).1] at unknown
      cases unknown
  · intro reconcilable live
    exact refuses (CasOperation.restartRecovery_live (recovers reconcilable) changed live)
  · intro reconcilable last
    by_cases live : record.ownerGeneration = guard.generation
    · exact refuses (CasOperation.restartRecovery_live (recovers reconcilable) changed live)
    · have rejected : ¬∃ committed, Accepted (some record) (record.completedFromEffect
          operationDigest resultDigest resultSizeBytes) record.recordVersion .restartRecovery
          (directory.currentGeneration state) committed := fun accepted =>
        ((accepted_iff completedFromEffect_keeps (by decide)).mp accepted).2.2 last
      obtain ⟨error, ends⟩ := CasOperation.run_rejected quiet read idle
        (proposes reconcilable live) completedFromEffect_keeps.sameRecord rejected
      rw [program]
      exact ⟨_, ends.map _⟩
  · intro reconcilable older headroom
    obtain ⟨committed, accepted, has, storable, named, envelope⟩ := completedFromEffect_accepted
      valid storable enveloped canonical (recovers reconcilable) headroom
      (directory.currentGeneration state)
    have reread : directory.read (state.replaced committed) none (some record.taskId) =
        .ok committed := by
      rw [← named]
      exact read_replaced faithful accepted.committedValid
        (Unsigned.ne_zero_of_value accepted.nextVersion) storable
    refine ⟨committed, ?_, has, reread, keeps (envelope ▸ enveloped) has reread⟩
    rw [program]
    exact (CasOperation.run_commits quiet read idle owned (proposes reconcilable older)
      completedFromEffect_keeps.sameRecord accepted).map _

end Calls

/-! ## Runs -/

section Runs

variable {proposed : TaskStateSnapshot}

theorem StoreCall.emits_restartRecovery {call : StoreCall directory}
    (emits : call.program.Emits past (.commit owner proposed version .restartRecovery)) :
    ∃ taskId current, ⟨.read (some taskId), .ok current⟩ ∈ past ∧
      SameRecord current proposed ∧ proposed ≠ current ∧ RecoversTo current proposed := by
  obtain ⟨command, called, isRestart⟩ : ∃ command, call.operation = .command command ∧
      command.mode = .restartRecovery := by
    obtain ⟨-, -, free | ⟨_, _, _, _, _, proposes⟩⟩ := (StoreCall.acts emits).commits rfl
    · cases free none (fun create => by cases create)
    · generalize same : TaskStateCommitMode.restartRecovery = mode at proposes
      cases proposes with
      | command called => exact ⟨_, called, rfl⟩
      | _ => cases same
  simp only [StoreCall.program, called] at emits
  obtain ⟨operation, current, prepared, read, decided⟩ :=
    (TaskCommand.program_meets.emits (Program.emits_map emits)).made
  have step := (TaskCommand.prepare_eq_ok prepared).2.2 decided
  refine ⟨command.taskId, current, read, step.sameRecord, ?_⟩
  cases command <;> simp only [TaskCommand.mode, reduceCtorEq] at isRestart
  case recoverTaskFromCommittedEffect =>
      simp only [TaskCommand.prepare, bind_eq_ok_iff, exists_unit_iff, pure_eq_ok_iff] at prepared
      obtain ⟨-, -, -, generation, -, rfl⟩ := prepared
      obtain ⟨recovered, changed, -⟩ := CasOperation.restartRecovery_decide decided
      exact ⟨changed, _, .inl ⟨_, _, recovered⟩⟩
  case blockTaskForUnknownEffect =>
      simp only [TaskCommand.prepare, bind_eq_ok_iff, exists_unit_iff, pure_eq_ok_iff] at prepared
      obtain ⟨-, -, generation, -, rfl⟩ := prepared
      obtain ⟨blocked, changed, -⟩ := CasOperation.restartRecovery_decide decided
      exact ⟨changed, _, .inr blocked⟩

variable {trace : List (taskStore directory format).Event}

theorem committed_recovers (faithful : format.Faithful)
    (run : (taskStore directory format).Run (.empty writer) (later ++ .act act :: earlier)
      configuration)
    (committed : eventCommit (.act act) = some commit) (mode : commit.mode = .restartRecovery) :
    ∃ record, currentRecord commit.taskId (commits earlier) = some record ∧
      commit.proposed ≠ record ∧ RecoversTo record commit.proposed := by
  have follows : Follows (commits earlier) commit := by
    have history := (run_reflects faithful run).1.history
    rw [commits_append, commits, commits, List.filterMap_cons_some committed] at history
    exact history.follows rfl
  obtain ⟨before, past, -, -, emits⟩ := run.act_cases
  obtain ⟨reflects, reads⟩ := run_reflects faithful past
  obtain ⟨act, ⟨⟩, -, store, expected, observed⟩ := eventCommit_eq_some committed
  obtain ⟨thread, label, environment, before, after, action, response⟩ := act
  cases observed
  rw [mode] at emits
  obtain ⟨taskId, record, read, same, changed, recovers⟩ := StoreCall.emits_restartRecovery emits
  obtain ⟨reading, member, -, observation⟩ := System.mem_observationsOf read
  obtain ⟨older, held, rfl, rfl⟩ := reads reading member taskId record (observation ▸ .read)
  have named : older.taskId = commit.taskId := by
    rw [follows.taskId_eq]
    exact same.2.symm
  exact ⟨_, current_of_sameRecord reflects.history held same named
    follows.accepted.expectedVersion, changed, recovers⟩

/-- In every run: a recovery that nothing disturbs completes the task with the result of its
effect or fails without a change, the store accepts nothing else in the restart mode than in
any other update except for the recoveries, and only recoveries are committed in it. -/
theorem committed_effect_wins {writer : WriterFiles}
    {trace : List (taskStore directory .text).Event}
    {configuration : (taskStore directory .text).Configuration}
    (run : (taskStore directory .text).Run (.empty writer) trace configuration) :
    (∀ (store : FileSystemTaskStateStore directory) (guard : DurableWriterGuard)
        (environment : StoreEnvironment) (number : Nat) (record : TaskStateSnapshot)
        (operationDigest resultDigest : String) (resultSizeBytes : Usize),
      store.writer = some guard → store.IsCurrent configuration.state →
      configuration.state.pendingLatest = none → environment.fault = none →
      directory.read configuration.state none (some record.taskId) = .ok record →
      record.envelope ≠ none →
      validateCanonicalSha256 operationDigest "effect operation digest" = .ok () →
      validateCanonicalSha256 resultDigest "task result digest" = .ok () →
      CommittedEffectWins store guard configuration.state environment number record
        operationDigest resultDigest resultSizeBytes
        (recoverFromEffect store record.taskId operationDigest resultDigest
          resultSizeBytes)) ∧
    (∀ current proposed : TaskStateSnapshot, current.Valid →
      (validateTaskStateTransition current proposed .restartRecovery = .ok () ↔
        (proposed ≠ current ∧ RecoversTo current proposed) ∨
          validateTaskStateTransition current proposed .compareAndSet = .ok ())) ∧
    ∀ later act earlier commit, trace = later ++ .act act :: earlier →
      eventCommit (.act act : (taskStore directory .text).Event) = some commit →
      commit.mode = .restartRecovery →
      ∃ record, currentRecord commit.taskId (commits earlier) = some record ∧
        commit.proposed ≠ record ∧ RecoversTo record commit.proposed := by
  refine ⟨?_, ?_, ?_⟩
  · intro store guard environment number record operationDigest resultDigest resultSizeBytes
      owner owned idle quiet read enveloped operation canonical
    have reflects := (run_reflects RecordFormat.text_faithful run).1
    have valid := reflects.read_valid RecordFormat.text_faithful read
    have storable : record.Storable := by
      obtain ⟨found, -⟩ := reflects.read_eq_ok RecordFormat.text_faithful read
      simp only [currentRecord, Option.map_eq_some_iff] at found
      obtain ⟨commit, -, rfl⟩ := found
      exact TaskStateSnapshot.stored_eq_self_iff.mp (TaskStateSnapshot.stored_stored _)
    exact committedEffectWins RecordFormat.text_faithful quiet idle owner owned valid storable
      enveloped operation canonical read
  · intro current proposed _
    exact validateTaskStateTransition_restartRecovery_iff
  · rintro later act earlier commit rfl committed mode
    exact committed_recovers RecordFormat.text_faithful run committed mode

end Runs

namespace Sample

def durable : TaskDirectory := { Sample.directory with durableWriterRequired := true }

def guard (generation : WriterGeneration) : DurableWriterGuard where
  ownerToken := ""
  generation := generation
  processId := 7

def owned (generation : WriterGeneration) : FileSystemTaskStateStore durable where
  writer := some (guard generation)
  unowned required := by cases required

def request (generation : WriterGeneration) (operation : StoreOperation) :
    StoreEnvironment × StoreCall durable :=
  (quiet, ⟨owned generation, operation⟩)

def claimedTask : List (StoreEnvironment × StoreCall durable) :=
  [request 1 claim, request 1 create, request 1 (.acquireRuntimeWriter 7)]

/-- The lock is free, the writer is the current one and the task runs under the first one. -/
def runsUnder (generation : WriterGeneration)
    (session : (taskStore durable .record).Session) : Bool :=
  session.state.pendingLatest.isNone &&
    session.state.writer = ⟨generation, some ⟨"", generation, 7⟩⟩ &&
    match durable.read session.state none (some task.taskId) with
    | .ok record => record.status = .running && record.ownerGeneration = 1 &&
        record.recordVersion = 2 && record.envelope = some envelope
    | .error _ => false

end Sample

/-- The next writer finds the task running and completes it. -/
theorem committed_effect_wins_sample :
    ∃ trace configuration record committed,
      (taskStore Sample.durable .text).Run (.empty Sample.files) trace configuration ∧
      Sample.durable.read configuration.state none (some Sample.task.taskId) = .ok record ∧
      record.status = .running ∧
      Sample.durable.read (configuration.state.replaced committed) none
        (some Sample.task.taskId) = .ok committed ∧
      committed.HasResult Sample.digest 0 := by
  have executed : ((taskStore Sample.durable .record).script (.empty Sample.files)
      (Sample.request 2 (.acquireRuntimeWriter 7) :: Sample.claimedTask)).any
      (Sample.runsUnder 2) := by
    decide +kernel
  rw [Option.any_eq_true] at executed
  obtain ⟨session, ran, checked⟩ := executed
  obtain ⟨trace, threads, run, holds, -, -⟩ := text_script ran
  unfold Sample.runsUnder at checked
  simp only [Bool.and_eq_true, decide_eq_true_eq] at checked
  obtain ⟨⟨idle, writer⟩, readable⟩ := checked
  split at readable
  next record found =>
      simp only [Bool.and_eq_true, decide_eq_true_eq] at readable
      obtain ⟨⟨⟨running, older⟩, version⟩, enveloped⟩ := readable
      have read : Sample.durable.read (session.state.written .text) none
          (some Sample.task.taskId) = .ok record := by
        rw [holds.read RecordFormat.text_faithful, found]
      have named : record.taskId = Sample.task.taskId := (TaskDirectory.read_eq_ok_iff.mp read).2.1
      have owned : (Sample.owned 2).IsCurrent (session.state.written .text) := by
        have current : (session.state.written .text).writer =
            ⟨2, some ⟨"", 2, 7⟩⟩ := writer
        unfold FileSystemTaskStateStore.IsCurrent
        rw [current]
        rfl
      have wins := (committed_effect_wins run).1 (Sample.owned 2) (Sample.guard 2) Sample.quiet 0
        record Sample.digest Sample.digest 0 rfl owned
        (by simpa [TaskFiles.written] using idle) rfl (named ▸ read) (by simp [enveloped])
        (by decide) (by decide)
      obtain ⟨committed, -, has, reread, -⟩ := wins.recovered
        (TaskStateSnapshot.isReconcilable_iff.mpr (by simp [running, TaskStatus.isKnown]))
        (by rw [older]; decide) (by rw [version]; decide)
      exact ⟨trace, _, record, committed, run, read, running, named ▸ reread, has⟩
  next => cases readable

/-- The writer that has claimed a task cannot take over the result of its effect by a
recovery, and in the restart mode the store accepts records that no recovery makes. -/
theorem recovery_refused_under_current_writer :
    (∃ trace configuration record error,
      (taskStore Sample.durable .text).Run (.empty Sample.files) trace configuration ∧
      (taskStore Sample.durable .text).HasReturned (.empty Sample.files) trace
        (recoverFromEffect (Sample.owned 1) Sample.task.taskId Sample.digest Sample.digest 0)
        (.error error) ∧
      Sample.durable.read configuration.state none (some Sample.task.taskId) = .ok record ∧
      record.status = .running) ∧
    validateTaskStateTransition Sample.task (Sample.task.pushLog "info" "checkpoint")
        .restartRecovery = .ok () ∧
      ¬RecoversTo Sample.task (Sample.task.pushLog "info" "checkpoint") := by
  refine ⟨?_, by decide +kernel, ?_⟩
  · have executed : ((taskStore Sample.durable .record).script (.empty Sample.files)
        ((Sample.quiet, recoverFromEffect (Sample.owned 1) Sample.task.taskId Sample.digest
          Sample.digest 0) :: Sample.claimedTask)).any fun session =>
        Sample.runsUnder 1 session && session.results.head?.any fun entry =>
          match entry.2 with
          | .ok _ => false
          | .error _ => true := by
      decide +kernel
    rw [Option.any_eq_true] at executed
    obtain ⟨session, ran, checked⟩ := executed
    obtain ⟨before, earlier, later, number, threads, past, result, -, -, run, finished, head,
      holds, -⟩ := text_last_call ran
    obtain ⟨runs, failed⟩ := Bool.and_eq_true_iff.mp checked
    rw [head] at failed
    cases result with
    | ok reply => cases failed
    | error error =>
        obtain ⟨-, readable⟩ := Bool.and_eq_true_iff.mp runs
        split at readable
        next record found =>
            simp only [Bool.and_eq_true, decide_eq_true_eq] at readable
            refine ⟨_, _, record, error, run, ⟨[], _, _, number, past, rfl, run, finished⟩, ?_,
              readable.1.1.1⟩
            rw [holds.read RecordFormat.text_faithful, found]
        next => cases readable
  · intro recovers
    have changed : Sample.task.pushLog "info" "checkpoint" ≠ Sample.task := by decide
    exact absurd (taskRestartRecoveryTransitionMatches_iff.mpr ⟨changed, recovers⟩)
      (by decide)

end Eva.Storage
