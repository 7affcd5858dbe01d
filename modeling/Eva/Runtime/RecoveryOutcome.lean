import Eva.Runtime.Recovery
import Eva.Storage.EffectLedger.Directory
import Eva.Storage.TaskState.Recoveries

/-! # What restart recovery does to a task

The envelope of a task, the registry and the ledger decide how the task stands. From
there a record is replaced at most once, wherever the pass is stopped.
-/

namespace Eva.Runtime

open Storage

variable {directory : TaskDirectory} {outside : Outside} {format : RecordFormat}

/-! ## Where a task stands -/

/-- What is known about the work of a task. -/
inductive Standing where
  | legacy
  | unregistered
  | repeatable
  | prepared (operationDigest : String)
  | committed (operationDigest resultDigest : String) (resultSizeBytes : Usize)

/-- The ledger holds this record, or none, for the operation. -/
structure Inspected (root : String) (effects : EffectFiles) (envelope : TaskEnvelopeSnapshot)
    (effectScope : String) (found : Option EffectLedgerRecord) : Prop where
  operates : ∃ operation, EffectOperationIdentity.new envelope.idempotencyKey envelope.kind
      envelope.agentId effectScope envelope.input.digest = .ok operation ∧
    ∃ records, loadEffectRecords root effects none = .ok records ∧
      inspectEffectRecord records operation = .ok found
  recorded : recordAt effects envelope.idempotencyKey = found

inductive Stands (handlers : TaskHandlerRegistry) (root : String) (effects : EffectFiles) :
    Option TaskEnvelopeSnapshot → Standing → Prop where
  | legacy : Stands handlers root effects none .legacy
  | unregistered {envelope} (parsed : validateTaskKind envelope.kind = .ok ())
      (unknown : handlers.contains envelope.kind = false) :
      Stands handlers root effects (some envelope) .unregistered
  | idempotent {envelope} (parsed : validateTaskKind envelope.kind = .ok ())
      (registered : handlers.contains envelope.kind)
      (unscoped : handlers.nonIdempotentEffectScope envelope.kind = none) :
      Stands handlers root effects (some envelope) .repeatable
  | absent {envelope effectScope} (parsed : validateTaskKind envelope.kind = .ok ())
      (registered : handlers.contains envelope.kind)
      (effectful : handlers.nonIdempotentEffectScope envelope.kind = some effectScope)
      (inspected : Inspected root effects envelope effectScope none) :
      Stands handlers root effects (some envelope) .repeatable
  | prepared {envelope effectScope effect} (parsed : validateTaskKind envelope.kind = .ok ())
      (registered : handlers.contains envelope.kind)
      (effectful : handlers.nonIdempotentEffectScope envelope.kind = some effectScope)
      (inspected : Inspected root effects envelope effectScope (some effect))
      (unfinished : effect.state = .prepared) :
      Stands handlers root effects (some envelope) (.prepared effect.operation.operationDigest)
  | committed {envelope effectScope effect resultDigest resultSizeBytes}
      (parsed : validateTaskKind envelope.kind = .ok ())
      (registered : handlers.contains envelope.kind)
      (effectful : handlers.nonIdempotentEffectScope envelope.kind = some effectScope)
      (inspected : Inspected root effects envelope effectScope (some effect))
      (finished : effect.state = .committed) (digest : effect.resultDigest = some resultDigest)
      (size : effect.resultSizeBytes = some resultSizeBytes) :
      Stands handlers root effects (some envelope)
        (.committed effect.operation.operationDigest resultDigest resultSizeBytes)

/-! ## Changes and fixed points -/

/-- The baseline rules change nothing. -/
def BaselineSettled (record : TaskStateSnapshot) : Prop :=
  recoveryStatus record = none ∨
    recoveryStatus record = some .queued ∧ record.replayDelivery ≠ none ∧
      taskReplayRecoveryCandidate record = none

/-- Nothing is left to repeat. -/
def RepeatSettled (record : TaskStateSnapshot) : Prop :=
  (if record.replayDelivery ≠ none then taskReplayRecoveryCandidate record
    else taskAbandonedRecoveryCandidate record) = none

/-- An attempt of an earlier writer may have been cut off. -/
def IsAbandoned (record : TaskStateSnapshot) : Prop :=
  record.status = .running ∨ record.status = .interrupted ∨ record.status = .recovering

/-- What recovery proposes for a task that stands so. -/
inductive RecoveryStep (store : FileSystemTaskStateStore directory) (record : TaskStateSnapshot) :
    Standing → TaskStateSnapshot → Prop where
  | queued (log : String) (eligible : record.abandonedEligible)
      (older : TurnedOver store record ∨
        record.replayDelivery ≠ none ∧ record.status ≠ .running) :
      RecoveryStep store record .repeatable (record.abandonedQueued log)
  | ineligible (status : record.status = .running ∨ record.status = .recovering)
      (replay : record.replayDelivery ≠ none) (letterless : record.deadLetters = [])
      (refused : taskReplayRecoveryCandidate record = none) :
      RecoveryStep store record .repeatable
        (record.markInterrupted "abandoned replay delivery is not eligible for another attempt")
  | unregistered (status : record.status = .running ∨ record.status = .cancelling ∨
        record.status = .recovering) :
      RecoveryStep store record .unregistered
        (record.markInterrupted "registered task handler is unavailable during restart recovery")
  | baseline {standing status} (conservative : standing = .legacy ∨ standing = .repeatable)
      (repeated : standing = .repeatable → IsAbandoned record → RepeatSettled record)
      (found : recoveryStatus record = some status) (unqueued : status ≠ .queued) :
      RecoveryStep store record standing (baselineCandidate record status)
  | blocked {operationDigest} (unblocked : ¬record.IsBlockedBy operationDigest)
      (turnedOver : TurnedOver store record) :
      RecoveryStep store record (.prepared operationDigest)
        (record.blockedByEffect operationDigest)
  | completed {operationDigest resultDigest resultSizeBytes}
      (unfinished : record.status ≠ .completed) (turnedOver : TurnedOver store record) :
      RecoveryStep store record (.committed operationDigest resultDigest resultSizeBytes)
        (record.completedFromEffect operationDigest resultDigest resultSizeBytes)

/-- Recovery leaves a task that stands so as it is. -/
def Settled (record : TaskStateSnapshot) : Standing → Prop
  | .legacy => BaselineSettled record
  | .unregistered => record.status ≠ .running ∧ record.status ≠ .cancelling ∧
      record.status ≠ .recovering
  | .repeatable => (IsAbandoned record → RepeatSettled record) ∧
      (record.status ≠ .interrupted → BaselineSettled record ∧
        (IsAbandoned record → ¬(record.replayDelivery ≠ none ∧ record.deadLetters = [])))
  | .prepared operationDigest =>
      record.blockUnknownEffect operationDigest = .ok record
  | .committed operationDigest resultDigest resultSizeBytes =>
      record.recoverCommittedEffect operationDigest resultDigest resultSizeBytes = .ok record

/-! ## Programs for one record -/

abbrev Reaches {Result : Type} (before : RuntimeFiles format)
    (program : RuntimeProgram directory outside Result) (after : RuntimeFiles format)
    (rest : RuntimeProgram directory outside Result) : Prop :=
  Program.Reaches (@RuntimeAction.perform directory outside format) before program after rest

theorem embed_reaches (reaches : Reaches before program.embed after rest) :
    after.effects = before.effects ∧
      ∃ left, rest = StoreProgram.embed left ∧
        StoreProgram.Reaches before.tasks program after.tasks left := by
  induction program generalizing before with
  | done result =>
      obtain ⟨rfl, rfl⟩ := Program.Reaches.done reaches
      exact ⟨rfl, .done result, rfl, .here⟩
  | step action next induction =>
      rcases Program.Reaches.step_cases reaches with
        ⟨rfl, rfl⟩ | ⟨environment, middle, response, performed, tail⟩
      · exact ⟨rfl, .step action next, rfl, .here⟩
      · obtain ⟨⟨tasks, answer⟩, acted, same⟩ := Option.map_eq_some_iff.mp performed
        cases same
        obtain ⟨effects, left, rfl, reached⟩ := induction _ tail
        exact ⟨effects, left, rfl, .step environment.store acted reached⟩

theorem embed_eq_done {program : StoreProgram directory Result} {result : Result}
    (ended : (program.embed : RuntimeProgram directory outside Result) = .done result) :
    program = .done result := by
  cases program with
  | done => cases ended; rfl
  | step => cases ended

/-- Nothing but the alias and the lock may differ. -/
structure SameFiles (before after : RuntimeFiles format) : Prop where
  tasks : before.tasks.SameRecords after.tasks
  effects : after.effects = before.effects

/-- From files like these on, the program makes this progress on the record. -/
def Handles {Result : Type} (before : RuntimeFiles format) (record : TaskStateSnapshot)
    (view : Result → TaskStateSnapshot) (Step : TaskStateSnapshot → Prop) (settled : Prop)
    (program : RuntimeProgram directory outside (Except EvaError Result)) : Prop :=
  ∀ start after rest, SameFiles before start → Reaches start program after rest →
    after.effects = before.effects ∧
      Progress before.tasks after.tasks record Step settled
        (fun result => ∃ answer, rest = .done (.ok answer) ∧ view answer = result)

namespace Handles

variable {before : RuntimeFiles format} {view : Result → TaskStateSnapshot}

private theorem unended {rest : RuntimeProgram directory outside (Except EvaError Result)}
    (running : ∀ answer, rest ≠ .done (.ok answer)) :
    ∀ result, ¬∃ answer, rest = .done (.ok answer) ∧ view answer = result :=
  fun _ ⟨answer, ended, _⟩ => running answer ended

theorem failed :
    Handles before record view Step settled
      (.done (.error error) : RuntimeProgram directory outside _) := by
  intro start after rest same reaches
  obtain ⟨rfl, rfl⟩ := Program.Reaches.done reaches
  refine ⟨same.effects, .kept same.tasks ?_⟩
  rintro result ⟨answer, ended, -⟩
  exact absurd ended (Program.done_ne_done nofun)

theorem answered (viewed : view answer = record) (fixed : settled) :
    Handles before record view Step settled
      (.done (.ok answer) : RuntimeProgram directory outside _) := by
  intro start after rest same reaches
  obtain ⟨rfl, rfl⟩ := Program.Reaches.done reaches
  refine ⟨same.effects, .kept same.tasks ?_⟩
  rintro result ⟨answer, ⟨⟩, rfl⟩
  exact ⟨viewed, fixed⟩

theorem mono (handles : Handles before record view Step settled program)
    (widen : ∀ committed, Step committed → Wider committed) (weaken : settled → weaker) :
    Handles before record view Wider weaker program := by
  intro start after rest same reaches
  obtain ⟨effects, progress⟩ := handles start after rest same reaches
  refine ⟨effects, ?_⟩
  cases progress with
  | kept records ended =>
      exact .kept records fun result answers =>
        ⟨(ended result answers).1, weaken (ended result answers).2⟩
  | changed step written ended => exact .changed (widen _ step) written ended

theorem embed {program : StoreProgram directory (Except EvaError TaskStateSnapshot)}
    (progress : ∀ start after rest, before.tasks.SameRecords start →
      StoreProgram.Reaches start program after rest →
      Progress start after record Step settled (fun result => rest = .done (.ok result))) :
    Handles before record id Step settled
      (program.embed : RuntimeProgram directory outside _) := by
  intro start after rest same reaches
  obtain ⟨effects, left, rfl, reached⟩ := embed_reaches reaches
  refine ⟨effects.trans same.effects, .from_same same.tasks ?_⟩
  refine (progress _ _ _ same.tasks reached).answering ?_
  rintro result ⟨answer, ended, rfl⟩
  exact embed_eq_done ended

theorem decided {program : RuntimeProgram directory outside (Except EvaError TaskStateSnapshot)}
    (handles : Handles before record id Step settled program) (decision : String) :
    Handles before record Prod.fst Step settled (program.map (·.map (·, decision))) := by
  intro start after rest same reaches
  rcases Program.Reaches.bind_cases reaches with
    ⟨action, next, first, rfl⟩ | ⟨middle, result, first, tail⟩
  · obtain ⟨effects, progress⟩ := handles _ _ _ same first
    exact ⟨effects, progress.unanswered (unended fun _ => Program.step_ne_done)⟩
  · obtain ⟨rfl, rfl⟩ := Program.Reaches.done tail
    obtain ⟨effects, progress⟩ := handles _ _ _ same first
    refine ⟨effects, progress.answering ?_⟩
    rintro final ⟨answer, ended, rfl⟩
    cases result with
    | error error => cases ended
    | ok value =>
        cases ended
        exact ⟨value, rfl, rfl⟩

theorem andThen {program : RuntimeProgram directory outside (Except EvaError TaskStateSnapshot)}
    (first : Handles before record id Step settled program)
    (ends : ∀ committed, Step committed → next committed = .done (.ok committed))
    (second : settled → Handles before record id Step weaker (next record)) :
    Handles before record id Step weaker (program.andThen next) := by
  intro start after rest same reaches
  rcases Program.Reaches.bind_cases reaches with
    ⟨action, branches, reached, rfl⟩ | ⟨middle, result, reached, tail⟩
  · obtain ⟨effects, progress⟩ := first _ _ _ same reached
    exact ⟨effects, progress.unanswered (unended fun _ => Program.step_ne_done)⟩
  obtain ⟨effects, progress⟩ := first _ _ _ same reached
  cases result with
  | error error =>
      obtain ⟨rfl, rfl⟩ := Program.Reaches.done tail
      exact ⟨effects, progress.unanswered (unended fun _ => Program.done_ne_done nofun)⟩
  | ok value =>
      cases progress with
      | kept records ended =>
          obtain ⟨rfl, fixed⟩ := ended value ⟨value, rfl, rfl⟩
          exact second fixed middle after rest ⟨records, effects⟩ tail
      | changed step written ended =>
          obtain rfl := ended value ⟨value, rfl, rfl⟩
          dsimp only at tail
          rw [ends _ step] at tail
          obtain ⟨rfl, rfl⟩ := Program.Reaches.done tail
          refine ⟨effects, .changed step written ?_⟩
          rintro result ⟨answer, ⟨⟩, rfl⟩
          rfl

end Handles

/-! ## The branches -/

section Branches

variable {store : FileSystemTaskStateStore directory} {handlers : TaskHandlerRegistry}
  {effectLedger : FileSystemEffectLedger directory} {before : RuntimeFiles format}
  {record : TaskStateSnapshot}

/-- The record that recovery commits for a task that stands so. -/
def CommitsStep (store : FileSystemTaskStateStore directory) (record : TaskStateSnapshot)
    (standing : Standing) (committed : TaskStateSnapshot) : Prop :=
  ∃ candidate, RecoveryStep store record standing candidate ∧ Stamps candidate committed

/-- The pass may replace the record by this one. -/
def Recovers (store : FileSystemTaskStateStore directory) (handlers : TaskHandlerRegistry)
    (root : String) (effects : EffectFiles) (record committed : TaskStateSnapshot) : Prop :=
  ∃ standing, Stands handlers root effects record.envelope standing ∧
    CommitsStep store record standing committed

def IsSettled (handlers : TaskHandlerRegistry) (root : String) (effects : EffectFiles)
    (record : TaskStateSnapshot) : Prop :=
  ∃ standing, Stands handlers root effects record.envelope standing ∧ Settled record standing

theorem CommitsStep.ne
    (step : CommitsStep store record standing committed) : committed ≠ record := by
  obtain ⟨candidate, change, stamps⟩ := step
  have version : candidate.recordVersion = record.recordVersion := by cases change <;> rfl
  rintro rfl
  have newer := stamps.newer
  rw [version] at newer
  omega

/-- The program is a pass over the record. -/
abbrev Passing (store : FileSystemTaskStateStore directory) (handlers : TaskHandlerRegistry)
    (root : String) (before : RuntimeFiles format) (record : TaskStateSnapshot)
    (program : RuntimeProgram directory outside (Except EvaError (TaskStateSnapshot × String))) :
    Prop :=
  Handles before record Prod.fst (Recovers store handlers root before.effects record)
    (IsSettled handlers root before.effects record) program

theorem Handles.stands (handles : Handles before record id (CommitsStep store record standing)
      (Settled record standing) program)
    (stands : Stands handlers root before.effects record.envelope standing) (decision : String) :
    Passing store handlers root before record (program.map (·.map (·, decision))) :=
  (handles.mono (fun _ step => ⟨standing, stands, step⟩)
    fun settled => ⟨standing, stands, settled⟩).decided decision

structure Listed (directory : TaskDirectory) (before : RuntimeFiles format)
    (record : TaskStateSnapshot) : Prop where
  own : HasOwnFile record.taskId
  read : directory.read before.tasks none (some record.taskId) = .ok record
  valid : record.Valid
  storable : record.Storable

theorem compareAndSet_handles (step : RecoveryStep store record standing candidate) :
    Handles before record id (CommitsStep store record standing) settled
      ((store.compareAndSet candidate).embed : RuntimeProgram directory outside _) :=
  (Handles.embed fun _ _ _ _ reaches => compareAndSet_progress reaches).mono
    (fun _ stamps => ⟨candidate, step, stamps⟩) False.elim

theorem command_handles (faithful : format.Faithful) (listed : Listed directory before record)
    (named : command.taskId = record.taskId)
    (recovery : command.IsRecovery)
    (steps : ∀ candidate, RecoveryChange store record command candidate →
      RecoveryStep store record standing candidate)
    (keeps : command.Keeps store record → settled) :
    Handles before record id (CommitsStep store record standing) settled
      ((command.program store).embed : RuntimeProgram directory outside _) := by
  refine (Handles.embed fun start after rest same reaches =>
    TaskCommand.program_progress faithful listed.own named recovery listed.storable
      ((same.read listed.own).trans listed.read) reaches).mono ?_ keeps
  rintro committed ⟨candidate, change, stamps⟩
  exact ⟨candidate, steps candidate change, stamps⟩

theorem replay_keeps
    (keeps : (TaskCommand.recoverAbandonedReplayDelivery taskId).Keeps store record) :
    taskReplayRecoveryCandidate record = none := by
  obtain ⟨operation, prepared, settles⟩ := keeps
  simp only [TaskCommand.prepare, bind_eq_ok_iff, exists_unit_iff, pure_eq_ok_iff] at prepared
  obtain ⟨-, generation, -, rfl⟩ := prepared
  obtain ⟨decision, decided, unproposed⟩ := settles.decided
  simp only [CasOperation.recoverAbandonedReplayDelivery, seq_eq_ok_iff, pure_eq_ok_iff] at decided
  cases candidate : taskReplayRecoveryCandidate record with
  | none => rfl
  | some value =>
      rw [candidate] at decided
      exact absurd decided.2.2.symm (unproposed value)

theorem retry_keeps (unqueued : record.status ≠ .queued)
    (keeps : (TaskCommand.recoverAbandonedTaskForRetry taskId).Keeps store record) :
    taskAbandonedRecoveryCandidate record = none := by
  obtain ⟨operation, prepared, settles⟩ := keeps
  simp only [TaskCommand.prepare, bind_eq_ok_iff, exists_unit_iff, pure_eq_ok_iff] at prepared
  obtain ⟨-, generation, -, rfl⟩ := prepared
  obtain ⟨decision, decided, unproposed⟩ := settles.decided
  simp only [CasOperation.recoverAbandonedTaskForRetry, seq_eq_ok_iff, if_neg unqueued] at decided
  cases candidate : taskAbandonedRecoveryCandidate record with
  | none => rfl
  | some value =>
      simp only [candidate, seq_eq_ok_iff, pure_eq_ok_iff] at decided
      exact absurd decided.2.2.symm (unproposed value)

theorem restart_keeps
    (settles : (CasOperation.restartRecovery taskId generation recover exhausted).Settles
      record) : recover record = .ok record := by
  obtain ⟨decision, decided, unproposed⟩ := settles.decided
  simp only [CasOperation.restartRecovery, bind_eq_ok_iff] at decided
  obtain ⟨candidate, recovered, decided⟩ := decided
  split at decided
  next same => rw [recovered, same]
  next =>
      simp only [seq_eq_ok_iff, pure_eq_ok_iff] at decided
      exact absurd decided.2.symm (unproposed candidate)

/-- Without further facts only a replay delivery goes back to the queue. -/
theorem replayDelivery_of_recoveryStatus (found : recoveryStatus record = some .queued) :
    record.replayDelivery ≠ none := by
  unfold recoveryStatus at found
  split at found
  next => cases found
  next =>
      split at found
      next replay => exact replay.1
      next => split at found <;> cases found

theorem interruptUnknownHandlerAfterRestart_handles :
    Handles before record id (CommitsStep store record .unregistered)
      (Settled record .unregistered)
      (interruptUnknownHandlerAfterRestart store record : RuntimeProgram directory outside _) := by
  unfold interruptUnknownHandlerAfterRestart
  split
  next same => exact compareAndSet_handles (.unregistered (.inl same))
  next same => exact compareAndSet_handles (.unregistered (.inr (.inl same)))
  next same => exact compareAndSet_handles (.unregistered (.inr (.inr same)))
  next running cancelling recovering =>
      exact .answered rfl ⟨running, cancelling, recovering⟩

theorem recoverRegisteredSafeTask_of_abandoned (abandoned : IsAbandoned record) :
    (recoverRegisteredSafeTask store record : RuntimeProgram directory outside _) =
      (recoverAbandoned store record).andThen fun recovered =>
        if recovered ≠ record ∨ record.status = .interrupted then .done (.ok recovered)
        else if record.replayDelivery ≠ none ∧ record.deadLetters = [] then
          interruptTaskAfterRestart store record
            "abandoned replay delivery is not eligible for another attempt"
        else recoverBaselineSnapshot store record := by
  unfold recoverRegisteredSafeTask
  rcases abandoned with same | same | same <;> rw [same]

theorem recoverRegisteredSafeTask_of_settled (settled : ¬IsAbandoned record) :
    (recoverRegisteredSafeTask store record : RuntimeProgram directory outside _) =
      recoverBaselineSnapshot store record := by
  unfold recoverRegisteredSafeTask
  split
  next same => exact absurd (.inl same) settled
  next same => exact absurd (.inr (.inl same)) settled
  next same => exact absurd (.inr (.inr same)) settled
  next => rfl

theorem inspect_handles {view : Result → TaskStateSnapshot}
    {next : Except EvaError (Option EffectLedgerRecord) →
      RuntimeProgram directory outside (Except EvaError Result)}
    (failed : ∀ error, Handles before record view Step settled (next (.error error)))
    (found : ∀ effect records,
      loadEffectRecords effectLedger.root before.effects none = .ok records →
      inspectEffectRecord records operation = .ok effect →
      Handles before record view Step settled (next (.ok effect))) :
    Handles before record view Step settled (.step (.inspect effectLedger operation) next) := by
  intro start after rest same reaches
  rcases Program.Reaches.step_cases reaches with
    ⟨rfl, rfl⟩ | ⟨environment, middle, response, performed, tail⟩
  · refine ⟨same.effects, .kept same.tasks ?_⟩
    rintro result ⟨answer, ended, -⟩
    exact absurd ended Program.step_ne_done
  obtain ⟨answer, inspected, unchanged⟩ := Option.map_eq_some_iff.mp performed
  cases unchanged
  cases response with
  | error error => exact failed error start after rest same tail
  | ok effect =>
      have loaded : ∃ records,
          loadEffectRecords effectLedger.root start.effects environment.store.fault =
            .ok records ∧ inspectEffectRecord records operation = .ok effect := by
        unfold FileSystemEffectLedger.inspect at inspected
        split at inspected
        next =>
            split at inspected
            next => cases inspected
            next =>
                simp only [Option.some.injEq, FileSystemEffectLedger.enterWrite,
                  bind_eq_ok_iff] at inspected
                obtain ⟨records, ⟨-, -, loaded⟩, read⟩ := inspected
                exact ⟨records, loaded, read⟩
        next => simpa only [Option.some.injEq, bind_eq_ok_iff] using inspected
      obtain ⟨records, loaded, read⟩ := loaded
      rw [same.effects] at loaded
      exact found effect records (loadEffectRecords_of_fault loaded) read start after rest same tail

section Listed

variable (faithful : format.Faithful) (listed : Listed directory before record)

include faithful listed

theorem recoverAbandonedReplayDelivery_handles
    (keeps : taskReplayRecoveryCandidate record = none → settled) :
    Handles before record id (CommitsStep store record .repeatable) settled
      (recoverAbandonedReplayDelivery store record : RuntimeProgram directory outside _) := by
  have recovery : (TaskCommand.recoverAbandonedReplayDelivery record.taskId).IsRecovery := trivial
  refine command_handles faithful listed rfl recovery (fun candidate change => ?_)
    fun kept => keeps (replay_keeps kept)
  cases change with
  | replayQueued log replay eligible turnedOver =>
      refine .queued log eligible ?_
      by_cases running : record.status = .running
      · exact .inl (turnedOver running)
      · exact .inr ⟨replay, running⟩

theorem recoverBaselineSnapshot_handles (conservative : standing = .legacy ∨ standing = .repeatable)
    (repeated : standing = .repeatable → IsAbandoned record → RepeatSettled record)
    (replayed : record.replayDelivery ≠ none → standing = .repeatable) :
    Handles before record id (CommitsStep store record standing) (BaselineSettled record)
      (recoverBaselineSnapshot store record : RuntimeProgram directory outside _) := by
  unfold recoverBaselineSnapshot
  split
  next still => exact .answered rfl (.inl still)
  next status found =>
      split
      next replay =>
          obtain ⟨rfl, replay⟩ := replay
          obtain rfl := replayed replay
          exact recoverAbandonedReplayDelivery_handles faithful listed
            fun refused => .inr ⟨found, replay, refused⟩
      next other =>
          refine compareAndSet_handles (.baseline conservative repeated found ?_)
          rintro rfl
          exact other ⟨rfl, replayDelivery_of_recoveryStatus found⟩

theorem recoverAbandoned_handles (unqueued : record.status ≠ .queued) :
    Handles before record id (CommitsStep store record .repeatable) (RepeatSettled record)
      (recoverAbandoned store record : RuntimeProgram directory outside _) := by
  unfold recoverAbandoned RepeatSettled
  split
  next replay => exact recoverAbandonedReplayDelivery_handles faithful listed id
  next =>
      have recovery : (TaskCommand.recoverAbandonedTaskForRetry record.taskId).IsRecovery := trivial
      refine command_handles faithful listed rfl recovery (fun candidate change => ?_)
        (retry_keeps unqueued)
      cases change with
      | taskQueued log eligible turnedOver => exact .queued log eligible (.inl turnedOver)

theorem recoverRegisteredSafeTask_handles :
    Handles before record id (CommitsStep store record .repeatable) (Settled record .repeatable)
      (recoverRegisteredSafeTask store record : RuntimeProgram directory outside _) := by
  have baseline (repeated : IsAbandoned record → RepeatSettled record) :
      Handles before record id (CommitsStep store record .repeatable) (BaselineSettled record)
        (recoverBaselineSnapshot store record : RuntimeProgram directory outside _) :=
    recoverBaselineSnapshot_handles faithful listed (.inr rfl) (fun _ => repeated) fun _ => rfl
  by_cases abandoned : IsAbandoned record
  case neg =>
      rw [recoverRegisteredSafeTask_of_settled abandoned]
      exact (baseline fun status => absurd status abandoned).mono (fun _ step => step)
        fun settled => ⟨fun status => absurd status abandoned,
          fun _ => ⟨settled, fun status => absurd status abandoned⟩⟩
  have unqueued : record.status ≠ .queued := by
    rcases abandoned with same | same | same <;> rw [same] <;> nofun
  rw [recoverRegisteredSafeTask_of_abandoned abandoned]
  refine (recoverAbandoned_handles faithful listed unqueued).andThen
    (fun committed step => if_pos (.inl step.ne)) fun repeated => ?_
  split
  next ends =>
      have interrupted : record.status = .interrupted := ends.resolve_left fun other => other rfl
      exact .answered rfl ⟨fun _ => repeated, fun other => absurd interrupted other⟩
  next goesOn =>
      split
      next replay =>
          refine compareAndSet_handles (.ineligible ?_ replay.1 replay.2 ?_)
          · rcases abandoned with same | same | same
            · exact .inl same
            · exact absurd (.inr same) goesOn
            · exact .inr same
          · simpa [RepeatSettled, replay.1] using repeated
      next unreplayed =>
          exact (baseline fun _ => repeated).mono (fun _ step => step) fun settled =>
            ⟨fun _ => repeated, fun _ => ⟨settled, fun _ => unreplayed⟩⟩

section Effectful

variable (enveloped : record.envelope = some envelope)
  (parsed : validateTaskKind envelope.kind = .ok ()) (registered : handlers.contains envelope.kind)
  (effectful : handlers.nonIdempotentEffectScope envelope.kind = some effectScope)

include enveloped parsed registered effectful

theorem recoverRecordedEffect_handles
    (inspected : Inspected effectLedger.root before.effects envelope effectScope (some effect)) :
    Passing store handlers effectLedger.root before record
      (recoverRecordedEffect store record effect : RuntimeProgram directory outside _) := by
  unfold recoverRecordedEffect
  split
  next unfinished =>
      have stands : Stands handlers effectLedger.root before.effects record.envelope
          (.prepared effect.operation.operationDigest) := by
        rw [enveloped]
        exact .prepared parsed registered effectful inspected unfinished
      have recovery : (TaskCommand.blockTaskForUnknownEffect record.taskId
        effect.operation.operationDigest).IsRecovery := trivial
      refine (command_handles faithful listed rfl recovery (fun candidate change => ?_)
        fun kept => ?_).stands stands _
      · cases change with
        | blocked unblocked turnedOver => exact .blocked unblocked turnedOver
      · obtain ⟨operation, prepared, settles⟩ := kept
        simp only [TaskCommand.prepare, bind_eq_ok_iff, exists_unit_iff,
          pure_eq_ok_iff] at prepared
        obtain ⟨-, -, generation, -, rfl⟩ := prepared
        exact restart_keeps settles
  next finished =>
      split
      next => exact .failed
      next => exact .failed
      next resultDigest resultSizeBytes digest size =>
          have stands : Stands handlers effectLedger.root before.effects record.envelope
              (.committed effect.operation.operationDigest resultDigest resultSizeBytes) := by
            rw [enveloped]
            exact .committed parsed registered effectful inspected finished digest size
          have recovery : (TaskCommand.recoverTaskFromCommittedEffect record.taskId
            effect.operation.operationDigest resultDigest resultSizeBytes).IsRecovery := trivial
          refine (command_handles faithful listed rfl recovery (fun candidate change => ?_)
            fun kept => ?_).stands stands _
          · cases change with
            | completed unfinished turnedOver => exact .completed unfinished turnedOver
          · obtain ⟨operation, prepared, settles⟩ := kept
            simp only [TaskCommand.prepare, bind_eq_ok_iff, exists_unit_iff,
              pure_eq_ok_iff] at prepared
            obtain ⟨-, -, -, generation, -, rfl⟩ := prepared
            exact restart_keeps settles

theorem recoverNonIdempotentTask_handles :
    Passing store handlers effectLedger.root before record
      (recoverNonIdempotentTask store effectLedger record envelope effectScope :
        RuntimeProgram directory outside _) := by
  unfold recoverNonIdempotentTask
  split
  next => exact .failed
  next operation identified =>
      have made : EffectOperationIdentity.new envelope.idempotencyKey envelope.kind
          envelope.agentId effectScope envelope.input.digest = .ok operation :=
        mapError_eq_ok_iff.mp identified
      refine inspect_handles (fun error => .failed) fun found records loaded inspected => ?_
      have recorded := recordAt_of_inspect loaded inspected
      rw [(EffectOperationIdentity.new_eq_ok made).1] at recorded
      have known : Inspected effectLedger.root before.effects envelope effectScope found :=
        ⟨⟨operation, made, records, loaded, inspected⟩, recorded⟩
      cases found with
      | none =>
          exact (recoverRegisteredSafeTask_handles faithful listed).stands
            (enveloped ▸ .absent parsed registered effectful known) _
      | some effect =>
          exact recoverRecordedEffect_handles faithful listed enveloped parsed registered effectful
            known

end Effectful

/-- The pass over one record replaces it by a step of where the task stands, or ends with
a record that is settled there. -/
theorem recoverEffectAwareTask_handles :
    Passing store handlers effectLedger.root before record
      (recoverEffectAwareTask store handlers effectLedger record :
        RuntimeProgram directory outside _) := by
  unfold recoverEffectAwareTask
  split
  next => exact .failed
  split
  next absent =>
      exact (recoverBaselineSnapshot_handles faithful listed (.inl rfl) nofun fun replay =>
        absurd absent (listed.valid.enveloped_of_replay replay)).stands (absent ▸ .legacy) _
  next envelope enveloped =>
      split
      next => exact .failed
      next parsed =>
          split
          next unknown =>
              exact interruptUnknownHandlerAfterRestart_handles.stands
                (enveloped ▸ .unregistered parsed (by simpa using unknown)) _
          next registered =>
              have registered : handlers.contains envelope.kind := by simpa using registered
              split
              next unscoped =>
                  exact (recoverRegisteredSafeTask_handles faithful listed).stands
                    (enveloped ▸ .idempotent parsed registered unscoped) _
              next effectScope effectful =>
                  exact recoverNonIdempotentTask_handles faithful listed enveloped parsed
                    registered effectful

end Listed

end Branches

end Eva.Runtime
