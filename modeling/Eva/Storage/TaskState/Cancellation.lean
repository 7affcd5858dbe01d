import Eva.Storage.TaskState.Outcomes
import Eva.Storage.TaskState.Undisturbed

/-! # Cancellation

A request to cancel goes through the same validation as every other change, so
that a record shaped by recovery can refuse it. What has been cancelled stays
cancelled under the operations of the store.
-/

namespace Eva.Storage

variable {directory : TaskDirectory} {current : TaskStateSnapshot} {reason : String}

/-! ## The cancelled record -/

section

variable (valid : current.Valid)
include valid

theorem TaskStateSnapshot.Valid.noResult
    (running : current.status ≠ .completed) :
    current.resultDigest = none ∧ current.resultSizeBytes = none := by
  rcases valid.resultConsistent with empty | ⟨_, _, _, _, completed, _⟩
  · exact empty
  · exact absurd completed running

theorem TaskStateSnapshot.Valid.noRetry
    (successful : ¬current.isUnsuccessful) :
    current.errorRetryable = none ∧ current.retryReadyAtMs = none := by
  constructor
  · by_contra classified
    exact successful (valid.retryClassified classified).1
  · by_contra scheduled
    exact successful (valid.retryScheduled scheduled).1

theorem requestCancel_valid_of_terminal
    (terminal : current.isTerminal) : (current.requestCancel reason).Valid := by
  rw [TaskStateSnapshot.requestCancel, if_pos terminal]
  exact { valid with }

theorem requestCancel_valid_iff (live : ¬current.isTerminal) :
    (current.requestCancel reason).Valid ↔ (current.executionOwner ≠ none →
      current.errorKind = none ∧ current.errorMessage = none ∧
        current.interruptedReason = none) := by
  rw [TaskStateSnapshot.requestCancel, if_neg live]
  have unfinished : current.status ≠ .completed := fun completed =>
    live (by rw [TaskStateSnapshot.isTerminal, completed]; rfl)
  have successful : ¬current.isUnsuccessful := by
    intro unsuccessful
    apply live
    rcases Bool.or_eq_true_iff.mp unsuccessful with failed | timedOut
    · rw [TaskStateSnapshot.isTerminal, of_decide_eq_true failed]; rfl
    · rw [TaskStateSnapshot.isTerminal, of_decide_eq_true timedOut]; rfl
  obtain ⟨noDigest, noSize⟩ := valid.noResult unfinished
  obtain ⟨unclassified, unscheduled⟩ := valid.noRetry successful
  constructor
  · intro cancelling owned
    obtain ⟨-, kind, message, -, -, interruption⟩ :=
      (TaskStateSnapshot.executionMetadataValid_iff (.inr (.inl rfl))).mp
        (cancelling.metadataConsistent owned)
    exact ⟨kind, message, interruption⟩
  · intro clean
    exact { valid with
      statusNamed := show TaskStatus.cancelling.asStr ≠ "" by decide
      retryClassified := fun classified => absurd unclassified classified
      retryScheduled := fun scheduled => absurd unscheduled scheduled
      resultConsistent := .inl ⟨noDigest, noSize⟩
      metadataConsistent := fun owned => by
        obtain ⟨kind, message, interruption⟩ := clean owned
        exact (TaskStateSnapshot.executionMetadataValid_iff (.inr (.inl rfl))).mpr
          ⟨noDigest, kind, message, unclassified, unscheduled, interruption⟩ }

theorem requestCancel_markCancelled_valid_iff :
    (current.requestCancel reason).markCancelled.Valid ↔
      (current.executionOwner ≠ none → current.interruptedReason = none) := by
  have fields : (current.requestCancel reason).markCancelled =
      { current.clearResult.clearError with
        status := .cancelled
        cancelRequested := true
        cancelAccepted := true
        cancelReason := some reason
        logs := (current.requestCancel reason).markCancelled.logs } := by
    unfold TaskStateSnapshot.requestCancel
    split <;> rfl
  rw [fields]
  constructor
  · intro cancelled owned
    exact ((TaskStateSnapshot.executionMetadataValid_iff (.inr (.inr rfl))).mp
      (cancelled.metadataConsistent owned)).2.2.2.2.2
  · intro clean
    exact { valid with
      statusNamed := show TaskStatus.cancelled.asStr ≠ "" by decide
      retryClassified := fun classified => absurd rfl classified
      retryScheduled := fun scheduled => absurd rfl scheduled
      resultConsistent := .inl ⟨rfl, rfl⟩
      metadataConsistent := fun owned =>
        (TaskStateSnapshot.executionMetadataValid_iff (.inr (.inr rfl))).mpr
          ⟨rfl, rfl, rfl, rfl, rfl, clean owned⟩ }

end

theorem cancellationCandidate_transition (known : current.status.isKnown) :
    Transition current (CasOperation.cancellationCandidate reason current) .compareAndSet := by
  unfold CasOperation.cancellationCandidate
  split
  next queued =>
      have live : ¬current.isTerminal := by
        simp [TaskStateSnapshot.isTerminal, queued, TaskStatus.isTerminal]
      have inactive : ¬current.isActive := by simp [TaskStateSnapshot.isActive, queued]
      rw [TaskStateSnapshot.requestCancel, if_neg live]
      exact {
        fence := .inl ⟨rfl, rfl, rfl⟩
        deadline := fun _ => .inl rfl
        heartbeat := fun _ _ => .inl rfl
        outcome := fun _ active => absurd active inactive
        terminal := fun terminal => absurd terminal live
        status := .inl (by rw [queued]; rfl)
        started := fun running => by cases running }
  next started =>
      by_cases terminal : current.isTerminal
      · have inactive : ¬current.isActive := by
          intro active
          rcases Bool.or_eq_true_iff.mp active with running | cancelling
          · rw [TaskStateSnapshot.isTerminal, of_decide_eq_true running] at terminal
            cases terminal
          · rw [TaskStateSnapshot.isTerminal, of_decide_eq_true cancelling] at terminal
            cases terminal
        rw [TaskStateSnapshot.requestCancel, if_pos terminal]
        exact {
          fence := .inl ⟨rfl, rfl, rfl⟩
          deadline := fun _ => .inl rfl
          heartbeat := fun _ _ => .inl rfl
          outcome := fun _ active => absurd active inactive
          terminal := fun _ => .inl ⟨rfl, rfl, rfl, rfl, rfl, rfl, rfl, rfl⟩
          status := .inl (by
            change current.status.allows current.status
            cases status : current.status <;> simp [TaskStatus.allows])
          started := fun running => .inr running }
      · rw [TaskStateSnapshot.requestCancel, if_neg terminal]
        exact {
          fence := .inl ⟨rfl, rfl, rfl⟩
          deadline := fun _ => .inl rfl
          heartbeat := fun _ _ => .inl rfl
          outcome := fun _ _ outcome => by cases outcome
          terminal := fun finished => absurd finished terminal
          status := .inl (by
            change current.status.allows .cancelling
            unfold TaskStateSnapshot.isTerminal at terminal
            cases status : current.status <;>
              simp_all [TaskStatus.allows, TaskStatus.isKnown, TaskStatus.isTerminal])
          started := fun running => by cases running }

/-! ## Requests -/

/-- What a request is meant to do to a task. -/
def Cancels (reason : String) (current record : TaskStateSnapshot) : Prop :=
  if current.status = .queued then record.status = .cancelled
  else if current.isTerminal then record.status = current.status
  else record.status = .cancelling ∧ record.cancelRequested ∧ record.cancelReason = some reason

/-- The records that a request works on. A claimed task that went back to the queue, or that
is recovering, must not carry the texts of its failure; and a request that was recorded
before is not carried out again. -/
def AcceptsCancellation (reason : String) (current : TaskStateSnapshot) : Prop :=
  if CasOperation.carriesCancellation reason current then
    current.status = .cancelling ∨ current.isTerminal
  else
    current.recordVersion ≠ Unsigned.maximum 64 ∧ (current.executionOwner ≠ none →
      (current.status = .queued → current.interruptedReason = none) ∧
      (current.status = .recovering → current.errorKind = none ∧
        current.errorMessage = none ∧ current.interruptedReason = none))

instance (reason : String) (current : TaskStateSnapshot) :
    Decidable (AcceptsCancellation reason current) :=
  inferInstanceAs (Decidable (ite _ _ _))

theorem cancellationCandidate_cancels :
    Cancels reason current (CasOperation.cancellationCandidate reason current) := by
  unfold Cancels CasOperation.cancellationCandidate TaskStateSnapshot.requestCancel
  split
  next => rfl
  next => split <;> simp_all [TaskStateSnapshot.pushLog]

theorem cancellationCandidate_keeps :
    KeepsIdentity current (CasOperation.cancellationCandidate reason current) := by
  unfold CasOperation.cancellationCandidate TaskStateSnapshot.requestCancel
  split <;> split <;> exact ⟨⟨rfl, rfl⟩, rfl, rfl, rfl⟩

theorem cancellationCandidate_valid_iff (valid : current.Valid)
    (known : current.status.isKnown) :
    (CasOperation.cancellationCandidate reason current).Valid ↔
      (current.executionOwner ≠ none →
        (current.status = .queued → current.interruptedReason = none) ∧
        (current.status = .recovering → current.errorKind = none ∧
          current.errorMessage = none ∧ current.interruptedReason = none)) := by
  unfold CasOperation.cancellationCandidate
  split
  next queued =>
      rw [requestCancel_markCancelled_valid_iff valid]
      simp [queued]
  next started =>
      by_cases terminal : current.isTerminal
      · have stopped : current.status ≠ .recovering := by
          rintro recovering
          rw [TaskStateSnapshot.isTerminal, recovering] at terminal
          cases terminal
        simp [requestCancel_valid_of_terminal valid terminal, started, stopped]
      rw [requestCancel_valid_iff valid terminal]
      by_cases recovering : current.status = .recovering
      · simp [recovering]
      · have active : current.status = .running ∨ current.status = .cancelling := by
          unfold TaskStateSnapshot.isTerminal at terminal
          cases status : current.status <;>
            simp_all [TaskStatus.isKnown, TaskStatus.isTerminal]
        simp only [started, recovering, false_implies, and_self, implies_true, iff_true]
        intro owned
        have clean := (TaskStateSnapshot.executionMetadataValid_iff (by tauto)).mp
          (valid.metadataConsistent owned)
        exact ⟨clean.2.1, clean.2.2.1, clean.2.2.2.2.2⟩

section Runs

variable {store : FileSystemTaskStateStore directory} {taskId : String} {writer : WriterFiles}
  {trace : List (taskStore directory .text).Event}
  {configuration : (taskStore directory .text).Configuration}
  {environment : StoreEnvironment} {number : Nat} {commit : Commit directory}

private theorem requestCancellation_ends (quiet : environment.fault = none)
    {state : TaskFiles .text} (idle : state.pendingLatest = none)
    (owned : store.IsCurrent state)
    (read : directory.read state none (some taskId) = .ok current) (valid : current.Valid)
    (known : current.status.isKnown) {call : StoreCall directory} :
    let program := (CasOperation.requestCancellation taskId reason).run store
    (CasOperation.carriesCancellation reason current ∧
      ∃ after, Ends environment number call program state after [] (.ok current)) ∨
    (¬CasOperation.carriesCancellation reason current ∧ AcceptsCancellation reason current ∧
      ∃ after committed, committed.taskId = current.taskId ∧ Cancels reason current committed ∧
        Ends environment number call program state after [⟨call, .compareAndSet,
          CasOperation.cancellationCandidate reason current, committed⟩] (.ok committed)) ∨
    (¬AcceptsCancellation reason current ∧
      ∃ error, Ends environment number call program state state [] (.error error)) := by
  have keeps := @cancellationCandidate_keeps current reason
  by_cases carries : CasOperation.carriesCancellation reason current
  · have decided : (CasOperation.requestCancellation taskId reason).decide current =
        .ok .refresh := if_pos carries
    exact .inl ⟨carries, CasOperation.run_refreshes quiet read idle owned decided⟩
  have decided : (CasOperation.requestCancellation taskId reason).decide current =
      .ok (.propose (CasOperation.cancellationCandidate reason current)) := if_neg carries
  have acceptance : (∃ committed, Accepted (some current)
        (CasOperation.cancellationCandidate reason current)
        (CasOperation.cancellationCandidate reason current).recordVersion .compareAndSet
        (directory.currentGeneration state) committed) ↔
      AcceptsCancellation reason current := by
    rw [accepted_iff keeps (by simp), cancellationCandidate_valid_iff valid known,
      AcceptsCancellation, if_neg carries]
    have transition := @cancellationCandidate_transition current reason known
    tauto
  by_cases accepts : AcceptsCancellation reason current
  · obtain ⟨committed, accepted⟩ := acceptance.mpr accepts
    refine .inr (.inl ⟨carries, accepts, _, committed, ?_, ?_,
      CasOperation.run_commits quiet read idle owned decided keeps.sameRecord accepted⟩)
    · rw [accepted.stamped]
      exact keeps.sameRecord.2
    · rw [accepted.stamped]
      exact cancellationCandidate_cancels
  · exact .inr (.inr ⟨accepts, CasOperation.run_rejected quiet read idle decided
      keeps.sameRecord (mt acceptance.mp accepts)⟩)

private theorem cancels_self_iff (known : current.status.isKnown)
    (carries : CasOperation.carriesCancellation reason current) :
    Cancels reason current current ↔ AcceptsCancellation reason current := by
  unfold Cancels AcceptsCancellation TaskStateSnapshot.isTerminal
  cases status : current.status <;>
    simp_all [CasOperation.carriesCancellation, TaskStatus.isKnown, TaskStatus.isTerminal]

/-- In every reachable state a request that nothing disturbs brings a known task where it is
meant to, and the store holds what it returns, exactly for the readable records that accept
a cancellation. -/
theorem cancellation_accepted_iff
    (run : (taskStore directory .text).Run (.empty writer) trace configuration)
    (idle : configuration.state.pendingLatest = none)
    (owned : store.IsCurrent configuration.state) (quiet : environment.fault = none)
    (committed : lastCommit taskId (commits trace) = some commit)
    (known : commit.committed.status.isKnown) :
    (∃ after made record,
      Ends environment number ⟨store, .command (.requestCancellation taskId reason)⟩
        (StoreCall.program ⟨store, .command (.requestCancellation taskId reason)⟩)
        configuration.state after made (.ok (.record record)) ∧
      Cancels reason commit.committed record ∧
      currentRecord taskId (made ++ commits trace) = some record.stored) ↔
    ∃ current, directory.read configuration.state none (some taskId) = .ok current ∧
      AcceptsCancellation reason current := by
  have reflects := (run_reflects RecordFormat.text_faithful run).1
  have distinct : Function.Injective StoreReply.record := fun _ _ => StoreReply.record.inj
  cases read : directory.read configuration.state none (some taskId) with
  | error error =>
      constructor
      · rintro ⟨after, made, record, ends, -⟩
        cases (CasOperation.run_fails quiet read).result_of_reply distinct ends
      · rintro ⟨current, found, -⟩
        cases found
  | ok current =>
      obtain ⟨found, named⟩ := reflects.read_eq_ok RecordFormat.text_faithful read
      have valid := reflects.read_valid RecordFormat.text_faithful read
      obtain rfl : commit.committed.stored = current :=
        Option.some.inj ((currentRecord_eq_some committed).symm.trans found)
      have request := @requestCancellation_ends _ _ reason store taskId environment number quiet
        _ idle owned read valid known
        ⟨store, .command (.requestCancellation taskId reason)⟩
      rcases request with ⟨carries, after, ends⟩ |
        ⟨-, accepts, after, record, sameTask, cancels, ends⟩ | ⟨refuses, error, ends⟩
      · have recorded : Cancels reason commit.committed.stored commit.committed.stored ↔ _ :=
          cancels_self_iff known carries
        constructor
        · rintro ⟨_, _, record, other, cancels, -⟩
          cases ends.result_of_reply distinct other
          exact ⟨_, rfl, recorded.mp cancels⟩
        · rintro ⟨_, ⟨⟩, accepts⟩
          refine ⟨after, [], _, ends.map _, recorded.mpr accepts, ?_⟩
          rw [List.nil_append, found, TaskStateSnapshot.stored_stored]
      · constructor
        · rintro -
          exact ⟨_, rfl, accepts⟩
        · rintro -
          exact ⟨after, _, record, ends.map _, cancels,
            currentRecord_cons (sameTask.trans named)⟩
      · constructor
        · rintro ⟨_, _, record, other, -⟩
          cases ends.result_of_reply distinct other
        · rintro ⟨_, ⟨⟩, accepts⟩
          exact absurd accepts refuses

namespace Sample

def cancel : StoreOperation := .command (.requestCancellation task.taskId "operator request")

def interrupt : StoreOperation :=
  .updateSnapshot task.taskId fun current => .ok (current.markRecovering "worker is gone")

end Sample

theorem Sample.store_isCurrent :
    Sample.store.IsCurrent state :=
  rfl

theorem cancellation_accepted_iff_sample :
    ∃ trace configuration after made record,
      (taskStore Sample.directory .text).Run (.empty Sample.files) trace configuration ∧
      Ends Sample.quiet 2 ⟨Sample.store, Sample.cancel⟩
        (StoreCall.program ⟨Sample.store, Sample.cancel⟩) configuration.state after made
        (.ok (.record record)) ∧
      record.status = .cancelling := by
  obtain ⟨trace, configuration, commit, run, idle, last, read, checked⟩ :=
    @Sample.script_reads [Sample.claim, Sample.create]
      (fun current => decide (current.status = .running) &&
        decide (AcceptsCancellation "operator request" current))
      (by decide)
  rw [Bool.and_eq_true, decide_eq_true_eq, decide_eq_true_eq] at checked
  have running : commit.committed.status = .running := checked.1
  obtain ⟨after, made, record, ends, cancels, -⟩ :=
    (@cancellation_accepted_iff _ "operator request" Sample.store Sample.task.taskId Sample.files
      trace configuration Sample.quiet 2 commit run idle Sample.store_isCurrent rfl last
      (by rw [running]; rfl)).mpr ⟨_, read, checked.2⟩
  refine ⟨trace, configuration, after, made, record, run, ends, ?_⟩
  simp only [Cancels, TaskStateSnapshot.isTerminal, running] at cancels
  exact cancels.1

/-- A claimed task that provider recovery has found interrupted refuses to be cancelled. -/
theorem cancellation_refused :
    ∃ trace configuration commit error,
      (taskStore Sample.directory .text).Run (.empty Sample.files) trace configuration ∧
      lastCommit Sample.task.taskId (commits trace) = some commit ∧
      commit.committed.status = .recovering ∧
      Ends Sample.quiet 3 ⟨Sample.store, Sample.cancel⟩
        (StoreCall.program ⟨Sample.store, Sample.cancel⟩) configuration.state
        configuration.state [] (.error error) := by
  obtain ⟨trace, configuration, commit, run, idle, last, read, checked⟩ :=
    @Sample.script_reads [Sample.interrupt, Sample.claim, Sample.create]
      (fun current => decide (current.Valid ∧ current.status = .recovering ∧
        ¬CasOperation.carriesCancellation "operator request" current ∧
        ¬AcceptsCancellation "operator request" current))
      (by decide)
  obtain ⟨valid, recovering, fresh, refuses⟩ := of_decide_eq_true checked
  have request := @requestCancellation_ends _ _ "operator request" Sample.store
    Sample.task.taskId Sample.quiet 3 rfl _ idle Sample.store_isCurrent read valid
    (by rw [recovering]; rfl) ⟨Sample.store, Sample.cancel⟩
  rcases request with ⟨carries, -⟩ | ⟨-, accepts, -⟩ | ⟨-, error, ends⟩
  · exact absurd carries fresh
  · exact absurd accepts refuses
  · exact ⟨trace, configuration, commit, error, run, last, recovering, ends.map _⟩

end Runs

/-! ## What a cancellation leaves possible -/

def StoreOperation.requestsCancellation : StoreOperation → Bool
  | command (.requestCancellation ..) | command (.requestExecutionCancellation ..) => true
  | _ => false

/-- The operations that complete a task although it was to be cancelled. -/
def StoreOperation.completesEffect : StoreOperation → Bool
  | command (.finishCommittedEffectExecution ..)
  | command (.recoverTaskFromCommittedEffect ..) => true
  | _ => false

/-- The task was cancelled, or the cancellation came too late or was interrupted. -/
structure Withdrawn (record : TaskStateSnapshot) : Prop where
  requested : record.cancelRequested
  status : record.status = .cancelling ∨ record.status = .cancelled ∨
    record.status = .interrupted ∨ record.status = .completed

section Steps

theorem requestCancel_withdrawn (withdrawn : Withdrawn current) :
    Withdrawn (current.requestCancel reason) := by
  obtain ⟨-, status⟩ := withdrawn
  unfold TaskStateSnapshot.requestCancel
  split
  · exact ⟨rfl, status⟩
  · exact ⟨rfl, .inl rfl⟩

/-- A step of a command leads from a withdrawn task to a withdrawn task, and completes it only
when its effect was committed. -/
theorem CommandStep.withdrawn (step : CommandStep store current command proposed)
    (withdrawn : Withdrawn current) :
    Withdrawn proposed ∧ (proposed.status = .completed → current.status ≠ .completed →
      (StoreOperation.command command).completesEffect) := by
  have requested := withdrawn.requested
  cases step with
  | requeue _ eligible | schedule _ eligible =>
      simp [taskRetryIsEligible, requested] at eligible
  | abandonedReplay _ eligible | abandonedTask _ eligible =>
      simp [TaskStateSnapshot.abandonedEligible, requested] at eligible
  | finish _ running =>
      rcases withdrawn.status with other | other | other | other <;>
        cases running.symm.trans other
  | cancelFenced _ _ unrequested => cases requested.symm.trans unrequested
  | committedEffect => exact ⟨⟨requested, .inr (.inr (.inr rfl))⟩, fun _ _ => rfl⟩
  | finishCommitted =>
      refine ⟨⟨?_, .inr (.inr (.inr rfl))⟩, fun _ _ => rfl⟩
      unfold TaskStateSnapshot.supersedeCancellation
      split <;> exact requested
  | unknownEffect | blockFenced =>
      exact ⟨⟨requested, .inr (.inr (.inl rfl))⟩, fun completed => by cases completed⟩
  | finishCancelled => exact ⟨⟨rfl, .inr (.inl rfl)⟩, fun completed => by cases completed⟩
  | heartbeat =>
      exact ⟨⟨requested, withdrawn.status⟩, fun completed other => absurd completed other⟩
  | cancel =>
      have left : current.status ≠ .queued := by
        rcases withdrawn.status with other | other | other | other <;> simp [other]
      rw [CasOperation.cancellationCandidate, if_neg left]
      refine ⟨requestCancel_withdrawn withdrawn, fun completed other => ?_⟩
      rw [requestCancel_status] at completed
      split at completed
      · exact absurd completed other
      · cases completed

theorem Proposes.withdrawn (proposes : Proposes call (some current) mode proposed)
    (withdrawn : Withdrawn current) (named : ¬call.operation.isPlain) :
    Withdrawn proposed ∧ (proposed.status = .completed → current.status ≠ .completed →
      call.operation.completesEffect) := by
  cases proposes with
  | command called step =>
      rw [called]
      exact step.withdrawn withdrawn
  | claim called claimed =>
      have free := (claimCandidate_eq_ok claimed).1.notCancelled
      cases free.symm.trans withdrawn.requested
  | update called | rename called | compareAndSet called =>
      exact absurd (by rw [called]; rfl) named

theorem Proposes.withdraws (proposes : Proposes call (some current) mode proposed)
    (live : ¬current.isTerminal) (requests : call.operation.requestsCancellation) :
    Withdrawn proposed ∧ (proposed.status = .cancelling ∨ proposed.status = .cancelled) := by
  cases proposes with
  | command called step =>
      rw [called] at requests
      cases step with
      | cancelFenced =>
          rw [TaskStateSnapshot.requestCancel, if_neg live]
          exact ⟨⟨rfl, .inl rfl⟩, .inl rfl⟩
      | cancel =>
          unfold CasOperation.cancellationCandidate
          split
          · exact ⟨⟨rfl, .inr (.inl rfl)⟩, .inr rfl⟩
          · rw [TaskStateSnapshot.requestCancel, if_neg live]
            exact ⟨⟨rfl, .inl rfl⟩, .inl rfl⟩
      | _ => cases requests
  | claim called | update called | rename called | compareAndSet called =>
      rw [called] at requests
      cases requests

variable {commit : Commit directory}

theorem Follows.withdrawn (follows : Follows earlier commit)
    (found : lastCommit commit.taskId earlier = some last) (withdrawn : Withdrawn last.committed)
    (named : ¬commit.call.operation.isPlain) :
    Withdrawn commit.committed ∧ (commit.committed.status = .completed →
      last.committed.status ≠ .completed → commit.call.operation.completesEffect) := by
  have proposes := follows.proposes
  rw [currentRecord_eq_some found] at proposes
  obtain ⟨proposed, completes⟩ := proposes.withdrawn
    ⟨withdrawn.requested, withdrawn.status⟩ named
  rw [follows.stamped]
  exact ⟨⟨proposed.requested, proposed.status⟩, completes⟩

theorem Follows.withdraws (follows : Follows earlier commit)
    (found : lastCommit commit.taskId earlier = some last) (live : ¬last.committed.isTerminal)
    (requests : commit.call.operation.requestsCancellation) :
    Withdrawn commit.committed ∧ (commit.committed.status = .cancelling ∨
      commit.committed.status = .cancelled) := by
  have proposes := follows.proposes
  rw [currentRecord_eq_some found] at proposes
  obtain ⟨withdrawn, status⟩ := proposes.withdraws live requests
  rw [follows.stamped]
  exact ⟨⟨withdrawn.requested, withdrawn.status⟩, status⟩

theorem History.withdrawn_last (history : History (later ++ commit :: earlier))
    (withdrawn : Withdrawn commit.committed)
    (named : ∀ newer ∈ later, newer.taskId = commit.taskId → ¬newer.call.operation.isPlain)
    (found : lastCommit commit.taskId (later ++ commit :: earlier) = some last) :
    Withdrawn last.committed := by
  refine history.stable_last Withdrawn withdrawn ?_ found
  intro before newer previous member follows found sameTask held
  exact (follows.withdrawn found held (named newer member sameTask)).1

end Steps

/-- Once a cancellation has been committed for a task that goes on, the named operations
never claim or queue it again, and complete it only when its effect was committed. -/
theorem cancellation_is_final {writer : WriterFiles}
    {trace : List (taskStore directory .text).Event}
    {configuration : (taskStore directory .text).Configuration}
    {later earlier : List (Commit directory)} {cancellation last : Commit directory}
    (run : (taskStore directory .text).Run (.empty writer) trace configuration)
    (committed : commits trace = later ++ cancellation :: earlier)
    (requests : cancellation.call.operation.requestsCancellation)
    (found : lastCommit cancellation.taskId earlier = some last)
    (live : ¬last.committed.isTerminal)
    (named : ∀ commit ∈ later, commit.taskId = cancellation.taskId →
      ¬commit.call.operation.isPlain) :
    (cancellation.committed.status = .cancelling ∨
      cancellation.committed.status = .cancelled) ∧
    ∀ recent commit before previous, later = recent ++ commit :: before →
      commit.taskId = cancellation.taskId →
      lastCommit commit.taskId (before ++ cancellation :: earlier) = some previous →
      ¬commit.claims (before ++ cancellation :: earlier) ∧
      commit.committed.status ≠ .queued ∧
      (commit.committed.status = .cancelling ∨ commit.committed.status = .cancelled ∨
        commit.committed.status = .interrupted ∨ commit.committed.status = .completed) ∧
      (commit.committed.status = .completed → previous.committed.status ≠ .completed →
        commit.call.operation.completesEffect) := by
  have history := (run_reflects RecordFormat.text_faithful run).1.history
  rw [committed] at history
  obtain ⟨cancelled, status⟩ := (history.follows rfl).withdraws found live requests
  refine ⟨status, ?_⟩
  rintro recent commit before previous rfl sameTask previousFound
  rw [List.append_assoc, List.cons_append] at history
  have follows := history.follows rfl
  have previousWithdrawn := history.past.withdrawn_last cancelled
    (fun newer member => named newer (by simp [member])) (sameTask ▸ previousFound)
  obtain ⟨withdrawn, completes⟩ := follows.withdrawn previousFound previousWithdrawn
    (named commit (by simp) sameTask)
  refine ⟨fun claims => ?_, fun queued => ?_, withdrawn.status, completes⟩
  · obtain ⟨_, _, claim⟩ := Commit.claims_iff.mp claims
    have running : commit.committed.status = .running := by
      rw [follows.stamped]
      exact claim.isRunning
    rcases withdrawn.status with other | other | other | other <;>
      cases running.symm.trans other
  · rcases withdrawn.status with other | other | other | other <;>
      cases queued.symm.trans other

/-- A worker acknowledges the cancellation of its attempt. -/
theorem cancellation_is_final_sample :
    ∃ trace configuration commit earlier,
      (taskStore Sample.directory .text).Run (.empty Sample.files) trace configuration ∧
      commits trace = commit :: earlier ∧ commit.committed.status = .cancelled ∧
      ¬commit.claims earlier := by
  obtain ⟨session, trace, threads, -, checked, run, -, same, -⟩ :=
    @Sample.script_run [Sample.fail, Sample.cancel, Sample.claim, Sample.create]
      (fun session => match commits session.trace with
        | commit :: cancellation :: last :: _ =>
            commit.committed.status = .cancelled ∧ ¬commit.call.operation.isPlain ∧
              cancellation.call.operation.requestsCancellation ∧
              ¬last.committed.isTerminal ∧ last.taskId = cancellation.taskId ∧
              commit.taskId = cancellation.taskId
        | [] | [_] | [_, _] => false)
      (by decide +kernel)
  rw [← same] at checked
  split at checked
  next commit cancellation last earlier committed =>
      obtain ⟨cancelled, named, requests, live, sameTask, ownTask⟩ := of_decide_eq_true checked
      have found : lastCommit cancellation.taskId (last :: earlier) = some last := by
        rw [lastCommit_cons, if_pos sameTask]
      have previous : lastCommit commit.taskId (cancellation :: last :: earlier) =
          some cancellation := by
        rw [lastCommit_cons, if_pos ownTask.symm]
      have final := (@cancellation_is_final _ _ _ _ [commit] _ _ _ run committed requests found
        live (by simpa using fun _ => named)).2 [] commit [] cancellation rfl ownTask previous
      exact ⟨trace, _, commit, _, run, committed, cancelled, final.1⟩
  all_goals cases checked

end Eva.Storage
