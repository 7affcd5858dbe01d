import Eva.Storage.TaskState.Outcomes
import Eva.Storage.TaskState.Undisturbed

/-! # Retries

A failed attempt is put back in the queue once it is due, and a task from the
queue is claimed for its next attempt. The two ends are guarded separately: the
queue takes tasks with dead letters, the claim does not.
-/

namespace Eva.Storage

variable {directory : TaskDirectory} {current : TaskStateSnapshot}

/-! ## Claims of queued tasks -/

section Claim

variable {taskId executionOwner cancelToken : String} {observedAtMs : U128}
  {deadlineAtMs : Option U128} (owner : isBoundedIdentity maxTaskExecutionOwnerBytes executionOwner)
  (token : isBoundedIdentity maxTaskCancelTokenBytes cancelToken)

include owner token in
theorem claimed_valid (valid : current.Valid) (claimable : current.Claimable)
    (next : current.attempts.checkedAdd 1 = some attempt) :
    (current.claimed executionOwner attempt observedAtMs deadlineAtMs cancelToken).Valid := by
  have value := Unsigned.checkedAdd_eq_some_iff.mp next
  have one : (1 : Usize).value = 1 := rfl
  have remaining := claimable.remaining
  rw [Unsigned.lt_iff] at remaining
  exact { valid with
    statusNamed := show TaskStatus.running.asStr ≠ "" by decide
    withinBudget := by
      change attempt ≤ current.retryMaxAttempts
      rw [Unsigned.le_iff]
      omega
    ownerBounded := fun name same => Option.some.inj same ▸ owner
    ownerBacked := fun _ => ⟨claimable.enveloped, Unsigned.ne_zero_of_value value, by
      simp [TaskStateSnapshot.claimed, TaskStateSnapshot.markRunning,
        TaskStateSnapshot.pushLog]⟩
    tokenBounded := fun name same => Option.some.inj same ▸ token
    retryClassified := fun classified => absurd rfl classified
    retryScheduled := fun scheduled => absurd rfl scheduled
    resultConsistent := .inl ⟨rfl, rfl⟩
    metadataConsistent := fun _ =>
      (TaskStateSnapshot.executionMetadataValid_iff (.inl rfl)).mpr
        ⟨rfl, rfl, rfl, rfl, rfl, rfl⟩ }

theorem claimed_claimStep (claimable : current.Claimable)
    (next : current.attempts.checkedAdd 1 = some attempt)
    (timed : FileSystemTaskStateStore.attemptDeadline taskId observedAtMs current =
      .ok deadlineAtMs) :
    ClaimStep current
      (current.claimed executionOwner attempt observedAtMs deadlineAtMs cancelToken) where
  wasQueued := claimable.isQueued
  isRunning := rfl
  next := next
  enveloped := claimable.enveloped
  uncancelled := ⟨claimable.notCancelled, claimable.notCancelled⟩
  noDeadLetters := claimable.noDeadLetters
  remaining := claimable.remaining
  unclaimed := ⟨claimable.unowned, claimable.untokened⟩
  claimed := by simp [TaskStateSnapshot.claimed, TaskStateSnapshot.markRunning,
    TaskStateSnapshot.pushLog]
  noResult := ⟨rfl, rfl⟩
  noInterruption := rfl
  noError := ⟨rfl, rfl⟩
  deadline := by
    unfold FileSystemTaskStateStore.attemptDeadline at timed
    unfold claimDeadlineValid
    cases timeout : current.envelope.bind (·.attemptPolicy.attemptTimeoutMs) with
    | none =>
        simp only [timeout, Except.ok.injEq] at timed
        subst timed
        rfl
    | some timeoutMs =>
        simp only [timeout] at timed
        cases sum : observedAtMs.checkedAdd (timeoutMs.widen (by decide)) with
        | none => simp [sum, orReject, Except.map] at timed
        | some deadline =>
            simp only [sum, orReject, Except.map, Except.ok.injEq] at timed
            subst timed
            simp [TaskStateSnapshot.claimed, TaskStateSnapshot.markRunning,
              TaskStateSnapshot.pushLog, sum]

theorem ClaimStep.transition (step : ClaimStep current proposed) :
    Transition current proposed .compareAndSet := by
  have unowned := step.unclaimed.1
  have fresh : ¬current.isTerminal := by
    rw [TaskStateSnapshot.isTerminal, step.wasQueued]
    simp [TaskStatus.isTerminal]
  exact {
    fence := .inr (.inl (isClaim_iff.mpr step))
    deadline := fun owned => absurd unowned owned
    heartbeat := fun owned => absurd unowned owned
    outcome := fun owned => absurd unowned owned
    terminal := fun terminal => absurd terminal fresh
    status := .inl (by rw [step.wasQueued, step.isRunning]; rfl)
    started := fun _ => .inl (isClaim_iff.mpr step) }

theorem claimed_keeps :
    KeepsIdentity current
      (current.claimed executionOwner attempt observedAtMs deadlineAtMs cancelToken) :=
  ⟨⟨rfl, rfl⟩, rfl, rfl, rfl⟩

include owner token in
theorem claimCandidate_of_claimable (valid : current.Valid) (claimable : current.Claimable)
    (timed : FileSystemTaskStateStore.attemptDeadline taskId observedAtMs current =
      .ok deadlineAtMs) :
    ∃ attempt, current.attempts.checkedAdd 1 = some attempt ∧
      FileSystemTaskStateStore.claimCandidate taskId executionOwner cancelToken observedAtMs
        current = .ok (some (current.claimed executionOwner attempt observedAtMs deadlineAtMs
          cancelToken)) := by
  have remaining := claimable.remaining
  rw [Unsigned.lt_iff] at remaining
  have inRange : current.attempts.value + 1 < 2 ^ 64 :=
    Nat.lt_of_le_of_lt remaining current.retryMaxAttempts.inRange
  obtain ⟨attempt, next⟩ : ∃ attempt, current.attempts.checkedAdd 1 = some attempt :=
    ⟨⟨_, inRange⟩, Unsigned.checkedAdd_eq_some_iff.mpr rfl⟩
  refine ⟨attempt, next, ?_⟩
  have claims : current.claimForExecution executionOwner observedAtMs deadlineAtMs cancelToken =
      .ok _ := TaskStateSnapshot.claimForExecution_eq_ok_iff.mpr
    ⟨claimable, owner, token, attempt, next, rfl, claimed_valid owner token valid claimable next⟩
  have unspent : ¬(current.retryMaxAttempts ≤ current.attempts) := by
    rw [Unsigned.le_iff]
    omega
  simp only [FileSystemTaskStateStore.claimCandidate, claimable.isQueued, claimable.enveloped,
    claimable.notCancelled, claimable.noDeadLetters, claimable.unowned, claimable.untokened,
    unspent, ne_eq, not_true_eq_false, Bool.false_eq_true, or_self, if_false, timed, claims,
    ok_bind]
  rfl

theorem claimCandidate_of_not_claimable (refused : ¬current.Claimable) :
    FileSystemTaskStateStore.claimCandidate taskId executionOwner cancelToken observedAtMs
      current = .ok none := by
  unfold FileSystemTaskStateStore.claimCandidate
  rw [if_pos]
  by_contra guards
  simp only [not_or, not_not, Bool.not_eq_true] at guards
  obtain ⟨isQueued, enveloped, notCancelled, noDeadLetters, remaining, unowned, untokened⟩ :=
    guards
  exact refused ⟨isQueued, enveloped, notCancelled, noDeadLetters, unowned, untokened,
    Nat.lt_of_not_le remaining⟩

theorem taskExecutionClaim_of_claimed (running : committed.status = .running)
    (owned : committed.executionOwner = some executionOwner)
    (tokened : committed.cancelToken = some cancelToken) (started : committed.attempts ≠ 0) :
    ∃ claim, FileSystemTaskStateStore.taskExecutionClaim committed = .ok claim ∧
      claim.snapshot = committed ∧ claim.fence.attempt = committed.attempts := by
  have admitted : ¬(committed.status ≠ .running ∨ committed.attempts = 0) := by
    simp [running, started]
  have made : FileSystemTaskStateStore.taskExecutionClaim committed = .ok {
      snapshot := committed
      fence := {
        taskId := committed.taskId
        ownerGeneration := committed.ownerGeneration
        executionOwner
        attempt := committed.attempts
        cancelToken } } := by
    simp only [FileSystemTaskStateStore.taskExecutionClaim, owned, tokened, orReject, ok_bind,
      rejectIf, if_neg admitted]
    rfl
  exact ⟨_, made, rfl, rfl⟩

variable {format : RecordFormat} {state : TaskFiles format}
  {store : FileSystemTaskStateStore directory} {environment : StoreEnvironment} {number : Nat}

include owner token in
private theorem validateClaim_of_bounded :
    validateExecutionOwner executionOwner = .ok () ∧ validateCancelToken cancelToken = .ok () := by
  simp [validateExecutionOwner, validateCancelToken, rejectIf, owner, token]

include owner token in
theorem tryClaimQueued_fails (quiet : environment.fault = none)
    (failed : directory.read state none (some taskId) = .error error) :
    Ends environment number call
      (store.tryClaimQueued taskId executionOwner cancelToken observedAtMs) state state []
      (.error error) := by
  obtain ⟨ownerValid, tokenValid⟩ := validateClaim_of_bounded owner token
  simp only [FileSystemTaskStateStore.tryClaimQueued, ownerValid, tokenValid]
  apply Ends.read quiet failed
  exact .done

include owner token in
/-- Left alone, a claim succeeds for the claimable records whose versions are not used up. -/
theorem tryClaimQueued_ends (quiet : environment.fault = none)
    (idle : state.pendingLatest = none) (owned : store.IsCurrent state)
    (read : directory.read state none (some taskId) = .ok current) (valid : current.Valid)
    (timed : FileSystemTaskStateStore.attemptDeadline taskId observedAtMs current =
      .ok deadlineAtMs) :
    (current.Claimable ∧ current.recordVersion ≠ Unsigned.maximum 64 ∧
      ∃ after made claim, Ends environment number call
          (store.tryClaimQueued taskId executionOwner cancelToken observedAtMs) state after made
          (.ok (some claim)) ∧
        claim.snapshot.status = .running ∧
        claim.fence.attempt.value = current.attempts.value + 1) ∨
    (¬(current.Claimable ∧ current.recordVersion ≠ Unsigned.maximum 64) ∧
      ∃ result, Ends environment number call
          (store.tryClaimQueued taskId executionOwner cancelToken observedAtMs) state state []
          result ∧
        ∀ claim, result ≠ .ok (some claim)) := by
  obtain ⟨ownerValid, tokenValid⟩ := validateClaim_of_bounded owner token
  simp only [FileSystemTaskStateStore.tryClaimQueued, ownerValid, tokenValid]
  by_cases claimable : current.Claimable
  swap
  · refine .inr ⟨fun accepts => claimable accepts.1, .ok none, ?_, by simp⟩
    apply Ends.read quiet read
    simp only [claimCandidate_of_not_claimable claimable]
    exact .done
  obtain ⟨attempt, next, candidate⟩ := claimCandidate_of_claimable owner token valid claimable
    timed
  have found : directory.readOptionalTaskSnapshot state none (taskFileName
      (current.claimed executionOwner attempt observedAtMs deadlineAtMs cancelToken).taskId) =
      .ok (some current) := by
    obtain ⟨-, key, found⟩ := TaskDirectory.read_eq_ok_iff.mp read
    rwa [← key] at found
  have acceptance := @accepted_iff _ _ .compareAndSet (directory.currentGeneration state)
    (@claimed_keeps current executionOwner cancelToken observedAtMs deadlineAtMs attempt)
    (by simp)
  by_cases headroom : current.recordVersion = Unsigned.maximum 64
  · right
    have rejected := mt acceptance.mp fun accepts => accepts.2.2 headroom
    obtain ⟨error, fails⟩ := @commitSnapshot_rejected _ _ _ store environment number call _ _ _
      quiet idle _ found rejected
    refine ⟨fun accepts => accepts.2 headroom, .error error, ?_, by simp⟩
    apply Ends.read quiet read
    simp only [candidate]
    apply fails.bind
    apply Ends.read quiet read
    simp only [if_true]
    exact .done
  · left
    have step := @claimed_claimStep current taskId executionOwner cancelToken observedAtMs
      deadlineAtMs attempt claimable next timed
    obtain ⟨committed, accepted⟩ := acceptance.mpr
      ⟨claimed_valid owner token valid claimable next, step.transition, headroom⟩
    have ends := @commitSnapshot_accepted _ _ _ store environment number call _ _ _ _
      quiet idle owned _ found accepted
    have attempts : committed.attempts.value = current.attempts.value + 1 := by
      rw [accepted.stamped]
      exact step.attempts_value
    obtain ⟨claim, made, snapshot, fence⟩ := @taskExecutionClaim_of_claimed executionOwner
      cancelToken committed (by rw [accepted.stamped]; rfl) (by rw [accepted.stamped]; rfl)
      (by rw [accepted.stamped]; rfl)
      (Unsigned.ne_zero_of_value attempts)
    refine ⟨claimable, headroom, state.replaced committed, [⟨call, .compareAndSet,
      current.claimed executionOwner attempt observedAtMs deadlineAtMs cancelToken, committed⟩],
      claim, ?_, ?_, ?_⟩
    · apply Ends.read quiet read
      simp only [candidate]
      apply ends.bind
      simp only [made]
      exact .done
    · rw [snapshot, accepted.stamped]
      rfl
    · rw [fence, attempts]

end Claim

/-! ## Requeued tasks -/

/-- The commands that put a task back in the queue. -/
def TaskCommand.requeues : TaskCommand → Bool
  | requeueRetryable .. | recoverAbandonedReplayDelivery .. | recoverAbandonedTaskForRetry .. =>
      true
  | _ => false

theorem CommandStep.requeued
    (step : CommandStep store current command proposed) (requeues : command.requeues)
    (queued : proposed.status = .queued) (valid : proposed.Valid) :
    proposed.Claimable ↔ proposed.deadLetters = [] := by
  refine ⟨fun claimable => claimable.noDeadLetters, fun noDeadLetters => ?_⟩
  cases step with
  | requeue _ eligible =>
      simp only [taskRetryIsEligible, Bool.and_eq_true, decide_eq_true_eq, Bool.not_eq_true',
        Option.isSome_iff_ne_none] at eligible
      obtain ⟨⟨⟨⟨⟨-, remaining⟩, enveloped⟩, notCancelled⟩, -⟩, -⟩ := eligible
      exact ⟨rfl, enveloped, notCancelled, noDeadLetters, rfl, rfl, remaining⟩
  | schedule _ eligible =>
      have unsuccessful : current.isUnsuccessful := by
        simp only [taskRetryIsEligible, Bool.and_eq_true] at eligible
        exact eligible.1.1.1.1.1
      have waiting : current.status = .queued := queued
      simp [TaskStateSnapshot.isUnsuccessful, waiting] at unsuccessful
  | abandonedReplay _ eligible replay =>
      simp only [TaskStateSnapshot.abandonedEligible, Bool.and_eq_true, decide_eq_true_eq,
        Bool.not_eq_true'] at eligible
      obtain ⟨⟨⟨⟨⟨-, notCancelled⟩, -⟩, -⟩, remaining⟩, -⟩ := eligible
      exact ⟨rfl, valid.enveloped_of_replay replay, notCancelled, noDeadLetters, rfl, rfl,
        remaining⟩
  | abandonedTask _ eligible enveloped =>
      simp only [TaskStateSnapshot.abandonedEligible, Bool.and_eq_true, decide_eq_true_eq,
        Bool.not_eq_true'] at eligible
      obtain ⟨⟨⟨⟨⟨-, notCancelled⟩, -⟩, -⟩, remaining⟩, -⟩ := eligible
      exact ⟨rfl, enveloped, notCancelled, noDeadLetters, rfl, rfl, remaining⟩
  | _ => cases requeues

section Runs

variable {writer : WriterFiles} {trace : List (taskStore directory .text).Event}
  {call : StoreCall directory} {command : TaskCommand} {record : TaskStateSnapshot}

theorem returned_record_committed (called : call.operation = .command command)
    (returned : (taskStore directory .text).HasReturned (.empty writer) trace call
      (.ok (.record record))) :
    ∃ commit ∈ commits trace,
      (commit.call = call ∧ commit.committed = record) ∨ commit.committed.stored = record := by
  obtain ⟨later, earlier, configuration, number, past, rfl, run, finished⟩ := returned
  obtain ⟨rfl, path⟩ := run.thread_path finished
  obtain ⟨operation, -, obtained⟩ := StoreCall.ended path command called
  have reads := (run_reflects RecordFormat.text_faithful run).2
  rw [commits_append]
  have found {taskId : String} {act : (taskStore directory .text).Act}
      (member : .act act ∈ earlier) (returned : Returned taskId record act.observation) :
      ∃ commit ∈ commits later ++ commits earlier,
        (commit.call = call ∧ commit.committed = record) ∨
          commit.committed.stored = record := by
    obtain ⟨commit, held, -, same⟩ := reads act member taskId record returned
    exact ⟨commit, List.mem_append_right _ held, .inr same.symm⟩
  cases obtained with
  | committed proposed observed =>
      obtain ⟨act, member, own, observation⟩ := System.mem_observationsOf observed
      have labelled := run.act_label finished member own
      obtain ⟨thread, label, environment, before, after, action, response⟩ := act
      cases observation
      have held : ⟨label, operation.mode, proposed, record⟩ ∈ commits earlier :=
        List.mem_filterMap.mpr ⟨_, member, rfl⟩
      exact ⟨_, List.mem_append_right _ held, .inl ⟨labelled, rfl⟩⟩
  | read observed =>
      obtain ⟨act, member, -, observation⟩ := System.mem_observationsOf observed
      exact found member (by rw [observation]; exact .read)
  | refreshed observed =>
      obtain ⟨act, member, -, observation⟩ := System.mem_observationsOf observed
      exact found member (by rw [observation]; exact .refresh _)

/-- The call has put the record in the queue itself. -/
def QueuedBy (call : StoreCall directory) (record : TaskStateSnapshot)
    (commits : List (Commit directory)) : Prop :=
  ∃ commit ∈ commits, commit.call = call ∧ commit.committed = record

theorem QueuedBy.claimable_iff {commits : List (Commit directory)} (history : History commits)
    (queuedBy : QueuedBy call record commits) (called : call.operation = .command command)
    (requeues : command.requeues) (queued : record.status = .queued) :
    record.Claimable ↔ record.deadLetters = [] := by
  obtain ⟨commit, member, rfl, rfl⟩ := queuedBy
  obtain ⟨earlier, -, -, follows⟩ := history.follows_of_mem member
  obtain ⟨current, -, -, step⟩ := follows.proposes.of_command called
  rw [follows.stamped] at queued
  have proposed := step.requeued requeues queued follows.accepted.proposedValid
  rw [follows.stamped]
  constructor
  · exact fun claimable => claimable.noDeadLetters
  · intro noDeadLetters
    exact { proposed.mpr noDeadLetters with }

/-- In every reachable state, and before any other commit, a claim that nothing disturbs
starts the next attempt of a task that a command has returned from the queue exactly if the
record reads back, its versions are not used up, it has no dead letters, and it is claimable
in case the command has found it in the queue. -/
theorem requeued_task_runs_iff {configuration : (taskStore directory .text).Configuration}
    (run : (taskStore directory .text).Run (.empty writer) trace configuration)
    (called : call.operation = .command command) (requeues : command.requeues)
    (returned : (taskStore directory .text).HasReturned (.empty writer) trace call
      (.ok (.record record)))
    (queued : record.status = .queued)
    (unchanged : currentRecord record.taskId (commits trace) = some record.stored)
    {claimer : FileSystemTaskStateStore directory}
    (idle : configuration.state.pendingLatest = none)
    (owned : claimer.IsCurrent configuration.state)
    {environment : StoreEnvironment} (quiet : environment.fault = none)
    {executionOwner cancelToken : String} {observedAtMs : U128} {deadlineAtMs : Option U128}
    (owner : isBoundedIdentity maxTaskExecutionOwnerBytes executionOwner)
    (token : isBoundedIdentity maxTaskCancelTokenBytes cancelToken)
    (timed : FileSystemTaskStateStore.attemptDeadline record.taskId observedAtMs record =
      .ok deadlineAtMs) (number : Nat) :
    (QueuedBy call record (commits trace) ∨
      ∃ commit ∈ commits trace, commit.committed.stored = record) ∧
    ((∃ after made claim,
      Ends environment number
        ⟨claimer, .tryClaimQueued record.taskId executionOwner cancelToken observedAtMs⟩
        (StoreCall.program
          ⟨claimer, .tryClaimQueued record.taskId executionOwner cancelToken observedAtMs⟩)
        configuration.state after made (.ok (.claim (some claim))) ∧
      claim.snapshot.status = .running ∧
      claim.fence.attempt.value = record.attempts.value + 1) ↔
    directory.read configuration.state none (some record.taskId) = .ok record.stored ∧
      record.recordVersion ≠ Unsigned.maximum 64 ∧ record.deadLetters = [] ∧
      (¬QueuedBy call record (commits trace) → record.Claimable)) := by
  have reflects := (run_reflects RecordFormat.text_faithful run).1
  have source : QueuedBy call record (commits trace) ∨
      ∃ commit ∈ commits trace, commit.committed.stored = record := by
    obtain ⟨commit, member, own | found⟩ := returned_record_committed called returned
    · exact .inl ⟨commit, member, own⟩
    · exact .inr ⟨commit, member, found⟩
  have claimable_iff : record.Claimable ↔ record.deadLetters = [] ∧
      (¬QueuedBy call record (commits trace) → record.Claimable) := by
    by_cases queuedBy : QueuedBy call record (commits trace)
    · simpa [queuedBy] using queuedBy.claimable_iff reflects.history called requeues queued
    · exact ⟨fun claimable => ⟨claimable.noDeadLetters, fun _ => claimable⟩, fun claimable =>
        claimable.2 queuedBy⟩
  refine ⟨source, ?_⟩
  have distinct : Function.Injective StoreReply.claim := fun _ _ => StoreReply.claim.inj
  cases read : directory.read configuration.state none (some record.taskId) with
  | error error =>
      constructor
      · rintro ⟨_, _, claim, ends, -⟩
        cases (tryClaimQueued_fails owner token quiet read).result_of_reply distinct ends
      · rintro ⟨found, -⟩
        cases found
  | ok current =>
      obtain rfl : record.stored = current := Option.some.inj (unchanged.symm.trans
        (reflects.read_eq_ok RecordFormat.text_faithful read).1)
      have valid := reflects.read_valid RecordFormat.text_faithful read
      have stored : record.stored.Claimable ↔ record.Claimable :=
        ⟨fun claimable => { claimable with }, fun claimable => { claimable with }⟩
      rcases @tryClaimQueued_ends _ _ _ _ _ _ _ owner token _ _ claimer environment number
          ⟨claimer, .tryClaimQueued record.taskId executionOwner cancelToken observedAtMs⟩ quiet
          idle owned read valid timed with
        ⟨claimable, headroom, after, made, claim, ends, running, attempt⟩ |
        ⟨refused, result, ends, unclaimed⟩
      · constructor
        · rintro -
          exact ⟨rfl, headroom, claimable_iff.mp (stored.mp claimable)⟩
        · rintro -
          exact ⟨after, made, claim, ends.map _, running, attempt⟩
      · constructor
        · rintro ⟨_, _, claim, other, -⟩
          exact absurd (ends.result_of_reply distinct other) (unclaimed claim)
        · rintro ⟨-, headroom, claimable⟩
          exact absurd ⟨stored.mpr (claimable_iff.mpr claimable), headroom⟩ refused

namespace Sample

def evidence : StoreOperation :=
  .updateSnapshot task.taskId fun current => .ok { current with
    deadLetters := [{
      eventId := "event-demo"
      topic := "tasks.demo"
      reasonKind := "unavailable"
      reason := "backend is down"
      replayCount := 0 }] }

/-- The requeued record is the one that the store holds, and passes the test. -/
def requeued (test : TaskStateSnapshot → Bool)
    (session : (taskStore directory .record).Session) : Except EvaError StoreReply → Bool
  | .ok (.record record) =>
      session.state.pendingLatest.isNone && decide (record.status = .queued) &&
        decide (record.taskId = task.taskId) &&
        decide (record.envelope = some envelope) &&
        decide (currentRecord task.taskId (commits session.trace) = some record.stored) &&
        (match directory.read session.state none (some task.taskId) with
          | .ok current => decide (current = record.stored)
          | .error _ => false) && test record
  | _ => false

end Sample

private theorem Sample.requeued_run
    (executed : (Sample.script (Sample.requeue :: operations)).any fun session =>
      session.results.head?.any fun entry => Sample.requeued test session entry.2) :
    ∃ trace configuration record,
      (taskStore Sample.directory .text).Run (.empty Sample.files) trace configuration ∧
      (taskStore Sample.directory .text).HasReturned (.empty Sample.files) trace
        ⟨Sample.store, Sample.requeue⟩ (.ok (.record record)) ∧
      record.status = .queued ∧
      currentRecord record.taskId (commits trace) = some record.stored ∧
      configuration.state.pendingLatest = none ∧
      Sample.directory.read configuration.state none (some record.taskId) =
        .ok record.stored ∧
      record.envelope = some Sample.envelope ∧ test record := by
  obtain ⟨session, trace, threads, result, checked, run, holds, same, returned⟩ :=
    Sample.last_call executed
  unfold Sample.requeued at checked
  split at checked
  next record =>
      simp only [Bool.and_eq_true, decide_eq_true_eq, Option.isNone_iff_eq_none] at checked
      obtain ⟨⟨⟨⟨⟨⟨idle, queued⟩, named⟩, enveloped⟩, current⟩, read⟩, passed⟩ := checked
      split at read
      next found reading =>
          refine ⟨trace, _, record, run, returned, queued, ?_, ?_, ?_, enveloped, passed⟩
          · rw [same, named, current]
          · simp [TaskFiles.written, idle]
          · rw [named, holds.read RecordFormat.text_faithful, reading,
              of_decide_eq_true read]
      next => cases read
  next => cases checked

private theorem Sample.claim_timed (enveloped : record.envelope = some Sample.envelope) :
    FileSystemTaskStateStore.attemptDeadline record.taskId 9 record = .ok none := by
  rw [FileSystemTaskStateStore.attemptDeadline, enveloped]
  rfl

/-- A failed attempt is put back and claimed again. -/
theorem requeued_task_runs_iff_sample :
    ∃ trace configuration, ∃ record : TaskStateSnapshot, ∃ after made claim,
      (taskStore Sample.directory .text).Run (.empty Sample.files) trace configuration ∧
      Ends Sample.quiet 4
        ⟨Sample.store, .tryClaimQueued record.taskId "worker-demo" "token-next" 9⟩
        (StoreCall.program
          ⟨Sample.store, .tryClaimQueued record.taskId "worker-demo" "token-next" 9⟩)
        configuration.state after made (.ok (.claim (some claim))) ∧
      claim.fence.attempt.value = 2 := by
  obtain ⟨trace, configuration, record, run, returned, queued, unchanged, idle, read, enveloped,
    passed⟩ := @Sample.requeued_run [Sample.fail, Sample.claim, Sample.create]
      (fun record => decide (record.recordVersion ≠ Unsigned.maximum 64) &&
        decide (record.deadLetters = []) && decide (record.attempts = 1) &&
        decide (record.envelope ≠ none) && !record.cancelRequested &&
        decide (record.executionOwner = none) && decide (record.cancelToken = none) &&
        decide (record.attempts < record.retryMaxAttempts)) (by decide +kernel)
  simp only [Bool.and_eq_true, decide_eq_true_eq, Bool.not_eq_true'] at passed
  obtain ⟨⟨⟨⟨⟨⟨⟨headroom, noDeadLetters⟩, first⟩, backed⟩, notCancelled⟩, unowned⟩, untokened⟩,
    remaining⟩ := passed
  obtain ⟨after, made, claim, ends, -, attempt⟩ :=
    (@requeued_task_runs_iff _ _ _ ⟨Sample.store, Sample.requeue⟩ _ record configuration run rfl
      rfl returned queued unchanged Sample.store idle rfl Sample.quiet rfl "worker-demo"
      "token-next" 9 none (by decide) (by decide) (Sample.claim_timed enveloped)
      4).2.mpr ⟨read, headroom, noDeadLetters, fun _ => ⟨queued, backed, notCancelled,
        noDeadLetters, unowned, untokened, remaining⟩⟩
  exact ⟨trace, configuration, record, after, made, claim, run, ends, by rw [attempt, first]; rfl⟩

/-- A failed attempt with a dead letter is put back in the queue, where no claim gets it. -/
theorem requeued_task_stuck :
    ∃ trace configuration record result,
      (taskStore Sample.directory .text).Run (.empty Sample.files) trace configuration ∧
      (taskStore Sample.directory .text).HasReturned (.empty Sample.files) trace
        ⟨Sample.store, Sample.requeue⟩ (.ok (.record record)) ∧
      record.status = .queued ∧
      currentRecord record.taskId (commits trace) = some record.stored ∧
      Ends Sample.quiet 5
        ⟨Sample.store, .tryClaimQueued record.taskId "worker-demo" "token-next" 9⟩
        (Sample.store.tryClaimQueued record.taskId "worker-demo" "token-next" 9)
        configuration.state configuration.state [] result ∧
      ∀ claim, result ≠ .ok (some claim) := by
  obtain ⟨trace, configuration, record, run, returned, queued, unchanged, idle, read, enveloped,
    passed⟩ := @Sample.requeued_run [Sample.evidence, Sample.fail, Sample.claim, Sample.create]
      (fun record => decide (record.deadLetters ≠ [])) (by decide +kernel)
  have valid := (run_reflects RecordFormat.text_faithful run).1.read_valid
    RecordFormat.text_faithful read
  rcases @tryClaimQueued_ends _ _ _ "worker-demo" "token-next" 9 _ (by decide)
      (by decide) _ _ Sample.store Sample.quiet 5
      ⟨Sample.store, .tryClaimQueued record.taskId "worker-demo" "token-next" 9⟩ rfl idle rfl
      read valid (Sample.claim_timed enveloped) with
    ⟨claimable, -⟩ | ⟨-, result, ends, unclaimed⟩
  · exact absurd claimable.noDeadLetters (of_decide_eq_true passed)
  · exact ⟨trace, configuration, record, result, run, returned, queued, unchanged, ends,
      unclaimed⟩

end Runs

end Eva.Storage
