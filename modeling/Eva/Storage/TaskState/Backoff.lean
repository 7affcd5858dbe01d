import Eva.Storage.TaskState.Attempts

/-! # Retry gating

A failed attempt gets two commits from `requeue_retryable` at most: one that sets
the time from which it may be retried, and one that puts it back in the queue
once that time has come.
-/

namespace Eva.Storage

variable {directory : TaskDirectory}

/-! ## One step -/

/-- The record has left `attempt` behind, or is at its end with a retry time that is
`allowed`. -/
def Settled (attempt : Usize) (allowed : Option U128 → Prop) (record : TaskStateSnapshot) :
    Prop :=
  attempt < record.attempts ∨
    (attempt = record.attempts ∧ record.status ≠ .running ∧
      (record.isUnsuccessful → allowed record.retryReadyAtMs))

section Step

theorem TaskStatus.allows_unsuccessful {status next : TaskStatus} (allowed : status.allows next)
    (unsuccessful : next = .failed ∨ next = .timedOut) : status = .running ∨ next = status := by
  cases status <;> cases next <;> simp_all [TaskStatus.allows]

theorem isUnsuccessful_iff {record : TaskStateSnapshot} :
    record.isUnsuccessful ↔ record.status = .failed ∨ record.status = .timedOut := by
  simp [TaskStateSnapshot.isUnsuccessful]

theorem Transition.keeps_retry (transition : Transition previous proposed mode)
    (stopped : previous.status ≠ .running) (unsuccessful : proposed.isUnsuccessful) :
    previous.isUnsuccessful ∧ (proposed.retryReadyAtMs = previous.retryReadyAtMs ∨
      (mode = .retryRequeue ∧ previous.retryReadyAtMs = none)) := by
  have failed := isUnsuccessful_iff.mp unsuccessful
  have special (isSpecial : IsSpecial previous proposed mode) :
      previous.isUnsuccessful ∧ mode = .retryRequeue ∧ previous.retryReadyAtMs = none := by
    rcases isSpecial with retried | restarted
    · obtain ⟨isRetry, step⟩ := isRetryRequeue_cases retried
      cases step with
      | schedule _ _ _ unscheduled => exact ⟨unsuccessful, isRetry, unscheduled⟩
      | requeue | abandoned => rcases failed with failed | failed <;> cases failed
    · cases (isRestartRecovery_cases restarted).2 <;>
        rcases failed with failed | failed <;> cases failed
  rcases transition.status with allowed | isSpecial
  · have same : proposed.status = previous.status :=
      (TaskStatus.allows_unsuccessful allowed failed).resolve_left stopped
    have wasUnsuccessful : previous.isUnsuccessful := isUnsuccessful_iff.mpr (same ▸ failed)
    have terminal : previous.isTerminal := by
      rw [TaskStateSnapshot.isTerminal, ← same]
      rcases failed with failed | failed <;> rw [failed] <;> rfl
    refine ⟨wasUnsuccessful, ?_⟩
    rcases transition.terminal terminal with sameOutcome | isSpecial
    · exact .inl sameOutcome.2.2.2.2.2.1.symm
    · exact .inr (special isSpecial).2
  · exact ⟨(special isSpecial).1, .inr (special isSpecial).2⟩

theorem Transition.settled (transition : Transition previous proposed mode)
    (settled : Settled attempt allowed previous)
    (scheduled : mode = .retryRequeue → allowed none → attempt = proposed.attempts →
      proposed.isUnsuccessful → allowed proposed.retryReadyAtMs) :
    Settled attempt allowed proposed := by
  have step := transition.fenceStep
  rcases settled with left | ⟨same, stopped, retry⟩
  · exact .inl (Nat.lt_of_lt_of_le left step.attempts_le)
  cases step with
  | claim claimed =>
      have next := claimed.attempts_value
      refine .inl ?_
      rw [Unsigned.lt_iff, same]
      omega
  | requeue isQueued attempts =>
      refine .inr ⟨same.trans attempts.symm, by simp [isQueued], fun unsuccessful => ?_⟩
      rw [isUnsuccessful_iff, isQueued] at unsuccessful
      rcases unsuccessful with other | other <;> cases other
  | keep fence =>
      refine .inr ⟨same.trans fence.1, fun running => ?_, fun unsuccessful => ?_⟩
      · rcases transition.started running with claimed | wasRunning
        · have next := (isClaim_iff.mp claimed).attempts_value
          rw [fence.1] at next
          omega
        · exact stopped wasRunning
      · obtain ⟨wasUnsuccessful, kept | ⟨isRetry, unscheduled⟩⟩ :=
          transition.keeps_retry stopped unsuccessful
        · exact kept ▸ retry wasUnsuccessful
        · exact scheduled isRetry (unscheduled ▸ retry wasUnsuccessful) (same.trans fence.1)
            unsuccessful

end Step

/-! ## Retry commits -/

def StoreOperation.retryTime : StoreOperation → Option U128
  | .command (.requeueRetryable _ observedAtMs) => some observedAtMs
  | _ => none

theorem StoreOperation.retryTime_eq_some {operation : StoreOperation}
    (retries : operation.retryTime = some observedAtMs) :
    ∃ taskId, operation = .command (.requeueRetryable taskId observedAtMs) := by
  unfold StoreOperation.retryTime at retries
  split at retries
  next => exact ⟨_, by rw [Option.some.inj retries]⟩
  next => cases retries

/-- The commit was made by `requeue_retryable` with the observed time. -/
def Commit.RetriesAt (commit : Commit directory) (observedAtMs : U128) : Prop :=
  commit.call.operation.retryTime = some observedAtMs

section Commits

variable {commits : List (Commit directory)} {commit last : Commit directory}
  {attempt : Usize} {allowed : Option U128 → Prop} {observedAtMs : U128}

inductive RetryCommit (last commit : TaskStateSnapshot) (observedAtMs : U128) : Prop where
  | requeued (queued : commit.status = .queued) (due : RetryDue last observedAtMs)
  | scheduled {envelope : TaskEnvelopeSnapshot} (status : commit.status = last.status)
      (unscheduled : last.retryReadyAtMs = none) (enveloped : commit.envelope = some envelope)
      (delayed : envelope.attemptPolicy.retryBackoffMs ≠ 0)
      (ready : commit.retryReadyAtMs = some (observedAtMs.saturatingAdd
        (envelope.attemptPolicy.retryBackoffMs.widen (by decide))))

theorem isUnsuccessful_of_eligible (eligible : taskRetryIsEligible record) :
    record.isUnsuccessful ∧ record.envelope ≠ none := by
  simp only [taskRetryIsEligible, Bool.and_eq_true, Option.isSome_iff_ne_none] at eligible
  exact ⟨eligible.1.1.1.1.1, eligible.1.1.1.2⟩

theorem Follows.retried (follows : Follows commits commit)
    (retries : commit.RetriesAt observedAtMs) :
    ∃ last, lastCommit commit.taskId commits = some last ∧
      taskRetryIsEligible last.committed.stored ∧
      commit.committed.attempts = last.committed.attempts ∧
      RetryCommit last.committed.stored commit.committed observedAtMs := by
  obtain ⟨taskId, called⟩ := StoreOperation.retryTime_eq_some retries
  obtain ⟨current, previous, -, step⟩ := follows.proposes.of_command called
  obtain ⟨last, found, rfl⟩ := Option.map_eq_some_iff.mp previous
  refine ⟨last, found, ?_⟩
  rw [follows.stamped]
  generalize commit.proposed = proposed at step
  cases step with
  | requeue _ eligible due => exact ⟨eligible, rfl, .requeued rfl due⟩
  | schedule _ eligible unscheduled enveloped delayed =>
      exact ⟨eligible, rfl, .scheduled rfl unscheduled enveloped delayed rfl⟩

theorem Follows.finished (follows : Follows commits commit)
    (called : commit.call.operation = .command (.finishExecution fence outcome)) :
    commit.committed.status ≠ .running ∧ commit.committed.retryReadyAtMs = none := by
  obtain ⟨current, -, -, step⟩ := follows.proposes.of_command called
  rw [follows.stamped]
  generalize commit.proposed = proposed at step
  cases step with
  | finish _ _ applied =>
      have shape := (applyTaskAttemptOutcome_eq_ok applied).2
      split at shape <;> subst shape <;> exact ⟨nofun, rfl⟩
  | finishCancelled => exact ⟨nofun, rfl⟩

theorem stored_retryReadyAtMs {record : TaskStateSnapshot} (enveloped : record.envelope ≠ none) :
    record.stored.retryReadyAtMs = record.retryReadyAtMs :=
  if_pos (Option.isSome_iff_ne_none.mpr enveloped)

def SettledTask (attempt : Usize) (allowed : Option U128 → Prop) (record : TaskStateSnapshot) :
    Prop :=
  record.envelope ≠ none ∧ Settled attempt allowed record

theorem Proposes.schedules
    (proposes : Proposes call previous mode proposed) (isRetry : mode = .retryRequeue)
    (unsuccessful : proposed.isUnsuccessful) :
    ∃ observedAtMs, call.operation.retryTime = some observedAtMs := by
  cases proposes with
  | command called step =>
      cases step with
      | requeue | schedule => exact ⟨_, by rw [called]; rfl⟩
      | abandonedReplay | abandonedTask => cases unsuccessful
      | _ => cases isRetry
  | claim | update | rename | create | compareAndSet => cases isRetry

/-- One commit keeps an attempt settled, as long as the times it is scheduled for are
allowed. -/
theorem SettledTask.step (settled : SettledTask attempt allowed last.committed)
    (follows : Follows commits commit)
    (previous : lastCommit commit.taskId commits = some last)
    (scheduled : ∀ observedAtMs, commit.RetriesAt observedAtMs → allowed none →
      attempt = commit.committed.attempts → commit.committed.isUnsuccessful →
      allowed commit.committed.retryReadyAtMs) :
    SettledTask attempt allowed commit.committed := by
  obtain ⟨enveloped, settled⟩ := settled
  refine ⟨by rwa [follows.envelope_eq previous], ?_⟩
  have before : Settled attempt allowed last.committed.stored := by
    rw [Settled, stored_retryReadyAtMs enveloped]
    exact settled
  rw [follows.stamped] at scheduled ⊢
  refine (follows.transition previous).settled before ?_
  intro isRetry unscheduled attempts unsuccessful
  obtain ⟨observedAtMs, retries⟩ := follows.proposes.schedules isRetry unsuccessful
  exact scheduled observedAtMs retries unscheduled attempts unsuccessful

end Commits

/-! ## Whole histories -/

section Histories

variable {commit : Commit directory}

theorem History.retry_allowed (history : History (later ++ commit :: earlier))
    (retries : commit.RetriesAt observedAtMs) (member : older ∈ earlier)
    (sameTask : older.taskId = commit.taskId)
    (sameAttempt : older.committed.attempts = commit.committed.attempts)
    (settled : SettledTask older.committed.attempts allowed older.committed)
    (scheduled : ∀ newer ∈ earlier, newer.taskId = commit.taskId →
      newer.committed.attempts = commit.committed.attempts →
      newer.committed.isUnsuccessful → ∀ observedAtMs, newer.RetriesAt observedAtMs →
      allowed none → allowed newer.committed.retryReadyAtMs) :
    ∃ last, lastCommit commit.taskId earlier = some last ∧
      allowed last.committed.stored.retryReadyAtMs ∧
      RetryCommit last.committed.stored commit.committed observedAtMs := by
  obtain ⟨last, found, eligible, attempts, retried⟩ := (history.follows rfl).retried retries
  refine ⟨last, found, ?_, retried⟩
  obtain ⟨before, past, rfl⟩ := List.append_of_mem member
  have atLast : SettledTask older.committed.attempts allowed last.committed := by
    refine history.past.stable_last (SettledTask older.committed.attempts allowed) settled ?_
      (sameTask ▸ found)
    intro _ newer previous held follows previousFound named settled
    refine settled.step follows previousFound ?_
    intro time newerRetries unscheduled atAttempt unsuccessful
    exact scheduled newer (List.mem_append_left _ held) (named.trans sameTask)
      (atAttempt.symm.trans sameAttempt) unsuccessful time newerRetries unscheduled
  obtain ⟨enveloped, passed | ⟨-, -, retry⟩⟩ := atLast
  · rw [sameAttempt, attempts] at passed
    exact absurd passed (Nat.lt_irrefl _)
  · rw [stored_retryReadyAtMs enveloped]
    exact retry (isUnsuccessful_of_eligible eligible).1

/-- Two retry commits of one attempt: the older one has scheduled it, and the other one has
put it back in the queue when its time had come. -/
theorem History.retry_order (history : History (later ++ commit :: earlier))
    (retries : commit.RetriesAt observedAtMs) (member : older ∈ earlier)
    (olderRetries : older.RetriesAt olderObservedAtMs)
    (sameTask : older.taskId = commit.taskId)
    (sameAttempt : older.committed.attempts = commit.committed.attempts) :
    older.committed.isUnsuccessful ∧ commit.committed.status = .queued ∧
      ∃ envelope, commit.committed.envelope = some envelope ∧
        envelope.attemptPolicy.retryBackoffMs ≠ 0 ∧
        olderObservedAtMs.saturatingAdd
          (envelope.attemptPolicy.retryBackoffMs.widen (by decide)) ≤ observedAtMs := by
  obtain ⟨_, _, split, olderFollows⟩ := history.past.follows_of_mem member
  obtain ⟨before, foundBefore, eligible, -, olderRetried⟩ := olderFollows.retried olderRetries
  obtain ⟨wasUnsuccessful, wasEnveloped⟩ := isUnsuccessful_of_eligible eligible
  have enveloped : older.committed.envelope ≠ none := by
    rw [olderFollows.envelope_eq foundBefore]
    exact wasEnveloped
  cases olderRetried with
  | requeued queued =>
      have settled : SettledTask older.committed.attempts (fun _ => False) older.committed := by
        refine ⟨enveloped, .inr ⟨rfl, by simp [queued], fun unsuccessful => ?_⟩⟩
        simp [isUnsuccessful_iff, queued] at unsuccessful
      obtain ⟨_, _, impossible, _⟩ := history.retry_allowed retries member sameTask sameAttempt
        settled (by simp)
      exact impossible.elim
  | @scheduled envelope status unscheduled backed delayed ready =>
      have unsuccessful : older.committed.isUnsuccessful := by
        rw [isUnsuccessful_iff, status]
        exact isUnsuccessful_iff.mp wasUnsuccessful
      have stopped : older.committed.status ≠ .running := by
        rcases isUnsuccessful_iff.mp unsuccessful with failed | failed <;> simp [failed]
      have settled : SettledTask older.committed.attempts
          (· = some (olderObservedAtMs.saturatingAdd
            (envelope.attemptPolicy.retryBackoffMs.widen (by decide)))) older.committed :=
        ⟨enveloped, .inr ⟨rfl, stopped, fun _ => ready⟩⟩
      obtain ⟨last, found, kept, retried⟩ := history.retry_allowed retries member sameTask
        sameAttempt settled (by simp)
      refine ⟨unsuccessful, ?_⟩
      have sameEnvelope := (history.before.identity List.mem_cons_self
        (List.mem_cons_of_mem _ member) sameTask).1
      cases retried with
      | requeued queued due =>
          rw [RetryDue, kept] at due
          exact ⟨queued, envelope, sameEnvelope ▸ backed, delayed, due⟩
      | scheduled _ unscheduled =>
          rw [kept] at unscheduled
          cases unscheduled

/-- An attempt that has ended with no retry time and is put back after a backoff was
scheduled in between. -/
theorem History.retry_scheduled (history : History (later ++ commit :: earlier))
    (retries : commit.RetriesAt observedAtMs) (queued : commit.committed.status = .queued)
    (enveloped : commit.committed.envelope = some envelope)
    (delayed : envelope.attemptPolicy.retryBackoffMs ≠ 0) (member : older ∈ earlier)
    (sameTask : older.taskId = commit.taskId)
    (sameAttempt : older.committed.attempts = commit.committed.attempts)
    (stopped : older.committed.status ≠ .running)
    (unscheduled : older.committed.retryReadyAtMs = none) :
    ∃ scheduling ∈ earlier, scheduling.taskId = commit.taskId ∧
      scheduling.committed.attempts = commit.committed.attempts ∧
      ∃ scheduledAtMs, scheduling.RetriesAt scheduledAtMs := by
  by_contra absent
  simp only [not_exists, not_and] at absent
  have sameEnvelope := (history.before.identity List.mem_cons_self
    (List.mem_cons_of_mem _ member) sameTask).1
  -- Without such a commit the attempt would still have no retry time.
  have settled : SettledTask older.committed.attempts (· = none) older.committed :=
    ⟨by rw [sameEnvelope, enveloped]; simp, .inr ⟨rfl, stopped, fun _ => unscheduled⟩⟩
  obtain ⟨last, found, kept, retried⟩ := history.retry_allowed retries member sameTask
    sameAttempt settled (fun newer held named attempts _ time newerRetries _ =>
      (absent newer held named attempts time newerRetries).elim)
  have lastEnvelope : last.committed.stored.envelope = some envelope :=
    ((history.follows rfl).envelope_eq found).symm.trans enveloped
  cases retried with
  | requeued _ due =>
      rw [RetryDue, kept] at due
      obtain ⟨other, present, immediate⟩ := due
      rw [lastEnvelope] at present
      obtain rfl := Option.some.inj present
      exact delayed immediate
  | scheduled status =>
      obtain ⟨_, sameLast, eligible, -⟩ := (history.follows rfl).retried retries
      rw [found] at sameLast
      obtain rfl := Option.some.inj sameLast
      have failed := isUnsuccessful_iff.mp (isUnsuccessful_of_eligible eligible).1
      rw [← status, queued] at failed
      rcases failed with failed | failed <;> cases failed

end Histories

/-! ## Runs -/

section Runs

variable {writer : WriterFiles} {trace : List (taskStore directory .text).Event}
  {configuration : (taskStore directory .text).Configuration}

private theorem saturated_of_saturatingAdd_le (positive : delay ≠ 0)
    (within : time.saturatingAdd delay ≤ time) : time = Unsigned.maximum 128 := by
  have inRange := time.inRange
  have nonzero : delay.value ≠ 0 := fun zero => positive (Unsigned.eq_iff.mpr zero)
  rw [Unsigned.le_iff, Unsigned.saturatingAdd_value] at within
  apply Unsigned.eq_iff.mpr
  show time.value = 2 ^ 128 - 1
  omega

/-- In every run, a commit of `requeue_retryable` is made over an eligible record, and of the
commits it makes for one attempt the first one schedules the attempt and the second and last
one requeues it. An attempt with a backoff that `finish_execution` has ended is requeued when
the backoff has passed since it was scheduled. A call that is repeated for an attempt with
the same time commits nothing, unless that time is the last one. -/
theorem retries_are_gated
    (run : (taskStore directory .text).Run (.empty writer) trace configuration)
    {later earlier : List (Commit directory)} {commit : Commit directory}
    (split : commits trace = later ++ commit :: earlier) {observedAtMs : U128}
    (retries : commit.RetriesAt observedAtMs) :
    (∃ last, lastCommit commit.taskId earlier = some last ∧
      taskRetryIsEligible last.committed.stored ∧
      commit.committed.attempts = last.committed.attempts) ∧
    (∀ older ∈ earlier, older.taskId = commit.taskId →
      older.committed.attempts = commit.committed.attempts →
      ∀ scheduledAtMs, older.RetriesAt scheduledAtMs →
        older.committed.isUnsuccessful ∧ commit.committed.status = .queued ∧
        (∃ envelope, commit.committed.envelope = some envelope ∧
          scheduledAtMs.saturatingAdd
            (envelope.attemptPolicy.retryBackoffMs.widen (by decide)) ≤ observedAtMs) ∧
        (scheduledAtMs = observedAtMs → observedAtMs = Unsigned.maximum 128)) ∧
    (commit.committed.status = .queued → ∀ envelope,
      commit.committed.envelope = some envelope →
      envelope.attemptPolicy.retryBackoffMs ≠ 0 →
      ∀ older ∈ earlier, older.taskId = commit.taskId →
        older.committed.attempts = commit.committed.attempts →
        older.committed.status ≠ .running → older.committed.retryReadyAtMs = none →
        ∃ scheduling ∈ earlier, scheduling.taskId = commit.taskId ∧
          scheduling.committed.attempts = commit.committed.attempts ∧
          ∃ scheduledAtMs, scheduling.RetriesAt scheduledAtMs ∧
            scheduledAtMs.saturatingAdd
              (envelope.attemptPolicy.retryBackoffMs.widen (by decide)) ≤ observedAtMs) ∧
    (∀ finishing ∈ earlier, ∀ fence outcome,
      finishing.call.operation = .command (.finishExecution fence outcome) →
      finishing.committed.status ≠ .running ∧ finishing.committed.retryReadyAtMs = none) := by
  have history := (run_reflects RecordFormat.text_faithful run).1.history
  rw [split] at history
  refine ⟨?_, ?_, ?_, ?_⟩
  · obtain ⟨last, found, eligible, attempts, -⟩ := (history.follows rfl).retried retries
    exact ⟨last, found, eligible, attempts⟩
  · intro older member sameTask sameAttempt scheduledAtMs olderRetries
    obtain ⟨unsuccessful, queued, envelope, enveloped, delayed, due⟩ :=
      history.retry_order retries member olderRetries sameTask sameAttempt
    refine ⟨unsuccessful, queued, ⟨envelope, enveloped, due⟩, ?_⟩
    rintro rfl
    refine saturated_of_saturatingAdd_le (fun zero => delayed ?_) due
    have value := Unsigned.eq_iff.mp zero
    exact Unsigned.eq_iff.mpr value
  · intro queued envelope enveloped delayed older member sameTask sameAttempt stopped
      unscheduled
    obtain ⟨scheduling, held, named, attempts, scheduledAtMs, scheduled⟩ :=
      history.retry_scheduled retries queued enveloped delayed member sameTask sameAttempt
        stopped unscheduled
    obtain ⟨-, -, other, backed, -, due⟩ :=
      history.retry_order retries held scheduled named attempts
    rw [enveloped] at backed
    obtain rfl := Option.some.inj backed
    exact ⟨scheduling, held, named, attempts, scheduledAtMs, scheduled, due⟩
  · intro finishing member fence outcome called
    obtain ⟨_, _, _, follows⟩ := history.past.follows_of_mem member
    exact follows.finished called

namespace Sample

def delayed : StoreOperation :=
  .create { task with
    envelope := some { envelope with
      attemptPolicy := { envelope.attemptPolicy with retryBackoffMs := 5 } } }

def retryAt (observedAtMs : U128) : StoreOperation :=
  .command (.requeueRetryable task.taskId observedAtMs)

def retriedTwice (newerAtMs olderAtMs : U128) (commits : List (Commit directory)) : Bool :=
  match commits with
  | commit :: older :: _ =>
      decide (commit.call.operation.retryTime = some newerAtMs) &&
        decide (older.call.operation.retryTime = some olderAtMs) &&
        decide (older.taskId = commit.taskId) &&
        decide (older.committed.attempts = commit.committed.attempts)
  | _ => false

end Sample

private theorem Sample.retried_run (retried : (Sample.script
      [retryAt newerAtMs, retryAt olderAtMs, fail, claim, delayed]).any fun session =>
        retriedTwice newerAtMs olderAtMs (commits session.trace)) :
    ∃ trace configuration,
      (taskStore Sample.directory .text).Run (.empty Sample.files) trace configuration ∧
      ∃ commit older : Commit Sample.directory, ∃ earlier,
        commits trace = commit :: older :: earlier ∧
        commit.RetriesAt newerAtMs ∧ older.RetriesAt olderAtMs ∧
        older.taskId = commit.taskId ∧
        older.committed.attempts = commit.committed.attempts := by
  obtain ⟨session, trace, threads, -, checked, run, -, same, -⟩ := Sample.script_run retried
  rw [← same] at checked
  unfold Sample.retriedTwice at checked
  split at checked
  next commit older earlier split =>
      simp only [Bool.and_eq_true, decide_eq_true_eq] at checked
      obtain ⟨⟨⟨newer, scheduling⟩, named⟩, attempts⟩ := checked
      exact ⟨trace, _, run, commit, older, earlier, split, newer, scheduling, named, attempts⟩
  next => cases checked

/-- A failed attempt is scheduled at one time and requeued when its delay is over. -/
theorem retries_are_gated_sample :
    ∃ trace configuration,
      (taskStore Sample.directory .text).Run (.empty Sample.files) trace configuration ∧
      ∃ commit older : Commit Sample.directory, ∃ earlier,
        commits trace = commit :: older :: earlier ∧
        commit.RetriesAt 13 ∧ older.RetriesAt 8 ∧ older.committed.isUnsuccessful ∧
        commit.committed.status = .queued := by
  obtain ⟨trace, configuration, run, commit, older, earlier, split, retries, scheduling, named,
    attempts⟩ := @Sample.retried_run 13 8 (by decide +kernel)
  obtain ⟨unsuccessful, queued, -, -⟩ := (@retries_are_gated _ _ _ _ run [] _ _ split _
    retries).2.1 older List.mem_cons_self named attempts 8 scheduling
  exact ⟨trace, _, run, commit, older, earlier, split, retries, scheduling, unsuccessful,
    queued⟩

/-- The delay does not move the last time there is, so the repeated call requeues the
attempt that it has just scheduled. -/
theorem repeated_retry_requeues :
    ∃ trace configuration,
      (taskStore Sample.directory .text).Run (.empty Sample.files) trace configuration ∧
      ∃ commit older : Commit Sample.directory, ∃ earlier,
        commits trace = commit :: older :: earlier ∧
        commit.RetriesAt (Unsigned.maximum 128) ∧ older.RetriesAt (Unsigned.maximum 128) ∧
        older.taskId = commit.taskId ∧
        older.committed.attempts = commit.committed.attempts :=
  Sample.retried_run (by decide +kernel)

end Runs

end Eva.Storage
