import Eva.Storage.TaskState.Fences

/-! # Who may end an attempt

A claimed attempt is meant to end only through the fenced operations of its
worker or through restart recovery. The check behind plain updates looks at
running and cancelling records only, so that a detour through `recovering` gets
around it; without that detour the rule holds for whole histories.
-/

namespace Eva.Storage

variable {directory : TaskDirectory}

def StoreOperation.isPlain : StoreOperation → Bool
  | compareAndSet _ | updateSnapshot _ _ => true
  | _ => false

def StoreOperation.endsAttempts : StoreOperation → Bool
  | command (.finishExecution ..) | command (.finishCommittedEffectExecution ..)
  | command (.recoverTaskFromCommittedEffect ..) => true
  | _ => false

/-! ## What a call can end -/

section Calls

variable {current : TaskStateSnapshot}

theorem Proposes.mode_of_isPlain
    (proposes : Proposes call previous mode proposed) (plain : call.operation.isPlain) :
    mode = .compareAndSet := by
  cases proposes with
  | command called => simp [called, StoreOperation.isPlain] at plain
  | create called => simp [called, StoreOperation.isPlain] at plain
  | _ => rfl

theorem Proposes.endsAttempts (proposes : Proposes call (some current) mode proposed)
    (ending : mode = .attemptOutcome ∨ mode = .restartRecovery)
    (outcome : proposed.status.isOutcome) : call.operation.endsAttempts := by
  cases proposes with
  | command called step =>
      rw [called]
      cases step with
      | finish | finishCancelled | finishCommitted | committedEffect => rfl
      | blockFenced | unknownEffect => cases outcome
      | _ => simp [TaskCommand.mode] at ending
  | _ => simp at ending

theorem requestCancel_status :
    (current.requestCancel reason).status =
      if current.isTerminal then current.status else .cancelling := by
  unfold TaskStateSnapshot.requestCancel
  split <;> rfl

theorem Proposes.isPlain_of_recovering (proposes : Proposes call (some current) mode proposed)
    (recovering : current.status = .recovering) (cancelled : proposed.status = .cancelled) :
    call.operation.isPlain := by
  have live : current.isTerminal = false := by
    simp [TaskStateSnapshot.isTerminal, recovering, TaskStatus.isTerminal]
  have inactive : current.isActive = false := by
    simp [TaskStateSnapshot.isActive, recovering]
  cases proposes with
  | update called | rename called | compareAndSet called => rw [called]; rfl
  | claim called claimed =>
      have claimable := (claimCandidate_eq_ok claimed).1.isQueued
      cases recovering.symm.trans claimable
  | command called step =>
      cases step with
      | requeue | abandonedReplay | abandonedTask | committedEffect | unknownEffect =>
          cases cancelled
      | schedule => cases recovering.symm.trans cancelled
      | heartbeat => cases recovering.symm.trans cancelled
      | finish _ running => cases recovering.symm.trans running
      | finishCancelled _ cancelling => cases recovering.symm.trans cancelling
      | finishCommitted _ active | cancelFenced _ active | blockFenced _ active =>
          cases inactive.symm.trans active
      | cancel =>
          have queued : current.status ≠ .queued := by simp [recovering]
          rw [CasOperation.cancellationCandidate, if_neg queued, requestCancel_status, live]
            at cancelled
          cases cancelled

end Calls

/-! ## What the check lets through -/

theorem TaskStatus.allows_outcome {status next : TaskStatus} (allowed : status.allows next)
    (outcome : next.isOutcome) (different : next ≠ status) :
    (status = .running ∨ status = .cancelling) ∨
      ((status = .queued ∨ status = .recovering) ∧ next = .cancelled) := by
  cases status <;> cases next <;> simp_all [TaskStatus.allows, TaskStatus.isOutcome]

theorem Transition.outcome_cases (transition : Transition current proposed mode)
    (owned : current.executionOwner ≠ none) (outcome : proposed.status.isOutcome)
    (different : proposed.status ≠ current.status) :
    (mode = .attemptOutcome ∨ mode = .restartRecovery) ∨
      ((current.status = .queued ∨ current.status = .recovering) ∧
        proposed.status = .cancelled) := by
  by_cases active : current.isActive
  · rcases transition.outcome owned active outcome with finished | restarted
    · exact .inl (.inl (by simpa [TaskStateCommitMode.allowAttemptOutcome] using finished))
    · exact .inl (.inr (isRestartRecovery_cases restarted).1)
  rcases transition.status with allowed | retried | restarted
  · rcases TaskStatus.allows_outcome allowed outcome different with running | cancelled
    · simp [TaskStateSnapshot.isActive, running] at active
    · exact .inr cancelled
  · cases (isRetryRequeue_cases retried).2 with
    | requeue | abandoned => cases outcome
    | schedule => exact absurd rfl different
  · exact .inl (.inr (isRestartRecovery_cases restarted).1)

/-! ## Claimed records -/

section Claimed

variable {earlier : List (Commit directory)} {commit last : Commit directory}

/-- The record is owned by the attempt that a claim of the task has started. -/
def HoldsClaim (earlier : List (Commit directory)) (last : Commit directory) : Prop :=
  last.committed.executionOwner ≠ none ∧ ∃ claim ∈ claimsOf last.taskId earlier,
    claim.committed.attempts = last.committed.attempts

private theorem Follows.queue_stays_unowned (follows : Follows earlier commit)
    (previous : lastCommit commit.taskId earlier = some last)
    (held : last.committed.status = .queued → last.committed.executionOwner = none)
    (queued : commit.committed.status = .queued) : commit.committed.executionOwner = none := by
  by_cases wasQueued : last.committed.status = .queued
  · cases follows.fenceStep previous with
    | keep same => exact same.2.1 ▸ held wasQueued
    | claim claimed => cases claimed.isRunning.symm.trans queued
    | requeue _ _ unowned => exact unowned
  · exact follows.queued_unowned previous wasQueued queued

theorem History.holdsClaim_left_queue (history : History earlier)
    (found : lastCommit taskId earlier = some last) (holdsClaim : HoldsClaim earlier last) :
    last.committed.status ≠ .queued := by
  obtain ⟨owned, claim, isClaim, -⟩ := holdsClaim
  obtain ⟨newer, older, rfl, named, claims⟩ := mem_claimsOf isClaim
  have running : claim.committed.status = .running := by
    obtain ⟨_, _, step⟩ := Commit.claims_iff.mp claims
    rw [(history.follows rfl).stamped]
    exact step.isRunning
  intro queued
  refine owned (history.stable_last
    (fun record => record.status = .queued → record.executionOwner = none)
    (fun queued => by cases running.symm.trans queued)
    (fun _ _ _ _ follows previous _ held => follows.queue_stays_unowned previous held)
    ?_ queued)
  rw [named, (lastCommit_eq_some found).2, found]

/-- An outcome of a claimed attempt comes from an operation that ends attempts, or a plain
commit has cancelled a recovering record. -/
theorem History.outcome_authority (history : History (later ++ commit :: earlier))
    (found : lastCommit commit.taskId earlier = some last) (holdsClaim : HoldsClaim earlier last)
    (outcome : commit.committed.status.isOutcome)
    (different : commit.committed.status ≠ last.committed.status) :
    commit.call.operation.endsAttempts ∨
      (commit.call.operation.isPlain ∧ last.committed.status = .recovering ∧
        commit.committed.status = .cancelled) := by
  have follows := history.follows rfl
  have proposes := follows.proposes
  rw [currentRecord_eq_some found] at proposes
  rw [follows.stamped] at outcome different ⊢
  rcases (follows.transition found).outcome_cases holdsClaim.1 outcome different with
    ending | ⟨queued | recovering, cancelled⟩
  · exact .inl (proposes.endsAttempts ending outcome)
  · exact absurd queued (history.past.holdsClaim_left_queue found holdsClaim)
  · exact .inr ⟨proposes.isPlain_of_recovering recovering cancelled, recovering, cancelled⟩

theorem Follows.outcome_immutable (follows : Follows earlier commit)
    (found : lastCommit commit.taskId earlier = some last)
    (plain : commit.call.operation.isPlain) (terminal : last.committed.isTerminal) :
    SameOutcome last.committed.stored commit.committed := by
  rw [follows.stamped]
  rcases (follows.transition found).terminal terminal with same | retried | restarted
  · exact same
  · cases (follows.proposes.mode_of_isPlain plain).symm.trans (isRetryRequeue_cases retried).1
  · cases (follows.proposes.mode_of_isPlain plain).symm.trans (isRestartRecovery_cases restarted).1

end Claimed

/-! ## Runs -/

/-- The step `commit` over a record that holds a claim respects the authority over
outcomes. -/
def RespectsAuthority (last commit : Commit directory) : Prop :=
  (commit.committed.status.isOutcome → commit.committed.status ≠ last.committed.status →
    commit.call.operation.endsAttempts) ∧
  (commit.call.operation.isPlain → last.committed.isTerminal →
    SameOutcome last.committed.stored commit.committed)

/-- The steps of a run over records that hold a claim satisfy `property`. -/
def ForClaimedSteps (commits : List (Commit directory))
    (property : Commit directory → Commit directory → Prop) : Prop :=
  ∀ later commit earlier last, commits = later ++ commit :: earlier →
    lastCommit commit.taskId earlier = some last → HoldsClaim earlier last →
    property last commit

/-- In every run the outcomes of claimed attempts come from the operations that end attempts
exactly if no plain commit cancels a claimed record that is recovering. -/
theorem outcome_authority_iff {writer : WriterFiles}
    {trace : List (taskStore directory .text).Event}
    {configuration : (taskStore directory .text).Configuration}
    (run : (taskStore directory .text).Run (.empty writer) trace configuration) :
    ForClaimedSteps (commits trace) RespectsAuthority ↔
      ForClaimedSteps (commits trace) fun last commit =>
        commit.call.operation.isPlain → last.committed.status = .recovering →
          commit.committed.status ≠ .cancelled := by
  have history := (run_reflects RecordFormat.text_faithful run).1.history
  constructor
  · intro respects later commit earlier last split found holdsClaim plain recovering cancelled
    have ends := (respects later commit earlier last split found holdsClaim).1
      (by simp [cancelled, TaskStatus.isOutcome]) (by simp [cancelled, recovering])
    cases called : commit.call.operation <;>
      simp_all [StoreOperation.isPlain, StoreOperation.endsAttempts]
  · intro direct later commit earlier last split found holdsClaim
    rw [split] at history
    refine ⟨fun outcome different => ?_, (history.follows rfl).outcome_immutable found⟩
    rcases history.outcome_authority found holdsClaim outcome different with
      ends | ⟨plain, recovering, cancelled⟩
    · exact ends
    · exact absurd cancelled
        (direct later commit earlier last split found holdsClaim plain recovering)

namespace Sample

def note : StoreOperation :=
  .updateSnapshot task.taskId fun current => .ok (current.pushLog "info" "checkpoint")

def recover : StoreOperation :=
  .updateSnapshot task.taskId fun current => .ok { current with status := .recovering }

def giveUp : StoreOperation :=
  .updateSnapshot task.taskId fun current => .ok current.markCancelled

end Sample

/-- A claimed attempt with a plain update on the way ends through its worker. -/
theorem outcome_authority_iff_sample :
    ∃ trace configuration,
      (taskStore Sample.directory .text).Run (.empty Sample.files) trace configuration ∧
      (commits trace).map (·.committed.status) = [.failed, .running, .running, .queued] ∧
      ForClaimedSteps (commits trace) RespectsAuthority := by
  obtain ⟨session, trace, threads, -, checked, run, -, same, -⟩ :=
    @Sample.script_run [Sample.fail, Sample.note, Sample.claim, Sample.create]
      (fun session => (commits session.trace).map (·.committed.status) =
        [.failed, .running, .running, .queued])
      (by decide +kernel)
  rw [decide_eq_true_eq, ← same] at checked
  refine ⟨trace, _, run, checked, (outcome_authority_iff run).mpr ?_⟩
  intro later commit earlier last split _ _ _ _ cancelled
  have absent : TaskStatus.cancelled ∉ (commits trace).map (·.committed.status) := by
    simp [checked]
  refine absent (List.mem_map.mpr ⟨commit, ?_, cancelled⟩)
  simp [split]

/-- Two plain updates cancel a claimed task by way of `recovering`. -/
theorem outcome_authority_bypassed :
    ∃ trace configuration,
      (taskStore Sample.directory .text).Run (.empty Sample.files) trace configuration ∧
      ¬ForClaimedSteps (commits trace) RespectsAuthority := by
  obtain ⟨session, trace, threads, -, checked, run, -, same, -⟩ :=
    @Sample.script_run [Sample.giveUp, Sample.recover, Sample.claim, Sample.create]
      (fun session => match commits session.trace with
        | commit :: last :: earlier =>
            commit.committed.status = .cancelled ∧ last.committed.status = .recovering ∧
              ¬commit.call.operation.endsAttempts ∧ last.taskId = commit.taskId ∧
              last.committed.executionOwner ≠ none ∧
              (claimsOf last.taskId (last :: earlier)).any fun claim =>
                claim.committed.attempts = last.committed.attempts
        | [] | [_] => false)
      (by decide)
  refine ⟨trace, _, run, fun respects => ?_⟩
  rw [← same] at checked
  split at checked
  next commit last earlier committed =>
      simp only [decide_eq_true_eq, List.any_eq_true] at checked
      obtain ⟨cancelled, recovering, plain, named, owned, claim, isClaim, attempt⟩ := checked
      have found : lastCommit commit.taskId (last :: earlier) = some last := by
        simp [lastCommit_cons, named]
      exact plain ((respects [] commit (last :: earlier) last committed found
        ⟨owned, claim, isClaim, attempt⟩).1 (by simp [cancelled, TaskStatus.isOutcome])
        (by simp [cancelled, recovering]))
  all_goals cases checked

end Eva.Storage
