import Eva.Storage.TaskState.Attempts

/-! # Superseded attempts

A fence names one attempt under one writer generation. Once the attempt is
requeued, recovered or claimed again, or another writer has committed the task,
no record of the task matches the fence any more.
-/

namespace Eva.Storage

variable {directory : TaskDirectory}

def TaskCommand.fence : TaskCommand → Option TaskAttemptFence
  | finishExecution fence _ | finishCommittedEffectExecution fence _ _
  | heartbeatExecution fence _ | requestExecutionCancellation fence _
  | blockPreparedEffectExecution fence _ => some fence
  | _ => none

theorem verifyTaskAttemptFence_eq_ok_iff :
    verifyTaskAttemptFence record fence = .ok () ↔
      record.ownerGeneration = fence.ownerGeneration ∧ fence.Names record := by
  simp only [verifyTaskAttemptFence, seq_eq_ok_iff, rejectIf_eq_ok_iff, not_not,
    TaskStateSnapshot.verifyExecutionClaim_eq_ok_iff, TaskAttemptFence.Names]
  tauto

/-! ## Records past an attempt -/

/-- The record has left the attempt of the fence behind. -/
def Superseded (fence : TaskAttemptFence) (record : TaskStateSnapshot) : Prop :=
  fence.ownerGeneration < record.ownerGeneration ∨ fence.attempt < record.attempts ∨
    (fence.attempt ≤ record.attempts ∧ record.executionOwner = none)

theorem Superseded.rejects (superseded : Superseded fence record) :
    ∃ error, verifyTaskAttemptFence record fence = .error error := by
  cases verified : verifyTaskAttemptFence record fence with
  | error error => exact ⟨error, rfl⟩
  | ok =>
      exfalso
      obtain ⟨generation, -, attempts, owner, -⟩ := verifyTaskAttemptFence_eq_ok_iff.mp verified
      rcases superseded with newer | later | ⟨-, unowned⟩
      · exact Nat.lt_irrefl _ (generation ▸ newer)
      · exact Nat.lt_irrefl _ (attempts ▸ later)
      · simp [owner] at unowned

theorem TaskStatus.allows_queued {status : TaskStatus} (allowed : status.allows .queued) :
    status = .queued := by
  cases status <;> simp_all [TaskStatus.allows]

theorem Transition.queued_unowned (transition : Transition previous proposed mode)
    (left : previous.status ≠ .queued) (queued : proposed.status = .queued) :
    proposed.executionOwner = none := by
  rcases transition.status with allowed | retried | restarted
  · rw [queued] at allowed
    exact absurd (TaskStatus.allows_queued allowed) left
  · cases (isRetryRequeue_cases retried).2 with
    | requeue => rfl
    | abandoned => rfl
    | schedule => exact absurd queued left
  · cases (isRestartRecovery_cases restarted).2 <;> cases queued

section Steps

variable {earlier : List (Commit directory)} {commit last : Commit directory}
  (follows : Follows earlier commit) (previous : lastCommit commit.taskId earlier = some last)

include follows previous

theorem Follows.generation_le :
    last.committed.ownerGeneration ≤ commit.committed.ownerGeneration :=
  follows.newer last (lastCommit_eq_some previous).1

theorem Superseded.step (superseded : Superseded fence last.committed) :
    Superseded fence commit.committed := by
  have step := follows.fenceStep previous
  rcases superseded with newer | later | ⟨within, unowned⟩
  · exact .inl (Nat.lt_of_lt_of_le newer (follows.generation_le previous))
  · exact .inr (.inl (Nat.lt_of_lt_of_le later step.attempts_le))
  · cases step with
    | keep same =>
        obtain ⟨attempts, owner, -⟩ := same
        exact .inr (.inr ⟨attempts ▸ within, owner ▸ unowned⟩)
    | claim claimed =>
        have next := claimed.attempts_value
        refine .inr (.inl ?_)
        rw [Unsigned.le_iff] at within
        rw [Unsigned.lt_iff]
        omega
    | requeue _ same unowned => exact .inr (.inr ⟨same ▸ within, unowned⟩)

theorem Follows.queued_unowned
    (left : last.committed.status ≠ .queued) (queued : commit.committed.status = .queued) :
    commit.committed.executionOwner = none := by
  rw [follows.stamped] at queued ⊢
  exact (follows.transition previous).queued_unowned left queued

end Steps

/-! ## Superseding commits -/

structure IsFenceOf (fence : TaskAttemptFence) (claim : Commit directory) : Prop where
  generation : claim.committed.ownerGeneration = fence.ownerGeneration
  names : fence.Names claim.committed
  running : claim.committed.status = .running

/-- The task was requeued, claimed again, recovered, or committed by a newer writer. -/
def Supersedes (fence : TaskAttemptFence) (earlier : List (Commit directory))
    (commit : Commit directory) : Prop :=
  commit.taskId = fence.taskId ∧
    (commit.committed.status = .queued ∨ commit.claims earlier ∨
      commit.mode = .restartRecovery ∨
      fence.ownerGeneration < commit.committed.ownerGeneration)

theorem Proposes.restartRecovery
    (proposes : Proposes call (some current) .restartRecovery proposed) :
    TurnedOver call.store current := by
  generalize recovery : TaskStateCommitMode.restartRecovery = mode at proposes
  cases proposes with
  | command called step =>
      cases step with
      | committedEffect _ turnedOver => exact turnedOver
      | unknownEffect _ turnedOver => exact turnedOver
      | _ => cases recovery
  | _ => cases recovery

section Supersession

variable {before : List (Commit directory)}

/-- After a claim a record keeps its distance from the queue or has lost the attempt. -/
private theorem Follows.leaves_queue (follows : Follows earlier commit)
    (previous : lastCommit commit.taskId earlier = some last)
    (held : fence.attempt ≤ last.committed.attempts ∧
      (last.committed.status = .queued → Superseded fence last.committed)) :
    fence.attempt ≤ commit.committed.attempts ∧
      (commit.committed.status = .queued → Superseded fence commit.committed) := by
  obtain ⟨within, left⟩ := held
  have grown := Nat.le_trans within (follows.fenceStep previous).attempts_le
  refine ⟨grown, fun queued => ?_⟩
  by_cases wasQueued : last.committed.status = .queued
  · exact (left wasQueued).step follows previous
  · exact .inr (.inr ⟨grown, follows.queued_unowned previous wasQueued queued⟩)

theorem History.leaves_attempt (history : History (later ++ superseding :: before))
    (member : claim ∈ before) (fenced : IsFenceOf fence claim)
    (supersedes : Supersedes fence before superseding) :
    Superseded fence superseding.committed := by
  obtain ⟨sameTask, reasons⟩ := supersedes
  have follows := history.follows rfl
  have sameAsClaim : superseding.taskId = claim.taskId :=
    sameTask.trans fenced.names.1.symm
  have past := history.past
  obtain ⟨last, found, attempts, generation⟩ := past.relate_last
    (fun left right => left.attempts ≤ right.attempts ∧
      left.ownerGeneration ≤ right.ownerGeneration)
    (fun _ => ⟨Nat.le_refl _, Nat.le_refl _⟩)
    (fun follows previous within =>
      ⟨Nat.le_trans within.1 (follows.fenceStep previous).attempts_le,
        Nat.le_trans within.2 (follows.generation_le previous)⟩) member
  rw [← sameAsClaim] at found
  have attempt := fenced.names.2.1
  rcases reasons with queued | claims | recovered | newer
  · obtain ⟨middle, earlier, rfl⟩ := List.append_of_mem member
    have whole : History ((superseding :: middle) ++ claim :: earlier) := .commit past follows
    refine (whole.stable (fun record => fence.attempt ≤ record.attempts ∧
      (record.status = .queued → Superseded fence record)) ?_ ?_ superseding
      List.mem_cons_self sameAsClaim).2 queued
    · exact ⟨Nat.le_of_eq (congrArg _ attempt.symm), fun queued => by
        cases fenced.running.symm.trans queued⟩
    · intro before newer previous _ follows found _ held
      exact follows.leaves_queue found held
  · refine .inr (.inl ?_)
    have next := follows.attempts_of_claims found claims
    rw [attempt, Unsigned.le_iff] at attempts
    rw [Unsigned.lt_iff]
    omega
  · refine .inl ?_
    have proposes := follows.proposes
    rw [recovered, currentRecord_eq_some found] at proposes
    obtain ⟨writer, present, different⟩ := proposes.restartRecovery
    have stamped := follows.owned writer present
    have grown := follows.generation_le found
    have changed : last.committed.ownerGeneration ≠ superseding.committed.ownerGeneration :=
      fun same => different (same.trans stamped)
    rw [Ne, Unsigned.eq_iff] at changed
    rw [fenced.generation, Unsigned.le_iff] at generation
    rw [Unsigned.le_iff] at grown
    rw [Unsigned.lt_iff]
    omega
  · exact .inl newer

theorem History.superseded_current (history : History (later ++ superseding :: before))
    (superseded : Superseded fence superseding.committed) :
    ∃ record, currentRecord superseding.taskId (later ++ superseding :: before) =
      some record ∧ Superseded fence record := by
  obtain ⟨last, found⟩ : ∃ last, lastCommit superseding.taskId
      (later ++ superseding :: before) = some last :=
    Option.ne_none_iff_exists'.mp (lastCommit_ne_none (by simp))
  refine ⟨last.committed.stored, currentRecord_eq_some found, ?_⟩
  exact history.stable_last (Superseded fence) superseded
    (fun _ _ _ _ follows previous _ held => held.step follows previous) found

end Supersession

/-! ## Calls with a superseded fence -/

section Calls

variable {store : FileSystemTaskStateStore directory} {fence : TaskAttemptFence}
  {command : TaskCommand} {operation : CasOperation}

theorem TaskCommand.decide_of_fence (prepared : command.prepare store = .ok operation)
    (fenced : command.fence = some fence)
    (rejected : verifyTaskAttemptFence current fence = .error error) :
    operation.taskId = fence.taskId ∧ operation.decide current = .error error := by
  cases command with
  | finishExecution | finishCommittedEffectExecution | heartbeatExecution
  | requestExecutionCancellation =>
      obtain rfl := Option.some.inj fenced
      obtain rfl := pure_eq_ok_iff.mp prepared
      exact ⟨rfl, by
        simp only [CasOperation.finishExecution, CasOperation.finishCommittedEffectExecution,
          CasOperation.heartbeatExecution, CasOperation.requestExecutionCancellation, rejected]
        rfl⟩
  | blockPreparedEffectExecution =>
      obtain rfl := Option.some.inj fenced
      simp only [prepare, seq_eq_ok_iff, pure_eq_ok_iff] at prepared
      obtain ⟨-, rfl⟩ := prepared
      exact ⟨rfl, by
        simp only [CasOperation.blockPreparedEffectExecution, rejected]
        rfl⟩
  | _ => cases fenced

theorem CommandStep.fenced (step : CommandStep store current command proposed)
    (presents : command.fence = some fence) :
    verifyTaskAttemptFence current fence = .ok () := by
  cases step <;> cases presents <;> assumption

theorem CasOperation.run_path_of_rejects (path : (operation.run store).Path past rest)
    (rejects : ∀ current, ⟨.read (some operation.taskId), .ok current⟩ ∈ past →
      ∃ error, operation.decide current = .error error) :
    (past = [] ∧ rest = operation.run store) ∨
      ∃ response error, past = [⟨.read (some operation.taskId), response⟩] ∧
        rest = .done (.error error) := by
  obtain ⟨next, unfolded, steps⟩ : ∃ next, operation.run store =
        .step (.read (some operation.taskId)) next ∧
      (∀ error, next (.error error) = .done (.error error)) ∧
      ∀ current error, operation.decide current = .error error →
        next (.ok current) = .done (.error error) := by
    refine ⟨_, rfl, fun error => rfl, fun current error rejected => ?_⟩
    dsimp only
    rw [rejected]
    rfl
  rw [unfolded] at path ⊢
  cases path with
  | here => exact .inl ⟨rfl, rfl⟩
  | @step _ _ response past rest tail =>
      right
      obtain ⟨error, finished⟩ : ∃ error, next response = .done (.error error) := by
        cases response with
        | error error => exact ⟨error, steps.1 error⟩
        | ok current =>
            obtain ⟨error, rejected⟩ := rejects current List.mem_cons_self
            exact ⟨error, steps.2 current error rejected⟩
      rw [finished] at tail
      cases tail
      exact ⟨response, error, rfl, rfl⟩

theorem StoreCall.path_of_superseded {call : StoreCall directory}
    (called : call.operation = .command command) (presents : command.fence = some fence)
    (path : call.program.Path past rest)
    (reads : ∀ current, ⟨.read (some fence.taskId), .ok current⟩ ∈ past →
      Superseded fence current) :
    (past = [] ∧ ∃ next, rest = .step (.read (some fence.taskId)) next) ∨
      ∃ error, rest = .done (.error error) := by
  unfold StoreCall.program at path
  simp only [called] at path
  obtain ⟨inner, innerPath, rfl⟩ := Program.path_map path
  unfold TaskCommand.program at innerPath
  split at innerPath
  next error _ =>
      cases innerPath
      exact .inr ⟨error, rfl⟩
  next operation prepared =>
      have rejects (current : TaskStateSnapshot) (left : Superseded fence current) :
          operation.taskId = fence.taskId ∧
            ∃ error, operation.decide current = .error error := by
        obtain ⟨error, rejected⟩ := left.rejects
        obtain ⟨named, decided⟩ := TaskCommand.decide_of_fence prepared presents rejected
        exact ⟨named, error, decided⟩
      have named : operation.taskId = fence.taskId := by
        rw [(TaskCommand.prepare_eq_ok prepared).1]
        cases command <;> simp_all [TaskCommand.fence, TaskCommand.taskId]
      rcases CasOperation.run_path_of_rejects innerPath fun current read =>
          (rejects current (reads current (named ▸ read))).2 with
        ⟨rfl, rfl⟩ | ⟨response, error, -, rfl⟩
      · rw [← named]
        exact .inl ⟨rfl, _, rfl⟩
      · exact .inr ⟨error, rfl⟩

end Calls

/-! ## Runs -/

section Runs

variable {writer : WriterFiles} {later earlier : List (taskStore directory .text).Event}
  {configuration : (taskStore directory .text).Configuration} {number : Nat}
  {call : StoreCall directory} {newer older : List (Commit directory)}
  {claim superseding : Commit directory} {fence : TaskAttemptFence}

private theorem reads_superseded (run : (taskStore directory .text).Run (.empty writer)
      (later ++ .spawn number call :: earlier) configuration)
    (committed : commits earlier = newer ++ superseding :: older)
    (named : superseding.taskId = fence.taskId)
    (superseded : Superseded fence superseding.committed) {current : TaskStateSnapshot}
    (read : ⟨.read (some fence.taskId), .ok current⟩ ∈
      System.observationsOf number (later ++ .spawn number call :: earlier)) :
    Superseded fence current := by
  obtain ⟨act, member, own, observed⟩ := System.mem_observationsOf read
  have inLater : .act act ∈ later := by
    rcases List.mem_append.mp member with member | member
    · exact member
    · rcases List.mem_cons.mp member with equal | member
      · cases equal
      · exact absurd (congrArg some own) (run.spawned.2.2 _ member)
  obtain ⟨recent, rest, rfl⟩ := List.append_of_mem inLater
  rw [List.append_assoc, List.cons_append] at run
  have returned : Returned fence.taskId current act.observation := observed ▸ .read
  have found := returned_current RecordFormat.text_faithful run returned
  obtain ⟨before, past, -⟩ := run.act_cases
  have history := (run_reflects RecordFormat.text_faithful past).1.history
  have split : commits (rest ++ .spawn number call :: earlier) =
      (commits rest ++ newer) ++ superseding :: older := by
    rw [commits_append, List.append_assoc, ← committed]
    rfl
  rw [split] at found history
  obtain ⟨record, same, left⟩ := history.superseded_current superseded
  rw [named, found] at same
  exact Option.some.inj same ▸ left

/-- A call with a fence whose attempt has been superseded reads the record, returns an
error and changes nothing. Calls that were already under way do not commit either. -/
theorem superseded_fence_is_rejected (run : (taskStore directory .text).Run (.empty writer)
      (later ++ .spawn number call :: earlier) configuration)
    (committed : commits earlier = newer ++ superseding :: older)
    (claimed : claim ∈ older) (fenced : IsFenceOf fence claim)
    (supersedes : Supersedes fence older superseding) {command : TaskCommand}
    (called : call.operation = .command command) (presents : command.fence = some fence) :
    (∀ thread, configuration.threads number = some thread →
      (thread.past ≠ [] → ∃ error, thread.rest = .done (.error error)) ∧
      ∀ result, thread.rest = .done result → ∃ error, result = .error error) ∧
    (∀ act, .act act ∈ later → act.thread = number → act.after = act.before) ∧
    (∀ commit ∈ commits later ++ newer, ∀ other,
      commit.call.operation = .command other → other.fence ≠ some fence) := by
  have whole : commits (later ++ .spawn number call :: earlier) =
      (commits later ++ newer) ++ superseding :: older := by
    rw [commits_append, List.append_assoc, ← committed]
    rfl
  have history := (run_reflects RecordFormat.text_faithful run).1.history
  rw [whole] at history
  have left := history.leaves_attempt claimed fenced supersedes
  have reads {later} {configuration : (taskStore directory .text).Configuration}
      (run : (taskStore directory .text).Run (.empty writer)
        (later ++ .spawn number call :: earlier) configuration) :=
    @reads_superseded _ _ _ _ _ _ _ _ _ _ _ run committed supersedes.1 left
  refine ⟨?_, ?_, ?_⟩
  · intro thread running
    obtain ⟨past, path⟩ := run.thread_path running
    rw [run.spawned.1 thread running, past] at path
    rcases StoreCall.path_of_superseded called presents path fun _ => reads run with
      ⟨unstarted, next, step⟩ | ⟨error, finished⟩
    · exact ⟨fun started => absurd (past.trans unstarted) started, fun result finished => by
        cases step.symm.trans finished⟩
    · exact ⟨fun _ => ⟨error, finished⟩, fun result same => ⟨error, by
        cases finished.symm.trans same
        rfl⟩⟩
  · intro act member own
    obtain ⟨recent, rest, rfl⟩ := List.append_of_mem member
    have label := run.spawned.2.1 act member own
    rw [List.append_assoc, List.cons_append] at run
    obtain ⟨before, past, -, performed, next, path⟩ := run.act_cases
    rw [label, own] at path
    rcases StoreCall.path_of_superseded called presents path fun _ => reads past with
      ⟨-, _, step⟩ | ⟨error, finished⟩
    · obtain ⟨thread, label, environment, before, after, action, response⟩ := act
      cases step
      simp only [StoreAction.perform, Option.some.injEq, Prod.mk.injEq] at performed
      exact performed.1.symm
    · cases finished
  · intro commit member other otherCalled otherPresents
    obtain ⟨recent, rest, split⟩ := List.append_of_mem member
    rw [split, List.append_assoc, List.cons_append] at history
    have follows := history.follows rfl
    obtain ⟨current, found, -, step⟩ := follows.proposes.of_command otherCalled
    obtain ⟨generation, names⟩ := verifyTaskAttemptFence_eq_ok_iff.mp (step.fenced otherPresents)
    obtain ⟨record, same, gone⟩ := history.past.superseded_current left
    have named : superseding.taskId = commit.taskId := by
      simp only [currentRecord, Option.map_eq_some_iff] at found
      obtain ⟨last, last_eq, rfl⟩ := found
      exact supersedes.1.trans (names.1.symm.trans (lastCommit_eq_some last_eq).2)
    rw [named, found] at same
    obtain rfl := Option.some.inj same
    obtain ⟨error, rejected⟩ := gone.rejects
    cases rejected.symm.trans (step.fenced otherPresents)

/-- The worker of a failed and requeued attempt sends a heartbeat too late. -/
theorem superseded_fence_is_rejected_sample :
    ∃ later earlier number configuration thread error,
      (taskStore Sample.directory .text).Run (.empty Sample.files)
        (later ++ .spawn number
          ⟨Sample.store, .command (.heartbeatExecution Sample.fence 9)⟩ :: earlier)
        configuration ∧
      configuration.threads number = some thread ∧ thread.rest = .done (.error error) := by
  let heartbeat : StoreOperation := .command (.heartbeatExecution Sample.fence 9)
  obtain ⟨session, executed⟩ : ∃ session, Sample.script
      [heartbeat, Sample.requeue, Sample.fail, Sample.claim, Sample.create] = some session :=
    Option.isSome_iff_exists.mp (by decide +kernel)
  obtain ⟨before, earlier, later, number, threads, past, result, first, same, run, finished,
    -, -, -⟩ := text_last_call executed
  have requeued : (Sample.script
      [Sample.requeue, Sample.fail, Sample.claim, Sample.create]).any fun session =>
        match commits session.trace with
        | superseding :: older => superseding.taskId = Sample.fence.taskId ∧
            superseding.committed.status = .queued ∧ older.any fun claim =>
              claim.committed.ownerGeneration = Sample.fence.ownerGeneration ∧
                Sample.fence.Names claim.committed ∧ claim.committed.status = .running
        | [] => false := by decide +kernel
  rw [show Sample.script _ = some before from first, Option.any_some, ← same] at requeued
  split at requeued
  next superseding older committed =>
      simp only [decide_eq_true_eq, List.any_eq_true] at requeued
      obtain ⟨named, queued, claim, held, generation, names, running⟩ := requeued
      have split : commits earlier = [] ++ superseding :: older := committed
      have rejected := superseded_fence_is_rejected run split held
        ⟨generation, names, running⟩ ⟨named, .inl queued⟩ rfl rfl
      obtain ⟨error, rfl⟩ := (rejected.1 _ finished).2 result rfl
      exact ⟨later, earlier, number, _, _, error, run, finished, rfl⟩
  next => cases requeued

end Runs

end Eva.Storage
