import Eva.Storage.TaskState.Retry

/-! # Linear histories

The commits of a task form one sequence of versions, each computed from the one
before it. A call that fails has not committed anything, but for one case: the
file of the task was replaced, and then its directory could not be synced or the
alias of the latest task could not be written.
-/

namespace Eva.Storage

variable {directory : TaskDirectory} {past : List (storeInterface directory).Observation}
  {error : EvaError}

theorem Proposes.of_claim (proposes : Proposes call previous mode proposed)
    (called : call.operation =
      .tryClaimQueued taskId executionOwner cancelToken observedAtMs) :
    ∃ current, FileSystemTaskStateStore.claimCandidate taskId executionOwner cancelToken
      observedAtMs current = .ok (some proposed) := by
  cases proposes with
  | claim other claimed =>
      cases called.symm.trans other
      exact ⟨_, claimed⟩
  | command other | update other | rename other | create other | compareAndSet other =>
      cases called.symm.trans other

/-! ## Runs -/

section Runs

variable {writer : WriterFiles} {trace : List (taskStore directory .text).Event}
  {configuration : (taskStore directory .text).Configuration} {number : Nat}
  {call : StoreCall directory}

private theorem follows_of_act
    (run : (taskStore directory .text).Run (.empty writer) trace configuration)
    (member : .act act ∈ trace)
    (observed : act.observation = ⟨.commit owner proposed version mode, .ok committed⟩) :
    ∃ earlier, Follows earlier ⟨act.label, mode, proposed, committed⟩ := by
  have held : (⟨act.label, mode, proposed, committed⟩ : Commit directory) ∈ commits trace := by
    refine List.mem_filterMap.mpr ⟨_, member, ?_⟩
    obtain ⟨thread, label, environment, before, after, action, response⟩ := act
    cases observed
    rfl
  obtain ⟨earlier, -, -, follows⟩ :=
    (run_reflects RecordFormat.text_faithful run).1.history.follows_of_mem held
  exact ⟨earlier, follows⟩

theorem failed_call_harmless
    (run : (taskStore directory .text).Run (.empty writer) trace configuration)
    (failed : configuration.threads number = some ⟨call, past, .done (.error error)⟩) :
    Harmless past := by
  obtain ⟨observed, path⟩ := run.thread_path failed
  rcases StoreCall.ended path with
    harmless | ⟨taskId, executionOwner, cancelToken, observedAtMs, proposed, committed, called,
      member, unclaimed⟩
  · exact harmless
  -- The record of the claim carries what a claim is made of.
  rw [observed] at member
  obtain ⟨act, inTrace, own, observation⟩ := System.mem_observationsOf member
  obtain ⟨earlier, follows⟩ := follows_of_act run inTrace observation
  rw [run.act_label failed inTrace own] at follows
  have shape : ∃ (current : TaskStateSnapshot) (attempt : Usize) (deadlineAtMs : Option U128),
      current.attempts.checkedAdd 1 = some attempt ∧
      proposed = current.claimed executionOwner attempt observedAtMs deadlineAtMs
        cancelToken := by
    obtain ⟨current, claimed⟩ := follows.proposes.of_claim called
    obtain ⟨-, deadlineAtMs, attempt, -, next, shape⟩ := claimCandidate_eq_ok claimed
    exact ⟨current, attempt, deadlineAtMs, next, shape⟩
  obtain ⟨current, attempt, deadlineAtMs, next, rfl⟩ := shape
  have stamped := follows.stamped
  dsimp only at stamped
  obtain ⟨claim, made, -⟩ := @taskExecutionClaim_of_claimed executionOwner cancelToken committed
    (by rw [stamped]; rfl) (by rw [stamped]; rfl) (by rw [stamped]; rfl)
    (by
      rw [stamped]
      exact Unsigned.ne_zero_of_value (Unsigned.checkedAdd_eq_some_iff.mp next))
  rw [made] at unclaimed
  cases unclaimed

theorem perform_keeps {response : action.Response}
    (performed : action.perform state environment = some (after, response))
    (uncommitted : ¬Replaced [⟨action, response⟩])
    (other : taskId ≠ "latest-basic") :
    after.files.lookup (taskFileName taskId) = state.files.lookup (taskFileName taskId) := by
  have notAlias : (taskFileName taskId == latestFileName) = false := by
    rw [beq_eq_false_iff_ne, latestFileName_eq]
    exact fun same => other (taskFileName_injective same)
  cases action with
  | read | taskFileNames | readRecord | acquireWriter =>
      simp only [StoreAction.perform, Option.some.injEq, Prod.mk.injEq] at performed
      rw [← performed.1]
  | commit owner proposed version mode =>
      rcases TaskDirectory.commitCanonical_cases performed with
        ⟨failure, rfl, rfl⟩ | ⟨committed, _, rfl, -⟩
      · rfl
      · exact absurd ⟨owner, proposed, version, mode, committed, List.mem_cons_self⟩ uncommitted
  | writeLatest committed =>
      obtain ⟨data, -, ⟨failure, -, rfl⟩ | ⟨-, rfl⟩⟩ := TaskDirectory.writeLatest_cases performed
      · rfl
      · rw [List.lookup_cons, notAlias]
  | refreshLatest owner refreshed =>
      rcases TaskDirectory.refreshLatest_cases performed with
        ⟨failure, -, rfl⟩ | ⟨snapshot, -, -, -, -, rfl⟩
      · rfl
      · rw [List.lookup_cons, notAlias]

/-- In every run, the versions of each task are one, two, three and so on; every commit carries
the version before it and, but for records of the caller's own, was computed from the record
of that version; the identity of a task never changes and the generations never decrease; the
file of a task holds its last record; and the acts of a call that fails leave the files of all
tasks as they were, unless the second half of a commit failed. -/
theorem history_is_linear
    (run : (taskStore directory .text).Run (.empty writer) trace configuration) :
    (∀ taskId, ((commitsOf taskId (commits trace)).map fun commit =>
        commit.committed.recordVersion.value).reverse =
      List.range' 1 (commitsOf taskId (commits trace)).length) ∧
    (∀ later commit earlier, commits trace = later ++ commit :: earlier →
      ((currentRecord commit.taskId earlier).map (·.recordVersion)).getD 0 =
        commit.proposed.recordVersion ∧
      Proposes commit.call (currentRecord commit.taskId earlier) commit.mode
        commit.proposed ∧
      ∀ older ∈ earlier, older.committed.ownerGeneration ≤ commit.committed.ownerGeneration ∧
        (older.taskId = commit.taskId →
          older.committed.envelope = commit.committed.envelope ∧
          older.committed.replayDelivery = commit.committed.replayDelivery)) ∧
    (∀ taskId data, taskId ≠ "latest-basic" →
      configuration.state.files.lookup (taskFileName taskId) = some data →
      ∃ commit, lastCommit taskId (commits trace) = some commit ∧
        data = RecordFormat.text.write commit.committed) ∧
    ∀ number call past error,
      configuration.threads number = some ⟨call, past, .done (.error error)⟩ →
      (∃ act committed failure, .act act ∈ trace ∧ act.thread = number ∧
        act.observation = ⟨.writeLatest committed, .error failure⟩) ∨
      ∀ act, .act act ∈ trace → act.thread = number → ∀ taskId ≠ "latest-basic",
        act.after.files.lookup (taskFileName taskId) =
          act.before.files.lookup (taskFileName taskId) := by
  have reflects := (run_reflects RecordFormat.text_faithful run).1
  refine ⟨reflects.history.versions, ?_, ?_, ?_⟩
  · intro later commit earlier split
    have follows := reflects.history.follows split
    refine ⟨follows.accepted.expectedVersion, follows.proposes, fun older member => ?_⟩
    refine ⟨follows.newer older member, fun sameTask => ?_⟩
    exact reflects.history.identity (by simp [split]) (by simp [split, member]) sameTask
  · intro taskId data other file
    obtain ⟨commit, -, written, named, last⟩ := reflects.contents taskId data file
    refine ⟨commit, last (named ?_), written⟩
    exact fun same => other (taskFileName_injective same)
  · intro number call past error failed
    have harmless := failed_call_harmless run failed
    obtain ⟨observed, -⟩ := run.thread_path failed
    dsimp only at observed
    by_cases aliasFailed : AliasFailed past
    · left
      obtain ⟨committed, failure, member⟩ := aliasFailed
      rw [observed] at member
      obtain ⟨act, inTrace, own, observation⟩ := System.mem_observationsOf member
      exact ⟨act, committed, failure, inTrace, own, observation⟩
    · right
      intro act inTrace own taskId other
      obtain ⟨later, earlier, rfl⟩ := List.append_of_mem inTrace
      obtain ⟨-, -, -, performed, -⟩ := run.act_cases
      refine perform_keeps performed (fun replaced => aliasFailed (harmless ?_)) other
      obtain ⟨owner, proposed, version, mode, committed, member⟩ := replaced
      refine ⟨owner, proposed, version, mode, committed, ?_⟩
      rw [observed, ← own, List.mem_singleton.mp member]
      exact System.observation_mem (by simp)

/-- The sample task is created and claimed. -/
theorem history_is_linear_sample :
    ∃ trace configuration,
      (taskStore Sample.directory .text).Run (.empty Sample.files) trace configuration ∧
      ((commitsOf Sample.task.taskId (commits trace)).map fun commit =>
        commit.committed.recordVersion.value).reverse = [1, 2] := by
  obtain ⟨session, trace, threads, -, checked, run, -, same, -⟩ :=
    @Sample.script_run [Sample.claim, Sample.create]
      (fun session => (commitsOf Sample.task.taskId (commits session.trace)).length = 2)
      (by decide +kernel)
  refine ⟨trace, _, run, ?_⟩
  rw [(history_is_linear run).1, same, of_decide_eq_true checked]
  rfl

def Sample.aliasFault : StoreEnvironment where
  fault := some ⟨.writeLatest, "disk full"⟩
  ownerToken := ""

/-- A call that creates a task fails, and the task is there. -/
theorem failed_call_commits :
    ∃ trace configuration error commit,
      (taskStore Sample.directory .text).Run (.empty Sample.files) trace configuration ∧
      (taskStore Sample.directory .text).HasReturned (.empty Sample.files) trace
        ⟨Sample.store, Sample.create⟩ (.error error) ∧
      commits trace = [commit] ∧
      Sample.directory.read configuration.state none (some Sample.task.taskId) =
        .ok commit.committed.stored := by
  have executed : ((taskStore Sample.directory .record).script (.empty Sample.files)
      [(Sample.aliasFault, ⟨Sample.store, Sample.create⟩)]).any fun session =>
        (session.results.head?.any fun entry => !entry.2.isOk) &&
          decide ((commits session.trace).length = 1) &&
          (Sample.directory.read session.state none (some Sample.task.taskId)).isOk := by
    decide +kernel
  obtain ⟨session, ran, checked⟩ := (Option.any_eq_true ..).mp executed
  obtain ⟨-, earlier, later, number, threads, past, result, -, -, run, finished, head, holds,
    same⟩ := text_last_call ran
  simp only [head, Option.any_some, Bool.and_eq_true, decide_eq_true_eq] at checked
  obtain ⟨⟨failed, single⟩, readable⟩ := checked
  have returned : ∃ error, result = .error error := by
    cases result with
    | ok reply => cases failed
    | error error => exact ⟨error, rfl⟩
  obtain ⟨error, rfl⟩ := returned
  have read : ∃ record, Sample.directory.read (session.state.written .text) none
      (some Sample.task.taskId) = .ok record := by
    rw [holds.read RecordFormat.text_faithful]
    cases read : Sample.directory.read session.state none (some Sample.task.taskId) with
    | ok record => exact ⟨record, rfl⟩
    | error error => simp [read, Except.isOk, Except.toBool] at readable
  obtain ⟨record, read⟩ := read
  rw [← same] at single
  obtain ⟨commit, only⟩ := List.length_eq_one_iff.mp single
  have current := ((run_reflects RecordFormat.text_faithful run).1.read_eq_ok
    RecordFormat.text_faithful read).1
  rw [currentRecord, Option.map_eq_some_iff] at current
  obtain ⟨last, found, rfl⟩ := current
  have isOnly := (lastCommit_eq_some found).1
  rw [only, List.mem_singleton] at isOnly
  subst isOnly
  exact ⟨_, _, error, last, run, ⟨[], _, _, number, past, rfl, run, finished⟩, only, read⟩

end Runs

end Eva.Storage
