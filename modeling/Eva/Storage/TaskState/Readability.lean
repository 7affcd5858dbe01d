import Eva.Storage.TaskState.Records

/-! # Readability of committed records

A file holds the text of a committed record. It reads back as that record if no
optional text of it is empty and no retry data is lost with a missing envelope.
When all commits are of this kind, only failing system calls keep a store from
reading its records.
-/

namespace Eva.Storage

variable {directory : TaskDirectory}

/-! ## Records that the text keeps -/

/-- The text of the record has room for everything in it. -/
structure TaskStateSnapshot.Storable (record : TaskStateSnapshot) : Prop where
  cancelReason : record.cancelReason ≠ some ""
  interruptedReason : record.interruptedReason ≠ some ""
  errorKind : record.errorKind ≠ some ""
  errorMessage : record.errorMessage ≠ some ""
  retry : record.envelope = none →
    record.errorRetryable = none ∧ record.retryReadyAtMs = none

private theorem filter_eq_self_iff :
    value.filter (· ≠ "") = value ↔ value ≠ some "" := by
  cases value with
  | none => simp
  | some text => by_cases empty : text = "" <;> simp [Option.filter, empty]

namespace TaskStateSnapshot

variable {record : TaskStateSnapshot}

theorem stored_eq_self_iff : record.stored = record ↔ record.Storable := by
  constructor
  · intro same
    refine ⟨?_, ?_, ?_, ?_, fun absent => ?_⟩
    · exact filter_eq_self_iff.mp (congrArg cancelReason same)
    · exact filter_eq_self_iff.mp (congrArg interruptedReason same)
    · exact filter_eq_self_iff.mp (congrArg errorKind same)
    · exact filter_eq_self_iff.mp (congrArg errorMessage same)
    · have retryable := congrArg errorRetryable same
      have ready := congrArg retryReadyAtMs same
      simp only [stored, absent, Option.isSome_none, Bool.false_eq_true, if_false] at retryable ready
      exact ⟨retryable.symm, ready.symm⟩
  · intro storable
    have retry : (if record.envelope.isSome then record.errorRetryable else none) =
        record.errorRetryable ∧
        (if record.envelope.isSome then record.retryReadyAtMs else none) =
        record.retryReadyAtMs := by
      cases present : record.envelope with
      | none =>
          obtain ⟨retryable, ready⟩ := storable.retry present
          simp [retryable, ready]
      | some envelope => simp
    rw [stored, filter_eq_self_iff.mpr storable.cancelReason,
      filter_eq_self_iff.mpr storable.interruptedReason,
      filter_eq_self_iff.mpr storable.errorKind, filter_eq_self_iff.mpr storable.errorMessage,
      retry.1, retry.2]

instance : Decidable record.Storable := decidable_of_iff _ stored_eq_self_iff

theorem fromStorage_toStorage_eq_self_iff (valid : record.Valid)
    (committed : record.recordVersion ≠ 0) :
    fromStorage record.toStorage = .ok record ↔ record.Storable := by
  rw [← stored_eq_self_iff, show fromStorage record.toStorage = record.stored.validated from
    fromStorage_toStorage valid committed, validated_eq_ok_iff]
  constructor
  · exact fun read => read.2
  · intro same
    rw [same]
    exact ⟨valid, rfl⟩

end TaskStateSnapshot

/-! ## Files -/

/-- All records of the history are storable, and none of them has the name of the alias. -/
def Readable (commits : List (Commit directory)) : Prop :=
  ∀ commit ∈ commits, commit.committed.Storable ∧ commit.taskId ≠ "latest-basic"

section Files

variable {state : TaskFiles format} {commits : List (Commit directory)} {commit : Commit directory}

namespace Reflects

variable (reflects : Reflects state commits)

include reflects

theorem file_of_last
    (last : lastCommit taskId commits = some commit) (other : taskId ≠ "latest-basic") :
    state.files.lookup (taskFileName taskId) = some (format.write commit.committed) := by
  cases file : state.files.lookup (taskFileName taskId) with
  | none => exact absurd file (reflects.present taskId (by rw [last]; simp))
  | some data =>
      obtain ⟨found, -, rfl, named, isLast⟩ := reflects.contents taskId data file
      have same := isLast (named fun equal => other (taskFileName_injective equal))
      rw [last] at same
      rw [Option.some.inj same]

section Faithful

variable (faithful : format.Faithful) (readable : Readable commits)

include faithful readable

theorem read_storable (member : commit ∈ commits) :
    format.read (format.write commit.committed) = .ok commit.committed := by
  obtain ⟨earlier, later, -, follows⟩ := reflects.history.follows_of_mem member
  rw [reflects.read_committed faithful member, TaskStateSnapshot.validated_eq_ok_iff,
    TaskStateSnapshot.stored_eq_self_iff.mpr (readable commit member).1]
  exact ⟨follows.accepted.committedValid, rfl⟩

private theorem readOptional_written (member : commit ∈ commits)
    (file : state.files.lookup name = some (format.write commit.committed)) :
    directory.readOptionalTaskSnapshot state none name = .ok (some commit.committed) := by
  exact TaskDirectory.readOptionalTaskSnapshot_eq_some_iff.mpr
    ⟨nofun, _, file, reflects.read_storable faithful readable member⟩

theorem read_last (last : lastCommit taskId commits = some commit) :
    directory.read state none (some taskId) = .ok commit.committed := by
  obtain ⟨member, rfl⟩ := lastCommit_eq_some last
  obtain ⟨earlier, later, -, follows⟩ := reflects.history.follows_of_mem member
  have file := reflects.file_of_last last (readable commit member).2
  exact TaskDirectory.read_of_file file (reflects.read_storable faithful readable member)
    follows.accepted.committedValid.identified

theorem read_alias (present : state.files.lookup latestFileName ≠ none) :
    ∃ commit ∈ commits, directory.read state none none = .ok commit.committed := by
  obtain ⟨data, file⟩ := Option.ne_none_iff_exists'.mp present
  obtain ⟨commit, member, rfl, -⟩ := reflects.contents "latest-basic" data file
  refine ⟨commit, member, ?_⟩
  exact TaskDirectory.readTaskSnapshot_eq_ok_iff.mpr
    (reflects.readOptional_written faithful readable member file)

theorem readRecord_last (last : lastCommit taskId commits = some commit) :
    directory.readRecord state none (taskFileName taskId) = .ok commit.committed := by
  obtain ⟨member, rfl⟩ := lastCommit_eq_some last
  obtain ⟨earlier, later, -, follows⟩ := reflects.history.follows_of_mem member
  have file := reflects.file_of_last last (readable commit member).2
  exact TaskDirectory.readRecord_eq_ok_iff.mpr
    ⟨follows.accepted.committedValid.identified.nonempty, rfl,
      reflects.readOptional_written faithful readable member file⟩

end Faithful

theorem committed_of_listed
    (listed : directory.taskFileNames state fault = .ok names)
    (member : name ∈ names) :
    ∃ commit, name = taskFileName commit.taskId ∧
      lastCommit commit.taskId commits = some commit := by
  simp only [TaskDirectory.taskFileNames, seq_eq_ok_iff, pure_eq_ok_iff] at listed
  obtain ⟨-, -, rfl⟩ := listed
  simp only [List.mem_mergeSort, List.mem_filter, List.mem_dedup, List.mem_map,
    Bool.and_eq_true, decide_eq_true_eq] at member
  obtain ⟨⟨file, held, rfl⟩, notAlias, -⟩ := member
  obtain ⟨taskId, named⟩ := reflects.named file held
  cases found : state.files.lookup (taskFileName taskId) with
  | none =>
      rw [List.lookup_eq_none_iff] at found
      exact absurd named.symm (by simpa using found file held)
  | some data =>
      obtain ⟨commit, -, -, key, last⟩ := reflects.contents taskId data found
      have same : commit.taskId = taskId := key (named ▸ notAlias)
      exact ⟨commit, by rw [named, same], by rw [same]; exact last same⟩

end Reflects

end Files

/-! ## Runs -/

section Runs

variable {writer : WriterFiles} {trace later earlier : List (taskStore directory .text).Event}
  {configuration : (taskStore directory .text).Configuration}
  {act : (taskStore directory .text).Act}

theorem Readable.before (readable : Readable (commits (later ++ earlier))) :
    Readable (commits earlier) := by
  intro commit member
  exact readable commit (by rw [commits_append]; exact List.mem_append_right _ member)

private theorem readRecord_response
    (run : (taskStore directory .text).Run (.empty writer) (later ++ .act act :: earlier)
      configuration)
    (readable : Readable (commits (later ++ .act act :: earlier)))
    (quiet : act.environment.fault = none) (listing : act.label.operation = .listRecords)
    (observed : act.observation = ⟨.readRecord name, response⟩) :
    ∃ commit, name = taskFileName commit.taskId ∧
      lastCommit commit.taskId (commits earlier) = some commit ∧
      response = .ok commit.committed := by
  obtain ⟨before, past, state, performed, emits⟩ := run.act_cases
  have reflects := (run_reflects RecordFormat.text_faithful past).1
  rw [state] at reflects
  rw [List.append_cons] at readable
  have named : ∃ commit, name = taskFileName commit.taskId ∧ commit ∈ commits earlier := by
    obtain ⟨thread, label, environment, before, after, action, answer⟩ := act
    cases observed
    dsimp only at listing emits
    unfold StoreCall.program at emits
    simp only [listing] at emits
    obtain ⟨names, member, found⟩ : ∃ names, ⟨.taskFileNames, .ok names⟩ ∈
        System.observationsOf thread earlier ∧ name ∈ names := by
      cases listRecords_meets.emits (Program.emits_map emits) with
      | record found listed => exact ⟨_, found, listed⟩
    obtain ⟨first, inTrace, -, observation⟩ := System.mem_observationsOf member
    obtain ⟨newer, older, rfl⟩ := List.append_of_mem inTrace
    obtain ⟨_, firstPast, firstState, firstPerformed, -⟩ := past.act_cases
    have firstReflects := (run_reflects RecordFormat.text_faithful firstPast).1
    rw [firstState] at firstReflects
    have listed : directory.taskFileNames first.before first.environment.fault = .ok names := by
      obtain ⟨thread, label, environment, before, after, action, answer⟩ := first
      cases observation
      simp only [StoreAction.perform, Option.some.injEq, Prod.mk.injEq] at firstPerformed
      exact firstPerformed.2
    obtain ⟨commit, named, last⟩ := firstReflects.committed_of_listed listed found
    refine ⟨commit, named, ?_⟩
    rw [List.append_cons, commits_append]
    exact List.mem_append_right _ (lastCommit_eq_some last).1
  obtain ⟨listed, named, member⟩ := named
  obtain ⟨commit, last⟩ := Option.ne_none_iff_exists'.mp (lastCommit_ne_none member)
  have sameTask := (lastCommit_eq_some last).2
  refine ⟨commit, by rw [named, sameTask], by rw [sameTask]; exact last, ?_⟩
  have read := reflects.readRecord_last RecordFormat.text_faithful readable.before last
  obtain ⟨thread, label, environment, before, after, action, answer⟩ := act
  cases observed
  simp only [StoreAction.perform, Option.some.injEq, Prod.mk.injEq] at performed quiet
  rw [← performed.2, quiet, named]
  exact read

/-- In every run, the text of a committed record reads back as the record exactly if the
record is storable. If all of them are, and no task has the name of the alias, then every
reading of a committed task, of the alias and of a listed file that no system call fails
returns a committed record, of a task always the last one, and a listing fails only when a
system call does. -/
theorem committed_records_read_back_iff
    (run : (taskStore directory .text).Run (.empty writer) trace configuration) :
    (∀ commit ∈ commits trace,
      (TaskStateSnapshot.fromStorage commit.committed.toStorage = .ok commit.committed ↔
        commit.committed.Storable)) ∧
    (Readable (commits trace) →
      (∀ later act earlier, trace = later ++ .act act :: earlier →
        act.environment.fault = none →
        (∀ taskId commit response, lastCommit taskId (commits earlier) = some commit →
          act.observation = ⟨.read (some taskId), response⟩ →
          response = .ok commit.committed) ∧
        (∀ response, act.before.files.lookup latestFileName ≠ none →
          act.observation = ⟨.read none, response⟩ →
          ∃ commit ∈ commits earlier, response = .ok commit.committed) ∧
        (∀ name response, act.label.operation = .listRecords →
          act.observation = ⟨.readRecord name, response⟩ →
          ∃ commit, name = taskFileName commit.taskId ∧
            lastCommit commit.taskId (commits earlier) = some commit ∧
            response = .ok commit.committed)) ∧
      ∀ number store past error,
        configuration.threads number =
          some ⟨⟨store, .listRecords⟩, past, .done (.error error)⟩ →
        ∃ act, .act act ∈ trace ∧ act.thread = number ∧ act.environment.fault ≠ none) := by
  refine ⟨?_, fun readable => ⟨?_, ?_⟩⟩
  · intro commit member
    obtain ⟨earlier, later, -, follows⟩ :=
      (run_reflects RecordFormat.text_faithful run).1.history.follows_of_mem member
    exact TaskStateSnapshot.fromStorage_toStorage_eq_self_iff follows.accepted.committedValid
      follows.version_ne_zero
  · rintro later act earlier rfl quiet
    obtain ⟨before, past, state, performed, -⟩ := run.act_cases
    have reflects := (run_reflects RecordFormat.text_faithful past).1
    rw [state] at reflects
    have readableBefore : Readable (commits earlier) := by
      rw [List.append_cons] at readable
      exact readable.before
    have answered {taskId : Option String} {response : Except EvaError TaskStateSnapshot}
        (observed : act.observation = ⟨.read taskId, response⟩) :
        response = directory.read act.before none taskId := by
      obtain ⟨thread, label, environment, before, after, action, answer⟩ := act
      cases observed
      simp only [StoreAction.perform, Option.some.injEq, Prod.mk.injEq] at performed quiet
      rw [← performed.2, quiet]
    refine ⟨?_, ?_, fun name response listing => readRecord_response run readable quiet listing⟩
    · intro taskId commit response last observed
      rw [answered observed]
      exact reflects.read_last RecordFormat.text_faithful readableBefore last
    · intro response present observed
      obtain ⟨commit, member, read⟩ :=
        reflects.read_alias RecordFormat.text_faithful readableBefore present
      exact ⟨commit, member, (answered observed).trans read⟩
  · intro number store past error failed
    obtain ⟨observed, path⟩ := run.thread_path failed
    obtain ⟨result, inner, equal⟩ := Program.returns_map path
    have isError : result = .error error := by
      cases result <;> simp_all [Except.map]
    subst isError
    rcases (listRecords_meets.returns inner).failed error rfl with member | ⟨name, member⟩
    · rw [observed] at member
      obtain ⟨act, inTrace, own, observation⟩ := System.mem_observationsOf member
      refine ⟨act, inTrace, own, fun quiet => ?_⟩
      obtain ⟨later, earlier, rfl⟩ := List.append_of_mem inTrace
      obtain ⟨-, -, -, performed, -⟩ := run.act_cases
      obtain ⟨thread, label, environment, before, after, action, answer⟩ := act
      cases observation
      simp only [StoreAction.perform, Option.some.injEq, Prod.mk.injEq] at performed quiet
      simp only [quiet, TaskDirectory.taskFileNames, failsAt_none, ok_bind] at performed
      cases performed.2
    · rw [observed] at member
      obtain ⟨act, inTrace, own, observation⟩ := System.mem_observationsOf member
      refine ⟨act, inTrace, own, fun quiet => ?_⟩
      have listing := run.act_label failed inTrace own
      obtain ⟨later, earlier, rfl⟩ := List.append_of_mem inTrace
      obtain ⟨commit, -, -, read⟩ :=
        readRecord_response run readable quiet (by rw [listing]) observation
      cases read

theorem committed_records_read_back_iff_sample :
    ∃ trace configuration commit older,
      (taskStore Sample.directory .text).Run (.empty Sample.files) trace configuration ∧
      commits trace = [commit, older] ∧
      TaskStateSnapshot.fromStorage commit.committed.toStorage = .ok commit.committed := by
  obtain ⟨session, trace, threads, -, checked, run, -, same, -⟩ :=
    @Sample.script_run [Sample.claim, Sample.create]
      (fun session => match commits session.trace with
        | [commit, _] => decide commit.committed.Storable
        | [] | [_] | _ :: _ :: _ :: _ => false)
      (by decide +kernel)
  rw [← same] at checked
  split at checked
  next commit older committed =>
      exact ⟨trace, _, commit, older, run, committed,
        ((committed_records_read_back_iff run).1 commit (by simp [committed])).mpr
          (of_decide_eq_true checked)⟩
  all_goals cases checked

def Sample.failSilently : StoreOperation :=
  .command (.finishExecution Sample.fence (.failed "internal" "" false))

/-- The store accepts an outcome with an empty error message and cannot read its own record
afterwards. -/
theorem committed_record_unreadable :
    ∃ trace configuration reply commit error readError,
      (taskStore Sample.directory .text).Run (.empty Sample.files) trace configuration ∧
      (taskStore Sample.directory .text).HasReturned (.empty Sample.files) trace
        ⟨Sample.store, Sample.failSilently⟩ (.ok reply) ∧
      lastCommit Sample.task.taskId (commits trace) = some commit ∧
      TaskStateSnapshot.fromStorage commit.committed.toStorage = .error error ∧
      Sample.directory.read configuration.state none (some Sample.task.taskId) =
        .error readError := by
  obtain ⟨session, trace, threads, result, checked, run, holds, same, returned⟩ :=
    @Sample.last_call Sample.failSilently [Sample.claim, Sample.create]
      (fun session result => result.isOk &&
        (lastCommit Sample.task.taskId (commits session.trace)).any
          (fun commit => !commit.committed.stored.validated.isOk) &&
        !(Sample.directory.read session.state none (some Sample.task.taskId)).isOk)
      (by decide)
  simp only [Bool.and_eq_true, Option.any_eq_true] at checked
  obtain ⟨⟨accepted, commit, last, invalid⟩, unreadable⟩ := checked
  obtain ⟨error, invalid⟩ := exists_error_of_not_isOk invalid
  obtain ⟨readError, unreadable⟩ := exists_error_of_not_isOk unreadable
  cases result with
  | error refused => cases accepted
  | ok reply =>
      rw [← same] at last
      obtain ⟨earlier, later, -, follows⟩ := (run_reflects RecordFormat.text_faithful
        run).1.history.follows_of_mem (lastCommit_eq_some last).1
      refine ⟨trace, _, reply, commit, error, readError, run, returned, last, ?_, ?_⟩
      · rw [← invalid]
        exact TaskStateSnapshot.fromStorage_toStorage follows.accepted.committedValid
          follows.version_ne_zero
      · rw [holds.read RecordFormat.text_faithful, unreadable]

end Runs

end Eva.Storage
