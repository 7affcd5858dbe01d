import Eva.Foundation.Execution
import Eva.Storage.TaskState.History

/-! # The store over records

Without the line format the store can be computed with. A store whose files hold
the records themselves is simulated by the store over any faithful format, so
that whatever it does the store over text does as well.
-/

namespace Eva.Storage

section Simulation

variable {directory : TaskDirectory} {format : RecordFormat}

/-- Files that hold what reads back of a record. -/
@[reducible] def RecordFormat.record : RecordFormat where
  Contents := TaskStateSnapshot
  write := TaskStateSnapshot.stored
  read := TaskStateSnapshot.validated

/-- The contents are the stored form of a committed record. -/
def IsStored (contents : TaskStateSnapshot) : Prop :=
  ∃ snapshot : TaskStateSnapshot, snapshot.Valid ∧ snapshot.recordVersion ≠ 0 ∧
    contents = snapshot.stored

def TaskFiles.written (format : RecordFormat) (state : TaskFiles .record) :
    TaskFiles format where
  files := state.files.map fun file => (file.1, format.write file.2)
  pendingLatest := state.pendingLatest.map format.write
  writer := state.writer

structure Holds (state : TaskFiles .record) : Prop where
  files : ∀ file ∈ state.files, IsStored file.2
  pending : ∀ data, state.pendingLatest = some data → IsStored data

namespace Holds

variable {state : TaskFiles .record}

theorem read_written (faithful : format.Faithful) (isStored : IsStored contents) :
    format.read (format.write contents) = contents.validated := by
  obtain ⟨snapshot, valid, committed, rfl⟩ := isStored
  rw [faithful.write_stored]
  exact faithful.read_write snapshot valid committed

private theorem lookup_written (name : String) :
    (state.written format).files.lookup name = (state.files.lookup name).map format.write := by
  obtain ⟨files, pendingLatest, writer⟩ := state
  change (files.map _).lookup name = (files.lookup name).map _
  induction files with
  | nil => rfl
  | cons file files induction =>
      rw [List.map_cons, List.lookup_cons, List.lookup_cons, induction]
      cases name == file.1 <;> rfl

private theorem lookup_isStored (holds : Holds state)
    (found : state.files.lookup name = some contents) :
    IsStored contents := by
  obtain ⟨before, after, split, -⟩ := List.lookup_eq_some_iff.mp found
  exact holds.files (name, contents) (by simp [split])

theorem readOptionalTaskSnapshot (holds : Holds state) (faithful : format.Faithful)
    (name : String) :
    directory.readOptionalTaskSnapshot (state.written format) fault name =
      directory.readOptionalTaskSnapshot state fault name := by
  unfold TaskDirectory.readOptionalTaskSnapshot
  rw [lookup_written]
  cases found : state.files.lookup name with
  | none => rfl
  | some contents =>
      simp only [Option.map_some, read_written faithful (holds.lookup_isStored found)]

theorem read (holds : Holds state) (faithful : format.Faithful) (taskId : Option String) :
    directory.read (state.written format) fault taskId = directory.read state fault taskId := by
  cases taskId <;>
    simp only [TaskDirectory.read, TaskDirectory.readTaskSnapshot,
      holds.readOptionalTaskSnapshot faithful]

theorem taskFileNames :
    directory.taskFileNames (state.written format) fault =
      directory.taskFileNames state fault := by
  simp [TaskDirectory.taskFileNames, TaskFiles.written, Function.comp_def]

section

variable (holds : Holds state)
include holds

theorem readRecord (faithful : format.Faithful) (name : String) :
    directory.readRecord (state.written format) fault name =
      directory.readRecord state fault name := by
  unfold TaskDirectory.readRecord
  rw [lookup_written]
  cases found : state.files.lookup name with
  | none => rfl
  | some contents =>
      simp only [Option.map_some, orReject, ok_bind,
        read_written faithful (holds.lookup_isStored found)]

/-! ## Steps -/

private theorem stored_of_read
    (found : directory.read state fault taskId = .ok record) :
    IsStored record.stored := by
  have contents {name : String}
      (read : directory.readTaskSnapshot state fault name = .ok record) :
      IsStored record.stored := by
    rw [TaskDirectory.readTaskSnapshot_eq_ok_iff,
      TaskDirectory.readOptionalTaskSnapshot_eq_some_iff] at read
    obtain ⟨-, data, file, parsed⟩ := read
    obtain ⟨-, rfl⟩ := TaskStateSnapshot.validated_eq_ok_iff.mp parsed
    obtain ⟨source, valid, committed, rfl⟩ := holds.lookup_isStored file
    exact ⟨source, valid, committed, source.stored_stored⟩
  cases taskId with
  | none => exact contents found
  | some taskId =>
      obtain ⟨-, -, read⟩ := TaskDirectory.read_eq_ok_iff.mp found
      exact contents (TaskDirectory.readTaskSnapshot_eq_ok_iff.mpr read)

theorem commitCanonical (faithful : format.Faithful)
    (performed : TaskDirectory.commitCanonical state fault store snapshot expected mode =
      some (after, response)) :
    TaskDirectory.commitCanonical (state.written format) fault store snapshot expected mode =
        some (after.written format, response) ∧ Holds after := by
  have prepared (generation : WriterGeneration) :
      TaskDirectory.prepareCommit (state.written format) fault store snapshot expected mode
          generation =
        TaskDirectory.prepareCommit state fault store snapshot expected mode generation := by
    unfold TaskDirectory.prepareCommit
    simp only [holds.readOptionalTaskSnapshot faithful]
    rfl
  have begun : TaskDirectory.beginCommit (state.written format) fault store snapshot =
      TaskDirectory.beginCommit state fault store snapshot := rfl
  have unlocked : (state.written format).pendingLatest.isSome = state.pendingLatest.isSome :=
    Option.isSome_map ..
  refine ⟨?_, ?_⟩
  · unfold TaskDirectory.commitCanonical at performed ⊢
    rw [begun]
    split at performed
    next =>
        cases performed
        rfl
    next generation started =>
        rw [unlocked, prepared]
        split at performed
        next => cases performed
        next free =>
            rw [if_neg free]
            split at performed
            next =>
                cases performed
                rfl
            next committed ready =>
                obtain ⟨rfl, rfl⟩ := performed
                simp [TaskFiles.written, faithful.write_stored]
  · rcases TaskDirectory.commitCanonical_cases performed with
      ⟨-, -, rfl⟩ | ⟨committed, current, -, -, -, accepted, -, rfl⟩
    · exact holds
    · have isStored : IsStored committed.stored :=
        ⟨committed, accepted.committedValid, Unsigned.ne_zero_of_value accepted.nextVersion, rfl⟩
      refine ⟨?_, ?_⟩
      · intro file member
        rcases List.mem_cons.mp member with rfl | member
        · exact isStored
        · exact holds.files file member
      · intro data held
        exact Option.some.inj held ▸ isStored

theorem writeLatest
    (performed : directory.writeLatest state fault committed = some (after, response)) :
    directory.writeLatest (state.written format) fault committed =
        some (after.written format, response) ∧ Holds after := by
  refine ⟨?_, ?_⟩
  · unfold TaskDirectory.writeLatest at performed ⊢
    cases held : state.pendingLatest with
    | none => simp [held] at performed
    | some data =>
        simp only [held, TaskFiles.written, Option.map_some] at performed ⊢
        split at performed <;>
          (cases performed
           rfl)
  · obtain ⟨data, held, ⟨-, -, rfl⟩ | ⟨-, rfl⟩⟩ := TaskDirectory.writeLatest_cases performed
    · exact ⟨holds.files, by simp⟩
    · refine ⟨?_, by simp⟩
      intro file member
      rcases List.mem_cons.mp member with rfl | member
      · exact holds.pending data held
      · exact holds.files file member

theorem refreshLatest (faithful : format.Faithful)
    (performed : TaskDirectory.refreshLatest state fault store taskId =
      some (after, response)) :
    TaskDirectory.refreshLatest (state.written format) fault store taskId =
        some (after.written format, response) ∧ Holds after := by
  have prepared : TaskDirectory.prepareRefresh (state.written format) fault store taskId =
      TaskDirectory.prepareRefresh state fault store taskId := by
    unfold TaskDirectory.prepareRefresh
    simp only [holds.read faithful]
    rfl
  have begun : TaskDirectory.beginRefresh (state.written format) fault store taskId =
      TaskDirectory.beginRefresh state fault store taskId := rfl
  have unlocked : (state.written format).pendingLatest.isSome = state.pendingLatest.isSome :=
    Option.isSome_map ..
  refine ⟨?_, ?_⟩
  · unfold TaskDirectory.refreshLatest at performed ⊢
    rw [begun, unlocked, prepared]
    split at performed
    next =>
        cases performed
        rfl
    next =>
        split at performed
        next => cases performed
        next free =>
            rw [if_neg free]
            split at performed <;>
              (cases performed
               simp [TaskFiles.written, faithful.write_stored])
  · rcases TaskDirectory.refreshLatest_cases performed with
      ⟨-, -, rfl⟩ | ⟨snapshot, -, -, read, -, rfl⟩
    · exact holds
    · refine ⟨?_, holds.pending⟩
      intro file member
      rcases List.mem_cons.mp member with rfl | member
      · exact holds.stored_of_read read
      · exact holds.files file member

end

end Holds

/-- Whatever the store over records does, the store over a faithful format does. -/
def recordSimulation (directory : TaskDirectory) (faithful : format.Faithful) :
    System.Simulation (taskStore directory .record) (taskStore directory format) where
  Related state image := image = state.written format ∧ Holds state
  perform := by
    rintro state after _ action environment response ⟨rfl, holds⟩ performed
    cases action with
    | read taskId =>
        cases performed
        exact ⟨_, congrArg some (Prod.ext rfl (holds.read faithful taskId)), rfl, holds⟩
    | taskFileNames =>
        cases performed
        exact ⟨_, congrArg some (Prod.ext rfl Holds.taskFileNames), rfl, holds⟩
    | readRecord name =>
        cases performed
        exact ⟨_, congrArg some (Prod.ext rfl (holds.readRecord faithful name)), rfl, holds⟩
    | commit store snapshot expected mode =>
        obtain ⟨image, after⟩ := holds.commitCanonical faithful performed
        exact ⟨_, image, rfl, after⟩
    | writeLatest committed =>
        obtain ⟨image, after⟩ := holds.writeLatest performed
        exact ⟨_, image, rfl, after⟩
    | refreshLatest store taskId =>
        obtain ⟨image, after⟩ := holds.refreshLatest faithful performed
        exact ⟨_, image, rfl, after⟩
    | acquireWriter processId =>
        cases performed
        exact ⟨_, rfl, rfl, ⟨holds.files, holds.pending⟩⟩

theorem commits_sameEvents
    (same : List.Forall₂ System.SameEvent trace image) : commits image = commits trace := by
  induction same with
  | nil => rfl
  | @cons event imageEvent trace image same _ induction =>
      have commit : eventCommit imageEvent = eventCommit event := by
        cases same with
        | spawn => rfl
        | act left =>
            obtain ⟨thread, label, environment, before, after, action, response⟩ := left
            cases action with
            | commit => cases response <;> rfl
            | _ => rfl
      unfold commits at induction ⊢
      rw [List.filterMap_cons, List.filterMap_cons, commit, induction]

theorem text_session
    (executed : (taskStore directory .record).script (.empty writer) calls = some session) :
    ∃ image, (taskStore directory .text).script (.empty writer) calls = some image ∧
      image.state = session.state.written .text ∧ Holds session.state ∧
      commits image.trace = commits session.trace ∧ image.results = session.results := by
  have related : (recordSimulation directory RecordFormat.text_faithful).Related
      (.empty writer) (.empty writer) :=
    ⟨rfl, by simp [TaskFiles.empty], by simp [TaskFiles.empty]⟩
  obtain ⟨image, imageExecuted, ⟨state, holds⟩, same, results⟩ :=
    (recordSimulation directory RecordFormat.text_faithful).script related executed
  exact ⟨image, imageExecuted, state, holds, commits_sameEvents same, results⟩

theorem text_script
    (executed : (taskStore directory .record).script (.empty writer) calls = some session) :
    ∃ trace threads,
      (taskStore directory .text).Run (.empty writer) trace
        ⟨session.state.written .text, threads⟩ ∧ Holds session.state ∧
      commits trace = commits session.trace ∧
      ∀ entry ∈ session.results,
        (taskStore directory .text).HasReturned (.empty writer) trace entry.1 entry.2 := by
  obtain ⟨image, imageExecuted, state, holds, same, results⟩ := text_session executed
  have reached := System.script_reached imageExecuted
  obtain ⟨threads, run⟩ := reached.run
  exact ⟨image.trace, threads, state ▸ run, holds, same, results ▸ reached.returned⟩

theorem text_last_call (executed : (taskStore directory .record).script (.empty writer)
      ((environment, call) :: calls) = some session) :
    ∃ before earlier later number threads past result,
      (taskStore directory .record).script (.empty writer) calls = some before ∧
      commits earlier = commits before.trace ∧
      (taskStore directory .text).Run (.empty writer)
        (later ++ .spawn number call :: earlier)
        ⟨session.state.written .text, threads⟩ ∧
      threads number = some ⟨call, past, .done result⟩ ∧
      session.results.head? = some (call, result) ∧ Holds session.state ∧
      commits (later ++ .spawn number call :: earlier) = commits session.trace := by
  obtain ⟨before, first, -⟩ := System.script_cons executed
  obtain ⟨image, imageExecuted, state, holds, whole, results⟩ := text_session executed
  obtain ⟨imageBefore, imageFirst, called⟩ := System.script_cons imageExecuted
  obtain ⟨other, otherFirst, -, -, same, -⟩ := text_session first
  obtain rfl := Option.some.inj (otherFirst.symm.trans imageFirst)
  obtain ⟨threads, events, past, result, run, finished, traces, returned, -⟩ :=
    (System.script_reached imageFirst).call_run called
  rw [traces, state] at run
  rw [traces] at whole
  exact ⟨before, other.trace, events, _, threads, past, result, first, same, run, finished,
    by rw [← results, returned]; rfl, holds, whole⟩

end Simulation

/-! ## A small store -/

namespace Sample

def directory : TaskDirectory where
  projectRoot := "/project"
  taskDir := "/project/.eva/tasks"
  durableWriterRequired := false
  writerLayout := {
    root := "/project"
    ownerPath := "/project/writer.lock"
    ownerRecordPath := "/project/writer.owner"
    generationPath := "/project/writer.generation" }

def store : FileSystemTaskStateStore directory where
  writer := none
  unowned _ := rfl

def digest : String :=
  "sha256:e3b0c44298fc1c149afbf4c8996fb92427ae41e4649b934ca495991b7852b855"

def envelope : TaskEnvelopeSnapshot where
  kind := "demo.echo"
  agentId := "agent-demo"
  input := .artifact "inputs/demo.json" digest
  idempotencyKey := "key-demo"
  attemptPolicy := { maxAttempts := 3, retryBackoffMs := 0, attemptTimeoutMs := none }

/-- A queued task that has not been committed yet. -/
def task : TaskStateSnapshot where
  recordVersion := 0
  ownerGeneration := 0
  taskId := "task-demo"
  envelope := some envelope
  replayDelivery := none
  status := .queued
  attempts := 0
  executionOwner := none
  retryMaxAttempts := 3
  cancelRequested := false
  cancelAccepted := false
  cancelReason := none
  heartbeatAtMs := none
  deadlineAtMs := none
  cancelToken := none
  resultDigest := none
  resultSizeBytes := none
  interruptedReason := none
  errorKind := none
  errorMessage := none
  errorRetryable := none
  retryReadyAtMs := none
  logs := []
  deadLetters := []
  replayedEvents := []

def quiet : StoreEnvironment where
  fault := none
  ownerToken := ""

def files : WriterFiles where
  generation := 0
  owner := none

def script (operations : List StoreOperation) :
    Option (taskStore directory .record).Session :=
  (taskStore directory .record).script (.empty files)
    (operations.map fun operation => (quiet, { store, operation }))

def create : StoreOperation := .create task

def claim : StoreOperation := .tryClaimQueued task.taskId "worker-demo" "token-demo" 7

def fence : TaskAttemptFence where
  taskId := task.taskId
  ownerGeneration := 0
  executionOwner := "worker-demo"
  attempt := 1
  cancelToken := "token-demo"

def fail : StoreOperation :=
  .command (.finishExecution fence (.failed "unavailable" "backend is down" true))

def requeue : StoreOperation := .command (.requeueRetryable task.taskId 8)

/-- The lock is free and the record of the task reads back and passes the test. -/
def reads (test : TaskStateSnapshot → Bool) (session : (taskStore directory .record).Session) :
    Bool :=
  session.state.pendingLatest.isNone &&
    match directory.read session.state none (some task.taskId) with
    | .ok current => test current
    | .error _ => false

end Sample

theorem Sample.script_run (executed : (Sample.script operations).any property) :
    ∃ session trace threads, Sample.script operations = some session ∧ property session ∧
      (taskStore Sample.directory .text).Run (.empty Sample.files) trace
        ⟨session.state.written .text, threads⟩ ∧ Holds session.state ∧
      commits trace = commits session.trace ∧
      ∀ entry ∈ session.results,
        (taskStore Sample.directory .text).HasReturned (.empty Sample.files) trace entry.1
          entry.2 := by
  rw [Option.any_eq_true] at executed
  obtain ⟨session, ran, holds⟩ := executed
  obtain ⟨trace, threads, run, stored, same, returned⟩ := text_script ran
  exact ⟨session, trace, threads, ran, holds, run, stored, same, returned⟩

theorem Sample.script_reads (executed : (Sample.script operations).any (Sample.reads test)) :
    ∃ trace configuration commit,
      (taskStore Sample.directory .text).Run (.empty Sample.files) trace configuration ∧
      configuration.state.pendingLatest = none ∧
      lastCommit Sample.task.taskId (commits trace) = some commit ∧
      Sample.directory.read configuration.state none (some Sample.task.taskId) =
        .ok commit.committed.stored ∧
      test commit.committed.stored := by
  obtain ⟨session, trace, threads, -, checked, run, holds, -, -⟩ := Sample.script_run executed
  obtain ⟨idle, readable⟩ := Bool.and_eq_true_iff.mp checked
  split at readable
  next current read =>
      have imageRead : Sample.directory.read (session.state.written .text) none
          (some Sample.task.taskId) = .ok current := by
        rw [holds.read RecordFormat.text_faithful, read]
      have reflects := (run_reflects RecordFormat.text_faithful run).1
      obtain ⟨found, -⟩ := reflects.read_eq_ok RecordFormat.text_faithful imageRead
      simp only [currentRecord, Option.map_eq_some_iff] at found
      obtain ⟨commit, last, rfl⟩ := found
      exact ⟨trace, _, commit, run, by simpa [TaskFiles.written] using idle, last, imageRead,
        readable⟩
  next => cases readable

theorem Sample.last_call
    {property : (taskStore Sample.directory .record).Session → Except EvaError StoreReply → Bool}
    (executed : (Sample.script (operation :: operations)).any fun session =>
      session.results.head?.any fun entry => property session entry.2) :
    ∃ session trace threads result, property session result ∧
      (taskStore Sample.directory .text).Run (.empty Sample.files) trace
        ⟨session.state.written .text, threads⟩ ∧ Holds session.state ∧
      commits trace = commits session.trace ∧
      (taskStore Sample.directory .text).HasReturned (.empty Sample.files) trace
        ⟨Sample.store, operation⟩ result := by
  rw [Option.any_eq_true] at executed
  obtain ⟨session, ran, checked⟩ := executed
  obtain ⟨before, earlier, later, number, threads, past, result, -, -, run, finished, head,
    holds, same⟩ := text_last_call ran
  rw [head] at checked
  exact ⟨session, _, threads, result, checked, run, holds, same,
    [], _, _, number, past, rfl, run, finished⟩

end Eva.Storage
