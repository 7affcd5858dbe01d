import Eva.Storage.TaskState.RoundTrip
import Eva.Storage.TaskState.Transition
import Eva.Storage.Writer

/-! # The task directory

One file per task, an alias of the record committed last, and a lock that
serialises all writers of the directory. The functions here are the atomic
parts of the store: each file is read or replaced as a whole.
-/

namespace Eva.Storage

/-- How a record becomes the contents of a file. -/
structure RecordFormat where
  Contents : Type
  write : TaskStateSnapshot → Contents
  read : Contents → Except EvaError TaskStateSnapshot

/-- The line format of the files. -/
def RecordFormat.text : RecordFormat where
  Contents := String
  write := TaskStateSnapshot.toStorage
  read := TaskStateSnapshot.fromStorage

/-- A format that reads a committed record back as its stored form. -/
structure RecordFormat.Faithful (format : RecordFormat) : Prop where
  read_write : ∀ snapshot : TaskStateSnapshot, snapshot.Valid → snapshot.recordVersion ≠ 0 →
    format.read (format.write snapshot) = snapshot.stored.validated
  write_stored : ∀ snapshot : TaskStateSnapshot,
    format.write snapshot.stored = format.write snapshot

theorem RecordFormat.text_faithful : RecordFormat.text.Faithful where
  read_write _ valid committed := TaskStateSnapshot.fromStorage_toStorage valid committed
  write_stored := TaskStateSnapshot.toStorage_stored

structure TaskDirectory where
  projectRoot : String
  taskDir : String
  durableWriterRequired : Bool
  writerLayout : WriterLayout

/-- A handle on the directory. Only durable directories have a writer. -/
structure FileSystemTaskStateStore (directory : TaskDirectory) where
  writer : Option DurableWriterGuard
  unowned : directory.durableWriterRequired = false → writer = none

/-- The later of two writes of a name hides the earlier one. -/
structure TaskFiles (format : RecordFormat) where
  files : List (String × format.Contents)
  /-- The contents the alias is about to get, while the lock is held for it. -/
  pendingLatest : Option format.Contents
  writer : WriterFiles

def latestFileName : String := "latest-basic.task"

def taskFileName (taskId : String) : String := taskId ++ ".task"

namespace TaskDirectory

variable (directory : TaskDirectory)

def path (name : String) : String := directory.taskDir ++ "/" ++ name

/-- The file name of a task, which is checked to be a plain name. -/
def taskPath (taskId : String) : Except EvaError String := do
  RequestId.parse taskId
  pure (taskFileName taskId)

variable {format : RecordFormat} (state : TaskFiles format) (fault : Option IoFault)

/-! ## Reading -/

def readOptionalTaskSnapshot (name : String) : Except EvaError (Option TaskStateSnapshot) := do
  failsAt fault .readRecord
    (pathError (.internal "failed to read task state") (directory.path name))
  match state.files.lookup name with
  | none => pure none
  | some data =>
      match format.read data with
      | .ok snapshot => pure (some snapshot)
      | .error error => .error (error.withContext "path" (directory.path name))

def readTaskSnapshot (name : String) : Except EvaError TaskStateSnapshot := do
  let snapshot ← directory.readOptionalTaskSnapshot state fault name
  orReject ((EvaError.notFound "task state does not exist")
      |>.withContext "path" (directory.path name)
      |>.withContext "suggestion" "run `eva run --example basic` first")
    snapshot

/-- The record of a file must name the task of the file. -/
def checkFileKey (name expectedTaskId : String) (snapshot : TaskStateSnapshot) :
    Except EvaError Unit :=
  rejectIf (snapshot.taskId ≠ expectedTaskId)
    ((EvaError.conflict "task state file key does not match record")
      |>.withContext "path" (directory.path name)
      |>.withContext "expected_task_id" expectedTaskId
      |>.withContext "actual_task_id" snapshot.taskId)

def read (taskId : Option String) : Except EvaError TaskStateSnapshot :=
  match taskId with
  | none => directory.readTaskSnapshot state fault latestFileName
  | some taskId => do
      let name ← taskPath taskId
      let snapshot ← directory.readTaskSnapshot state fault name
      directory.checkFileKey name taskId snapshot
      pure snapshot

/-- The name without its extension. A name that is nothing else has no extension. -/
def fileStem (name extension : List Char) : Option (List Char) := do
  let stem ← Text.stripPrefix ('.' :: extension).reverse name.reverse
  guard (stem ≠ [])
  pure stem.reverse

def taskFileNames : Except EvaError (List String) := do
  failsAt fault .readDirectory
    (pathError (.internal "failed to read task state directory") directory.taskDir)
  failsAt fault .readDirectoryEntry
    (pathError (.internal "failed to read task state directory entry") directory.taskDir)
  let names := (state.files.map Prod.fst).dedup.filter fun name =>
    name ≠ latestFileName && (fileStem name.toList "task".toList).isSome
  pure (names.mergeSort fun left right => left ≤ right)

def readRecord (name : String) : Except EvaError TaskStateSnapshot := do
  failsAt fault .readRecord
    (pathError (.internal "failed to read task state") (directory.path name))
  let data ← orReject
    (pathError (.internal "failed to read task state") (directory.path name)
      "file is missing") (state.files.lookup name)
  let snapshot ← (format.read data).mapError
    fun error => error.withContext "path" (directory.path name)
  let expectedTaskId ← orReject
    ((EvaError.conflict "task state file name is not valid UTF-8")
      |>.withContext "path" (directory.path name))
    (fileStem name.toList "task".toList)
  directory.checkFileKey name (String.ofList expectedTaskId) snapshot
  pure snapshot

/-! ## Committing -/

/-- The checks of a proposed record against the current one. -/
def checkCurrent (current snapshot : TaskStateSnapshot) (mode : TaskStateCommitMode) :
    Except EvaError Unit := do
  directory.checkFileKey (taskFileName snapshot.taskId) snapshot.taskId current
  rejectIf (current.ownerGeneration ≠ snapshot.ownerGeneration)
    ((snapshot.taskConflict "task state owner generation does not match current record")
      |>.withContext "expected" current.ownerGeneration.text
      |>.withContext "actual" snapshot.ownerGeneration.text)
  rejectIf (current.envelope ≠ snapshot.envelope ∨
      current.replayDelivery ≠ snapshot.replayDelivery)
    (snapshot.taskConflict "task lifecycle update cannot modify immutable task identity")
  validateTaskStateTransition current snapshot mode

def checkOptionalCurrent (current : Option TaskStateSnapshot) (snapshot : TaskStateSnapshot)
    (mode : TaskStateCommitMode) : Except EvaError Unit :=
  match current with
  | some current => directory.checkCurrent current snapshot mode
  | none => pure ()

variable {directory} (store : FileSystemTaskStateStore directory)

/-- Entry of a writer transaction: the generation that the record is stamped with. -/
def beginWriterTransaction : Except EvaError WriterGeneration :=
  match store.writer with
  | some writer => do
      failsAt fault .processLock fun _ =>
        (EvaError.internal "durable runtime writer process lock is poisoned")
          |>.withContext "path" directory.writerLayout.ownerPath
      writer.verifyCurrent directory.writerLayout state.writer fault
      pure writer.generation
  | none =>
      if directory.durableWriterRequired then
        .error ((EvaError.conflict
            "durable task mutation requires runtime writer ownership")
          |>.withContext "root" directory.projectRoot)
      else pure 0

/-- The record lock, after which the writer is verified again. -/
def acquireRecordWriteLock : Except EvaError Unit := do
  let path := directory.path "task-state.cas.lock"
  failsAt fault .createLockDirectory
    (pathError (.internal "failed to create durable record lock directory") directory.taskDir)
  failsAt fault .openRecordLock
    (pathError (.internal "failed to open durable record lock") path)
  failsAt fault .acquireRecordLock
    (pathError (.internal "failed to acquire durable record lock") path)
  match store.writer with
  | some writer => writer.verifyCurrent directory.writerLayout state.writer fault
  | none => pure ()

def canonicalFailed (directory : TaskDirectory) (snapshot : TaskStateSnapshot)
    (ioError : String) : EvaError :=
  (EvaError.internal "failed to atomically write task state")
    |>.withContext "task_id" snapshot.taskId
    |>.withContext "path" (directory.path (taskFileName snapshot.taskId))
    |>.withContext "io_error" ioError

/-- Everything that happens under the lock before the file is replaced. -/
def prepareCommit (snapshot : TaskStateSnapshot) (expected : StateVersion)
    (mode : TaskStateCommitMode) (generation : WriterGeneration) :
    Except EvaError TaskStateSnapshot := do
  acquireRecordWriteLock state fault store
  let name ← taskPath snapshot.taskId
  let current ← directory.readOptionalTaskSnapshot state fault name
  directory.checkOptionalCurrent current snapshot mode
  rejectIf (mode.createOnly ∧ current.isSome)
    (snapshot.taskConflict "task state already exists")
  let actual := (current.map (·.recordVersion)).getD 0
  rejectIf (actual ≠ expected)
    ((snapshot.taskConflict "task state version conflict")
      |>.withContext "expected" expected.text
      |>.withContext "actual" actual.text)
  let recordVersion ← StateVersion.checkedNext actual
  let committed := { snapshot with recordVersion, ownerGeneration := generation }
  committed.validate
  failsAt fault .writeCanonical (directory.canonicalFailed snapshot)
  pure committed

/-- What a commit checks before it waits for the lock. -/
def beginCommit (snapshot : TaskStateSnapshot) : Except EvaError WriterGeneration := do
  snapshot.validate
  failsAt fault .createDirectory
    (pathError (.internal "failed to create task state directory") directory.taskDir)
  beginWriterTransaction state fault store

/-- The first half of a commit replaces the file of the task and keeps the lock.
`none` while another commit holds the lock. -/
def commitCanonical (snapshot : TaskStateSnapshot) (expected : StateVersion)
    (mode : TaskStateCommitMode) :
    Option (TaskFiles format × Except EvaError TaskStateSnapshot) :=
  match beginCommit state fault store snapshot with
  | .error error => some (state, .error error)
  | .ok generation =>
      if state.pendingLatest.isSome then none
      else match prepareCommit state fault store snapshot expected mode generation with
        | .error error => some (state, .error error)
        | .ok committed =>
            some ({ state with
                files := (taskFileName snapshot.taskId, format.write committed) :: state.files
                pendingLatest := some (format.write committed) },
              .ok committed)

def latestFailed (committed : TaskStateSnapshot) (ioError : String) : EvaError :=
  (EvaError.internal "failed to atomically write latest task state")
    |>.withContext "task_id" committed.taskId
    |>.withContext "canonical_committed" "true"
    |>.withContext "current_version" committed.recordVersion.text
    |>.withContext "io_error" ioError

/-- What is left before the alias is replaced. The file of the task has been by then: where
its directory cannot be synced, a record that is there is reported as not written. -/
def prepareLatest (directory : TaskDirectory) (committed : TaskStateSnapshot) :
    Except EvaError Unit := do
  failsAt fault .syncCanonical (directory.canonicalFailed committed)
  failsAt fault .writeLatest (latestFailed committed)

/-- The second half of a commit replaces the alias and releases the lock. -/
def writeLatest (directory : TaskDirectory) (committed : TaskStateSnapshot) :
    Option (TaskFiles format × Except EvaError Unit) :=
  match state.pendingLatest with
  | none => none
  | some data =>
      match directory.prepareLatest fault committed with
      | .error error => some ({ state with pendingLatest := none }, .error error)
      | .ok () =>
          some ({ state with
              files := (latestFileName, data) :: state.files
              pendingLatest := none },
            failsAt fault .syncLatest (latestFailed committed))

def beginRefresh (taskId : String) : Except EvaError WriterGeneration := do
  RequestId.parse taskId
  beginWriterTransaction state fault store

def refreshFailed (taskId ioError : String) : EvaError :=
  (EvaError.internal "failed to atomically refresh latest task state")
    |>.withContext "task_id" taskId
    |>.withContext "io_error" ioError

/-- The record that the alias is rewritten from. -/
def prepareRefresh (taskId : String) : Except EvaError TaskStateSnapshot := do
  acquireRecordWriteLock state fault store
  let snapshot ← directory.read state fault (some taskId)
  failsAt fault .writeLatest (refreshFailed taskId)
  pure snapshot

def refreshLatest (taskId : String) :
    Option (TaskFiles format × Except EvaError TaskStateSnapshot) :=
  match beginRefresh state fault store taskId with
  | .error error => some (state, .error error)
  | .ok _ =>
      if state.pendingLatest.isSome then none
      else match prepareRefresh state fault store taskId with
        | .error error => some (state, .error error)
        | .ok snapshot =>
            some ({ state with
                files := (latestFileName, format.write snapshot) :: state.files },
              do
                failsAt fault .syncLatest (refreshFailed taskId)
                pure snapshot)

end TaskDirectory

/-! ## What the atomic parts do -/

/-- A proposed record that the store accepts over `current`. -/
structure Accepted (current : Option TaskStateSnapshot) (proposed : TaskStateSnapshot)
    (expected : StateVersion) (mode : TaskStateCommitMode) (generation : WriterGeneration)
    (committed : TaskStateSnapshot) : Prop where
  proposedValid : proposed.Valid
  committedValid : committed.Valid
  stamped : committed =
    { proposed with recordVersion := committed.recordVersion, ownerGeneration := generation }
  expectedVersion : (current.map (·.recordVersion)).getD 0 = expected
  nextVersion : committed.recordVersion.value = expected.value + 1
  createsOnly : mode = .create → current = none
  sameTask : ∀ record, current = some record → record.taskId = proposed.taskId
  sameGeneration : ∀ record, current = some record →
    record.ownerGeneration = proposed.ownerGeneration
  sameEnvelope : ∀ record, current = some record → record.envelope = proposed.envelope
  sameReplay : ∀ record, current = some record →
    record.replayDelivery = proposed.replayDelivery
  transition : ∀ record, current = some record → Transition record proposed mode

namespace TaskDirectory

variable {directory : TaskDirectory} {format : RecordFormat} {state : TaskFiles format}
  {store : FileSystemTaskStateStore directory}

/-! ### Reading -/

theorem readOptionalTaskSnapshot_eq_ok_iff :
    directory.readOptionalTaskSnapshot state fault name = .ok found ↔
      (∀ met ∈ fault, met.point ≠ .readRecord) ∧
        ((state.files.lookup name = none ∧ found = none) ∨
          ∃ data record, state.files.lookup name = some data ∧ format.read data = .ok record ∧
            found = some record) := by
  unfold readOptionalTaskSnapshot
  rw [seq_eq_ok_iff, failsAt_eq_ok_iff]
  have isOk (value : Option TaskStateSnapshot) :
      (pure value : Except EvaError _) = .ok found ↔ found = value :=
    pure_eq_ok_iff.trans eq_comm
  cases state.files.lookup name with
  | none => simp [isOk]
  | some data => cases parsed : format.read data <;> simp [isOk, parsed]

theorem readOptionalTaskSnapshot_eq_some_iff :
    directory.readOptionalTaskSnapshot state fault name = .ok (some record) ↔
      (∀ met ∈ fault, met.point ≠ .readRecord) ∧
        ∃ data, state.files.lookup name = some data ∧ format.read data = .ok record := by
  simp [readOptionalTaskSnapshot_eq_ok_iff]

theorem readTaskSnapshot_eq_ok_iff :
    directory.readTaskSnapshot state fault name = .ok record ↔
      directory.readOptionalTaskSnapshot state fault name = .ok (some record) := by
  simp [readTaskSnapshot, bind_eq_ok_iff, orReject_eq_ok_iff]

theorem read_eq_ok_iff :
    directory.read state fault (some taskId) = .ok record ↔
      IsIdentifier taskId ∧ record.taskId = taskId ∧
        directory.readOptionalTaskSnapshot state fault (taskFileName taskId) =
          .ok (some record) := by
  have identified : RequestId.parse taskId = .ok () ↔ IsIdentifier taskId := validateId_eq_ok_iff
  simp only [read, taskPath, checkFileKey, bind_eq_ok_iff, exists_unit_iff, pure_eq_ok_iff,
    rejectIf_eq_ok_iff, not_not, readTaskSnapshot_eq_ok_iff, identified]
  constructor
  · rintro ⟨_, ⟨identified, rfl⟩, _, found, key, rfl⟩
    exact ⟨identified, key, found⟩
  · rintro ⟨identified, key, found⟩
    exact ⟨_, ⟨identified, rfl⟩, _, found, key, rfl⟩

theorem read_of_file (file : state.files.lookup (taskFileName record.taskId) = some data)
    (parsed : format.read data = .ok record) (identified : IsIdentifier record.taskId) :
    directory.read state none (some record.taskId) = .ok record :=
  read_eq_ok_iff.mpr ⟨identified, rfl, readOptionalTaskSnapshot_eq_some_iff.mpr
    ⟨nofun, data, file, parsed⟩⟩

theorem read_congr (same : after.files.lookup (taskFileName taskId) =
    state.files.lookup (taskFileName taskId)) :
    directory.read after fault (some taskId) = directory.read state fault (some taskId) := by
  simp only [read, taskPath, readTaskSnapshot, readOptionalTaskSnapshot]
  cases RequestId.parse taskId with
  | error error => rfl
  | ok =>
      simp only [ok_bind, pure, Except.pure]
      rw [same]

theorem fileStem_eq_some_iff :
    fileStem name extension = some stem ↔ stem ≠ [] ∧ name = stem ++ '.' :: extension := by
  simp only [fileStem, Option.bind_eq_bind, Option.bind_eq_some_iff, Text.stripPrefix_eq_some_iff]
  constructor
  · rintro ⟨reversed, split, _, proper, ⟨⟩⟩
    rw [List.reverse_eq_iff, List.reverse_append, List.reverse_reverse] at split
    exact ⟨by simpa using proper, split⟩
  · rintro ⟨proper, rfl⟩
    exact ⟨stem.reverse, by simp, (), by simp [guard, proper], by simp⟩

theorem toList_taskFileName : (taskFileName taskId).toList = taskId.toList ++ ".task".toList :=
  String.toList_append ..

theorem readRecord_eq_ok_iff :
    directory.readRecord state fault name = .ok record ↔
      record.taskId ≠ "" ∧ name = taskFileName record.taskId ∧
        directory.readOptionalTaskSnapshot state fault name = .ok (some record) := by
  rw [readOptionalTaskSnapshot_eq_some_iff]
  simp only [readRecord, checkFileKey, bind_eq_ok_iff, exists_unit_iff, orReject_eq_ok_iff,
    rejectIf_eq_ok_iff, not_not, pure_eq_ok_iff, failsAt_eq_ok_iff, mapError_eq_ok_iff,
    fileStem_eq_some_iff]
  constructor
  · rintro ⟨working, data, file, snapshot, parsed, stem, ⟨proper, named⟩, key, rfl⟩
    refine ⟨by simpa [key] using proper, ?_, working, data, file, parsed⟩
    apply String.toList_injective
    rw [toList_taskFileName, key, String.toList_ofList]
    exact named
  · rintro ⟨nonempty, rfl, working, data, file, parsed⟩
    exact ⟨working, data, file, record, parsed, record.taskId.toList,
      ⟨by simpa using nonempty, toList_taskFileName⟩, by simp, rfl⟩

/-! ### Committing -/

/-- The generation that an accepted commit is stamped with. -/
def currentGeneration (directory : TaskDirectory) (state : TaskFiles format) :
    WriterGeneration :=
  if directory.durableWriterRequired then state.writer.generation else 0

theorem beginWriterTransaction_eq_ok
    (begun : beginWriterTransaction state fault store = .ok generation) :
    generation = directory.currentGeneration state ∧
      ∀ writer, store.writer = some writer → generation = writer.generation := by
  unfold beginWriterTransaction at begun
  unfold currentGeneration
  cases owner : store.writer with
  | some writer =>
      simp only [owner, bind_eq_ok_iff, exists_unit_iff, pure_eq_ok_iff] at begun
      have durable : directory.durableWriterRequired = true := by
        by_contra legacy
        simp [store.unowned (by simpa using legacy)] at owner
      rw [if_pos durable, DurableWriterGuard.verifyCurrent_generation begun.2.1]
      refine ⟨begun.2.2.symm, fun other same => ?_⟩
      rw [← Option.some.inj same]
      exact begun.2.2.symm
  | none =>
      simp only [owner] at begun
      split at begun
      next => cases begun
      next legacy =>
          rw [if_neg legacy]
          exact ⟨(pure_eq_ok_iff.mp begun).symm, by simp⟩

theorem checkCurrent_eq_ok_iff :
    directory.checkCurrent current snapshot mode = .ok () ↔
      current.taskId = snapshot.taskId ∧
        current.ownerGeneration = snapshot.ownerGeneration ∧
        current.envelope = snapshot.envelope ∧
        current.replayDelivery = snapshot.replayDelivery ∧
        Transition current snapshot mode := by
  simp only [checkCurrent, checkFileKey, seq_eq_ok_iff, rejectIf_eq_ok_iff, not_not, not_or,
    validateTaskStateTransition_eq_ok_iff, and_assoc]

theorem prepareCommit_eq_ok (proposedValid : snapshot.Valid)
    (prepared : prepareCommit state fault store snapshot expected mode generation =
      .ok committed) :
    ∃ current,
      directory.readOptionalTaskSnapshot state fault (taskFileName snapshot.taskId) =
        .ok current ∧
      Accepted current snapshot expected mode generation committed := by
  simp only [prepareCommit, taskPath, bind_eq_ok_iff, exists_unit_iff, pure_eq_ok_iff,
    rejectIf_eq_ok_iff, StateVersion.checkedNext, orReject_eq_ok_iff] at prepared
  obtain ⟨-, name, ⟨-, rfl⟩, current, read, checked, creates, version, next, sum, valid, -,
    rfl⟩ := prepared
  have agrees : ∀ record, current = some record →
      directory.checkCurrent record snapshot mode = .ok () := by
    rintro record rfl
    exact checked
  refine ⟨current, read, ?_⟩
  have expectedVersion : (current.map (·.recordVersion)).getD 0 = expected := by
    simpa using version
  exact {
    proposedValid
    committedValid := TaskStateSnapshot.validate_eq_ok_iff.mp valid
    stamped := rfl
    expectedVersion
    nextVersion := by
      rw [← expectedVersion]
      exact Unsigned.checkedAdd_eq_some_iff.mp sum
    createsOnly := by
      cases current <;> simp_all [TaskStateCommitMode.createOnly]
    sameTask := fun record present => (checkCurrent_eq_ok_iff.mp (agrees record present)).1
    sameGeneration := fun record present =>
      (checkCurrent_eq_ok_iff.mp (agrees record present)).2.1
    sameEnvelope := fun record present =>
      (checkCurrent_eq_ok_iff.mp (agrees record present)).2.2.1
    sameReplay := fun record present =>
      (checkCurrent_eq_ok_iff.mp (agrees record present)).2.2.2.1
    transition := fun record present =>
      (checkCurrent_eq_ok_iff.mp (agrees record present)).2.2.2.2 }

theorem commitCanonical_cases
    (performed : commitCanonical state fault store snapshot expected mode =
      some (after, response)) :
    (∃ error, response = .error error ∧ after = state) ∨
      ∃ committed current, response = .ok committed ∧ state.pendingLatest = none ∧
        directory.readOptionalTaskSnapshot state fault (taskFileName snapshot.taskId) =
          .ok current ∧
        Accepted current snapshot expected mode (directory.currentGeneration state)
          committed ∧
        (∀ writer, store.writer = some writer →
          directory.currentGeneration state = writer.generation) ∧
        after = { state with
          files := (taskFileName snapshot.taskId, format.write committed) :: state.files
          pendingLatest := some (format.write committed) } := by
  unfold commitCanonical at performed
  split at performed
  next error begun =>
      cases performed
      exact .inl ⟨error, rfl, rfl⟩
  next generation begun =>
      split at performed
      next => cases performed
      next unlocked =>
          split at performed
          next error prepared =>
              cases performed
              exact .inl ⟨error, rfl, rfl⟩
          next committed prepared =>
              cases performed
              simp only [beginCommit, seq_eq_ok_iff,
                TaskStateSnapshot.validate_eq_ok_iff] at begun
              obtain ⟨rfl, owned⟩ := beginWriterTransaction_eq_ok begun.2.2
              obtain ⟨current, read, accepted⟩ := prepareCommit_eq_ok begun.1 prepared
              exact .inr ⟨committed, current, rfl, by simpa using unlocked, read, accepted, owned,
                rfl⟩

theorem refreshLatest_cases
    (performed : refreshLatest state fault store taskId = some (after, response)) :
    (∃ error, response = .error error ∧ after = state) ∨
      ∃ snapshot, (∀ record, response = .ok record → record = snapshot) ∧
        state.pendingLatest = none ∧
        directory.read state fault (some taskId) = .ok snapshot ∧
        (∀ writer, store.writer = some writer →
          directory.currentGeneration state = writer.generation) ∧
        after = { state with
          files := (latestFileName, format.write snapshot) :: state.files } := by
  unfold refreshLatest at performed
  split at performed
  next error begun =>
      cases performed
      exact .inl ⟨error, rfl, rfl⟩
  next generation begun =>
      split at performed
      next => cases performed
      next unlocked =>
          split at performed
          next error prepared =>
              cases performed
              exact .inl ⟨error, rfl, rfl⟩
          next snapshot prepared =>
              cases performed
              simp only [beginRefresh, seq_eq_ok_iff] at begun
              obtain ⟨rfl, owned⟩ := beginWriterTransaction_eq_ok begun.2
              simp only [prepareRefresh, bind_eq_ok_iff, exists_unit_iff, pure_eq_ok_iff]
                at prepared
              obtain ⟨-, record, read, -, rfl⟩ := prepared
              refine .inr ⟨record, fun answer answered => ?_, by simpa using unlocked, read, owned,
                rfl⟩
              simp only [bind_eq_ok_iff, pure_eq_ok_iff] at answered
              exact answered.choose_spec.2.symm

theorem writeLatest_cases
    (performed : directory.writeLatest state fault committed = some (after, response)) :
    ∃ data, state.pendingLatest = some data ∧
      ((∃ error, response = .error error ∧ after = { state with pendingLatest := none }) ∨
        (directory.prepareLatest fault committed = .ok () ∧ after = { state with
          files := (latestFileName, data) :: state.files
          pendingLatest := none })) := by
  unfold writeLatest at performed
  split at performed
  next => cases performed
  next data held =>
      refine ⟨data, held, ?_⟩
      split at performed <;> simp only [Option.some.injEq, Prod.mk.injEq] at performed
      next error failed => exact .inl ⟨error, performed.2.symm, performed.1.symm⟩
      next prepared => exact .inr ⟨prepared, performed.1.symm⟩

end TaskDirectory

end Eva.Storage
