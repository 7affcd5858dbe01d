import Eva.Storage.TaskState.Readability

/-! # Isolation of tasks

Every task has a file of its own, and a call on a task writes only that file and
the alias. Other tasks are not affected, except the one whose file has the name
of the alias. A list of all tasks needs every record to read back.
-/

namespace Eva.Storage

variable {directory : TaskDirectory} {format : RecordFormat}

/-- An error kind or message that is there is not empty. -/
def TaskStateSnapshot.Classified (record : TaskStateSnapshot) : Prop :=
  record.errorKind ≠ some "" ∧ record.errorMessage ≠ some ""

namespace TaskStateSnapshot

theorem classified_of_none {record : TaskStateSnapshot} (kind : record.errorKind = none)
    (message : record.errorMessage = none) : record.Classified := by
  simp [Classified, kind, message]

end TaskStateSnapshot

/-- The call brings in no record, and no error, that does not read back as a valid record. -/
def StoreOperation.Legible : StoreOperation → Prop
  | command (.finishExecution _ (.failed errorKind errorMessage _)) =>
      errorKind ≠ "" ∧ errorMessage ≠ ""
  | updateSnapshot _ update =>
      ∀ current changed, update current = .ok changed → changed.Valid → changed.stored.Valid
  | create snapshot | compareAndSet snapshot => snapshot.Valid → snapshot.stored.Valid
  | _ => True

theorem requestCancel_classified (classified : current.Classified) (reason : String) :
    (TaskStateSnapshot.requestCancel current reason).Classified := by
  unfold TaskStateSnapshot.requestCancel
  split <;> exact classified

theorem CommandStep.classified (step : CommandStep store current command candidate)
    (classified : current.Classified) (legible : (StoreOperation.command command).Legible) :
    candidate.Classified := by
  have cleared {record : TaskStateSnapshot} := @TaskStateSnapshot.classified_of_none record
  cases step with
  | finish fenced running applied =>
      have shape := (applyTaskAttemptOutcome_eq_ok applied).2
      split at shape <;> subst shape
      next => exact cleared rfl rfl
      next =>
          exact ⟨fun same => legible.1 (Option.some.inj same),
            fun same => legible.2 (Option.some.inj same)⟩
      next =>
          exact ⟨fun same => absurd (Option.some.inj same) (by decide),
            fun same => absurd (Option.some.inj same) (by decide)⟩
  | finishCommitted => exact cleared rfl rfl
  | schedule | heartbeat => exact classified
  | cancelFenced => exact requestCancel_classified classified _
  | cancel =>
      unfold CasOperation.cancellationCandidate
      split
      · exact cleared rfl rfl
      · exact requestCancel_classified classified _
  | _ => exact cleared rfl rfl

/-- What an action of a call on a task does to the files, with the record it commits. A
record is replaced by a commit only if it could be read. -/
inductive Touches (taskId : String) (aliased : Prop) (before : TaskFiles format) :
    TaskFiles format → Option TaskStateSnapshot → Prop where
  | nothing {pendingLatest} : Touches taskId aliased before { before with pendingLatest } none
  | latest {data pendingLatest} (replaces : aliased) :
      Touches taskId aliased before
        { before with files := (latestFileName, data) :: before.files, pendingLatest } none
  | record {committed : TaskStateSnapshot} {pendingLatest} (named : committed.taskId = taskId)
      (valid : committed.Valid) (numbered : committed.recordVersion ≠ 0)
      (replaced : ∀ data, before.files.lookup (taskFileName taskId) = some data →
        ∃ record, format.read data = .ok record ∧ record.taskId = taskId) :
      Touches taskId aliased before
        { before with
          files := (taskFileName taskId, format.write committed) :: before.files
          pendingLatest } (some committed)

section Steps

end Steps

/-! ## What other tasks see -/

namespace Touches

theorem lookup (touches : Touches taskId aliased before after made)
    (notTask : name ≠ taskFileName taskId) (notAlias : aliased → name ≠ latestFileName) :
    after.files.lookup name = before.files.lookup name := by
  cases touches with
  | nothing => rfl
  | latest replaces => rw [List.lookup_cons, beq_false_of_ne (notAlias replaces)]
  | record => rw [List.lookup_cons, beq_false_of_ne notTask]

theorem writer (touches : Touches taskId aliased before after made) :
    after.writer = before.writer := by
  cases touches <;> rfl

theorem lookup_other (touches : Touches taskId aliased before after made)
    (distinct : taskId ≠ other) (spared : other = "latest-basic" → ¬aliased) :
    after.files.lookup (taskFileName other) = before.files.lookup (taskFileName other) :=
  touches.lookup (fun same => distinct (taskFileName_injective same).symm)
    fun replaces same => spared (taskFileName_injective same) replaces

/-! ### Reading -/

theorem read (touches : Touches taskId aliased before after made) (distinct : taskId ≠ other)
    (spared : other = "latest-basic" → ¬aliased) (fault : Option IoFault) :
    directory.read after fault (some other) = directory.read before fault (some other) := by
  exact TaskDirectory.read_congr (touches.lookup_other distinct spared)

end Touches

/-! ### Creating -/

namespace Touches

end Touches

/-! ### Listing -/

section Listing

variable {state : TaskFiles format} {environment : StoreEnvironment}
  {store : FileSystemTaskStateStore directory} {record : TaskStateSnapshot} {fault : Option IoFault}
  {name : String}

def TaskDirectory.listing (directory : TaskDirectory) (state : TaskFiles format)
    (fault : Option IoFault) : Except EvaError (List TaskStateSnapshot) := do
  let names ← directory.taskFileNames state fault
  names.mapM (directory.readRecord state fault)

theorem mem_taskFileNames (listed : directory.taskFileNames state fault = .ok names) :
    name ∈ names ↔ name ∈ state.files.map Prod.fst ∧ name ≠ latestFileName ∧
      (TaskDirectory.fileStem name.toList "task".toList).isSome := by
  simp only [TaskDirectory.taskFileNames, seq_eq_ok_iff, pure_eq_ok_iff] at listed
  obtain ⟨-, -, rfl⟩ := listed
  simp only [List.mem_mergeSort, List.mem_filter, List.mem_dedup, Bool.and_eq_true,
    decide_eq_true_eq]

theorem taskFileNames_ok
    (listed : directory.taskFileNames state fault = .ok names) (other : TaskFiles format) :
    ∃ names, directory.taskFileNames other fault = .ok names := by
  simp only [TaskDirectory.taskFileNames, seq_eq_ok_iff] at listed ⊢
  exact ⟨_, listed.1, listed.2.1, rfl⟩

end Listing

namespace Touches

variable {after : TaskFiles format} {store : FileSystemTaskStateStore directory}
  {record : TaskStateSnapshot}

private theorem readRecord (touches : Touches taskId aliased before after made)
    (notTask : name ≠ taskFileName taskId) (notAlias : name ≠ latestFileName) :
    directory.readRecord after fault name = directory.readRecord before fault name := by
  unfold TaskDirectory.readRecord
  rw [touches.lookup notTask fun _ => notAlias]

end Touches

/-! ## Runs -/

section Runs

variable {writer : WriterFiles} {later earlier : List (taskStore directory .text).Event}
  {act : (taskStore directory .text).Act}
  {configuration : (taskStore directory .text).Configuration} {taskId other : String}

end Runs

end Eva.Storage
