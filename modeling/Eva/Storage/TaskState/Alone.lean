import Eva.Foundation.Solo
import Eva.Storage.TaskState.Normal
import Eva.Storage.TaskState.Undisturbed

/-! # Calls on their own

What a call does to the records while nobody else changes the directory, wherever a
system call fails and wherever the call is stopped.
-/

namespace Eva.Storage

variable {directory : TaskDirectory} {format : RecordFormat}

/-- A format whose records are their own stored form once they were read. -/
structure RecordFormat.Normal (format : RecordFormat) : Prop extends format.Faithful where
  read_normal : ∀ data snapshot, format.read data = .ok snapshot →
    snapshot.Valid ∧ snapshot.stored = snapshot

theorem RecordFormat.text_normal : RecordFormat.text.Normal where
  toFaithful := RecordFormat.text_faithful
  read_normal _ _ := TaskStateSnapshot.stored_of_fromStorage

theorem TaskStateSnapshot.stored_restamp (snapshot : TaskStateSnapshot)
    (recordVersion : StateVersion) (ownerGeneration : WriterGeneration) :
    { snapshot with recordVersion, ownerGeneration }.stored =
      { snapshot.stored with recordVersion, ownerGeneration } := rfl

/-! ## Records in a directory -/

/-- Nothing but the alias and the lock may differ. -/
structure TaskFiles.SameRecords (before after : TaskFiles format) : Prop where
  writer : after.writer = before.writer
  files : ∀ name, name ≠ latestFileName → after.files.lookup name = before.files.lookup name

def TaskFiles.put (state : TaskFiles format) (committed : TaskStateSnapshot) :
    TaskFiles format :=
  { state with files := (taskFileName committed.taskId, format.write committed) :: state.files }

/-- The task does not have the file of the alias. -/
def HasOwnFile (taskId : String) : Prop := taskFileName taskId ≠ latestFileName

section Records

variable {before : TaskFiles format}

theorem TaskFiles.SameRecords.refl (state : TaskFiles format) : state.SameRecords state :=
  ⟨rfl, fun _ _ => rfl⟩

theorem TaskFiles.SameRecords.trans (first : before.SameRecords middle)
    (second : middle.SameRecords after) : before.SameRecords after :=
  ⟨second.writer.trans first.writer,
    fun name other => (second.files name other).trans (first.files name other)⟩

theorem readOptional_of_fault
    (read : directory.readOptionalTaskSnapshot before fault name = .ok found) :
    directory.readOptionalTaskSnapshot before none name = .ok found := by
  rw [TaskDirectory.readOptionalTaskSnapshot_eq_ok_iff] at read ⊢
  exact ⟨nofun, read.2⟩

theorem read_of_fault (read : directory.read before fault (some taskId) = .ok record) :
    directory.read before none (some taskId) = .ok record := by
  rw [TaskDirectory.read_eq_ok_iff] at read ⊢
  exact ⟨read.1, read.2.1, readOptional_of_fault read.2.2⟩

theorem TaskFiles.SameRecords.read (same : before.SameRecords after) (own : HasOwnFile taskId) :
    directory.read after fault (some taskId) = directory.read before fault (some taskId) :=
  TaskDirectory.read_congr (same.files _ own)

theorem TaskFiles.SameRecords.put (same : before.SameRecords after)
    (committed : TaskStateSnapshot) : (before.put committed).SameRecords (after.put committed) := by
  refine ⟨same.writer, fun name other => ?_⟩
  simp only [TaskFiles.put, List.lookup_cons, same.files name other]

theorem read_put (faithful : format.Faithful) (valid : record.Valid)
    (normal : record.stored = record) (committed : record.recordVersion ≠ 0) :
    directory.read (before.put record) none (some record.taskId) = .ok record := by
  have parsed : format.read (format.write record) = .ok record := by
    rw [faithful.read_write record valid committed, normal]
    exact TaskStateSnapshot.validated_eq_ok_iff.mpr ⟨valid, rfl⟩
  exact TaskDirectory.read_of_file List.lookup_cons_self parsed valid.identified

end Records

/-! ## Commits -/

abbrev StoreProgram.Reaches {Result : Type} (before : TaskFiles format)
    (program : StoreProgram directory Result) (after : TaskFiles format)
    (rest : StoreProgram directory Result) : Prop :=
  Program.Reaches (@StoreAction.perform directory format) before program after rest

/-- The store has accepted the proposal of its current writer. -/
structure Commits (store : FileSystemTaskStateStore directory) (before : TaskFiles format)
    (current : Option TaskStateSnapshot) (proposed : TaskStateSnapshot)
    (expected : StateVersion) (mode : TaskStateCommitMode) (committed : TaskStateSnapshot) :
    Prop where
  accepted : Accepted current proposed expected mode (directory.currentGeneration before)
    committed
  owned : ∀ writer, store.writer = some writer →
    directory.currentGeneration before = writer.generation

section Commits

variable {store : FileSystemTaskStateStore directory} {after : TaskFiles format}

theorem commitSnapshot_reaches
    (reaches : StoreProgram.Reaches before (store.commitSnapshot proposed expected mode) after
      rest) :
    (before.SameRecords after ∧ ∀ result, rest ≠ .done (.ok result)) ∨
      ∃ current committed,
        directory.readOptionalTaskSnapshot before none (taskFileName proposed.taskId) =
          .ok current ∧
        Commits store before current proposed expected mode committed ∧
        (before.put committed).SameRecords after ∧
        ∀ result, rest = .done (.ok result) → result = committed := by
  rcases Program.Reaches.step_cases reaches with
    ⟨rfl, rfl⟩ | ⟨environment, middle, response, performed, tail⟩
  · exact .inl ⟨.refl _, fun _ => Program.step_ne_done⟩
  rcases TaskDirectory.commitCanonical_cases performed with
    ⟨error, rfl, rfl⟩ | ⟨committed, current, rfl, -, read, accepted, owned, rfl⟩
  · obtain ⟨rfl, rfl⟩ := Program.Reaches.done tail
    exact .inl ⟨.refl _, fun _ => Program.done_ne_done nofun⟩
  have named : proposed.taskId = committed.taskId := by rw [accepted.stamped]
  have canonical : (before.put committed).SameRecords { before with
      files := (taskFileName proposed.taskId, format.write committed) :: before.files
      pendingLatest := some (format.write committed) } := by
    rw [named]
    exact ⟨rfl, fun _ _ => rfl⟩
  refine .inr ⟨current, committed, readOptional_of_fault read, ⟨accepted, owned⟩, ?_⟩
  rcases Program.Reaches.step_cases tail with
    ⟨rfl, rfl⟩ | ⟨environment, last, response, performed, tail⟩
  · exact ⟨canonical, fun _ ended => absurd ended Program.step_ne_done⟩
  simp only [StoreAction.perform] at performed
  obtain ⟨data, held, result⟩ := TaskDirectory.writeLatest_cases performed
  rcases result with ⟨error, rfl, rfl⟩ | ⟨-, written⟩
  · obtain ⟨rfl, rfl⟩ := Program.Reaches.done tail
    exact ⟨canonical.trans ⟨rfl, fun _ _ => rfl⟩,
      fun _ ended => absurd ended (Program.done_ne_done nofun)⟩
  · have replaced : (before.put committed).SameRecords last := by
      rw [written]
      refine canonical.trans ⟨rfl, fun name other => ?_⟩
      rw [List.lookup_cons, beq_false_of_ne other]
    cases response with
    | error error =>
        obtain ⟨rfl, rfl⟩ := Program.Reaches.done tail
        exact ⟨replaced, fun _ ended => absurd ended (Program.done_ne_done nofun)⟩
    | ok =>
        obtain ⟨rfl, rfl⟩ := Program.Reaches.done tail
        refine ⟨replaced, ?_⟩
        rintro result ⟨⟩
        rfl

theorem refreshLatest_sameRecords
    (performed : TaskDirectory.refreshLatest before fault store taskId = some (after, response)) :
    before.SameRecords after ∧ ∀ record, response = .ok record →
      directory.read before none (some taskId) = .ok record := by
  rcases TaskDirectory.refreshLatest_cases performed with
    ⟨error, rfl, rfl⟩ | ⟨snapshot, same, -, read, -, rfl⟩
  · refine ⟨.refl _, ?_⟩
    rintro record ⟨⟩
  · refine ⟨⟨rfl, fun name other => ?_⟩, fun record answered => ?_⟩
    · rw [List.lookup_cons, beq_false_of_ne other]
    · rw [same record answered]
      exact read_of_fault read

end Commits

/-! ## Loops -/

theorem read_reaches {next : Except EvaError TaskStateSnapshot → StoreProgram directory Result}
    {rest : StoreProgram directory Result}
    (reaches : StoreProgram.Reaches before (.step (.read (some taskId)) next) after rest)
    (read : directory.read before none (some taskId) = .ok record) :
    (after = before ∧ rest = .step (.read (some taskId)) next) ∨
      (∃ error, StoreProgram.Reaches before (next (.error error)) after rest) ∨
      StoreProgram.Reaches before (next (.ok record)) after rest := by
  rcases Program.Reaches.step_cases reaches with
    here | ⟨environment, middle, response, performed, tail⟩
  · exact .inl here
  cases performed
  cases found : directory.read before environment.fault (some taskId) with
  | error error =>
      rw [found] at tail
      exact .inr (.inl ⟨error, tail⟩)
  | ok current =>
      obtain rfl : current = record := Except.ok.inj ((read_of_fault found).symm.trans read)
      rw [found] at tail
      exact .inr (.inr tail)

namespace CasOperation

variable {store : FileSystemTaskStateStore directory} {operation : CasOperation}
  {before after : TaskFiles format} {record : TaskStateSnapshot}

/-- The loop leaves the record as it is. -/
def Settles (operation : CasOperation) (record : TaskStateSnapshot) : Prop :=
  operation.decide record = .ok .keep ∨ operation.decide record = .ok .refresh

theorem Settles.decided (settles : operation.Settles record) :
    ∃ decision, operation.decide record = .ok decision ∧
      ∀ proposed, decision ≠ .propose proposed := by
  rcases settles with kept | refreshed
  · refine ⟨.keep, kept, ?_⟩
    rintro proposed ⟨⟩
  · refine ⟨.refresh, refreshed, ?_⟩
    rintro proposed ⟨⟩

/-- What an iteration without a commit has led to. -/
structure Unchanged (before after : TaskFiles format) (record : TaskStateSnapshot)
    (goesOn settles : Prop)
    (rest : StoreProgram directory (Option (Except EvaError TaskStateSnapshot))) : Prop where
  records : before.SameRecords after
  again : rest = .done none → goesOn
  ended : ∀ result, rest = .done (some (.ok result)) → result = record ∧ settles

namespace Unchanged

theorem step {next} (same : before.SameRecords after) :
    Unchanged before after record goesOn settles (.step action next) :=
  ⟨same, fun ended => absurd ended Program.step_ne_done,
    fun _ ended => absurd ended Program.step_ne_done⟩

theorem failed (same : before.SameRecords after) :
    Unchanged before after record goesOn settles
      (.done (some (.error error)) : StoreProgram directory _) :=
  ⟨same, fun ended => absurd ended (Program.done_ne_done nofun),
    fun _ ended => absurd ended (Program.done_ne_done nofun)⟩

theorem kept (same : before.SameRecords after) (settled : settles) :
    Unchanged before after record goesOn settles
      (.done (some (.ok record)) : StoreProgram directory _) := by
  refine ⟨same, fun ended => absurd ended (Program.done_ne_done nofun), ?_⟩
  rintro result ⟨⟩
  exact ⟨rfl, settled⟩

end Unchanged

section Read

variable (read : directory.read before none (some operation.taskId) = .ok record)

include read

theorem finishByRefresh_reaches
    (reaches : StoreProgram.Reaches before (operation.finishByRefresh store) after rest)
    (settled : settles) : Unchanged before after record goesOn settles rest := by
  rcases Program.Reaches.step_cases reaches with
    ⟨rfl, rfl⟩ | ⟨environment, middle, response, performed, tail⟩
  · exact .step (.refl _)
  obtain ⟨rfl, rfl⟩ := Program.Reaches.done tail
  obtain ⟨same, found⟩ := refreshLatest_sameRecords performed
  cases response with
  | error error => exact .failed same
  | ok result =>
      obtain rfl : record = result := Except.ok.inj (read.symm.trans (found result rfl))
      exact .kept same settled

theorem attempt_reaches_settled
    (reaches : StoreProgram.Reaches before (operation.attempt store) after rest)
    (still : ∀ proposed, operation.decide record ≠ .ok (.propose proposed)) :
    Unchanged before after record False (operation.Settles record) rest := by
  rcases read_reaches reaches read with ⟨rfl, rfl⟩ | ⟨error, tail⟩ | tail
  · exact .step (.refl _)
  · obtain ⟨rfl, rfl⟩ := Program.Reaches.done tail
    exact .failed (.refl _)
  cases decided : operation.decide record with
  | error error =>
      simp only [decided] at tail
      obtain ⟨rfl, rfl⟩ := Program.Reaches.done tail
      exact .failed (.refl _)
  | ok decision =>
      simp only [decided] at tail
      cases decision with
      | keep =>
          obtain ⟨rfl, rfl⟩ := Program.Reaches.done tail
          exact .kept (.refl _) (.inl decided)
      | refresh => exact finishByRefresh_reaches read tail (.inr decided)
      | propose candidate => exact absurd decided (still candidate)

theorem afterConflictWith_reaches (reaches : StoreProgram.Reaches before
      (operation.afterConflictWith store candidate expectedVersion error) after rest) :
    Unchanged before after record (record.recordVersion ≠ expectedVersion)
      (record.recordVersion ≠ expectedVersion) rest := by
  rcases read_reaches reaches read with ⟨rfl, rfl⟩ | ⟨failure, tail⟩ | tail
  · exact .step (.refl _)
  · obtain ⟨rfl, rfl⟩ := Program.Reaches.done tail
    exact .failed (.refl _)
  dsimp only at tail
  split at tail
  next =>
      obtain ⟨rfl, rfl⟩ := Program.Reaches.done tail
      exact .failed (.refl _)
  next newer =>
      split at tail
      next =>
          obtain ⟨rfl, rfl⟩ := Program.Reaches.done tail
          exact .failed (.refl _)
      next =>
          obtain ⟨rfl, rfl⟩ := Program.Reaches.done tail
          exact .kept (.refl _) newer
      next => exact finishByRefresh_reaches read tail newer
      next =>
          obtain ⟨rfl, rfl⟩ := Program.Reaches.done tail
          exact ⟨.refl _, fun _ => newer, fun _ ended => absurd ended (Program.done_ne_done nofun)⟩

theorem repeat_reaches_settled {exhausted : EvaError}
    (reaches : StoreProgram.Reaches before
      (.repeatUntil (operation.attempt store) (.error exhausted) limit) after rest)
    (still : ∀ proposed, operation.decide record ≠ .ok (.propose proposed)) :
    before.SameRecords after ∧
      ∀ result, rest = .done (.ok result) → result = record ∧ operation.Settles record := by
  cases limit with
  | zero =>
      obtain ⟨rfl, rfl⟩ := Program.Reaches.done reaches
      exact ⟨.refl _, fun _ ended => absurd ended (Program.done_ne_done nofun)⟩
  | succ limit =>
      rcases Program.Reaches.bind_cases reaches with
        ⟨action, next, attempted, rfl⟩ | ⟨middle, result, attempted, tail⟩
      · exact ⟨(attempt_reaches_settled read attempted still).records,
          fun _ ended => absurd ended Program.step_ne_done⟩
      · have unchanged := attempt_reaches_settled read attempted still
        cases result with
        | none => exact absurd (unchanged.again rfl) id
        | some result =>
            obtain ⟨rfl, rfl⟩ := Program.Reaches.done tail
            refine ⟨unchanged.records, ?_⟩
            rintro final ⟨⟩
            exact unchanged.ended final rfl

end Read

def Changes (operation : CasOperation) (store : FileSystemTaskStateStore directory)
    (before : TaskFiles format) (record committed : TaskStateSnapshot) : Prop :=
  ∃ proposed, operation.decide record = .ok (.propose proposed) ∧
    Commits store before (some record) proposed proposed.recordVersion operation.mode committed

/-- A loop whose proposals keep the identity of the record and are not followed by others. -/
structure Single (operation : CasOperation) (store : FileSystemTaskStateStore directory)
    (before : TaskFiles format) (record : TaskStateSnapshot) : Prop where
  same : ∀ proposed, operation.decide record = .ok (.propose proposed) →
    SameRecord record proposed
  normal : ∀ proposed, operation.decide record = .ok (.propose proposed) →
    proposed.stored = proposed
  last : ∀ committed, operation.Changes store before record committed →
    ∀ again, operation.decide committed ≠ .ok (.propose again)

theorem Changes.read (faithful : format.Faithful) (single : operation.Single store before record)
    (named : record.taskId = operation.taskId)
    (changes : operation.Changes store before record committed) :
    committed.recordVersion ≠ record.recordVersion ∧
      directory.read (before.put committed) none (some operation.taskId) = .ok committed := by
  obtain ⟨proposed, decided, commits⟩ := changes
  have accepted := commits.accepted
  have task : committed.taskId = operation.taskId := by
    rw [accepted.stamped, ← named]
    exact (single.same proposed decided).2
  have normal : committed.stored = committed := by
    rw [accepted.stamped, TaskStateSnapshot.stored_restamp, single.normal proposed decided]
  have next := accepted.nextVersion
  rw [(single.same proposed decided).1] at next
  refine ⟨fun same => ?_, ?_⟩
  · rw [same] at next
    omega
  · rw [← task]
    exact read_put faithful accepted.committedValid normal (Unsigned.ne_zero_of_value next)

section Single

variable (faithful : format.Faithful) (own : HasOwnFile operation.taskId)
  (read : directory.read before none (some operation.taskId) = .ok record)
  (single : operation.Single store before record)

include faithful own read single

theorem attempt_reaches
    (reaches : StoreProgram.Reaches before (operation.attempt store) after rest) :
    Unchanged before after record False (operation.Settles record) rest ∨
      ∃ committed, operation.Changes store before record committed ∧
        Unchanged (before.put committed) after committed True True rest := by
  by_cases proposes : ∃ proposed, operation.decide record = .ok (.propose proposed)
  case neg =>
      refine .inl (attempt_reaches_settled read reaches fun proposed decided => ?_)
      exact proposes ⟨proposed, decided⟩
  obtain ⟨proposed, decided⟩ := proposes
  obtain ⟨-, named, found⟩ := TaskDirectory.read_eq_ok_iff.mp read
  rw [← named, ← (single.same proposed decided).2] at found
  rcases read_reaches reaches read with ⟨rfl, rfl⟩ | ⟨error, tail⟩ | tail
  · exact .inl (.step (.refl _))
  · obtain ⟨rfl, rfl⟩ := Program.Reaches.done tail
    exact .inl (.failed (.refl _))
  simp only [decided] at tail
  rcases Program.Reaches.bind_cases tail with
    ⟨action, next, commit, rfl⟩ | ⟨middle, result, commit, tail⟩
  · rcases commitSnapshot_reaches commit with
      ⟨kept, -⟩ | ⟨other, committed, reread, commits, written, -⟩
    · exact .inl (.step kept)
    · cases found.symm.trans reread
      exact .inr ⟨committed, ⟨proposed, decided, commits⟩, .step written⟩
  rcases commitSnapshot_reaches commit with
    ⟨kept, failed⟩ | ⟨other, committed, reread, commits, written, answered⟩
  · cases result with
    | ok result => exact absurd rfl (failed result)
    | error error =>
        -- Nothing was written, so the record still has the version that was expected.
        have present : directory.read middle none (some operation.taskId) = .ok record :=
          (kept.read own).trans read
        have stopped := afterConflictWith_reaches present tail
        exact .inl ⟨kept.trans stopped.records, fun goesOn => stopped.again goesOn rfl,
          fun result ended => absurd rfl (stopped.ended result ended).2⟩
  · cases found.symm.trans reread
    have changes : operation.Changes store before record committed := ⟨proposed, decided, commits⟩
    refine .inr ⟨committed, changes, ?_⟩
    cases result with
    | ok result =>
        obtain ⟨rfl, rfl⟩ := Program.Reaches.done tail
        obtain rfl := answered result rfl
        exact .kept written trivial
    | error error =>
        have present : directory.read middle none (some operation.taskId) = .ok committed :=
          (written.read own).trans (changes.read faithful single named).2
        have stopped := afterConflictWith_reaches present tail
        exact ⟨written.trans stopped.records, fun _ => trivial,
          fun result ended => ⟨(stopped.ended result ended).1, trivial⟩⟩

end Single

/-- A loop leaves the record alone or commits one proposal over it. -/
theorem run_reaches (faithful : format.Faithful) (own : HasOwnFile operation.taskId)
    (read : directory.read before none (some operation.taskId) = .ok record)
    (single : operation.Single store before record)
    (reaches : StoreProgram.Reaches before (operation.run store) after rest) :
    (before.SameRecords after ∧
        ∀ result, rest = .done (.ok result) → result = record ∧ operation.Settles record) ∨
      ∃ committed, operation.Changes store before record committed ∧
        (before.put committed).SameRecords after ∧
        ∀ result, rest = .done (.ok result) → result = committed := by
  rcases Program.Reaches.bind_cases reaches with
    ⟨action, next, attempted, rfl⟩ | ⟨middle, result, attempted, tail⟩
  · rcases attempt_reaches faithful own read single attempted with
      unchanged | ⟨committed, changes, written⟩
    · exact .inl ⟨unchanged.records, fun _ ended => absurd ended Program.step_ne_done⟩
    · exact .inr ⟨committed, changes, written.records,
        fun _ ended => absurd ended Program.step_ne_done⟩
  rcases attempt_reaches faithful own read single attempted with
    unchanged | ⟨committed, changes, written⟩
  · cases result with
    | none => exact absurd (unchanged.again rfl) id
    | some result =>
        obtain ⟨rfl, rfl⟩ := Program.Reaches.done tail
        refine .inl ⟨unchanged.records, ?_⟩
        rintro final ⟨⟩
        exact unchanged.ended final rfl
  · refine .inr ⟨committed, changes, ?_⟩
    cases result with
    | none =>
        have present : directory.read middle none (some operation.taskId) = .ok committed :=
          (written.records.read own).trans
            (changes.read faithful single (TaskDirectory.read_eq_ok_iff.mp read).2.1).2
        obtain ⟨kept, answered⟩ := repeat_reaches_settled present tail
          (single.last committed changes)
        exact ⟨written.records.trans kept, fun result ended => (answered result ended).1⟩
    | some result =>
        obtain ⟨rfl, rfl⟩ := Program.Reaches.done tail
        refine ⟨written.records, ?_⟩
        rintro final ⟨⟩
        exact (written.ended final rfl).1

end CasOperation

end Eva.Storage
