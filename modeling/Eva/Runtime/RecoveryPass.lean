import Eva.Runtime.RecoveryOutcome
import Eva.Storage.TaskState.Isolation

/-! # The recovery pass

The pass takes the listed records one after the other. What it does to one of them is
not undone or repeated by what it does to the rest.
-/

namespace Eva.Storage

variable {directory : TaskDirectory} {format : RecordFormat} {before : TaskFiles format}

/-! ## Listing on its own -/

theorem readRecord_of_fault (read : directory.readRecord before fault name = .ok record) :
    directory.readRecord before none name = .ok record := by
  rw [TaskDirectory.readRecord_eq_ok_iff] at read ⊢
  exact ⟨read.1, read.2.1, readOptional_of_fault read.2.2⟩

theorem readRecords_reaches
    {rest : StoreProgram directory (Except EvaError (List TaskStateSnapshot))}
    (reaches : StoreProgram.Reaches before (readRecords names) after rest) :
    after = before ∧ ∀ records, rest = .done (.ok records) →
      names.mapM (directory.readRecord before none) = .ok records := by
  induction names generalizing rest with
  | nil =>
      obtain ⟨rfl, rfl⟩ := Program.Reaches.done reaches
      refine ⟨rfl, ?_⟩
      rintro records ⟨⟩
      rfl
  | cons name names induction =>
      rcases Program.Reaches.step_cases reaches with
        ⟨rfl, rfl⟩ | ⟨environment, middle, response, performed, tail⟩
      · exact ⟨rfl, fun _ ended => absurd ended Program.step_ne_done⟩
      cases performed
      cases read : directory.readRecord before environment.fault name with
      | error error =>
          rw [read] at tail
          obtain ⟨rfl, rfl⟩ := Program.Reaches.done tail
          exact ⟨rfl, fun _ ended => absurd ended (Program.done_ne_done nofun)⟩
      | ok record =>
          rw [read] at tail
          rcases Program.Reaches.bind_cases tail with
            ⟨action, next, first, rfl⟩ | ⟨middle, result, first, last⟩
          · exact ⟨(induction first).1, fun _ ended => absurd ended Program.step_ne_done⟩
          · obtain ⟨rfl, rfl⟩ := Program.Reaches.done last
            obtain ⟨rfl, all⟩ := induction first
            refine ⟨rfl, fun records ended => ?_⟩
            cases result with
            | error error => cases ended
            | ok others =>
                cases ended
                rw [List.mapM_cons, readRecord_of_fault read, all others rfl]
                rfl

theorem listRecords_reaches
    {rest : StoreProgram directory (Except EvaError (List TaskStateSnapshot))}
    (reaches : StoreProgram.Reaches before listRecords after rest) :
    after = before ∧ ∀ records, rest = .done (.ok records) →
      directory.listing before none = .ok records := by
  rcases Program.Reaches.step_cases reaches with
    ⟨rfl, rfl⟩ | ⟨environment, middle, response, performed, tail⟩
  · exact ⟨rfl, fun _ ended => absurd ended Program.step_ne_done⟩
  cases performed
  cases found : directory.taskFileNames before environment.fault with
  | error error =>
      rw [found] at tail
      obtain ⟨rfl, rfl⟩ := Program.Reaches.done tail
      exact ⟨rfl, fun _ ended => absurd ended (Program.done_ne_done nofun)⟩
  | ok names =>
      rw [found] at tail
      obtain ⟨same, all⟩ := readRecords_reaches tail
      refine ⟨same, fun records ended => ?_⟩
      have listed : directory.taskFileNames before none = .ok names := by
        simp only [TaskDirectory.taskFileNames, seq_eq_ok_iff] at found ⊢
        exact ⟨rfl, rfl, found.2.2⟩
      rw [TaskDirectory.listing, listed]
      exact all records ended

/-! ## What is listed -/

variable {records : List TaskStateSnapshot} {record : TaskStateSnapshot}

private theorem names_of_mapM (all : names.mapM (directory.readRecord before none) = .ok records) :
    names = records.map (taskFileName ·.taskId) ∧
      ∀ record ∈ records,
        directory.readRecord before none (taskFileName record.taskId) = .ok record := by
  induction names generalizing records with
  | nil =>
      cases all
      exact ⟨rfl, fun _ member => absurd member List.not_mem_nil⟩
  | cons name names induction =>
      rw [List.mapM_cons] at all
      simp only [bind_eq_ok_iff, pure_eq_ok_iff] at all
      obtain ⟨record, read, others, rest, rfl⟩ := all
      obtain ⟨rfl, each⟩ := induction rest
      obtain ⟨-, rfl, -⟩ := TaskDirectory.readRecord_eq_ok_iff.mp read
      refine ⟨rfl, fun found member => ?_⟩
      rcases List.mem_cons.mp member with rfl | member
      · exact read
      · exact each found member

/-- The listing holds the readable records of the tasks that have a file of their own. -/
structure ListsAll (directory : TaskDirectory) (before : TaskFiles format)
    (records : List TaskStateSnapshot) : Prop where
  names : directory.taskFileNames before none = .ok (records.map (taskFileName ·.taskId))
  distinct : (records.map (·.taskId)).Nodup
  own : ∀ record ∈ records, HasOwnFile record.taskId
  read : ∀ record ∈ records, directory.read before none (some record.taskId) = .ok record
  normal : ∀ record ∈ records, record.Valid ∧ record.Storable

theorem listing_eq_ok (normal : format.Normal)
    (listed : directory.listing before none = .ok records) :
    ListsAll directory before records := by
  simp only [TaskDirectory.listing, bind_eq_ok_iff] at listed
  obtain ⟨names, found, all⟩ := listed
  obtain ⟨rfl, each⟩ := names_of_mapM all
  have parsed (record : TaskStateSnapshot) (member : record ∈ records) :
      ∃ data, before.files.lookup (taskFileName record.taskId) = some data ∧
        format.read data = .ok record := by
    obtain ⟨-, -, found⟩ := TaskDirectory.readRecord_eq_ok_iff.mp (each record member)
    exact (TaskDirectory.readOptionalTaskSnapshot_eq_some_iff.mp found).2
  have valid (record : TaskStateSnapshot) (member : record ∈ records) :
      record.Valid ∧ record.Storable := by
    obtain ⟨data, -, read⟩ := parsed record member
    obtain ⟨valid, same⟩ := normal.read_normal data record read
    exact ⟨valid, TaskStateSnapshot.stored_eq_self_iff.mp same⟩
  refine ⟨found, ?_, fun record member => ?_, fun record member => ?_, valid⟩
  · have unique : (records.map (taskFileName ·.taskId)).Nodup := by
      simp only [TaskDirectory.taskFileNames, seq_eq_ok_iff, pure_eq_ok_iff] at found
      rw [← found.2.2]
      exact (List.mergeSort_perm _ _).nodup_iff.mpr ((List.nodup_dedup _).filter _)
    apply List.Nodup.of_map taskFileName
    rw [List.map_map]
    exact unique
  · exact ((mem_taskFileNames found).mp (List.mem_map_of_mem member)).2.1
  · obtain ⟨data, file, read⟩ := parsed record member
    exact TaskDirectory.read_of_file file read (valid record member).1.identified

theorem ListsAll.mem (all : ListsAll directory tasks records) (own : HasOwnFile taskId)
    (read : directory.read tasks none (some taskId) = .ok record) : record ∈ records := by
  obtain ⟨identified, named, found⟩ := TaskDirectory.read_eq_ok_iff.mp read
  have held : taskFileName taskId ∈ tasks.files.map Prod.fst := by
    obtain ⟨-, data, file, -⟩ := TaskDirectory.readOptionalTaskSnapshot_eq_some_iff.mp found
    by_contra missing
    cases (Fields.lookup_eq_none_iff.mpr missing).symm.trans file
  have listed : taskFileName taskId ∈ records.map (taskFileName ·.taskId) :=
    (mem_taskFileNames all.names).mpr ⟨held, own, Option.isSome_iff_exists.mpr
      ⟨taskId.toList, TaskDirectory.fileStem_eq_some_iff.mpr
        ⟨by simpa using identified.nonempty, TaskDirectory.toList_taskFileName⟩⟩⟩
  obtain ⟨other, member, same⟩ := List.mem_map.mp listed
  have reread := all.read other member
  rw [taskFileName_injective same, read] at reread
  cases reread
  exact member

end Eva.Storage

namespace Eva.Runtime

open Storage

variable {directory : TaskDirectory} {outside : Outside} {format : RecordFormat}
  {store : FileSystemTaskStateStore directory} {handlers : TaskHandlerRegistry}
  {before after : RuntimeFiles format} {record : TaskStateSnapshot}

/-! ## One record among others -/

theorem RecoveryStep.storable
    (step : RecoveryStep store record standing candidate) (storable : record.Storable) :
    candidate.Storable := by
  cases step with
  | queued log => exact storable.abandonedQueued log
  | ineligible | unregistered => exact storable.markInterrupted (by decide)
  | baseline => exact { storable with }
  | blocked => exact storable.blockedByEffect _
  | completed => exact TaskStateSnapshot.completedFromEffect_storable storable

theorem RecoveryStep.taskId_eq
    (step : RecoveryStep store record standing candidate) : candidate.taskId = record.taskId := by
  cases step <;> rfl

/-- A record that the pass commits is read back in the place of the old one. -/
theorem CommitsStep.read (faithful : format.Faithful) (storable : record.Storable)
    {standing : Standing} {committed : TaskStateSnapshot} {tasks : TaskFiles format}
    (step : CommitsStep store record standing committed) :
    committed.taskId = record.taskId ∧ committed.Storable ∧
      directory.read (tasks.put committed) none (some record.taskId) = .ok committed := by
  obtain ⟨candidate, change, stamps⟩ := step
  have named : committed.taskId = record.taskId := by
    rw [stamps.stamped]
    exact change.taskId_eq
  have kept : committed.Storable := by
    rw [stamps.stamped]
    exact (change.storable storable).restamp _ _
  refine ⟨named, kept, ?_⟩
  rw [← named]
  exact read_put faithful stamps.valid (TaskStateSnapshot.stored_eq_self_iff.mpr kept)
    (Unsigned.ne_zero_of_value stamps.newer)

/-- Where the pass has brought the record. If the pass is `complete`, a record that was
kept is settled. -/
def Arrives (store : FileSystemTaskStateStore directory) (handlers : TaskHandlerRegistry)
    (root : String) (effects : EffectFiles) (after : RuntimeFiles format) (complete : Prop)
    (record : TaskStateSnapshot) : Prop :=
  ∃ final, directory.read after.tasks none (some record.taskId) = .ok final ∧
    ((final = record ∧ (complete → IsSettled handlers root effects record)) ∨
      Recovers store handlers root effects record final)

/-- The files after a part of the pass. -/
structure Passes (store : FileSystemTaskStateStore directory) (handlers : TaskHandlerRegistry)
    (root : String) (before after : RuntimeFiles format) (complete : Prop)
    (records : List TaskStateSnapshot) : Prop where
  effects : after.effects = before.effects
  others : ∀ name, name ≠ latestFileName →
    (∀ record ∈ records, name ≠ taskFileName record.taskId) →
    after.tasks.files.lookup name = before.tasks.files.lookup name
  arrives : ∀ record ∈ records,
    Arrives store handlers root before.effects after complete record

theorem Progress.passes (faithful : format.Faithful) (listed : Listed directory before record)
    {complete : Prop} {answers : TaskStateSnapshot → Prop}
    (answered : complete → ∃ result, answers result)
    (effects : after.effects = before.effects)
    (progress : Progress before.tasks after.tasks record
      (Recovers store handlers root before.effects record)
      (IsSettled handlers root before.effects record) answers) :
    Passes store handlers root before after complete [record] := by
  cases progress with
  | kept same ended =>
      refine ⟨effects, fun name other _ => same.files name other, fun found member => ?_⟩
      obtain rfl := List.mem_singleton.mp member
      refine ⟨found, (same.read listed.own).trans listed.read, .inl ⟨rfl, fun finished => ?_⟩⟩
      obtain ⟨result, answer⟩ := answered finished
      exact (ended result answer).2
  | @changed committed step written ended =>
      obtain ⟨standing, stands, commits⟩ := step
      obtain ⟨named, -, read⟩ :=
        @CommitsStep.read directory format store record faithful listed.storable standing committed
          before.tasks commits
      refine ⟨effects, fun name other distinct => ?_, fun found member => ?_⟩
      · have different : name ≠ taskFileName committed.taskId := by
          rw [named]
          exact distinct record (List.mem_singleton_self record)
        rw [written.files name other, TaskFiles.put, List.lookup_cons, beq_false_of_ne different]
      · obtain rfl := List.mem_singleton.mp member
        exact ⟨committed, (written.read listed.own).trans read, .inr ⟨standing, stands, commits⟩⟩

theorem Passes.append (head : Passes store handlers root before middle partly first)
    (tail : Passes store handlers root middle after complete second)
    (finished : complete → partly)
    (own : ∀ record ∈ first, HasOwnFile record.taskId)
    (distinct : ∀ left ∈ first, ∀ right ∈ second, left.taskId ≠ right.taskId) :
    Passes store handlers root before after complete (first ++ second) where
  effects := tail.effects.trans head.effects
  others name other each := by
    rw [tail.others name other fun record member => each record (List.mem_append_right _ member),
      head.others name other fun record member => each record (List.mem_append_left _ member)]
  arrives record member := by
    rcases List.mem_append.mp member with member | member
    · obtain ⟨final, read, arrived⟩ := head.arrives record member
      refine ⟨final, ?_, arrived.imp_left fun kept => ⟨kept.1, fun all => kept.2 (finished all)⟩⟩
      rw [← read]
      refine TaskDirectory.read_congr (tail.others _ (own record member) fun other found same => ?_)
      exact distinct record member other found (taskFileName_injective same)
    · have arrived := tail.arrives record member
      rw [head.effects] at arrived
      exact arrived

theorem Passes.unreached (unfinished : ¬complete)
    (listed : ∀ record ∈ records, Listed directory before record) :
    Passes store handlers root before before complete records where
  effects := rfl
  others _ _ _ := rfl
  arrives record member :=
    ⟨record, (listed record member).read, .inl ⟨rfl, fun finished => absurd finished unfinished⟩⟩

theorem Passes.listed {first second : List TaskStateSnapshot}
    (head : Passes store handlers root before after complete first)
    (distinct : ∀ left ∈ first, ∀ right ∈ second, left.taskId ≠ right.taskId)
    (listed : ∀ record ∈ second, Listed directory before record) :
    ∀ record ∈ second, Listed directory after record := by
  intro record member
  have held := listed record member
  refine { held with read := ?_ }
  rw [← held.read]
  refine TaskDirectory.read_congr (head.others _ held.own fun other found same => ?_)
  exact distinct other found record member (taskFileName_injective same).symm

/-! ## The pass -/

/-- The program has returned a report. -/
def Completes {Result : Type}
    (rest : RuntimeProgram directory outside (Except EvaError Result)) : Prop :=
  ∃ result, rest = .done (.ok result)

theorem recoverEachTask_passes (faithful : format.Faithful)
    {rest : RuntimeProgram directory outside (Except EvaError RuntimeRecoveryReport)}
    (listed : ∀ record ∈ records, Listed directory before record)
    (distinct : (records.map (·.taskId)).Nodup)
    (reaches : Reaches before (recoverEachTask store handlers effectLedger report records) after
      rest) :
    Passes store handlers effectLedger.root before after (Completes rest) records := by
  induction records generalizing before report with
  | nil =>
      obtain ⟨rfl, rfl⟩ := Program.Reaches.done reaches
      exact ⟨rfl, fun _ _ _ => rfl, fun _ member => absurd member List.not_mem_nil⟩
  | cons record records induction =>
      have unique := List.nodup_cons.mp distinct
      have apart : ∀ left ∈ [record], ∀ right ∈ records, left.taskId ≠ right.taskId := by
        intro left first right second same
        obtain rfl := List.mem_singleton.mp first
        exact unique.1 (List.mem_map.mpr ⟨right, second, same.symm⟩)
      have here := listed record List.mem_cons_self
      have later : ∀ record ∈ records, Listed directory before record :=
        fun other member => listed other (List.mem_cons_of_mem _ member)
      have owned : ∀ other ∈ [record], HasOwnFile other.taskId := by
        intro other member
        obtain rfl := List.mem_singleton.mp member
        exact here.own
      have handles := @recoverEffectAwareTask_handles directory outside format store handlers
        effectLedger before record faithful here
      rcases Program.Reaches.bind_cases reaches with
        ⟨action, next, first, rfl⟩ | ⟨middle, result, first, tail⟩
      -- Stopped at this record, the pass has not reached the later ones.
      · obtain ⟨effects, progress⟩ := handles _ _ _ ⟨.refl _, rfl⟩ first
        have head : Passes store handlers effectLedger.root before after False [record] :=
          Progress.passes faithful here False.elim effects progress
        refine head.append (Passes.unreached ?_ (head.listed apart later)) ?_ owned apart <;>
          exact fun finished => absurd finished.choose_spec Program.step_ne_done
      · obtain ⟨effects, progress⟩ := handles _ _ _ ⟨.refl _, rfl⟩ first
        cases result with
        | error error =>
            obtain ⟨rfl, rfl⟩ := Program.Reaches.done tail
            have head : Passes store handlers effectLedger.root before after False [record] :=
              Progress.passes faithful here False.elim effects progress
            refine head.append (Passes.unreached ?_ (head.listed apart later)) ?_ owned apart <;>
              exact fun finished => absurd finished.choose_spec (Program.done_ne_done nofun)
        | ok answer =>
            have head : Passes store handlers effectLedger.root before middle True [record] :=
              Progress.passes faithful here (fun _ => ⟨answer.1, answer, rfl, rfl⟩) effects progress
            exact head.append (induction (head.listed apart later) unique.2 tail)
              (fun _ => trivial) owned apart

/-- Wherever the pass stands, every listed task has arrived where its standing leads. -/
theorem recoverEffectAwareTasks_passes (normal : format.Normal)
    (reaches : Reaches before (recoverEffectAwareTasks store handlers effectLedger) after rest) :
    (after = before ∧ ¬Completes rest) ∨
      ∃ records, ListsAll directory before.tasks records ∧
        Passes store handlers effectLedger.root before after (Completes rest) records := by
  rcases Program.Reaches.bind_cases reaches with
    ⟨action, next, first, rfl⟩ | ⟨middle, result, first, tail⟩
  · obtain ⟨effects, left, -, listing⟩ := embed_reaches first
    have same := (listRecords_reaches listing).1
    refine .inl ⟨?_, fun finished => absurd finished.choose_spec Program.step_ne_done⟩
    cases after
    exact congrArg₂ _ same effects
  obtain ⟨effects, left, ended, listing⟩ := embed_reaches first
  obtain ⟨same, listed⟩ := listRecords_reaches listing
  have unchanged : middle = before := by
    cases middle
    exact congrArg₂ _ same effects
  subst unchanged
  cases result with
  | error error =>
      obtain ⟨rfl, rfl⟩ := Program.Reaches.done tail
      exact .inl ⟨rfl, fun finished => absurd finished.choose_spec (Program.done_ne_done nofun)⟩
  | ok records =>
      have all := listing_eq_ok normal (listed records (embed_eq_done ended.symm))
      refine .inr ⟨records, all, recoverEachTask_passes normal.toFaithful
        (fun record member => ?_) all.distinct tail⟩
      exact ⟨all.own record member, all.read record member, (all.normal record member).1,
        (all.normal record member).2⟩

end Eva.Runtime
