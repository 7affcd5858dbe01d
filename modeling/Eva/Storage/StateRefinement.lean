import Eva.Storage.StateStore

/-! # The directory behaves like the store in memory

Calls come through any number of handles, which are opened again by later writers in
between. What a handle reads and writes is what one store in memory would.
-/

namespace Eva.Storage

open RecordFiles

/-! ## Calls -/

inductive StateCall where
  | get (handle : Nat) (key : String)
  | compareAndSet (handle : Nat) (key : String) (expected : StateVersion) (value : String)
  /-- The handle is opened again by a writer. -/
  | reopen (handle : Nat) (writer : StateWriter)

def StateCall.key : StateCall → Option String
  | get _ key | compareAndSet _ key _ _ => some key
  | reopen .. => none

def StateEnvironment.working : StateEnvironment where
  lockError := none
  readError := none
  write := .written

/-- The generation of the writer is not part of what the stores have in common. -/
def StateRecord.withoutOwner (record : StateRecord) : StateRecord :=
  { record with ownerGeneration := 0 }

abbrev StateAnswer := Fallible EvaError (Option StateRecord)

structure StateDirectory where
  files : Files
  handles : Nat → FileSystemStateStore

def StateDirectory.answer (directory : StateDirectory) : StateCall → StateDirectory × StateAnswer
  | .get handle key =>
      (directory, fallible (((directory.handles handle).get .working directory.files key).map
        (·.map (·.withoutOwner))))
  | .compareAndSet handle key expected value =>
      let (files, result) := (directory.handles handle).compareAndSet .working directory.files key
        expected value
      ({ directory with files }, fallible (result.map fun record => some record.withoutOwner))
  | .reopen handle writer =>
      ({ directory with
          handles := Function.update directory.handles handle
            { directory.handles handle with writer := some writer } }, .ok none)

def InMemoryStateStore.answer (store : InMemoryStateStore) :
    StateCall → InMemoryStateStore × StateAnswer
  | .get _ key => (store, .ok (store key))
  | .compareAndSet _ key expected value =>
      match store.compareAndSet key expected value with
      | .ok (after, record) => (after, .ok (some record))
      | .error failure => (store, .error failure)
  | .reopen .. => (store, .ok none)

/-- The answers to a list of calls and what the last of them leaves. -/
def runCalls {Store : Type} (step : Store → StateCall → Store × StateAnswer) :
    Store → List StateCall → List StateAnswer × Store
  | store, [] => ([], store)
  | store, call :: calls =>
      let (after, answer) := step store call
      let (answers, last) := runCalls step after calls
      (answer :: answers, last)

def StateDirectory.stored (directory : StateDirectory) (key : String) :
    Option (Except EvaError StateRecord) :=
  (directory.files.lookup (stateFileName key)).map parseStateRecord

/-! ## The simulation -/

/-- The file of a key is that of the record in memory, with a writer of its own. -/
def FileHolds (files : Files) (key : String) : Option StateRecord → Prop
  | none => files.lookup (stateFileName key) = none
  | some record => record.key = key ∧ record.version ≠ 0 ∧ record.ownerGeneration = 0 ∧
      ∃ generation, generation ≠ 0 ∧ files.lookup (stateFileName key) =
        some (stateRecordToStorage { record with ownerGeneration := generation })

structure StateMirrors (keys : List String) (directory : StateDirectory)
    (store : InMemoryStateStore) (bound : Nat) : Prop where
  held : ∀ key ∈ keys, FileHolds directory.files key (store key)
  bounded : ∀ key ∈ keys, ∀ record ∈ store key, record.version.value ≤ bound
  writers : ∀ handle, (directory.handles handle).writer ≠ none

section Call

variable {directory : StateDirectory} {store : InMemoryStateStore}

theorem readStateRecord_of_holds (handled : FileSystemStateStore) (named : key ≠ "")
    (holds : FileHolds directory.files key current) :
    ∃ record, handled.readStateRecord .working directory.files key = .ok record ∧
      handled.checkKey key record = .ok () ∧ record.map (·.withoutOwner) = current := by
  cases current with
  | none =>
      have missing : directory.files.lookup (stateFileName key) = none := holds
      refine ⟨none, ?_, rfl, rfl⟩
      simp [FileSystemStateStore.readStateRecord, StateEnvironment.working, missing]
  | some record =>
      obtain ⟨rfl, written, unowned, generation, owned, found⟩ := holds
      have read := @parseStateRecord_stateRecordToStorage
        { record with ownerGeneration := generation } ⟨named, written, owned⟩
      refine ⟨some { record with ownerGeneration := generation }, ?_, ?_, ?_⟩
      · simp only [FileSystemStateStore.readStateRecord, StateEnvironment.working, found, read]
        rfl
      · simp [FileSystemStateStore.checkKey, rejectIf]
      · simp only [Option.map_some, StateRecord.withoutOwner, ← unowned]

theorem currentVersion_withoutOwner (record : Option StateRecord) :
    currentVersion (record.map (·.withoutOwner)) = currentVersion record := by
  cases record <;> rfl

theorem currentVersion_le (mirrors : StateMirrors keys directory store bound)
    (member : key ∈ keys) : (currentVersion (store key)).value ≤ bound := by
  cases held : store key with
  | none => exact Nat.zero_le _
  | some record => exact mirrors.bounded key member record held

theorem put_eq (next : version.value = (currentVersion (store key)).value + 1) :
    store.put key value =
      .ok (Function.update store key (some { key, value, version, ownerGeneration := 0 }),
        { key, value, version, ownerGeneration := 0 }) := by
  unfold InMemoryStateStore.put
  cases held : store key with
  | none =>
      have first : version = 1 := by
        rw [Unsigned.eq_iff, next, held]
        rfl
      rw [first]
      rfl
  | some record =>
      have sum : record.version.checkedAdd 1 = some version := by
        rw [Unsigned.checkedAdd_eq_some_iff, next, held]
        rfl
      simp only [sum, orPanic]
      rfl

theorem StateMirrors.write (mirrors : StateMirrors keys directory store bound)
    (separate : ∀ other ∈ keys, stateFileName other = stateFileName key → other = key)
    {record : StateRecord} (own : record.key = key) (written : record.version ≠ 0)
    (unowned : record.ownerGeneration = 0) (bounded : record.version.value ≤ bound + 1)
    {generation : WriterGeneration} (owned : generation ≠ 0) :
    StateMirrors keys
      { directory with
        files := (stateFileName key,
          stateRecordToStorage { record with ownerGeneration := generation }) :: directory.files }
      (Function.update store key (some record)) (bound + 1) where
  held other member := by
    by_cases same : other = key
    · subst same
      rw [Function.update_self]
      exact ⟨own, written, unowned, generation, owned, List.lookup_cons_self⟩
    · have otherFile : stateFileName other ≠ stateFileName key :=
        fun equal => same (separate other member equal)
      have older := mirrors.held other member
      rw [Function.update_of_ne same]
      cases held : store other with
      | none =>
          rw [held] at older
          change List.lookup _ _ = none
          rw [List.lookup_cons, beq_false_of_ne otherFile]
          exact older
      | some record =>
          rw [held] at older
          obtain ⟨named, positive, plain, writer, acquired, found⟩ := older
          refine ⟨named, positive, plain, writer, acquired, ?_⟩
          rw [List.lookup_cons, beq_false_of_ne otherFile]
          exact found
  bounded other member older found := by
    by_cases same : other = key
    · subst same
      rw [Function.update_self] at found
      cases found
      exact bounded
    · rw [Function.update_of_ne same] at found
      exact Nat.le_succ_of_le (mirrors.bounded other member older found)
  writers := mirrors.writers

section Write

variable (mirrors : StateMirrors keys directory store bound) (member : key ∈ keys)
  (named : key ≠ "")
include mirrors member named

theorem StateMirrors.nextRecord_eq (handle : Nat) (expected : StateVersion) (value : String) :
    ∃ writer : StateWriter,
      ((directory.handles handle).acquireWriter .working key >>= fun writer =>
        (directory.handles handle).nextRecord .working directory.files writer.generation key
          expected value) = (do
        rejectIf (currentVersion (store key) ≠ expected)
          (stateVersionConflict key expected (currentVersion (store key)))
        let version ← (currentVersion (store key)).checkedNext
        pure { key, value, version, ownerGeneration := writer.generation }) := by
  obtain ⟨writer, has⟩ := Option.ne_none_iff_exists'.mp (mirrors.writers handle)
  have acquired : (directory.handles handle).acquireWriter .working key = .ok writer := by
    simp [FileSystemStateStore.acquireWriter, validateStateKey, rejectIf, named, has, orReject,
      StateEnvironment.working, pure, Except.pure]
  obtain ⟨record, read, owned, current⟩ :=
    readStateRecord_of_holds (directory.handles handle) named (mirrors.held key member)
  have version : currentVersion record = currentVersion (store key) := by
    rw [← current, currentVersion_withoutOwner]
  refine ⟨writer, ?_⟩
  rw [acquired, ok_bind]
  simp only [FileSystemStateStore.nextRecord, read, owned, ok_bind, version]

theorem StateMirrors.compareAndSet_ok
    (separate : ∀ other ∈ keys, stateFileName other = stateFileName key → other = key)
    (room : bound + 1 < 2 ^ 64) (handle : Nat) (value : String) :
    ∃ record after, StateMirrors keys { directory with files := after }
        (Function.update store key (some record.withoutOwner)) (bound + 1) ∧
      (directory.handles handle).compareAndSet .working directory.files key
        (currentVersion (store key)) value = (after, .ok record) ∧
      store.compareAndSet key (currentVersion (store key)) value =
        .ok (Function.update store key (some record.withoutOwner), record.withoutOwner) := by
  have lower := currentVersion_le mirrors member
  obtain ⟨version, next⟩ : ∃ version : StateVersion,
      version.value = (currentVersion (store key)).value + 1 := ⟨⟨_, by omega⟩, rfl⟩
  obtain ⟨writer, prepared⟩ := mirrors.nextRecord_eq member named handle
    (currentVersion (store key)) value
  have advanced : (currentVersion (store key)).checkedNext = .ok version := by
    rw [StateVersion.checkedNext, Unsigned.checkedAdd_eq_some_iff.mpr next, orReject]
  have made : (directory.handles handle).compareAndSet .working directory.files key
      (currentVersion (store key)) value =
        ((stateFileName key, stateRecordToStorage
          { key, value, version, ownerGeneration := writer.generation }) :: directory.files,
          .ok { key, value, version, ownerGeneration := writer.generation }) := by
    rw [FileSystemStateStore.compareAndSet, prepared, advanced, rejectIf,
      if_neg (not_not.mpr rfl)]
    rfl
  have inMemory : store.compareAndSet key (currentVersion (store key)) value =
      store.put key value := by
    simp [InMemoryStateStore.compareAndSet, rejectIf]
  refine ⟨_, _, ?_, made, inMemory.trans (put_eq next)⟩
  exact @StateMirrors.write _ _ _ _ _ mirrors separate
    { key, value, version, ownerGeneration := 0 } rfl (Unsigned.ne_zero_of_value next) rfl
    (show version.value ≤ bound + 1 by omega) writer.generation writer.acquired

theorem StateMirrors.compareAndSet_conflict
    (stale : currentVersion (store key) ≠ expected) (handle : Nat) (value : String) :
    let error := stateVersionConflict key expected (currentVersion (store key))
    (directory.handles handle).compareAndSet .working directory.files key expected value =
        (directory.files, .error error) ∧
      store.compareAndSet key expected value = .error (.reported error) := by
  obtain ⟨writer, prepared⟩ := mirrors.nextRecord_eq member named handle expected value
  constructor
  · rw [FileSystemStateStore.compareAndSet, prepared, rejectIf, if_pos stale]
    rfl
  · rw [InMemoryStateStore.compareAndSet, rejectIf, if_pos stale]
    rfl

end Write

theorem StateMirrors.answer (mirrors : StateMirrors keys directory store bound)
    (listed : ∀ key ∈ call.key, key ∈ keys) (named : ∀ key ∈ call.key, key ≠ "")
    (separate : ∀ left ∈ keys, ∀ right ∈ keys, stateFileName left = stateFileName right →
      left = right)
    (room : bound + 1 < 2 ^ 64) :
    (directory.answer call).2 = (store.answer call).2 ∧
      StateMirrors keys (directory.answer call).1 (store.answer call).1 (bound + 1) := by
  have later : StateMirrors keys directory store (bound + 1) :=
    { mirrors with
      bounded := fun key member record found =>
        Nat.le_succ_of_le (mirrors.bounded key member record found) }
  cases call with
  | get handle key =>
      have member := listed key rfl
      obtain ⟨record, read, owned, current⟩ := readStateRecord_of_holds
        (directory.handles handle) (named key rfl) (mirrors.held key member)
      refine ⟨?_, later⟩
      simp only [StateDirectory.answer, InMemoryStateStore.answer, FileSystemStateStore.get,
        validateStateKey, rejectIf, named key rfl, read, owned, ok_bind, ← current]
      rfl
  | compareAndSet handle key expected value =>
      have member := listed key rfl
      by_cases same : currentVersion (store key) = expected
      · subst same
        obtain ⟨record, after, next, written, inMemory⟩ := mirrors.compareAndSet_ok member
          (named key rfl) (fun other held => separate other held key member) room handle value
        rw [StateDirectory.answer, InMemoryStateStore.answer, written, inMemory]
        exact ⟨rfl, next⟩
      · obtain ⟨refused, inMemory⟩ := mirrors.compareAndSet_conflict member (named key rfl) same
          handle value
        rw [StateDirectory.answer, InMemoryStateStore.answer, refused, inMemory]
        exact ⟨rfl, later⟩
  | reopen handle writer =>
      refine ⟨rfl, ⟨later.held, later.bounded, fun other => ?_⟩⟩
      by_cases same : other = handle
      · subst same
        simp [StateDirectory.answer]
      · simpa [StateDirectory.answer, Function.update_of_ne same] using mirrors.writers other

end Call

/-! ## Whole runs -/

/-- The directory answers like the store in memory, and what it holds in the end are the
records of the store. -/
structure StateRefinement (directory : StateDirectory) (store : InMemoryStateStore)
    (calls : List StateCall) : Prop where
  agrees : (runCalls StateDirectory.answer directory calls).1 =
    (runCalls InMemoryStateStore.answer store calls).1
  stored : ∀ key ∈ calls.filterMap StateCall.key,
    ((runCalls StateDirectory.answer directory calls).2.stored key).map
        (·.map StateRecord.withoutOwner) =
      ((runCalls InMemoryStateStore.answer store calls).2 key).map .ok

theorem FileHolds.stored {directory : StateDirectory} (named : key ≠ "")
    (holds : FileHolds directory.files key current) :
    (directory.stored key).map (·.map StateRecord.withoutOwner) = current.map .ok := by
  cases current with
  | none =>
      have missing : directory.files.lookup (stateFileName key) = none := holds
      simp [StateDirectory.stored, missing]
  | some record =>
      obtain ⟨rfl, written, unowned, generation, owned, found⟩ := holds
      have read := @parseStateRecord_stateRecordToStorage
        { record with ownerGeneration := generation } ⟨named, written, owned⟩
      simp only [StateDirectory.stored, found, Option.map_some, read, Except.map,
        StateRecord.withoutOwner, ← unowned]

theorem runCalls_eq (mirrors : StateMirrors keys directory store bound)
    (listed : ∀ call ∈ calls, ∀ key ∈ call.key, key ∈ keys)
    (named : ∀ call ∈ calls, ∀ key ∈ call.key, key ≠ "")
    (separate : ∀ left ∈ keys, ∀ right ∈ keys, stateFileName left = stateFileName right →
      left = right)
    (room : bound + calls.length < 2 ^ 64) :
    (runCalls StateDirectory.answer directory calls).1 =
        (runCalls InMemoryStateStore.answer store calls).1 ∧
      StateMirrors keys (runCalls StateDirectory.answer directory calls).2
        (runCalls InMemoryStateStore.answer store calls).2 (bound + calls.length) := by
  induction calls generalizing directory store bound with
  | nil => exact ⟨rfl, mirrors⟩
  | cons call calls induction =>
      rw [List.length_cons] at room
      obtain ⟨same, next⟩ := mirrors.answer (listed call List.mem_cons_self)
        (named call List.mem_cons_self) separate (by omega)
      obtain ⟨rest, last⟩ := induction next
        (fun other member => listed other (List.mem_cons_of_mem _ member))
        (fun other member => named other (List.mem_cons_of_mem _ member)) (by omega)
      constructor
      · unfold runCalls
        dsimp only
        rw [same, rest]
      · rw [List.length_cons, Nat.add_comm calls.length, ← Nat.add_assoc]
        exact last

/-- A new directory, with keys that can be told apart by their digests. -/
theorem stateStore_refines_inMemory (directory : StateDirectory) (calls : List StateCall)
    (unused : ∀ key, directory.files.lookup (stateFileName key) = none)
    (writers : ∀ handle, (directory.handles handle).writer ≠ none)
    (named : ∀ key ∈ calls.filterMap StateCall.key, key ≠ "")
    (separate : ∀ left ∈ calls.filterMap StateCall.key,
      ∀ right ∈ calls.filterMap StateCall.key,
      stateFileName left = stateFileName right → left = right)
    (short : calls.length < 2 ^ 64) : StateRefinement directory .new calls := by
  have mirrors : StateMirrors (calls.filterMap StateCall.key) directory .new 0 :=
    ⟨fun key _ => unused key, by simp [InMemoryStateStore.new], writers⟩
  have listed : ∀ call ∈ calls, ∀ key ∈ call.key, key ∈ calls.filterMap StateCall.key :=
    fun call member key held => List.mem_filterMap.mpr ⟨call, member, held⟩
  obtain ⟨agrees, last⟩ := runCalls_eq mirrors listed
    (fun call member key held => named key (listed call member key held)) separate
    (by omega)
  exact ⟨agrees, fun key member => (last.held key member).stored (named key member)⟩

namespace StateSample

def store : FileSystemStateStore where
  root := "/state"
  stateDir := "/state/state"
  writer := some ⟨1, Unsigned.one_ne_zero⟩

def directory : StateDirectory where
  files := []
  handles _ := store

/-- Two handles, one of them opened again by the next writer. -/
def calls : List StateCall :=
  [.compareAndSet 0 "mode" 0 "normal", .get 1 "mode", .compareAndSet 1 "mode" 0 "late",
    .reopen 1 ⟨2, by decide⟩, .compareAndSet 1 "mode" 1 "", .get 0 "mode"]

end StateSample

theorem stateStore_refines_inMemory_mode :
    StateRefinement StateSample.directory .new StateSample.calls := by
  refine stateStore_refines_inMemory _ _ (fun _ => rfl) (fun _ => by simp [StateSample.directory,
    StateSample.store]) ?_ ?_ (by decide)
  · decide
  · intro left first right second _
    have only : ∀ key ∈ StateSample.calls.filterMap StateCall.key, key = "mode" := by decide
    rw [only left first, only right second]

/-- The store in memory takes the empty key, the directory does not. -/
theorem empty_key_refused :
    (runCalls StateDirectory.answer StateSample.directory [.compareAndSet 0 "" 0 "value"]).1 =
      [.error (.reported (.invalidArgument "state key cannot be empty"))] ∧
    (runCalls InMemoryStateStore.answer .new [.compareAndSet 0 "" 0 "value"]).1 =
      [.ok (some { key := "", value := "value", version := 1, ownerGeneration := 0 })] :=
  ⟨rfl, rfl⟩

end Eva.Storage
