import Eva.Storage.TaskState.Records

/-! # Calls that nothing disturbs

A current writer, a free lock and no failing system call: then every call ends,
a loop decides in its first round, and a proposal is committed exactly if the
store accepts it.
-/

namespace Eva.Storage

variable {directory : TaskDirectory} {format : RecordFormat} {state : TaskFiles format}
  {store : FileSystemTaskStateStore directory}

def FileSystemTaskStateStore.IsCurrent (store : FileSystemTaskStateStore directory)
    (state : TaskFiles format) : Prop :=
  match store.writer with
  | some writer => writer.verifyCurrent directory.writerLayout state.writer none = .ok ()
  | none => directory.durableWriterRequired = false

def TaskFiles.replaced (state : TaskFiles format) (committed : TaskStateSnapshot) :
    TaskFiles format :=
  { state with
    files := (latestFileName, format.write committed) ::
      (taskFileName committed.taskId, format.write committed) :: state.files
    pendingLatest := none }

/-! ## Single actions -/

section Actions

variable {snapshot committed : TaskStateSnapshot} {current : Option TaskStateSnapshot}
  {expected : StateVersion} {mode : TaskStateCommitMode} {taskId : String}

theorem beginWriterTransaction_of_isCurrent (owned : store.IsCurrent state) :
    TaskDirectory.beginWriterTransaction state none store =
      .ok (directory.currentGeneration state) := by
  cases begun : TaskDirectory.beginWriterTransaction state none store with
  | ok generation => rw [(TaskDirectory.beginWriterTransaction_eq_ok begun).1]
  | error error =>
      unfold TaskDirectory.beginWriterTransaction at begun
      unfold FileSystemTaskStateStore.IsCurrent at owned
      cases owner : store.writer with
      | some writer =>
          rw [owner] at owned
          simp only [owner, failsAt_none, owned] at begun
          cases begun
      | none =>
          rw [owner] at owned
          simp only [owner, owned] at begun
          cases begun

theorem acquireRecordWriteLock_of_isCurrent (owned : store.IsCurrent state) :
    TaskDirectory.acquireRecordWriteLock state none store = .ok () := by
  unfold TaskDirectory.acquireRecordWriteLock
  unfold FileSystemTaskStateStore.IsCurrent at owned
  simp only [failsAt_none, ok_bind]
  cases owner : store.writer with
  | some writer => simpa only [owner] using owned
  | none => rfl

theorem commitCanonical_of_accepted (idle : state.pendingLatest = none)
    (owned : store.IsCurrent state)
    (read : directory.readOptionalTaskSnapshot state none (taskFileName snapshot.taskId) =
      .ok current)
    (accepted : Accepted current snapshot expected mode (directory.currentGeneration state)
      committed) :
    TaskDirectory.commitCanonical state none store snapshot expected mode =
      some ({ state with
        files := (taskFileName snapshot.taskId, format.write committed) :: state.files
        pendingLatest := some (format.write committed) }, .ok committed) := by
  have begun : TaskDirectory.beginCommit state none store snapshot =
      .ok (directory.currentGeneration state) := by
    simp only [TaskDirectory.beginCommit, failsAt_none, ok_bind,
      TaskStateSnapshot.validate_eq_ok_iff.mpr accepted.proposedValid,
      beginWriterTransaction_of_isCurrent owned]
  have prepared : TaskDirectory.prepareCommit state none store snapshot expected mode
      (directory.currentGeneration state) = .ok committed := by
    have checked : directory.checkOptionalCurrent current snapshot mode = .ok () := by
      cases current with
      | none => rfl
      | some record =>
          exact TaskDirectory.checkCurrent_eq_ok_iff.mpr ⟨accepted.sameTask record rfl,
            accepted.sameGeneration record rfl, accepted.sameEnvelope record rfl,
            accepted.sameReplay record rfl, accepted.transition record rfl⟩
    have creates : ¬(mode.createOnly ∧ current.isSome) := by
      rintro ⟨isCreate, present⟩
      rw [accepted.createsOnly (by simpa [TaskStateCommitMode.createOnly] using isCreate)]
        at present
      cases present
    have next : expected.checkedAdd 1 = some committed.recordVersion :=
      Unsigned.checkedAdd_eq_some_iff.mpr accepted.nextVersion
    simp only [TaskDirectory.prepareCommit, TaskDirectory.taskPath, bind_eq_ok_iff,
      exists_unit_iff, pure_eq_ok_iff, rejectIf_eq_ok_iff, StateVersion.checkedNext,
      orReject_eq_ok_iff, failsAt_none, not_not, true_and]
    refine ⟨acquireRecordWriteLock_of_isCurrent owned, _,
      ⟨validateId_eq_ok_iff.mpr accepted.proposedValid.identified, rfl⟩, current, read, checked,
      creates, accepted.expectedVersion, committed.recordVersion, ?_, ?_,
      accepted.stamped.symm⟩
    · rw [accepted.expectedVersion]
      exact next
    · rw [← accepted.stamped]
      exact TaskStateSnapshot.validate_eq_ok_iff.mpr accepted.committedValid
  simp only [TaskDirectory.commitCanonical, begun, idle, prepared, Option.isSome_none,
    Bool.false_eq_true, if_false]

theorem commitCanonical_of_rejected (idle : state.pendingLatest = none)
    (read : directory.readOptionalTaskSnapshot state none (taskFileName snapshot.taskId) =
      .ok current)
    (rejected : ¬∃ committed, Accepted current snapshot expected mode
      (directory.currentGeneration state) committed) :
    ∃ error, TaskDirectory.commitCanonical state none store snapshot expected mode =
      some (state, .error error) := by
  cases performed : TaskDirectory.commitCanonical state none store snapshot expected mode with
  | none =>
      unfold TaskDirectory.commitCanonical at performed
      rw [idle] at performed
      split at performed
      · cases performed
      · simp only [Option.isSome_none, Bool.false_eq_true, if_false] at performed
        split at performed <;> cases performed
  | some step =>
      obtain ⟨after, response⟩ := step
      rcases TaskDirectory.commitCanonical_cases performed with
        ⟨error, rfl, rfl⟩ | ⟨committed, other, -, -, reread, accepted, -⟩
      · exact ⟨error, rfl⟩
      · rw [read] at reread
        cases reread
        exact absurd ⟨committed, accepted⟩ rejected

theorem refreshLatest_of_read (idle : state.pendingLatest = none) (owned : store.IsCurrent state)
    (read : directory.read state none (some taskId) = .ok record) :
    TaskDirectory.refreshLatest state none store taskId =
      some ({ state with files := (latestFileName, format.write record) :: state.files },
        .ok record) := by
  have identified : RequestId.parse taskId = .ok () :=
    validateId_eq_ok_iff.mpr (TaskDirectory.read_eq_ok_iff.mp read).1
  have begun : TaskDirectory.beginRefresh state none store taskId =
      .ok (directory.currentGeneration state) := by
    simp only [TaskDirectory.beginRefresh, identified, ok_bind,
      beginWriterTransaction_of_isCurrent owned]
  have prepared : TaskDirectory.prepareRefresh state none store taskId = .ok record := by
    simp only [TaskDirectory.prepareRefresh, acquireRecordWriteLock_of_isCurrent owned, ok_bind,
      read, failsAt_none]
    rfl
  simp only [TaskDirectory.refreshLatest, begun, idle, prepared, Option.isSome_none,
    Bool.false_eq_true, if_false, failsAt_none, ok_bind]
  rfl

end Actions

/-! ## Acceptance -/

/-- The proposal leaves the identity of the record alone. -/
structure KeepsIdentity (record proposed : TaskStateSnapshot) : Prop where
  sameRecord : SameRecord record proposed
  sameGeneration : record.ownerGeneration = proposed.ownerGeneration
  sameEnvelope : record.envelope = proposed.envelope
  sameReplay : record.replayDelivery = proposed.replayDelivery

theorem TaskStateSnapshot.Valid.restamp {snapshot : TaskStateSnapshot} (valid : snapshot.Valid)
    (recordVersion : StateVersion) (ownerGeneration : WriterGeneration) :
    { snapshot with recordVersion, ownerGeneration }.Valid :=
  { valid with }

/-- A proposal over the record it was computed from needs to be valid and a transition, and
the versions must not be used up. -/
theorem accepted_iff (keeps : KeepsIdentity record proposed)
    (updates : mode ≠ .create) :
    (∃ committed, Accepted (some record) proposed proposed.recordVersion mode generation
        committed) ↔
      proposed.Valid ∧ Transition record proposed mode ∧
        record.recordVersion ≠ Unsigned.maximum 64 := by
  constructor
  · rintro ⟨committed, accepted⟩
    refine ⟨accepted.proposedValid, accepted.transition record rfl, fun last => ?_⟩
    have next := accepted.nextVersion
    have fits := committed.recordVersion.inRange
    rw [keeps.sameRecord.1, last] at next
    simp [Unsigned.maximum] at next fits
    omega
  · rintro ⟨valid, transition, headroom⟩
    have inRange : record.recordVersion.value + 1 < 2 ^ 64 := by
      have within := record.recordVersion.inRange
      rw [Ne, Unsigned.eq_iff] at headroom
      simp only [Unsigned.maximum] at headroom
      omega
    exact ⟨{ proposed with
        recordVersion := ⟨record.recordVersion.value + 1, inRange⟩
        ownerGeneration := generation },
      { proposedValid := valid
        committedValid := valid.restamp _ _
        stamped := rfl
        expectedVersion := keeps.sameRecord.1.symm
        nextVersion := by rw [keeps.sameRecord.1]
        createsOnly := fun create => absurd create updates
        sameTask := fun _ same => Option.some.inj same ▸ keeps.sameRecord.2.symm
        sameGeneration := fun _ same => Option.some.inj same ▸ keeps.sameGeneration
        sameEnvelope := fun _ same => Option.some.inj same ▸ keeps.sameEnvelope
        sameReplay := fun _ same => Option.some.inj same ▸ keeps.sameReplay
        transition := fun _ same => Option.some.inj same ▸ transition }⟩

/-! ## Whole calls -/

section Calls

variable {environment : StoreEnvironment} {number : Nat} {call : StoreCall directory}
  {middle after : TaskFiles format} {made : List (Commit directory)}
  {Result Next : Type} {result : Result}

/-- Left alone, the program makes the commits `made` and ends with `result`. -/
def Ends {Result : Type} (environment : StoreEnvironment) (number : Nat)
    (call : StoreCall directory) (program : StoreProgram directory Result)
    (state after : TaskFiles format) (made : List (Commit directory)) (result : Result) :
    Prop :=
  ∃ events, (taskStore directory format).Executes environment number call program state after
    events result ∧ commits events = made

namespace Ends

theorem done : Ends environment number call (.done result) state state [] result :=
  ⟨[], .done, rfl⟩

theorem step {response : action.Response}
    {next : action.Response → StoreProgram directory Result}
    (performed : action.perform state environment = some (middle, response))
    (silent : eventCommit (.act ⟨number, call, environment, state, middle, action, response⟩ :
      (taskStore directory format).Event) = none)
    (rest : Ends environment number call (next response) middle after made result) :
    Ends environment number call (.step action next) state after made result := by
  obtain ⟨events, executes, same⟩ := rest
  refine ⟨_, executes.step performed, ?_⟩
  rw [commits_append, same, commits, List.filterMap_cons_none silent]
  simp

theorem bind (first : Ends environment number call program state middle made result)
    (second : Ends environment number call (continuation result) middle after [] next) :
    Ends environment number call (program.bind continuation) state after made next := by
  obtain ⟨events, executes, same⟩ := first
  obtain ⟨newer, continues, newerSame⟩ := second
  refine ⟨_, executes.bind continues, ?_⟩
  rw [commits_append, same, newerSame, List.nil_append]

theorem map (ends : Ends environment number call program state after made result)
    (convert : Result → Next) :
    Ends environment number call (program.map convert) state after made
      (convert result) := by
  obtain ⟨events, executes, same⟩ := ends
  exact ⟨events, executes.map convert, same⟩

theorem repeatUntil (ends : Ends environment number call attempt state after made (some result)) :
    Ends environment number call (.repeatUntil attempt exhausted (limit + 1)) state after made
      result := by
  obtain ⟨events, executes, same⟩ := ends
  exact ⟨events, executes.repeatUntil, same⟩

theorem unique (ends : Ends environment number call program state after made result)
    (other : Ends environment number call program state otherAfter otherMade otherResult) :
    made = otherMade ∧ result = otherResult := by
  obtain ⟨events, executes, rfl⟩ := ends
  obtain ⟨otherEvents, otherExecutes, rfl⟩ := other
  have same := (executes []).symm.trans (otherExecutes [])
  simp only [Option.some.injEq, Prod.mk.injEq, List.append_nil] at same
  exact ⟨by rw [same.2.1], same.2.2⟩

theorem result_of_reply {program : StoreProgram directory (Except EvaError Value)}
    {result : Except EvaError Value} {reply : Value → StoreReply} {value : Value}
    (distinct : Function.Injective reply)
    (ends : Ends environment number call program state after made result)
    (replies : Ends environment number call (program.map (Except.map reply)) state otherAfter
      otherMade (.ok (reply value))) : result = .ok value := by
  have same := ((ends.map (Except.map reply)).unique replies).2
  cases result with
  | error error => cases same
  | ok other => rw [distinct (Except.ok.inj same)]

end Ends

section Quiet

variable {operation : CasOperation} {record proposed committed : TaskStateSnapshot}
  {expected : StateVersion} {mode : TaskStateCommitMode} {taskId : String}
  (quiet : environment.fault = none)

include quiet

theorem Ends.read (read : directory.read state none (some taskId) = response)
    (rest : Ends environment number call (next response) state after made result) :
    Ends environment number call (.step (.read (some taskId)) next) state after made
      result := by
  refine .step ?_ rfl rest
  simp only [StoreAction.perform, quiet, read]

theorem commitSnapshot_accepted (idle : state.pendingLatest = none)
    (owned : store.IsCurrent state) {current : Option TaskStateSnapshot}
    (read : directory.readOptionalTaskSnapshot state none (taskFileName proposed.taskId) =
      .ok current)
    (accepted : Accepted current proposed expected mode (directory.currentGeneration state)
      committed) :
    Ends environment number call (store.commitSnapshot proposed expected mode) state
      (state.replaced committed) [⟨call, mode, proposed, committed⟩] (.ok committed) := by
  have performed := commitCanonical_of_accepted idle owned read accepted
  have named : proposed.taskId = committed.taskId := by rw [accepted.stamped]
  obtain ⟨fault, ownerToken⟩ := environment
  cases quiet
  unfold TaskFiles.replaced
  rw [← named]
  exact ⟨_, .step performed (.step rfl .done), rfl⟩

theorem commitSnapshot_rejected (idle : state.pendingLatest = none)
    {current : Option TaskStateSnapshot}
    (read : directory.readOptionalTaskSnapshot state none (taskFileName proposed.taskId) =
      .ok current)
    (rejected : ¬∃ committed, Accepted current proposed expected mode
      (directory.currentGeneration state) committed) :
    ∃ error, Ends environment number call (store.commitSnapshot proposed expected mode) state
      state [] (.error error) := by
  obtain ⟨error, performed⟩ := @commitCanonical_of_rejected _ _ _ store _ _ expected mode idle
    read rejected
  rw [← quiet] at performed
  exact ⟨error, .step performed rfl .done⟩

/-! ### Loops -/

namespace CasOperation

theorem run_fails (failed : directory.read state none (some operation.taskId) = .error error) :
    Ends environment number call (operation.run store) state state [] (.error error) := by
  apply Ends.read quiet failed
  exact .done

variable (read : directory.read state none (some operation.taskId) = .ok record)

include read

theorem run_keeps (decided : operation.decide record = .ok .keep) :
    Ends environment number call (operation.run store) state state [] (.ok record) := by
  apply Ends.read quiet read
  simp only [decided]
  exact .done

theorem run_refuses (decided : operation.decide record = .error error) :
    Ends environment number call (operation.run store) state state [] (.error error) := by
  apply Ends.read quiet read
  simp only [decided]
  exact .done

theorem run_refreshes (idle : state.pendingLatest = none) (owned : store.IsCurrent state)
    (decided : operation.decide record = .ok .refresh) :
    ∃ after, Ends environment number call (operation.run store) state after []
      (.ok record) := by
  have performed := refreshLatest_of_read idle owned read
  rw [← quiet] at performed
  have refreshes : Ends environment number call (operation.finishByRefresh store) state _ []
      (some (.ok record)) := .step performed rfl .done
  refine ⟨_, .repeatUntil (.read quiet read (?_ : Ends _ _ _ _ state { state with
    files := (latestFileName, format.write record) :: state.files } [] _))⟩
  simp only [decided]
  exact refreshes

theorem run_commits (idle : state.pendingLatest = none) (owned : store.IsCurrent state)
    (decided : operation.decide record = .ok (.propose proposed))
    (same : SameRecord record proposed)
    (accepted : Accepted (some record) proposed proposed.recordVersion operation.mode
      (directory.currentGeneration state) committed) :
    Ends environment number call (operation.run store) state (state.replaced committed)
      [⟨call, operation.mode, proposed, committed⟩] (.ok committed) := by
  obtain ⟨-, key, found⟩ := TaskDirectory.read_eq_ok_iff.mp read
  rw [← key, ← same.2] at found
  apply Ends.repeatUntil
  apply Ends.read quiet read
  simp only [decided]
  exact (commitSnapshot_accepted quiet idle owned found accepted).bind .done

theorem run_rejected (idle : state.pendingLatest = none)
    (decided : operation.decide record = .ok (.propose proposed))
    (same : SameRecord record proposed)
    (rejected : ¬∃ committed, Accepted (some record) proposed proposed.recordVersion
      operation.mode (directory.currentGeneration state) committed) :
    ∃ error, Ends environment number call (operation.run store) state state []
      (.error error) := by
  obtain ⟨-, key, found⟩ := TaskDirectory.read_eq_ok_iff.mp read
  rw [← key, ← same.2] at found
  obtain ⟨error, fails⟩ := commitSnapshot_rejected quiet idle found rejected
  refine ⟨error, .repeatUntil (.read quiet read ?_)⟩
  simp only [decided]
  refine fails.bind (.read quiet read ?_)
  simp only [if_true]
  exact .done

end CasOperation

end Quiet

end Calls

end Eva.Storage
