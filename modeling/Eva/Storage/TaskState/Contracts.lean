import Eva.Storage.TaskState.Proposals

/-! # Contracts of the calls

What a call does and what it returns, whatever the store answers: which records it
proposes, that a record or a claim it returns was committed or read back, and that
a failure leaves the record alone unless the second half of a commit failed.
-/

namespace Eva.Storage

variable {directory : TaskDirectory} {store : FileSystemTaskStateStore directory}
  {past : List (storeInterface directory).Observation}

/-! ## Failed calls -/

/-- The file of a task was replaced. -/
def Replaced (past : List (storeInterface directory).Observation) : Prop :=
  ∃ owner proposed version mode committed,
    ⟨.commit owner proposed version mode, .ok committed⟩ ∈ past

/-- The second half of a commit failed: the directory could not be synced or the alias could
not be written. -/
def AliasFailed (past : List (storeInterface directory).Observation) : Prop :=
  ∃ committed error, ⟨.writeLatest committed, .error error⟩ ∈ past

/-- Nothing was committed unless the second half of a commit failed. -/
def Harmless (past : List (storeInterface directory).Observation) : Prop :=
  Replaced past → AliasFailed past

namespace Harmless

theorem empty : Harmless ([] : List (storeInterface directory).Observation) := by
  rintro ⟨_, _, _, _, _, member⟩
  cases member

section

variable (harmless : Harmless past)
include harmless

private theorem snoc (silent : ¬Replaced [observation]) :
    Harmless (past ++ [observation]) := by
  rintro ⟨owner, proposed, version, mode, committed, member⟩
  rcases List.mem_append.mp member with member | member
  · obtain ⟨record, error, failed⟩ := harmless ⟨owner, proposed, version, mode, committed, member⟩
    exact ⟨record, error, List.mem_append_left _ failed⟩
  · exact absurd ⟨owner, proposed, version, mode, committed, member⟩ silent

theorem other
    (silent : ∀ owner proposed version mode, action ≠ .commit owner proposed version mode) :
    Harmless (past ++ [⟨action, response⟩]) := by
  refine harmless.snoc ?_
  rintro ⟨owner, proposed, version, mode, committed, member⟩
  have same := congrArg Observation.action (List.mem_singleton.mp member)
  exact silent owner proposed version mode same.symm

theorem failed
    (error : EvaError) : Harmless (past ++ [⟨.commit owner proposed version mode, .error error⟩]) := by
  refine harmless.snoc ?_
  rintro ⟨_, _, _, _, _, member⟩
  cases List.mem_singleton.mp member

theorem read (taskId : Option String)
    (response : Except EvaError TaskStateSnapshot) :
    Harmless (past ++ [⟨.read taskId, response⟩]) :=
  harmless.other (by simp)

theorem refreshLatest (owner : FileSystemTaskStateStore directory)
    (taskId : String) (response : Except EvaError TaskStateSnapshot) :
    Harmless (past ++ [⟨.refreshLatest owner taskId, response⟩]) :=
  harmless.other (by simp)

end

end Harmless

/-! ## Commits -/

/-- The actions of the calls that name a task. -/
inductive TaskAction (store : FileSystemTaskStateStore directory) (taskId : String) :
    StoreAction directory → Prop where
  | read : TaskAction store taskId (.read (some taskId))
  | refreshLatest : TaskAction store taskId (.refreshLatest store taskId)
  | commit (snapshot : TaskStateSnapshot) (expected : StateVersion) (mode : TaskStateCommitMode) :
      TaskAction store taskId (.commit store snapshot expected mode)
  | writeLatest (committed : TaskStateSnapshot) : TaskAction store taskId (.writeLatest committed)

/-- An action on a task; what it commits is a record that `proposes` says. -/
inductive Acts (store : FileSystemTaskStateStore directory) (taskId : String)
    (mode : TaskStateCommitMode)
    (proposes : List (storeInterface directory).Observation → TaskStateSnapshot → Prop)
    (past : List (storeInterface directory).Observation) : StoreAction directory → Prop where
  | read : Acts store taskId mode proposes past (.read (some taskId))
  | refreshLatest : Acts store taskId mode proposes past (.refreshLatest store taskId)
  | commit {proposed : TaskStateSnapshot} {version : StateVersion}
      (expected : version = proposed.recordVersion) (made : proposes past proposed) :
      Acts store taskId mode proposes past (.commit store proposed version mode)
  | writeLatest (committed : TaskStateSnapshot) :
      Acts store taskId mode proposes past (.writeLatest committed)

theorem Acts.taskAction (acts : Acts store taskId mode proposes past action) :
    TaskAction store taskId action := by
  cases acts with
  | read => exact .read
  | refreshLatest => exact .refreshLatest
  | commit => exact .commit ..
  | writeLatest committed => exact .writeLatest committed

theorem Acts.made
    (acts : Acts store taskId mode proposes past (.commit owner proposed version chosen)) :
    proposes past proposed := by
  cases acts with
  | commit _ made => exact made

section Commits

variable {taskId : String} {mode : TaskStateCommitMode}
  {proposes : List (storeInterface directory).Observation → TaskStateSnapshot → Prop}

theorem commitSnapshot_meets
    (harmless : Harmless past) (expected : version = proposed.recordVersion)
    (made : proposes past proposed)
    (committed : ∀ later record, ⟨.commit store proposed version mode, .ok record⟩ ∈ later →
      ends later (.ok record))
    (failed : ∀ later error, Harmless later → ends later (.error error)) :
    (store.commitSnapshot proposed version mode).Meets (Acts store taskId mode proposes) ends
      past := by
  refine ⟨.commit expected made, fun response => ?_⟩
  cases response with
  | error error => exact failed _ error (harmless.failed error)
  | ok record =>
      refine ⟨.writeLatest record, fun response => ?_⟩
      cases response with
      | error error => exact failed _ error fun _ => ⟨record, error, by simp⟩
      | ok _ => exact committed _ record (by simp)

end Commits

/-! ## Loops -/

section Loops

variable {operation : CasOperation} {record : TaskStateSnapshot}

/-- The record was committed, read or read back under the lock. -/
inductive Obtained (store : FileSystemTaskStateStore directory) (operation : CasOperation)
    (record : TaskStateSnapshot) (past : List (storeInterface directory).Observation) :
    Prop where
  | committed (proposed : TaskStateSnapshot)
      (observed : ⟨.commit store proposed proposed.recordVersion operation.mode,
        .ok record⟩ ∈ past)
  | read (observed : ⟨.read (some operation.taskId), .ok record⟩ ∈ past)
  | refreshed (observed : ⟨.refreshLatest store operation.taskId, .ok record⟩ ∈ past)

def CasOperation.Decides (operation : CasOperation)
    (past : List (storeInterface directory).Observation) (proposed : TaskStateSnapshot) : Prop :=
  ∃ current, ⟨.read (some operation.taskId), .ok current⟩ ∈ past ∧
    operation.decide current = .ok (.propose proposed)

def CasOperation.Ended (operation : CasOperation) (store : FileSystemTaskStateStore directory)
    (past : List (storeInterface directory).Observation) :
    Except EvaError TaskStateSnapshot → Prop
  | .ok record => Obtained store operation record past
  | .error _ => Harmless past

/-- How an iteration ends. -/
abbrev CasOperation.Rounded (operation : CasOperation)
    (store : FileSystemTaskStateStore directory)
    (past : List (storeInterface directory).Observation)
    (result : Option (Except EvaError TaskStateSnapshot)) : Prop :=
  result.elim (Harmless past) (operation.Ended store past)

theorem finishByRefresh_meets (harmless : Harmless past) :
    (operation.finishByRefresh store).Meets
      (Acts store operation.taskId operation.mode proposes) (operation.Rounded store) past := by
  refine ⟨.refreshLatest, fun response => ?_⟩
  cases response with
  | error error => exact harmless.refreshLatest store operation.taskId _
  | ok record => exact Obtained.refreshed (by simp)

theorem afterConflictWith_meets (harmless : Harmless past) :
    (operation.afterConflictWith store candidate version error).Meets
      (Acts store operation.taskId operation.mode proposes) (operation.Rounded store) past := by
  refine ⟨.read, fun response => ?_⟩
  have after := harmless.read (some operation.taskId) response
  cases response with
  | error error => exact after
  | ok observed =>
      dsimp only
      split
      · exact after
      split
      · exact after
      · exact Obtained.read (by simp)
      · exact finishByRefresh_meets after
      · exact after

theorem attempt_meets (harmless : Harmless past) :
    (operation.attempt store).Meets (Acts store operation.taskId operation.mode operation.Decides)
      (operation.Rounded store) past := by
  refine ⟨.read, fun response => ?_⟩
  have after := harmless.read (some operation.taskId) response
  cases response with
  | error error => exact after
  | ok current =>
      dsimp only
      split
      · exact after
      · exact Obtained.read (by simp)
      · exact finishByRefresh_meets after
      next candidate decided =>
          refine Program.Meets.bind
            (commitSnapshot_meets after rfl ⟨current, by simp, decided⟩ ?_ ?_)
          · intro later record observed
            exact Obtained.committed candidate observed
          · intro later error still
            exact afterConflictWith_meets still

theorem CasOperation.run_meets :
    (operation.run store).Meets (Acts store operation.taskId operation.mode operation.Decides)
      (operation.Ended store) [] :=
  .repeatUntil Harmless (fun _ => attempt_meets) (fun _ harmless => harmless) .empty

end Loops

def TaskCommand.Decides (command : TaskCommand) (store : FileSystemTaskStateStore directory)
    (past : List (storeInterface directory).Observation) (proposed : TaskStateSnapshot) : Prop :=
  ∃ operation current, command.prepare store = .ok operation ∧
    ⟨.read (some command.taskId), .ok current⟩ ∈ past ∧
    operation.decide current = .ok (.propose proposed)

theorem TaskCommand.program_meets {command : TaskCommand} :
    (command.program store).Meets
      (Acts store command.taskId command.mode (command.Decides store))
      (fun past result => match result with
        | .ok record => ∃ operation, operation.taskId = command.taskId ∧
            Obtained store operation record past
        | .error _ => Harmless past) [] := by
  unfold TaskCommand.program
  split
  next => exact Harmless.empty
  next operation prepared =>
      obtain ⟨sameTask, sameMode, -⟩ := prepare_eq_ok prepared
      rw [← sameTask, ← sameMode]
      refine CasOperation.run_meets.mono (fun past action acts => ?_) fun past result ended => ?_
      · cases acts with
        | commit expected made =>
            obtain ⟨current, read, decided⟩ := made
            exact .commit expected ⟨operation, current, prepared, sameTask ▸ read, decided⟩
        | read => exact .read
        | refreshLatest => exact .refreshLatest
        | writeLatest committed => exact .writeLatest committed
      · cases result with
        | ok record => exact ⟨operation, rfl, ended⟩
        | error error => exact ended

/-! ## Claims -/

section Claims

variable {taskId executionOwner cancelToken : String} {observedAtMs : U128}

def Claims (taskId executionOwner cancelToken : String) (observedAtMs : U128)
    (past : List (storeInterface directory).Observation) (proposed : TaskStateSnapshot) : Prop :=
  ∃ current, ⟨.read (some taskId), .ok current⟩ ∈ past ∧
    FileSystemTaskStateStore.claimCandidate taskId executionOwner cancelToken observedAtMs
      current = .ok (some proposed)

/-- The claim was made from a record that the call has committed or read back. A failure is
harmless, unless the record it has committed is no claim. -/
def ClaimEnded (store : FileSystemTaskStateStore directory) (taskId : String)
    (past : List (storeInterface directory).Observation) :
    Except EvaError (Option TaskExecutionClaim) → Prop
  | .ok (some claim) =>
      ∃ record, FileSystemTaskStateStore.taskExecutionClaim record = .ok claim ∧
        ((∃ proposed, ⟨.commit store proposed proposed.recordVersion .compareAndSet,
            .ok record⟩ ∈ past) ∨
          ⟨.refreshLatest store taskId, .ok record⟩ ∈ past)
  | .ok none => True
  | .error error => Harmless past ∨ ∃ proposed committed,
      ⟨.commit store proposed proposed.recordVersion .compareAndSet, .ok committed⟩ ∈ past ∧
        FileSystemTaskStateStore.taskExecutionClaim committed = .error error

theorem afterFailedClaim_meets (harmless : Harmless past) :
    (store.afterFailedClaim taskId executionOwner cancelToken snapshot candidate error).Meets
      (Acts store taskId .compareAndSet proposes) (ClaimEnded store taskId) past := by
  refine ⟨.read, fun response => ?_⟩
  have after := harmless.read (some taskId) response
  cases response with
  | error error => exact .inl after
  | ok current =>
      dsimp only
      split
      · exact .inl after
      split
      · refine ⟨.refreshLatest, fun response => ?_⟩
        have refreshed := after.refreshLatest store taskId response
        cases response with
        | error error => exact .inl refreshed
        | ok record =>
            dsimp only
            cases made : FileSystemTaskStateStore.taskExecutionClaim record with
            | error error => exact .inl refreshed
            | ok claim => exact ⟨record, made, .inr (by simp)⟩
      · trivial

theorem tryClaimQueued_meets :
    (store.tryClaimQueued taskId executionOwner cancelToken observedAtMs).Meets
      (Acts store taskId .compareAndSet (Claims taskId executionOwner cancelToken observedAtMs))
      (ClaimEnded store taskId) [] := by
  unfold FileSystemTaskStateStore.tryClaimQueued
  split
  · exact .inl .empty
  · exact .inl .empty
  refine ⟨.read, fun response => ?_⟩
  have after : Harmless [⟨.read (some taskId), response⟩] :=
    Harmless.empty.read (some taskId) response
  cases response with
  | error error => exact .inl after
  | ok current =>
      dsimp only
      split
      · exact .inl after
      · trivial
      next candidate claimed =>
          refine Program.Meets.bind
            (commitSnapshot_meets after rfl ⟨current, by simp, claimed⟩ ?_ ?_)
          · intro later record observed
            dsimp only [Program.Meets]
            cases made : FileSystemTaskStateStore.taskExecutionClaim record with
            | error error => exact .inr ⟨candidate, record, observed, made⟩
            | ok claim => exact ⟨record, made, .inl ⟨candidate, observed⟩⟩
          · intro later error still
            exact afterFailedClaim_meets still

end Claims

/-! ## Listings -/

/-- The files that a listing reads are those it has found. -/
inductive ListActs (past : List (storeInterface directory).Observation) :
    StoreAction directory → Prop where
  | names : ListActs past .taskFileNames
  | record {names} (found : ⟨.taskFileNames, .ok names⟩ ∈ past) (listed : name ∈ names) :
      ListActs past (.readRecord name)

/-- A listing is harmless and fails with the error of one of its readings. -/
structure ListEnded (past : List (storeInterface directory).Observation)
    (result : Except EvaError (List TaskStateSnapshot)) : Prop where
  harmless : Harmless past
  failed : ∀ error, result = .error error → ⟨.taskFileNames, .error error⟩ ∈ past ∨
    ∃ name, ⟨.readRecord name, .error error⟩ ∈ past

theorem readRecords_meets (harmless : Harmless past)
    (found : ⟨.taskFileNames, .ok names⟩ ∈ past) (rest : ∀ name ∈ remaining, name ∈ names) :
    (readRecords remaining : StoreProgram directory _).Meets ListActs ListEnded past := by
  induction remaining generalizing past with
  | nil => exact ⟨harmless, nofun⟩
  | cons name remaining induction =>
      refine ⟨.record found (rest name List.mem_cons_self), fun response => ?_⟩
      cases response with
      | error error =>
          refine ⟨harmless.other (by simp), ?_⟩
          rintro _ ⟨⟩
          exact .inr ⟨name, by simp⟩
      | ok snapshot =>
          refine Program.Meets.map ((induction (harmless.other (by simp))
            (List.mem_append_left _ found) fun other member =>
              rest other (List.mem_cons_of_mem _ member)).mono (fun _ _ acts => acts) ?_)
          intro later result ended
          refine ⟨ended.harmless, fun error failed => ended.failed error ?_⟩
          cases result <;> simp_all [Except.map]

theorem listRecords_meets :
    (listRecords : StoreProgram directory _).Meets ListActs ListEnded [] := by
  refine ⟨.names, fun response => ?_⟩
  cases response with
  | error error =>
      refine ⟨Harmless.empty.other (by simp), ?_⟩
      rintro _ ⟨⟩
      exact .inl (by simp)
  | ok names =>
      exact readRecords_meets (Harmless.empty.other (by simp)) (by simp) fun _ member => member

/-! ## Calls -/

/-- A call commits what the caller passed, or a record computed from one it has read. -/
def CommitsFor (call : StoreCall directory) (past : List (storeInterface directory).Observation)
    (chosen : TaskStateCommitMode) (proposed : TaskStateSnapshot) : Prop :=
  (∀ previous, (chosen = .create → previous = none) → Proposes call previous chosen proposed) ∨
    ∃ taskId current, call.operation.taskId = some taskId ∧
      ⟨.read (some taskId), .ok current⟩ ∈ past ∧
      SameRecord current proposed ∧ Proposes call (some current) chosen proposed

structure CallActs (call : StoreCall directory)
    (past : List (storeInterface directory).Observation) (action : StoreAction directory) :
    Prop where
  onTask : ∀ taskId, call.operation.taskId = some taskId → TaskAction call.store taskId action
  commits : ∀ {owner proposed version chosen}, action = .commit owner proposed version chosen →
    owner = call.store ∧ version = proposed.recordVersion ∧ CommitsFor call past chosen proposed

def CallEnded (call : StoreCall directory) (past : List (storeInterface directory).Observation) :
    Except EvaError StoreReply → Prop
  | .error error => Harmless past ∨
      ∃ taskId executionOwner cancelToken observedAtMs proposed committed,
        call.operation = .tryClaimQueued taskId executionOwner cancelToken observedAtMs ∧
        ⟨.commit call.store proposed proposed.recordVersion .compareAndSet,
          .ok committed⟩ ∈ past ∧
        FileSystemTaskStateStore.taskExecutionClaim committed = .error error
  | .ok (.claim (some claim)) =>
      ∃ record, FileSystemTaskStateStore.taskExecutionClaim record = .ok claim ∧
        ((∃ store proposed version mode, ⟨.commit store proposed version mode,
            .ok record⟩ ∈ past) ∨
          ∃ store taskId, ⟨.refreshLatest store taskId, .ok record⟩ ∈ past)
  | .ok (.record record) => ∀ command, call.operation = .command command →
      ∃ operation, operation.taskId = command.taskId ∧ Obtained call.store operation record past
  | .ok _ => True

section Calls

variable {call : StoreCall directory}

theorem Acts.callActs (acts : Acts call.store taskId mode proposes past action)
    (named : call.operation.taskId = some taskId)
    (source : ∀ proposed, proposes past proposed → CommitsFor call past mode proposed) :
    CallActs call past action where
  onTask := by
    intro other same
    cases named.symm.trans same
    exact acts.taskAction
  commits := by
    rintro owner proposed version chosen rfl
    cases acts with
    | commit expected made => exact ⟨rfl, expected, source proposed made⟩

theorem CallActs.silent
    (onTask : ∀ taskId, call.operation.taskId = some taskId → TaskAction call.store taskId action)
    (silent : ∀ owner proposed version chosen, action ≠ .commit owner proposed version chosen) :
    CallActs call past action :=
  ⟨onTask, fun same => absurd same (silent _ _ _ _)⟩

private theorem commitSnapshot_callMeets (harmless : Harmless past)
    (named : call.operation.taskId = some taskId)
    (noCommand : ∀ command, call.operation ≠ .command command)
    (expected : version = proposed.recordVersion) (source : CommitsFor call past mode proposed) :
    (call.store.commitSnapshot proposed version mode).Meets (CallActs call)
      (fun past result => CallEnded call past (result.map .record)) past := by
  have meets := @commitSnapshot_meets directory call.store past taskId mode
    (fun past => CommitsFor call past mode) version proposed
    (fun past result => CallEnded call past (result.map .record)) harmless expected source
    (fun _ _ _ command called => absurd called (noCommand command))
    (fun _ _ harmless => .inl harmless)
  exact meets.mono (fun _ _ acts => acts.callActs named fun _ made => made) fun _ _ ended => ended

theorem StoreCall.program_meets : call.program.Meets (CallActs call) (CallEnded call) [] := by
  unfold StoreCall.program
  split
  next command called =>
      have named : call.operation.taskId = some command.taskId := by rw [called]; rfl
      refine .map (TaskCommand.program_meets.mono (fun past action acts => ?_) ?_)
      · refine acts.callActs named ?_
        rintro proposed ⟨operation, current, prepared, read, decided⟩
        have step := (TaskCommand.prepare_eq_ok prepared).2.2 decided
        exact .inr ⟨_, current, named, read, step.sameRecord, .command called step⟩
      · intro past result ended
        cases result with
        | error error => exact .inl ended
        | ok record =>
            intro other same
            cases called.symm.trans same
            exact ended
  next taskId executionOwner cancelToken observedAtMs called =>
      have named : call.operation.taskId = some taskId := by rw [called]; rfl
      refine .map (tryClaimQueued_meets.mono (fun past action acts => ?_) ?_)
      · refine acts.callActs named ?_
        rintro proposed ⟨current, read, claimed⟩
        have same : SameRecord current proposed := by
          obtain ⟨-, -, -, -, -, rfl⟩ := claimCandidate_eq_ok claimed
          exact ⟨rfl, rfl⟩
        exact .inr ⟨_, current, named, read, same, .claim called claimed⟩
      · intro past result ended
        rcases result with error | (_ | claim)
        · rcases ended with harmless | ⟨proposed, committed, member, made⟩
          · exact .inl harmless
          · exact .inr ⟨_, _, _, _, proposed, committed, called, member, made⟩
        · trivial
        · obtain ⟨record, made, ⟨proposed, committed⟩ | refreshed⟩ := ended
          · exact ⟨record, made, .inl ⟨_, _, _, _, committed⟩⟩
          · exact ⟨record, made, .inr ⟨_, _, refreshed⟩⟩
  next taskId update called =>
      have named : call.operation.taskId = some taskId := by rw [called]; rfl
      refine .map ⟨.silent ?_ (by simp), fun response => ?_⟩
      · intro other same
        cases named.symm.trans same
        exact .read
      have after : Harmless [⟨.read (some taskId), response⟩] :=
        Harmless.empty.read (some taskId) response
      cases response with
      | error error => exact .inl after
      | ok current =>
          dsimp only
          split
          next => exact .inl after
          next changed updated =>
              have version : changed.recordVersion = current.recordVersion := by
                simp only [FileSystemTaskStateStore.updated, bind_eq_ok_iff, exists_unit_iff,
                  rejectIf_eq_ok_iff, pure_eq_ok_iff, not_or, not_not] at updated
                obtain ⟨snapshot, -, ⟨version, -⟩, rfl⟩ := updated
                exact version
              refine commitSnapshot_callMeets after named (by simp [called]) rfl ?_
              by_cases kept : changed.taskId = current.taskId
              · exact .inr ⟨taskId, current, named, by simp, ⟨version, kept⟩,
                  .update called updated kept⟩
              · exact .inl fun previous _ => .rename called updated kept
  next snapshot called =>
      refine .map ?_
      unfold FileSystemTaskStateStore.create
      split
      next => exact .inl .empty
      next fresh =>
          refine commitSnapshot_callMeets .empty (by rw [called]; rfl) (by simp [called])
            (not_not.mp (rejectIf_eq_ok_iff.mp fresh)).symm (.inl fun previous absent => ?_)
          rw [absent rfl]
          exact .create called
  next snapshot called =>
      exact .map (commitSnapshot_callMeets .empty (by rw [called]; rfl) (by simp [called]) rfl
        (.inl fun previous _ => .compareAndSet called))
  next taskId called =>
      refine ⟨.silent ?_ (by simp), fun response => ?_⟩
      · intro other same
        rw [called] at same
        cases same
        exact .refreshLatest
      · cases response with
        | error error => exact .inl (Harmless.empty.refreshLatest call.store taskId _)
        | ok record => exact fun command other => by cases called.symm.trans other
  next taskId called =>
      refine ⟨.silent ?_ (by simp), fun response => ?_⟩
      · intro other same
        rw [called] at same
        cases same
        exact .read
      · cases response with
        | error error => exact .inl (Harmless.empty.read taskId _)
        | ok record => exact fun command other => by cases called.symm.trans other
  next called =>
      refine .map (listRecords_meets.mono (fun past action acts => ?_) fun past result ended => ?_)
      · refine .silent (fun taskId named => ?_) ?_
        · rw [called] at named
          cases named
        · cases acts <;> simp
      · cases result with
        | error error => exact .inl ended.harmless
        | ok records => trivial
  next processId called =>
      refine ⟨.silent (fun taskId named => ?_) (by simp), fun response => ?_⟩
      · rw [called] at named
        cases named
      · cases response with
        | error error => exact .inl (Harmless.empty.other (by simp))
        | ok guard => trivial

theorem StoreCall.acts (emits : call.program.Emits past action) : CallActs call past action :=
  StoreCall.program_meets.emits emits

theorem StoreCall.ended (returns : call.program.Returns past result) :
    CallEnded call past result :=
  StoreCall.program_meets.returns returns

end Calls

end Eva.Storage
