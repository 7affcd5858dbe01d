import Eva.Storage.Provider.AdmissionCalls
import Eva.Storage.Provider.ProcessTable

/-! # The history of a provider process

The locks make calls come one after the other; each may fail at any of its steps. As
long as the names of files keep the sessions apart, the commits of a session build on
each other, and other sessions keep what is read for them.
-/

namespace Eva.Storage

open RecordFiles FileSystemProviderProcessTable

/-! ## Calls -/

structure ProcessCall where
  writer : Option StateWriter
  environment : ProcessTableEnvironment
  candidate : ProviderProcessSnapshot

structure ProcessCommit where
  candidate : ProviderProcessSnapshot
  committed : ProviderProcessSnapshot

namespace ProcessCall

variable (processDir : String) (call : ProcessCall) (files : Files)

def table : FileSystemProviderProcessTable where
  processDir := processDir
  writer := call.writer

/-- The check that comes before the write. -/
abbrev Prepares (committed : ProviderProcessSnapshot) : Prop :=
  (call.table processDir).prepare files call.environment call.candidate = .ok committed

def after : Files := ((call.table processDir).compareAndSet files call.environment
  call.candidate).1

/-- The record that replaced a file, whether or not the call reported success. -/
def written : Option ProviderProcessSnapshot :=
  match (call.table processDir).prepare files call.environment call.candidate,
      call.environment.write with
  | .error _, _ | .ok _, .failed _ => none
  | .ok committed, .written | .ok committed, .unsynced _ => some committed

end ProcessCall

def currentProcess (files : Files) (sessionId : String) : Option ProviderProcessSnapshot :=
  (FileSystemProviderProcessTable.read ⟨"", none⟩ files none sessionId).toOption

def afterCalls (processDir : String) (files : Files) (calls : List ProcessCall) : Files :=
  calls.foldl (fun files call => call.after processDir files) files

def processCommits (processDir sessionId : String) :
    Files → List ProcessCall → List ProcessCommit
  | _, [] => []
  | files, call :: calls =>
      let later := processCommits processDir sessionId (call.after processDir files) calls
      match call.written processDir files with
      | some committed =>
          if call.candidate.sessionId = sessionId then ⟨call.candidate, committed⟩ :: later
          else later
      | none => later

/-! ## Commits that build on each other -/

structure ProcessCommit.Follows (base : Option ProviderProcessSnapshot)
    (commit : ProcessCommit) : Prop where
  expected : commit.candidate.recordVersion = processVersion base
  owner : commit.candidate.ownerGeneration = (base.map (·.ownerGeneration)).getD 0
  version : commit.committed.recordVersion.value = (processVersion base).value + 1
  identity : ∀ previous ∈ base, commit.committed.identity = previous.identity

def SerialCommits : Option ProviderProcessSnapshot → List ProcessCommit → Prop
  | _, [] => True
  | base, commit :: rest => commit.Follows base ∧ SerialCommits (some commit.committed) rest

theorem SerialCommits.of_stored (serial : SerialCommits (some record.stored) commits) :
    SerialCommits (some record) commits := by
  cases commits with
  | nil => trivial
  | cons commit rest =>
      obtain ⟨⟨expected, owner, version, identity⟩, later⟩ := serial
      refine ⟨⟨expected, owner, version, ?_⟩, later⟩
      rintro previous ⟨⟩
      exact identity record.stored rfl

theorem SerialCommits.versions (serial : SerialCommits base commits) :
    commits.map (·.committed.recordVersion.value) =
      List.range' ((processVersion base).value + 1) commits.length := by
  induction commits generalizing base with
  | nil => rfl
  | cons commit rest induction =>
      obtain ⟨follows, later⟩ := serial
      rw [List.map_cons, List.length_cons, List.range'_succ, induction later, ← follows.version]
      rfl

/-! ## One call -/

namespace ProcessCall

variable {processDir : String} {call : ProcessCall} {files : Files}

/-- What a prepared record was checked against. -/
structure Prepared (call : ProcessCall) (files : Files) (committed : ProviderProcessSnapshot) :
    Prop where
  session : committed.sessionId = call.candidate.sessionId
  follows : ProcessCommit.Follows (currentProcess files call.candidate.sessionId)
    ⟨call.candidate, committed⟩
  valid : committed.validateRecord true = .ok ()
  owned : committed.ownerGeneration ≠ 0

theorem sessionVisible {snapshot : ProviderProcessSnapshot}
    (valid : snapshot.validateRecord persisted = .ok ()) :
    Text.isBlank snapshot.sessionId.toList = false := by
  simp only [ProviderProcessSnapshot.validateRecord, seq_eq_ok_iff, rejectIf_eq_ok_iff,
    not_or, Bool.not_eq_true] at valid
  exact valid.1.1

theorem readProviderSnapshot_eq_ok {table : FileSystemProviderProcessTable}
    (ran : table.readProviderSnapshot files readError name = .ok current) :
    (files.lookup name = none ∧ current = none) ∨
      ∃ data snapshot, files.lookup name = some data ∧
        ProviderProcessSnapshot.fromStorage data = .ok snapshot ∧ current = some snapshot := by
  unfold readProviderSnapshot at ran
  split at ran
  next => cases ran
  next missing =>
    cases ran
    exact .inl ⟨missing, rfl⟩
  next data found =>
    cases parsed : ProviderProcessSnapshot.fromStorage data with
    | error error => simp [parsed, Except.mapError, Except.map] at ran
    | ok snapshot =>
        rw [parsed] at ran
        cases ran
        exact .inr ⟨data, snapshot, found, parsed, rfl⟩

theorem currentProcess_of_found (visible : Text.isBlank sessionId.toList = false)
    (named : (if holds files (snapshotFileName sessionId) then snapshotFileName sessionId
      else legacyFileName sessionId) = name)
    (found : files.lookup name = some data)
    (parsed : ProviderProcessSnapshot.fromStorage data = .ok snapshot)
    (session : snapshot.sessionId = sessionId) :
    currentProcess files sessionId = some snapshot := by
  have checked : checkSession ⟨"", none⟩ name sessionId snapshot = .ok () :=
    rejectIf_eq_ok_iff.mpr (not_not.mpr session)
  have ran : readProviderSnapshot ⟨"", none⟩ files none name = .ok (some snapshot) := by
    simp only [readProviderSnapshot, found, parsed]
    rfl
  simp only [currentProcess, FileSystemProviderProcessTable.read, visible, named, ran, ok_bind,
    orReject, checked, rejectIf]
  rfl

theorem currentProcess_of_missing (canonical : files.lookup (snapshotFileName sessionId) = none)
    (legacy : files.lookup (legacyFileName sessionId) = none) :
    currentProcess files sessionId = none := by
  simp only [currentProcess, FileSystemProviderProcessTable.read, holds, canonical,
    Option.isSome_none, Bool.false_eq_true, if_false, readProviderSnapshot, legacy, rejectIf]
  split <;> rfl

theorem currentProcess_of_read {table : FileSystemProviderProcessTable}
    (visible : Text.isBlank sessionId.toList = false)
    (ran : table.readProviderSnapshot files readError (currentFileName files sessionId) =
      .ok current)
    (named : ∀ found ∈ current, found.sessionId = sessionId) :
    currentProcess files sessionId = current := by
  by_cases canonical : holds files (snapshotFileName sessionId)
  · rw [currentFileName, if_pos canonical] at ran
    rcases readProviderSnapshot_eq_ok ran with ⟨missing, -⟩ | ⟨data, snapshot, found, parsed, rfl⟩
    · simp [holds, missing] at canonical
    · exact currentProcess_of_found visible (if_pos canonical) found parsed (named _ rfl)
  · rw [currentFileName, if_neg canonical] at ran
    have absent : files.lookup (snapshotFileName sessionId) = none :=
      Option.not_isSome_iff_eq_none.mp canonical
    by_cases legacy : holds files (legacyFileName sessionId)
    · rw [if_pos legacy] at ran
      rcases readProviderSnapshot_eq_ok ran with
        ⟨missing, -⟩ | ⟨data, snapshot, found, parsed, rfl⟩
      · simp [holds, missing] at legacy
      · exact currentProcess_of_found visible (if_neg canonical) found parsed (named _ rfl)
    · rw [if_neg legacy] at ran
      have missing : files.lookup (legacyFileName sessionId) = none :=
        Option.not_isSome_iff_eq_none.mp legacy
      rcases readProviderSnapshot_eq_ok ran with ⟨-, rfl⟩ | ⟨data, _, found, _⟩
      · exact currentProcess_of_missing absent missing
      · rw [absent] at found
        cases found

theorem checkCurrent_eq_ok {table : FileSystemProviderProcessTable}
    {candidate : ProviderProcessSnapshot}
    (checked : table.checkCurrent files candidate current = .ok ()) :
    (∀ found ∈ current, found.sessionId = candidate.sessionId) ∧
      candidate.ownerGeneration = (current.map (·.ownerGeneration)).getD 0 ∧
      ∀ found ∈ current, candidate.identity = found.identity := by
  cases current with
  | none =>
      simp only [checkCurrent, rejectIf_eq_ok_iff, not_not] at checked
      exact ⟨by simp, checked, by simp⟩
  | some current =>
      simp only [checkCurrent, checkSession, ensureImmutableIdentity, seq_eq_ok_iff,
        rejectIf_eq_ok_iff, not_not] at checked
      obtain ⟨session, owner, identity⟩ := checked
      refine ⟨?_, owner, ?_⟩
      · rintro found ⟨⟩
        exact session
      · rintro found ⟨⟩
        exact identity.symm

theorem prepared
    (ran : call.Prepares processDir files committed) : call.Prepared files committed := by
  simp only [Prepares, prepare, bind_eq_ok_iff, exists_unit_iff, orReject_eq_ok_iff] at ran
  obtain ⟨candidateValid, writer, owner, ran⟩ := ran
  split at ran
  next => cases ran
  next =>
    simp only [nextSnapshot, bind_eq_ok_iff, exists_unit_iff, rejectIf_eq_ok_iff, not_not,
      pure_eq_ok_iff] at ran
    obtain ⟨current, read, checked, expected, version, next, valid, rfl⟩ := ran
    obtain ⟨session, owner, identity⟩ := checkCurrent_eq_ok checked
    have base := currentProcess_of_read (sessionVisible candidateValid) read session
    have advanced : version.value = (processVersion current).value + 1 :=
      Unsigned.checkedAdd_eq_some_iff.mp (orReject_eq_ok_iff.mp next)
    refine ⟨rfl, ?_, valid, writer.acquired⟩
    rw [base]
    exact ⟨expected.symm, owner, advanced, identity⟩

theorem lookup_removeLegacy {table : FileSystemProviderProcessTable}
    (kept : name = snapshotFileName sessionId ∨ name ≠ legacyFileName sessionId) :
    (table.removeLegacy files removeError sessionId).1.lookup name = files.lookup name := by
  unfold removeLegacy
  dsimp only
  split
  next removed =>
    cases removeError with
    | some ioError => rfl
    | none =>
        apply lookup_erase_of_ne
        rcases kept with rfl | different
        · exact removed.1.symm
        · exact different
  next => rfl

theorem lookup_commit {table : FileSystemProviderProcessTable}
    {environment : ProcessTableEnvironment}
    (kept : name = snapshotFileName committed.sessionId ∨
      name ≠ legacyFileName committed.sessionId) :
    (table.commit files environment committed).1.lookup name =
      (environment.write.files (snapshotFileName committed.sessionId) committed.toStorage
        files).lookup name := by
  unfold commit
  split
  next => rfl
  next => exact lookup_removeLegacy kept

theorem lookup_after_of_ne (canonical : name ≠ snapshotFileName call.candidate.sessionId)
    (legacy : name ≠ legacyFileName call.candidate.sessionId) :
    (call.after processDir files).lookup name = files.lookup name := by
  unfold after compareAndSet
  split
  next => rfl
  next committed ran =>
    have session := (prepared ran).session
    rw [← session] at canonical legacy
    rw [lookup_commit (.inr legacy), WriteOutcome.lookup_files_of_ne canonical]

theorem after_of_written_none (unwritten : call.written processDir files = none) :
    call.after processDir files = files := by
  unfold after compareAndSet
  unfold written at unwritten
  cases ran : (call.table processDir).prepare files call.environment call.candidate with
  | error error => rfl
  | ok committed =>
      cases outcome : call.environment.write with
      | failed ioError => simp [commit, outcome, WriteOutcome.result, WriteOutcome.files]
      | written => simp [ran, outcome] at unwritten
      | unsynced ioError => simp [ran, outcome] at unwritten

section

variable (wrote : call.written processDir files = some committed)
include wrote

theorem prepare_of_written :
    call.Prepares processDir files committed ∧
      ∀ name content, call.environment.write.files name content files =
        (name, content) :: files := by
  unfold written at wrote
  split at wrote
  next => cases wrote
  next => cases wrote
  next ran outcome =>
    cases wrote
    exact ⟨ran, fun name content => by rw [outcome]; rfl⟩
  next ran outcome =>
    cases wrote
    exact ⟨ran, fun name content => by rw [outcome]; rfl⟩

theorem lookup_after_written :
    (call.after processDir files).lookup (snapshotFileName call.candidate.sessionId) =
      some committed.toStorage := by
  obtain ⟨ran, replaced⟩ := prepare_of_written wrote
  have session := (prepared ran).session
  unfold after compareAndSet
  rw [ran, ← session]
  rw [lookup_commit (.inl rfl), replaced, List.lookup_cons, beq_self_eq_true]

theorem currentProcess_after_written :
    currentProcess (call.after processDir files) call.candidate.sessionId =
      some committed.stored := by
  have checked := prepared (prepare_of_written wrote).1
  have found := lookup_after_written wrote
  have visible := sessionVisible checked.valid
  rw [checked.session] at visible
  refine currentProcess_of_found visible (if_pos ?_) found
    (ProviderProcessSnapshot.fromStorage_toStorage checked.valid checked.owned) checked.session
  rw [holds, found]
  rfl

end

end ProcessCall

/-! ## Sessions that are kept apart -/

/-- No two of the sessions share the name of a file, new or old. -/
structure NamesApart (sessions : String → Prop) : Prop where
  canonical : ∀ first second, sessions first → sessions second → first ≠ second →
    snapshotFileName first ≠ snapshotFileName second
  mixed : ∀ first second, sessions first → sessions second → first ≠ second →
    legacyFileName first ≠ snapshotFileName second
  legacy : ∀ first second, sessions first → sessions second → first ≠ second →
    legacyFileName first ≠ legacyFileName second

section History

variable {sessions : String → Prop} {processDir : String} {files : Files}

theorem lookup_after_other (apart : NamesApart sessions) {call : ProcessCall}
    (used : sessions call.candidate.sessionId) {other : String} (observed : sessions other)
    (different : other ≠ call.candidate.sessionId) :
    (call.after processDir files).lookup (snapshotFileName other) =
        files.lookup (snapshotFileName other) ∧
      (call.after processDir files).lookup (legacyFileName other) =
        files.lookup (legacyFileName other) := by
  constructor
  · exact ProcessCall.lookup_after_of_ne (apart.canonical _ _ observed used different)
      (apart.mixed _ _ used observed different.symm).symm
  · exact ProcessCall.lookup_after_of_ne (apart.mixed _ _ observed used different)
      (apart.legacy _ _ observed used different)

theorem read_after_other (apart : NamesApart sessions) {call : ProcessCall}
    (used : sessions call.candidate.sessionId) (observed : sessions other)
    (different : other ≠ call.candidate.sessionId) (table : FileSystemProviderProcessTable)
    (readError : Option String) :
    table.read (call.after processDir files) readError other =
      table.read files readError other := by
  obtain ⟨canonical, legacy⟩ :=
    @lookup_after_other sessions processDir files apart call used other observed different
  have present : holds (call.after processDir files) (snapshotFileName other) =
      holds files (snapshotFileName other) := congrArg Option.isSome canonical
  simp only [FileSystemProviderProcessTable.read, present]
  split
  next => simp only [readProviderSnapshot, canonical]
  next => simp only [readProviderSnapshot, legacy]

theorem currentProcess_after_other (apart : NamesApart sessions) {call : ProcessCall}
    (used : sessions call.candidate.sessionId) (observed : sessions other)
    (different : other ≠ call.candidate.sessionId) :
    currentProcess (call.after processDir files) other = currentProcess files other :=
  congrArg Except.toOption (read_after_other apart used observed different _ none)

theorem commits_afterCalls (apart : NamesApart sessions) {sessionId : String}
    (observed : sessions sessionId) (calls : List ProcessCall)
    (used : ∀ call ∈ calls, sessions call.candidate.sessionId) :
    SerialCommits (currentProcess files sessionId)
        (processCommits processDir sessionId files calls) ∧
      currentProcess (afterCalls processDir files calls) sessionId =
        ((processCommits processDir sessionId files calls).getLast?.map
          (·.committed.stored)).or (currentProcess files sessionId) := by
  induction calls generalizing files with
  | nil => exact ⟨trivial, rfl⟩
  | cons call calls induction =>
      rw [List.forall_mem_cons] at used
      have later := @induction (call.after processDir files) used.2
      rw [afterCalls] at later
      rw [processCommits, afterCalls, List.foldl_cons]
      by_cases own : call.candidate.sessionId = sessionId
      · subst own
        cases wrote : call.written processDir files with
        | none =>
            rw [ProcessCall.after_of_written_none wrote] at later ⊢
            exact later
        | some committed =>
            rw [ProcessCall.currentProcess_after_written wrote] at later
            simp only [if_true]
            refine ⟨⟨(ProcessCall.prepared (ProcessCall.prepare_of_written wrote).1).follows,
              later.1.of_stored⟩, ?_⟩
            rw [later.2]
            cases rest : processCommits processDir call.candidate.sessionId
                (call.after processDir files) calls with
            | nil => rfl
            | cons commit others => simp [List.getLast?_cons]
      · rw [currentProcess_after_other apart used.1 observed (Ne.symm own)] at later
        simp only [own, if_false]
        split <;> exact later

/-- As long as file names keep the sessions apart, the commits of each session build on
each other, and no call changes what is read for another session. -/
theorem process_commits_build_up (apart : NamesApart sessions) (calls : List ProcessCall)
    (used : ∀ call ∈ calls, sessions call.candidate.sessionId) :
    (∀ sessionId, sessions sessionId →
      let commits := processCommits processDir sessionId files calls
      let before := currentProcess files sessionId
      SerialCommits before commits ∧
        commits.map (·.committed.recordVersion.value) =
          List.range' ((processVersion before).value + 1) commits.length ∧
        currentProcess (afterCalls processDir files calls) sessionId =
          (commits.getLast?.map (·.committed.stored)).or before) ∧
      ∀ earlier call later, calls = earlier ++ call :: later →
        ∀ other, sessions other → other ≠ call.candidate.sessionId →
          ∀ (table : FileSystemProviderProcessTable) (readError : Option String),
            table.read (call.after processDir (afterCalls processDir files earlier)) readError
                other =
              table.read (afterCalls processDir files earlier) readError other := by
  constructor
  · intro sessionId observed
    obtain ⟨serial, last⟩ :=
      @commits_afterCalls sessions processDir files apart sessionId observed calls used
    exact ⟨serial, serial.versions, last⟩
  · rintro earlier call later rfl other observed different table readError
    exact read_after_other apart (used call (by simp)) observed different table readError

end History

/-! ## Calls that succeed -/

def ProcessTableEnvironment.working : ProcessTableEnvironment where
  lockError := none
  readError := none
  write := .written
  removeError := none

namespace ProcessCall

variable {processDir : String} {call : ProcessCall}

theorem prepare_of_current {writer : StateWriter} (current : Option ProviderProcessSnapshot)
    (works : call.environment = .working)
    (owner : call.writer = some writer) (valid : call.candidate.validateRecord false = .ok ())
    (read : (call.table processDir).readProviderSnapshot files none
      (currentFileName files call.candidate.sessionId) = .ok current)
    (checked : (call.table processDir).checkCurrent files call.candidate current = .ok ())
    (expected : processVersion current = call.candidate.recordVersion)
    (next : (processVersion current).checkedNext = .ok committed.recordVersion)
    (built : committed = { call.candidate with
      recordVersion := committed.recordVersion
      ownerGeneration := writer.generation })
    (final : committed.validateRecord true = .ok ()) :
    call.Prepares processDir files committed := by
  have written : (call.table processDir).writer = some writer := owner
  simp only [Prepares, prepare, works, ProcessTableEnvironment.working, valid, written, orReject,
    ok_bind, nextSnapshot, read, checked, rejectIf, ← expected, ne_eq, not_true_eq_false, if_false,
    next]
  simp only [← built, final, ok_bind]
  rfl

theorem after_of_prepare (works : call.environment = .working)
    (ran : call.Prepares processDir files committed) :
    call.after processDir files =
      let written := (snapshotFileName committed.sessionId, committed.toStorage) :: files
      let legacy := legacyFileName committed.sessionId
      if legacy ≠ snapshotFileName committed.sessionId ∧ holds written legacy then
        erase legacy written
      else written := by
  rw [after, compareAndSet, ran, works]
  change ((call.table processDir).removeLegacy
    ((snapshotFileName committed.sessionId, committed.toStorage) :: files) none
    committed.sessionId).1 = _
  unfold removeLegacy
  rw [apply_ite Prod.fst]

end ProcessCall

/-! ## Two sessions -/

def exampleProcess (sessionId : String) (version : StateVersion) (owner : WriterGeneration) :
    ProviderProcessSnapshot :=
  { ProviderProcessSnapshot.running 1 sessionId "process-1"
      ⟨"request-1", by decide⟩ exampleAdapterId
      exampleCapability "stdio" "digest" "provider --serve" "none" with
    recordVersion := version
    ownerGeneration := owner }

def exampleCall (sessionId : String) (version : StateVersion) (owner : WriterGeneration) :
    ProcessCall where
  writer := some ⟨1, Unsigned.one_ne_zero⟩
  environment := .working
  candidate := exampleProcess sessionId version owner

section Example

variable {sessionId : String}

private theorem validateRecord_example (visible : Text.isBlank sessionId.toList = false)
      {persisted : Bool}
    (versioned : ¬(persisted ∧ version = 0)) :
    (exampleProcess sessionId version owner).validateRecord persisted = .ok () := by
  have session : Text.isBlank (exampleProcess sessionId version owner).sessionId.toList = false :=
    visible
  have numbered : (exampleProcess sessionId version owner).recordVersion = version := rfl
  simp only [ProviderProcessSnapshot.validateRecord, session, numbered, seq_eq_ok_iff,
    rejectIf_eq_ok_iff, versioned, not_false_eq_true, and_true]
  have process : ¬(false = true ∨ Text.isBlank "process-1".toList = true) := by decide
  have transport : ¬(Text.isBlank "stdio".toList = true ∨ Text.isBlank "running".toList = true) :=
    by decide
  exact ⟨process, transport, rfl, rfl⟩

private theorem prepare_example_new (visible : Text.isBlank sessionId.toList = false)
    (canonical : files.lookup (snapshotFileName sessionId) = none)
    (legacy : files.lookup (legacyFileName sessionId) = none) :
    (exampleCall sessionId 0 0).Prepares "" files (exampleProcess sessionId 1 1) := by
  have name : currentFileName files sessionId = snapshotFileName sessionId := by
    simp [currentFileName, holds, canonical, legacy]
  refine ProcessCall.prepare_of_current none rfl rfl (validateRecord_example visible (by simp)) ?_
    rfl rfl rfl rfl (validateRecord_example visible (by decide))
  change readProviderSnapshot _ files none (currentFileName files sessionId) = _
  simp only [name, readProviderSnapshot, canonical]

private theorem prepare_example_next (visible : Text.isBlank sessionId.toList = false)
    (found : files.lookup (snapshotFileName sessionId) =
      some (exampleProcess sessionId 1 1).toStorage) :
    (exampleCall sessionId 1 1).Prepares "" files (exampleProcess sessionId 2 1) := by
  have name : currentFileName files sessionId = snapshotFileName sessionId := by
    simp [currentFileName, holds, found]
  have parsed : ProviderProcessSnapshot.fromStorage (exampleProcess sessionId 1 1).toStorage =
      .ok (exampleProcess sessionId 1 1) :=
    ProviderProcessSnapshot.fromStorage_toStorage (validateRecord_example visible (by decide))
      (show (1 : WriterGeneration) ≠ 0 by decide)
  refine ProcessCall.prepare_of_current (some (exampleProcess sessionId 1 1)) rfl rfl
    (validateRecord_example visible (by simp)) ?_ ?_ rfl rfl rfl
    (validateRecord_example visible (by decide))
  · change readProviderSnapshot _ files none (currentFileName files sessionId) = _
    simp only [name, readProviderSnapshot, found, parsed]
    rfl
  · simp [checkCurrent, checkSession, ensureImmutableIdentity, exampleCall, rejectIf]

end Example

private theorem written_of_prepare {call : ProcessCall} (works : call.environment = .working)
    (ran : call.Prepares "" files committed) : call.written "" files = some committed := by
  rw [ProcessCall.written, ran, works]
  rfl

private theorem processCommits_of_written (own : call.candidate.sessionId = sessionId)
    (wrote : call.written "" files = some committed) :
    processCommits "" sessionId files (call :: calls) =
      ⟨call.candidate, committed⟩ ::
        processCommits "" sessionId (call.after "" files) calls := by
  simp only [processCommits, wrote, own, if_true]

def exampleSessions : List String := ["session-a", "session-b"]

private theorem namesApart_example : NamesApart (· ∈ exampleSessions) := by
  have apart : ∀ first ∈ exampleSessions, ∀ second ∈ exampleSessions, first ≠ second →
      snapshotFileName first ≠ snapshotFileName second ∧
        legacyFileName first ≠ snapshotFileName second ∧
        legacyFileName first ≠ legacyFileName second := by
    decide +kernel
  constructor
  · exact fun first second observed other different =>
      (apart first observed second other different).1
  · exact fun first second observed other different =>
      (apart first observed second other different).2.1
  · exact fun first second observed other different =>
      (apart first observed second other different).2.2

theorem process_commits_build_up_twice :
    (processCommits "" "session-a" []
      [exampleCall "session-a" 0 0, exampleCall "session-a" 1 1]).map
        (·.committed.recordVersion.value) = [1, 2] := by
  have used : ∀ call ∈ [exampleCall "session-a" 0 0, exampleCall "session-a" 1 1],
      call.candidate.sessionId ∈ exampleSessions := by
    simp [exampleCall, exampleProcess, ProviderProcessSnapshot.running, exampleSessions]
  have built := (@process_commits_build_up _ "" [] namesApart_example _ used).1 "session-a"
    (by decide)
  have own (version : StateVersion) (owner : WriterGeneration) :
      (exampleCall "session-a" version owner).candidate.sessionId = "session-a" := rfl
  have visible : Text.isBlank "session-a".toList = false := by decide
  have first := written_of_prepare rfl (@prepare_example_new _ [] visible rfl rfl)
  have second := written_of_prepare rfl (prepare_example_next visible
    (ProcessCall.lookup_after_written first))
  have twice : (processCommits "" "session-a" []
      [exampleCall "session-a" 0 0, exampleCall "session-a" 1 1]).length = 2 := by
    rw [processCommits_of_written (own 0 0) first, processCommits_of_written (own 1 1) second]
    simp only [processCommits, List.length_cons, List.length_nil]
  have fresh : currentProcess [] "session-a" = none :=
    ProcessCall.currentProcess_of_missing rfl rfl
  rw [built.2.1, fresh]
  exact congrArg (List.range' 1) twice

private def exampleFile (sessionId : String) (version : StateVersion) : String × String :=
  (snapshotFileName sessionId, (exampleProcess sessionId version 1).toStorage)

private theorem after_example (ran : (exampleCall sessionId version owner).Prepares "" files
      (exampleProcess sessionId next 1)) :
    (exampleCall sessionId version owner).after "" files =
      let written := exampleFile sessionId next :: files
      if legacyFileName sessionId ≠ snapshotFileName sessionId ∧
          holds written (legacyFileName sessionId) then
        erase (legacyFileName sessionId) written
      else written := by
  have session : (exampleProcess sessionId next 1).sessionId = sessionId := rfl
  have step := ProcessCall.after_of_prepare rfl ran
  exact step

private theorem removed_by_namesake (firstVisible : Text.isBlank first.toList = false)
    (secondVisible : Text.isBlank second.toList = false)
    (different : snapshotFileName first ≠ snapshotFileName second)
    (shared : legacyFileName first = snapshotFileName second)
    (unshared : legacyFileName second ≠ snapshotFileName first)
    (changed : legacyFileName second ≠ snapshotFileName second) :
    currentProcess (afterCalls "" [] [exampleCall first 0 0, exampleCall second 0 0]) second =
        some (exampleProcess second 1 1) ∧
      currentProcess (afterCalls "" []
        [exampleCall first 0 0, exampleCall second 0 0, exampleCall first 1 1]) second = none := by
  have one : (exampleCall first 0 0).after "" [] = [exampleFile first 1] := by
    rw [after_example (prepare_example_new firstVisible rfl rfl)]
    simp [holds, exampleFile, List.lookup_cons, shared, beq_false_of_ne different.symm]
  have prepared := @prepare_example_new second [exampleFile first 1] secondVisible
    (by simp [exampleFile, List.lookup_cons, beq_false_of_ne different.symm])
    (by simp [exampleFile, List.lookup_cons, beq_false_of_ne unshared])
  have two : (exampleCall second 0 0).after "" [exampleFile first 1] =
      [exampleFile second 1, exampleFile first 1] := by
    rw [after_example prepared]
    simp [holds, exampleFile, List.lookup_cons, beq_false_of_ne unshared, beq_false_of_ne changed]
  have three : (exampleCall first 1 1).after "" [exampleFile second 1, exampleFile first 1] =
      erase (snapshotFileName second)
        [exampleFile first 2, exampleFile second 1, exampleFile first 1] := by
    rw [after_example (prepare_example_next firstVisible
      (by simp [exampleFile, List.lookup_cons, beq_false_of_ne different]))]
    simp [holds, exampleFile, List.lookup_cons, shared, different.symm,
      beq_false_of_ne different.symm]
  constructor
  · have session : (exampleCall second 0 0).candidate.sessionId = second := rfl
    have stored : (exampleProcess second 1 1).stored = exampleProcess second 1 1 := rfl
    have read := ProcessCall.currentProcess_after_written (written_of_prepare rfl prepared)
    rw [session, stored] at read
    simpa only [afterCalls, List.foldl_cons, List.foldl_nil, one] using read
  · simp only [afterCalls, List.foldl_cons, List.foldl_nil, one, two, three]
    apply ProcessCall.currentProcess_of_missing (lookup_erase_self _ _)
    rw [lookup_erase_of_ne changed]
    simp [exampleFile, List.lookup_cons, beq_false_of_ne unshared, beq_false_of_ne changed]

def digestSession : String :=
  "2d711642b726b04401627ca9fbac32f5c8530fb1903cc4db02258717921a4881"

/-- The second commit of one session removes the record of another session. -/
theorem process_record_removed :
    snapshotFileName digestSession ≠ snapshotFileName "x" ∧
      currentProcess (afterCalls "" []
        [exampleCall digestSession 0 0, exampleCall "x" 0 0]) "x" =
          some (exampleProcess "x" 1 1) ∧
      currentProcess (afterCalls "" []
        [exampleCall digestSession 0 0, exampleCall "x" 0 0, exampleCall digestSession 1 1]) "x" =
          none := by
  have canonical : snapshotFileName "x" = digestSession ++ ".provider" := by decide +kernel
  have digest : snapshotFileName digestSession =
      "a57b5956dbc6e02127bbb40c87cb8244196d6d18e0e141936ffcd8cffad457ad.provider" := by
    decide +kernel
  have legacy : legacyFileName "x" = "x.provider" := by decide +kernel
  have shared : legacyFileName digestSession = digestSession ++ ".provider" := by decide +kernel
  have different : snapshotFileName digestSession ≠ snapshotFileName "x" := by
    decide +kernel
  refine ⟨different, removed_by_namesake (by decide) (by decide) different
    (shared.trans canonical.symm) ?_ ?_⟩
  · rw [legacy, digest]
    decide
  · rw [legacy, canonical]
    decide +kernel

end Eva.Storage
