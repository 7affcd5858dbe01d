import Eva.Storage.TaskState.Contracts

/-! # Committed history

What the store is for: a sequence of commits in which every record follows from
the one before it. The files of the directory reflect such a history in every
run, whatever the calls, the failures and the crashes in it.
-/

namespace Eva.Storage

variable {directory : TaskDirectory}

/-! ## Histories -/

/-- One replacement of the file of a task. -/
structure Commit (directory : TaskDirectory) where
  call : StoreCall directory
  mode : TaskStateCommitMode
  proposed : TaskStateSnapshot
  committed : TaskStateSnapshot

def Commit.taskId (commit : Commit directory) : String := commit.committed.taskId

def lastCommit (taskId : String) (commits : List (Commit directory)) :
    Option (Commit directory) :=
  commits.find? fun commit => commit.taskId = taskId

def currentRecord (taskId : String) (commits : List (Commit directory)) :
    Option TaskStateSnapshot :=
  (lastCommit taskId commits).map fun commit => commit.committed.stored

structure Follows (commits : List (Commit directory)) (commit : Commit directory) : Prop where
  proposes : Proposes commit.call (currentRecord commit.taskId commits) commit.mode
    commit.proposed
  accepted : Accepted (currentRecord commit.taskId commits) commit.proposed
    commit.proposed.recordVersion commit.mode commit.committed.ownerGeneration
    commit.committed
  owned : ∀ writer, commit.call.store.writer = some writer →
    commit.committed.ownerGeneration = writer.generation
  newer : ∀ older ∈ commits, older.committed.ownerGeneration ≤ commit.committed.ownerGeneration

inductive History : List (Commit directory) → Prop where
  | empty : History []
  | commit {commits commit} (earlier : History commits) (follows : Follows commits commit) :
      History (commit :: commits)

section Last

@[simp] theorem lastCommit_nil : lastCommit taskId ([] : List (Commit directory)) = none := rfl

theorem lastCommit_cons :
    lastCommit taskId (commit :: commits) =
      if commit.taskId = taskId then some commit else lastCommit taskId commits := by
  unfold lastCommit
  split <;> simp_all

theorem lastCommit_append :
    lastCommit taskId (later ++ commits) =
      (lastCommit taskId later).or (lastCommit taskId commits) :=
  List.find?_append ..

theorem lastCommit_eq_some (last : lastCommit taskId commits = some commit) :
    commit ∈ commits ∧ commit.taskId = taskId :=
  ⟨List.mem_of_find?_eq_some last, by simpa using List.find?_some last⟩

theorem currentRecord_eq_some (last : lastCommit taskId commits = some commit) :
    currentRecord taskId commits = some commit.committed.stored := by
  rw [currentRecord, last]
  rfl

theorem currentRecord_cons (named : commit.taskId = taskId) :
    currentRecord taskId (commit :: commits) = some commit.committed.stored :=
  currentRecord_eq_some (by rw [lastCommit_cons, if_pos named])

theorem lastCommit_ne_none (member : commit ∈ commits) :
    lastCommit commit.taskId commits ≠ none := by
  intro absent
  simpa using List.find?_eq_none.mp absent commit member

end Last

/-! ## Single commits of a history -/

namespace Follows

variable {commit : Commit directory}

theorem stamped (follows : Follows commits commit) :
    commit.committed = { commit.proposed with
      recordVersion := commit.committed.recordVersion
      ownerGeneration := commit.committed.ownerGeneration } :=
  follows.accepted.stamped

theorem taskId_eq (follows : Follows commits commit) :
    commit.taskId = commit.proposed.taskId := by
  rw [Commit.taskId, follows.stamped]

theorem version_value (follows : Follows commits commit) :
    commit.committed.recordVersion.value =
      ((currentRecord commit.taskId commits).map (·.recordVersion.value)).getD 0 + 1 := by
  have next := follows.accepted.nextVersion
  have expected := follows.accepted.expectedVersion
  rw [next, ← expected]
  cases currentRecord commit.taskId commits <;> rfl

theorem version_ne_zero (follows : Follows commits commit) :
    commit.committed.recordVersion ≠ 0 :=
  Unsigned.ne_zero_of_value follows.accepted.nextVersion

end Follows

theorem History.follows (history : History commits) {commit : Commit directory}
    (split : commits = later ++ commit :: earlier) :
    Follows earlier commit := by
  induction history generalizing later with
  | empty => simp at split
  | commit _ follows induction =>
      cases later with
      | nil =>
          obtain ⟨rfl, rfl⟩ := split
          exact follows
      | cons head later =>
          simp only [List.cons_append, List.cons.injEq] at split
          exact induction split.2

theorem History.follows_of_mem (history : History commits)
    {commit : Commit directory} (member : commit ∈ commits) :
    ∃ earlier later, commits = later ++ commit :: earlier ∧ Follows earlier commit := by
  obtain ⟨later, earlier, split⟩ := List.append_of_mem member
  exact ⟨earlier, later, split, history.follows split⟩

theorem History.before (history : History (later ++ earlier)) : History earlier := by
  induction later with
  | nil => exact history
  | cons commit later induction =>
      cases history with
      | commit history => exact induction history

theorem History.past {commit : Commit directory}
    (history : History (later ++ commit :: earlier)) : History earlier := by
  cases history.before with
  | commit earlier => exact earlier

theorem lastCommit_since (property : TaskStateSnapshot → Prop) {commit : Commit directory}
    (holds : property commit.committed)
    (since : ∀ newer ∈ later, newer.taskId = commit.taskId → property newer.committed) :
    ∃ last, lastCommit commit.taskId (later ++ commit :: earlier) = some last ∧
      property last.committed := by
  rw [lastCommit_append]
  cases recent : lastCommit commit.taskId later with
  | some last =>
      obtain ⟨member, named⟩ := lastCommit_eq_some recent
      exact ⟨last, rfl, since last member named⟩
  | none => exact ⟨commit, by simp [lastCommit_cons], holds⟩

/-- A property that every commit of a task hands on holds from the first commit that has
it. The steps may use that they come later than that commit. -/
theorem History.stable (property : TaskStateSnapshot → Prop) {commit : Commit directory}
    (history : History (later ++ commit :: earlier)) (holds : property commit.committed)
    (step : ∀ before newer previous, newer ∈ later → Follows before newer →
      lastCommit newer.taskId before = some previous → newer.taskId = commit.taskId →
      property previous.committed → property newer.committed) :
    ∀ newer ∈ later, newer.taskId = commit.taskId → property newer.committed := by
  induction later with
  | nil => simp
  | cons newest rest induction =>
      cases history with
      | commit history follows =>
          have older := induction history fun before newer previous member =>
            step before newer previous (List.mem_cons_of_mem _ member)
          intro newer member same
          rcases List.mem_cons.mp member with rfl | member
          · obtain ⟨previous, last, holds⟩ := lastCommit_since property holds older
            exact step _ newer previous List.mem_cons_self follows (same ▸ last) same holds
          · exact older newer member same

theorem History.stable_last (property : TaskStateSnapshot → Prop) {commit last : Commit directory}
    (history : History (later ++ commit :: earlier)) (holds : property commit.committed)
    (step : ∀ before newer previous, newer ∈ later → Follows before newer →
      lastCommit newer.taskId before = some previous → newer.taskId = commit.taskId →
      property previous.committed → property newer.committed)
    (found : lastCommit commit.taskId (later ++ commit :: earlier) = some last) :
    property last.committed := by
  obtain ⟨other, last, holds⟩ :=
    lastCommit_since property holds (history.stable property holds step)
  obtain rfl := Option.some.inj (found.symm.trans last)
  exact holds

section Relate

variable (relation : TaskStateSnapshot → TaskStateSnapshot → Prop)
  (same : ∀ record, relation record record)
  (step : ∀ {earlier : List (Commit directory)} {commit last older},
      Follows earlier commit → lastCommit commit.taskId earlier = some last →
      relation older last.committed → relation older commit.committed)
  {older : Commit directory}

include same step

theorem History.relate_last (history : History commits) (member : older ∈ commits) :
    ∃ last, lastCommit older.taskId commits = some last ∧
      relation older.committed last.committed := by
  induction history with
  | empty => cases member
  | @commit commits commit earlier follows induction =>
      rcases List.mem_cons.mp member with rfl | member
      · exact ⟨older, by simp [lastCommit_cons], same _⟩
      · obtain ⟨last, found, related⟩ := induction member
        by_cases sameTask : commit.taskId = older.taskId
        · exact ⟨commit, by simp [lastCommit_cons, sameTask],
            step follows (sameTask ▸ found) related⟩
        · exact ⟨last, by simp [lastCommit_cons, sameTask, found], related⟩

theorem History.relate {commit : Commit directory}
    (history : History (later ++ commit :: earlier)) (member : older ∈ earlier)
    (sameTask : older.taskId = commit.taskId) :
    relation older.committed commit.committed := by
  obtain ⟨last, found, related⟩ := history.past.relate_last relation same step member
  exact step (history.follows rfl) (sameTask ▸ found) related

end Relate

/-! ## Versions -/

section Versions

variable {commits : List (Commit directory)} {commit : Commit directory}

theorem Follows.version_succ (follows : Follows commits commit)
    (previous : lastCommit commit.taskId commits = some last) :
    commit.committed.recordVersion.value = last.committed.recordVersion.value + 1 := by
  rw [follows.version_value, currentRecord, previous]
  rfl

theorem History.version_le_last (history : History commits) (member : older ∈ commits) :
    ∃ last, lastCommit older.taskId commits = some last ∧
      older.committed.recordVersion ≤ last.committed.recordVersion := by
  refine history.relate_last (·.recordVersion ≤ ·.recordVersion) (fun _ => Nat.le_refl _) ?_
    member
  intro earlier commit last older follows previous within
  have next := follows.version_succ previous
  rw [Unsigned.le_iff] at within ⊢
  omega

theorem Follows.version_lt (history : History commits) (follows : Follows commits commit)
    (member : older ∈ commits) (same : older.taskId = commit.taskId) :
    older.committed.recordVersion < commit.committed.recordVersion := by
  obtain ⟨last, found, within⟩ := history.version_le_last member
  have next := follows.version_succ (same ▸ found)
  rw [Unsigned.le_iff] at within
  rw [Unsigned.lt_iff]
  omega

theorem History.version_unique (history : History commits) (member : commit ∈ commits)
    (other : older ∈ commits) (sameTask : older.taskId = commit.taskId)
    (sameVersion : older.committed.recordVersion = commit.committed.recordVersion) :
    older = commit := by
  induction history with
  | empty => cases member
  | @commit commits newest earlier follows induction =>
      have newer {left right : Commit directory} (isNewest : left = newest)
          (held : right ∈ commits) (sameTask : right.taskId = left.taskId)
          (sameVersion : right.committed.recordVersion = left.committed.recordVersion) :
          False := by
        subst isNewest
        have less := follows.version_lt earlier held sameTask
        rw [sameVersion, Unsigned.lt_iff] at less
        exact Nat.lt_irrefl _ less
      rcases List.mem_cons.mp member with isNewest | member <;>
        rcases List.mem_cons.mp other with otherNewest | other
      · rw [isNewest, otherNewest]
      · exact (newer isNewest other sameTask sameVersion).elim
      · exact (newer otherNewest member sameTask.symm sameVersion.symm).elim
      · exact induction member other

def commitsOf (taskId : String) (commits : List (Commit directory)) : List (Commit directory) :=
  commits.filter fun commit => commit.taskId = taskId

theorem head_commitsOf (taskId : String) :
    (commitsOf taskId commits).head? = lastCommit taskId commits :=
  List.head?_filter ..

theorem History.versions (history : History commits) (taskId : String) :
    ((commitsOf taskId commits).map fun commit =>
        commit.committed.recordVersion.value).reverse =
      List.range' 1 (commitsOf taskId commits).length := by
  induction history with
  | empty => rfl
  | @commit commits commit earlier follows induction =>
      by_cases same : commit.taskId = taskId
      · have version : commit.committed.recordVersion.value =
            (commitsOf taskId commits).length + 1 := by
          rw [follows.version_value, currentRecord, same, ← head_commitsOf]
          cases older : commitsOf taskId commits with
          | nil => rfl
          | cons last rest =>
              -- The newest of the older commits carries the number of older commits.
              have lengths := congrArg List.getLast? induction
              rw [older, List.length_cons, List.range'_concat] at lengths
              simp at lengths
              simp only [List.head?_cons, Option.map_some, Option.getD_some, List.length_cons]
              have kept : last.committed.stored.recordVersion = last.committed.recordVersion := rfl
              rw [kept]
              omega
        rw [commitsOf, List.filter_cons_of_pos (by simpa using same), List.map_cons,
          List.reverse_cons, List.length_cons, List.range'_concat, version]
        rw [commitsOf] at induction
        rw [induction, commitsOf]
        simp [Nat.add_comm]
      · rw [commitsOf, List.filter_cons_of_neg (by simpa using same)]
        exact induction

end Versions

/-! ## Files -/

variable {format : RecordFormat}

/-- The files hold what a history has committed. The file of the task that shares its
name with the alias can hold the record of another task. -/
structure Reflects (state : TaskFiles format) (commits : List (Commit directory)) : Prop where
  history : History commits
  contents : ∀ taskId data, state.files.lookup (taskFileName taskId) = some data →
    ∃ commit ∈ commits, data = format.write commit.committed ∧
      (taskFileName taskId ≠ latestFileName → commit.taskId = taskId) ∧
      (commit.taskId = taskId → lastCommit taskId commits = some commit)
  present : ∀ taskId, lastCommit taskId commits ≠ none →
    state.files.lookup (taskFileName taskId) ≠ none
  named : ∀ file ∈ state.files, ∃ taskId, file.1 = taskFileName taskId
  pending : ∀ data, state.pendingLatest = some data →
    ∃ commit, commits.head? = some commit ∧ data = format.write commit.committed
  generations : ∀ commit ∈ commits,
    commit.committed.ownerGeneration ≤ directory.currentGeneration state

theorem taskFileName_injective (same : taskFileName left = taskFileName right) : left = right := by
  simpa [taskFileName] using same

theorem latestFileName_eq : latestFileName = taskFileName "latest-basic" := rfl

namespace Reflects

variable {state : TaskFiles format} {commits : List (Commit directory)}
  (reflects : Reflects state commits)

include reflects

section Faithful

variable (faithful : format.Faithful)

include faithful

theorem read_committed
    (member : commit ∈ commits) :
    format.read (format.write commit.committed) = commit.committed.stored.validated := by
  obtain ⟨earlier, later, -, follows⟩ := reflects.history.follows_of_mem member
  exact faithful.read_write _ follows.accepted.committedValid follows.version_ne_zero

theorem readOptionalTaskSnapshot_eq_ok
    (read : directory.readOptionalTaskSnapshot state fault (taskFileName taskId) = .ok found)
    (key : ∀ record, found = some record → record.taskId = taskId) :
    found = currentRecord taskId commits := by
  obtain ⟨-, ⟨file, rfl⟩ | ⟨data, record, file, parsed, rfl⟩⟩ :=
    TaskDirectory.readOptionalTaskSnapshot_eq_ok_iff.mp read
  · have uncommitted : lastCommit taskId commits = none := by
      by_contra committed
      exact reflects.present taskId committed file
    rw [currentRecord, uncommitted]
    rfl
  · obtain ⟨commit, member, rfl, -, last⟩ := reflects.contents taskId data file
    rw [reflects.read_committed faithful member] at parsed
    obtain ⟨-, rfl⟩ := TaskStateSnapshot.validated_eq_ok_iff.mp parsed
    rw [currentRecord, last (key commit.committed.stored rfl)]
    rfl

theorem read_eq_ok
    (read : directory.read state fault (some taskId) = .ok record) :
    currentRecord taskId commits = some record ∧ record.taskId = taskId := by
  obtain ⟨-, key, found⟩ := TaskDirectory.read_eq_ok_iff.mp read
  refine ⟨(reflects.readOptionalTaskSnapshot_eq_ok faithful found ?_).symm, key⟩
  rintro _ ⟨⟩
  exact key

theorem read_valid
    (read : directory.read state fault (some taskId) = .ok record) : record.Valid := by
  obtain ⟨-, -, found⟩ := TaskDirectory.read_eq_ok_iff.mp read
  obtain ⟨-, data, file, parsed⟩ := TaskDirectory.readOptionalTaskSnapshot_eq_some_iff.mp found
  obtain ⟨commit, member, rfl, -⟩ := reflects.contents taskId data file
  rw [reflects.read_committed faithful member] at parsed
  obtain ⟨valid, rfl⟩ := TaskStateSnapshot.validated_eq_ok_iff.mp parsed
  exact valid

end Faithful

/-! ### Steps that commit nothing -/

/-- A file is replaced by what some commit has written, and the commit is the last one of
the task that the file belongs to. -/
private theorem replace (member : commit ∈ commits)
    (last : commit.taskId = "latest-basic" → lastCommit commit.taskId commits = some commit)
    (pending : ∀ data, pendingLatest = some data → state.pendingLatest = some data) :
    Reflects { state with
      files := (latestFileName, format.write commit.committed) :: state.files
      pendingLatest } commits where
  history := reflects.history
  contents taskId data file := by
    by_cases shared : taskFileName taskId = latestFileName
    · rw [shared, List.lookup_cons_self] at file
      refine ⟨commit, member, (Option.some.inj file).symm, fun other => absurd shared other, ?_⟩
      intro same
      have named : commit.taskId = "latest-basic" := by
        rw [same]
        exact taskFileName_injective shared
      exact same ▸ last named
    · rw [List.lookup_cons, beq_false_of_ne shared] at file
      exact reflects.contents taskId data file
  present taskId committed := by
    by_cases shared : taskFileName taskId = latestFileName
    · simp [shared]
    · rw [List.lookup_cons, beq_false_of_ne shared]
      exact reflects.present taskId committed
  named file member := by
    rcases List.mem_cons.mp member with rfl | member
    · exact ⟨"latest-basic", rfl⟩
    · exact reflects.named file member
  pending data held := reflects.pending data (pending data held)
  generations := reflects.generations

theorem release :
    Reflects { state with pendingLatest := none } commits :=
  { reflects with pending := fun _ held => by cases held }

theorem writeLatest
    (performed : directory.writeLatest state fault committed = some (after, response)) :
    Reflects after commits := by
  obtain ⟨data, held, ⟨-, -, rfl⟩ | ⟨-, rfl⟩⟩ := TaskDirectory.writeLatest_cases performed
  · exact reflects.release
  · obtain ⟨commit, newest, rfl⟩ := reflects.pending data held
    refine reflects.replace (List.mem_of_mem_head? newest) (fun _ => ?_) (by simp)
    cases commits with
    | nil => cases newest
    | cons head rest =>
        obtain rfl : head = commit := by simpa using newest
        simp [lastCommit_cons]

theorem refreshLatest (faithful : format.Faithful)
    {store : FileSystemTaskStateStore directory}
    (performed : TaskDirectory.refreshLatest state fault store taskId =
      some (after, response)) : Reflects after commits := by
  rcases TaskDirectory.refreshLatest_cases performed with
    ⟨-, -, rfl⟩ | ⟨record, -, -, read, -, rfl⟩
  · exact reflects
  · obtain ⟨current, -⟩ := reflects.read_eq_ok faithful read
    simp only [currentRecord, Option.map_eq_some_iff] at current
    obtain ⟨commit, last, rfl⟩ := current
    obtain ⟨member, named⟩ := lastCommit_eq_some last
    rw [faithful.write_stored]
    exact reflects.replace member (fun _ => named ▸ last) fun _ held => held

theorem acquireWriter :
    Reflects { state with
      writer := (DurableWriterGuard.acquire directory.writerLayout state.writer fault processId
        ownerToken).1 } commits :=
  { reflects with
    generations := fun commit member => by
      have older := reflects.generations commit member
      have raised := @DurableWriterGuard.acquire_generation_le directory.writerLayout state.writer
        fault processId ownerToken
      unfold TaskDirectory.currentGeneration at older ⊢
      split at older
      next durable => exact (if_pos durable) ▸ Nat.le_trans older raised
      next legacy => exact (if_neg legacy) ▸ older }

/-! ### Commits -/

theorem commit {commit : Commit directory}
    (follows : Follows commits commit)
    (current : commit.committed.ownerGeneration = directory.currentGeneration state) :
    Reflects { state with
      files := (taskFileName commit.taskId, format.write commit.committed) :: state.files
      pendingLatest := some (format.write commit.committed) } (commit :: commits) where
  history := .commit reflects.history follows
  contents taskId data file := by
    by_cases same : taskFileName taskId = taskFileName commit.taskId
    · rw [same, List.lookup_cons_self] at file
      have named := taskFileName_injective same
      exact ⟨commit, List.mem_cons_self, (Option.some.inj file).symm, fun _ => named.symm,
        fun named => by simp [lastCommit_cons, named]⟩
    · rw [List.lookup_cons, beq_false_of_ne same] at file
      obtain ⟨older, member, written, key, last⟩ := reflects.contents taskId data file
      have other : commit.taskId ≠ taskId := fun equal => same (by rw [equal])
      exact ⟨older, List.mem_cons_of_mem _ member, written, key, fun named => by
        simp [lastCommit_cons, other, last named]⟩
  present taskId committed := by
    by_cases same : taskFileName taskId = taskFileName commit.taskId
    · simp [same]
    · have other : commit.taskId ≠ taskId := fun equal => same (by rw [equal])
      rw [List.lookup_cons, beq_false_of_ne same]
      exact reflects.present taskId (by simpa [lastCommit_cons, other] using committed)
  named file member := by
    rcases List.mem_cons.mp member with rfl | member
    · exact ⟨_, rfl⟩
    · exact reflects.named file member
  pending data held := ⟨commit, rfl, (Option.some.inj held).symm⟩
  generations older member := by
    rcases List.mem_cons.mp member with rfl | member
    · exact Nat.le_of_eq (congrArg Unsigned.value current)
    · exact reflects.generations older member

end Reflects

/-! ## Runs -/

def eventCommit : (taskStore directory format).Event → Option (Commit directory)
  | .act { label, action := .commit _ proposed _ mode, response := .ok committed, .. } =>
      some { call := label, mode, proposed, committed }
  | _ => none

theorem eventCommit_eq_some (made : eventCommit event = some commit) :
    ∃ act, event = .act act ∧ act.label = commit.call ∧ ∃ store expected,
      act.observation =
        ⟨.commit store commit.proposed expected commit.mode, .ok commit.committed⟩ := by
  unfold eventCommit at made
  split at made
  next =>
      cases made
      exact ⟨_, rfl, rfl, _, _, rfl⟩
  next => cases made

def commits (trace : List (taskStore directory format).Event) : List (Commit directory) :=
  trace.filterMap eventCommit

theorem commits_append :
    commits (later ++ earlier) = commits later ++ commits earlier :=
  List.filterMap_append ..

def TaskFiles.empty (writer : WriterFiles) : TaskFiles format :=
  { files := [], pendingLatest := none, writer }

theorem Reflects.empty (writer : WriterFiles) :
    Reflects (TaskFiles.empty writer : TaskFiles format) ([] : List (Commit directory)) where
  history := .empty
  contents _ _ file := by cases file
  present _ committed := absurd lastCommit_nil committed
  named _ member := by cases member
  pending _ held := by cases held
  generations _ member := by cases member

inductive Returned (taskId : String) (record : TaskStateSnapshot) :
    (storeInterface directory).Observation → Prop where
  | read : Returned taskId record ⟨.read (some taskId), .ok record⟩
  | refresh (store : FileSystemTaskStateStore directory) :
      Returned taskId record ⟨.refreshLatest store taskId, .ok record⟩

/-- Every record that was read had been committed. -/
def ReadsCommitted (trace : List (taskStore directory format).Event) : Prop :=
  ∀ act, .act act ∈ trace → ∀ taskId record, Returned taskId record act.observation →
    ∃ commit ∈ commits trace, commit.taskId = taskId ∧ record = commit.committed.stored

/-- A record computed from an earlier reading was computed from the predecessor. -/
theorem current_of_sameRecord {commits : List (Commit directory)}
    (history : History commits) {read : Commit directory} (member : read ∈ commits)
    (same : SameRecord read.committed.stored proposed)
    (named : read.taskId = taskId)
    (expected : ((currentRecord taskId commits).map (·.recordVersion)).getD 0 =
      proposed.recordVersion) :
    currentRecord taskId commits = some read.committed.stored := by
  obtain ⟨last, found, -⟩ := history.version_le_last member
  rw [named] at found
  obtain ⟨lastMember, lastNamed⟩ := lastCommit_eq_some found
  have version : last.committed.recordVersion = read.committed.recordVersion := by
    rw [currentRecord, found] at expected
    exact expected.trans same.1
  have unique : last = read := history.version_unique member lastMember
    (lastNamed.trans named.symm) version
  rw [currentRecord, found, unique]
  rfl

section Invariant

variable {trace : List (taskStore directory format).Event}

theorem commits_subset (member : commit ∈ commits trace) : commit ∈ commits (event :: trace) := by
  unfold commits at *
  rw [List.filterMap_cons]
  split
  · exact member
  · exact List.mem_cons_of_mem _ member

private theorem ReadsCommitted.cons (reads : ReadsCommitted trace)
    (newest : ∀ act, event = .act act → ∀ taskId record,
      Returned taskId record act.observation →
        ∃ commit ∈ commits trace, commit.taskId = taskId ∧
          record = commit.committed.stored) :
    ReadsCommitted (event :: trace) := by
  intro act member taskId record returned
  have found : ∃ commit ∈ commits trace, commit.taskId = taskId ∧
      record = commit.committed.stored := by
    rcases List.mem_cons.mp member with equal | member
    · exact newest act equal.symm taskId record returned
    · exact reads act member taskId record returned
  obtain ⟨commit, held, rest⟩ := found
  exact ⟨commit, commits_subset held, rest⟩

section

variable (faithful : format.Faithful)
include faithful

private theorem follows_of_commit
    {before : TaskFiles format}
    (reflects : Reflects before (commits trace))
    (reads : ReadsCommitted trace)
    (emits : label.program.Emits (System.observationsOf thread trace)
      (.commit store proposed expected mode))
    (read : directory.readOptionalTaskSnapshot before fault
      (taskFileName proposed.taskId) = .ok current)
    (accepted : Accepted current proposed expected mode
      (directory.currentGeneration before) committed)
    (owned : ∀ writer, store.writer = some writer →
      directory.currentGeneration before = writer.generation) :
    Follows (commits trace) { call := label, mode, proposed, committed } := by
  have stampedTask : committed.taskId = proposed.taskId := by rw [accepted.stamped]
  have stampedGeneration :
      committed.ownerGeneration = directory.currentGeneration before := by
    rw [accepted.stamped]
  have isCurrent : current = currentRecord committed.taskId (commits trace) := by
    rw [stampedTask]
    exact reflects.readOptionalTaskSnapshot_eq_ok faithful read fun record found =>
      accepted.sameTask record found
  subst isCurrent
  obtain ⟨rfl, rfl, source⟩ := (StoreCall.acts emits).commits rfl
  have proposes : Proposes label (currentRecord committed.taskId (commits trace)) mode
      proposed := by
    rcases source with free | ⟨taskId, record, -, observed, same, proposes⟩
    · exact free _ accepted.createsOnly
    · obtain ⟨earlier, member, -, observation⟩ := System.mem_observationsOf observed
      obtain ⟨commit, held, named, rfl⟩ := reads earlier member taskId record
        (observation ▸ .read)
      have sameTask : commit.taskId = committed.taskId := by
        rw [stampedTask]
        exact same.2.symm
      rw [current_of_sameRecord reflects.history held same sameTask accepted.expectedVersion]
      exact proposes
  exact {
    proposes
    accepted := stampedGeneration ▸ accepted
    owned := fun writer owner => stampedGeneration.trans (owned writer owner)
    newer := fun older member => stampedGeneration ▸ reflects.generations older member }

private theorem reflects_act
    (act : (taskStore directory format).Act)
    (invariant : Reflects act.before (commits trace) ∧ ReadsCommitted trace)
    (performed : act.action.perform act.before act.environment =
      some (act.after, act.response))
    (emits : act.label.program.Emits (System.observationsOf act.thread trace) act.action) :
    Reflects act.after (commits (.act act :: trace)) ∧ ReadsCommitted (.act act :: trace) := by
  obtain ⟨reflects, reads⟩ := invariant
  obtain ⟨thread, label, environment, before, after, action, response⟩ := act
  dsimp only at reflects performed emits ⊢
  have unread (silent : ∀ taskId record,
      ¬Returned taskId record (⟨action, response⟩ : (storeInterface directory).Observation)) :
      ReadsCommitted (.act ⟨thread, label, environment, before, after, action, response⟩ ::
        trace) := by
    refine reads.cons ?_
    rintro _ ⟨⟩ taskId record returned
    exact absurd returned (silent taskId record)
  have current {taskId record} (read : directory.read before environment.fault (some taskId) =
      .ok record) :
      ∃ commit ∈ commits trace, commit.taskId = taskId ∧
        record = commit.committed.stored := by
    obtain ⟨found, -⟩ := reflects.read_eq_ok faithful read
    simp only [currentRecord, Option.map_eq_some_iff] at found
    obtain ⟨commit, last, rfl⟩ := found
    obtain ⟨member, named⟩ := lastCommit_eq_some last
    exact ⟨commit, member, named, rfl⟩
  cases action with
  | read taskId =>
      simp only [StoreAction.perform, Option.some.injEq, Prod.mk.injEq] at performed
      obtain ⟨rfl, read⟩ := performed
      refine ⟨reflects, reads.cons ?_⟩
      rintro _ ⟨⟩ taskId record ⟨⟩
      exact current read
  | taskFileNames | readRecord name =>
      obtain ⟨rfl, -⟩ := performed
      exact ⟨reflects, unread (by rintro _ _ ⟨⟩)⟩
  | commit store proposed expected mode =>
      refine ⟨?_, unread (by rintro _ _ ⟨⟩)⟩
      rcases TaskDirectory.commitCanonical_cases performed with
        ⟨error, rfl, rfl⟩ | ⟨committed, found, rfl, -, read, accepted, owned, rfl⟩
      · exact reflects
      · have follows := follows_of_commit faithful reflects reads emits read accepted owned
        have stamped := congrArg TaskStateSnapshot.ownerGeneration accepted.stamped
        exact follows.taskId_eq ▸ reflects.commit follows stamped
  | writeLatest committed =>
      exact ⟨reflects.writeLatest performed, unread (by rintro _ _ ⟨⟩)⟩
  | refreshLatest store taskId =>
      refine ⟨reflects.refreshLatest faithful performed, reads.cons ?_⟩
      rintro _ ⟨⟩ taskId record ⟨⟩
      rcases TaskDirectory.refreshLatest_cases performed with
        ⟨error, failed, -⟩ | ⟨snapshot, same, -, read, -, -⟩
      · cases failed
      · cases same record rfl
        exact current read
  | acquireWriter processId =>
      obtain ⟨rfl, -⟩ := performed
      exact ⟨reflects.acquireWriter, unread (by rintro _ _ ⟨⟩)⟩

theorem run_reflects
    (run : (taskStore directory format).Run (.empty writer) trace configuration) :
    Reflects configuration.state (commits trace) ∧ ReadsCommitted trace := by
  refine run.invariant (fun trace state => Reflects state (commits trace) ∧
    ReadsCommitted trace) ?_ ?_ (reflects_act faithful) ?_
  · exact ⟨Reflects.empty writer, fun _ member => by cases member⟩
  · rintro trace state thread label ⟨reflects, reads⟩
    exact ⟨reflects, reads.cons (by rintro _ ⟨⟩)⟩
  · rintro trace state ⟨reflects, reads⟩
    exact ⟨reflects.release, reads.cons (by rintro _ ⟨⟩)⟩

theorem returned_current
    (run : (taskStore directory format).Run (.empty writer) (later ++ .act act :: earlier)
      configuration)
    (returned : Returned taskId record act.observation) :
    currentRecord taskId (commits earlier) = some record := by
  obtain ⟨before, run, state, performed, -⟩ := run.act_cases
  have reflects := (run_reflects faithful run).1
  rw [state] at reflects
  obtain ⟨thread, label, environment, before, after, action, response⟩ := act
  cases returned with
  | read =>
      simp only [StoreAction.perform, Option.some.injEq, Prod.mk.injEq] at performed
      exact (reflects.read_eq_ok faithful performed.2).1
  | refresh store =>
      rcases TaskDirectory.refreshLatest_cases performed with
        ⟨error, failed, -⟩ | ⟨snapshot, same, -, read, -, -⟩
      · cases failed
      · cases same record rfl
        exact (reflects.read_eq_ok faithful read).1

end

end Invariant

end Eva.Storage
