import Eva.Storage.EventLog.Log

/-! # The directory behaves like one log in memory

Calls come through any number of handles, with handles refreshed and opened again in
between. Each call is answered as by one log in memory that takes all of them.
-/

namespace Eva.Storage

open RecordFiles

/-! ## Calls -/

inductive LogCall where
  | mutate (handle : Nat) (mutation : LogMutation) (listing : Listing)
  | refresh (handle : Nat) (listing : Listing)
  | reopen (handle : Nat) (listing : Listing)

/-- Storage that works lists the directory in any order. -/
def LogEnvironment.working (listing : Listing) : LogEnvironment where
  lockError := none
  fault := none
  listing := listing
  write := .written

/-- What a caller gets and what its handle shows afterwards. -/
structure LogAnswer where
  result : Fallible EvaError (Option EventLogRecord)
  watermark : U64
  records : List EventLogRecord

structure LogDirectory where
  files : Files
  views : Nat → FileSystemEventLog

namespace LogDirectory

def settle {Value : Type} (directory : LogDirectory) (handle : Nat)
    (outcome : FileSystemEventLog.Outcome Value) (returned : Value → Option EventLogRecord) :
    LogDirectory × LogAnswer :=
  ({ files := outcome.files
     views := Function.update directory.views handle outcome.view },
    { result := outcome.result.map returned
      watermark := outcome.view.nextSequence
      records := outcome.view.records })

def reopen (root : String) (environment : LogEnvironment) (directory : LogDirectory)
    (handle : Nat) : FileSystemEventLog.Outcome Unit :=
  match FileSystemEventLog.openWithWriter root environment directory.files with
  | .ok view => { files := directory.files, view, result := .ok () }
  | .error failure =>
      { files := directory.files, view := directory.views handle, result := .error failure }

def answer (root : String) (directory : LogDirectory) : LogCall → LogDirectory × LogAnswer
  | .mutate handle mutation listing =>
      directory.settle handle (FileSystemEventLog.mutate root (.working listing) directory.files
        (directory.views handle) mutation) some
  | .refresh handle listing =>
      directory.settle handle (FileSystemEventLog.refresh root (.working listing) directory.files
        (directory.views handle)) fun _ => none
  | .reopen handle listing =>
      directory.settle handle (directory.reopen root (.working listing) handle) fun _ => none

end LogDirectory

namespace InMemoryEventLog

def shows (log : InMemoryEventLog) (result : Fallible EvaError (Option EventLogRecord)) :
    LogAnswer where
  result := result
  watermark := log.nextSequence
  records := log.records

/-- A log in memory has no handles to refresh. -/
def answer (log : InMemoryEventLog) : LogCall → InMemoryEventLog × LogAnswer
  | .mutate _ mutation _ =>
      match log.mutate mutation with
      | .ok (after, record) => (after, after.shows (.ok (some record)))
      | .error failure => (log, log.shows (.error failure))
  | .refresh .. | .reopen .. => (log, log.shows (.ok none))

end InMemoryEventLog

def answers {Log : Type} (step : Log → LogCall → Log × LogAnswer) :
    Log → List LogCall → List LogAnswer
  | _, [] => []
  | log, call :: calls =>
      let (after, answer) := step log call
      match answer.result with
      | .error .panicked => [answer]
      | _ => answer :: answers step after calls

/-- Times are not from before the epoch, and errors can be counted. -/
def LogMutation.Storable : LogMutation → Prop
  | .append event => event.metadata.createdAt.sinceEpoch ≠ none
  | .ack .. => True
  | .fail _ _ error => error.Countable

def LogCall.Storable : LogCall → Prop
  | .mutate _ mutation _ => mutation.Storable
  | .refresh .. | .reopen .. => True

/-! ## The simulation -/

structure Mirrors (root : String) (files : Files) (log : InMemoryEventLog) : Prop where
  represents : (eventLogScheme root).Represents files log.records
  ordered : log.records.Pairwise fun left right => left.sequence.value < right.sequence.value
  distinct : (log.records.map (·.event.eventId)).Nodup
  watermark : (log.records.getLast?.map (·.sequence)).getD 0 = log.nextSequence
  storable : ∀ record ∈ log.records, record.fromEpoch = record ∧
    ∀ error ∈ record.error, error.Countable

def InMemoryEventLog.view (log : InMemoryEventLog) : FileSystemEventLog where
  nextSequence := log.nextSequence
  records := log.records

theorem validateLoadedRecords_eq_ok_iff :
    validateLoadedRecords sequences eventIds records = .ok () ↔
      (records.map (·.sequence)).Nodup ∧ (records.map (·.event.eventId)).Nodup ∧
        (∀ record ∈ records, record.sequence ∉ sequences) ∧
          ∀ record ∈ records, record.event.eventId ∉ eventIds := by
  induction records generalizing sequences eventIds with
  | nil => simp [validateLoadedRecords, pure_eq_ok_iff]
  | cons record records induction =>
      simp only [validateLoadedRecords, seq_eq_ok_iff, rejectIf_eq_ok_iff, induction,
        List.map_cons, List.nodup_cons, List.mem_map, List.mem_cons, forall_eq_or_imp]
      grind

theorem find?_isOf {records : List EventLogRecord}
    (found : records.find? (·.isOf eventId) = some old) :
    old ∈ records ∧ old.event.eventId = eventId :=
  ⟨List.mem_of_find?_eq_some found, by simpa [EventLogRecord.isOf] using List.find?_some found⟩

namespace Mirrors

theorem new (unused : ∀ name, hasExtension "event" name = true → files.lookup name = none) :
    Mirrors root files .new where
  represents :=
    { distinct := List.nodup_nil
      held := by simp [InMemoryEventLog.new]
      only := fun name selected present => absurd (unused name selected) present }
  ordered := .nil
  distinct := List.nodup_nil
  watermark := rfl
  storable := by simp [InMemoryEventLog.new]

section

variable (mirrors : Mirrors root files log)
include mirrors

theorem load (listing : Listing) :
    loadAuthoritativeRecords root (.working listing) files = .ok log.view := by
  obtain ⟨loaded, read, same⟩ :=
    mirrors.represents.load (eventLogScheme_lawful root) listing
  have sorted := insertionSort_of_perm same mirrors.ordered
  have valid : validateLoadedRecords [] [] log.records = .ok () :=
    validateLoadedRecords_eq_ok_iff.mpr
      ⟨mirrors.represents.distinct, mirrors.distinct, by simp, by simp⟩
  rw [loadAuthoritativeRecords, LogEnvironment.working, read, ok_bind]
  simp only [sorted, valid, fallible_ok, ok_bind, mirrors.watermark]
  rfl

theorem sequence_le
    (member : record ∈ log.records) : record.sequence.value ≤ log.nextSequence.value := by
  rw [← mirrors.watermark]
  obtain ⟨front, last, split⟩ : ∃ front last, log.records = front ++ [last] :=
    ⟨_, _, (List.dropLast_append_getLast (List.ne_nil_of_mem member)).symm⟩
  have ordered := mirrors.ordered
  rw [split] at member ordered ⊢
  rw [List.pairwise_append] at ordered
  rw [List.getLast?_append, List.getLast?_singleton]
  rcases List.mem_append.mp member with early | final
  · exact Nat.le_of_lt (ordered.2.2 record early last (by simp))
  · rw [List.mem_singleton.mp final]
    exact le_rfl

theorem append {event : Event} {sequence : U64}
    (after : sequence.value = log.nextSequence.value + 1)
    (fresh : log.records.any (·.isOf event.eventId) = false)
    (stored : event.metadata.createdAt.sinceEpoch ≠ none) :
    let record := EventLogRecord.appended sequence event
    Mirrors root ((eventFileName sequence, recordToStorage record) :: files)
      { nextSequence := sequence, records := log.records ++ [record] } := by
  intro record
  have normal : record.fromEpoch = record := by
    change { record with event := event.fromEpoch } = record
    rw [Event.fromEpoch_eq_self_iff.mpr stored]
    rfl
  have earlier : ∀ other ∈ log.records, other.sequence.value < sequence.value := by
    intro other member
    have bound := mirrors.sequence_le member
    omega
  have kept : (log.records.filter fun other => other.sequence ≠ record.sequence) =
      log.records := by
    rw [List.filter_eq_self]
    intro other member
    have less := earlier other member
    exact decide_eq_true fun same => by
      rw [same] at less
      exact Nat.lt_irrefl _ less
  have written := mirrors.represents.write (eventLogScheme_lawful root)
    (show ∀ error ∈ record.error, error.Countable by nofun)
  constructor
  · rw [normal] at written
    change (eventLogScheme root).Represents _ (record ::
      log.records.filter fun other => other.sequence ≠ record.sequence) at written
    rw [kept] at written
    exact written.perm (List.perm_append_singleton _ _)
  · rw [List.pairwise_append]
    refine ⟨mirrors.ordered, List.pairwise_singleton _ _, ?_⟩
    intro other member last final
    rw [List.mem_singleton.mp final]
    exact earlier other member
  · rw [List.map_append, List.nodup_append]
    refine ⟨mirrors.distinct, List.nodup_singleton _, ?_⟩
    intro other member last final same
    obtain ⟨held, within, rfl⟩ := List.mem_map.mp member
    have equal : held.event.eventId = event.eventId := same.trans (List.mem_singleton.mp final)
    exact List.any_eq_false.mp fresh held within (decide_eq_true equal)
  · simp [record, EventLogRecord.appended]
  · intro other member
    rcases List.mem_append.mp member with old | new
    · exact mirrors.storable other old
    · rw [List.mem_singleton.mp new]
      exact ⟨normal, by nofun⟩

theorem replace
    (member : old ∈ log.records) (sameEvent : record.event = old.event)
    (sameSequence : record.sequence = old.sequence)
    (countable : ∀ error ∈ record.error, error.Countable) :
    Mirrors root ((eventFileName record.sequence, recordToStorage record) :: files)
      { log with records := replaceRecord record log.records } := by
  have normal : record.fromEpoch = record := by
    have stored : old.event.fromEpoch = old.event :=
      congrArg EventLogRecord.event (mirrors.storable old member).1
    unfold EventLogRecord.fromEpoch
    rw [sameEvent, stored, ← sameEvent]
  have sameId : record.event.eventId = old.event.eventId := by rw [sameEvent]
  have kept : ∀ {Value : Type} {value : EventLogRecord → Value}, value record = value old →
      (replaceRecord record log.records).map value = log.records.map value :=
    map_replaceBy mirrors.distinct member sameId
  have written := mirrors.represents.write (eventLogScheme_lawful root) countable
  have permuted : (replaceRecord record log.records).Perm
      (record :: log.records.filter fun other => other.sequence ≠ record.sequence) :=
    perm_replaceBy mirrors.distinct member sameId mirrors.represents.distinct sameSequence
  constructor
  · rw [normal] at written
    exact written.perm permuted
  · have values : (replaceRecord record log.records).map (·.sequence.value) =
        log.records.map (·.sequence.value) := kept (by rw [sameSequence])
    exact List.pairwise_map.mp (values ▸ List.pairwise_map.mpr mirrors.ordered)
  · have sameIds : (replaceRecord record log.records).map (·.event.eventId) =
        log.records.map (·.event.eventId) := kept sameId
    exact sameIds ▸ mirrors.distinct
  · have last := congrArg List.getLast? (kept sameSequence)
    rw [List.getLast?_map, List.getLast?_map] at last
    rw [last]
    exact mirrors.watermark
  · intro other held
    rcases (mem_replaceBy mirrors.distinct member sameId).mp held with rfl | ⟨older, -⟩
    · exact ⟨normal, countable⟩
    · exact mirrors.storable other older

end

end Mirrors

/-! ## Calls one after the other -/

theorem transitionToAcked_cases (moved : transitionToAcked record consumer = .ok (next, changed)) :
    (next = record ∧ changed = false) ∨ (next = record.ackedBy consumer ∧ changed = true) := by
  unfold transitionToAcked at moved
  split at moved
  next =>
      split at moved
      next =>
          cases moved
          exact .inl ⟨rfl, rfl⟩
      next => cases moved
  next =>
      cases moved
      exact .inr ⟨rfl, rfl⟩

theorem transitionToFailed_eq_ok (moved : transitionToFailed record consumer error = .ok next) :
    record.status ≠ .acked ∧ next = record.failedBy consumer error := by
  unfold transitionToFailed at moved
  split at moved
  next => cases moved
  next unfinished =>
      cases moved
      exact ⟨unfinished, rfl⟩

/-- What one change does to both logs: it fails, it leaves the record as it is, or the
record is written. -/
inductive Changes (log : InMemoryEventLog) (mutation : LogMutation) : Prop where
  | fails (failure : Failure EvaError) (inMemory : log.mutate mutation = .error failure)
      (loaded : log.view.change mutation = .error failure)
  | keeps (record : EventLogRecord) (inMemory : log.mutate mutation = .ok (log, record))
      (loaded : log.view.change mutation = .ok { record, after := none })
  | writes (record : EventLogRecord) (after : InMemoryEventLog)
      (inMemory : log.mutate mutation = .ok (after, record))
      (loaded : log.view.change mutation = .ok { record, after := some after.view })
      (mirrored : ∀ root files, Mirrors root files log → mutation.Storable →
        Mirrors root ((eventFileName record.sequence, recordToStorage record) :: files) after)

private theorem changes_append (log : InMemoryEventLog) (event : Event) :
    Changes log (.append event) := by
  cases rejected : rejectIf (log.records.any (·.isOf event.eventId)) (eventExists event) with
  | error error =>
      refine .fails (.reported error) ?_ ?_
      · rw [InMemoryEventLog.mutate, InMemoryEventLog.append, rejected]
        rfl
      · rw [FileSystemEventLog.change, FileSystemEventLog.appendLoaded, InMemoryEventLog.view,
          rejected]
        rfl
  | ok checked =>
      have fresh : log.records.any (·.isOf event.eventId) = false := by
        simpa using rejectIf_eq_ok_iff.mp rejected
      cases next : log.nextSequence.checkedAdd 1 with
      | none =>
          refine .fails .panicked ?_ ?_
          · rw [InMemoryEventLog.mutate, InMemoryEventLog.append, rejected, next]
            rfl
          · rw [FileSystemEventLog.change, FileSystemEventLog.appendLoaded, InMemoryEventLog.view,
              rejected, next]
            rfl
      | some sequence =>
          refine .writes (.appended sequence event)
            { nextSequence := sequence, records := log.records ++ [.appended sequence event] }
            ?_ ?_ ?_
          · rw [InMemoryEventLog.mutate, InMemoryEventLog.append, rejected, next]
            rfl
          · rw [FileSystemEventLog.change, FileSystemEventLog.appendLoaded, InMemoryEventLog.view,
              rejected, next]
            rfl
          · intro root files mirrors stored
            exact mirrors.append (Unsigned.checkedAdd_eq_some_iff.mp next) fresh stored

section

attribute [local simp] InMemoryEventLog.mutate InMemoryEventLog.ack InMemoryEventLog.fail
  InMemoryEventLog.view FileSystemEventLog.change FileSystemEventLog.ackLoaded
  FileSystemEventLog.failLoaded orReject fallible Except.mapError bind Except.bind pure Except.pure

private theorem changes_ack (log : InMemoryEventLog) (eventId : EventId) (consumer : AgentId) :
    Changes log (.ack eventId consumer) := by
  cases found : log.records.find? (·.isOf eventId) with
  | none => exact .fails (.reported (eventMissing eventId)) (by simp [found]) (by simp [found])
  | some old =>
      obtain ⟨member, named⟩ := find?_isOf found
      cases moved : transitionToAcked old consumer with
      | error error =>
          exact .fails (.reported error) (by simp [found, moved]) (by simp [found, moved])
      | ok next =>
          obtain ⟨record, changed⟩ := next
          rcases transitionToAcked_cases moved with ⟨rfl, rfl⟩ | ⟨rfl, rfl⟩
          · have same : replaceRecord record log.records = log.records :=
              replaceBy_self (named ▸ found)
            exact .keeps record (by simp [found, moved, same]) (by simp [found, moved])
          · refine .writes (old.ackedBy consumer)
              { log with records := replaceRecord (old.ackedBy consumer) log.records }
              (by simp [found, moved]) (by simp [found, moved]) ?_
            intro root files mirrors stored
            exact mirrors.replace member rfl rfl (by nofun)

private theorem changes_fail (log : InMemoryEventLog) (eventId : EventId) (consumer : AgentId)
    (error : EvaError) : Changes log (.fail eventId consumer error) := by
  cases found : log.records.find? (·.isOf eventId) with
  | none => exact .fails (.reported (eventMissing eventId)) (by simp [found]) (by simp [found])
  | some old =>
      obtain ⟨member, -⟩ := find?_isOf found
      cases moved : transitionToFailed old consumer error with
      | error error =>
          exact .fails (.reported error) (by simp [found, moved]) (by simp [found, moved])
      | ok record =>
          obtain ⟨-, rfl⟩ := transitionToFailed_eq_ok moved
          refine .writes (old.failedBy consumer error)
            { log with records := replaceRecord (old.failedBy consumer error) log.records }
            (by simp [found, moved]) (by simp [found, moved]) ?_
          intro root files mirrors stored
          refine mirrors.replace member rfl rfl ?_
          rintro _ ⟨⟩
          exact stored

end

theorem changes (log : InMemoryEventLog) (mutation : LogMutation) : Changes log mutation := by
  cases mutation with
  | append event => exact changes_append log event
  | ack eventId consumer => exact changes_ack log eventId consumer
  | fail eventId consumer error => exact changes_fail log eventId consumer error

namespace Mirrors

theorem answer {directory : LogDirectory} (mirrors : Mirrors root directory.files log)
    (stored : call.Storable) :
    (directory.answer root call).2 = (log.answer call).2 ∧
      Mirrors root (directory.answer root call).1.files (log.answer call).1 := by
  cases call with
  | refresh handle listing =>
      have loaded : FileSystemEventLog.refresh root (.working listing) directory.files
          (directory.views handle) =
          { files := directory.files, view := log.view, result := .ok () } := by
        rw [FileSystemEventLog.refresh, mirrors.load listing]
        rfl
      rw [LogDirectory.answer, loaded]
      exact ⟨rfl, mirrors⟩
  | reopen handle listing =>
      have loaded : directory.reopen root (.working listing) handle =
          { files := directory.files, view := log.view, result := .ok () } := by
        rw [LogDirectory.reopen, FileSystemEventLog.openWithWriter, mirrors.load listing]
        rfl
      rw [LogDirectory.answer, loaded]
      exact ⟨rfl, mirrors⟩
  | mutate handle mutation listing =>
      have loaded : FileSystemEventLog.mutate root (.working listing) directory.files
          (directory.views handle) mutation =
          FileSystemEventLog.mutateLoaded root (.working listing) directory.files log.view
            mutation := by
        rw [FileSystemEventLog.mutate, mirrors.load listing]
        rfl
      rw [LogDirectory.answer, loaded, FileSystemEventLog.mutateLoaded, InMemoryEventLog.answer]
      cases changes log mutation with
      | fails failure inMemory change =>
          rw [inMemory, change]
          exact ⟨rfl, mirrors⟩
      | keeps record inMemory change =>
          rw [inMemory, change]
          exact ⟨rfl, mirrors⟩
      | writes record after inMemory change mirrored =>
          rw [inMemory, change]
          exact ⟨rfl, mirrored root directory.files mirrors stored⟩

end Mirrors

theorem answers_eq (mirrors : Mirrors root directory.files log)
    (stored : ∀ call ∈ calls, call.Storable) :
    answers (LogDirectory.answer root) directory calls =
      answers InMemoryEventLog.answer log calls := by
  induction calls generalizing directory log with
  | nil => rfl
  | cons call calls induction =>
      obtain ⟨same, next⟩ := mirrors.answer (stored call List.mem_cons_self)
      have rest := induction next fun other member => stored other (List.mem_cons_of_mem _ member)
      unfold answers
      dsimp only
      rw [same, rest]

/-! ## What every answer shows -/

/-- Sequences increase, and no event is there twice. -/
def LogAnswer.WellFormed (answer : LogAnswer) : Prop :=
  (answer.records.Pairwise fun left right => left.sequence.value < right.sequence.value) ∧
    (answer.records.map (·.event.eventId)).Nodup

/-- What was acknowledged stays as it is. -/
def KeepsAcked (earlier later : List EventLogRecord) : Prop :=
  ∀ record ∈ earlier, record.status = .acked → record ∈ later

theorem keepsAcked_replaceRecord
    (ids : (records.map (·.event.eventId)).Nodup) (member : old ∈ records)
    (sameId : record.event.eventId = old.event.eventId) (unfinished : old.status ≠ .acked) :
    KeepsAcked records (replaceRecord record records) := by
  intro other held acked
  refine (mem_replaceBy ids member sameId).mpr (.inr ⟨held, ?_⟩)
  rintro rfl
  exact unfinished acked

theorem keepsAcked_mutate {log after : InMemoryEventLog}
    (ids : (log.records.map (·.event.eventId)).Nodup)
    (mutated : log.mutate mutation = .ok (after, record)) :
    KeepsAcked log.records after.records := by
  cases mutation with
  | append event =>
      simp only [InMemoryEventLog.mutate, InMemoryEventLog.append, bind_eq_ok_iff,
        pure_eq_ok_iff, Prod.mk.injEq] at mutated
      obtain ⟨_, _, sequence, -, rfl, -⟩ := mutated
      exact fun other held _ => List.mem_append_left _ held
  | ack eventId consumer =>
      simp only [InMemoryEventLog.mutate, InMemoryEventLog.ack, bind_eq_ok_iff, pure_eq_ok_iff,
        fallible_eq_ok_iff, orReject_eq_ok_iff, Prod.mk.injEq] at mutated
      obtain ⟨old, found, ⟨next, changed⟩, moved, rfl, rfl⟩ := mutated
      obtain ⟨member, named⟩ := find?_isOf found
      by_cases acked : old.status = .acked
      · have same : next = old := by
          rw [transitionToAcked, if_pos acked] at moved
          split at moved
          next =>
              cases moved
              rfl
          next => cases moved
        subst same
        have unchanged : replaceRecord next log.records = log.records :=
          replaceBy_self (named ▸ found)
        rw [unchanged]
        exact fun other held _ => held
      · rw [transitionToAcked, if_neg acked] at moved
        cases moved
        exact keepsAcked_replaceRecord ids member rfl acked
  | fail eventId consumer error =>
      simp only [InMemoryEventLog.mutate, InMemoryEventLog.fail, bind_eq_ok_iff, pure_eq_ok_iff,
        fallible_eq_ok_iff, orReject_eq_ok_iff, Prod.mk.injEq] at mutated
      obtain ⟨old, found, next, moved, rfl, rfl⟩ := mutated
      obtain ⟨unfinished, rfl⟩ := transitionToFailed_eq_ok moved
      exact keepsAcked_replaceRecord ids (find?_isOf found).1 rfl unfinished

theorem InMemoryEventLog.answer_records (log : InMemoryEventLog) (call : LogCall) :
    (log.answer call).2.records = (log.answer call).1.records := by
  unfold answer
  split
  next => split <;> rfl
  next => rfl
  next => rfl

theorem keepsAcked_answer {log : InMemoryEventLog}
    (ids : (log.records.map (·.event.eventId)).Nodup) :
    KeepsAcked log.records (log.answer call).1.records := by
  unfold InMemoryEventLog.answer
  split
  next mutation _ =>
      split
      next mutated => exact keepsAcked_mutate ids mutated
      next => exact fun other held _ => held
  next => exact fun other held _ => held
  next => exact fun other held _ => held

/-- A directory that mirrors a log answers like it; what the answers show is well formed
and keeps what was acknowledged. -/
structure LogRefinement (root : String) (directory : LogDirectory) (log : InMemoryEventLog)
    (calls : List LogCall) : Prop where
  agrees : answers (LogDirectory.answer root) directory calls =
    answers InMemoryEventLog.answer log calls
  wellFormed : ∀ answer ∈ answers (LogDirectory.answer root) directory calls, answer.WellFormed
  final : (answers (LogDirectory.answer root) directory calls).Pairwise fun earlier later =>
    KeepsAcked earlier.records later.records

private theorem answers_shown (mirrors : Mirrors root directory.files log)
    (stored : ∀ call ∈ calls, call.Storable) :
    (∀ answer ∈ answers (LogDirectory.answer root) directory calls,
        answer.WellFormed ∧ KeepsAcked log.records answer.records) ∧
      (answers (LogDirectory.answer root) directory calls).Pairwise fun earlier later =>
        KeepsAcked earlier.records later.records := by
  induction calls generalizing directory log with
  | nil => exact ⟨by simp [answers], .nil⟩
  | cons call calls induction =>
      obtain ⟨same, next⟩ := mirrors.answer (stored call List.mem_cons_self)
      obtain ⟨rest, ordered⟩ := induction next fun other member =>
        stored other (List.mem_cons_of_mem _ member)
      have shown : (directory.answer root call).2.records = (log.answer call).1.records := by
        rw [same, InMemoryEventLog.answer_records]
      have kept : KeepsAcked log.records (log.answer call).1.records :=
        keepsAcked_answer mirrors.distinct
      have first : (directory.answer root call).2.WellFormed ∧
          KeepsAcked log.records (directory.answer root call).2.records := by
        rw [LogAnswer.WellFormed, shown]
        exact ⟨⟨next.ordered, next.distinct⟩, kept⟩
      unfold answers
      dsimp only
      split
      next =>
          exact ⟨fun answer member => List.mem_singleton.mp member ▸ first,
            List.pairwise_singleton _ _⟩
      next =>
          refine ⟨?_, List.pairwise_cons.mpr ⟨?_, ordered⟩⟩
          · intro answer member
            rcases List.mem_cons.mp member with rfl | later
            · exact first
            · refine ⟨(rest answer later).1, fun record held acked => ?_⟩
              have carried := kept record held acked
              exact (rest answer later).2 record carried acked
          · intro answer later
            rw [shown]
            exact (rest answer later).2

/-- A directory without records behaves like a new log in memory. -/
theorem eventLog_refines_inMemory (root : String) (directory : LogDirectory)
    (calls : List LogCall)
    (unused : ∀ name, hasExtension "event" name = true → directory.files.lookup name = none)
    (stored : ∀ call ∈ calls, call.Storable) :
    LogRefinement root directory .new calls := by
  have mirrors : Mirrors root directory.files .new := .new unused
  obtain ⟨shown, ordered⟩ := answers_shown mirrors stored
  exact ⟨answers_eq mirrors stored, fun answer member => (shown answer member).1, ordered⟩

def exampleConsumer : AgentId where
  text := "agent-root"
  valid := by decide

/-- Handles 1 and 2 were opened before handle 0 appended the event. -/
def exampleCalls : List LogCall :=
  [.mutate 0 (.append exampleEvent) namesInOrder,
    .mutate 1 (.append exampleEvent) namesInOrder,
    .mutate 2 (.fail exampleEventId exampleConsumer (.timeout "agent timed out")) namesInOrder,
    .refresh 0 namesInOrder,
    .mutate 1 (.ack exampleEventId exampleConsumer) namesInOrder,
    .reopen 2 namesInOrder]

theorem eventLog_refines_inMemory_example :
    LogRefinement "/state/events/log" { files := [], views := fun _ => ⟨0, []⟩ } .new
      exampleCalls := by
  refine eventLog_refines_inMemory _ _ _ (fun _ _ => rfl) ?_
  have inTime : exampleEvent.metadata.createdAt.sinceEpoch ≠ none := by decide
  have countable : (EvaError.timeout "agent timed out").Countable := by
    unfold EvaError.Countable
    decide
  simp [exampleCalls, LogCall.Storable, LogMutation.Storable, inTime, countable]

end Eva.Storage
