import Eva.EventBus.DeadLetter
import Eva.Foundation.RecordFiles
import Eva.Storage.Writer
import Mathlib.Data.String.Basic

/-! # The dead-letter directory

One file for each event, named by its id in hexadecimal digits. Every operation of
the runtime writer is a transaction: under the lock of the process it loads the whole
directory, and it replaces at most one file.
-/

namespace Eva.EventBus

open Eva.Storage RecordFiles

/-! ## Files -/

def deadLetterFileName (eventId : EventId) : String :=
  encodedString eventId.text ++ "." ++ "dead"

def deadLetterScheme (root : String) : Scheme EventId DeadLetterRecord EvaError where
  selects := hasExtension "dead"
  fileName := deadLetterFileName
  key := DeadLetterRecord.eventId
  render := deadLetterToStorage
  parse name content := withPath (recordPath root name) (deadLetterFromStorage content)
  directoryError := pathError (.internal "failed to read durable dead-letter directory") root
  entryError := pathError (.internal "failed to read durable dead-letter entry") root
  fileError name :=
    pathError (.conflict "failed to read durable dead-letter record") (recordPath root name)

def validateRecords (eventIds : List EventId) : List DeadLetterRecord → Except EvaError Unit
  | [] => pure ()
  | record :: records => do
      rejectIf (record.eventId ∈ eventIds)
        ((EvaError.conflict "durable dead-letter event id is duplicated").withContext
          "event_id" record.eventId.text)
      validateRecords (record.eventId :: eventIds) records

def sortRecords (records : List DeadLetterRecord) : List DeadLetterRecord :=
  records.insertionSort fun left right => left.eventId.text ≤ right.eventId.text

/-! ## Transactions -/

/-- The files, and whether a panic happened under the lock of the process. -/
structure DeadLetterState where
  files : Files
  poisoned : Bool

/-- What the surroundings decide about one transaction. -/
structure DeadLetterEnvironment where
  /-- The error of the check that the writer is still the current one. -/
  writerError : Option EvaError
  fault : Option LoadFault
  listing : Listing
  write : WriteOutcome
  now : SystemTime

/-- What an operation does with the loaded records. -/
structure Step (Value : Type) where
  value : Value
  persist : Option DeadLetterRecord
  records : List DeadLetterRecord

/-- What a transaction leaves in the directory and in its handle. -/
structure Outcome (Value : Type) where
  state : DeadLetterState
  view : List DeadLetterRecord
  result : Fallible EvaError Value

section Transaction

variable (root : String) (environment : DeadLetterEnvironment)

def loadRecords (files : Files) : Fallible EvaError (List DeadLetterRecord) := do
  let records ← (deadLetterScheme root).load environment.fault environment.listing files
  let records := sortRecords records
  fallible (validateRecords [] records)
  pure records

/-- A panic under the lock leaves it poisoned. -/
def DeadLetterState.failed (state : DeadLetterState) : Failure EvaError → DeadLetterState
  | .panicked => { state with poisoned := true }
  | .reported _ => state

def persistError (record : DeadLetterRecord) : String → EvaError :=
  pathError (.internal "failed to atomically write durable dead-letter record")
    (recordPath root (deadLetterFileName record.eventId))

def settle {Value : Type} (state : DeadLetterState) (view : List DeadLetterRecord)
    (step : Step Value) : Outcome Value :=
  match step.persist with
  | none => { state, view := step.records, result := .ok step.value }
  | some record =>
      let written := { state with
        files := environment.write.files (deadLetterFileName record.eventId)
          (deadLetterToStorage record) state.files }
      match environment.write.result (persistError root record) with
      | .ok () => { state := written, view := step.records, result := .ok step.value }
      | .error error => { state := written, view, result := .error (.reported error) }

def withWriteTransaction {Value : Type} (state : DeadLetterState) (view : List DeadLetterRecord)
    (operation : List DeadLetterRecord → Fallible EvaError (Step Value)) : Outcome Value :=
  if state.poisoned then
    { state, view, result := .error (.reported
        ((EvaError.internal "durable dead-letter process lock is poisoned").withContext
          "path" root)) }
  else
    match environment.writerError with
    | some error => { state, view, result := .error (.reported error) }
    | none =>
        match loadRecords root environment state.files >>= operation with
        | .error failure => { state := state.failed failure, view, result := .error failure }
        | .ok step => settle root environment state view step

end Transaction

/-! ## Operations -/

def deadLetterMissing (eventId : EventId) : EvaError :=
  (EvaError.notFound "dead-letter event does not exist").withContext "event_id" eventId.text

def replaceDeadLetter : DeadLetterRecord → List DeadLetterRecord → List DeadLetterRecord :=
  replaceBy DeadLetterRecord.eventId

def push (event : Event) (reason : EvaError) (replayHandlers : List ReplayHandlerBinding)
    (redrive : RedrivePolicy) (records : List DeadLetterRecord) :
    Fallible EvaError (Step DeadLetterRecord) := do
  fallible (rejectIf (records.any fun record => record.eventId = event.eventId)
    ((EvaError.conflict "dead-letter event already exists").withContext
      "event_id" event.eventId.text))
  let record ← fallible
    (DeadLetterRecord.withReplayHandlersAndRedrive event reason replayHandlers redrive)
  pure { value := record, persist := some record, records := sortRecords (records ++ [record]) }

def setRedrivePolicy (eventId : EventId) (redrive : RedrivePolicy)
    (records : List DeadLetterRecord) : Fallible EvaError (Step DeadLetterRecord) := do
  let found ← fallible (orReject (deadLetterMissing eventId)
    (records.find? fun record => record.eventId = eventId))
  let record := { found with redrive }
  pure { value := record, persist := some record, records := replaceDeadLetter record records }

def replayIdText (eventId : EventId) (replayCount : U64) : String :=
  eventId.text ++ ":replay-" ++ replayCount.text

def replayEventForPublish (now : SystemTime) (record : DeadLetterRecord) :
    Except EvaError Event := do
  let replayId ← Identifier.new "event" (replayIdText record.eventId record.replayCount)
  pure
    { eventId := replayId
      topic := record.event.topic
      target := record.event.target
      payload := record.event.payload
      metadata :=
        { createdAt := now
          requestId := record.event.metadata.requestId
          trace := record.event.metadata.trace.childOf record.eventId
          generationId := record.event.metadata.generationId } }

/-- How the next boundary is chosen once the count was raised. -/
inductive NextAttempt where
  | afterDelay
  | atMs (nextAttemptAfterMs : U64)

def NextAttempt.of (next : NextAttempt) (record : DeadLetterRecord) : U64 :=
  match next with
  | .afterDelay => record.redrive.retryDelayMs.saturatingMul record.replayCount
  | .atMs nextAttemptAfterMs => nextAttemptAfterMs

def DeadLetterRecord.redriven (record : DeadLetterRecord) (replayCount : U64)
    (next : NextAttempt) : DeadLetterRecord :=
  let counted := { record with replayCount }
  { counted with redrive := { record.redrive with nextAttemptAfterMs := next.of counted } }

/-- Raising the count panics at the end of its range. -/
def redriveForPublishWithNext (now : SystemTime) (eventId : EventId) (next : NextAttempt)
    (records : List DeadLetterRecord) : Fallible EvaError (Step Event) := do
  let found ← fallible (orReject (deadLetterMissing eventId)
    (records.find? fun record => record.eventId = eventId))
  let replayCount ← orPanic (found.replayCount.checkedAdd 1)
  let record := found.redriven replayCount next
  let event ← fallible (replayEventForPublish now record)
  pure { value := event, persist := some record, records := replaceDeadLetter record records }

inductive DeadLetterOperation where
  | push (event : Event) (reason : EvaError) (replayHandlers : List ReplayHandlerBinding)
      (redrive : RedrivePolicy)
  | setRedrivePolicy (eventId : EventId) (redrive : RedrivePolicy)
  | redrive (eventId : EventId) (next : NextAttempt)
  /-- The first step of `replay_all_for_publish`. -/
  | eventIds
  | refresh

@[reducible] def DeadLetterOperation.Value : DeadLetterOperation → Type
  | push .. | setRedrivePolicy .. => DeadLetterRecord
  | redrive .. => Event
  | eventIds => List EventId
  | refresh => Unit

def DeadLetterOperation.step (now : SystemTime) (records : List DeadLetterRecord) :
    (operation : DeadLetterOperation) → Fallible EvaError (Step operation.Value)
  | .push event reason replayHandlers policy =>
      EventBus.push event reason replayHandlers policy records
  | .setRedrivePolicy eventId policy => EventBus.setRedrivePolicy eventId policy records
  | .redrive eventId next => redriveForPublishWithNext now eventId next records
  | .eventIds => pure { value := records.map (·.eventId), persist := none, records }
  | .refresh => pure { value := (), persist := none, records }

def DeadLetterOperation.perform (root : String) (environment : DeadLetterEnvironment)
    (state : DeadLetterState) (view : List DeadLetterRecord) (operation : DeadLetterOperation) :
    Outcome operation.Value :=
  withWriteTransaction root environment state view
    fun records => operation.step environment.now records

/-- `open_with_writer`, in the root of the writer; it does not take the lock. -/
def openWithWriter (root : String) (environment : DeadLetterEnvironment)
    (state : DeadLetterState) : Fallible EvaError (List DeadLetterRecord) :=
  match environment.writerError with
  | some error => .error (.reported error)
  | none => loadRecords root environment state.files

/-! ## The scheme of the directory -/

theorem encodedString_injective (same : encodedString left = encodedString right) :
    left = right := by
  have decoded := @RecordTexts.decodeString_encodedString deadLetterTexts left
  rw [same, RecordTexts.decodeString_encodedString] at decoded
  exact (Except.ok.inj decoded).symm

theorem deadLetterFileName_injective
    (same : deadLetterFileName left = deadLetterFileName right) : left = right :=
  Identifier.eq_of_text (encodedString_injective (by simpa [deadLetterFileName] using same))

theorem deadLetterScheme_lawful (root : String) :
    (deadLetterScheme root).Lawful DeadLetterRecord.stored fun _ => True where
  injective _ _ := deadLetterFileName_injective
  selected eventId := hasExtension_append "dead" (encodedString_ne_empty eventId.valid.nonempty)
  keyed _ := rfl
  parsed record _ := by
    simp only [deadLetterScheme, deadLetterFromStorage_deadLetterToStorage, withPath]

/-! ## What an operation does with the loaded records -/

section Step

variable {loaded : List DeadLetterRecord}

theorem push_eq_ok (pushed : push event reason replayHandlers policy loaded = .ok step) :
    (∀ record ∈ loaded, record.eventId ≠ event.eventId) ∧
      DeadLetterRecord.withReplayHandlersAndRedrive event reason replayHandlers policy =
        .ok step.value ∧
      step.persist = some step.value ∧ step.records = sortRecords (loaded ++ [step.value]) := by
  simp only [push, bind_eq_ok_iff, fallible_eq_ok_iff, rejectIf_eq_ok_iff, exists_unit_iff,
    pure_eq_ok_iff] at pushed
  obtain ⟨absent, record, made, rfl⟩ := pushed
  exact ⟨by simpa using absent, made, rfl, rfl⟩

theorem setRedrivePolicy_eq_ok (updated : setRedrivePolicy eventId policy loaded = .ok step) :
    ∃ found ∈ loaded, found.eventId = eventId ∧ step.value = { found with redrive := policy } ∧
      step.persist = some step.value ∧ step.records = replaceDeadLetter step.value loaded := by
  simp only [setRedrivePolicy, bind_eq_ok_iff, fallible_eq_ok_iff, orReject_eq_ok_iff,
    pure_eq_ok_iff] at updated
  obtain ⟨found, search, rfl⟩ := updated
  exact ⟨found, List.mem_of_find?_eq_some search, by simpa using List.find?_some search,
    rfl, rfl, rfl⟩

theorem redriveForPublishWithNext_eq_ok
    (redriven : redriveForPublishWithNext now eventId next loaded = .ok step) :
    ∃ found ∈ loaded, found.eventId = eventId ∧ ∃ count : U64,
      count.value = found.replayCount.value + 1 ∧
      replayEventForPublish now (found.redriven count next) = .ok step.value ∧
      step.persist = some (found.redriven count next) ∧
      step.records = replaceDeadLetter (found.redriven count next) loaded := by
  simp only [redriveForPublishWithNext, bind_eq_ok_iff, fallible_eq_ok_iff, orReject_eq_ok_iff,
    pure_eq_ok_iff] at redriven
  obtain ⟨found, search, count, raised, event, made, rfl⟩ := redriven
  refine ⟨found, List.mem_of_find?_eq_some search, by simpa using List.find?_some search,
    count, ?_, made, rfl, rfl⟩
  cases sum : found.replayCount.checkedAdd 1 with
  | none =>
      rw [sum] at raised
      cases raised
  | some value =>
      rw [sum] at raised
      cases raised
      exact Unsigned.checkedAdd_eq_some_iff.mp sum

theorem redriveForPublishWithNext_of_find
    (search : loaded.find? (fun record => record.eventId = eventId) = some found)
    (raised : count.value = found.replayCount.value + 1)
    (made : replayEventForPublish now (found.redriven count next) = .ok event) :
    redriveForPublishWithNext now eventId next loaded = .ok
      { value := event
        persist := some (found.redriven count next)
        records := replaceDeadLetter (found.redriven count next) loaded } := by
  have sum : found.replayCount.checkedAdd 1 = some count :=
    Unsigned.checkedAdd_eq_some_iff.mpr raised
  simp only [redriveForPublishWithNext, search, orReject, fallible_ok, ok_bind, sum, orPanic, made]
  rfl

theorem replayEventForPublish_of_name
    (named : replayId.text = replayIdText record.eventId record.replayCount) :
    ∃ event, replayEventForPublish now record = .ok event ∧ event.eventId = replayId := by
  rw [replayEventForPublish, Identifier.new_eq_ok_iff.mpr named, ok_bind]
  exact ⟨_, rfl, rfl⟩

theorem replayEventForPublish_eventId (made : replayEventForPublish now record = .ok event) :
    event.eventId.text = replayIdText record.eventId record.replayCount := by
  simp only [replayEventForPublish, bind_eq_ok_iff, pure_eq_ok_iff] at made
  obtain ⟨replayId, valid, rfl⟩ := made
  exact Identifier.new_eq_ok_iff.mp valid

end Step

/-! ## What a transaction does -/

theorem validateRecords_eq_ok (distinct : (records.map (·.eventId)).Nodup)
    (new : ∀ record ∈ records, record.eventId ∉ eventIds) :
    validateRecords eventIds records = .ok () := by
  induction records generalizing eventIds with
  | nil => rfl
  | cons record records induction =>
      rw [List.map_cons, List.nodup_cons] at distinct
      simp only [validateRecords, seq_eq_ok_iff, rejectIf_eq_ok_iff]
      refine ⟨new record List.mem_cons_self, induction distinct.2 ?_⟩
      intro other member repeated
      rcases List.mem_cons.mp repeated with same | old
      · exact distinct.1 (same ▸ List.mem_map_of_mem member)
      · exact new other (List.mem_cons_of_mem _ member) old

section Transaction

variable {root : String} {environment : DeadLetterEnvironment} {state : DeadLetterState}
  {view : List DeadLetterRecord} {Value : Type}

theorem DeadLetterOperation.perform_cases (root : String) (environment : DeadLetterEnvironment)
    (state : DeadLetterState) (view : List DeadLetterRecord) (operation : DeadLetterOperation) :
    (∃ failure, operation.perform root environment state view =
      { state := state.failed failure, view, result := .error failure }) ∨
    ∃ loaded step, loadRecords root environment state.files = .ok loaded ∧
      operation.step environment.now loaded = .ok step ∧
      operation.perform root environment state view =
        settle root environment state view step := by
  unfold perform withWriteTransaction
  split
  next => exact .inl ⟨.reported _, rfl⟩
  next =>
      split
      next => exact .inl ⟨.reported _, rfl⟩
      next =>
          split
          next failure _ => exact .inl ⟨failure, rfl⟩
          next step ran =>
              obtain ⟨loaded, read, stepped⟩ := bind_eq_ok_iff.mp ran
              exact .inr ⟨loaded, step, read, stepped, rfl⟩

theorem DeadLetterState.failed_files (failure : Failure EvaError) :
    (state.failed failure).files = state.files := by
  cases failure <;> rfl

theorem settle_files (step : Step Value) :
    (settle root environment state view step).state.files =
      match step.persist with
      | none => state.files
      | some record => environment.write.files (deadLetterFileName record.eventId)
          (deadLetterToStorage record) state.files := by
  unfold settle
  cases step.persist with
  | none => rfl
  | some record =>
      dsimp only
      cases environment.write.result (persistError root record) <;> rfl

theorem settle_cases (persisted : step.persist = some record) :
    ((settle root environment state view step).state.files = state.files ∧
      ∃ failure, (settle root environment state view step).result = .error failure) ∨
    (settle root environment state view step).state.files =
      (deadLetterFileName record.eventId, deadLetterToStorage record) :: state.files := by
  rw [settle_files, persisted]
  cases write : environment.write with
  | failed ioError =>
      refine .inl ⟨rfl, .reported (persistError root record ioError), ?_⟩
      simp only [settle, persisted, write, WriteOutcome.result]
  | written | unsynced => exact .inr rfl

theorem settle_ok (succeeded : (settle root environment state view step).result = .ok value) :
    value = step.value ∧ ∀ record ∈ step.persist, environment.write = .written := by
  unfold settle at succeeded
  cases persisted : step.persist with
  | none =>
      rw [persisted] at succeeded
      exact ⟨(Except.ok.inj succeeded).symm, by simp⟩
  | some record =>
      rw [persisted] at succeeded
      cases write : environment.write with
      | written =>
          rw [write] at succeeded
          exact ⟨(Except.ok.inj succeeded).symm, fun _ _ => rfl⟩
      | failed | unsynced =>
          rw [write] at succeeded
          cases succeeded

variable {records : List DeadLetterRecord}
  (represents : (deadLetterScheme root).Represents state.files records)
include represents

private theorem pairwise_sortRecords :
    (sortRecords records).Pairwise fun left right => left.eventId.text < right.eventId.text := by
  have sorted := List.pairwise_insertionSort (fun left right : DeadLetterRecord =>
    left.eventId.text ≤ right.eventId.text) records
  have distinct : ((sortRecords records).map (deadLetterScheme root).key).Nodup :=
    ((List.perm_insertionSort _ records).map _).nodup_iff.mpr represents.distinct
  refine (sorted.and (List.pairwise_map.mp distinct)).imp fun both => ?_
  exact lt_of_le_of_ne both.1 fun same => both.2 (Identifier.eq_of_text same)

theorem loadRecords_of_represents (readable : environment.fault = none) :
    loadRecords root environment state.files = .ok (sortRecords records) := by
  obtain ⟨loaded, read, perm⟩ :=
    represents.load (deadLetterScheme_lawful root) environment.listing
  have same := perm.trans (List.perm_insertionSort
    (fun left right : DeadLetterRecord => left.eventId.text ≤ right.eventId.text) records).symm
  have sorted : sortRecords loaded = sortRecords records :=
    insertionSort_of_perm same (pairwise_sortRecords represents)
  have distinct : ((sortRecords records).map DeadLetterRecord.eventId).Nodup :=
    ((List.perm_insertionSort _ records).map _).nodup_iff.mpr represents.distinct
  have valid : validateRecords [] (sortRecords records) = .ok () :=
    validateRecords_eq_ok distinct (by simp)
  rw [loadRecords, readable, read, ok_bind]
  simp only [sorted, valid, fallible_ok, ok_bind]
  rfl

theorem DeadLetterOperation.perform_of_represents (sound : state.poisoned = false)
    (current : environment.writerError = none) (readable : environment.fault = none)
    {operation : DeadLetterOperation} {step : Step operation.Value}
    (stepped : operation.step environment.now (sortRecords records) = .ok step) :
    operation.perform root environment state view = settle root environment state view step := by
  unfold perform withWriteTransaction
  rw [sound, current, loadRecords_of_represents represents readable, ok_bind, stepped]
  rfl

theorem perm_of_loadRecords
    (read : loadRecords root environment state.files = .ok loaded) : loaded.Perm records := by
  obtain ⟨unsorted, opened, validated⟩ := bind_eq_ok_iff.mp read
  have sorted : sortRecords unsorted = loaded := by
    simpa using (bind_eq_ok_iff.mp validated).choose_spec.2
  rw [← sorted]
  exact (List.perm_insertionSort _ _).trans
    (represents.perm_of_load (deadLetterScheme_lawful root) opened)

end Transaction

end Eva.EventBus
