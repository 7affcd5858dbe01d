import Eva.Storage.TaskState.Format

/-! # Reading back what was written

The reader applied to a written record returns the record up to its normal
form: optional texts that are empty are lost, and so are the retry fields of a
record without an envelope.
-/

namespace Eva.Storage

/-! ## Lines and their fields -/

namespace TaskField

/-- The table of fields is complete. -/
private theorem forall_of_all {property : TaskField → Prop}
    (checked : ∀ field ∈ all, property field) (field : TaskField) : property field :=
  checked field (by cases field <;> decide)

private theorem names_read : ∀ field : TaskField,
    ('=' ∉ field.name.toList ∧ '\n' ∉ field.name.toList ∧ '\r' ∉ field.name.toList) ∧
      ofSingleName field.name.toList = (if field.isSingle then some field else none) ∧
      all.find? (fun other => other.name.toList = field.name.toList) = some field :=
  forall_of_all (by decide +kernel)

private theorem equals_notMem_name (field : TaskField) : '=' ∉ field.name.toList :=
  (names_read field).1.1

theorem ofSingleName_name (field : TaskField) :
    ofSingleName field.name.toList = if field.isSingle then some field else none :=
  (names_read field).2.1

theorem splitOnce_line (field : TaskField) (value : List Char) :
    Text.splitOnce '=' (field.line value) = some (field.name.toList, value) :=
  Text.splitOnce_append (equals_notMem_name field) value

private theorem stripPrefix_line (other field : TaskField) (value : List Char) :
    Text.stripPrefix (other.name.toList ++ ['=']) (field.line value) =
      if other.name.toList = field.name.toList then some value else none := by
  split
  next same =>
    rw [Text.stripPrefix_eq_some_iff]
    simp [line, same]
  next different =>
    rw [Option.eq_none_iff_forall_ne_some]
    intro rest stripped
    rw [Text.stripPrefix_eq_some_iff, List.append_assoc] at stripped
    have split := splitOnce_line field value
    rw [stripped] at split
    have parts := Text.splitOnce_append (equals_notMem_name other) rest
    rw [show ['='] ++ rest = '=' :: rest from rfl, parts] at split
    simp only [Option.some.injEq, Prod.mk.injEq] at split
    exact different split.1

theorem ofLine_line (field : TaskField) (value : List Char) :
    ofLine (field.line value) = some (field, value) := by
  have lookup : ∀ fields : List TaskField,
      fields.find? (fun other => other.name.toList = field.name.toList) = some field →
      (fields.findSome? fun other =>
        (Text.stripPrefix (other.name.toList ++ ['=']) (field.line value)).map
          fun value => (other, value)) = some (field, value) := by
    intro fields
    induction fields with
    | nil => simp
    | cons other fields induction =>
        intro found
        by_cases same : other.name.toList = field.name.toList
        · have equal : other = field := by simpa [same] using found
          simp [stripPrefix_line, equal]
        · simp only [List.find?_cons, same, decide_false] at found
          simpa [stripPrefix_line, same] using induction found
  exact lookup all (names_read field).2.2

end TaskField

namespace TaskStateDraft

def withSeen (draft : TaskStateDraft) (fields : List TaskField) : TaskStateDraft :=
  { draft with seenScalars := fields }

private theorem setField_withSeen (single : field.isSingle)
    (draft : TaskStateDraft) (seen : List TaskField) (value : List Char) :
    (draft.withSeen seen).setField field value =
      (draft.setField field value).map (·.withSeen seen) := by
  cases field <;>
    first
    | rfl
    | (simp only [setField, map_bind]; rfl)
    | cases single

/-- The values of a block of fields, without looking at duplicates. -/
def setFields (draft : TaskStateDraft) (fields : List (TaskField × List Char)) :
    Except EvaError TaskStateDraft :=
  fields.foldlM (fun draft (field, value) => draft.setField field value) draft

private theorem setFields_cons (draft : TaskStateDraft) (field : TaskField)
    (value : List Char) (fields : List (TaskField × List Char)) :
    draft.setFields ((field, value) :: fields) =
      draft.setField field value >>= fun draft => draft.setFields fields := rfl

private theorem setFields_append (draft : TaskStateDraft)
    (left right : List (TaskField × List Char)) :
    draft.setFields (left ++ right) =
      draft.setFields left >>= fun draft => draft.setFields right :=
  List.foldlM_append

private theorem readLines_append (draft : TaskStateDraft) (left right : List (List Char)) :
    draft.readLines (left ++ right) =
      draft.readLines left >>= fun draft => draft.readLines right :=
  List.foldlM_append

private theorem readLine_single {draft : TaskStateDraft}
    (single : field.isSingle) (fresh : field ∉ draft.seenScalars) (value : List Char) :
    draft.readLine (field.line value) =
      (draft.setField field value).map (·.withSeen (field :: draft.seenScalars)) := by
  rw [← setField_withSeen single]
  simp [readLine, see, TaskField.splitOnce_line, TaskField.ofSingleName_name, single, rejectIf,
    fresh, TaskField.ofLine_line, bind, Except.bind, pure, Except.pure, withSeen]

private theorem readLine_repeated (repeated : field.isSingle = false)
    (draft : TaskStateDraft) (value : List Char) :
    draft.readLine (field.line value) = draft.setField field value := by
  simp [readLine, see, TaskField.splitOnce_line, TaskField.ofSingleName_name, repeated,
    TaskField.ofLine_line, bind, Except.bind, pure, Except.pure]

private theorem setFields_withSeen
    (single : ∀ field ∈ fields, field.1.isSingle) (draft : TaskStateDraft)
    (seen : List TaskField) :
    (draft.withSeen seen).setFields fields =
      (draft.setFields fields).map (·.withSeen seen) := by
  induction fields generalizing draft with
  | nil => rfl
  | cons field fields induction =>
      obtain ⟨field, value⟩ := field
      rw [setFields_cons, setFields_cons, setField_withSeen (single _ List.mem_cons_self),
        map_bind]
      cases draft.setField field value with
      | error error => rfl
      | ok next => exact induction (fun field member => single field (by simp [member])) next

theorem readLines_single (single : ∀ field ∈ fields, field.1.isSingle) (draft : TaskStateDraft)
    (distinct : ((fields.map Prod.fst).reverse ++ draft.seenScalars).Nodup) :
    draft.readLines (fields.map fun (field, value) => field.line value) =
      (draft.setFields fields).map
        (·.withSeen ((fields.map Prod.fst).reverse ++ draft.seenScalars)) := by
  induction fields generalizing draft with
  | nil => rfl
  | cons field fields induction =>
      obtain ⟨field, value⟩ := field
      simp only [List.map_cons, List.reverse_cons, List.append_assoc,
        List.singleton_append] at distinct
      have fresh : field ∉ draft.seenScalars :=
        (List.nodup_cons.mp (List.nodup_append.mp distinct).2.1).1
      have rest := fun field member => single field (List.mem_cons_of_mem _ member)
      rw [List.map_cons, readLines, List.foldlM_cons,
        readLine_single (single _ List.mem_cons_self) fresh, setFields_cons, map_bind]
      cases step : draft.setField field value with
      | error error => rfl
      | ok next =>
          have read := induction rest (next.withSeen (field :: draft.seenScalars)) distinct
          rw [readLines] at read
          simp only [Except.map, ok_bind, read]
          rw [setFields_withSeen rest]
          cases next.setFields fields <;> simp [Except.map, withSeen]

theorem readLines_repeated
    (repeated : ∀ field ∈ fields, field.1.isSingle = false) (draft : TaskStateDraft) :
    draft.readLines (fields.map fun (field, value) => field.line value) =
      draft.setFields fields := by
  induction fields generalizing draft with
  | nil => rfl
  | cons field fields induction =>
      rw [List.map_cons, readLines, List.foldlM_cons,
        readLine_repeated (repeated _ List.mem_cons_self), setFields_cons]
      congr 1
      funext next
      exact induction (fun field member => repeated field (List.mem_cons_of_mem _ member)) next

end TaskStateDraft

/-! ## Values -/

private theorem parseStored_formatUnsigned (message name : String) (number : Unsigned bits) :
    parseStored bits message name (Text.formatUnsigned number) = .ok number := by
  simp [parseStored, Text.parseUnsigned_formatUnsigned]

private theorem parseOptionalStored_encodeNumber (name : String)
    (number : Option (Unsigned bits)) :
    parseOptionalStored bits name (TaskStateSnapshot.encodeNumber number) = .ok number := by
  cases number with
  | none => rfl
  | some number =>
      simp [parseOptionalStored, TaskStateSnapshot.encodeNumber, Text.formatUnsigned_ne_nil,
        parseStored_formatUnsigned, Except.map]

private theorem parseOptionalStoredBool_encodeBool (name : String) (value : Option Bool) :
    parseOptionalStoredBool name ((value.map TaskStateSnapshot.encodeBool).getD []) =
      .ok value := by
  rcases value with _ | _ | _ <;> rfl

private theorem encodeBool_eq_true_iff (value : Bool) :
    decide (TaskStateSnapshot.encodeBool value = "true".toList) = value := by
  cases value <;> rfl

/-! ## Blocks of fields -/

namespace TaskStateDraft

variable (draft : TaskStateDraft) (snapshot : TaskStateSnapshot)

def withHeader : TaskStateDraft :=
  { draft with
    snapshot :=
      { draft.snapshot with
        recordVersion := snapshot.recordVersion
        ownerGeneration := snapshot.ownerGeneration
        taskId := snapshot.taskId
        status := snapshot.status
        attempts := snapshot.attempts
        retryMaxAttempts := snapshot.retryMaxAttempts }
    format := some
      (if snapshot.envelope.isSome then taskStateFormatV5 else taskStateFormatV2).toList }

private theorem setFields_headerFields :
    draft.setFields snapshot.headerFields = .ok (draft.withHeader snapshot) := by
  simp only [TaskStateSnapshot.headerFields, setFields_cons, setField, parseStoredU64,
    parseStoredUsize, parseStored_formatUnsigned, decodeField_encodeField, pure_bind, ok_bind,
    TaskStatus.ofStr_asStr]
  rfl

def withEnvelope (envelope : TaskEnvelopeSnapshot) : TaskStateDraft :=
  { draft with
    envelopeKind := some envelope.kind
    envelopeAgentId := some envelope.agentId
    envelopeInputKind := some (TaskStateSnapshot.inputKind envelope.input)
    envelopeInlineInputHex := some (TaskStateSnapshot.inlineInputHex envelope.input)
    envelopeArtifactRef :=
      some (decodeField (TaskStateSnapshot.inputArtifactRef envelope.input))
    envelopeInputDigest := some envelope.input.digest.toList
    envelopeIdempotencyKey := some envelope.idempotencyKey
    envelopeMaxAttempts := some envelope.attemptPolicy.maxAttempts
    envelopeRetryBackoffMs := some envelope.attemptPolicy.retryBackoffMs
    envelopeAttemptTimeoutMs := some envelope.attemptPolicy.attemptTimeoutMs
    replayEventId := some ((snapshot.replayDelivery.map (·.replayEventId)).filter (· ≠ ""))
    replayDeliveryIndex := some (snapshot.replayDelivery.map (·.deliveryIndex))
    snapshot :=
      { draft.snapshot with
        executionOwner := snapshot.executionOwner.filter (· ≠ "")
        resultDigest := decodeOptionalField (snapshot.resultDigest.getD "").toList
        resultSizeBytes := snapshot.resultSizeBytes
        errorRetryable := snapshot.errorRetryable
        retryReadyAtMs := snapshot.retryReadyAtMs } }

private theorem setFields_envelopeFields (envelope : TaskEnvelopeSnapshot) :
    draft.setFields (snapshot.envelopeFields envelope) =
      .ok (draft.withEnvelope snapshot envelope) := by
  simp only [TaskStateSnapshot.envelopeFields, setFields_cons, setField, parseStoredU32,
    parseStoredU64, parseStored_formatUnsigned, decodeField_encodeField,
    parseOptionalStoredU64, parseOptionalStoredU128, parseOptionalStoredUsize,
    parseOptionalStored_encodeNumber, parseOptionalStoredBool_encodeBool,
    decodeOptionalField_encodeOptionalField, pure_bind, ok_bind]
  rfl

def withLifecycle : TaskStateDraft :=
  { draft with
    snapshot :=
      { draft.snapshot with
        cancelRequested := snapshot.cancelRequested
        cancelAccepted := snapshot.cancelAccepted
        cancelReason := snapshot.cancelReason.filter (· ≠ "")
        heartbeatAtMs := snapshot.heartbeatAtMs
        deadlineAtMs := snapshot.deadlineAtMs
        cancelToken := snapshot.cancelToken.filter (· ≠ "")
        interruptedReason := snapshot.interruptedReason.filter (· ≠ "")
        errorKind := snapshot.errorKind.filter (· ≠ "")
        errorMessage := snapshot.errorMessage.filter (· ≠ "") } }

private theorem setFields_lifecycleFields :
    draft.setFields snapshot.lifecycleFields = .ok (draft.withLifecycle snapshot) := by
  simp only [TaskStateSnapshot.lifecycleFields, setFields_cons, setField,
    parseOptionalStoredU128, parseOptionalStored_encodeNumber, encodeBool_eq_true_iff,
    decodeOptionalField_encodeOptionalField, pure_bind, ok_bind]
  rfl

/-! ### Compound lines -/

private theorem splitStoredFields_join (expected : Nat)
    (plain : ∀ part ∈ parts, '|' ∉ part) (arity : parts.length = expected)
    (nonempty : parts ≠ []) (field : String) :
    splitStoredFields (TaskStateSnapshot.joinStoredFields parts) expected field = .ok parts := by
  have split := List.splitOn_intercalate '|' plain nonempty
  simp [splitStoredFields, TaskStateSnapshot.joinStoredFields, split, arity, rejectIf,
    bind, Except.bind, pure, Except.pure]

@[simp] private theorem bar_notMem_formatUnsigned (number : Unsigned bits) :
    '|' ∉ Text.formatUnsigned number := fun member =>
  absurd (Text.formatUnsigned_isDigit number '|' member) (by decide)

@[simp] private theorem bar_notMem_encodeField (value : String) : '|' ∉ encodeField value :=
  notMem_encodeField value (by decide)

private def appendLogs (entries : List TaskStateLogSnapshot) : TaskStateDraft :=
  { draft with snapshot := { draft.snapshot with logs := draft.snapshot.logs ++ entries } }

private def appendDeadLetters (entries : List TaskStateDeadLetterSnapshot) : TaskStateDraft :=
  { draft with
    snapshot :=
      { draft.snapshot with deadLetters := draft.snapshot.deadLetters ++ entries } }

private def appendReplays (entries : List TaskStateReplaySnapshot) : TaskStateDraft :=
  { draft with
    snapshot :=
      { draft.snapshot with replayedEvents := draft.snapshot.replayedEvents ++ entries } }

private theorem setField_logValue (entry : TaskStateLogSnapshot) :
    draft.setField .log (TaskStateSnapshot.logValue entry) =
      .ok (draft.appendLogs [entry]) := by
  simp only [setField, setLog, TaskStateSnapshot.logValue]
  rw [splitStoredFields_join 3 (by simp) rfl (by simp)]
  simp only [ok_bind, parseStoredU64, parseStored_formatUnsigned, decodeField_encodeField]
  rfl

private theorem setField_deadLetterValue (entry : TaskStateDeadLetterSnapshot) :
    draft.setField .deadLetter (TaskStateSnapshot.deadLetterValue entry) =
      .ok (draft.appendDeadLetters [entry]) := by
  simp only [setField, setDeadLetter, TaskStateSnapshot.deadLetterValue]
  rw [splitStoredFields_join 5 (by simp) rfl (by simp)]
  simp only [ok_bind, parseStoredUsize, parseStored_formatUnsigned, decodeField_encodeField]
  rfl

private theorem setField_replayValue (entry : TaskStateReplaySnapshot) :
    draft.setField .replay (TaskStateSnapshot.replayValue entry) =
      .ok (draft.appendReplays [entry]) := by
  simp only [setField, setReplay, TaskStateSnapshot.replayValue]
  rw [splitStoredFields_join 3 (by simp) rfl (by simp)]
  simp only [ok_bind, parseStoredU64, parseStored_formatUnsigned, decodeField_encodeField]
  rfl

private theorem setFields_entries
    {value : Entry → List Char} (append : TaskStateDraft → List Entry → TaskStateDraft)
    (appendNil : ∀ draft, append draft [] = draft)
    (appendCons : ∀ draft entry entries,
      append (append draft [entry]) entries = append draft (entry :: entries))
    (step : ∀ (draft : TaskStateDraft) (entry : Entry),
      draft.setField field (value entry) = .ok (append draft [entry]))
    (entries : List Entry) (draft : TaskStateDraft) :
    draft.setFields (entries.map fun entry => (field, value entry)) =
      .ok (append draft entries) := by
  induction entries generalizing draft with
  | nil => rw [appendNil]; rfl
  | cons entry entries induction =>
      rw [List.map_cons, setFields_cons, step, ok_bind, induction, appendCons]

def withEntries : TaskStateDraft :=
  { draft with
    snapshot :=
      { draft.snapshot with
        logs := draft.snapshot.logs ++ snapshot.logs
        deadLetters := draft.snapshot.deadLetters ++ snapshot.deadLetters
        replayedEvents := draft.snapshot.replayedEvents ++ snapshot.replayedEvents } }

private theorem setFields_entryFields :
    draft.setFields
      (snapshot.logs.map (fun entry => (TaskField.log, TaskStateSnapshot.logValue entry)) ++
      snapshot.deadLetters.map
        (fun entry => (TaskField.deadLetter, TaskStateSnapshot.deadLetterValue entry)) ++
      snapshot.replayedEvents.map
        (fun entry => (TaskField.replay, TaskStateSnapshot.replayValue entry))) =
      .ok (draft.withEntries snapshot) := by
  rw [setFields_append, setFields_append,
    setFields_entries appendLogs (by simp [appendLogs]) (by simp [appendLogs])
      setField_logValue, ok_bind,
    setFields_entries appendDeadLetters (by simp [appendDeadLetters])
      (by simp [appendDeadLetters]) setField_deadLetterValue, ok_bind,
    setFields_entries appendReplays (by simp [appendReplays]) (by simp [appendReplays])
      setField_replayValue]
  rfl

end TaskStateDraft

/-! ## Values that stay on their line -/

open Text
private theorem plain_encodeNumber (number : Option (Unsigned bits)) :
    Plain (TaskStateSnapshot.encodeNumber number) := by
  cases number with
  | none => simp [Plain, TaskStateSnapshot.encodeNumber]
  | some number => simpa [TaskStateSnapshot.encodeNumber] using plain_formatUnsigned number

private theorem plain_encodeBool (value : Bool) : Plain (TaskStateSnapshot.encodeBool value) := by
  cases value <;> exact ⟨by decide, by decide⟩

private theorem plain_join (plain : ∀ part ∈ parts, Plain part) :
    Plain (TaskStateSnapshot.joinStoredFields parts) := by
  have within : ∀ char, char ≠ '|' → char ∈ TaskStateSnapshot.joinStoredFields parts →
      ∃ part ∈ parts, char ∈ part := fun char other member =>
    (Text.mem_intercalate member).resolve_left other
  constructor
  · intro member
    obtain ⟨part, partMember, member⟩ := within _ (by decide) member
    exact (plain part partMember).1 member
  · intro member
    obtain ⟨part, partMember, member⟩ := within _ (by decide) member
    exact (plain part partMember).2 member

/-! ### Digests -/

section

variable (canonical : validateCanonicalSha256 value field = .ok ())
include canonical

private theorem canonicalSha256_chars :
    value ≠ "" ∧ ∀ char ∈ value.toList, char ∈ "sha256:".toList ∨ Text.isLowerHex char := by
  unfold validateCanonicalSha256 at canonical
  split at canonical
  next => cases canonical
  next hex stripped =>
    rw [Text.stripPrefix_eq_some_iff] at stripped
    simp only [rejectIf_eq_ok_iff, not_not, isSha256Hex, Bool.and_eq_true, beq_iff_eq,
      List.all_eq_true] at canonical
    refine ⟨?_, ?_⟩
    · rintro rfl
      simp at stripped
    · intro char member
      rw [stripped, List.mem_append] at member
      exact member.imp_right (canonical.2 char)

private theorem canonicalSha256_notMem
    (reserved : char ∉ "sha256:".toList ∧ Text.isLowerHex char = false) :
    char ∉ value.toList := by
  intro member
  rcases (canonicalSha256_chars canonical).2 char member with inPrefix | hex
  · exact reserved.1 inPrefix
  · simp [reserved.2] at hex

private theorem plain_canonicalSha256 : Plain value.toList :=
  ⟨canonicalSha256_notMem canonical (by decide),
    canonicalSha256_notMem canonical (by decide)⟩

end

private theorem input_digest_canonical {input : TaskInputSnapshot}
    (valid : input.validate = .ok ()) :
    ∃ field, validateCanonicalSha256 input.digest field = .ok () := by
  cases input with
  | inline bytes digest =>
      simp only [TaskInputSnapshot.validate, seq_eq_ok_iff] at valid
      exact ⟨_, valid.2.1⟩
  | artifact artifactRef digest =>
      simp only [TaskInputSnapshot.validate, seq_eq_ok_iff] at valid
      exact ⟨_, valid.2⟩

private theorem envelope_parts_valid {envelope : TaskEnvelopeSnapshot}
    (valid : envelope.validate = .ok ()) :
    envelope.input.validate = .ok () ∧ envelope.attemptPolicy.validate = .ok () := by
  simp only [TaskEnvelopeSnapshot.validate, seq_eq_ok_iff] at valid
  exact ⟨valid.2.2.2.1, valid.2.2.2.2⟩

/-! ## The whole record -/

namespace TaskStateSnapshot

variable {snapshot : TaskStateSnapshot}

/-- What a reader makes of the written record. -/
def stored (snapshot : TaskStateSnapshot) : TaskStateSnapshot :=
  { snapshot with
    cancelReason := snapshot.cancelReason.filter (· ≠ "")
    interruptedReason := snapshot.interruptedReason.filter (· ≠ "")
    errorKind := snapshot.errorKind.filter (· ≠ "")
    errorMessage := snapshot.errorMessage.filter (· ≠ "")
    errorRetryable := if snapshot.envelope.isSome then snapshot.errorRetryable else none
    retryReadyAtMs := if snapshot.envelope.isSome then snapshot.retryReadyAtMs else none }

attribute [local simp] plain_formatUnsigned plain_encodeField

private theorem plain_storageFields (valid : snapshot.Valid) :
    ∀ field ∈ snapshot.storageFields, Plain field.2 := by
  have empty : Plain [] := ⟨by simp, by simp⟩
  have header : ∀ field ∈ snapshot.headerFields, Plain field.2 := by
    have format : Plain
        (if snapshot.envelope.isSome then taskStateFormatV5 else taskStateFormatV2).toList := by
      split <;> exact ⟨by decide, by decide⟩
    simp [headerFields, format]
  have lifecycle : ∀ field ∈ snapshot.lifecycleFields, Plain field.2 := by
    simp [lifecycleFields, plain_encodeBool, plain_encodeOptionalField, plain_encodeNumber]
  have envelope : ∀ envelope, snapshot.envelope = some envelope →
      ∀ field ∈ snapshot.envelopeFields envelope, Plain field.2 := by
    intro envelope present
    have inputValid := (envelope_parts_valid (valid.envelopeValid envelope present).1).1
    obtain ⟨name, canonical⟩ := input_digest_canonical inputValid
    have digest : Plain envelope.input.digest.toList := plain_canonicalSha256 canonical
    have kind : Plain (inputKind envelope.input) := by
      cases envelope.input with
      | inline => exact (⟨by decide, by decide⟩ : Plain "inline".toList)
      | artifact => exact (⟨by decide, by decide⟩ : Plain "artifact".toList)
    have hex : Plain (inlineInputHex envelope.input) := by
      cases envelope.input with
      | inline bytes digest =>
          exact ⟨fun member => absurd (Text.encodeHex_isLowerHex bytes _ member) (by decide),
            fun member => absurd (Text.encodeHex_isLowerHex bytes _ member) (by decide)⟩
      | artifact artifactRef digest => exact empty
    have artifact : Plain (inputArtifactRef envelope.input) := by
      cases envelope.input with
      | inline bytes digest => exact empty
      | artifact artifactRef digest => exact plain_encodeField artifactRef
    have result : Plain (snapshot.resultDigest.getD "").toList := by
      rcases valid.resultConsistent with ⟨none, -⟩ | ⟨digest, -, some, -, -, -, canonical⟩
      · simpa [none] using empty
      · simpa [some] using plain_canonicalSha256 canonical
    have retryable : Plain ((snapshot.errorRetryable.map encodeBool).getD []) := by
      cases snapshot.errorRetryable with
      | none => exact empty
      | some value => exact plain_encodeBool value
    simp [envelopeFields, plain_encodeNumber, plain_encodeOptionalField, digest, kind, hex,
      artifact, result, retryable]
  have single : ∀ field ∈ snapshot.singleFields, Plain field.2 := by
    intro field member
    simp only [singleFields, List.mem_append] at member
    rcases member with (member | member) | member
    · exact header field member
    · split at member
      next present => exact envelope _ present field member
      next => simp at member
    · exact lifecycle field member
  intro field member
  simp only [storageFields, List.mem_append, List.mem_map] at member
  rcases member with ((member | ⟨entry, -, rfl⟩) | ⟨entry, -, rfl⟩) | ⟨entry, -, rfl⟩
  · exact single field member
  · rw [logValue]
    exact plain_join (by simp)
  · rw [deadLetterValue]
    exact plain_join (by simp)
  · rw [replayValue]
    exact plain_join (by simp)

private theorem lines_toStorage (valid : snapshot.Valid) :
    (Text.lines snapshot.toStorage.toList).filter (fun line => !Text.isBlank line) =
      snapshot.storageFields.map fun (field, value) => field.line value := by
  have plain : ∀ line ∈ snapshot.storageFields.map fun (field, value) => field.line value,
      Plain line := by
    intro line member
    obtain ⟨⟨field, value⟩, fieldMember, rfl⟩ := List.mem_map.mp member
    have name := (field.names_read).1.2
    have value := plain_storageFields valid _ fieldMember
    simp only [Plain] at value
    simp [Plain, TaskField.line, name, value]
  have lines : Text.lines snapshot.toStorage.toList =
      snapshot.storageFields.map fun (field, value) => field.line value := by
    rw [toStorage, String.toList_ofList, ← Text.flatMap_append_eq_intercalate]
    exact Text.lines_unlines (fun line member => (plain line member).inLine.1)
      fun line member => (plain line member).inLine.2
  rw [lines, List.filter_eq_self]
  intro line member
  obtain ⟨⟨field, value⟩, -, rfl⟩ := List.mem_map.mp member
  have visible : Text.isWhitespace '=' = false := by decide
  simp [Text.isBlank, TaskField.line, visible]

/-- Everything the reader has gathered when the file ends. -/
def finalDraft (snapshot : TaskStateSnapshot) : TaskStateDraft :=
  let header := TaskStateDraft.empty.withHeader snapshot
  let enveloped := match snapshot.envelope with
    | some envelope => header.withEnvelope snapshot envelope
    | none => header
  (enveloped.withLifecycle snapshot).withEntries snapshot
    |>.withSeen (snapshot.singleFields.map Prod.fst).reverse

private theorem finalDraft_header :
    snapshot.finalDraft.snapshot.taskId = snapshot.taskId ∧
      snapshot.finalDraft.snapshot.status = snapshot.status ∧
      snapshot.finalDraft.snapshot.recordVersion = snapshot.recordVersion ∧
      snapshot.finalDraft.format = (TaskStateDraft.empty.withHeader snapshot).format := by
  cases present : snapshot.envelope <;> simp only [finalDraft, present] <;>
    exact ⟨rfl, rfl, rfl, rfl⟩

private theorem isVersioned_finalDraft (committed : snapshot.recordVersion ≠ 0) :
    snapshot.finalDraft.isVersioned := by
  simp [TaskStateDraft.isVersioned, finalDraft_header, committed]

private theorem setFields_singleFields :
    TaskStateDraft.empty.setFields snapshot.singleFields =
      .ok (TaskStateDraft.withLifecycle (match snapshot.envelope with
        | some envelope => (TaskStateDraft.empty.withHeader snapshot).withEnvelope snapshot envelope
        | none => TaskStateDraft.empty.withHeader snapshot) snapshot) := by
  rw [singleFields, TaskStateDraft.setFields_append, TaskStateDraft.setFields_append,
    TaskStateDraft.setFields_headerFields, ok_bind]
  cases snapshot.envelope with
  | none => exact TaskStateDraft.setFields_lifecycleFields _ _
  | some envelope =>
      rw [TaskStateDraft.setFields_envelopeFields, ok_bind,
        TaskStateDraft.setFields_lifecycleFields]

private theorem singleFields_names :
    snapshot.singleFields.map Prod.fst =
      [TaskField.format, .recordVersion, .ownerGeneration, .taskId, .status, .attempts,
        .retryMaxAttempts] ++
      (if snapshot.envelope.isSome then
        [TaskField.envelopeKind, .envelopeAgentId, .envelopeInputKind, .envelopeInlineInputHex,
          .envelopeArtifactRef, .envelopeInputDigest, .envelopeIdempotencyKey,
          .envelopeMaxAttempts, .envelopeRetryBackoffMs, .envelopeAttemptTimeoutMs,
          .executionOwner, .resultDigest, .resultSizeBytes, .replayEventId,
          .replayDeliveryIndex, .errorRetryable, .retryReadyAtMs]
      else []) ++
      [TaskField.cancelRequested, .cancelAccepted, .cancelReason, .heartbeatAtMs, .deadlineAtMs,
        .cancelToken, .interruptedReason, .errorKind, .errorMessage] := by
  cases present : snapshot.envelope <;>
    simp [singleFields, present, headerFields, envelopeFields, lifecycleFields]

private theorem readLines_storageFields :
    TaskStateDraft.empty.readLines
        (snapshot.storageFields.map fun (field, value) => field.line value) =
      .ok snapshot.finalDraft := by
  have names := @singleFields_names snapshot
  have single : ∀ field ∈ snapshot.singleFields, field.1.isSingle := by
    have all : (snapshot.singleFields.map Prod.fst).all TaskField.isSingle := by
      rw [names]
      split <;> rfl
    simpa using all
  have distinct : ((snapshot.singleFields.map Prod.fst).reverse ++
      TaskStateDraft.empty.seenScalars).Nodup := by
    rw [names]
    split <;> decide
  have first := TaskStateDraft.readLines_single single TaskStateDraft.empty distinct
  have noneSeen : TaskStateDraft.empty.seenScalars = [] := rfl
  rw [setFields_singleFields, noneSeen, List.append_nil] at first
  have split : snapshot.storageFields = snapshot.singleFields ++
      (snapshot.logs.map (fun entry => (TaskField.log, logValue entry)) ++
        snapshot.deadLetters.map (fun entry => (TaskField.deadLetter, deadLetterValue entry)) ++
        snapshot.replayedEvents.map (fun entry => (TaskField.replay, replayValue entry))) := by
    simp only [storageFields, List.append_assoc]
  rw [split, List.map_append, TaskStateDraft.readLines_append, first, Except.map, ok_bind,
    TaskStateDraft.readLines_repeated, TaskStateDraft.setFields_entryFields]
  · rfl
  · simp only [List.mem_append, List.mem_map]
    rintro field ((⟨entry, -, rfl⟩ | ⟨entry, -, rfl⟩) | ⟨entry, -, rfl⟩) <;> rfl

/-! ### Finishing -/

private theorem filter_of_bounded
    (bounded : ∀ text, value = some text → isBoundedIdentity limit text) :
    value.filter (· ≠ "") = value := by
  apply filter_of_ne
  intro empty
  simpa [isBoundedIdentity] using bounded "" empty

private theorem decode_resultDigest (valid : snapshot.Valid) :
    decodeOptionalField (snapshot.resultDigest.getD "").toList = snapshot.resultDigest := by
  rcases valid.resultConsistent with ⟨none, -⟩ | ⟨digest, -, some, -, -, -, canonical⟩
  · simp [none, decodeOptionalField]
  · have nonempty := (canonicalSha256_chars canonical).1
    have unmarked : '%' ∉ digest.toList :=
      canonicalSha256_notMem canonical (by decide)
    simp [some, decodeOptionalField, nonempty, decodeField_of_notMem unmarked]

private theorem readInput_of_valid (valid : input.validate = .ok ()) :
    TaskStateDraft.readInput (inputKind input) (inlineInputHex input)
      (decodeField (inputArtifactRef input)) input.digest.toList = .ok input := by
  cases input with
  | inline bytes digest =>
      have noArtifact : decodeField [] = "" := decodeField_of_notMem (by simp)
      rw [TaskStateDraft.readInput, if_pos ⟨rfl, noArtifact⟩]
      simp [inlineInputHex, decodeStoredHex, Text.decodeHex_encodeHex, TaskInputSnapshot.digest,
        orReject]
  | artifact artifactRef digest =>
      have other : "artifact".toList ≠ "inline".toList := by decide
      rw [TaskStateDraft.readInput, if_neg (fun kind => other kind.1), if_pos ⟨rfl, rfl⟩]
      simp [inputArtifactRef, decodeField_encodeField, TaskInputSnapshot.digest]

private theorem readEnvelope_of_valid {envelope : TaskEnvelopeSnapshot}
    (valid : envelope.validate = .ok ()) (draft : TaskStateDraft) :
    (draft.withEnvelope snapshot envelope).readEnvelope = .ok envelope := by
  obtain ⟨inputValid, policyValid⟩ := envelope_parts_valid valid
  simp [TaskStateDraft.readEnvelope, TaskStateDraft.withEnvelope, requiredStoredField, orReject,
    readInput_of_valid inputValid, TaskAttemptPolicySnapshot.new, policyValid,
    TaskEnvelopeSnapshot.new, valid]

section

variable (valid : snapshot.Valid)
include valid

private theorem readReplayDelivery_of_valid
    (envelope : TaskEnvelopeSnapshot) (draft : TaskStateDraft) :
    (draft.withEnvelope snapshot envelope).readReplayDelivery = .ok snapshot.replayDelivery := by
  cases present : snapshot.replayDelivery with
  | none => simp [TaskStateDraft.readReplayDelivery, TaskStateDraft.withEnvelope, present, orReject]
  | some delivery =>
      have identifier := (valid.replayBacked delivery present).1
      have parsed : EventId.parse delivery.replayEventId = .ok () :=
        validateId_eq_ok_iff.mpr identifier
      have kept := identifier.nonempty
      simp [TaskStateDraft.readReplayDelivery, TaskStateDraft.withEnvelope, present, orReject,
        Option.filter, kept, TaskReplayDeliverySnapshot.new, TaskReplayDeliverySnapshot.validate,
        parsed]

private theorem Valid.bare (absent : snapshot.envelope = none) :
    snapshot.executionOwner = none ∧ snapshot.replayDelivery = none ∧
      snapshot.resultDigest = none ∧ snapshot.resultSizeBytes = none := by
  refine ⟨?_, ?_, ?_⟩
  · by_contra owned
    exact (valid.ownerBacked owned).1 absent
  · by_contra replay
    exact valid.enveloped_of_replay replay absent
  · rcases valid.resultConsistent with none | ⟨_, _, _, _, _, enveloped, _⟩
    · exact none
    · exact absurd absent enveloped

end

private theorem readFormat_of_none (valid : snapshot.Valid)
    (committed : snapshot.recordVersion ≠ 0) (absent : snapshot.envelope = none) :
    snapshot.finalDraft.readFormat = .ok snapshot.stored := by
  obtain ⟨owner, replay, digest, size⟩ := valid.bare absent
  have token := filter_of_bounded valid.tokenBounded
  have seen : snapshot.finalDraft.seenScalars =
      (snapshot.singleFields.map Prod.fst).reverse := rfl
  rw [singleFields_names, absent, Option.isSome_none, if_neg (by simp)] at seen
  have format : snapshot.finalDraft.format = some taskStateFormatV2.toList := by
    simp [finalDraft_header, TaskStateDraft.withHeader, absent]
  have noEnvelope : snapshot.finalDraft.hasEnvelopeFields = false := by
    simp only [finalDraft, absent]
    rfl
  have noExecution : snapshot.finalDraft.hasExecutionFields = false := by
    rw [TaskStateDraft.hasExecutionFields, seen]
    rfl
  have noV5 : snapshot.finalDraft.hasV5Fields = false := by
    rw [TaskStateDraft.hasV5Fields, seen]
    rfl
  have same : snapshot.finalDraft.snapshot = snapshot.stored := by
    simp only [finalDraft, absent, TaskStateDraft.withSeen, TaskStateDraft.withEntries,
      TaskStateDraft.withLifecycle, TaskStateDraft.withHeader, TaskStateDraft.empty, unread,
      stored, token, owner, replay, digest, size, List.nil_append]
    rfl
  rw [TaskStateDraft.readFormat]
  simp only [format]
  simp [isVersioned_finalDraft committed, noEnvelope, noExecution, noV5, same, rejectIf]

private theorem readFormat_of_some (valid : snapshot.Valid)
    (committed : snapshot.recordVersion ≠ 0) {envelope : TaskEnvelopeSnapshot}
    (present : snapshot.envelope = some envelope) :
    snapshot.finalDraft.readFormat = .ok snapshot.stored := by
  have owner := filter_of_bounded valid.ownerBounded
  have token := filter_of_bounded valid.tokenBounded
  have digest := decode_resultDigest valid
  have seen : snapshot.finalDraft.seenScalars =
      (snapshot.singleFields.map Prod.fst).reverse := rfl
  rw [singleFields_names, present, Option.isSome_some, if_pos rfl] at seen
  have format : snapshot.finalDraft.format = some taskStateFormatV5.toList := by
    simp [finalDraft_header, TaskStateDraft.withHeader, present]
  have execution : snapshot.finalDraft.requireSeen TaskStateDraft.executionFields
      "task state is missing an execution scalar field" = .ok () := by
    rw [TaskStateDraft.requireSeen, seen]
    rfl
  have v5 : snapshot.finalDraft.requireSeen TaskStateDraft.v5Fields
      "v5 task state is missing a replay or retry scalar field" = .ok () := by
    rw [TaskStateDraft.requireSeen, seen]
    rfl
  have readEnvelope : snapshot.finalDraft.readEnvelope = .ok envelope := by
    have read := @readEnvelope_of_valid snapshot envelope
      (valid.envelopeValid envelope present).1 TaskStateDraft.empty
    simp only [finalDraft, present]
    exact read
  have readReplay : snapshot.finalDraft.readReplayDelivery = .ok snapshot.replayDelivery := by
    have read := readReplayDelivery_of_valid valid envelope TaskStateDraft.empty
    simp only [finalDraft, present]
    exact read
  have same : { snapshot.finalDraft.snapshot with
      envelope := some envelope, replayDelivery := snapshot.replayDelivery } =
      snapshot.stored := by
    simp only [finalDraft, present, TaskStateDraft.withSeen, TaskStateDraft.withEntries,
      TaskStateDraft.withLifecycle, TaskStateDraft.withEnvelope, TaskStateDraft.withHeader,
      TaskStateDraft.empty, unread, stored, token, owner, digest, List.nil_append,
      Option.isSome_some, if_true]
  have v5Format : taskStateFormatV5.toList ≠ taskStateFormatV2.toList ∧
      taskStateFormatV5.toList ≠ taskStateFormatV3.toList ∧
      taskStateFormatV5.toList ≠ taskStateFormatV4.toList := by
    decide
  rw [TaskStateDraft.readFormat]
  simp only [format]
  rw [if_neg v5Format.1, if_neg v5Format.2.1, if_neg v5Format.2.2, if_pos trivial]
  simp [isVersioned_finalDraft committed, TaskStateDraft.readEnvelopeFormat, execution, v5,
    readEnvelope, readReplay, same, rejectIf]

theorem fromStorage_toStorage (valid : snapshot.Valid) (committed : snapshot.recordVersion ≠ 0) :
    fromStorage snapshot.toStorage = (do
      snapshot.stored.validate
      pure snapshot.stored) := by
  have complete : ¬(snapshot.finalDraft.snapshot.taskId = "" ∨
      snapshot.finalDraft.snapshot.status.asStr = "") := by
    simp [finalDraft_header, valid.identified.nonempty, valid.statusNamed]
  have read : snapshot.finalDraft.readFormat = .ok snapshot.stored := by
    cases present : snapshot.envelope with
    | none => exact readFormat_of_none valid committed present
    | some envelope => exact readFormat_of_some valid committed present
  rw [fromStorage, lines_toStorage valid, readLines_storageFields, ok_bind,
    TaskStateDraft.finish, read]
  simp [rejectIf, complete, bind, Except.bind]

theorem toStorage_stored (snapshot : TaskStateSnapshot) :
    snapshot.stored.toStorage = snapshot.toStorage := by
  have lifecycle : snapshot.stored.lifecycleFields = snapshot.lifecycleFields := by
    simp only [lifecycleFields, stored, encodeOptionalField_filter]
  have single : snapshot.stored.singleFields = snapshot.singleFields := by
    simp only [singleFields, lifecycle]
    cases present : snapshot.envelope with
    | none =>
        have absent : snapshot.stored.envelope = none := present
        simp only [absent, present, headerFields]
        rfl
    | some envelope =>
        simp only [present, headerFields, envelopeFields, stored,
          Option.isSome_some, if_true]
  unfold toStorage storageFields
  rw [single]
  rfl

@[simp] theorem stored_stored (snapshot : TaskStateSnapshot) :
    snapshot.stored.stored = snapshot.stored := by
  by_cases enveloped : snapshot.envelope.isSome <;>
    simp only [stored, Option.filter_filter, Bool.and_self, enveloped, if_true, if_false,
      Bool.false_eq_true]

end TaskStateSnapshot

end Eva.Storage
