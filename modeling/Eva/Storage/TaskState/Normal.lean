import Eva.Storage.TaskState.Readability

/-! # Records that were read

Whatever the text of a file is, a record that reads has no empty texts and no
retry fields without an envelope. Writing such a record loses nothing.
-/

namespace Eva.Storage

namespace TaskStateDraft

/-- What holds of the draft after every line. -/
structure Normal (draft : TaskStateDraft) : Prop where
  cancelReason : draft.snapshot.cancelReason ≠ some ""
  interruptedReason : draft.snapshot.interruptedReason ≠ some ""
  errorKind : draft.snapshot.errorKind ≠ some ""
  errorMessage : draft.snapshot.errorMessage ≠ some ""
  errorRetryable : draft.snapshot.errorRetryable ≠ none → .errorRetryable ∈ draft.seenScalars
  retryReadyAtMs : draft.snapshot.retryReadyAtMs ≠ none → .retryReadyAtMs ∈ draft.seenScalars
  envelope : draft.snapshot.envelope = none

theorem normal_empty : empty.Normal where
  cancelReason := nofun
  interruptedReason := nofun
  errorKind := nofun
  errorMessage := nofun
  errorRetryable absent := absurd rfl absent
  retryReadyAtMs absent := absurd rfl absent
  envelope := rfl

variable {draft : TaskStateDraft}

theorem Normal.setField (normal : draft.Normal) (seen : field.isSingle → field ∈ draft.seenScalars)
    (set : draft.setField field value = .ok next) : next.Normal := by
  have text := decodeOptionalField_ne_empty value
  cases field with
  | log | deadLetter | replay =>
      simp only [TaskStateDraft.setField, setLog, setDeadLetter, setReplay, bind_eq_ok_iff] at set
      obtain ⟨parts, -, set⟩ := set
      split at set
      next =>
          simp only [bind_eq_ok_iff, pure_eq_ok_iff] at set
          obtain ⟨-, -, rfl⟩ := set
          exact { normal with }
      next =>
          cases set
          exact normal
  | cancelReason =>
      cases set
      exact { normal with cancelReason := text }
  | interruptedReason =>
      cases set
      exact { normal with interruptedReason := text }
  | errorKind =>
      cases set
      exact { normal with errorKind := text }
  | errorMessage =>
      cases set
      exact { normal with errorMessage := text }
  | errorRetryable =>
      simp only [TaskStateDraft.setField, bind_eq_ok_iff, pure_eq_ok_iff] at set
      obtain ⟨-, -, rfl⟩ := set
      exact { normal with errorRetryable := fun _ => seen rfl }
  | retryReadyAtMs =>
      simp only [TaskStateDraft.setField, bind_eq_ok_iff, pure_eq_ok_iff] at set
      obtain ⟨-, -, rfl⟩ := set
      exact { normal with retryReadyAtMs := fun _ => seen rfl }
  | _ =>
      simp only [TaskStateDraft.setField, bind_eq_ok_iff, pure_eq_ok_iff] at set
      obtain ⟨-, -, rfl⟩ := set
      exact { normal with }

theorem see_eq_ok (saw : draft.see line = .ok next) :
    ∃ seen, next = { draft with seenScalars := seen } ∧
      (∀ field ∈ draft.seenScalars, field ∈ seen) ∧
      ∀ field value, TaskField.ofLine line = some (field, value) → field.isSingle →
        field ∈ seen := by
  have named {field : TaskField} {value : List Char}
      (found : TaskField.ofLine line = some (field, value)) : line = field.line value := by
    obtain ⟨other, -, stripped⟩ := List.exists_of_findSome?_eq_some found
    obtain ⟨rest, prefixed, same⟩ := Option.map_eq_some_iff.mp stripped
    cases same
    rw [Text.stripPrefix_eq_some_iff] at prefixed
    rw [prefixed, TaskField.line, List.append_assoc]
    rfl
  unfold see at saw
  split at saw
  next unknown =>
      cases saw
      refine ⟨draft.seenScalars, rfl, fun _ member => member, fun field value found single => ?_⟩
      rw [named found, TaskField.splitOnce_line] at unknown
      simp [TaskField.ofSingleName_name, single] at unknown
  next known same =>
      simp only [seq_eq_ok_iff, pure_eq_ok_iff] at saw
      obtain ⟨-, rfl⟩ := saw
      refine ⟨known :: draft.seenScalars, rfl, fun _ member => List.mem_cons_of_mem _ member,
        fun field value found single => ?_⟩
      rw [named found, TaskField.splitOnce_line] at same
      simp only [Option.bind_some, TaskField.ofSingleName_name, single, if_true,
        Option.some.injEq] at same
      simp [same]

theorem Normal.readLine (normal : draft.Normal)
    (read : draft.readLine line = .ok next) : next.Normal := by
  simp only [TaskStateDraft.readLine, bind_eq_ok_iff] at read
  obtain ⟨seen, saw, read⟩ := read
  obtain ⟨fields, rfl, kept, own⟩ := see_eq_ok saw
  have widened : { draft with seenScalars := fields }.Normal :=
    { normal with
      errorRetryable := fun present => kept _ (normal.errorRetryable present)
      retryReadyAtMs := fun present => kept _ (normal.retryReadyAtMs present) }
  split at read
  next field value found => exact widened.setField (own field value found) read
  next =>
      cases read
      exact widened

theorem Normal.readLines (normal : draft.Normal)
    (read : draft.readLines lines = .ok next) : next.Normal := by
  induction lines generalizing draft with
  | nil =>
      cases read
      exact normal
  | cons line lines induction =>
      rw [TaskStateDraft.readLines, List.foldlM_cons, bind_eq_ok_iff] at read
      obtain ⟨middle, first, rest⟩ := read
      exact induction (normal.readLine first) rest

theorem Normal.readFormat {snapshot : TaskStateSnapshot} (normal : draft.Normal)
    (read : draft.readFormat = .ok snapshot) :
    ∃ envelope replayDelivery, snapshot = { draft.snapshot with envelope, replayDelivery } ∧
      (envelope = none → draft.snapshot.errorRetryable = none ∧
        draft.snapshot.retryReadyAtMs = none) := by
  have bare (absent : draft.hasV5Fields = false) : draft.snapshot.errorRetryable = none ∧
      draft.snapshot.retryReadyAtMs = none := by
    simp only [hasV5Fields, v5Fields, List.any_cons, List.any_nil, Bool.or_eq_false_iff,
      decide_eq_false_iff_not] at absent
    exact ⟨by_contra fun present => absent.2.2.1 (normal.errorRetryable present),
      by_contra fun present => absent.2.2.2.1 (normal.retryReadyAtMs present)⟩
  have enveloped {version : Nat} (read : draft.readEnvelopeFormat version = .ok snapshot) :
      ∃ envelope replayDelivery,
        snapshot = { draft.snapshot with envelope := some envelope, replayDelivery } := by
    simp only [readEnvelopeFormat, seq_eq_ok_iff] at read
    obtain ⟨-, -, read⟩ := read
    by_cases five : version = 5 <;> by_cases four : 4 ≤ version <;>
      simp only [five, four, if_true, if_false, Nat.reduceLeDiff, bind_eq_ok_iff, exists_unit_iff,
        pure_eq_ok_iff] at read
    · obtain ⟨-, -, envelope, -, replayDelivery, -, rfl⟩ := read
      exact ⟨envelope, replayDelivery, rfl⟩
    · omega
    · obtain ⟨-, envelope, -, replayDelivery, -, rfl⟩ := read
      exact ⟨envelope, replayDelivery, rfl⟩
    · obtain ⟨envelope, -, replayDelivery, -, rfl⟩ := read
      exact ⟨envelope, replayDelivery, rfl⟩
  unfold TaskStateDraft.readFormat at read
  split at read
  next =>
      simp only [seq_eq_ok_iff, pure_eq_ok_iff, rejectIf_eq_ok_iff, not_not] at read
      obtain ⟨⟨-, -, -, -, absent⟩, rfl⟩ := read
      exact ⟨_, _, rfl, fun _ => bare (by simpa using absent)⟩
  next =>
      split at read
      · simp only [seq_eq_ok_iff, pure_eq_ok_iff, rejectIf_eq_ok_iff, not_or] at read
        obtain ⟨-, ⟨-, -, absent⟩, rfl⟩ := read
        exact ⟨_, _, rfl, fun _ => bare (by simpa using absent)⟩
      · repeat' split at read
        all_goals
          first
          | cases read
          | (rw [seq_eq_ok_iff] at read
             obtain ⟨envelope, replayDelivery, same⟩ := enveloped read.2
             exact ⟨some envelope, replayDelivery, same, by simp⟩)

end TaskStateDraft

theorem TaskStateSnapshot.stored_of_fromStorage
    (read : fromStorage data = .ok snapshot) : snapshot.Valid ∧ snapshot.stored = snapshot := by
  simp only [fromStorage, TaskStateDraft.finish, bind_eq_ok_iff, exists_unit_iff,
    pure_eq_ok_iff] at read
  obtain ⟨draft, lines, -, _, formatted, valid, rfl⟩ := read
  have normal := TaskStateDraft.normal_empty.readLines lines
  obtain ⟨envelope, replayDelivery, rfl, bare⟩ := normal.readFormat formatted
  exact ⟨validate_eq_ok_iff.mp valid, stored_eq_self_iff.mpr ⟨normal.cancelReason,
    normal.interruptedReason, normal.errorKind, normal.errorMessage, bare⟩⟩

end Eva.Storage
