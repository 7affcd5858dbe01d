import Eva.Storage.EffectLedger.Directory
import Eva.Storage.TaskState.CommittedEffect

/-! # Keys that share a file

Files are named by a digest of the key, and there are more keys than digests. The
record of one key then takes the place of the record of another one.
-/

namespace Eva.Storage

/-! ## Two keys -/

private def longKey (bytes : Fin 33 → Fin 256) : String :=
  String.ofList (Text.encodeHex (List.ofFn fun index => UInt8.ofFin (bytes index)))

private theorem longKey_injective (same : longKey left = longKey right) : left = right := by
  have encoded := congrArg (Text.decodeHex ∘ String.toList) same
  simp only [longKey, Function.comp_apply, String.toList_ofList, Text.decodeHex_encodeHex,
    Option.some.injEq, List.ofFn_inj] at encoded
  funext index
  have byte := congrArg UInt8.toFin (congrFun encoded index)
  exact byte

private theorem longKey_identifier (bytes : Fin 33 → Fin 256) : IsIdentifier (longKey bytes) := by
  have lower := Text.encodeHex_isLowerHex (List.ofFn fun index => UInt8.ofFin (bytes index))
  have length : (Text.encodeHex (List.ofFn fun index => UInt8.ofFin (bytes index))).length = 66 := by
    rw [Text.encodeHex_length, List.length_ofFn]
  have size : (longKey bytes).utf8ByteSize = 66 := by
    rw [longKey, Text.utf8ByteSize_of_isLowerHex lower, length]
  refine ⟨?_, by rw [size]; decide, ?_⟩
  · intro empty
    rw [empty] at size
    cases size
  · intro char member
    rw [longKey, String.toList_ofList] at member
    simp [isStableIdChar, Text.isAsciiAlphanumeric_of_isLowerHex (lower char member)]

theorem exists_shared_effectFileName :
    ∃ left right, IsIdentifier left ∧ IsIdentifier right ∧ left ≠ right ∧
      effectFileName left = effectFileName right := by
  have many : 16 ^ 64 < Fintype.card (Fin 33 → Fin 256) := by
    rw [Fintype.card_fun, Fintype.card_fin, Fintype.card_fin]
    decide
  obtain ⟨left, right, different, same⟩ := exists_sha256Hex_eq (fun bytes =>
    lengthPrefixed "eva.effect-record-key.v1" ++ [longKey bytes].flatMap lengthPrefixed) many
  refine ⟨longKey left, longKey right, longKey_identifier left, longKey_identifier right,
    fun equal => different (longKey_injective equal), ?_⟩
  rw [effectFileName, effectFileName, effectRecordStem, effectRecordStem, canonicalHex,
    canonicalHex, same]

/-! ## Calls that create a record -/

section Creates

variable {ledger : FileSystemEffectLedger directory}
  {taskStore : FileSystemTaskStateStore directory}

theorem prepareForClaim_creates (shared : ledger.claimWriter taskStore = .ok writer)
    (idle : state.tasks.pendingLatest = none)
    (entered : ledger.enterClaim state none clock writer intent = .ok (observedAtMs, records))
    (absent : records.lookup intent.operation.idempotencyKey = none) :
    let record := EffectLedgerRecord.prepared { intent with preparedAtMs := observedAtMs }
    ledger.prepareForClaim state none clock taskStore intent =
      some ({ state with effects := record.writtenTo state.effects }, .ok (.created record)) := by
  have valid := EffectLedgerRecord.validate_eq_ok_iff.mpr
    (EffectLedgerRecord.prepared_valid { intent with preparedAtMs := observedAtMs })
  unfold FileSystemEffectLedger.prepareForClaim
  simp only [shared, idle, Option.isSome_none, Bool.false_eq_true, if_false, entered,
    prepareEffectRecord, absent, valid, persistEffectRecord, failsAt_none]
  rfl

theorem loadEffectRecords_single (valid : record.Valid)
    (only : ∀ file ∈ effects, file.1 = effectFileName record.key) :
    loadEffectRecords root (record.writtenTo effects) none = .ok [(record.key, record)] := by
  have names : effectNames (record.writtenTo effects) = [effectFileName record.key] := by
    have all : (record.writtenTo effects).map Prod.fst =
        List.replicate (effects.length + 1) (effectFileName record.key) := by
      rw [List.eq_replicate_iff]
      refine ⟨by simp [EffectLedgerRecord.writtenTo], fun name member => ?_⟩
      obtain ⟨file, held, rfl⟩ := List.mem_map.mp member
      rcases List.mem_cons.mp held with rfl | held
      · rfl
      · exact only file held
    rw [effectNames, all, List.replicate_dedup (Nat.succ_ne_zero _), List.filter_singleton,
      fileStem_effectFileName]
    rfl
  have loaded : loadEffectRecord root (record.writtenTo effects) none
      (effectFileName record.key) = .ok record := by
    simp only [loadEffectRecord, failsAt_none, bind_eq_ok_iff, exists_unit_iff,
      orReject_eq_ok_iff, rejectIf_eq_ok_iff, not_not, pure_eq_ok_iff, true_and]
    refine ⟨effectRecordToStorage record, List.lookup_cons_self, record, ?_,
      fileStem_effectFileName, rfl⟩
    rw [effectRecordFromStorage_toStorage valid]
    rfl
  simp only [loadEffectRecords, names, failsAt_none, ok_bind, List.foldlM_cons, List.foldlM_nil,
    insertEffectRecord, loaded]
  rfl

end Creates

/-! ## Two claims -/

namespace Sample

def attempt (taskId key : String) : TaskStateSnapshot :=
  { task with
    recordVersion := 2
    ownerGeneration := 1
    taskId := taskId
    envelope := some { envelope with idempotencyKey := key }
    status := .running
    attempts := 1
    executionOwner := some "worker-demo"
    cancelToken := some "token-demo" }

variable {taskId key left right : String}

theorem attempt_valid (identified : IsIdentifier taskId) (keyed : IsIdentifier key) :
    (attempt taskId key).Valid := by
  have enveloped : ({ envelope with idempotencyKey := key } : TaskEnvelopeSnapshot).validate =
      .ok () := by
    have known : envelope.validate = .ok () := by decide +kernel
    have parsed : RequestId.parse key = .ok () := validateId_eq_ok_iff.mpr keyed
    simp only [TaskEnvelopeSnapshot.validate, seq_eq_ok_iff] at known ⊢
    refine ⟨known.1, known.2.1, ?_, known.2.2.2⟩
    rw [parsed]
    rfl
  have sample : (attempt "task-demo" "key-demo").Valid := by decide +kernel
  exact {
    sample with
    identified
    ownerBacked := fun _ => ⟨by simp [attempt], Unsigned.one_ne_zero, by simp [attempt]⟩
    replayBacked := by rintro _ ⟨⟩
    resultConsistent := .inl ⟨rfl, rfl⟩
    envelopeValid := by
      rintro _ ⟨⟩
      exact ⟨enveloped, rfl⟩ }

def operation (keyed : IsIdentifier key) : EffectOperationIdentity where
  idempotencyKey := key
  taskKind := envelope.kind
  agentId := envelope.agentId
  effectScope := "scope-demo"
  inputDigest := envelope.input.digest
  keyed := validateId_eq_ok_iff.mpr keyed
  kinded := by decide
  owned := by decide +kernel
  slotted := by decide +kernel
  digested := by decide +kernel

def intent (identified : IsIdentifier taskId) (keyed : IsIdentifier key) :
    EffectLedgerIntent where
  operation := operation keyed
  taskId := taskId
  ownerGeneration := 1
  attempt := 1
  fenceDigest := effectFenceDigest taskId 1 "worker-demo" 1 "token-demo"
  preparedAtMs := 0
  identified := validateId_eq_ok_iff.mpr identified
  generated := Unsigned.one_ne_zero
  attempted := by decide
  digested := validateSha256Digest_canonicalDigest ..

def ledger : FileSystemEffectLedger durable where
  root := "/project/.eva/effects"
  writer := some (guard 1)

def claims (left right : String) : TaskFiles .text where
  files := [("task-left.task", RecordFormat.text.write (attempt "task-left" left)),
    ("task-right.task", RecordFormat.text.write (attempt "task-right" right))]
  pendingLatest := none
  writer := ⟨1, some ⟨"", 1, 7⟩⟩

theorem isIdentifier_left : IsIdentifier "task-left" := by decide

theorem isIdentifier_right : IsIdentifier "task-right" := by decide

private theorem read_attempt (identified : IsIdentifier taskId) (keyed : IsIdentifier key)
    (file : tasks.files.lookup (taskFileName taskId) =
      some (RecordFormat.text.write (attempt taskId key))) :
    durable.read tasks none (some taskId) = .ok (attempt taskId key) := by
  have valid := attempt_valid identified keyed
  have parsed : RecordFormat.text.read (RecordFormat.text.write (attempt taskId key)) =
      .ok (attempt taskId key) := by
    rw [RecordFormat.text_faithful.read_write _ valid (show (2 : StateVersion) ≠ 0 by decide)]
    have same : (attempt taskId key).stored = attempt taskId key := rfl
    rw [same, TaskStateSnapshot.validated, TaskStateSnapshot.validate_eq_ok_iff.mpr valid]
    rfl
  exact TaskDirectory.read_of_file file parsed identified

theorem enterClaim_claims (loaded : loadEffectRecords ledger.root effects none = .ok records)
    (identified : IsIdentifier taskId) (keyed : IsIdentifier key)
    (file : (claims left right).files.lookup (taskFileName taskId) =
      some (RecordFormat.text.write (attempt taskId key))) :
    ledger.enterClaim ⟨claims left right, effects⟩ none (.ok 0) (guard 1)
      (intent identified keyed) = .ok (0, records) := by
  have current : (guard 1).enterWriteLock none durable.writerLayout (claims left right).writer =
      .ok 1 := by
    show (guard 1).enterWriteLock none durable.writerLayout ⟨1, some ⟨"", 1, 7⟩⟩ = .ok 1
    decide
  have verified : verifyEffectTaskClaim none durable (claims left right)
      (intent identified keyed) 1 0 = .ok () := by
    have read : durable.read (claims left right) none (some (intent identified keyed).taskId) =
        .ok (attempt taskId key) := read_attempt identified keyed file
    simp only [verifyEffectTaskClaim, read, ok_bind, bind_eq_ok_iff, exists_unit_iff,
      rejectIf_eq_ok_iff, orReject_eq_ok_iff, not_not]
    refine ⟨rfl, by simp [attempt, task], by simp [attempt, task, TaskStateSnapshot.deadlineExpired],
      _, rfl, ?_, _, rfl, _, rfl, ?_⟩
    · simp [TaskEnvelopeSnapshot.hasOperation, intent, operation]
    · simp [intent, attempt]
  simp only [FileSystemEffectLedger.enterClaim, current, ok_bind, effectNowMs, Except.mapError,
    verified, loaded]
  rfl

theorem prepareForClaim_claims (loaded : loadEffectRecords ledger.root effects none = .ok records)
    (absent : records.lookup key = none)
    (identified : IsIdentifier taskId) (keyed : IsIdentifier key)
    (file : (claims left right).files.lookup (taskFileName taskId) =
      some (RecordFormat.text.write (attempt taskId key))) :
    let record := EffectLedgerRecord.prepared (intent identified keyed)
    ledger.prepareForClaim ⟨claims left right, effects⟩ none (.ok 0) (owned 1)
        (intent identified keyed) =
      some (⟨claims left right, record.writtenTo effects⟩, .ok (.created record)) := by
  have shared : ledger.claimWriter (owned 1) = .ok (guard 1) := by decide
  exact prepareForClaim_creates shared rfl (enterClaim_claims loaded identified keyed file) absent

end Sample

end Eva.Storage
