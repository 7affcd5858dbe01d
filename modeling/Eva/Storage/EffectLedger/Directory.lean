import Eva.Storage.EffectLedger.Ledger

/-! # What the effect directory holds

A file counts for the key that its record names. Loading the directory finds the
record of every key, or fails.
-/

namespace Eva.Storage

def recordAt (effects : EffectFiles) (key : String) : Option EffectLedgerRecord :=
  (effects.lookup (effectFileName key)).bind fun data =>
    match effectRecordFromStorage data with
    | .ok record => if record.key = key then some record else none
    | .error _ => none

def EffectLedgerRecord.writtenTo (record : EffectLedgerRecord) (effects : EffectFiles) :
    EffectFiles :=
  (effectFileName record.key, effectRecordToStorage record) :: effects

section Files

variable {record : EffectLedgerRecord}

theorem recordAt_writtenTo (valid : record.Valid) :
    recordAt (record.writtenTo effects) record.key = some record := by
  simp [recordAt, EffectLedgerRecord.writtenTo, effectRecordFromStorage_toStorage valid]

theorem recordAt_writtenTo_other (other : effectFileName record.key ≠ effectFileName key) :
    recordAt (record.writtenTo effects) key = recordAt effects key := by
  rw [recordAt, EffectLedgerRecord.writtenTo, List.lookup_cons, beq_false_of_ne other.symm]
  rfl

theorem fileStem_eq_some (found : TaskDirectory.fileStem name extension = some stem) :
    name = stem ++ '.' :: extension := by
  simp only [TaskDirectory.fileStem, Option.bind_eq_bind, Option.bind_eq_some_iff] at found
  obtain ⟨reversed, stripped, -, -, same⟩ := found
  rw [Text.stripPrefix_eq_some_iff] at stripped
  rw [← Option.some.inj same, ← List.reverse_reverse name, stripped]
  simp

theorem effectFileName_of_stem (stem : TaskDirectory.fileStem name.toList "effect".toList =
      some (effectRecordStem key).toList) : name = effectFileName key := by
  apply String.ext
  rw [fileStem_eq_some stem, effectFileName, String.toList_append]
  rfl

theorem fileStem_effectFileName :
    TaskDirectory.fileStem (effectFileName key).toList "effect".toList =
      some (effectRecordStem key).toList := by
  have nonempty : (effectRecordStem key).toList ≠ [] := by
    rw [effectRecordStem, String.toList_ofList]
    intro empty
    have length := sha256Hex_length
      (lengthPrefixed "eva.effect-record-key.v1" ++ [key].flatMap lengthPrefixed)
    rw [canonicalHex] at empty
    rw [empty] at length
    cases length
  have stripped : Text.stripPrefix ('.' :: "effect".toList).reverse
      (effectFileName key).toList.reverse = some (effectRecordStem key).toList.reverse := by
    rw [effectFileName, String.toList_append, List.reverse_append]
    exact Text.stripPrefix_append _ _
  rw [TaskDirectory.fileStem, stripped]
  simp [guard, nonempty]

theorem loadEffectRecord_eq_ok (loaded : loadEffectRecord root effects fault name = .ok record) :
    name = effectFileName record.key ∧ recordAt effects record.key = some record := by
  simp only [loadEffectRecord, bind_eq_ok_iff, exists_unit_iff, orReject_eq_ok_iff,
    rejectIf_eq_ok_iff, not_not, pure_eq_ok_iff] at loaded
  obtain ⟨-, -, data, file, parsed, read, stem, rfl⟩ := loaded
  have named := effectFileName_of_stem stem
  have parsed : effectRecordFromStorage data = .ok parsed := by
    cases result : effectRecordFromStorage data with
    | error error =>
        rw [result] at read
        cases read
    | ok value =>
        rw [result] at read
        exact read
  rw [recordAt, ← named, file]
  simp [parsed]

private theorem recordAt_shared (present : recordAt effects record.key = some record)
    (shared : effectFileName key = effectFileName record.key) (other : key ≠ record.key) :
    recordAt effects key = none := by
  unfold recordAt at present ⊢
  rw [shared]
  cases file : effects.lookup (effectFileName record.key) with
  | none => rfl
  | some data =>
      rw [file] at present
      dsimp only [Option.bind_some] at present ⊢
      split at present
      next found parsed =>
          split at present
          next => simp [Option.some.inj present, Ne.symm other]
          next => cases present
      next => cases present

private theorem foldlM_insertEffectRecord {names : List String}
    (loaded : names.foldlM (insertEffectRecord root effects fault) seen = .ok records)
    (key : String) :
    records.lookup key =
      if effectFileName key ∈ names ∧ recordAt effects key ≠ none then recordAt effects key
      else seen.lookup key := by
  induction names generalizing seen with
  | nil =>
      cases loaded
      simp
  | cons name names induction =>
      rw [List.foldlM_cons, bind_eq_ok_iff] at loaded
      obtain ⟨extended, inserted, rest⟩ := loaded
      simp only [insertEffectRecord, bind_eq_ok_iff, exists_unit_iff, pure_eq_ok_iff,
        rejectIf_eq_ok_iff] at inserted
      obtain ⟨record, read, fresh, rfl⟩ := inserted
      obtain ⟨rfl, present⟩ := loadEffectRecord_eq_ok read
      rw [induction rest, List.lookup_cons]
      by_cases same : key = record.key
      · subst same
        simp [present]
      · rw [beq_false_of_ne same]
        by_cases shared : effectFileName key = effectFileName record.key
        · simp [recordAt_shared present shared same]
        · simp [shared]

section

variable (loaded : loadEffectRecords root effects fault = .ok records)
include loaded

theorem lookup_loadEffectRecords
    (key : String) : records.lookup key = recordAt effects key := by
  simp only [loadEffectRecords, seq_eq_ok_iff] at loaded
  rw [foldlM_insertEffectRecord loaded.2.2 key]
  cases present : recordAt effects key with
  | none => simp
  | some record =>
      have listed : effectFileName key ∈ effectNames effects := by
        obtain ⟨data, file, -⟩ := Option.bind_eq_some_iff.mp present
        have held : effectFileName key ∈ effects.map Prod.fst := by
          by_contra missing
          rw [Fields.lookup_eq_none_iff.mpr missing] at file
          cases file
        refine List.mem_filter.mpr ⟨List.mem_dedup.mpr held, ?_⟩
        rw [fileStem_effectFileName]
        rfl
      simp [listed]

theorem loadEffectRecords_of_fault :
    loadEffectRecords root effects none = .ok records := by
  have single {name : String} {record : EffectLedgerRecord}
      (loaded : loadEffectRecord root effects fault name = .ok record) :
      loadEffectRecord root effects none name = .ok record := by
    simp only [loadEffectRecord, seq_eq_ok_iff] at loaded ⊢
    exact ⟨rfl, rfl, loaded.2.2⟩
  have fold {names : List String} {seen : List (String × EffectLedgerRecord)}
      (loaded : names.foldlM (insertEffectRecord root effects fault) seen = .ok records) :
      names.foldlM (insertEffectRecord root effects none) seen = .ok records := by
    induction names generalizing seen with
    | nil => exact loaded
    | cons name names induction =>
        rw [List.foldlM_cons, bind_eq_ok_iff] at loaded ⊢
        obtain ⟨next, inserted, rest⟩ := loaded
        refine ⟨next, ?_, induction rest⟩
        simp only [insertEffectRecord, bind_eq_ok_iff] at inserted ⊢
        obtain ⟨record, read, extended⟩ := inserted
        exact ⟨record, single read, extended⟩
  simp only [loadEffectRecords, seq_eq_ok_iff] at loaded ⊢
  exact ⟨rfl, rfl, fold loaded.2.2⟩

theorem recordAt_of_inspect
    (inspected : inspectEffectRecord records operation = .ok found) :
    recordAt effects operation.idempotencyKey = found := by
  rw [← lookup_loadEffectRecords loaded]
  unfold inspectEffectRecord at inspected
  split at inspected
  next absent =>
      cases inspected
      exact absent
  next record present =>
      rw [seq_eq_ok_iff, pure_eq_ok_iff] at inspected
      rw [present, inspected.2]

end

end Files

end Eva.Storage
