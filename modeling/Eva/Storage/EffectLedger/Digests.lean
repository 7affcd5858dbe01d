import Eva.Foundation.Utf8
import Eva.Storage.EffectLedger.Collision

/-! # What digests are taken of

A digest of the ledger covers a domain and some fields, each behind its length. No two
tuples have the same bytes, so that two operations with one digest are the same
operation or collide under SHA-256.
-/

namespace Eva.Storage

def digestInput (domain : String) (fields : List String) : List UInt8 :=
  lengthPrefixed domain ++ fields.flatMap lengthPrefixed

/-- The length of a text in memory is a machine word. -/
def InMemory (text : String) : Prop := text.utf8ByteSize < 2 ^ 64

/-! ## Lengths -/

private def lengthBytes (length : UInt64) : List UInt8 :=
  (List.range 8).map fun index => (length >>> UInt64.ofNat (8 * (7 - index))).toUInt8

private theorem lengthBytes_injective (same : lengthBytes left = lengthBytes right) :
    left = right := by
  have bytes : ∀ index < 8, left.toNat / 256 ^ index % 256 = right.toNat / 256 ^ index % 256 := by
    intro index within
    have byte := List.map_inj_left.mp same (7 - index) (List.mem_range.mpr (by omega))
    have shift : 8 * (7 - (7 - index)) = 8 * index := by omega
    have base : (256 : Nat) ^ index = 2 ^ (8 * index) := by rw [Nat.pow_mul]
    simpa [shift, base, Nat.shiftRight_eq_div_pow, Nat.mod_eq_of_lt (show 8 * index < 64 by omega)]
      using congrArg UInt8.toNat byte
  have digits : ∀ count ≤ 8, left.toNat % 256 ^ count = right.toNat % 256 ^ count := by
    intro count within
    induction count with
    | zero => simp [Nat.mod_one]
    | succ count induction =>
        rw [Nat.mod_pow_succ, Nat.mod_pow_succ, induction (by omega), bytes count within]
  have leftFits : left.toNat < 256 ^ 8 := left.toNat_lt
  have rightFits : right.toNat < 256 ^ 8 := right.toNat_lt
  have whole := digits 8 le_rfl
  rw [Nat.mod_eq_of_lt leftFits, Nat.mod_eq_of_lt rightFits] at whole
  exact UInt64.toNat_inj.mp whole

/-! ## Fields -/

private theorem lengthPrefixed_append_inj (leftFits : InMemory left) (rightFits : InMemory right)
    (same : lengthPrefixed left ++ leftRest = lengthPrefixed right ++ rightRest) :
    left = right ∧ leftRest = rightRest := by
  have split (text : String) (rest : List UInt8) : lengthPrefixed text ++ rest =
      lengthBytes (UInt64.ofNat text.utf8ByteSize) ++ (text.toUTF8.data.toList ++ rest) := by
    simp only [lengthPrefixed, lengthBytes, List.append_assoc]
  rw [split, split] at same
  obtain ⟨lengths, rests⟩ := List.append_inj same (by simp [lengthBytes])
  have sizes : left.utf8ByteSize = right.utf8ByteSize := by
    have words := congrArg UInt64.toNat (lengthBytes_injective lengths)
    rwa [UInt64.toNat_ofNat_of_lt' leftFits, UInt64.toNat_ofNat_of_lt' rightFits] at words
  obtain ⟨texts, rests⟩ := List.append_inj rests sizes
  have read := congrArg (fun bytes => String.fromUTF8? ⟨bytes.toArray⟩) texts
  simp only [Text.fromUTF8?_toUTF8, Option.some.injEq] at read
  exact ⟨read, rests⟩

private theorem flatMap_lengthPrefixed_inj {left right : List String}
    (leftFits : ∀ text ∈ left, InMemory text)
    (rightFits : ∀ text ∈ right, InMemory text)
    (same : left.flatMap lengthPrefixed = right.flatMap lengthPrefixed) : left = right := by
  have nonempty (text : String) (rest : List UInt8) : lengthPrefixed text ++ rest ≠ [] := by
    intro empty
    have length := congrArg List.length empty
    simp [lengthPrefixed] at length
  induction left generalizing right with
  | nil =>
      cases right with
      | nil => rfl
      | cons text right => exact absurd same.symm (nonempty text _)
  | cons text left induction =>
      cases right with
      | nil => exact absurd same (nonempty text _)
      | cons other right =>
          rw [List.forall_mem_cons] at leftFits rightFits
          obtain ⟨rfl, rests⟩ := lengthPrefixed_append_inj leftFits.1 rightFits.1 same
          rw [induction leftFits.2 rightFits.2 rests]

/-! ## Operations -/

namespace EffectOperationIdentity

def fields (operation : EffectOperationIdentity) : List String :=
  [operation.idempotencyKey, operation.taskKind, operation.agentId, operation.effectScope,
    operation.inputDigest]

def input (operation : EffectOperationIdentity) : List UInt8 :=
  digestInput "eva.effect-operation.v1" operation.fields

theorem fields_inMemory (operation : EffectOperationIdentity) :
    ∀ text ∈ "eva.effect-operation.v1" :: operation.fields, InMemory text := by
  have identifier {value : String} (parsed : IsIdentifier value) : InMemory value :=
    Nat.lt_of_le_of_lt parsed.bounded (by decide)
  have kind : InMemory operation.taskKind := by
    have kinded := operation.kinded
    simp only [validateTaskKind, seq_eq_ok_iff, rejectIf_eq_ok_iff, not_or, Nat.not_lt] at kinded
    exact Nat.lt_of_le_of_lt kinded.1.2.2 (by decide)
  have digest : InMemory operation.inputDigest := by
    obtain ⟨hex, written, digits⟩ := validateSha256Digest_eq_ok operation.digested
    simp only [isSha256Hex, Bool.and_eq_true, beq_iff_eq] at digits
    rw [InMemory, written, String.utf8ByteSize_append, digits.1]
    decide
  simp only [fields, List.forall_mem_cons]
  have domain : InMemory "eva.effect-operation.v1" := by
    rw [InMemory]
    decide
  exact ⟨domain, identifier (validateId_eq_ok_iff.mp operation.keyed), kind,
    identifier (validateId_eq_ok_iff.mp operation.owned),
    identifier (validateId_eq_ok_iff.mp operation.slotted), digest, by simp⟩

end EffectOperationIdentity

/-- A valid record reads back, the bytes under a digest tell its domain and its fields, and
operations with one digest are equal unless they collide. -/
theorem effect_records_read_back_and_digests_separate :
    (∀ record : EffectLedgerRecord, record.validate = .ok () →
      effectRecordFromStorage (effectRecordToStorage record) = .ok record) ∧
    (∀ domain fields, canonicalDigest domain fields =
      sha256Digest (digestInput domain fields)) ∧
    (∀ domain fields other others, (∀ text ∈ domain :: fields, InMemory text) →
      (∀ text ∈ other :: others, InMemory text) → (domain, fields) ≠ (other, others) →
        digestInput domain fields ≠ digestInput other others) ∧
    ∀ left right : EffectOperationIdentity, left.operationDigest = right.operationDigest →
      left = right ∨ left.input ≠ right.input ∧ sha256Hex left.input = sha256Hex right.input := by
  refine ⟨fun record valid => ?_, fun domain fields => rfl, ?_, ?_⟩
  · exact effectRecordFromStorage_toStorage (EffectLedgerRecord.validate_eq_ok_iff.mp valid)
  · intro domain fields other others leftFits rightFits different same
    obtain ⟨rfl, rfl⟩ := List.cons.inj (flatMap_lengthPrefixed_inj leftFits rightFits same)
    exact different rfl
  · intro left right same
    have hashes : sha256Hex left.input = sha256Hex right.input := by
      have texts := congrArg String.toList same
      simp only [EffectOperationIdentity.operationDigest, canonicalDigest, String.toList_append,
        String.toList_ofList, List.append_cancel_left_eq] at texts
      exact texts
    by_cases inputs : left.input = right.input
    · left
      have fields := flatMap_lengthPrefixed_inj left.fields_inMemory right.fields_inMemory inputs
      cases right
      obtain ⟨rfl, rfl, rfl, rfl, rfl⟩ := fields
      rfl
    · exact .inr ⟨inputs, hashes⟩

/-- A prepared record, one text cut into two fields in two ways, and two operations. -/
theorem effect_records_read_back_and_digests_separate_sample :
    (∃ record : EffectLedgerRecord, record.preparedTaskId = "task-left" ∧
      effectRecordFromStorage (effectRecordToStorage record) = .ok record) ∧
    digestInput "scope" ["ab", "c"] ≠ digestInput "scope" ["a", "bc"] ∧
    ∃ left right : EffectOperationIdentity,
      left.idempotencyKey = "task-left" ∧ right.idempotencyKey = "task-right" ∧
      (left.operationDigest ≠ right.operationDigest ∨
        left.input ≠ right.input ∧ sha256Hex left.input = sha256Hex right.input) := by
  obtain ⟨readBack, -, distinct, separate⟩ := effect_records_read_back_and_digests_separate
  let prepared := Sample.intent Sample.isIdentifier_left Sample.isIdentifier_left
  refine ⟨⟨.prepared prepared, rfl, readBack _ ?_⟩, ?_, Sample.operation Sample.isIdentifier_left,
    Sample.operation Sample.isIdentifier_right, rfl, rfl, ?_⟩
  · exact EffectLedgerRecord.validate_eq_ok_iff.mpr (EffectLedgerRecord.prepared_valid prepared)
  · exact distinct _ _ _ _ (by unfold InMemory; decide) (by unfold InMemory; decide) (by decide)
  · refine Classical.or_iff_not_imp_left.mpr fun same => ?_
    refine (separate _ _ (not_not.mp same)).resolve_left fun equal => ?_
    exact absurd (congrArg EffectOperationIdentity.idempotencyKey equal) (by decide)

end Eva.Storage
