import Eva.Backup.Archive

/-! # Sealed backup archives

An archive is sealed by combining its bytes with a stream derived from the key; the same
step opens it. The manifest holds the digests of both sides, so bytes that were changed
in between are found out before they are opened.
-/

namespace Eva.Backup

structure BackupEncryptionKey where
  keyId : String
  secret : String

/-- A stored artifact, with the digest that its metadata give. -/
structure ArtifactRecord where
  key : String
  bytes : List UInt8
  digest : String

structure SealedBackupArchive where
  bytes : List UInt8
  manifest : BackupArchiveManifest

def encryptionAlgorithm : String := "xor-sha256-stream-v1"

theorem utf8_digestBytes_ne_nil (bytes : List UInt8) :
    Text.utf8 (digestBytes bytes).toList ≠ [] := by
  simp [digestBytes, sha256Digest, Text.utf8]

def streamByte (key : BackupEncryptionKey) (index : Nat) : UInt8 :=
  let seed := "eva-backup-encryption-stream:v1\n" ++ Fields.render
    [("key_id", key.keyId), ("secret", key.secret), ("block", toString (index / 71))]
  let digest := Text.utf8 (digestBytes (Text.utf8 seed.toList)).toList
  digest.get ⟨index % digest.length,
    Nat.mod_lt index (List.length_pos_iff.mpr (utf8_digestBytes_ne_nil _))⟩

def xorWithKey (bytes : List UInt8) (key : BackupEncryptionKey) : List UInt8 :=
  bytes.mapIdx fun index byte => byte ^^^ streamByte key index

def sealArchive (artifactKey : String) (plaintext : List UInt8) (signingKey : BackupSigningKey)
    (encryptionKey : Option BackupEncryptionKey) (remoteTarget : Option RemoteBackupTarget) :
    SealedBackupArchive :=
  let plaintextChecksum := digestBytes plaintext
  let bytes := (encryptionKey.map (xorWithKey plaintext)).getD plaintext
  let encryption := encryptionKey.map fun key =>
    { keyId := key.keyId, algorithm := encryptionAlgorithm, plaintextChecksum }
  let checksum := digestBytes bytes
  { bytes
    manifest :=
      { format := archiveFormat
        artifactKey
        checksum
        plaintextChecksum
        encrypted := encryption.isSome
        signature := signArchive artifactKey checksum plaintextChecksum encryption remoteTarget
          signingKey
        encryption
        remoteTarget } }

def verifyRecordChecksum (record : ArtifactRecord) (expectedDigest : String) :
    Except EvaError Unit := do
  let actualFromBytes := digestBytes record.bytes
  rejectIf (actualFromBytes ≠ record.digest)
    ((EvaError.conflict "artifact bytes digest mismatch")
      |>.withContext "artifact_key" record.key |>.withContext "expected_digest" record.digest
      |>.withContext "actual_digest" actualFromBytes)
  rejectIf (record.digest ≠ expectedDigest)
    ((EvaError.conflict "artifact digest mismatch")
      |>.withContext "artifact_key" record.key |>.withContext "expected_digest" expectedDigest
      |>.withContext "actual_digest" record.digest)

def openBytes (record : ArtifactRecord) (encryptionKey : Option BackupEncryptionKey) :
    Option BackupEncryptionManifest → Except EvaError (List UInt8)
  | none => .ok record.bytes
  | some encryption => do
      let key ← orReject ((EvaError.permissionDenied
        "encrypted backup archive requires decryption key").withContext "artifact_key" record.key)
        encryptionKey
      rejectIf (encryption.keyId ≠ key.keyId)
        ((EvaError.permissionDenied "backup archive decryption key id mismatch")
          |>.withContext "expected_key_id" encryption.keyId
          |>.withContext "actual_key_id" key.keyId)
      pure (xorWithKey record.bytes key)

def openArchive (record : ArtifactRecord) (manifest : BackupArchiveManifest)
    (encryptionKey : Option BackupEncryptionKey) : Except EvaError (List UInt8) := do
  verifyRecordChecksum record manifest.checksum
  rejectIf (manifest.artifactKey ≠ record.key)
    ((EvaError.conflict "backup archive artifact key mismatch")
      |>.withContext "expected_artifact_key" manifest.artifactKey
      |>.withContext "actual_artifact_key" record.key)
  let plaintext ← openBytes record encryptionKey manifest.encryption
  let actualPlaintextChecksum := digestBytes plaintext
  rejectIf (actualPlaintextChecksum ≠ manifest.plaintextChecksum)
    ((EvaError.conflict "backup archive plaintext checksum mismatch")
      |>.withContext "artifact_key" record.key
      |>.withContext "expected_digest" manifest.plaintextChecksum
      |>.withContext "actual_digest" actualPlaintextChecksum)
  pure plaintext

theorem xorWithKey_xorWithKey (bytes : List UInt8) (key : BackupEncryptionKey) :
    xorWithKey (xorWithKey bytes key) key = bytes := by
  apply List.ext_getElem
  · simp [xorWithKey]
  · intro index _ _
    simp only [xorWithKey, List.getElem_mapIdx]
    rw [UInt8.xor_assoc, UInt8.xor_self, UInt8.xor_zero]

theorem openBytes_sealArchive (record : ArtifactRecord)
    (stored : record.bytes =
      (sealArchive artifactKey plaintext signingKey encryptionKey remoteTarget).bytes) :
    openBytes record encryptionKey (sealArchive artifactKey plaintext signingKey encryptionKey
      remoteTarget).manifest.encryption = .ok plaintext := by
  cases encryptionKey with
  | none => exact congrArg Except.ok stored
  | some key =>
      have opened : xorWithKey record.bytes key = plaintext := by
        rw [stored]
        exact xorWithKey_xorWithKey plaintext key
      simp [sealArchive, openBytes, orReject, rejectIf, opened]

theorem verifyRecordChecksum_eq_ok_iff :
    verifyRecordChecksum record expectedDigest = .ok () ↔
      digestBytes record.bytes = record.digest ∧ record.digest = expectedDigest := by
  simp [verifyRecordChecksum]

theorem openArchive_eq_ok_iff :
    openArchive record manifest encryptionKey = .ok plaintext ↔
      verifyRecordChecksum record manifest.checksum = .ok () ∧
      manifest.artifactKey = record.key ∧
      openBytes record encryptionKey manifest.encryption = .ok plaintext ∧
      digestBytes plaintext = manifest.plaintextChecksum := by
  simp only [openArchive, bind_eq_ok_iff, exists_unit_iff, rejectIf_eq_ok_iff, not_not,
    pure_eq_ok_iff]
  constructor
  · rintro ⟨checked, named, _, opened, digest, rfl⟩
    exact ⟨checked, named, opened, digest⟩
  · rintro ⟨checked, named, opened, digest⟩
    exact ⟨checked, named, plaintext, opened, digest, rfl⟩

theorem openArchive_of_changed (anyKey : Option BackupEncryptionKey)
    (changed : digestBytes record.bytes ≠ manifest.checksum) :
    ∃ error, verifyRecordChecksum record manifest.checksum = .error error ∧
      openArchive record manifest anyKey = .error error := by
  cases checked : verifyRecordChecksum record manifest.checksum with
  | ok =>
      obtain ⟨own, expected⟩ := verifyRecordChecksum_eq_ok_iff.mp checked
      exact absurd (own.trans expected) changed
  | error error =>
      refine ⟨error, rfl, ?_⟩
      rw [openArchive, checked]
      rfl

/-- A sealed archive opens to its plaintext with the key that sealed it, and its manifest
carries a valid signature. Other bytes in its place are rejected, whatever digest their
record claims and whichever key is tried, unless they collide with the sealed ones. -/
theorem sealed_archive_opens_or_is_rejected (artifactKey : String) (plaintext : List UInt8)
    (signingKey : BackupSigningKey) (encryptionKey : Option BackupEncryptionKey)
    (remoteTarget : Option RemoteBackupTarget) :
    let archive := sealArchive artifactKey plaintext signingKey encryptionKey remoteTarget
    openArchive ⟨artifactKey, archive.bytes, digestBytes archive.bytes⟩ archive.manifest
      encryptionKey = .ok plaintext ∧
    (∃ verification, verifySignature archive.manifest signingKey = .ok verification) ∧
    ∀ (record : ArtifactRecord) (anyKey : Option BackupEncryptionKey),
      record.bytes ≠ archive.bytes →
      (∃ error, verifyRecordChecksum record archive.manifest.checksum = .error error ∧
        openArchive record archive.manifest anyKey = .error error) ∨
      digestBytes record.bytes = digestBytes archive.bytes := by
  intro archive
  refine ⟨?_, verifySignature_eq_ok_iff.mpr ⟨rfl, rfl, rfl, rfl⟩, ?_⟩
  · exact openArchive_eq_ok_iff.mpr
      ⟨verifyRecordChecksum_eq_ok_iff.mpr ⟨rfl, rfl⟩, rfl, openBytes_sealArchive _ rfl, rfl⟩
  · intro record anyKey changed
    by_cases collides : digestBytes record.bytes = digestBytes archive.bytes
    · exact .inr collides
    · exact .inl (openArchive_of_changed anyKey collides)

end Eva.Backup
