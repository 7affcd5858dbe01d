import Eva.Core.Digest
import Eva.Core.Error
import Eva.Foundation.Fields
import Eva.Foundation.Utf8

/-! # Backup archive signatures

The signature of an archive is the digest of a text with one line for each part of
the manifest that it covers and the secret of the key at the end.
-/

namespace Eva.Backup

structure BackupSigningKey where
  keyId : String
  secret : String

structure BackupSignatureManifest where
  keyId : String
  algorithm : String
  value : String

structure BackupEncryptionManifest where
  keyId : String
  algorithm : String
  plaintextChecksum : String

inductive RemoteBackupTargetKind where
  | filesystemMirror
  | objectStore
  | s3Compatible
deriving DecidableEq

def RemoteBackupTargetKind.asStr : RemoteBackupTargetKind → String
  | filesystemMirror => "filesystem_mirror"
  | objectStore => "object_store"
  | s3Compatible => "s3_compatible"

structure RemoteBackupTarget where
  kind : RemoteBackupTargetKind
  endpoint : String
  keyPrefix : String
  required : Bool
deriving DecidableEq

/-- The endpoint and the prefix may hold line feeds. -/
def RemoteBackupTarget.new (kind : RemoteBackupTargetKind) (endpoint keyPrefix : String) :
    Except EvaError RemoteBackupTarget := do
  rejectIf (Text.trim endpoint.toList = [] ∨ Text.trim endpoint.toList ≠ endpoint.toList)
    (.invalidArgument "remote backup target endpoint must be non-empty and trimmed")
  rejectIf (Text.trim keyPrefix.toList = [] ∨ Text.trim keyPrefix.toList ≠ keyPrefix.toList ∨
      Text.contains keyPrefix.toList "..".toList ∨ '\\' ∈ keyPrefix.toList)
    ((EvaError.invalidArgument
      "remote backup target prefix must be a stable relative prefix").withContext
        "prefix" keyPrefix)
  pure { kind, endpoint, keyPrefix, required := false }

structure BackupArchiveManifest where
  format : String
  artifactKey : String
  checksum : String
  plaintextChecksum : String
  encrypted : Bool
  signature : BackupSignatureManifest
  encryption : Option BackupEncryptionManifest
  remoteTarget : Option RemoteBackupTarget

structure BackupSignatureVerification where
  keyId : String
  algorithm : String
  expectedSignature : String
  actualSignature : String
  verified : Bool

def archiveFormat : String := "eva.backup.archive.v1"

def signatureAlgorithm : String := "sha256-keyed-v1"

def digestBytes (bytes : List UInt8) : String := sha256Digest bytes

/-! ## Signing -/

def encryptionFields : Option BackupEncryptionManifest → Fields.FieldMap
  | some encryption =>
      [("encryption_algorithm", encryption.algorithm), ("encryption_key_id", encryption.keyId)]
  | none => [("encryption_algorithm", "none"), ("encryption_key_id", "none")]

def remoteFields : Option RemoteBackupTarget → Fields.FieldMap
  | some target =>
      [("remote_kind", target.kind.asStr), ("remote_endpoint", target.endpoint),
       ("remote_prefix", target.keyPrefix), ("remote_required", toString target.required)]
  | none =>
      [("remote_kind", "none"), ("remote_endpoint", "none"), ("remote_prefix", "none"),
       ("remote_required", "false")]

def signedFields (artifactKey checksum plaintextChecksum : String)
    (encryption : Option BackupEncryptionManifest) (remoteTarget : Option RemoteBackupTarget) :
    Fields.FieldMap :=
  [("artifact_key", artifactKey), ("checksum", checksum),
   ("plaintext_checksum", plaintextChecksum)] ++
    encryptionFields encryption ++ remoteFields remoteTarget

def signedPayload (fields : Fields.FieldMap) (signingKey : BackupSigningKey) : String :=
  "eva-backup-signature:v1\n" ++ Fields.render fields ++
    Fields.render [("key_id", signingKey.keyId), ("secret", signingKey.secret)]

def signArchive (artifactKey checksum plaintextChecksum : String)
    (encryption : Option BackupEncryptionManifest) (remoteTarget : Option RemoteBackupTarget)
    (signingKey : BackupSigningKey) : BackupSignatureManifest where
  keyId := signingKey.keyId
  algorithm := signatureAlgorithm
  value := digestBytes (Text.utf8 (signedPayload
    (signedFields artifactKey checksum plaintextChecksum encryption remoteTarget)
    signingKey).toList)

def BackupArchiveManifest.signedFields (manifest : BackupArchiveManifest) : Fields.FieldMap :=
  Backup.signedFields manifest.artifactKey manifest.checksum manifest.plaintextChecksum
    manifest.encryption manifest.remoteTarget

/-- The bytes whose digest is the signature. -/
def BackupArchiveManifest.payload (manifest : BackupArchiveManifest)
    (signingKey : BackupSigningKey) : List UInt8 :=
  Text.utf8 (signedPayload manifest.signedFields signingKey).toList

def verifySignature (manifest : BackupArchiveManifest) (signingKey : BackupSigningKey) :
    Except EvaError BackupSignatureVerification := do
  rejectIf (manifest.format ≠ archiveFormat)
    ((EvaError.unsupported "unsupported backup archive format").withContext
      "format" manifest.format)
  rejectIf (manifest.signature.keyId ≠ signingKey.keyId)
    (((EvaError.permissionDenied "backup archive signing key id mismatch").withContext
      "expected_key_id" manifest.signature.keyId).withContext "actual_key_id" signingKey.keyId)
  rejectIf (manifest.signature.algorithm ≠ signatureAlgorithm)
    ((EvaError.unsupported "unsupported backup archive signature algorithm").withContext
      "algorithm" manifest.signature.algorithm)
  let expectedSignature := (signArchive manifest.artifactKey manifest.checksum
    manifest.plaintextChecksum manifest.encryption manifest.remoteTarget signingKey).value
  rejectIf (expectedSignature ≠ manifest.signature.value)
    ((((EvaError.conflict "backup archive signature mismatch").withContext
      "artifact_key" manifest.artifactKey).withContext
      "expected_signature" expectedSignature).withContext
      "actual_signature" manifest.signature.value)
  pure
    { keyId := manifest.signature.keyId
      algorithm := manifest.signature.algorithm
      expectedSignature
      actualSignature := manifest.signature.value
      verified := true }

theorem verifySignature_eq_ok_iff :
    (∃ verification, verifySignature manifest key = .ok verification) ↔
      manifest.format = archiveFormat ∧ manifest.signature.keyId = key.keyId ∧
      manifest.signature.algorithm = signatureAlgorithm ∧
      digestBytes (manifest.payload key) = manifest.signature.value := by
  simp only [verifySignature, bind_eq_ok_iff, exists_unit_iff, rejectIf_eq_ok_iff, not_not,
    pure_eq_ok_iff]
  constructor
  · rintro ⟨_, format, named, algorithm, digest, -⟩
    exact ⟨format, named, algorithm, digest⟩
  · rintro ⟨format, named, algorithm, digest⟩
    exact ⟨_, format, named, algorithm, digest, rfl⟩

/-! ## What the signature binds -/

theorem map_fst_signedFields (manifest : BackupArchiveManifest) :
    manifest.signedFields.map Prod.fst =
      ["artifact_key", "checksum", "plaintext_checksum", "encryption_algorithm",
       "encryption_key_id", "remote_kind", "remote_endpoint", "remote_prefix",
       "remote_required"] := by
  rcases manifest with ⟨_, _, _, _, _, _, encryption, remote⟩
  cases encryption <;> cases remote <;> rfl

theorem signedPayload_inj (same : signedPayload left key = signedPayload right key) :
    Fields.render left = Fields.render right := by
  exact (String.append_right_inj _).mp ((String.append_left_inj _).mp same)

theorem remoteFields_injective : Function.Injective remoteFields := by
  have kind_ne (kind : RemoteBackupTargetKind) : kind.asStr ≠ "none" := by
    cases kind <;> decide
  have kind_inj : Function.Injective RemoteBackupTargetKind.asStr := by
    intro left right same
    cases left <;> cases right <;> first | rfl | exact absurd same (by decide)
  have required_inj : Function.Injective (toString : Bool → String) := by decide
  intro left right same
  rcases left with _ | ⟨kind, endpoint, keyPrefix, required⟩ <;>
    rcases right with _ | ⟨otherKind, otherEndpoint, otherPrefix, otherRequired⟩
  · rfl
  · simp only [remoteFields, List.cons.injEq, Prod.mk.injEq] at same
    exact absurd same.1.2.symm (kind_ne otherKind)
  · simp only [remoteFields, List.cons.injEq, Prod.mk.injEq] at same
    exact absurd same.1.2 (kind_ne kind)
  · simp only [remoteFields, List.cons.injEq, Prod.mk.injEq, true_and, and_true] at same
    obtain ⟨kinds, rfl, rfl, flags⟩ := same
    rw [kind_inj kinds, required_inj flags]

def BackupEncryptionManifest.signed (encryption : BackupEncryptionManifest) : String × String :=
  (encryption.algorithm, encryption.keyId)

/-- Two manifests are told apart where no signed text of one runs over into the next line
of the other, an encryption manifest is not taken for an absent one, and the flags are right
in both or wrong in both. -/
structure BackupArchiveManifest.Apart (left right : BackupArchiveManifest) : Prop where
  lines : ¬Fields.RunsOver left.signedFields right.signedFields ∧
    ¬Fields.RunsOver right.signedFields left.signedFields
  named : (left.encryption = none → ∀ encryption ∈ right.encryption,
      encryption.signed ≠ ("none", "none")) ∧
    (right.encryption = none → ∀ encryption ∈ left.encryption,
      encryption.signed ≠ ("none", "none"))
  flagged : left.encrypted = left.encryption.isSome ↔ right.encrypted = right.encryption.isSome

/-- What the signature is to bind; the presence of an encryption manifest is part of the
equation of what is signed of it. -/
structure BackupArchiveManifest.Bound (left right : BackupArchiveManifest) : Prop where
  artifactKey : left.artifactKey = right.artifactKey
  checksum : left.checksum = right.checksum
  plaintextChecksum : left.plaintextChecksum = right.plaintextChecksum
  encryption : left.encryption.map BackupEncryptionManifest.signed =
    right.encryption.map BackupEncryptionManifest.signed
  encrypted : left.encrypted = right.encrypted
  remoteTarget : left.remoteTarget = right.remoteTarget

theorem encryptionFields_eq (encryption : Option BackupEncryptionManifest) :
    encryptionFields encryption =
      [("encryption_algorithm",
        ((encryption.map BackupEncryptionManifest.signed).getD ("none", "none")).1),
       ("encryption_key_id",
        ((encryption.map BackupEncryptionManifest.signed).getD ("none", "none")).2)] := by
  cases encryption <;> rfl

theorem encryptionFields_inj
    (rightNamed : left = none → ∀ encryption ∈ right, encryption.signed ≠ ("none", "none"))
    (leftNamed : right = none → ∀ encryption ∈ left, encryption.signed ≠ ("none", "none"))
    (same : encryptionFields left = encryptionFields right) :
    left.map BackupEncryptionManifest.signed = right.map BackupEncryptionManifest.signed := by
  simp only [encryptionFields_eq, List.cons.injEq, Prod.mk.injEq, true_and, and_true] at same
  have whole := Prod.ext same.1 same.2
  cases left with
  | none =>
      cases right with
      | none => rfl
      | some encryption => exact absurd whole.symm (rightNamed rfl encryption rfl)
  | some encryption =>
      cases right with
      | none => exact absurd whole (leftNamed rfl encryption rfl)
      | some other => exact congrArg some whole

theorem BackupArchiveManifest.Bound.signedFields_eq (bound : Bound left right) :
    left.signedFields = right.signedFields := by
  rw [BackupArchiveManifest.signedFields, BackupArchiveManifest.signedFields, Backup.signedFields,
    Backup.signedFields, encryptionFields_eq, encryptionFields_eq, bound.artifactKey,
    bound.checksum, bound.plaintextChecksum, bound.encryption, bound.remoteTarget]

theorem BackupArchiveManifest.Bound.isSome_eq (bound : Bound left right) :
    left.encryption.isSome = right.encryption.isSome := by
  simpa using congrArg Option.isSome bound.encryption

/-- Two manifests that are accepted with one signature value and whose payloads do not
collide agree in what is signed exactly when they are told apart. -/
theorem verifySignature_binds (leftAccepted : verifySignature left key = .ok leftVerification)
    (rightAccepted : verifySignature right key = .ok rightVerification)
    (sameSignature : left.signature.value = right.signature.value)
    (collisionFree : digestBytes (left.payload key) = digestBytes (right.payload key) →
      left.payload key = right.payload key) :
    left.Bound right ↔ left.Apart right := by
  obtain ⟨-, -, -, leftDigest⟩ := verifySignature_eq_ok_iff.mp ⟨_, leftAccepted⟩
  obtain ⟨-, -, -, rightDigest⟩ := verifySignature_eq_ok_iff.mp ⟨_, rightAccepted⟩
  have payloads : left.payload key = right.payload key := by
    apply collisionFree
    rw [leftDigest, rightDigest, sameSignature]
  have rendered : Fields.render left.signedFields = Fields.render right.signedFields :=
    signedPayload_inj (String.toList_injective (Text.utf8_injective payloads))
  have named : ∀ name ∈ left.signedFields.map Prod.fst, '\n' ∉ name.toList := by
    rw [map_fst_signedFields]
    decide
  have equal := Fields.render_inj_iff
    ((map_fst_signedFields left).trans (map_fst_signedFields right).symm) named rendered
  constructor
  · intro bound
    have present := bound.isSome_eq
    refine ⟨equal.mp bound.signedFields_eq, ⟨?_, ?_⟩, by rw [bound.encrypted, present]⟩
    · intro absent encryption held
      rw [absent, Option.mem_def.mp held] at present
      cases present
    · intro absent encryption held
      rw [absent, Option.mem_def.mp held] at present
      cases present
  · intro apart
    have fields := equal.mpr apart.lines
    simp only [BackupArchiveManifest.signedFields, signedFields, List.cons_append,
      List.nil_append, List.cons.injEq, Prod.mk.injEq, true_and] at fields
    obtain ⟨artifactKey, checksum, plaintextChecksum, rest⟩ := fields
    have pairs : ∀ option, (encryptionFields option).length = 2 := by
      rintro (_ | _) <;> rfl
    obtain ⟨encryption, remote⟩ := List.append_inj rest (by rw [pairs, pairs])
    have signed := encryptionFields_inj apart.named.1 apart.named.2 encryption
    have present : left.encryption.isSome = right.encryption.isSome := by
      simpa using congrArg Option.isSome signed
    refine ⟨artifactKey, checksum, plaintextChecksum, signed, ?_, remoteFields_injective remote⟩
    have flags := apart.flagged
    rw [present] at flags
    revert flags
    cases left.encrypted <;> cases right.encrypted <;> cases right.encryption.isSome <;> simp

def signedManifest (key : BackupSigningKey) (encrypted : Bool)
    (encryption : Option BackupEncryptionManifest) (remoteTarget : Option RemoteBackupTarget) :
    BackupArchiveManifest where
  format := archiveFormat
  artifactKey := "backup/one"
  checksum := "sha256:0"
  plaintextChecksum := "sha256:0"
  encrypted
  signature := signArchive "backup/one" "sha256:0" "sha256:0" encryption remoteTarget key
  encryption
  remoteTarget

theorem verifySignature_signedManifest (key : BackupSigningKey) (encrypted : Bool)
    (encryption : Option BackupEncryptionManifest) (remoteTarget : Option RemoteBackupTarget) :
    ∃ verification, verifySignature (signedManifest key encrypted encryption remoteTarget) key =
      .ok verification :=
  verifySignature_eq_ok_iff.mpr ⟨rfl, rfl, rfl, rfl⟩

def sampleKey : BackupSigningKey where
  keyId := "key"
  secret := "secret"

def mirror (endpoint keyPrefix : String) : RemoteBackupTarget where
  kind := .filesystemMirror
  endpoint
  keyPrefix
  required := false

/-- The endpoint holds a line feed, but not the name of the next line behind it. -/
def sealedManifest (plaintextChecksum : String) : BackupArchiveManifest :=
  signedManifest sampleKey true (some ⟨"seal", "xor", plaintextChecksum⟩)
    (some (mirror "/mnt\nmirror" "eva"))

theorem verifySignature_binds_mirror :
    (sealedManifest "one").Bound (sealedManifest "two") := by
  obtain ⟨_, leftAccepted⟩ := verifySignature_signedManifest sampleKey true
    (some ⟨"seal", "xor", "one"⟩) (some (mirror "/mnt\nmirror" "eva"))
  obtain ⟨_, rightAccepted⟩ := verifySignature_signedManifest sampleKey true
    (some ⟨"seal", "xor", "two"⟩) (some (mirror "/mnt\nmirror" "eva"))
  refine (verifySignature_binds leftAccepted rightAccepted rfl fun _ => rfl).mpr ?_
  exact ⟨⟨Fields.not_runsOver_self _, Fields.not_runsOver_self _⟩, ⟨by simp [signedManifest],
    by simp [signedManifest]⟩, Iff.rfl⟩

/-- A line feed moves text from the prefix to the endpoint, the flag is not signed, and
manifests with the word of an absent one are taken for it. -/
theorem verifySignature_binds_too_little :
    (∃ left right leftVerification rightVerification,
      RemoteBackupTarget.new .filesystemMirror "a\nremote_prefix=b" "c" = .ok left ∧
      RemoteBackupTarget.new .filesystemMirror "a" "b\nremote_prefix=c" = .ok right ∧
      left ≠ right ∧
      verifySignature (signedManifest sampleKey false none (some left)) sampleKey =
        .ok leftVerification ∧
      verifySignature (signedManifest sampleKey false none (some right)) sampleKey =
        .ok rightVerification ∧
      (signedManifest sampleKey false none (some left)).signature.value =
        (signedManifest sampleKey false none (some right)).signature.value) ∧
    (signedManifest sampleKey true none none).signature.value =
      (signedManifest sampleKey false none none).signature.value ∧
    (signedManifest sampleKey true (some ⟨"none", "none", ""⟩) none).signature.value =
      (signedManifest sampleKey false none none).signature.value := by
  obtain ⟨leftVerification, leftAccepted⟩ := verifySignature_signedManifest sampleKey false none
    (some (mirror "a\nremote_prefix=b" "c"))
  obtain ⟨rightVerification, rightAccepted⟩ := verifySignature_signedManifest sampleKey false none
    (some (mirror "a" "b\nremote_prefix=c"))
  refine ⟨⟨mirror "a\nremote_prefix=b" "c", mirror "a" "b\nremote_prefix=c", leftVerification,
    rightVerification, by decide, by decide, by decide, leftAccepted, rightAccepted, ?_⟩, rfl, rfl⟩
  have payloads :
      signedPayload (signedManifest sampleKey false none
        (some (mirror "a\nremote_prefix=b" "c"))).signedFields sampleKey =
      signedPayload (signedManifest sampleKey false none
        (some (mirror "a" "b\nremote_prefix=c"))).signedFields sampleKey := by
    decide +kernel
  exact congrArg (fun payload : String => digestBytes (Text.utf8 payload.toList)) payloads

end Eva.Backup
