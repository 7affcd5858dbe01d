import Eva.Storage.TaskState.Snapshot

/-! # Runtime writer ownership

Durable stores accept changes only from the writer that the two ownership files
name. Every acquisition raises the generation, which fences earlier writers.
-/

namespace Eva.Storage

/-! ## Failing system calls -/

/-- The places where a call into the operating system can fail. -/
inductive IoPoint where
  | createDirectory
  | processLock
  | readGeneration
  | readOwner
  | writeGeneration
  | writeOwner
  | openOwnerLock
  | ownerLockHeld
  | createLockDirectory
  | openRecordLock
  | acquireRecordLock
  | readDirectory
  | readDirectoryEntry
  | readRecord
  | writeCanonical
  | syncCanonical
  | writeLatest
  | syncLatest
  | readEffectDirectory
  | readEffectEntry
  | inspectEffectEntry
  | readEffectRecord
  | replaceEffectRecord
  | syncEffectDirectory
deriving DecidableEq

structure IoFault where
  point : IoPoint
  ioError : String

/-- Fail with the error that the source maps the failed call to. -/
def failsAt (fault : Option IoFault) (point : IoPoint) (error : String → EvaError) :
    Except EvaError Unit :=
  match fault with
  | some fault => rejectIf (fault.point = point) (error fault.ioError)
  | none => .ok ()

@[simp] theorem failsAt_none (point : IoPoint) (error : String → EvaError) :
    failsAt none point error = .ok () := rfl

theorem failsAt_eq_ok_iff :
    failsAt fault point error = .ok () ↔ ∀ met ∈ fault, met.point ≠ point := by
  cases fault <;> simp [failsAt, rejectIf_eq_ok_iff]

def pathError (error : EvaError) (path ioError : String) : EvaError :=
  (error.withContext "path" path).withContext "io_error" ioError

/-! ## Ownership files -/

structure WriterLayout where
  root : String
  ownerPath : String
  ownerRecordPath : String
  generationPath : String

structure OwnerRecord where
  ownerToken : String
  generation : WriterGeneration
  processId : U32
deriving DecidableEq

/-- A missing generation file counts as generation zero. -/
structure WriterFiles where
  generation : WriterGeneration
  owner : Option OwnerRecord
deriving DecidableEq

structure DurableWriterGuard where
  ownerToken : String
  generation : WriterGeneration
  processId : U32
deriving DecidableEq

namespace DurableWriterGuard

variable (layout : WriterLayout) (files : WriterFiles) (fault : Option IoFault)

def verifyCurrent (guard : DurableWriterGuard) : Except EvaError Unit := do
  failsAt fault .readGeneration
    (pathError (.internal "failed to read durable writer generation") layout.generationPath)
  rejectIf (files.generation ≠ guard.generation)
    ((EvaError.conflict "durable runtime writer generation is stale")
      |>.withContext "path" layout.ownerPath
      |>.withContext "expected" guard.generation.text
      |>.withContext "actual" files.generation.text)
  failsAt fault .readOwner
    (pathError (.conflict "durable runtime writer owner metadata cannot be read")
      layout.ownerRecordPath)
  rejectIf (files.owner ≠ some
      { ownerToken := guard.ownerToken
        generation := guard.generation
        processId := guard.processId })
    ((EvaError.conflict "durable runtime writer owner record is stale or invalid")
      |>.withContext "path" layout.ownerRecordPath
      |>.withContext "expected_generation" guard.generation.text)

/-- The generation is written before the owner record, so that a failure between
the two leaves no writer current. -/
def acquire (processId : U32) (ownerToken : String) :
    WriterFiles × Except EvaError DurableWriterGuard :=
  let prepared : Except EvaError WriterGeneration := do
    failsAt fault .openOwnerLock
      (pathError (.internal "failed to open durable runtime writer lock") layout.ownerPath)
    failsAt fault .ownerLockHeld fun _ =>
      (EvaError.conflict "durable runtime writer is already owned")
        |>.withContext "path" layout.ownerPath
    failsAt fault .readGeneration
      (pathError (.internal "failed to read durable writer generation") layout.generationPath)
    rejectIf (files.generation = 0 ∧ files.owner ≠ none)
      ((EvaError.conflict
          "durable writer generation is missing after ownership was initialized")
        |>.withContext "generation_path" layout.generationPath
        |>.withContext "owner_path" layout.ownerRecordPath)
    let generation ← WriterGeneration.checkedNext files.generation
    failsAt fault .writeGeneration
      (pathError (.internal "failed to persist durable writer generation")
        layout.generationPath)
    pure generation
  match prepared with
  | .error error => (files, .error error)
  | .ok generation =>
      match failsAt fault .writeOwner
        (pathError (.internal "failed to persist runtime writer metadata")
          layout.ownerRecordPath) with
      | .error error => ({ files with generation }, .error error)
      | .ok () =>
          ({ generation, owner := some { ownerToken, generation, processId } },
            .ok { ownerToken, generation, processId })

/-! ## What verification and acquisition guarantee -/

variable {layout files fault} {guard : DurableWriterGuard}

theorem verifyCurrent_generation (current : guard.verifyCurrent layout files fault = .ok ()) :
    files.generation = guard.generation := by
  simp only [verifyCurrent, seq_eq_ok_iff, rejectIf_eq_ok_iff, not_not] at current
  exact current.2.1

theorem acquire_generation_le (processId : U32) (ownerToken : String) :
    files.generation ≤ (acquire layout files fault processId ownerToken).1.generation := by
  unfold acquire
  extract_lets prepared
  cases ready : prepared with
  | error error => simp [Unsigned.le_iff]
  | ok generation =>
      have next : files.generation ≤ generation := by
        simp only [prepared, bind_eq_ok_iff, exists_unit_iff, WriterGeneration.checkedNext,
          orReject_eq_ok_iff,
          Unsigned.checkedAdd_eq_some_iff, pure_eq_ok_iff] at ready
        obtain ⟨-, -, -, -, next, sum, -, rfl⟩ := ready
        rw [Unsigned.le_iff]
        omega
      simp only
      split <;> exact next

end DurableWriterGuard

end Eva.Storage
