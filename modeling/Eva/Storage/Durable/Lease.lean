import Eva.Storage.Durable.Guard

/-! # Daemon leases

A lease guard holds the lock of the anchor file and a writer guard, and keeps a copy of
the record it last wrote. A record is taken over only under the lock.
-/

namespace Eva.Storage.Durable

structure LeasePaths where
  anchor : String
  lease : String
  /-- `None` for a path without a parent directory. -/
  anchorParent : Option String
  leaseParent : Option String

def validateRuntimeLeasePaths (paths : LeasePaths) : Except EvaError Unit := do
  rejectIf (paths.anchor = "" ∨ paths.lease = "")
    (.invalidArgument "daemon lease paths must not be empty")
  rejectIf (paths.anchor = paths.lease)
    ((EvaError.invalidArgument
        "daemon lock anchor and lease record must use different paths").withContext "path"
      paths.anchor)

namespace LeaseFile

def label : LeaseFile → String
  | anchor => "daemon lock anchor"
  | lease => "daemon lease record"

def path (paths : LeasePaths) : LeaseFile → String
  | anchor => paths.anchor
  | lease => paths.lease

def parent (paths : LeasePaths) : LeaseFile → Option String
  | anchor => paths.anchorParent
  | lease => paths.leaseParent

end LeaseFile

/-- The guard of a lease. Its record can always be written, and until it is released it
lasts for one lifetime from its last heartbeat. -/
structure DurableRuntimeLeaseGuard where
  record : DurableRuntimeLeaseRecord
  ttlMs : U128
  writer : DurableWriterGuard
  publishable : record.Publishable
  positive : ttlMs ≠ 0
  lasting : record.state = .active →
    record.expiresAtMs.value = record.heartbeatAtMs.value + ttlMs.value

namespace RuntimeLeaseAcquireMode

def processStartToken : RuntimeLeaseAcquireMode → Option String
  | normal token => token
  | failedStart _ => none

def failedStartIdentity : RuntimeLeaseAcquireMode → Option DurableRuntimeLeaseIdentity
  | normal _ => none
  | failedStart expected => some expected

end RuntimeLeaseAcquireMode

section Programs

variable (layout : WriterLayout) (paths : LeasePaths) (handle : Handle)

/-! ## Small steps -/

def pathExists (file : LeaseFile) : Program (Except EvaError Bool) :=
  reporting (pathError (.internal ("failed to inspect " ++ file.label)) (file.path paths))
    (ask handle (.pathExists file))

def ensureParentDirectory (file : LeaseFile) : Program (Except EvaError Unit) :=
  match file.parent paths with
  | none => .done (.error ((EvaError.invalidArgument
      (file.label ++ " path must have a parent directory")).withContext "path"
        (file.path paths)))
  | some parent =>
      reporting (pathError (.internal "failed to create daemon lease directory") parent)
        (ask handle (.io (.createParent file)))

def parseRuntimeLeaseRecord (data : Option String) :
    Except EvaError (Option DurableRuntimeLeaseRecord) :=
  match data with
  | none => .ok none
  | some data => ((DurableRuntimeLeaseRecord.fromStorage data).map some).mapError
      (·.withContext "path" paths.lease)

def readRuntimeLeaseRecord : Program (Except EvaError (Option DurableRuntimeLeaseRecord)) :=
  (reporting (pathError (.conflict "daemon lease record cannot be read") paths.lease)
    (ask handle .readLease)).andThen fun data => .done (parseRuntimeLeaseRecord paths data)

def writeRuntimeLeaseRecord (purpose : LeaseWrite) (record : DurableRuntimeLeaseRecord) :
    Program (Except EvaError Unit) :=
  reporting (pathError (.internal "failed to persist daemon lease record") paths.lease)
    (ask handle (.writeLease purpose record))

/-! ## The anchor -/

def invalidRuntimeLeaseAnchor : EvaError :=
  (EvaError.conflict "daemon lock anchor format is corrupt or unsupported").withContext "path"
    paths.anchor

/-- The staged file is linked into place; another process may have been faster. -/
def publishRuntimeLeaseAnchor : Program (Except EvaError Bool) :=
  match paths.anchorParent with
  | none => .done (.error ((EvaError.invalidArgument
      "daemon lock anchor path must have a parent directory").withContext "path" paths.anchor))
  | some parent =>
      (reporting (pathError (.internal "failed to create daemon lock anchor staging file") parent)
        (ask handle (.io .createStaging))).andThen fun () =>
      (reporting
        (pathError (.internal "failed to initialize daemon lock anchor staging file") parent)
        (ask handle (.io .initializeStaging))).andThen fun () =>
      (reporting (pathError (.internal "failed to publish daemon lock anchor") paths.anchor)
        (ask handle .linkAnchor)).andThen fun created =>
      (if created then
        reporting (pathError (.internal "failed to sync daemon lock anchor directory") parent)
          (ask handle (.io .syncAnchorDirectory))
        else .done (.ok ())).andThen fun () =>
      (reporting
        (pathError (.internal "failed to remove daemon lock anchor staging link") parent)
        (ask handle (.io .removeStaging))).andThen fun () =>
      (reporting (pathError (.internal "failed to sync daemon lock anchor directory") parent)
        (ask handle (.io .syncAnchorDirectory))).andThen fun () =>
      (reporting (pathError (.internal "failed to open published daemon lock anchor") paths.anchor)
        (ask handle (.io .reopenAnchor))).andThen fun () => .done (.ok created)

def openRuntimeLeaseAnchor : Program (Except EvaError Bool) :=
  (reporting (pathError (.internal "failed to open daemon lock anchor") paths.anchor)
    (ask handle .openAnchor)).andThen fun found =>
      if found then .done (.ok false) else publishRuntimeLeaseAnchor paths handle

def validateRuntimeLeaseAnchor : Program (Except EvaError Unit) :=
  (reporting (pathError (.internal "failed to read daemon lock anchor") paths.anchor)
    (ask handle .readAnchor)).andThen fun data =>
      .done (rejectIf (data ≠ anchorMarker) (invalidRuntimeLeaseAnchor paths))

/-- Whether a lock that is held may be given back shortly. -/
def maySettle (failedStart : Option DurableRuntimeLeaseIdentity)
    (record : Option DurableRuntimeLeaseRecord) (observedNowMs : U128) : Bool :=
  match failedStart, record with
  | some expected, some record => record.state = .active ∧ record.identity = expected
  | some _, none => false
  | none, some record => record.state ≠ .active ∨ record.isExpiredAt observedNowMs
  | none, none => true

def ownerStillLive : EvaError :=
  (EvaError.conflict "daemon lease owner is still live").withContext "anchor_path" paths.anchor

def tryAnchor (failedStart : Option DurableRuntimeLeaseIdentity) (observedNowMs : U128) :
    Program (Option (Except EvaError Unit)) :=
  .step (.call handle .tryLockAnchor) fun
    | .locked => .done (some (.ok ()))
    | .failed ioError => .done (some (.error
        (pathError (.internal "failed to acquire daemon lock anchor") paths.anchor ioError)))
    | .wouldBlock => (readRuntimeLeaseRecord paths handle).bind fun
        | .error error => .done (some (.error error))
        | .ok record =>
            if maySettle failedStart record observedNowMs then
              .step (.call handle .deadlinePassed) fun passed =>
                .done (if passed then some (.error (ownerStillLive paths)) else none)
            else .done (some (.error (ownerStillLive paths)))

/-- The lock is tried every ten milliseconds for one second. -/
def settleAttempts : Nat := 1000 / 10 + 1

def closingAnchor {Result : Type} (program : Program (Except EvaError Result)) :
    Program (Except EvaError Result) :=
  program.bind fun
    | .ok result => .done (.ok result)
    | .error error => .step (.call handle .closeAnchor) fun () => .done (.error error)

def acquireRuntimeLeaseAnchor (failedStart : Option DurableRuntimeLeaseIdentity)
    (observedNowMs : U128) : Program (Except EvaError Bool) :=
  (openRuntimeLeaseAnchor paths handle).andThen fun created =>
  (ask handle .readAnchor).bind fun marker =>
  (Program.done (match marker with
    | .ok data => rejectIf (data ≠ anchorMarker) (invalidRuntimeLeaseAnchor paths)
    | .error _ => .ok ())).andThen fun () =>
  (Program.repeatUntil (tryAnchor paths handle failedStart observedNowMs)
    (.error (ownerStillLive paths)) settleAttempts).andThen fun () =>
  closingAnchor handle ((validateRuntimeLeaseAnchor paths handle).andThen fun () =>
    .done (.ok created))

/-! ## Acquisition -/

/-- May the record that was found be replaced? -/
def checkPrevious (mode : RuntimeLeaseAcquireMode) (nowMs : U128)
    (previous : Option DurableRuntimeLeaseRecord) : Except EvaError Unit :=
  match mode with
  | .failedStart expected => do
      let record ← orReject ((EvaError.conflict
        "failed-start reclaim requires an existing active daemon lease").withContext
          "lease_path" paths.lease) previous
      rejectIf (record.state ≠ .active)
        ((EvaError.conflict "failed-start reclaim requires an active daemon lease")
          |>.withContext "lease_path" paths.lease
          |>.withContext "actual_state" record.state.asStr)
      rejectIf (record.identity ≠ expected)
        ((EvaError.conflict "failed-start daemon lease identity does not match")
          |>.withContext "lease_path" paths.lease
          |>.withContext "expected_pid" expected.pid.text
          |>.withContext "actual_pid" record.pid.text
          |>.withContext "expected_generation" expected.generation.text
          |>.withContext "actual_generation" record.generation.text
          |>.withContext "process_start_token_matches"
            (toString (decide (expected.processStartToken = record.processStartToken))))
  | .normal _ =>
      match previous.filter fun record =>
        record.state = .active ∧ ¬record.isExpiredAt nowMs with
      | none => .ok ()
      | some record => .error
          ((EvaError.conflict "daemon lease owner is dead but its lease has not expired")
            |>.withContext "lease_path" paths.lease
            |>.withContext "pid" record.pid.text
            |>.withContext "generation" record.generation.text
            |>.withContext "expires_at_ms" record.expiresAtMs.text)

def checkPersisted (previous : Option DurableRuntimeLeaseRecord)
    (persisted : WriterGeneration) : Except EvaError Unit :=
  match previous with
  | none => .ok ()
  | some record => rejectIf (persisted < record.generation)
      ((EvaError.conflict "daemon lease generation is ahead of durable writer generation")
        |>.withContext "lease_path" paths.lease
        |>.withContext "lease_generation" record.generation.text
        |>.withContext "writer_generation" persisted.text)

def checkAdvanced (previous : Option DurableRuntimeLeaseRecord)
    (generation : WriterGeneration) : Except EvaError Unit :=
  match previous with
  | none => .ok ()
  | some record => rejectIf (generation ≤ record.generation)
      ((EvaError.conflict "daemon lease takeover did not advance the writer generation")
        |>.withContext "lease_path" paths.lease
        |>.withContext "previous_generation" record.generation.text
        |>.withContext "new_generation" generation.text)

theorem activeFor_eq_ok
    (built : DurableRuntimeLeaseRecord.activeFor writer token nowMs ttlMs = .ok record) :
    validateProcessStartToken token = .ok () ∧ ttlMs ≠ 0 ∧
      record.expiresAtMs.value = nowMs.value + ttlMs.value ∧
      record = { state := .active, pid := writer.processId, processStartToken := token,
                 generation := writer.generation, heartbeatAtMs := nowMs,
                 expiresAtMs := record.expiresAtMs } := by
  simp only [DurableRuntimeLeaseRecord.activeFor, bind_eq_ok_iff, exists_unit_iff,
    pure_eq_ok_iff] at built
  obtain ⟨valid, expiry, lasts, rfl⟩ := built
  rw [leaseExpiry_eq_ok_iff] at lasts
  exact ⟨valid, lasts.1, lasts.2, rfl⟩

theorem lt_of_lasting {start lifetime expiry : U128} (positive : lifetime ≠ 0)
    (lasts : expiry.value = start.value + lifetime.value) : start < expiry := by
  have nonzero : lifetime.value ≠ 0 := by
    intro zero
    exact positive (Unsigned.eq_iff.mpr (by simpa [OfNat.ofNat] using zero))
  rw [Unsigned.lt_iff]
  omega

namespace DurableRuntimeLeaseGuard

def claimed (writer : AcquiredWriter) (token : String) (nowMs ttlMs : U128) :
    Except EvaError DurableRuntimeLeaseGuard :=
  match built : DurableRuntimeLeaseRecord.activeFor writer.toDurableWriterGuard token nowMs ttlMs
  with
  | .error error => .error error
  | .ok record => .ok
      { record, ttlMs
        writer := writer.toDurableWriterGuard
        publishable := by
          obtain ⟨valid, positive, lasts, rebuilt⟩ := activeFor_eq_ok built
          rw [rebuilt]
          exact ⟨writer.owned, valid, writer.fenced, lt_of_lasting positive lasts⟩
        positive := (activeFor_eq_ok built).2.1
        lasting := by
          obtain ⟨-, -, lasts, rebuilt⟩ := activeFor_eq_ok built
          intro _
          rw [rebuilt]
          exact lasts }

def renewed (guard : DurableRuntimeLeaseGuard) (active : guard.record.state = .active)
    (nowMs : U128) : Except EvaError DurableRuntimeLeaseGuard :=
  let heartbeatAtMs := if guard.record.heartbeatAtMs ≤ nowMs then nowMs
    else guard.record.heartbeatAtMs
  match lasts : leaseExpiry heartbeatAtMs guard.ttlMs with
  | .error error => .error error
  | .ok expiresAtMs => .ok
      { guard with
        record := { guard.record with heartbeatAtMs, expiresAtMs }
        publishable :=
          { guard.publishable with
            timed := by
              rw [active]
              exact lt_of_lasting guard.positive (leaseExpiry_eq_ok_iff.mp lasts).2 }
        lasting := fun _ => (leaseExpiry_eq_ok_iff.mp lasts).2 }

def released (guard : DurableRuntimeLeaseGuard) (nowMs : U128) : DurableRuntimeLeaseGuard :=
  let heartbeatAtMs := if guard.record.heartbeatAtMs ≤ nowMs then nowMs
    else guard.record.heartbeatAtMs
  { guard with
    record :=
      { guard.record with
        state := .released
        heartbeatAtMs
        expiresAtMs := heartbeatAtMs }
    publishable := { guard.publishable with timed := rfl }
    lasting := nofun }

end DurableRuntimeLeaseGuard

def claimAnchored (mode : RuntimeLeaseAcquireMode) (nowMs ttlMs : U128) (created : Bool) :
    Program (Except EvaError DurableRuntimeLeaseGuard) :=
  (Program.done (rejectIf (mode.failedStartIdentity ≠ none ∧ created = true)
    ((EvaError.conflict "daemon lock anchor changed during failed-start reclaim").withContext
      "anchor_path" paths.anchor))).andThen fun () =>
  (if created then pathExists paths handle .lease else .done (.ok false)).andThen fun appeared =>
  (Program.done (rejectIf (appeared = true)
    ((EvaError.conflict "daemon lease record appeared while its lock anchor was missing")
      |>.withContext "anchor_path" paths.anchor
      |>.withContext "lease_path" paths.lease))).andThen fun () =>
  (readRuntimeLeaseRecord paths handle).andThen fun previous =>
  (Program.done (checkPrevious paths mode nowMs previous)).andThen fun () =>
  (readWriterGeneration layout handle).andThen fun persisted =>
  (Program.done (checkPersisted paths previous persisted)).andThen fun () =>
  (acquire layout handle).andThen fun writer =>
  droppingWriter handle
    ((Program.done (checkAdvanced paths previous writer.generation)).andThen fun () =>
    (Program.done (DurableRuntimeLeaseGuard.claimed writer
      (mode.processStartToken.getD writer.ownerToken) nowMs ttlMs)).andThen fun guard =>
    (writeRuntimeLeaseRecord paths handle (.claim mode nowMs) guard.record).andThen fun () =>
    .done (.ok guard))

def acquireInner (mode : RuntimeLeaseAcquireMode) (nowMs ttlMs : U128) :
    Program (Except EvaError DurableRuntimeLeaseGuard) :=
  (Program.done (validateRuntimeLeasePaths paths)).andThen fun () =>
  (Program.done (leaseExpiry nowMs ttlMs)).andThen fun _ =>
  (pathExists paths handle .anchor).andThen fun anchorExisted =>
  (pathExists paths handle .lease).andThen fun leaseExisted =>
  (Program.done (do
    rejectIf (anchorExisted = false ∧ leaseExisted = true)
      ((EvaError.conflict "daemon lease record exists without its fixed lock anchor")
        |>.withContext "anchor_path" paths.anchor
        |>.withContext "lease_path" paths.lease)
    rejectIf (mode.failedStartIdentity ≠ none ∧ anchorExisted = false)
      ((EvaError.conflict
        "failed-start reclaim requires an existing daemon lock anchor").withContext
          "anchor_path" paths.anchor))).andThen fun () =>
  (ensureParentDirectory paths handle .anchor).andThen fun () =>
  (ensureParentDirectory paths handle .lease).andThen fun () =>
  (acquireRuntimeLeaseAnchor paths handle mode.failedStartIdentity nowMs).andThen fun created =>
  closingAnchor handle (claimAnchored layout paths handle mode nowMs ttlMs created)

/-! ## The life of a guard -/

variable (guard : DurableRuntimeLeaseGuard)

def verifyCurrentRecord : Program (Except EvaError Unit) :=
  (verifyCurrent layout handle guard.writer).andThen fun () =>
  (readRuntimeLeaseRecord paths handle).andThen fun current =>
  (Program.done (orReject ((EvaError.conflict
    "daemon lease record disappeared while owned").withContext "lease_path" paths.lease)
      current)).andThen fun current =>
  .done (rejectIf (current ≠ guard.record)
    ((EvaError.conflict "daemon lease record was replaced by another owner")
      |>.withContext "lease_path" paths.lease
      |>.withContext "expected_generation" guard.record.generation.text
      |>.withContext "actual_generation" current.generation.text))

/-- The copy in memory follows the file only when the write succeeds. -/
def publish (purpose : LeaseWrite) (next : DurableRuntimeLeaseGuard) :
    Program (DurableRuntimeLeaseGuard × Except EvaError DurableRuntimeLeaseRecord) :=
  (writeRuntimeLeaseRecord paths handle purpose next.record).map fun
    | .ok () => (next, .ok next.record)
    | .error error => (guard, .error error)

def renewAt (nowMs : U128) :
    Program (DurableRuntimeLeaseGuard × Except EvaError DurableRuntimeLeaseRecord) :=
  if active : guard.record.state = .active then
    (verifyCurrentRecord layout paths handle guard).bind fun
      | .error error => .done (guard, .error error)
      | .ok () =>
          match guard.renewed active nowMs with
          | .error error => .done (guard, .error error)
          | .ok next => publish paths handle guard (.renew guard.record) next
  else .done (guard, .error ((EvaError.conflict
    "released daemon lease cannot be renewed").withContext "lease_path" paths.lease))

def releaseAt (nowMs : U128) :
    Program (DurableRuntimeLeaseGuard × Except EvaError DurableRuntimeLeaseRecord) :=
  if guard.record.state = .released then .done (guard, .ok guard.record)
  else (verifyCurrentRecord layout paths handle guard).bind fun
    | .error error => .done (guard, .error error)
    | .ok () => publish paths handle guard (.release guard.record) (guard.released nowMs)

inductive LeaseOperation where
  | renew (nowMs : U128)
  | release (nowMs : U128)

def LeaseOperation.run : LeaseOperation →
    Program (DurableRuntimeLeaseGuard × Except EvaError DurableRuntimeLeaseRecord)
  | renew nowMs => renewAt layout paths handle guard nowMs
  | release nowMs => releaseAt layout paths handle guard nowMs

def LeaseOperation.purpose (previous : DurableRuntimeLeaseRecord) : LeaseOperation → LeaseWrite
  | renew _ => .renew previous
  | release _ => .release previous

def serve : DurableRuntimeLeaseGuard → List LeaseOperation → Program DurableRuntimeLeaseGuard
  | guard, [] => .done guard
  | guard, operation :: operations =>
      (operation.run layout paths handle guard).bind fun (guard, _) => serve guard operations

/-- `None` stands for a clock that reads a time before the epoch. -/
def dropLease (nowMs : Option U128) : Program Unit :=
  (releaseAt layout paths handle guard (nowMs.getD guard.record.heartbeatAtMs)).bind fun _ =>
  .step (.call handle .dropGuard) fun () =>
  .step (.call handle .closeAnchor) fun () => .done ()

/-! ## Observers -/

structure DurableRuntimeLeaseProbe where
  record : Option DurableRuntimeLeaseRecord
  ownerLive : Bool
  expired : Bool

def observeRecord (ownerLive : Bool) (nowMs : U128) :
    Program (Except EvaError DurableRuntimeLeaseProbe) :=
  (readRuntimeLeaseRecord paths handle).map (·.map fun record =>
    { record
      ownerLive
      expired := record.any (·.isExpiredAt nowMs) })

def probeRuntimeLease (nowMs : U128) : Program (Except EvaError DurableRuntimeLeaseProbe) :=
  (Program.done (validateRuntimeLeasePaths paths)).andThen fun () =>
  (pathExists paths handle .anchor).andThen fun anchorExists =>
  (pathExists paths handle .lease).andThen fun leaseExists =>
  if anchorExists then
    (reporting (pathError (.internal "failed to open daemon lock anchor") paths.anchor)
      (ask handle .openAnchor)).andThen fun _ =>
    .step (.call handle .tryLockAnchor) fun
      | .failed ioError => .done (.error
          (pathError (.internal "failed to inspect daemon lock anchor") paths.anchor ioError))
      | .wouldBlock => observeRecord paths handle true nowMs
      | .locked =>
          ((validateRuntimeLeaseAnchor paths handle).andThen fun () =>
            observeRecord paths handle false nowMs).bind fun result =>
          .step (.call handle .closeAnchor) fun () => .done result
  else .done (if leaseExists then
      .error ((EvaError.conflict "daemon lease record exists without its fixed lock anchor")
        |>.withContext "anchor_path" paths.anchor
        |>.withContext "lease_path" paths.lease)
    else .ok { record := none, ownerLive := false, expired := false })

end Programs

end Eva.Storage.Durable
