import Eva.Storage.Durable.Obedience

/-! # The programs of leases

A lease is written only under the lock of the anchor, over the record that was read
under it.
-/

namespace Eva.Storage.Durable

open Discipline

variable {layout : WriterLayout} {paths : LeasePaths} {handle : Handle}

/-! ## Reading the record -/

theorem parseRuntimeLeaseRecord_eq_ok_iff :
    parseRuntimeLeaseRecord paths data = .ok record ↔ Shows data record := by
  cases data with
  | none => cases record <;> simp [parseRuntimeLeaseRecord, Shows]
  | some data =>
      cases read : DurableRuntimeLeaseRecord.fromStorage data <;> cases record <;>
        simp [parseRuntimeLeaseRecord, Shows, read, Except.map, Except.mapError]

theorem shows_unique (left : Shows data first) (right : Shows data second) : first = second := by
  have parsed := (@parseRuntimeLeaseRecord_eq_ok_iff ⟨"", "", none, none⟩ data first).mpr left
  exact Except.ok.inj (parsed.symm.trans (parseRuntimeLeaseRecord_eq_ok_iff.mpr right))

theorem readRuntimeLeaseRecord_quiet : Quiet handle (readRuntimeLeaseRecord paths handle) :=
  (quiet_ask rfl).reporting.andThen fun _ => trivial

theorem readRuntimeLeaseRecord_provides :
    Provides layout paths handle (readRuntimeLeaseRecord paths handle)
      (Anchoring handle)
      (OnSuccess fun record => Showing handle (Shows · record)) := by
  have reads : Provides layout paths handle (ask handle .readLease)
      (Anchoring handle)
      (OnSuccess fun data => Showing handle (· = data)) := by
    refine provides_ask (stable_onSuccess fun _ => lasting_hasFile) ?_
    intro before environment after response given alive performed
    cases performed
    refine ⟨trivial, ?_⟩
    cases answered : environment.answer before.lease with
    | error error => trivial
    | ok data =>
        obtain ⟨-, rfl⟩ := answer_eq_ok answered
        exact fun _ => ⟨given alive, rfl⟩
  refine (provides_reporting reads).andThen fun data => provides_check ?_
  intro record parsed state given alive
  refine ⟨(given alive).1, ?_⟩
  rw [(given alive).2]
  exact parseRuntimeLeaseRecord_eq_ok_iff.mp parsed

/-! ## The anchor -/

theorem pathExists_quiet : Quiet handle (pathExists paths handle file) :=
  (quiet_ask rfl).reporting

theorem ensureParentDirectory_quiet :
    Quiet handle (ensureParentDirectory paths handle file) := by
  unfold ensureParentDirectory
  split
  next => trivial
  next => exact (quiet_ask rfl).reporting

theorem publishRuntimeLeaseAnchor_quiet :
    Quiet handle (publishRuntimeLeaseAnchor paths handle) := by
  have silent (step : IoStep) (error : String → EvaError) :
      Quiet handle (reporting error (ask handle (.io step))) :=
    (quiet_ask rfl).reporting
  unfold publishRuntimeLeaseAnchor
  split
  next => trivial
  next parent _ =>
      refine (silent .createStaging _).andThen fun _ => ?_
      refine (silent .initializeStaging _).andThen fun _ => ?_
      refine (quiet_ask rfl).reporting.andThen fun created => ?_
      have synced : Quiet handle
          (if created then
            reporting (pathError (.internal "failed to sync daemon lock anchor directory") parent)
              (ask handle (.io .syncAnchorDirectory))
            else .done (.ok ())) := by
        split
        next => exact silent .syncAnchorDirectory _
        next => trivial
      refine synced.andThen fun _ => ?_
      refine (silent .removeStaging _).andThen fun _ => ?_
      refine (silent .syncAnchorDirectory _).andThen fun _ => ?_
      exact (silent .reopenAnchor _).andThen fun _ => trivial

theorem openRuntimeLeaseAnchor_quiet : Quiet handle (openRuntimeLeaseAnchor paths handle) := by
  refine (quiet_ask rfl).reporting.andThen fun found => ?_
  cases found with
  | true => trivial
  | false => exact publishRuntimeLeaseAnchor_quiet

theorem validateRuntimeLeaseAnchor_quiet :
    Quiet handle (validateRuntimeLeaseAnchor paths handle) :=
  (quiet_ask rfl).reporting.andThen fun _ => trivial

theorem tryLockAnchor_provides :
    Provides layout paths handle (ask handle .tryLockAnchor) (fun _ => True) fun
      | .locked => Anchoring handle
      | _ => fun _ => True := by
  refine provides_ask (fun response => ?_) ?_
  · cases response with
    | locked => exact lasting_hasAnchor.stable
    | wouldBlock | failed => exact stable_true
  · intro before environment after response given alive performed
    refine ⟨trivial, ?_⟩
    simp only [Call.perform] at performed
    split at performed
    next =>
        cases performed
        trivial
    next =>
        cases performed
        trivial
    next =>
        cases performed
        exact fun _ => rfl

private theorem tryAnchor_provides :
    Provides layout paths handle (tryAnchor paths handle failedStart observedNowMs)
      (fun _ => True)
      (OnTurn (OnSuccess fun _ => Anchoring handle)
        fun _ => True) := by
  refine provides_step tryLockAnchor_provides fun response => ?_
  cases response with
  | locked => exact keeps_done fun _ given => given
  | failed ioError => exact keeps_done fun _ _ => trivial
  | wouldBlock =>
      refine (readRuntimeLeaseRecord_quiet.provides lasting_true).bind fun read => ?_
      cases read with
      | error error => exact keeps_done fun _ _ => trivial
      | ok record =>
          simp only
          split
          next =>
              refine provides_step (provides_quiet rfl lasting_true) fun passed => ?_
              cases passed with
              | true => exact keeps_done fun _ _ => trivial
              | false => exact keeps_done fun _ _ => trivial
          next => exact keeps_done fun _ _ => trivial

theorem closeAnchor_provides : Provides layout paths handle (ask handle .closeAnchor) holds
    fun _ _ => True :=
  provides_forgetting fun _ => trivial

theorem acquireRuntimeLeaseAnchor_provides :
    Provides layout paths handle
      (acquireRuntimeLeaseAnchor paths handle failedStart observedNowMs) (fun _ => True)
      (OnSuccess fun _ => Anchoring handle) := by
  refine (openRuntimeLeaseAnchor_quiet.succeeds lasting_true).andThen fun created => ?_
  refine (provides_quiet rfl lasting_true).bind fun marker => ?_
  refine keeps_check fun _ _ => ?_
  have looped : Provides layout paths handle
      (Program.repeatUntil (tryAnchor paths handle failedStart observedNowMs)
        (.error (ownerStillLive paths)) settleAttempts) (fun _ => True)
      (OnSuccess fun _ => Anchoring handle) := by
    refine Keeps.repeatUntil tryAnchor_provides ?_ settleAttempts
    intro state given
    exact given
  refine looped.andThen fun _ => provides_cleanup (fun _ => trivial) ?_
  refine (validateRuntimeLeaseAnchor_quiet.succeeds lasting_hasAnchor).andThen fun _ => ?_
  exact keeps_done fun _ given => given

/-! ## Acquisition -/

theorem mayTakeOver_of_checkPrevious
    (checked : checkPrevious paths mode nowMs previous = .ok result)
    (found : previous = some record) :
    MayTakeOver mode nowMs record := by
  subst found
  intro active
  cases mode with
  | failedStart expected =>
      simp only [checkPrevious, orReject, ok_bind, seq_eq_ok_iff, rejectIf_eq_ok_iff,
        not_not] at checked
      exact .inr (by rw [checked.2])
  | normal token =>
      refine .inl ?_
      by_contra running
      have kept : (some record).filter (fun record =>
          record.state = .active ∧ ¬record.isExpiredAt nowMs) = some record := by
        simp [DurableRuntimeLeaseRecord.isExpiredAt, active, running]
      simp only [checkPrevious, kept] at checked
      cases checked

theorem lt_of_checkAdvanced (checked : checkAdvanced paths previous generation = .ok result)
    (found : previous = some record) :
    record.generation < generation := by
  subst found
  simp only [checkAdvanced, rejectIf_eq_ok_iff, Unsigned.le_iff] at checked
  rw [Unsigned.lt_iff]
  omega

theorem claimed_eq_ok {guard : DurableRuntimeLeaseGuard}
    (claimed : DurableRuntimeLeaseGuard.claimed writer token nowMs ttlMs = .ok guard) :
    guard.record.state = .active ∧ guard.record.generation = writer.generation ∧
      guard.writer = writer.toDurableWriterGuard := by
  unfold DurableRuntimeLeaseGuard.claimed at claimed
  split at claimed
  next => cases claimed
  next record built =>
      cases claimed
      obtain ⟨-, -, -, rebuilt⟩ := activeFor_eq_ok built
      exact ⟨congrArg (·.state) rebuilt, congrArg (·.generation) rebuilt, rfl⟩

def Owning (handle : Handle) (guard : DurableRuntimeLeaseGuard) (state : State) : Prop :=
  Guarding handle guard.writer (some guard.writer.generation) state ∧ Anchoring handle state

private theorem lasting_guarded (guard : DurableRuntimeLeaseGuard) :
    Lasting layout paths handle.number
      (Guarding handle guard.writer (some guard.writer.generation)) := lasting_hasGuard

theorem lasting_owning {guard : DurableRuntimeLeaseGuard} :
    Lasting layout paths handle.number (Owning handle guard) :=
  lasting_hasGuard.and lasting_hasAnchor

theorem writeRuntimeLeaseRecord_provides (framed : Lasting layout paths handle.number frame)
    (beside : ∀ state lease, frame state → frame { state with lease })
    (publishable : next.Publishable)
    (allowed : ∀ lease, property lease → purpose.Allows next lease) :
    Provides layout paths handle (writeRuntimeLeaseRecord paths handle purpose next)
      (fun state => frame state ∧ Showing handle property state)
      fun _ state => frame state ∧ Anchoring handle state := by
  refine Keeps.bind (provides_ask (fun _ => (framed.and lasting_hasAnchor).stable) ?_)
    fun _ => keeps_done fun _ given => given
  intro before environment after response given alive performed
  obtain ⟨anchored, shown⟩ := given.2 alive
  cases performed
  exact ⟨⟨anchored, publishable, allowed _ shown⟩, beside before _ given.1, fun _ => anchored⟩

theorem claimAnchored_provides :
    Provides layout paths handle (claimAnchored layout paths handle mode nowMs ttlMs created)
      (Anchoring handle) (OnSuccess (Owning handle)) := by
  refine keeps_check fun _ _ => ?_
  have looked : Provides layout paths handle
      (if created then pathExists paths handle .lease else .done (.ok false))
      (Anchoring handle)
      (OnSuccess fun _ => Anchoring handle) := by
    split
    next => exact pathExists_quiet.succeeds lasting_hasAnchor
    next => exact keeps_done fun _ given => given
  refine looked.andThen fun appeared => keeps_check fun _ _ => ?_
  refine readRuntimeLeaseRecord_provides.andThen fun previous =>
    keeps_check fun _ replaceable => ?_
  refine (readWriterGeneration_quiet.succeeds lasting_hasFile).andThen fun persisted => ?_
  refine keeps_check fun _ _ => ?_
  have framed : Beside layout paths handle.number
      (Showing handle (Shows · previous)) :=
    { lasting_hasFile with beside := fun _ _ _ given => given }
  refine (acquire_provides framed).andThen fun writer => provides_cleanup (fun _ => trivial) ?_
  refine keeps_check fun _ advanced => keeps_check fun guard claimed => ?_
  obtain ⟨active, fenced, owned⟩ := claimed_eq_ok claimed
  have allowed : ∀ lease, Shows lease previous →
      (LeaseWrite.claim mode nowMs).Allows guard.record lease := by
    intro lease shown
    refine ⟨active, previous, shown, fun record found => ?_⟩
    rw [fenced]
    exact ⟨mayTakeOver_of_checkPrevious replaceable found, lt_of_checkAdvanced advanced found⟩
  have written : Provides layout paths handle
      (writeRuntimeLeaseRecord paths handle (.claim mode nowMs) guard.record)
      (fun state => Showing handle (Shows · previous) state ∧
        Guarding handle writer.toDurableWriterGuard (some writer.generation) state)
      (OnSuccess fun _ => Owning handle guard) := by
    refine (writeRuntimeLeaseRecord_provides (lasting_guarded guard) (fun _ _ given => given)
      guard.publishable allowed).onSuccess.weaken ?_ fun _ _ given => given
    intro state given
    exact ⟨by rw [owned]; exact given.2, given.1⟩
  refine written.andThen fun _ => ?_
  exact keeps_done fun _ given => given

theorem acquireInner_provides :
    Provides layout paths handle (acquireInner layout paths handle mode nowMs ttlMs)
      (fun _ => True) (OnSuccess (Owning handle)) := by
  refine keeps_check fun _ _ => keeps_check fun _ _ => ?_
  refine (pathExists_quiet.succeeds lasting_true).andThen fun anchorExisted => ?_
  refine (pathExists_quiet.succeeds lasting_true).andThen fun leaseExisted =>
    keeps_check fun _ _ => ?_
  refine (ensureParentDirectory_quiet.succeeds lasting_true).andThen fun _ => ?_
  refine (ensureParentDirectory_quiet.succeeds lasting_true).andThen fun _ => ?_
  refine acquireRuntimeLeaseAnchor_provides.andThen fun created => ?_
  exact provides_cleanup (fun _ => trivial) claimAnchored_provides

/-! ## The life of a guard -/

variable {guard : DurableRuntimeLeaseGuard}

theorem verifyCurrentRecord_quiet :
    Quiet handle (verifyCurrentRecord layout paths handle guard) := by
  refine (verifyCurrent_quiet guard.writer).andThen fun _ => ?_
  refine readRuntimeLeaseRecord_quiet.andThen fun current => ?_
  exact Quiet.andThen trivial fun _ => trivial

theorem verifyCurrentRecord_provides :
    Provides layout paths handle (verifyCurrentRecord layout paths handle guard)
      (Anchoring handle)
      (OnSuccess fun _ => Showing handle (Shows · (some guard.record))) := by
  refine ((verifyCurrent_quiet guard.writer).succeeds lasting_hasAnchor).andThen fun _ => ?_
  refine readRuntimeLeaseRecord_provides.andThen fun current =>
    keeps_check fun found present => provides_check ?_
  intro _ matching state given
  simp only [orReject_eq_ok_iff, rejectIf_eq_ok_iff, not_not] at present matching
  subst present matching
  exact given

private theorem owned_publish (same : next.writer = guard.writer)
    (allowed : ∀ lease, Shows lease (some guard.record) → purpose.Allows next.record lease) :
    Provides layout paths handle (publish paths handle guard purpose next)
      (fun state => Owning handle guard state ∧
        Showing handle (Shows · (some guard.record)) state)
      fun result => Owning handle result.1 := by
  have written : Provides layout paths handle
      (writeRuntimeLeaseRecord paths handle purpose next.record) _ _ :=
    writeRuntimeLeaseRecord_provides (lasting_guarded guard) (fun _ _ given => given)
      next.publishable allowed
  refine (written.weaken (fun _ given => ⟨given.1.1, given.2⟩) fun _ _ after => after).bind
    fun result => keeps_done fun state given => ?_
  cases result with
  | error error => exact given
  | ok result =>
      unfold Owning
      rw [same]
      exact given

theorem heartbeat_le_max (heartbeat nowMs : U128) :
    heartbeat ≤ (if heartbeat ≤ nowMs then nowMs else heartbeat) := by
  split
  next later => exact later
  next => exact Nat.le_refl _

theorem renewed_eq_ok (renewed : guard.renewed active nowMs = .ok next) :
    next.writer = guard.writer ∧ next.record.state = .active ∧
      Continues guard.record next.record := by
  unfold DurableRuntimeLeaseGuard.renewed at renewed
  extract_lets heartbeatAtMs at renewed
  split at renewed
  next => cases renewed
  next expiresAtMs lasts =>
      cases renewed
      have later : guard.record.heartbeatAtMs ≤ heartbeatAtMs :=
        heartbeat_le_max guard.record.heartbeatAtMs nowMs
      refine ⟨rfl, active, active, rfl, later, fun _ => ?_⟩
      have before := guard.lasting active
      have after := (leaseExpiry_eq_ok_iff.mp lasts).2
      rw [Unsigned.le_iff] at later ⊢
      simp only
      omega

private theorem verified_publish {next : Program (DurableRuntimeLeaseGuard ×
      Except EvaError DurableRuntimeLeaseRecord)}
    (published : Provides layout paths handle next
      (fun state => Owning handle guard state ∧
        Showing handle (Shows · (some guard.record)) state)
      fun result => Owning handle result.1) :
    Provides layout paths handle
      ((verifyCurrentRecord layout paths handle guard).bind fun
        | .error error => .done (guard, .error error)
        | .ok () => next) (Owning handle guard) fun result => Owning handle result.1 := by
  have both := (verifyCurrentRecord_quiet.provides
    (@lasting_owning layout paths handle guard)).and
      (@verifyCurrentRecord_provides layout paths handle guard)
  refine (both.weaken (fun _ given => ⟨given, given.2⟩) fun _ _ given => given).bind
    fun verified => ?_
  cases verified with
  | error error => exact keeps_done fun _ given => given.1
  | ok verified => exact published

theorem renewAt_provides :
    Provides layout paths handle (renewAt layout paths handle guard nowMs) (Owning handle guard)
      fun result => Owning handle result.1 := by
  unfold renewAt
  split
  next active =>
      refine verified_publish ?_
      split
      next => exact keeps_done fun _ given => given.1
      next next renewed =>
          obtain ⟨same, running, continues⟩ := renewed_eq_ok renewed
          exact owned_publish same fun lease shown => ⟨shown, running, continues⟩
  next => exact keeps_done fun _ given => given

theorem releaseAt_provides :
    Provides layout paths handle (releaseAt layout paths handle guard nowMs)
      (Owning handle guard) fun result => Owning handle result.1 := by
  unfold releaseAt
  split
  next => exact keeps_done fun _ given => given
  next running =>
      have active : guard.record.state = .active := by
        cases state : guard.record.state with
        | active => rfl
        | released => exact absurd state running
      have continues : Continues guard.record (guard.released nowMs).record :=
        ⟨active, rfl, heartbeat_le_max _ nowMs, nofun⟩
      exact verified_publish (owned_publish rfl fun lease shown => ⟨shown, rfl, continues⟩)

theorem serve_provides (operations : List LeaseOperation) (guard : DurableRuntimeLeaseGuard) :
    Provides layout paths handle (serve layout paths handle guard operations)
      (Owning handle guard) (Owning handle) := by
  induction operations generalizing guard with
  | nil => exact keeps_done fun _ given => given
  | cons operation operations induction =>
      have once : Provides layout paths handle (operation.run layout paths handle guard)
          (Owning handle guard) fun result => Owning handle result.1 := by
        cases operation with
        | renew nowMs => exact renewAt_provides
        | release nowMs => exact releaseAt_provides
      exact once.bind fun (next, _) => induction next

theorem dropLease_provides :
    Provides layout paths handle (dropLease layout paths handle guard nowMs)
      (Owning handle guard) fun _ _ => True := by
  refine releaseAt_provides.bind fun _ => provides_step dropGuard_provides fun _ => ?_
  exact provides_step closeAnchor_provides fun _ => keeps_done fun _ _ => trivial

theorem holdLease_provides :
    Provides layout paths handle
      (holdLease layout paths handle mode nowMs ttlMs operations dropMs) (fun _ => True)
      fun _ _ => True := by
  have acquired : Provides layout paths handle (acquireLease layout paths handle mode nowMs ttlMs)
      (fun _ => True) (OnSuccess (Owning handle)) :=
    keeps_check fun _ _ => acquireInner_provides
  refine acquired.bind fun result => ?_
  cases result with
  | error error => exact keeps_done fun _ _ => trivial
  | ok guard => exact (serve_provides operations guard).bind fun _ => dropLease_provides

theorem probeRuntimeLease_provides :
    Provides layout paths handle (probeRuntimeLease paths handle nowMs) (fun _ => True)
      (OnSuccess fun _ _ => True) := by
  have observed (ownerLive : Bool) : Quiet handle (observeRecord paths handle ownerLive nowMs) :=
    readRuntimeLeaseRecord_quiet.bind fun _ => trivial
  refine keeps_check fun _ _ => ?_
  refine (pathExists_quiet.succeeds lasting_true).andThen fun anchorExists => ?_
  refine (pathExists_quiet.succeeds lasting_true).andThen fun leaseExists => ?_
  split
  next =>
      refine ((quiet_ask rfl).reporting.succeeds lasting_true).andThen fun _ => ?_
      refine provides_step (provides_forgetting fun _ => trivial) fun response => ?_
      cases response with
      | failed ioError => exact keeps_done fun _ _ => trivial
      | wouldBlock => exact (observed true).succeeds lasting_true
      | locked =>
          have looked : Quiet handle ((validateRuntimeLeaseAnchor paths handle).andThen fun () =>
              observeRecord paths handle false nowMs) :=
            validateRuntimeLeaseAnchor_quiet.andThen fun _ => observed false
          refine (looked.provides lasting_true).bind fun result => ?_
          refine provides_step closeAnchor_provides fun _ => ?_
          exact provides_check fun _ _ _ _ => trivial
  next => exact provides_check fun _ _ _ _ => trivial

/-! ## Everyone -/

theorem obeys (label : Label) :
    (discipline layout paths).Obeys ((interface layout paths).program label) := by
  refine ⟨_, rfl, fun number => ?_⟩
  cases label with
  | writer process => exact @holdWriter_provides layout paths ⟨number, process⟩
  | lease process mode nowMs ttlMs operations dropMs =>
      exact @holdLease_provides layout paths ⟨number, process⟩ mode nowMs ttlMs operations dropMs
  | operation process owner change =>
      exact @operation_provides layout paths ⟨number, process⟩ change owner
  | probe process nowMs =>
      exact (@probeRuntimeLease_provides layout paths ⟨number, process⟩ nowMs).bind
        fun _ => keeps_done fun _ _ => trivial
  | kill process =>
      have killed : Provides layout paths ⟨number, process⟩
          (ask ⟨number, process⟩ (.kill process)) (fun _ => True) fun _ _ => True :=
        provides_forgetting fun _ => trivial
      exact provides_step killed fun _ => keeps_done fun _ _ => trivial

end Eva.Storage.Durable
