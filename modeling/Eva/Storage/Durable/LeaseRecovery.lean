import Eva.Storage.Durable.LeaseObedience
import Eva.Foundation.Solo

/-! # Lease owners and failing writes

The record in memory follows the file only when a write succeeds, and a write can fail
after the file was replaced.
-/

namespace Eva.Storage.Durable

variable {layout : WriterLayout} {paths : LeasePaths} {handle : Handle}
  {guard : DurableRuntimeLeaseGuard} {state : State} {environment failing : Environment}

/-- The ownership files name the guard's writer, and the process lives. -/
structure Unfenced (handle : Handle) (guard : DurableRuntimeLeaseGuard) (state : State) :
    Prop where
  alive : handle.process ∉ state.dead
  generation : state.writer.generation = guard.writer.generation
  owner : state.writer.owner = some
    { ownerToken := guard.writer.ownerToken
      generation := guard.writer.generation
      processId := guard.writer.processId }

structure CurrentOwner (handle : Handle) (guard : DurableRuntimeLeaseGuard) (state : State) :
    Prop extends Unfenced handle guard state where
  active : guard.record.state = .active
  shown : Shows state.lease (some guard.record)

/-- Only the write of the lease meets failing surroundings. -/
def performFailing (failing : Environment) (state : State) (action : Action)
    (environment : Environment) : Option (State × action.Response) :=
  action.perform state (match action with
    | .call _ (.writeLease ..) => failing
    | _ => environment)

def LeaseOperation.next (guard : DurableRuntimeLeaseGuard)
    (active : guard.record.state = .active) :
    LeaseOperation → Except EvaError DurableRuntimeLeaseGuard
  | renew nowMs => guard.renewed active nowMs
  | release nowMs => .ok (guard.released nowMs)

/-! ## Verification -/

theorem conclude_quiet (quiet : Quiet handle program) (state : State) :
    program.conclude (performFailing failing) environment state =
      program.conclude Action.perform environment state := by
  induction program generalizing state with
  | done result => rfl
  | step action next induction =>
      cases action with
      | enter => cases quiet
      | call caller request =>
          have same : performFailing failing state (.call caller request) environment =
              Action.perform state (.call caller request) environment := by
            cases request with
            | writeLease => cases quiet.2.1
            | _ => rfl
          simp only [Program.conclude, same]
          split
          next => rfl
          next after response performed => exact induction response (quiet.2.2 response) after

/-- What the guard reports about a record that is not its own. -/
def recordReplaced (paths : LeasePaths) (guard : DurableRuntimeLeaseGuard)
    (current : DurableRuntimeLeaseRecord) : EvaError :=
  (EvaError.conflict "daemon lease record was replaced by another owner")
    |>.withContext "lease_path" paths.lease
    |>.withContext "expected_generation" guard.record.generation.text
    |>.withContext "actual_generation" current.generation.text

section

variable (fine : environment.ioError = none)
include fine

theorem answer_of_fine (value : Value) :
    environment.answer value = .ok value := by
  simp [Environment.answer, fine]

private theorem verifyCurrent_conclude
    (unfenced : Unfenced handle guard state) :
    (verifyCurrent layout handle guard.writer).conclude Action.perform environment state =
      some (state, .ok ()) := by
  simp [verifyCurrent, readWriterGeneration, reporting, ask, Program.andThen, Program.bind,
    Program.map, Program.conclude, Action.perform, Call.perform, unfenced.alive,
    unfenced.generation, unfenced.owner, answer_of_fine fine, Except.mapError, rejectIf,
    Except.bind]

private theorem readRuntimeLeaseRecord_conclude
    (alive : handle.process ∉ state.dead)
    (shown : Shows state.lease (some record)) :
    (readRuntimeLeaseRecord paths handle).conclude Action.perform environment state =
      some (state, .ok (some record)) := by
  cases found : state.lease with
  | none =>
      rw [found] at shown
      cases shown
  | some data =>
      rw [found] at shown
      have parsed : DurableRuntimeLeaseRecord.fromStorage data = .ok record := shown
      simp [readRuntimeLeaseRecord, reporting, ask, Program.andThen, Program.bind, Program.map,
        Program.conclude, Action.perform, Call.perform, alive, found, answer_of_fine fine,
        Except.mapError, parseRuntimeLeaseRecord, parsed, Except.map]

theorem verifyCurrentRecord_conclude
    (unfenced : Unfenced handle guard state) {record : DurableRuntimeLeaseRecord}
    (shown : Shows state.lease (some record)) :
    (verifyCurrentRecord layout paths handle guard).conclude Action.perform environment state =
      some (state, rejectIf (record ≠ guard.record) (recordReplaced paths guard record)) := by
  unfold verifyCurrentRecord
  rw [Program.andThen, Program.conclude_bind (verifyCurrent_conclude fine unfenced)]
  rw [Program.andThen,
    Program.conclude_bind (readRuntimeLeaseRecord_conclude fine unfenced.alive shown)]
  rfl

end

/-! ## Operations -/

private theorem run_of_active (active : guard.record.state = .active)
    {operation : LeaseOperation} :
    operation.run layout paths handle guard =
      (verifyCurrentRecord layout paths handle guard).bind fun
        | .error error => .done (guard, .error error)
        | .ok () =>
            match operation.next guard active with
            | .error error => .done (guard, .error error)
            | .ok next => publish paths handle guard (operation.purpose guard.record) next := by
  cases operation with
  | renew nowMs =>
      simp only [LeaseOperation.run, renewAt, active, dite_true]
      rfl
  | release nowMs =>
      have running : guard.record.state ≠ .released := by
        rw [active]
        simp
      simp only [LeaseOperation.run, releaseAt, running, if_false]
      rfl

private theorem publish_fails (fails : failing.ioError = some ioError)
    (alive : handle.process ∉ state.dead) :
    (publish paths handle guard purpose next).conclude (performFailing failing) environment
        state =
      some ({ state with
              lease := if failing.step = .syncDirectory then some next.record.toStorage
                else state.lease }, guard, .error (pathError
                  (.internal "failed to persist daemon lease record") paths.lease ioError)) := by
  simp [publish, writeRuntimeLeaseRecord, reporting, ask, Program.bind, Program.map,
    Program.conclude, performFailing, Action.perform, Call.perform, alive,
    Environment.atomicWrite, Environment.answer, fails, Except.mapError]

private theorem publish_succeeds
    (fine : environment.ioError = none) (alive : handle.process ∉ state.dead) :
    (publish paths handle guard purpose next).conclude Action.perform environment state =
      some ({ state with lease := some next.record.toStorage }, next, .ok next.record) := by
  simp [publish, writeRuntimeLeaseRecord, reporting, ask, Program.bind, Program.map,
    Program.conclude, Action.perform, Call.perform, alive, atomicWrite_of_fine fine,
    answer_of_fine fine, Except.mapError]

theorem operation_fails (current : CurrentOwner handle guard state)
    (fine : environment.ioError = none)
    (fails : failing.ioError = some ioError) {operation : LeaseOperation}
    (continued : operation.next guard current.active = .ok next) :
    (operation.run layout paths handle guard).conclude (performFailing failing) environment
        state =
      some ({ state with
              lease := if failing.step = .syncDirectory then some next.record.toStorage
                else state.lease }, guard, .error (pathError
                  (.internal "failed to persist daemon lease record") paths.lease ioError)) := by
  have verified : (verifyCurrentRecord layout paths handle guard).conclude
      (performFailing failing) environment state = some (state, .ok ()) := by
    rw [conclude_quiet verifyCurrentRecord_quiet,
      verifyCurrentRecord_conclude fine current.toUnfenced current.shown]
    simp [rejectIf]
  rw [run_of_active current.active, Program.conclude_bind verified]
  simp only [continued]
  exact publish_fails fails current.alive

theorem operation_succeeds_iff (unfenced : Unfenced handle guard state)
    (active : guard.record.state = .active) (fine : environment.ioError = none)
    (shown : Shows state.lease (some record))
    {operation : LeaseOperation}
    (continued : operation.next guard active = .ok next) :
    (∃ after, (operation.run layout paths handle guard).conclude Action.perform environment state =
      some (after, next, .ok next.record)) ↔ record = guard.record := by
  have verified := @verifyCurrentRecord_conclude layout paths _ _ _ _ fine unfenced _ shown
  by_cases same : record = guard.record
  · simp only [rejectIf, ne_eq, same, not_true_eq_false, if_false] at verified
    refine iff_of_true ⟨{ state with lease := some next.record.toStorage }, ?_⟩ same
    rw [run_of_active active, Program.conclude_bind verified]
    simp only [continued]
    exact publish_succeeds fine unfenced.alive
  · simp only [rejectIf, ne_eq, same, not_false_eq_true, if_true] at verified
    refine iff_of_false ?_ same
    rintro ⟨after, succeeded⟩
    rw [run_of_active active, Program.conclude_bind verified] at succeeded
    cases succeeded

/-! ## An owner -/

def exampleGuard : DurableRuntimeLeaseGuard where
  record :=
    { state := .active
      pid := 7
      processStartToken := "token"
      generation := 1
      heartbeatAtMs := 5
      expiresAtMs := 15 }
  ttlMs := 10
  writer := { ownerToken := "owner", generation := 1, processId := 7 }
  publishable := ⟨by decide, by decide, by decide, by decide⟩
  positive := by decide
  lasting _ := by decide

def exampleHandle : Handle := { number := 0, process := daemon }

def ownedState : State :=
  { freshState with
    writer :=
      { generation := 1
        owner := some { ownerToken := "owner", generation := 1, processId := 7 } }
    lease := some exampleGuard.record.toStorage }

def unsyncedEnvironment (step : AtomicWriteStep) : Environment :=
  { fineEnvironment with
    ioError := some "Input/output error (os error 5)"
    step }

theorem currentOwner_ownedState : CurrentOwner exampleHandle exampleGuard ownedState where
  alive := by decide
  generation := rfl
  owner := rfl
  active := rfl
  shown := DurableRuntimeLeaseRecord.fromStorage_toStorage exampleGuard.publishable

/-! ## Recovery -/

/-- The owner recovers from a failing write exactly when the file was not replaced by
another record: when the write failed before the directory was synced, or wrote what
the file already said. -/
theorem recovers_iff_not_replaced (current : CurrentOwner handle guard state)
    (fine : environment.ioError = none) {ioError : String}
    (fails : failing.ioError = some ioError) {attempt retry : LeaseOperation}
    {attempted retried : DurableRuntimeLeaseGuard}
    (attempts : attempt.next guard current.active = .ok attempted)
    (retries : retry.next guard current.active = .ok retried) :
    ∃ after failure,
      (attempt.run layout paths handle guard).conclude (performFailing failing) environment state =
        some (after, guard, .error failure) ∧
      ∀ later, later.writer = after.writer → later.lease = after.lease →
        handle.process ∉ later.dead →
        ((∃ final, (retry.run layout paths handle guard).conclude Action.perform environment
            later = some (final, retried, .ok retried.record)) ↔
          failing.step ≠ .syncDirectory ∨ attempted.record = guard.record) := by
  refine ⟨_, _, operation_fails current fine fails attempts, ?_⟩
  intro later writer lease alive
  have unfenced : Unfenced handle guard later :=
    ⟨alive, writer ▸ current.generation, writer ▸ current.owner⟩
  by_cases replaced : failing.step = .syncDirectory
  · have shown : Shows later.lease (some attempted.record) := by
      rw [lease]
      simp only [replaced, if_true]
      exact DurableRuntimeLeaseRecord.fromStorage_toStorage attempted.publishable
    simpa [replaced] using operation_succeeds_iff unfenced current.active fine shown retries
  · have shown : Shows later.lease (some guard.record) := by
      rw [lease]
      simp only [replaced, if_false]
      exact current.shown
    simpa [replaced] using operation_succeeds_iff unfenced current.active fine shown retries

/-- A release whose rename fails, and the one after it. -/
theorem recovers_from_failing_rename : ∃ after failure,
    ((LeaseOperation.release 6).run exampleLayout examplePaths exampleHandle
      exampleGuard).conclude (performFailing (unsyncedEnvironment .replace)) fineEnvironment
        ownedState = some (after, exampleGuard, .error failure) ∧
    ∀ later, later.writer = after.writer → later.lease = after.lease →
      exampleHandle.process ∉ later.dead →
      ((∃ final, ((LeaseOperation.release 7).run exampleLayout examplePaths exampleHandle
          exampleGuard).conclude Action.perform fineEnvironment later =
            some (final, exampleGuard.released 7, .ok (exampleGuard.released 7).record)) ↔
        (unsyncedEnvironment .replace).step ≠ .syncDirectory ∨
          (exampleGuard.released 6).record = exampleGuard.record) :=
  recovers_iff_not_replaced currentOwner_ownedState rfl rfl rfl rfl

/-- A renewal whose directory sync fails: from then on the live owner can neither renew
nor release its lease. -/
theorem owner_locked_out_by_own_renewal : CurrentOwner exampleHandle exampleGuard ownedState ∧
    ∃ after failure,
      ((LeaseOperation.renew 6).run exampleLayout examplePaths exampleHandle
        exampleGuard).conclude (performFailing (unsyncedEnvironment .syncDirectory))
          fineEnvironment ownedState = some (after, exampleGuard, .error failure) ∧
      ∀ retry : LeaseOperation, ∃ error,
        (retry.run exampleLayout examplePaths exampleHandle exampleGuard).conclude Action.perform
            fineEnvironment after = some (after, exampleGuard, .error error) ∧
          error.message = "daemon lease record was replaced by another owner" := by
  obtain ⟨renewed, renews⟩ : ∃ renewed, exampleGuard.renewed rfl 6 = .ok renewed := ⟨_, rfl⟩
  have later : renewed.record ≠ exampleGuard.record := by
    cases renews
    decide
  refine ⟨currentOwner_ownedState, _, _,
    operation_fails currentOwner_ownedState rfl rfl renews, fun retry => ?_⟩
  let replaced : State := { ownedState with lease := some renewed.record.toStorage }
  have unfenced : Unfenced exampleHandle exampleGuard replaced :=
    ⟨currentOwner_ownedState.alive, rfl, rfl⟩
  have shown : Shows replaced.lease (some renewed.record) :=
    DurableRuntimeLeaseRecord.fromStorage_toStorage renewed.publishable
  have rejected : (verifyCurrentRecord exampleLayout examplePaths exampleHandle
      exampleGuard).conclude Action.perform fineEnvironment replaced =
        some (replaced, .error (recordReplaced examplePaths exampleGuard renewed.record)) := by
    rw [verifyCurrentRecord_conclude rfl unfenced shown]
    simp only [rejectIf, later, ne_eq, not_false_eq_true, if_true]
  refine ⟨recordReplaced examplePaths exampleGuard renewed.record, ?_, rfl⟩
  rw [run_of_active rfl]
  exact Program.conclude_bind rejected

end Eva.Storage.Durable
