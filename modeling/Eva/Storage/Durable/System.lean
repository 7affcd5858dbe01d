import Eva.Foundation.Discipline
import Eva.Storage.Durable.Lease

/-! # Processes that share a durable backend

Any number of processes acquire writers and leases, change records, look at the lease
and die. What each of their calls requires is stated once; that every program provides
it is the subject of the next file.
-/

namespace Eva.Storage.Durable

/-! ## The system -/

inductive Label where
  | writer (process : Process)
  | lease (process : Process) (mode : RuntimeLeaseAcquireMode) (nowMs ttlMs : U128)
      (operations : List LeaseOperation) (dropMs : Option U128)
  | operation (process : Process) (owner : Handle) (operation : StoreOperation)
  | probe (process : Process) (nowMs : U128)
  | kill (process : Process)

section Programs

variable (layout : WriterLayout) (paths : LeasePaths)

def holdWriter (handle : Handle) : Program Unit :=
  (acquire layout handle).bind fun
    | .error _ => .done ()
    | .ok _ => .step (.call handle .dropGuard) fun () => .done ()

/-- A launcher's token is checked first. -/
def acquireLease (handle : Handle) (mode : RuntimeLeaseAcquireMode) (nowMs ttlMs : U128) :
    Program (Except EvaError DurableRuntimeLeaseGuard) :=
  (Program.done (match mode.processStartToken with
    | some token => validateProcessStartToken token
    | none => .ok ())).andThen fun () => acquireInner layout paths handle mode nowMs ttlMs

def holdLease (handle : Handle) (mode : RuntimeLeaseAcquireMode) (nowMs ttlMs : U128)
    (operations : List LeaseOperation) (dropMs : Option U128) : Program Unit :=
  (acquireLease layout paths handle mode nowMs ttlMs).bind fun
    | .error _ => .done ()
    | .ok guard => (serve layout paths handle guard operations).bind fun guard =>
        dropLease layout paths handle guard dropMs

def Label.body (number : Nat) : Label → Program Unit
  | writer process => holdWriter layout ⟨number, process⟩
  | lease process mode nowMs ttlMs operations dropMs =>
      holdLease layout paths ⟨number, process⟩ mode nowMs ttlMs operations dropMs
  | operation process owner change => change.run layout ⟨number, process⟩ owner
  | probe process nowMs => (probeRuntimeLease paths ⟨number, process⟩ nowMs).map fun _ => ()
  | kill process => .step (.call ⟨number, process⟩ (.kill process)) fun () => .done ()

@[reducible] def interface : Interface where
  Action := Action
  Response := Action.Response
  Environment := Environment
  Label := Label
  Result := Unit
  program label := .step .enter fun number => label.body layout paths number

@[reducible] def system : Eva.System (interface layout paths) where
  State := State
  perform := Action.perform
  restart := State.restarted

end Programs

/-! ## What calls require -/

/-- The lock of the writer is held, and the guard is not complete yet. -/
def Locked (handle : Handle) (advanced : Option WriterGeneration) (state : State) : Prop :=
  state.tenure = some { handle, guard := none, holders := [handle.number], advanced }

/-- The guard is complete, held under the number, and current. -/
def Guarded (number : Nat) (guard : DurableWriterGuard) (state : State) : Prop :=
  ∃ tenure, state.tenure = some tenure ∧ tenure.guard = some guard ∧
    number ∈ tenure.holders ∧ state.writer.generation = guard.generation

/-- The lease file shows the record, or is missing. -/
def Shows : Option String → Option DurableRuntimeLeaseRecord → Prop
  | none, none => True
  | some data, some record => DurableRuntimeLeaseRecord.fromStorage data = .ok record
  | _, _ => False

/-- An active lease may be replaced when it has expired or is named exactly. -/
def MayTakeOver (mode : RuntimeLeaseAcquireMode) (nowMs : U128)
    (previous : DurableRuntimeLeaseRecord) : Prop :=
  previous.state = .active → previous.expiresAtMs ≤ nowMs ∨ mode = .failedStart previous.identity

structure Continues (previous next : DurableRuntimeLeaseRecord) : Prop where
  active : previous.state = .active
  identity : next.identity = previous.identity
  heartbeat : previous.heartbeatAtMs ≤ next.heartbeatAtMs
  expiry : next.state = .active → previous.expiresAtMs ≤ next.expiresAtMs

/-- What the file shows where a record is written for some purpose. -/
def LeaseWrite.Allows (next : DurableRuntimeLeaseRecord) (lease : Option String) :
    LeaseWrite → Prop
  | claim mode nowMs => next.state = .active ∧ ∃ previous, Shows lease previous ∧
      ∀ record, previous = some record →
        MayTakeOver mode nowMs record ∧ record.generation < next.generation
  | renew previous => Shows lease (some previous) ∧ next.state = .active ∧
      Continues previous next
  | release previous => Shows lease (some previous) ∧ next.state = .released ∧
      Continues previous next

def RecordAction.changes : RecordAction → Prop
  | read _ | load => False
  | write .. | remove _ => True

def Call.requires (handle : Handle) (state : State) : Call → Prop
  | writeGeneration generation => Locked handle none state ∧
      generation.value = state.writer.generation.value + 1
  | writeOwner owner => Locked handle (some owner.generation) state ∧
      owner.generation = state.writer.generation
  | completeGuard guard => Locked handle (some guard.generation) state ∧
      guard.generation = state.writer.generation
  | writeLease purpose next => state.anchorLock = some handle ∧ next.Publishable ∧
      purpose.Allows next state.lease
  | record guard _ action => action.changes → Guarded handle.number guard state
  | _ => True

def Action.requires (state : State) : Action → Prop
  | enter => True
  | call handle request => request.requires handle state

def Action.actor : Action → Option Nat
  | enter => none
  | call handle _ => some handle.number

/-! ## What calls do -/

def Call.Effect (handle : Handle) (before after : State) : Call → Prop
  | kill process => after = before.killed process
  | tryLockOwner => after = before ∨ before.tenure = none ∧ after =
      { before with
        tenure := some { handle, guard := none, holders := [handle.number], advanced := none } }
  | writeGeneration generation => after = before ∨ after =
      { before with
        writer := { before.writer with generation }
        tenure := before.tenure.map (·.advance handle generation) }
  | writeOwner owner => after = before ∨
      after = { before with writer := { before.writer with owner := some owner } }
  | completeGuard guard => after =
      { before with
        tenure := before.tenure.map fun tenure =>
          if tenure.handle = handle then { tenure with guard := some guard } else tenure }
  | cloneGuard _ => after = before ∨ ∃ tenure, before.tenure = some tenure ∧
      tenure.guard ≠ none ∧ after =
        { before with
          tenure := some { tenure with holders := handle.number :: tenure.holders } }
  | dropGuard => after = { before with tenure := before.tenure.bind (·.drop handle.number) }
  | linkAnchor => after = before ∨ after = { before with anchor := some anchorMarker }
  | tryLockAnchor => after = before ∨ before.anchorLock = none ∧
      after = { before with anchorLock := some handle }
  | writeLease _ next => after = before ∨ after = { before with lease := some next.toStorage }
  | closeAnchor => after =
      { before with
        anchorLock := if before.anchorLock = some handle then none else before.anchorLock }
  | lock _ | unlock _ => ∃ locks, after = { before with locks }
  | record _ _ action => after = before ∨
      action.changes ∧ ∃ records, after = { before with records }
  | _ => after = before

section Perform

variable {before after : State} {request : Call}

def Call.concernsTenure : Call → Bool
  | kill _ | tryLockOwner | writeGeneration _ | completeGuard _ | cloneGuard _ | dropGuard => true
  | _ => false

def Call.concernsAnchorLock : Call → Bool
  | kill _ | tryLockAnchor | closeAnchor => true
  | _ => false

/-- What a call leaves alone. -/
structure Call.Frame (request : Call) (before after : State) : Prop where
  handedOut : after.handedOut = before.handedOut
  dead : after.dead = before.dead ∨
    ∃ process, request = .kill process ∧ after.dead = process :: before.dead
  writer : after.writer = before.writer ∨ (∃ generation, request = .writeGeneration generation) ∨
    ∃ owner, request = .writeOwner owner
  tenure : after.tenure = before.tenure ∨ request.concernsTenure = true
  anchorLock : after.anchorLock = before.anchorLock ∨ request.concernsAnchorLock = true
  lease : after.lease = before.lease ∨ ∃ purpose next, request = .writeLease purpose next ∧
    after = { before with lease := some next.toStorage }
  records : after.records = before.records ∨
    ∃ guard kind action, request = .record guard kind action ∧ action.changes

theorem Call.Effect.frame (effect : request.Effect handle before after) :
    request.Frame before after := by
  have unchanged (same : after = before) : request.Frame before after := by
    subst same
    exact ⟨rfl, .inl rfl, .inl rfl, .inl rfl, .inl rfl, .inl rfl, .inl rfl⟩
  cases request with
  | kill process =>
      subst effect
      exact ⟨rfl, .inr ⟨process, rfl, rfl⟩, .inl rfl, .inr rfl, .inr rfl, .inl rfl, .inl rfl⟩
  | tryLockOwner =>
      rcases effect with same | ⟨-, rfl⟩
      · exact unchanged same
      · exact ⟨rfl, .inl rfl, .inl rfl, .inr rfl, .inl rfl, .inl rfl, .inl rfl⟩
  | tryLockAnchor =>
      rcases effect with same | ⟨-, rfl⟩
      · exact unchanged same
      · exact ⟨rfl, .inl rfl, .inl rfl, .inl rfl, .inr rfl, .inl rfl, .inl rfl⟩
  | writeGeneration generation =>
      rcases effect with same | rfl
      · exact unchanged same
      · exact ⟨rfl, .inl rfl, .inr (.inl ⟨generation, rfl⟩), .inr rfl, .inl rfl, .inl rfl,
          .inl rfl⟩
  | writeOwner owner =>
      rcases effect with same | rfl
      · exact unchanged same
      · exact ⟨rfl, .inl rfl, .inr (.inr ⟨owner, rfl⟩), .inl rfl, .inl rfl, .inl rfl, .inl rfl⟩
  | cloneGuard owner =>
      rcases effect with same | ⟨tenure, -, -, rfl⟩
      · exact unchanged same
      · exact ⟨rfl, .inl rfl, .inl rfl, .inr rfl, .inl rfl, .inl rfl, .inl rfl⟩
  | completeGuard | dropGuard =>
      subst effect
      exact ⟨rfl, .inl rfl, .inl rfl, .inr rfl, .inl rfl, .inl rfl, .inl rfl⟩
  | closeAnchor =>
      subst effect
      exact ⟨rfl, .inl rfl, .inl rfl, .inl rfl, .inr rfl, .inl rfl, .inl rfl⟩
  | linkAnchor =>
      rcases effect with same | rfl
      · exact unchanged same
      · exact ⟨rfl, .inl rfl, .inl rfl, .inl rfl, .inl rfl, .inl rfl, .inl rfl⟩
  | writeLease purpose next =>
      rcases effect with same | rfl
      · exact unchanged same
      · exact ⟨rfl, .inl rfl, .inl rfl, .inl rfl, .inl rfl, .inr ⟨purpose, next, rfl, rfl⟩,
          .inl rfl⟩
  | lock | unlock =>
      obtain ⟨locks, rfl⟩ := effect
      exact ⟨rfl, .inl rfl, .inl rfl, .inl rfl, .inl rfl, .inl rfl, .inl rfl⟩
  | record guard kind action =>
      rcases effect with same | ⟨changes, records, rfl⟩
      · exact unchanged same
      · exact ⟨rfl, .inl rfl, .inl rfl, .inl rfl, .inl rfl, .inl rfl,
          .inr ⟨guard, kind, action, rfl, changes⟩⟩
  | _ => exact unchanged effect

/-- Either nothing is replaced or everything is. -/
theorem atomicWrite_cases (environment : Environment) :
    (∀ {Content : Type} (old new : Content), environment.atomicWrite old new = old) ∨
      ∀ {Content : Type} (old new : Content), environment.atomicWrite old new = new := by
  by_cases replaced : environment.ioError = none ∨ environment.step = .syncDirectory
  · exact .inr fun _ _ => if_pos replaced
  · exact .inl fun _ _ => if_neg replaced

/-- Everything there is to know about what a call changes. -/
theorem Call.perform_effect
    (performed : request.perform handle before environment = some (after, response)) :
    request.Effect handle before after := by
  cases request with
  | tryLockOwner | tryLockAnchor =>
      simp only [Call.perform] at performed
      split at performed
      next =>
          cases performed
          exact .inl rfl
      next =>
          cases performed
          exact .inl rfl
      next _ free =>
          cases performed
          exact .inr ⟨free, rfl⟩
  | writeGeneration generation =>
      cases performed
      rcases atomicWrite_cases environment with kept | written
      · exact .inl (by rw [kept, kept])
      · exact .inr (by rw [written, written])
  | writeOwner owner =>
      cases performed
      rcases atomicWrite_cases environment with kept | written
      · exact .inl (by rw [kept])
      · exact .inr (by rw [written])
  | writeLease purpose next =>
      cases performed
      rcases atomicWrite_cases environment with kept | written
      · exact .inl (by rw [kept])
      · exact .inr (by rw [written])
  | cloneGuard owner =>
      simp only [Call.perform] at performed
      split at performed
      next tenure held =>
          split at performed
          next matching =>
              cases performed
              exact .inr ⟨tenure, held, matching.2.2, rfl⟩
          next =>
              cases performed
              exact .inl rfl
      next =>
          cases performed
          exact .inl rfl
  | pathExists file => cases file <;> (cases performed; rfl)
  | linkAnchor =>
      simp only [Call.perform] at performed
      split at performed
      next =>
          cases performed
          exact .inl rfl
      next =>
          split at performed
          next =>
              cases performed
              exact .inr rfl
          next =>
              cases performed
              exact .inl rfl
  | lock wanted =>
      simp only [Call.perform] at performed
      split at performed
      next =>
          cases performed
          exact ⟨before.locks, rfl⟩
      next => cases performed
      next =>
          cases performed
          exact ⟨_, rfl⟩
  | unlock held =>
      cases performed
      exact ⟨_, rfl⟩
  | record guard kind action =>
      cases action with
      | read | load =>
          cases performed
          exact .inl rfl
      | write name content =>
          cases performed
          exact .inr ⟨trivial, _, rfl⟩
      | remove name =>
          simp only [Call.perform, RecordAction.perform] at performed
          split at performed
          next =>
              cases performed
              exact .inl rfl
          next =>
              cases performed
              exact .inr ⟨trivial, _, rfl⟩
  | _ =>
      cases performed
      rfl

theorem perform_call (performed : (Action.call handle request).perform before environment =
      some (after, response)) :
    handle.process ∉ before.dead ∧ request.Effect handle before after := by
  simp only [Action.perform] at performed
  split at performed
  next => cases performed
  next alive => exact ⟨alive, Call.perform_effect performed⟩

end Perform

/-! ## A backend for examples -/

def exampleLayout : WriterLayout where
  root := "state"
  ownerPath := "state/writer.lock"
  ownerRecordPath := "state/writer.owner"
  generationPath := "state/writer.generation"

def examplePaths : LeasePaths where
  anchor := "run/daemon.lock"
  lease := "run/daemon.lease"
  anchorParent := some "run"
  leaseParent := some "run"

def freshState : State where
  handedOut := 0
  dead := []
  writer := { generation := 0, owner := none }
  tenure := none
  anchor := none
  anchorLock := none
  lease := none
  locks _ := none
  records _ _ := none

def fineEnvironment : Environment where
  ioError := none
  step := .create
  deadlinePassed := false
  nanos := 0
  counter := 0

def daemon : Process where
  number := 0
  pid := 7
  positive := by decide

end Eva.Storage.Durable
