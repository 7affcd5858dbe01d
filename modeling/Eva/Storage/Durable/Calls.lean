import Eva.Foundation.System
import Eva.Storage.Durable.LeaseRecord

/-! # Processes over the files of a durable backend

Several processes call into the operating system, one call at a time. A process can be
killed between any two of its calls; the locks that it held are then free. A restart of
the machine ends every process.
-/

namespace Eva.Storage.Durable

/-- One run of a process. The process id may be used again by a later one. -/
structure Process where
  number : Nat
  pid : U32
  positive : pid ≠ 0
deriving DecidableEq

/-- Who acts: the holder of locks and of guards. -/
structure Handle where
  number : Nat
  process : Process
deriving DecidableEq

/-! ## What the surroundings decide -/

inductive AtomicWriteStep where
  | create
  | write
  | flush
  | sync
  | replace
  | syncDirectory
deriving DecidableEq

structure Environment where
  /-- The error of the call, when it fails. -/
  ioError : Option String
  /-- Where an atomic write fails. -/
  step : AtomicWriteStep
  deadlinePassed : Bool
  nanos : U128
  counter : U64

def Environment.answer {Value : Type} (environment : Environment) (value : Value) :
    Except String Value :=
  match environment.ioError with
  | some ioError => .error ioError
  | none => .ok value

/-- `atomic_write`: only the last step comes after the replacement. -/
def Environment.atomicWrite {Content : Type} (environment : Environment) (old new : Content) :
    Content :=
  if environment.ioError = none ∨ environment.step = .syncDirectory then new else old

/-! ## State -/

inductive RecordKind where
  | task
  | effect
  | eventLog
  | deadLetter
  | provider
deriving DecidableEq

/-- The lock of the runtime writer. -/
structure WriterTenure where
  handle : Handle
  /-- The guard, once it is complete. -/
  guard : Option DurableWriterGuard
  /-- Those that hold the guard or a clone of it; the lock is freed with the last one. -/
  holders : List Nat
  /-- The generation that was written under the lock. No call looks at it. -/
  advanced : Option WriterGeneration

inductive WaitingLock where
  | writerProcess
  | deadLetterProcess
  | record (kind : RecordKind) (name : String)
deriving DecidableEq

structure State where
  handedOut : Nat
  dead : List Process
  writer : WriterFiles
  tenure : Option WriterTenure
  anchor : Option String
  anchorLock : Option Handle
  lease : Option String
  locks : WaitingLock → Option Handle
  records : RecordKind → String → Option String

def WriterTenure.drop (tenure : WriterTenure) (number : Nat) : Option WriterTenure :=
  let holders := tenure.holders.filter (· ≠ number)
  if holders = [] then none else some { tenure with holders }

def WriterTenure.advance (tenure : WriterTenure) (handle : Handle)
    (generation : WriterGeneration) : WriterTenure :=
  if tenure.handle = handle then { tenure with advanced := some generation } else tenure

def State.killed (state : State) (process : Process) : State :=
  { state with
    dead := process :: state.dead
    tenure := state.tenure.filter fun tenure => tenure.handle.process ≠ process
    anchorLock := state.anchorLock.filter fun handle => handle.process ≠ process
    locks := fun lock => (state.locks lock).filter fun handle => handle.process ≠ process }

def State.restarted (state : State) : State :=
  { state with tenure := none, anchorLock := none, locks := fun _ => none }

/-! ## Calls -/

inductive RuntimeLeaseAcquireMode where
  | normal (processStartToken : Option String)
  | failedStart (expected : DurableRuntimeLeaseIdentity)
deriving DecidableEq

/-- What a lease record is written for. -/
inductive LeaseWrite where
  | claim (mode : RuntimeLeaseAcquireMode) (nowMs : U128)
  | renew (previous : DurableRuntimeLeaseRecord)
  | release (previous : DurableRuntimeLeaseRecord)

inductive LeaseFile where
  | anchor
  | lease

/-- Calls that leave nothing behind for the others. -/
inductive IoStep where
  | openOwnerLock
  | syncOwnerLock
  | syncRoot
  | createLockDirectory
  | openRecordLock
  | createParent (file : LeaseFile)
  | createStaging
  | initializeStaging
  | syncAnchorDirectory
  | removeStaging
  | reopenAnchor

inductive LockAttempt where
  | locked
  | wouldBlock
  | failed (ioError : String)

inductive RecordAction where
  | read (name : String)
  | load
  | write (name content : String)
  | remove (name : String)

@[reducible] def RecordAction.Response : RecordAction → Type
  | read _ => Except String (Option String)
  | load => Except String (String → Option String)
  | write .. | remove _ => Except String Unit

inductive Call where
  | kill (process : Process)
  | io (step : IoStep)
  | tryLockOwner
  | readGeneration
  | ownerRecordExists
  | writeGeneration (generation : WriterGeneration)
  | uniqueNumbers
  | readOwner
  | writeOwner (record : OwnerRecord)
  | completeGuard (guard : DurableWriterGuard)
  | cloneGuard (owner : Handle)
  | dropGuard
  | pathExists (file : LeaseFile)
  | openAnchor
  | linkAnchor
  | readAnchor
  | tryLockAnchor
  | deadlinePassed
  | readLease
  | writeLease (purpose : LeaseWrite) (record : DurableRuntimeLeaseRecord)
  | closeAnchor
  | lock (lock : WaitingLock)
  | unlock (lock : WaitingLock)
  | record (guard : DurableWriterGuard) (kind : RecordKind) (action : RecordAction)

@[reducible] def Call.Response : Call → Type
  | kill _ | completeGuard _ | dropGuard | closeAnchor | unlock _ => Unit
  | io _ | writeGeneration _ | writeOwner _ | writeLease .. | lock _ => Except String Unit
  | tryLockOwner | tryLockAnchor => LockAttempt
  | readGeneration => Except String WriterGeneration
  | ownerRecordExists | deadlinePassed => Bool
  | uniqueNumbers => U128 × U64
  | readOwner => Except String OwnerRecord
  | cloneGuard _ => Option DurableWriterGuard
  | pathExists _ | openAnchor | linkAnchor => Except String Bool
  | readAnchor => Except String String
  | readLease => Except String (Option String)
  | record _ _ action => action.Response

def anchorMarker : String := "format=eva.daemon-lock-anchor.v1\n"

def notFound : String := "No such file or directory (os error 2)"

def RecordAction.perform (state : State) (kind : RecordKind) (environment : Environment) :
    (action : RecordAction) → State × action.Response
  | read name => (state, environment.answer (state.records kind name))
  | load => (state, environment.answer (state.records kind))
  | write name content =>
      ({ state with
          records := Function.update state.records kind
            (Function.update (state.records kind) name
              (environment.atomicWrite (state.records kind name) (some content))) },
        environment.answer ())
  | remove name =>
      match environment.ioError with
      | some ioError => (state, .error ioError)
      | none =>
          ({ state with
              records := Function.update state.records kind
                (Function.update (state.records kind) name none) },
            .ok ())

/-- `none` while the call has to wait. -/
def Call.perform (handle : Handle) (state : State) (environment : Environment) :
    (call : Call) → Option (State × call.Response)
  | kill process => some (state.killed process, ())
  | io _ => some (state, environment.answer ())
  | tryLockOwner =>
      match environment.ioError, state.tenure with
      | some ioError, _ => some (state, .failed ioError)
      | none, some _ => some (state, .wouldBlock)
      | none, none =>
          some ({ state with
            tenure := some
              { handle, guard := none, holders := [handle.number], advanced := none } }, .locked)
  | readGeneration => some (state, environment.answer state.writer.generation)
  | ownerRecordExists => some (state, environment.ioError = none ∧ state.writer.owner ≠ none)
  | writeGeneration generation =>
      some ({ state with
          writer := environment.atomicWrite state.writer { state.writer with generation }
          tenure := environment.atomicWrite state.tenure
            (state.tenure.map (·.advance handle generation)) },
        environment.answer ())
  | uniqueNumbers => some (state, (environment.nanos, environment.counter))
  | readOwner => some (state, (environment.answer state.writer.owner).bind fun
      | some owner => .ok owner
      | none => .error notFound)
  | writeOwner owner =>
      some ({ state with
          writer := environment.atomicWrite state.writer { state.writer with owner := some owner } },
        environment.answer ())
  | completeGuard guard =>
      some ({ state with
          tenure := state.tenure.map fun tenure =>
            if tenure.handle = handle then { tenure with guard := some guard } else tenure },
        ())
  | cloneGuard owner =>
      match state.tenure with
      | some tenure =>
          if tenure.handle = owner ∧ owner.process = handle.process ∧ tenure.guard ≠ none then
            some ({ state with
              tenure := some { tenure with holders := handle.number :: tenure.holders } },
              tenure.guard)
          else some (state, none)
      | none => some (state, none)
  | dropGuard =>
      some ({ state with tenure := state.tenure.bind (·.drop handle.number) }, ())
  | pathExists .anchor => some (state, environment.answer state.anchor.isSome)
  | pathExists .lease => some (state, environment.answer state.lease.isSome)
  | openAnchor => some (state, environment.answer state.anchor.isSome)
  | linkAnchor =>
      match environment.ioError with
      | some ioError => some (state, .error ioError)
      | none =>
          if state.anchor = none then
            some ({ state with anchor := some anchorMarker }, .ok true)
          else some (state, .ok false)
  | readAnchor => some (state, environment.answer (state.anchor.getD ""))
  | tryLockAnchor =>
      match environment.ioError, state.anchorLock with
      | some ioError, _ => some (state, .failed ioError)
      | none, some _ => some (state, .wouldBlock)
      | none, none => some ({ state with anchorLock := some handle }, .locked)
  | deadlinePassed => some (state, environment.deadlinePassed)
  | readLease => some (state, environment.answer state.lease)
  | writeLease _ next =>
      some ({ state with lease := environment.atomicWrite state.lease (some next.toStorage) },
        environment.answer ())
  | closeAnchor =>
      some ({ state with
          anchorLock := if state.anchorLock = some handle then none else state.anchorLock },
        ())
  | lock wanted =>
      match environment.ioError, state.locks wanted with
      | some ioError, _ => some (state, .error ioError)
      | none, some _ => none
      | none, none =>
          some ({ state with locks := Function.update state.locks wanted (some handle) }, .ok ())
  | unlock held =>
      some ({ state with
          locks := if state.locks held = some handle then Function.update state.locks held none
            else state.locks },
        ())
  | record _ kind action => some (action.perform state kind environment)

inductive Action where
  | enter
  | call (handle : Handle) (call : Call)

@[reducible] def Action.Response : Action → Type
  | enter => Nat
  | call _ request => request.Response

/-- A process that was killed makes no more calls. -/
def Action.perform (state : State) (action : Action) (environment : Environment) :
    Option (State × action.Response) :=
  match action with
  | enter => some ({ state with handedOut := state.handedOut + 1 }, state.handedOut)
  | call handle request =>
      if handle.process ∈ state.dead then none else request.perform handle state environment

abbrev Program (Result : Type) := Eva.Program Action Action.Response Result

def ask (handle : Handle) (call : Call) : Program call.Response :=
  .step (.call handle call) fun response => .done response

def reporting {Result : Type} (error : String → EvaError) (program : Program (Except String Result)) :
    Program (Except EvaError Result) :=
  program.map (·.mapError error)

end Eva.Storage.Durable
