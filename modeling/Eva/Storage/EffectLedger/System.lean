import Eva.Storage.EffectLedger.Ledger
import Eva.Storage.TaskState.Operations

/-! # Stores and ledger together

Callers of any kind work on the task directory and the effect directory at the
same time. What else they do, outside of the two directories, is answered by the
surroundings.
-/

namespace Eva.Storage

/-- Requests that no directory of the runtime takes part in. -/
structure Outside where
  Request : Type
  Answer : Request → Type

inductive RuntimeAction (directory : TaskDirectory) (outside : Outside) where
  | store (action : StoreAction directory)
  | inspect (ledger : FileSystemEffectLedger directory) (operation : EffectOperationIdentity)
  | inspectForClaim (ledger : FileSystemEffectLedger directory)
      (taskStore : FileSystemTaskStateStore directory) (intent : EffectLedgerIntent)
  | prepareForClaim (ledger : FileSystemEffectLedger directory)
      (taskStore : FileSystemTaskStateStore directory) (intent : EffectLedgerIntent)
  | commitEffect (ledger : FileSystemEffectLedger directory) (intent : EffectLedgerIntent)
      (resultDigest : String) (resultSizeBytes : Usize) (committedAtMs : U128)
  | ask (request : outside.Request)

namespace RuntimeAction

variable {directory : TaskDirectory} {outside : Outside}

@[reducible] def Response : RuntimeAction directory outside → Type
  | store action => action.Response
  | inspect .. | inspectForClaim .. => Except EvaError (Option EffectLedgerRecord)
  | prepareForClaim .. => Except EvaError EffectPrepareOutcome
  | commitEffect .. => Except EvaError EffectLedgerRecord
  | ask request => outside.Answer request

end RuntimeAction

structure RuntimeEnvironment (outside : Outside) where
  store : StoreEnvironment
  clock : Except String U128
  answer : (request : outside.Request) → outside.Answer request

def RuntimeAction.perform {directory : TaskDirectory} {outside : Outside} {format : RecordFormat}
    (state : RuntimeFiles format) (action : RuntimeAction directory outside)
    (environment : RuntimeEnvironment outside) :
    Option (RuntimeFiles format × action.Response) :=
  let fault := environment.store.fault
  match action with
  | store action =>
      (action.perform state.tasks environment.store).map fun (tasks, response) =>
        ({ state with tasks }, response)
  | inspect ledger operation => (ledger.inspect state fault operation).map (state, ·)
  | inspectForClaim ledger taskStore intent =>
      (ledger.inspectForClaim state fault environment.clock taskStore intent).map (state, ·)
  | prepareForClaim ledger taskStore intent =>
      ledger.prepareForClaim state fault environment.clock taskStore intent
  | commitEffect ledger intent resultDigest resultSizeBytes committedAtMs =>
      ledger.commit state fault intent resultDigest resultSizeBytes committedAtMs
  | ask request => some (state, environment.answer request)

abbrev RuntimeProgram (directory : TaskDirectory) (outside : Outside) (Result : Type) :=
  Program (RuntimeAction directory outside) RuntimeAction.Response Result

def StoreProgram.embed {directory : TaskDirectory} {outside : Outside} {Result : Type} :
    StoreProgram directory Result → RuntimeProgram directory outside Result
  | .done result => .done result
  | .step action next => .step (.store action) fun response => embed (next response)

/-- Callers with programs of their own. -/
structure Callers (directory : TaskDirectory) (outside : Outside) where
  Label : Type
  Result : Type
  program : Label → RuntimeProgram directory outside Result

@[reducible] def Callers.interface {directory : TaskDirectory} {outside : Outside}
    (callers : Callers directory outside) : Interface where
  Action := RuntimeAction directory outside
  Response := RuntimeAction.Response
  Environment := RuntimeEnvironment outside
  Label := callers.Label
  Result := callers.Result
  program := callers.program

/-- Any number of callers over one pair of directories. A crash leaves the files and
releases the lock. -/
@[reducible] def runtime {directory : TaskDirectory} {outside : Outside}
    (callers : Callers directory outside) (format : RecordFormat) :
    System callers.interface where
  State := RuntimeFiles format
  perform := RuntimeAction.perform
  restart state := { state with tasks := { state.tasks with pendingLatest := none } }

end Eva.Storage
