import Eva.Storage.Durable.Calls

/-! # Writer guards and the transactions of the stores

Every store checks its guard against the ownership files before it changes a record.
The stores differ in the locks they take around that check.
-/

namespace Eva.Storage.Durable

section Acquisition

variable (layout : WriterLayout) (handle : Handle)

/-- A guard as it is acquired: by a process, and with a generation of its own. -/
structure AcquiredWriter extends DurableWriterGuard where
  owned : processId ≠ 0
  fenced : generation ≠ 0

def readWriterGeneration : Program (Except EvaError WriterGeneration) :=
  reporting (pathError (.internal "failed to read durable writer generation")
    layout.generationPath) (ask handle .readGeneration)

def ownerToken (generation : WriterGeneration) (nanos : U128) (counter : U64) : String :=
  "writer-" ++ handle.process.pid.text ++ "-" ++ generation.text ++ "-" ++ nanos.text ++ "-" ++
    counter.text

def checkInitialized (current : WriterGeneration) : Program (Except EvaError Unit) :=
  if current = 0 then
    (ask handle .ownerRecordExists).map fun initialized =>
      rejectIf (initialized = true)
        ((EvaError.conflict
            "durable writer generation is missing after ownership was initialized")
          |>.withContext "generation_path" layout.generationPath
          |>.withContext "owner_path" layout.ownerRecordPath)
  else .done (.ok ())

def persistOwnership (generation : WriterGeneration) (fenced : generation ≠ 0) :
    Program (Except EvaError AcquiredWriter) :=
  (reporting (pathError (.internal "failed to persist durable writer generation")
    layout.generationPath) (ask handle (.writeGeneration generation))).andThen fun () =>
  (ask handle .uniqueNumbers).bind fun (nanos, counter) =>
  let ownerToken := ownerToken handle generation nanos counter
  let processId := handle.process.pid
  (reporting (pathError (.internal "failed to persist runtime writer metadata")
    layout.ownerRecordPath)
      (ask handle (.writeOwner { ownerToken, generation, processId }))).andThen fun () =>
  let guard : AcquiredWriter :=
    { ownerToken, generation, processId, owned := handle.process.positive, fenced }
  .step (.call handle (.completeGuard guard.toDurableWriterGuard)) fun () => .done (.ok guard)

theorem checkedNext_ne_zero {current next : WriterGeneration}
    (advanced : current.checkedNext = .ok next) : next ≠ 0 := by
  simp only [WriterGeneration.checkedNext, orReject_eq_ok_iff,
    Unsigned.checkedAdd_eq_some_iff] at advanced
  exact Unsigned.ne_zero_of_value advanced

def acquireLocked : Program (Except EvaError AcquiredWriter) :=
  (reporting (pathError (.internal "failed to sync runtime writer lock anchor")
    layout.ownerPath) (ask handle (.io .syncOwnerLock))).andThen fun () =>
  (reporting (pathError (.internal "failed to sync runtime writer lock directory")
    layout.root) (ask handle (.io .syncRoot))).andThen fun () =>
  (readWriterGeneration layout handle).andThen fun current =>
  (checkInitialized layout handle current).andThen fun () =>
  match advanced : current.checkedNext with
  | .error error => .done (.error error)
  | .ok generation => persistOwnership layout handle generation (checkedNext_ne_zero advanced)

/-- A failure gives up the lock again. -/
def droppingWriter {Result : Type} (program : Program (Except EvaError Result)) :
    Program (Except EvaError Result) :=
  program.bind fun
    | .ok result => .done (.ok result)
    | .error error => .step (.call handle .dropGuard) fun () => .done (.error error)

def acquire : Program (Except EvaError AcquiredWriter) :=
  (reporting (pathError (.internal "failed to open durable runtime writer lock")
    layout.ownerPath) (ask handle (.io .openOwnerLock))).andThen fun () =>
  .step (.call handle .tryLockOwner) fun
    | .wouldBlock => .done (.error
        ((EvaError.conflict "durable runtime writer is already owned").withContext "path"
          layout.ownerPath))
    | .failed ioError => .done (.error
        (pathError (.internal "failed to acquire durable runtime writer lock") layout.ownerPath
          ioError))
    | .locked => droppingWriter handle (acquireLocked layout handle)

end Acquisition

section Transactions

variable (layout : WriterLayout) (handle : Handle) (guard : DurableWriterGuard)
  {Result : Type}

def verifyCurrent : Program (Except EvaError Unit) :=
  (readWriterGeneration layout handle).andThen fun current =>
  (Program.done (rejectIf (current ≠ guard.generation)
    ((EvaError.conflict "durable runtime writer generation is stale")
      |>.withContext "path" layout.ownerPath
      |>.withContext "expected" guard.generation.text
      |>.withContext "actual" current.text))).andThen fun () =>
  (reporting (pathError (.conflict "durable runtime writer owner metadata cannot be read")
    layout.ownerRecordPath) (ask handle .readOwner)).andThen fun owner =>
  .done (rejectIf (owner ≠
      { ownerToken := guard.ownerToken
        generation := guard.generation
        processId := guard.processId })
    ((EvaError.conflict "durable runtime writer owner record is stale or invalid")
      |>.withContext "path" layout.ownerRecordPath
      |>.withContext "expected_generation" guard.generation.text))

/-- The lock is freed again, whatever the operation ends with. -/
def underLock (lock : WaitingLock) (error : String → EvaError)
    (operation : Program (Except EvaError Result)) : Program (Except EvaError Result) :=
  (reporting error (ask handle (.lock lock))).andThen fun () =>
  operation.bind fun result => .step (.call handle (.unlock lock)) fun () => .done result

def withWriteLock (operation : WriterGeneration → Program (Except EvaError Result)) :
    Program (Except EvaError Result) :=
  underLock handle .writerProcess
    (fun _ => (EvaError.internal "durable runtime writer process lock is poisoned").withContext
      "path" layout.ownerPath)
    ((verifyCurrent layout handle guard).andThen fun () => operation guard.generation)

def withRecordLock (kind : RecordKind) (path : String)
    (operation : Program (Except EvaError Result)) : Program (Except EvaError Result) :=
  (reporting (pathError (.internal "failed to create durable record lock directory") path)
    (ask handle (.io .createLockDirectory))).andThen fun () =>
  (reporting (pathError (.internal "failed to open durable record lock") path)
    (ask handle (.io .openRecordLock))).andThen fun () =>
  underLock handle (.record kind path)
    (pathError (.internal "failed to acquire durable record lock") path) operation

abbrev RecordProgram (Result : Type) := Eva.Program RecordAction RecordAction.Response Result

/-- What a store does with its own records. -/
def RecordProgram.embed (kind : RecordKind) : RecordProgram Result → Program Result
  | .done result => .done result
  | .step action next => .step (.call handle (.record guard kind action)) fun response =>
      embed kind (next response)

/-- A change of one store, given the generation that it is made under. -/
structure StoreOperation where
  kind : RecordKind
  /-- The lock file of the record, or the directory. -/
  path : String
  body : WriterGeneration → RecordProgram (Except EvaError Unit)

namespace StoreOperation

variable (operation : StoreOperation)

def embedded (generation : WriterGeneration) : Program (Except EvaError Unit) :=
  RecordProgram.embed handle guard operation.kind (operation.body generation)

/-- Tasks and provider processes: the guard is checked again under the record lock. -/
def withWriterTransaction : Program (Except EvaError Unit) :=
  withWriteLock layout handle guard fun generation =>
    withRecordLock handle operation.kind operation.path
      ((verifyCurrent layout handle guard).andThen fun () =>
        operation.embedded handle guard generation)

/-- Effects and the event log. -/
def withMutation : Program (Except EvaError Unit) :=
  withWriteLock layout handle guard (operation.embedded handle guard)

/-- Dead letters have a lock of their own. -/
def withWriteTransaction : Program (Except EvaError Unit) :=
  underLock handle .deadLetterProcess
    (fun _ => (EvaError.internal "durable dead-letter process lock is poisoned").withContext
      "path" operation.path)
    ((verifyCurrent layout handle guard).andThen fun () =>
      operation.embedded handle guard guard.generation)

def transaction : Program (Except EvaError Unit) :=
  match operation.kind with
  | .task | .provider => operation.withWriterTransaction layout handle guard
  | .effect | .eventLog => operation.withMutation layout handle guard
  | .deadLetter => operation.withWriteTransaction layout handle guard

/-- The guard of `owner` is cloned for the operation, if it is still there. -/
def run (owner : Handle) : Program Unit :=
  .step (.call handle (.cloneGuard owner)) fun
    | none => .done ()
    | some guard => (operation.transaction layout handle guard).bind fun _ =>
        .step (.call handle .dropGuard) fun () => .done ()

end StoreOperation

end Transactions

end Eva.Storage.Durable
