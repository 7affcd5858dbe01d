import Eva.Storage.Provider.ProcessFormat
import Eva.Storage.StateStore

/-! # The table of provider processes

The record of a session lives in a file that is named by the digest of the session.
Earlier versions named it by the session itself, with every unusual character replaced;
such a file is still read, and removed after the first commit of its session.
-/

namespace Eva.Storage

open RecordFiles

/-! ## Changes of a record -/

def ensureImmutableIdentity (current candidate : ProviderProcessSnapshot) :
    Except EvaError Unit :=
  rejectIf (current.identity ≠ candidate.identity)
    ((EvaError.conflict "provider process immutable identity changed").withContext
      "session_id" candidate.sessionId)

def processVersion (current : Option ProviderProcessSnapshot) : StateVersion :=
  (current.map (·.recordVersion)).getD 0

def processVersionConflict (candidate : ProviderProcessSnapshot) (actual : StateVersion) :
    EvaError :=
  (EvaError.conflict "provider process record version conflict")
    |>.withContext "session_id" candidate.sessionId
    |>.withContext "expected" candidate.recordVersion.text
    |>.withContext "actual" actual.text

/-! ## In a directory -/

def snapshotFileName (sessionId : String) : String :=
  String.ofList (sha256Hex sessionId.toUTF8.data.toList ++ ".provider".toList)

attribute [irreducible] snapshotFileName

def legacySafeFileSegment (value : String) : List Char :=
  value.toList.map fun char =>
    if Text.isAsciiAlphanumeric char || char == '-' || char == '_' || char == '.' then char
    else '-'

def legacyFileName (sessionId : String) : String :=
  String.ofList (legacySafeFileSegment sessionId ++ ".provider".toList)

structure FileSystemProviderProcessTable where
  processDir : String
  writer : Option StateWriter

/-- What the surroundings decide about one call. -/
structure ProcessTableEnvironment where
  /-- The error of the directory, of the locks or of the check that the writer is the
  current one. -/
  lockError : Option EvaError
  readError : Option String
  write : WriteOutcome
  removeError : Option String

namespace FileSystemProviderProcessTable

variable (table : FileSystemProviderProcessTable) (files : Files)

def path (name : String) : String := recordPath table.processDir name

def readProviderSnapshot (readError : Option String) (name : String) :
    Except EvaError (Option ProviderProcessSnapshot) :=
  match readError, files.lookup name with
  | some ioError, _ => .error
      (pathError (.internal "failed to read provider process snapshot") (table.path name) ioError)
  | none, none => .ok none
  | none, some data => ((ProviderProcessSnapshot.fromStorage data).mapError
      (·.withContext "path" (table.path name))).map some

def checkSession (name sessionId : String) (snapshot : ProviderProcessSnapshot) :
    Except EvaError Unit :=
  rejectIf (snapshot.sessionId ≠ sessionId)
    ((EvaError.conflict "provider process snapshot key collision")
      |>.withContext "path" (table.path name)
      |>.withContext "expected_session_id" sessionId
      |>.withContext "actual_session_id" snapshot.sessionId)

def holds (name : String) : Bool := (files.lookup name).isSome

/-- A file with the earlier name counts only while the other one is missing. -/
def currentFileName (sessionId : String) : String :=
  if holds files (snapshotFileName sessionId) then snapshotFileName sessionId
  else if holds files (legacyFileName sessionId) then legacyFileName sessionId
  else snapshotFileName sessionId

def checkCurrent (candidate : ProviderProcessSnapshot) :
    Option ProviderProcessSnapshot → Except EvaError Unit
  | some current => do
      table.checkSession (currentFileName files candidate.sessionId) candidate.sessionId current
      rejectIf (candidate.ownerGeneration ≠ current.ownerGeneration)
        ((EvaError.conflict "provider process owner generation conflict")
          |>.withContext "session_id" candidate.sessionId
          |>.withContext "expected_generation" candidate.ownerGeneration.text
          |>.withContext "actual_generation" current.ownerGeneration.text)
      ensureImmutableIdentity current candidate
  | none =>
      rejectIf (candidate.ownerGeneration ≠ 0)
        ((EvaError.conflict
            "new provider process record cannot claim an existing owner generation")
          |>.withContext "session_id" candidate.sessionId
          |>.withContext "generation" candidate.ownerGeneration.text)

/-- The part of `compare_and_set` under the locks, before the file is replaced. -/
def nextSnapshot (readError : Option String) (generation : WriterGeneration)
    (candidate : ProviderProcessSnapshot) : Except EvaError ProviderProcessSnapshot := do
  let current ← table.readProviderSnapshot files readError
    (currentFileName files candidate.sessionId)
  let actual := processVersion current
  table.checkCurrent files candidate current
  rejectIf (actual ≠ candidate.recordVersion) (processVersionConflict candidate actual)
  let version ← actual.checkedNext
  let committed := { candidate with recordVersion := version, ownerGeneration := generation }
  committed.validateRecord true
  pure committed

def writerMissing : EvaError :=
  (EvaError.conflict "provider process mutation requires runtime writer ownership").withContext
    "path" table.processDir

def prepare (environment : ProcessTableEnvironment) (candidate : ProviderProcessSnapshot) :
    Except EvaError ProviderProcessSnapshot := do
  candidate.validateRecord false
  let writer ← orReject table.writerMissing table.writer
  match environment.lockError with
  | some error => .error error
  | none =>
      table.nextSnapshot files environment.readError writer.generation candidate

def persistError (committed : ProviderProcessSnapshot) : String → EvaError :=
  pathError ((EvaError.internal "failed to atomically write provider process snapshot").withContext
    "session_id" committed.sessionId) (table.path (snapshotFileName committed.sessionId))

/-- The file with the earlier name goes when the commit is written. -/
def removeLegacy (removeError : Option String) (sessionId : String) :
    Files × Except EvaError Unit :=
  let name := legacyFileName sessionId
  if name ≠ snapshotFileName sessionId ∧ holds files name then
    match removeError with
    | some ioError => (files, .error
        (pathError (.internal "failed to remove migrated provider process snapshot")
          (table.path name) ioError))
    | none => (erase name files, .ok ())
  else (files, .ok ())

def commit (environment : ProcessTableEnvironment) (committed : ProviderProcessSnapshot) :
    Files × Except EvaError ProviderProcessSnapshot :=
  let written := environment.write.files (snapshotFileName committed.sessionId)
    committed.toStorage files
  match environment.write.result (table.persistError committed) with
  | .error error => (written, .error error)
  | .ok () =>
      let (files, removed) :=
        table.removeLegacy written environment.removeError committed.sessionId
      (files, removed.map fun _ => committed)

def compareAndSet (environment : ProcessTableEnvironment)
    (candidate : ProviderProcessSnapshot) : Files × Except EvaError ProviderProcessSnapshot :=
  match table.prepare files environment candidate with
  | .error error => (files, .error error)
  | .ok committed => table.commit files environment committed

def read (readError : Option String) (sessionId : String) :
    Except EvaError ProviderProcessSnapshot := do
  rejectIf (Text.isBlank sessionId.toList)
    (.invalidArgument "provider process session id cannot be empty")
  let name := if holds files (snapshotFileName sessionId) then snapshotFileName sessionId
    else legacyFileName sessionId
  let snapshot ← table.readProviderSnapshot files readError name
  let snapshot ← orReject
    ((EvaError.notFound "provider process session does not exist").withContext
      "path" (table.path name)) snapshot
  table.checkSession name sessionId snapshot
  pure snapshot

end FileSystemProviderProcessTable

end Eva.Storage
