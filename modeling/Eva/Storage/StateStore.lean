import Eva.Foundation.RecordFiles
import Eva.Storage.EventFields
import Eva.Storage.Writer

/-! # The state store

Values are kept under keys, with a version that grows with every write. One store is
kept in memory; the other one is a directory with a file for each key, named by the
digest of the key. A handle of the directory holds nothing but its writer.
-/

namespace Eva.Storage

open RecordFiles
open Fields (FieldMap)

/-! ## Both stores -/

structure StateRecord where
  key : String
  value : String
  version : StateVersion
  ownerGeneration : WriterGeneration
deriving DecidableEq

def stateVersionConflict (key : String) (expected actual : StateVersion) : EvaError :=
  (((EvaError.conflict "state version conflict").withContext "key" key).withContext
    "expected" expected.text).withContext "actual" actual.text

def currentVersion (current : Option StateRecord) : StateVersion :=
  (current.map (·.version)).getD 0

/-! ## In memory -/

abbrev InMemoryStateStore := String → Option StateRecord

namespace InMemoryStateStore

def new : InMemoryStateStore := fun _ => none

/-- The version panics at the end of its range. -/
def put (store : InMemoryStateStore) (key value : String) :
    Fallible EvaError (InMemoryStateStore × StateRecord) := do
  let version ← match store key with
    | some record => orPanic (record.version.checkedAdd 1)
    | none => pure 1
  let record : StateRecord := { key, value, version, ownerGeneration := 0 }
  pure (Function.update store key (some record), record)

def compareAndSet (store : InMemoryStateStore) (key : String) (expected : StateVersion)
    (value : String) : Fallible EvaError (InMemoryStateStore × StateRecord) := do
  let actual := currentVersion (store key)
  fallible (rejectIf (actual ≠ expected) (stateVersionConflict key expected actual))
  store.put key value

end InMemoryStateStore

/-! ## The file of a record -/

def stateRecordFormat : String := "eva.state-record.v1"

def StateRecord.fields (record : StateRecord) : FieldMap :=
  [("format", stateRecordFormat),
    ("record_version", record.version.text),
    ("owner_generation", record.ownerGeneration.text),
    ("key_hex", encodedString record.key),
    ("value_hex", encodedString record.value)]

def stateRecordToStorage (record : StateRecord) : String := Fields.render record.fields

def stateFieldRepeated (field : String) : EvaError :=
  fieldError "durable state record contains a duplicate or empty field" field

def stateRules : Fields.Rules EvaError where
  skips line := line = []
  malformed := .conflict "durable state record is invalid"
  checkName name := rejectIf (name = "") (stateFieldRepeated name)
  repeated name := .error (stateFieldRepeated name)

def requiredStateField (fields : FieldMap) (field : String) : Except EvaError String :=
  orReject (fieldError "durable state record is incomplete" field) (fields.lookup field)

def parsePositiveU64 (value field : String) : Except EvaError U64 := do
  let parsed ← orReject
    ((fieldError "durable state record field is invalid" field).withContext "value" value)
    (Text.parseUnsigned 64 value.toList)
  rejectIf (parsed = 0)
    (fieldError "durable state record version fields must be positive" field)
  pure parsed

def validateStateKey (key : String) : Except EvaError Unit :=
  rejectIf (key = "") (.invalidArgument "state key cannot be empty")

def decodeUtf8Hex (value field : String) : Except EvaError String := do
  rejectIf (value.utf8ByteSize % 2 ≠ 0)
    (fieldError "durable state hex field has odd length" field)
  rejectIf (¬value.toList.all Text.isHexDigit)
    (fieldError "durable state hex field is invalid" field)
  orReject (fieldError "durable state hex field is not UTF-8" field)
    (String.fromUTF8? ⟨(Text.readHexPairs value.toList).toArray⟩)

def stateRecordFromFields (fields : FieldMap) : Except EvaError StateRecord := do
  rejectIf (fields.length ≠ 5 ∨ fields.lookup "format" ≠ some stateRecordFormat)
    (.conflict "durable state record format or fields are unsupported")
  let versionText ← requiredStateField fields "record_version"
  let version ← parsePositiveU64 versionText "record_version"
  let ownerText ← requiredStateField fields "owner_generation"
  let ownerGeneration ← parsePositiveU64 ownerText "owner_generation"
  let keyText ← requiredStateField fields "key_hex"
  let key ← decodeUtf8Hex keyText "key_hex"
  validateStateKey key
  let valueText ← requiredStateField fields "value_hex"
  let value ← decodeUtf8Hex valueText "value_hex"
  pure { key, value, version, ownerGeneration }

def parseStateRecord (data : String) : Except EvaError StateRecord :=
  stateRules.parse data >>= stateRecordFromFields

/-! ## In a directory -/

/-- A writer has a generation once it was acquired. -/
structure StateWriter where
  generation : WriterGeneration
  acquired : generation ≠ 0

/-- A handle of the directory. That its writer is still the current one is left to
`lockError`, so here a handle of an earlier writer may also write without an error, which the
guard of the source excludes. -/
structure FileSystemStateStore where
  root : String
  stateDir : String
  writer : Option StateWriter

/-- What the surroundings decide about one call. -/
structure StateEnvironment where
  /-- The error of the locks or of the check that the writer is the current one. -/
  lockError : Option EvaError
  readError : Option String
  write : WriteOutcome

def stateFileName (key : String) : String :=
  String.ofList (sha256Hex key.toUTF8.data.toList) ++ ".state"

namespace FileSystemStateStore

variable (store : FileSystemStateStore) (environment : StateEnvironment) (files : Files)

def recordPath (key : String) : String := Storage.recordPath store.stateDir (stateFileName key)

def readStateRecord (key : String) : Except EvaError (Option StateRecord) :=
  match environment.readError, files.lookup (stateFileName key) with
  | some ioError, _ => .error
      (pathError (.internal "failed to read durable state record") (store.recordPath key) ioError)
  | none, none => .ok none
  | none, some data => ((parseStateRecord data).mapError
      (·.withContext "path" (store.recordPath key))).map some

def checkKey (key : String) (current : Option StateRecord) : Except EvaError Unit :=
  match current with
  | none => pure ()
  | some record => rejectIf (record.key ≠ key)
      ((((EvaError.conflict "durable state key digest collision").withContext
        "path" (store.recordPath key)).withContext "expected_key" key).withContext
        "actual_key" record.key)

def get (key : String) : Except EvaError (Option StateRecord) := do
  validateStateKey key
  let record ← store.readStateRecord environment files key
  store.checkKey key record
  pure record

/-- The part of `compare_and_set` under the locks, before the file is replaced. -/
def nextRecord (generation : WriterGeneration) (key : String) (expected : StateVersion)
    (value : String) : Except EvaError StateRecord := do
  let current ← store.readStateRecord environment files key
  store.checkKey key current
  let actual := currentVersion current
  rejectIf (actual ≠ expected) (stateVersionConflict key expected actual)
  let version ← actual.checkedNext
  pure { key, value, version, ownerGeneration := generation }

def writerMissing : EvaError :=
  (EvaError.conflict "durable state mutation requires runtime writer ownership").withContext
    "root" store.root

def acquireWriter (key : String) : Except EvaError StateWriter := do
  validateStateKey key
  let writer ← orReject store.writerMissing store.writer
  match environment.lockError with
  | some error => .error error
  | none => pure writer

def persistError (key : String) : String → EvaError :=
  pathError (.internal "failed to atomically write durable state record") (store.recordPath key)

def compareAndSet (key : String) (expected : StateVersion) (value : String) :
    Files × Except EvaError StateRecord :=
  match store.acquireWriter environment key >>= fun writer =>
      store.nextRecord environment files writer.generation key expected value with
  | .error error => (files, .error error)
  | .ok record =>
      (environment.write.files (stateFileName key) (stateRecordToStorage record) files,
        (environment.write.result (store.persistError key)).map fun _ => record)

end FileSystemStateStore

/-! ## Records read back -/

open Text

theorem decodeUtf8Hex_encodedString (value field : String) :
    decodeUtf8Hex (encodedString value) field = .ok value := by
  unfold decodeUtf8Hex encodedString
  simp only [hexEncode_even, hexEncode_digits, readHexPairs_hexEncode, Text.fromUTF8?_toUTF8]
  rfl

theorem parsePositiveU64_text (positive : number ≠ 0) (field : String) :
    parsePositiveU64 number.text field = .ok number := by
  simp [parsePositiveU64, orReject, rejectIf, positive]

/-- What every record of the directory satisfies. -/
structure StateRecord.Valid (record : StateRecord) : Prop where
  named : record.key ≠ ""
  written : record.version ≠ 0
  owned : record.ownerGeneration ≠ 0

def stateFieldNames : List String :=
  ["format", "record_version", "owner_generation", "key_hex", "value_hex"]

private theorem writable_stateFields (record : StateRecord) :
    Fields.Writable stateRules record.fields := by
  refine .of_names stateFieldNames rfl (by decide) (by decide)
    (by simp [stateRules, Fields.line]) ?_
  have format : Plain stateRecordFormat.toList := ⟨by decide, by decide⟩
  simp only [StateRecord.fields, List.mem_cons, List.not_mem_nil, or_false, forall_eq_or_imp,
    forall_eq]
  exact ⟨format, plain_text _, plain_text _, plain_encodedString _, plain_encodedString _⟩

theorem parseStateRecord_stateRecordToStorage (valid : record.Valid) :
    parseStateRecord (stateRecordToStorage record) = .ok record := by
  have writable := writable_stateFields record
  have found : ∀ field ∈ record.fields, record.fields.reverse.lookup field.1 = some field.2 :=
    fun field member => Fields.lookup_parsed writable.distinct member
  simp only [StateRecord.fields, List.mem_cons, List.not_mem_nil, or_false, forall_eq_or_imp,
    forall_eq] at found
  obtain ⟨format, version, owner, key, value⟩ := found
  rw [parseStateRecord, stateRecordToStorage, Fields.parse_render writable, ok_bind,
    stateRecordFromFields]
  simp only [StateRecord.fields, format, version, owner, key, value, requiredStateField, orReject,
    ok_bind, parsePositiveU64_text valid.written, parsePositiveU64_text valid.owned,
    decodeUtf8Hex_encodedString, validateStateKey, rejectIf, valid.named]
  rfl

end Eva.Storage
