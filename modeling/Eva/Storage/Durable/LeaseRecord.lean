import Eva.Foundation.Fields
import Eva.Storage.Writer

/-! # Daemon lease records

The record says which process owns the runtime and until when. It is kept apart from
the file whose lock decides who is alive.
-/

namespace Eva.Storage

inductive DurableRuntimeLeaseState where
  | active
  | released
deriving DecidableEq

namespace DurableRuntimeLeaseState

def asStr : DurableRuntimeLeaseState → String
  | active => "active"
  | released => "released"

def fromStorage (value : String) : Option DurableRuntimeLeaseState :=
  if value = "active" then some active
  else if value = "released" then some released
  else none

@[simp] theorem fromStorage_asStr (state : DurableRuntimeLeaseState) :
    fromStorage state.asStr = some state := by
  cases state <;> rfl

end DurableRuntimeLeaseState

def validateProcessStartToken (token : String) : Except EvaError Unit :=
  rejectIf (token = "" ∨ '\n' ∈ token.toList ∨ '\r' ∈ token.toList)
    (.invalidArgument "daemon lease identity process start token is invalid")

/-- Names the owner of a lease for a failed-start reclaim. -/
structure DurableRuntimeLeaseIdentity where
  pid : U32
  processStartToken : String
  generation : WriterGeneration
deriving DecidableEq

structure DurableRuntimeLeaseRecord where
  state : DurableRuntimeLeaseState
  pid : U32
  processStartToken : String
  generation : WriterGeneration
  heartbeatAtMs : U128
  expiresAtMs : U128
deriving DecidableEq

def leaseExpiry (nowMs ttlMs : U128) : Except EvaError U128 := do
  rejectIf (ttlMs = 0) (.invalidArgument "daemon lease ttl must be positive")
  orReject (.invalidArgument "daemon lease expiry overflows u128") (nowMs.checkedAdd ttlMs)

theorem leaseExpiry_eq_ok_iff :
    leaseExpiry nowMs ttlMs = .ok expiry ↔
      ttlMs ≠ 0 ∧ expiry.value = nowMs.value + ttlMs.value := by
  simp only [leaseExpiry, seq_eq_ok_iff, rejectIf_eq_ok_iff, orReject_eq_ok_iff,
    Unsigned.checkedAdd_eq_some_iff, ne_eq]

namespace DurableRuntimeLeaseRecord

variable (record : DurableRuntimeLeaseRecord)

def identity : DurableRuntimeLeaseIdentity where
  pid := record.pid
  processStartToken := record.processStartToken
  generation := record.generation

def isExpiredAt (nowMs : U128) : Bool := record.state = .active ∧ record.expiresAtMs ≤ nowMs

def activeFor (writer : DurableWriterGuard) (processStartToken : String) (nowMs ttlMs : U128) :
    Except EvaError DurableRuntimeLeaseRecord := do
  validateProcessStartToken processStartToken
  let expiresAtMs ← leaseExpiry nowMs ttlMs
  pure
    { state := .active
      pid := writer.processId
      processStartToken
      generation := writer.generation
      heartbeatAtMs := nowMs
      expiresAtMs }

/-! ## The file -/

def format : String := "eva.daemon-lease.v1"

def fieldNames : List String :=
  ["format", "state", "pid", "process_start_token", "generation", "heartbeat_at_ms",
    "expires_at_ms"]

def fields : Fields.FieldMap :=
  [("format", format),
    ("state", record.state.asStr),
    ("pid", record.pid.text),
    ("process_start_token", record.processStartToken),
    ("generation", record.generation.text),
    ("heartbeat_at_ms", record.heartbeatAtMs.text),
    ("expires_at_ms", record.expiresAtMs.text)]

def toStorage : String := Fields.render record.fields

end DurableRuntimeLeaseRecord

/-- `parse_metadata`: small files of the durable backend. -/
def metadataRules (label : String) : Fields.Rules EvaError :=
  let invalidName (name : String) : EvaError :=
    (EvaError.conflict (label ++ " metadata contains a duplicate or empty field")).withContext
      "field" name
  { skips := fun line => line = []
    malformed := .conflict (label ++ " metadata is invalid")
    checkName := fun name => rejectIf (name = "") (invalidName name)
    repeated := fun name => .error (invalidName name) }

def parseRuntimeLeaseField (bits : Nat) (fields : Fields.FieldMap) (field : String) :
    Except EvaError (Unsigned bits) := do
  let value ← orReject
    ((EvaError.conflict "durable runtime lease is incomplete").withContext "field" field)
    (fields.lookup field)
  orReject ((EvaError.conflict "durable runtime lease field is invalid").withContext "field" field)
    (Text.parseUnsigned bits value.toList)

namespace DurableRuntimeLeaseRecord

def timeRangeValid (state : DurableRuntimeLeaseState) (heartbeatAtMs expiresAtMs : U128) : Prop :=
  match state with
  | .active => heartbeatAtMs < expiresAtMs
  | .released => expiresAtMs = heartbeatAtMs

instance (state : DurableRuntimeLeaseState) (heartbeatAtMs expiresAtMs : U128) :
    Decidable (timeRangeValid state heartbeatAtMs expiresAtMs) :=
  match state with
  | .active => inferInstanceAs (Decidable (heartbeatAtMs < expiresAtMs))
  | .released => inferInstanceAs (Decidable (expiresAtMs = heartbeatAtMs))

def fromStorage (data : String) : Except EvaError DurableRuntimeLeaseRecord := do
  let fields ← (metadataRules "durable runtime lease").parse data
  rejectIf (fields.length ≠ 7) (.conflict "durable runtime lease has unexpected fields")
  rejectIf (fields.lookup "format" ≠ some format)
    (.conflict "durable runtime lease format is unsupported")
  let state ← orReject (.conflict "durable runtime lease state is invalid")
    ((fields.lookup "state").bind DurableRuntimeLeaseState.fromStorage)
  let pid ← parseRuntimeLeaseField 32 fields "pid"
  rejectIf (pid = 0) (.conflict "durable runtime lease pid must be positive")
  let processStartToken ← orReject
    (.conflict "durable runtime lease process start token is invalid")
    ((fields.lookup "process_start_token").filter (· ≠ ""))
  let generation ← parseRuntimeLeaseField 64 fields "generation"
  rejectIf (generation = 0) (.conflict "durable runtime lease generation must be positive")
  let heartbeatAtMs ← parseRuntimeLeaseField 128 fields "heartbeat_at_ms"
  let expiresAtMs ← parseRuntimeLeaseField 128 fields "expires_at_ms"
  rejectIf (¬timeRangeValid state heartbeatAtMs expiresAtMs)
    (.conflict "durable runtime lease time range is invalid")
  pure { state, pid, processStartToken, generation, heartbeatAtMs, expiresAtMs }

/-! ## Reading back -/

/-- What holds of every record that a guard writes. -/
structure Publishable (record : DurableRuntimeLeaseRecord) : Prop where
  owned : record.pid ≠ 0
  token : validateProcessStartToken record.processStartToken = .ok ()
  fenced : record.generation ≠ 0
  timed : timeRangeValid record.state record.heartbeatAtMs record.expiresAtMs

variable {record : DurableRuntimeLeaseRecord}

theorem Publishable.token_nonempty (publishable : record.Publishable) :
    record.processStartToken ≠ "" := by
  have token := publishable.token
  simp only [validateProcessStartToken, rejectIf_eq_ok_iff, not_or] at token
  exact token.1

theorem Publishable.token_plain (publishable : record.Publishable) :
    Text.Plain record.processStartToken.toList := by
  have token := publishable.token
  simp only [validateProcessStartToken, rejectIf_eq_ok_iff, not_or] at token
  exact token.2

private theorem fields_writable (publishable : record.Publishable) :
    Fields.Writable (metadataRules "durable runtime lease") record.fields := by
  refine .of_names fieldNames rfl (by decide) (by decide)
    (by simp [metadataRules, Fields.line]) ?_
  have state : Text.Plain record.state.asStr.toList := by
    cases record.state <;> exact ⟨by decide, by decide⟩
  have format : Text.Plain format.toList := ⟨by decide, by decide⟩
  simp only [fields, List.mem_cons, List.not_mem_nil, or_false, forall_eq_or_imp, forall_eq]
  exact ⟨format, state, Text.plain_text _, publishable.token_plain, Text.plain_text _,
    Text.plain_text _, Text.plain_text _⟩

private theorem parseRuntimeLeaseField_text {fields : Fields.FieldMap}
      (found : fields.lookup field = some number.text) :
    parseRuntimeLeaseField bits fields field = .ok number := by
  simp only [parseRuntimeLeaseField, found, orReject, ok_bind, Text.parseUnsigned_text]

theorem fromStorage_toStorage (publishable : record.Publishable) :
    fromStorage record.toStorage = .ok record := by
  have parsed := Fields.parse_render (fields_writable publishable)
  have found (name : String) : record.fields.reverse.lookup name = record.fields.lookup name :=
    Fields.lookup_reverse (fields_writable publishable).distinct name
  have whole : record.fields.reverse.length = 7 := rfl
  have named : (some record.processStartToken).filter (· ≠ "") = some record.processStartToken := by
    simp [publishable.token_nonempty]
  have state : ((record.fields.reverse.lookup "state").bind
      DurableRuntimeLeaseState.fromStorage) = some record.state := by
    exact DurableRuntimeLeaseState.fromStorage_asStr record.state
  have token : (record.fields.reverse.lookup "process_start_token").filter (· ≠ "") =
      some record.processStartToken := by
    exact named
  have supported : record.fields.reverse.lookup "format" = some format := found "format"
  have number {bits : Nat} {field : String} {value : Unsigned bits}
      (held : record.fields.lookup field = some value.text) :
      parseRuntimeLeaseField bits record.fields.reverse field = .ok value :=
    parseRuntimeLeaseField_text ((found field).trans held)
  simp only [fromStorage, toStorage, parsed, ok_bind, whole, supported, state, token,
    @number _ "pid" _ rfl, @number _ "generation" _ rfl, @number _ "heartbeat_at_ms" _ rfl,
    @number _ "expires_at_ms" _ rfl, orReject, rejectIf, publishable.owned, publishable.fenced,
    publishable.timed, ne_eq, not_true_eq_false, if_false]
  rfl

end DurableRuntimeLeaseRecord

end Eva.Storage
