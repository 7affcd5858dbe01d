import Eva.Storage.FieldCodec
import Eva.Storage.EventFields
import Eva.Storage.Provider.Process

/-! # The file of a provider process

The third format is written; the two earlier ones, which lack the fields of the
restarts or of the process, are still read. Values are checked at their lines.
-/

namespace Eva.Storage

open Fields (FieldMap)
open Text (parseUnsigned)

/-! ## Writing -/

namespace ProviderProcessSnapshot

def scalarFields (snapshot : ProviderProcessSnapshot) : FieldMap :=
  [("version", "3"),
    ("record_version", snapshot.recordVersion.text),
    ("owner_generation", snapshot.ownerGeneration.text),
    ("attempt", snapshot.attempt.text),
    ("restart_max_attempts", snapshot.restartMaxAttempts.text),
    ("restart_backoff_ms", snapshot.restartBackoffMs.text),
    ("restart_attempts", snapshot.restartAttempts.text),
    ("restart_due_at_ms", optionalNumber snapshot.restartDueAtMs),
    ("restart_state", String.ofList (encodeField snapshot.restartState.asStr)),
    ("session_id", String.ofList (encodeField snapshot.sessionId)),
    ("provider_process_id", String.ofList (encodeField snapshot.providerProcessId)),
    ("pid", optionalNumber snapshot.pid),
    ("process_start_token", String.ofList (encodeOptionalField snapshot.processStartToken)),
    ("process_group_id", optionalNumber snapshot.processGroupId),
    ("job_id", String.ofList (encodeOptionalField snapshot.jobId)),
    ("request_id", String.ofList (encodeField snapshot.requestId.text)),
    ("adapter_id", String.ofList (encodeField snapshot.adapterId.text)),
    ("capability", String.ofList (encodeField snapshot.capability.name)),
    ("transport", String.ofList (encodeField snapshot.transport)),
    ("manifest_digest", String.ofList (encodeField snapshot.manifestDigest)),
    ("start_command", String.ofList (encodeField snapshot.startCommand)),
    ("health", String.ofList (encodeField snapshot.health)),
    ("restart_policy", String.ofList (encodeField snapshot.restartPolicy)),
    ("retry_backoff_ms", optionalNumber snapshot.retryBackoffMs),
    ("active", boolText snapshot.active),
    ("last_error", String.ofList (encodeOptionalField snapshot.lastError)),
    ("started_at_ms", snapshot.startedAtMs.text),
    ("updated_at_ms", snapshot.updatedAtMs.text)]

def auditField (entry : String) : String × String :=
  ("audit", String.ofList (encodeField entry))

def fields (snapshot : ProviderProcessSnapshot) : FieldMap :=
  snapshot.scalarFields ++ snapshot.audit.map auditField

def toStorage (snapshot : ProviderProcessSnapshot) : String := Fields.render snapshot.fields

end ProviderProcessSnapshot

/-! ## Reading lines -/

/-- How the value of a field is written. -/
inductive ProcessFieldForm where
  | text
  | number (bits : Nat) (message : String)
  | optionalNumber (bits : Nat) (message : String)
  | flag (field : String)
  | requestId
  | adapterId
  | capability

def processFieldForms : List (String × ProcessFieldForm) :=
  [("version", .number 32 "provider process version is invalid"),
    ("record_version", .number 64 "provider process record_version is invalid"),
    ("owner_generation", .number 64 "provider process owner_generation is invalid"),
    ("attempt", .number 32 "provider process attempt is invalid"),
    ("restart_max_attempts", .number 32 "provider process restart_max_attempts is invalid"),
    ("restart_backoff_ms", .number 64 "provider process restart_backoff_ms is invalid"),
    ("restart_attempts", .number 32 "provider process restart_attempts is invalid"),
    ("restart_due_at_ms", .optionalNumber 128 "provider process restart_due_at_ms is invalid"),
    ("restart_state", .text),
    ("session_id", .text),
    ("provider_process_id", .text),
    ("pid", .optionalNumber 32 "provider process pid is invalid"),
    ("process_start_token", .text),
    ("process_group_id", .optionalNumber 32 "provider process group id is invalid"),
    ("job_id", .text),
    ("request_id", .requestId),
    ("adapter_id", .adapterId),
    ("capability", .capability),
    ("transport", .text),
    ("manifest_digest", .text),
    ("start_command", .text),
    ("health", .text),
    ("restart_policy", .text),
    ("retry_backoff_ms", .optionalNumber 64 "provider process retry_backoff_ms is invalid"),
    ("active", .flag "active"),
    ("last_error", .text),
    ("started_at_ms", .number 128 "provider process started_at_ms is invalid"),
    ("updated_at_ms", .number 128 "provider process updated_at_ms is invalid"),
    ("audit", .text)]

def parseBool (value field : String) : Except EvaError Bool :=
  if value = "true" then .ok true
  else if value = "false" then .ok false
  else .error ((EvaError.invalidArgument "provider process boolean field is invalid")
    |>.withContext "field" field
    |>.withContext "value" value)

def parseOptionalUnsigned (bits : Nat) (value message : String) :
    Except EvaError (Option (Unsigned bits)) :=
  if value = "" then .ok none
  else (orReject ((EvaError.invalidArgument message).withContext "value" value)
    (parseUnsigned bits value.toList)).map some

def ProcessFieldForm.check (value : String) : ProcessFieldForm → Except EvaError Unit
  | .text => .ok ()
  | .number bits message =>
      (orReject (.invalidArgument message) (parseUnsigned bits value.toList)).map fun _ => ()
  | .optionalNumber bits message => (parseOptionalUnsigned bits value message).map fun _ => ()
  | .flag field => (parseBool value field).map fun _ => ()
  | .requestId => validateId "request" (decodeField value.toList)
  | .adapterId => validateId "adapter" (decodeField value.toList)
  | .capability => validateCapabilityName (decodeField value.toList)

def processFieldUnknown (name : String) : EvaError :=
  (EvaError.invalidArgument "provider process snapshot has unknown field").withContext
    "field" name

/-- A name that comes twice was known when it came first, so that the order of the two
checks of a name does not matter. -/
def processRules : Fields.Rules EvaError where
  skips := Text.isBlank
  malformed := .invalidArgument "provider process snapshot is invalid"
  checkName name :=
    (orReject (processFieldUnknown name) (processFieldForms.lookup name)).map fun _ => ()
  repeated name := rejectIf (name ≠ "audit")
    ((EvaError.invalidArgument
      "provider process snapshot contains a duplicate scalar field").withContext "field" name)

def checkProcessField (field : String × String) : Except EvaError Unit := do
  let form ← orReject (processFieldUnknown field.1) (processFieldForms.lookup field.1)
  form.check field.2

/-! ## Reading a record -/

namespace ProcessFields

variable (fields : FieldMap)

def seen (name : String) : Bool := (fields.lookup name).isSome

/-- No number for a field that is missing or empty. -/
def number (bits : Nat) (name : String) : Option (Unsigned bits) :=
  (fields.lookup name).bind fun value => parseUnsigned bits value.toList

def text (name : String) : Option String :=
  (fields.lookup name).map fun value => decodeField value.toList

def optionalText (name : String) : Option String :=
  (fields.lookup name).bind fun value => decodeOptionalField value.toList

def flag (name : String) : Option Bool :=
  (fields.lookup name).bind fun value => (parseBool value name).toOption

def required {Value : Type} (name : String) : Option Value → Except EvaError Value :=
  orReject (.invalidArgument ("provider process missing " ++ name))

def audit : List String :=
  (fields.reverse.filter (·.1 = "audit")).map fun field => decodeField field.2.toList

end ProcessFields

namespace ProviderProcessSnapshot

def casFieldNames : List String :=
  ["record_version", "owner_generation", "attempt", "pid", "process_start_token",
    "process_group_id", "job_id"]

def restartFieldNames : List String :=
  ["restart_max_attempts", "restart_backoff_ms", "restart_attempts", "restart_due_at_ms",
    "restart_state"]

open ProcessFields in
/-- The version of the format, and that the fields it asks for are there. -/
def formatVersion (fields : FieldMap) : Except EvaError U32 := do
  let version ← orReject (.invalidArgument "provider process snapshot is missing version")
    (number fields 32 "version")
  rejectIf (¬(1 ≤ version ∧ version ≤ 3))
    ((EvaError.invalidArgument "provider process version mismatch").withContext
      "version" version.text)
  rejectIf (2 ≤ version ∧ ¬casFieldNames.all (seen fields))
    (.invalidArgument "provider process v2 snapshot is missing identity or CAS fields")
  rejectIf (version = 3 ∧ ¬restartFieldNames.all (seen fields))
    (.invalidArgument "provider process v3 snapshot is missing restart controller fields")
  rejectIf (2 ≤ version ∧ (number fields 64 "owner_generation").getD 0 = 0)
    (.conflict "provider process v2 snapshot requires a positive owner generation")
  pure version

open ProcessFields in
def fromFields (fields : FieldMap) : Except EvaError ProviderProcessSnapshot := do
  let version ← formatVersion fields
  let sessionId ← required "session_id" (text fields "session_id")
  let providerProcessId ← required "provider_process_id" (text fields "provider_process_id")
  let requestId ← required "request_id"
    ((text fields "request_id").bind fun value => (Identifier.new "request" value).toOption)
  let adapterId ← required "adapter_id"
    ((text fields "adapter_id").bind fun value => (Identifier.new "adapter" value).toOption)
  let capability ← required "capability"
    ((text fields "capability").bind fun value => (CapabilityName.parse value).toOption)
  let transport ← required "transport" (text fields "transport")
  let manifestDigest ← required "manifest_digest" (text fields "manifest_digest")
  let startCommand ← required "start_command" (text fields "start_command")
  let health ← required "health" (text fields "health")
  let restartPolicy ← required "restart_policy" (text fields "restart_policy")
  let active ← required "active" (flag fields "active")
  let startedAtMs ← required "started_at_ms" (number fields 128 "started_at_ms")
  let updatedAtMs ← required "updated_at_ms" (number fields 128 "updated_at_ms")
  let snapshot : ProviderProcessSnapshot := {
    sessionId, providerProcessId, requestId, adapterId, capability, transport, manifestDigest
    startCommand, health, restartPolicy, active, startedAtMs, updatedAtMs
    pid := number fields 32 "pid"
    processStartToken := optionalText fields "process_start_token"
    processGroupId := number fields 32 "process_group_id"
    jobId := optionalText fields "job_id"
    retryBackoffMs := number fields 64 "retry_backoff_ms"
    attempt := (number fields 32 "attempt").getD 0
    restartMaxAttempts := (number fields 32 "restart_max_attempts").getD 0
    restartBackoffMs := (number fields 64 "restart_backoff_ms").getD 0
    restartAttempts := (number fields 32 "restart_attempts").getD 0
    restartDueAtMs := number fields 128 "restart_due_at_ms"
    restartState := RestartState.ofStr
      ((text fields "restart_state").getD (if version < 3 then "unconfigured" else ""))
    recordVersion := (number fields 64 "record_version").getD 0
    ownerGeneration := (number fields 64 "owner_generation").getD 0
    lastError := optionalText fields "last_error"
    audit := ProcessFields.audit fields }
  snapshot.validateRecord (2 ≤ version)
  pure snapshot

def fromStorage (data : String) : Except EvaError ProviderProcessSnapshot :=
  processRules.parseChecked checkProcessField data >>= fromFields

/-! ## Reading back -/

open Text

/-- An empty error is written like no error. -/
def stored (snapshot : ProviderProcessSnapshot) : ProviderProcessSnapshot :=
  { snapshot with lastError := snapshot.lastError.filter (· ≠ "") }

private theorem check_number (number : Unsigned bits) (message : String) :
    (ProcessFieldForm.number bits message).check number.text = .ok () := by
  simp [ProcessFieldForm.check, orReject, Except.map]

private theorem check_optionalNumber (number : Option (Unsigned bits)) (message : String) :
    (ProcessFieldForm.optionalNumber bits message).check (optionalNumber number) = .ok () := by
  cases number with
  | none => rfl
  | some number =>
      rw [ProcessFieldForm.check, parseOptionalUnsigned, parseUnsigned_optionalNumber]
      split <;> rfl

private theorem parseBool_boolText (value : Bool) (field : String) :
    parseBool (boolText value) field = .ok value := by
  cases value <;> rfl

private theorem check_flag (value : Bool) (field : String) :
    (ProcessFieldForm.flag field).check (boolText value) = .ok () := by
  simp [ProcessFieldForm.check, parseBool_boolText, Except.map]

private theorem formatText : (3 : U32).text = "3" := by
  decide +kernel

private theorem checkProcessField_scalar (snapshot : ProviderProcessSnapshot) :
    ∀ field ∈ snapshot.scalarFields, checkProcessField field = .ok () := by
  have request : ProcessFieldForm.requestId.check
      (String.ofList (encodeField snapshot.requestId.text)) = .ok () := by
    rw [ProcessFieldForm.check, String.toList_ofList, decodeField_encodeField,
      validateId_eq_ok_iff]
    exact snapshot.requestId.valid
  have adapter : ProcessFieldForm.adapterId.check
      (String.ofList (encodeField snapshot.adapterId.text)) = .ok () := by
    rw [ProcessFieldForm.check, String.toList_ofList, decodeField_encodeField,
      validateId_eq_ok_iff]
    exact snapshot.adapterId.valid
  have capability : ProcessFieldForm.capability.check
      (String.ofList (encodeField snapshot.capability.name)) = .ok () := by
    rw [ProcessFieldForm.check, String.toList_ofList, decodeField_encodeField]
    exact snapshot.capability.valid
  have format : (ProcessFieldForm.number 32 "provider process version is invalid").check "3" =
      .ok () := formatText ▸ check_number (3 : U32) _
  simp only [scalarFields, List.forall_mem_cons, List.not_mem_nil, false_implies, implies_true,
    and_true]
  -- The form of each name is found by computation.
  exact ⟨format, check_number _ _, check_number _ _, check_number _ _, check_number _ _,
    check_number _ _, check_number _ _, check_optionalNumber _ _, rfl, rfl, rfl,
    check_optionalNumber _ _, rfl, check_optionalNumber _ _, rfl, request, adapter, capability,
    rfl, rfl, rfl, rfl, rfl, check_optionalNumber _ _, check_flag _ _, rfl, check_number _ _,
    check_number _ _⟩

private theorem checkProcessField_fields (snapshot : ProviderProcessSnapshot) :
    ∀ field ∈ snapshot.fields, checkProcessField field = .ok () := by
  intro field member
  rcases List.mem_append.mp member with scalar | entry
  · exact checkProcessField_scalar snapshot field scalar
  · obtain ⟨text, -, rfl⟩ := List.mem_map.mp entry
    rfl

def scalarFieldNames : List String := processFieldForms.dropLast.map Prod.fst

theorem map_fst_scalarFields (snapshot : ProviderProcessSnapshot) :
    snapshot.scalarFields.map Prod.fst = scalarFieldNames := rfl

private theorem fieldNames_checked :
    ∀ name ∈ "audit" :: scalarFieldNames,
      '=' ∉ name.toList ∧ '\n' ∉ name.toList ∧ '\r' ∉ name.toList := by
  decide

private theorem name_of_mem {snapshot : ProviderProcessSnapshot}
    (member : field ∈ snapshot.fields) : field.1 ∈ "audit" :: scalarFieldNames := by
  rcases List.mem_append.mp member with scalar | entry
  · exact List.mem_cons_of_mem _ (List.mem_map_of_mem scalar)
  · obtain ⟨text, -, rfl⟩ := List.mem_map.mp entry
    exact List.mem_cons_self

private theorem plain_scalarFields (snapshot : ProviderProcessSnapshot) :
    ∀ field ∈ snapshot.scalarFields, Plain field.2.toList := by
  have format : Plain ['3'] := ⟨by decide, by decide⟩
  have active : Plain (boolText snapshot.active).toList := by
    cases snapshot.active <;> exact ⟨by decide, by decide⟩
  simp [scalarFields, format, active, plain_text, plain_optionalNumber, plain_encodeField,
    plain_encodeOptionalField]

private theorem plain_fields {snapshot : ProviderProcessSnapshot}
    (member : field ∈ snapshot.fields) : Plain field.2.toList := by
  rcases List.mem_append.mp member with scalar | entry
  · exact plain_scalarFields snapshot field scalar
  · obtain ⟨text, -, rfl⟩ := List.mem_map.mp entry
    simp [auditField, plain_encodeField]

private theorem distinct_scalarFields : scalarFieldNames.Nodup := by
  decide

private theorem distinct_fields (snapshot : ProviderProcessSnapshot) :
    (snapshot.fields.map Prod.fst).Pairwise fun earlier later =>
      earlier ≠ later ∨ processRules.repeated later = .ok () := by
  have entries : (snapshot.audit.map auditField).map Prod.fst =
      snapshot.audit.map fun _ => "audit" :=
    List.map_map
  rw [fields, List.map_append, map_fst_scalarFields, entries, List.pairwise_append]
  refine ⟨distinct_scalarFields.imp .inl, ?_, ?_⟩
  · rw [List.pairwise_map]
    exact List.pairwise_of_forall fun _ _ => .inr rfl
  · intro earlier _ later member
    obtain ⟨_, _, rfl⟩ := List.mem_map.mp member
    exact .inr rfl

private theorem parse_toStorage (snapshot : ProviderProcessSnapshot) :
    processRules.parseChecked checkProcessField snapshot.toStorage =
      .ok snapshot.fields.reverse := by
  apply Fields.parseChecked_render
  · exact fun field member => (fieldNames_checked _ (name_of_mem member)).1
  · exact fun field member =>
      ⟨(fieldNames_checked _ (name_of_mem member)).2, plain_fields member⟩
  · exact fun field _ => Fields.isBlank_line field
  · intro field member
    have checked := checkProcessField_fields snapshot field member
    simp only [checkProcessField, bind_eq_ok_iff] at checked
    obtain ⟨form, found, -⟩ := checked
    simp [processRules, found, Except.map]
  · exact checkProcessField_fields snapshot
  · exact distinct_fields snapshot

private theorem ne_audit {snapshot : ProviderProcessSnapshot}
    (member : field ∈ snapshot.scalarFields) : field.1 ≠ "audit" := by
  have absent : "audit" ∉ scalarFieldNames := by decide
  exact fun same => absent (same ▸ List.mem_map_of_mem member)

private theorem lookup_scalar {snapshot : ProviderProcessSnapshot}
    (member : field ∈ snapshot.scalarFields) :
    snapshot.fields.reverse.lookup field.1 = some field.2 := by
  have scalar := ne_audit member
  have entries : (snapshot.audit.map auditField).reverse.lookup field.1 = none := by
    rw [Fields.lookup_eq_none_iff]
    simp [auditField, scalar.symm]
  rw [fields, List.reverse_append, List.lookup_append, entries, Option.none_or]
  exact Fields.lookup_parsed (map_fst_scalarFields snapshot ▸ distinct_scalarFields) member

private theorem audit_fields (snapshot : ProviderProcessSnapshot) :
    ProcessFields.audit snapshot.fields.reverse = snapshot.audit := by
  have scalars : snapshot.scalarFields.filter (·.1 = "audit") = [] := by
    rw [List.filter_eq_nil_iff]
    intro field member same
    exact ne_audit member (of_decide_eq_true same)
  have entries : (snapshot.audit.map auditField).filter (·.1 = "audit") =
      snapshot.audit.map auditField := by
    rw [List.filter_eq_self]
    intro field member
    obtain ⟨_, _, rfl⟩ := List.mem_map.mp member
    rfl
  rw [ProcessFields.audit, List.reverse_reverse, fields, List.filter_append, scalars, entries,
    List.nil_append, List.map_map]
  simp [auditField, Function.comp_def, decodeField_encodeField]

/-- What a checked record says about its process. -/
structure ProcessChecked (snapshot : ProviderProcessSnapshot) : Prop where
  token : snapshot.processStartToken ≠ some ""
  job : snapshot.jobId ≠ some ""

theorem processChecked {snapshot : ProviderProcessSnapshot}
    (valid : snapshot.validateRecord persisted = .ok ()) : snapshot.ProcessChecked := by
  simp only [validateRecord, validateIdentity, seq_eq_ok_iff, rejectIf_eq_ok_iff] at valid
  obtain ⟨-, -, ⟨process, -, -, job⟩, -, -⟩ := valid
  have unusable : isUnusableToken "" := rfl
  constructor
  · intro empty
    unfold validateProcess at process
    split at process
    next =>
      simp [empty, orReject, unusable] at process
    next =>
      simp [empty] at process
  · intro empty
    exact job ⟨"", empty, unusable⟩

theorem fromStorage_toStorage {snapshot : ProviderProcessSnapshot}
    (valid : snapshot.validateRecord true = .ok ()) (owned : snapshot.ownerGeneration ≠ 0) :
    fromStorage snapshot.toStorage = .ok snapshot.stored := by
  have found : ∀ field ∈ snapshot.scalarFields,
      snapshot.fields.reverse.lookup field.1 = some field.2 := fun _ => lookup_scalar
  simp only [scalarFields, List.forall_mem_cons, List.not_mem_nil, false_implies, implies_true,
    and_true] at found
  obtain ⟨version, recordVersion, ownerGeneration, attempt, maxAttempts, backoff, attempts, due,
    state, session, process, pid, token, group, job, request, adapter, capability, transport,
    digest, command, health, policy, retry, active, error, started, updated⟩ := found
  have checked := processChecked valid
  have three : parseUnsigned 32 "3".toList = some 3 := by
    rw [← formatText, parseUnsigned_text]
  have cas : casFieldNames.all (ProcessFields.seen snapshot.fields.reverse) = true := by
    simp [casFieldNames, ProcessFields.seen, recordVersion, ownerGeneration, attempt, pid, token,
      group, job]
  have restart : restartFieldNames.all (ProcessFields.seen snapshot.fields.reverse) = true := by
    simp [restartFieldNames, ProcessFields.seen, maxAttempts, backoff, attempts, due, state]
  have format : formatVersion snapshot.fields.reverse = .ok 3 := by
    simp only [formatVersion, ProcessFields.number, version, ownerGeneration, Option.bind_some,
      three, parseUnsigned_text, cas, restart, orReject, ok_bind, Option.getD_some, owned, rejectIf]
    rfl
  rw [fromStorage, parse_toStorage, ok_bind, fromFields, format]
  simp only [ok_bind, ProcessFields.number, ProcessFields.text, ProcessFields.optionalText,
    ProcessFields.flag, ProcessFields.required, audit_fields, recordVersion, ownerGeneration,
    attempt, maxAttempts, backoff, attempts, due, state, session, process, pid, token, group, job,
    request, adapter, capability, transport, digest, command, health, policy, retry, active, error,
    started, updated, Option.bind_some, Option.map_some, Option.getD_some, String.toList_ofList,
    decodeField_encodeField, decodeOptionalField_encodeOptionalField,
    parseUnsigned_text, parseUnsigned_optionalNumber, parseBool_boolText, Identifier.new_text,
    CapabilityName.parse_name, Except.toOption, orReject, RestartState.ofStr_asStr,
    filter_of_ne checked.token, filter_of_ne checked.job]
  change (snapshot.validateRecord true >>= fun _ => pure snapshot.stored) = _
  rw [valid]
  rfl

end ProviderProcessSnapshot

end Eva.Storage
