import Eva.Core.Event
import Eva.Foundation.Fields
import Eva.Foundation.Numerals
import Eva.Foundation.Panics
import Eva.Foundation.Utf8

/-! # The fields of an event

The event log and the dead-letter store write their records in one line format.
Free text is written in hexadecimal digits. The two readers are separate code that
differs in its messages, in repeated names and in the fields that may be missing.
-/

namespace Eva.Storage

open Fields (FieldMap)

/-! ## Writing -/

def hexEncode (bytes : List UInt8) : String := String.ofList (Text.encodeHex bytes)

def encodedString (value : String) : String := hexEncode value.toUTF8.data.toList

def optionalString (value : Option String) : String := (value.map encodedString).getD ""

def boolText (value : Bool) : String := if value then "true" else "false"

def EventTarget.kindText : EventTarget → String
  | .broadcast => "broadcast"
  | .agent _ => "agent"
  | .capability _ => "capability"
  | .adapter _ => "adapter"

def EventTarget.valueText : EventTarget → String
  | .broadcast => ""
  | .agent value => encodedString value.text
  | .capability value => encodedString value.name
  | .adapter value => encodedString value.text

def EventPayload.kindText : EventPayload → String
  | .empty => "empty"
  | .text _ => "text"
  | .bytes _ => "bytes"

def EventPayload.valueText : EventPayload → String
  | .empty => ""
  | .text value => encodedString value
  | .bytes value => hexEncode value

/-- The fields of an event with any two numbers for its time. -/
def eventFieldsAt (seconds : U64) (nanos : U32) (event : Event) : FieldMap :=
  [("event_id", encodedString event.eventId.text),
    ("topic", encodedString event.topic.path),
    ("target_kind", EventTarget.kindText event.target),
    ("target_value", EventTarget.valueText event.target),
    ("payload_kind", EventPayload.kindText event.payload),
    ("payload_value", EventPayload.valueText event.payload),
    ("created_at_secs", seconds.text),
    ("created_at_nanos", nanos.text),
    ("request_id", optionalString (event.metadata.requestId.map (·.text))),
    ("generation_id", optionalString (event.metadata.generationId.map (·.text))),
    ("correlation_id", optionalString (event.metadata.trace.correlationId.map (·.text))),
    ("causation_id", optionalString (event.metadata.trace.causationId.map (·.text)))]

/-! ## Reading -/

/-- The messages in which the two readers differ. -/
structure RecordTexts where
  malformed : String
  invalidName : String
  missing : String
  notUtf8 : String
  numeric : String
  boolean : String
  targetKind : String
  payloadKind : String
  errorKind : String

def fieldError (message field : String) : EvaError :=
  (EvaError.conflict message).withContext "field" field

/-- The bytes of the source are hexadecimal digits exactly when the characters are. -/
def hexDecode (value : String) : Except EvaError (List UInt8) := do
  rejectIf (value.utf8ByteSize % 2 ≠ 0) (.conflict "hex field has odd length")
  rejectIf (¬value.toList.all Text.isHexDigit) (.conflict "hex field contains invalid digit")
  pure (Text.readHexPairs value.toList)

namespace RecordTexts

variable (texts : RecordTexts) (fields : FieldMap)

def rules (repeated : String → Except EvaError Unit) : Fields.Rules EvaError where
  skips := Text.isBlank
  malformed := .conflict texts.malformed
  checkName name := rejectIf
    (Text.trim name.toList = [] ∨ Text.trim name.toList ≠ name.toList)
    (fieldError texts.invalidName name)
  repeated := repeated

def requireField (key : String) : Except EvaError String :=
  orReject (fieldError texts.missing key) (fields.lookup key)

def decodeString (value : String) : Except EvaError String := do
  let bytes ← hexDecode value
  orReject (.conflict texts.notUtf8) (String.fromUTF8? ⟨bytes.toArray⟩)

def decodedRequiredString (key : String) : Except EvaError String := do
  let value ← texts.requireField fields key
  (texts.decodeString value).mapError (·.withContext "field" key)

/-- A missing field and an empty one are both no value. -/
def optionalDecodedString (key : String) : Except EvaError (Option String) :=
  match fields.lookup key with
  | none => pure none
  | some value =>
      if value = "" then pure none
      else ((texts.decodeString value).mapError (·.withContext "field" key)).map some

def optionalIdentifier (label key : String) : Except EvaError (Option (Identifier label)) := do
  match ← texts.optionalDecodedString fields key with
  | none => pure none
  | some value => (Identifier.new label value).map some

def parseNumber (bits : Nat) (value field : String) : Except EvaError (Unsigned bits) :=
  orReject (fieldError texts.numeric field) (Text.parseUnsigned bits value.toList)

def requiredNumber (bits : Nat) (key : String) : Except EvaError (Unsigned bits) := do
  let value ← texts.requireField fields key
  texts.parseNumber bits value key

def optionalNumber (bits : Nat) (key : String) : Except EvaError (Option (Unsigned bits)) :=
  match fields.lookup key with
  | none => pure none
  | some value => if value = "" then pure none else (texts.parseNumber bits value key).map some

def parseBool (value field : String) : Except EvaError Bool :=
  match value with
  | "true" => pure true
  | "false" => pure false
  | _ => .error (fieldError texts.boolean field)

def errorKindFromStorage (value : String) : Except EvaError ErrorKind :=
  match value with
  | "invalid_argument" => pure .invalidArgument
  | "not_found" => pure .notFound
  | "conflict" => pure .conflict
  | "permission_denied" => pure .permissionDenied
  | "timeout" => pure .timeout
  | "unavailable" => pure .unavailable
  | "internal" => pure .internal
  | "unsupported" => pure .unsupported
  | _ => .error ((EvaError.conflict texts.errorKind).withContext "error_kind" value)

def targetFromFields : Except EvaError EventTarget := do
  match ← texts.requireField fields "target_kind" with
  | "broadcast" => pure .broadcast
  | "agent" => do
      let value ← texts.decodedRequiredString fields "target_value"
      (Identifier.new "agent" value).map .agent
  | "capability" => do
      let value ← texts.decodedRequiredString fields "target_value"
      (CapabilityName.parse value).map .capability
  | "adapter" => do
      let value ← texts.decodedRequiredString fields "target_value"
      (Identifier.new "adapter" value).map .adapter
  | kind => .error ((EvaError.conflict texts.targetKind).withContext "target_kind" kind)

def payloadFromFields : Except EvaError EventPayload := do
  match ← texts.requireField fields "payload_kind" with
  | "empty" => pure .empty
  | "text" => (texts.decodedRequiredString fields "payload_value").map .text
  | "bytes" => do
      let value ← texts.requireField fields "payload_value"
      (hexDecode value).map .bytes
  | kind => .error ((EvaError.conflict texts.payloadKind).withContext "payload_kind" kind)

/-- The part of `event_metadata_from_fields` after the time was read: building the
time comes last, so that a damaged identifier is reported before it can panic. -/
def metadataFromFields (seconds : U64) (nanos : U32) : Fallible EvaError EventMetadata := do
  let requestId ← fallible (texts.optionalIdentifier fields "request" "request_id")
  let generationId ← fallible (texts.optionalIdentifier fields "generation" "generation_id")
  let correlationId ← fallible (texts.optionalIdentifier fields "event" "correlation_id")
  let causationId ← fallible (texts.optionalIdentifier fields "event" "causation_id")
  let createdAt ← orPanic (createdAt seconds nanos)
  pure { createdAt, requestId, trace := { correlationId, causationId }, generationId }

/-- `event_from_fields`; the readers differ in how they take the time. -/
def eventFromFields (readTime : Except EvaError (U64 × U32)) : Fallible EvaError Event := do
  let eventId ← fallible (texts.decodedRequiredString fields "event_id" >>= Identifier.new "event")
  let topic ← fallible (texts.decodedRequiredString fields "topic" >>= Topic.parse)
  let target ← fallible (texts.targetFromFields fields)
  let payload ← fallible (texts.payloadFromFields fields)
  let (seconds, nanos) ← fallible readTime
  let metadata ← texts.metadataFromFields fields seconds nanos
  pure { eventId, topic, target, payload, metadata }

end RecordTexts

def recordPath (root name : String) : String := root ++ "/" ++ name

/-- The error of a record tells where it was read. -/
def withPath {Value : Type} (path : String) :
    Fallible EvaError Value → Fallible EvaError Value
  | .error (.reported error) => .error (.reported (error.withContext "path" path))
  | other => other

/-! ## Values that read back -/

open Text

theorem hexEncode_even (bytes : List UInt8) : (hexEncode bytes).utf8ByteSize % 2 = 0 := by
  rw [hexEncode, utf8ByteSize_of_isLowerHex (encodeHex_isLowerHex bytes), encodeHex_length,
    Nat.mul_mod_right]

theorem hexEncode_digits (bytes : List UInt8) : (hexEncode bytes).toList.all isHexDigit := by
  rw [hexEncode, String.toList_ofList, List.all_eq_true]
  intro char member
  simp [isHexDigit, encodeHex_isLowerHex bytes char member]

theorem readHexPairs_hexEncode (bytes : List UInt8) :
    readHexPairs (hexEncode bytes).toList = bytes := by
  rw [hexEncode, String.toList_ofList, readHexPairs_encodeHex]

theorem hexDecode_hexEncode (bytes : List UInt8) : hexDecode (hexEncode bytes) = .ok bytes := by
  simp [hexDecode, rejectIf, hexEncode_even, hexEncode_digits, readHexPairs_hexEncode, pure,
    Except.pure]

theorem plain_hexEncode (bytes : List UInt8) : Plain (hexEncode bytes).toList := by
  rw [hexEncode, String.toList_ofList]
  exact plain_of_forall (encodeHex_isLowerHex bytes) (by decide) (by decide)

theorem encodedString_ne_empty (nonempty : value ≠ "") :
    encodedString value ≠ "" := by
  intro empty
  have decoded := hexDecode_hexEncode value.toUTF8.data.toList
  rw [show hexEncode value.toUTF8.data.toList = "" from empty] at decoded
  have bytes : value.toUTF8.data.toList = [] := (Except.ok.inj decoded).symm
  have size : value.utf8ByteSize = 0 := by
    exact congrArg List.length bytes
  exact nonempty (String.utf8ByteSize_eq_zero_iff.mp size)

theorem plain_encodedString (value : String) : Plain (encodedString value).toList :=
  plain_hexEncode _

theorem plain_optionalString (value : Option String) : Plain (optionalString value).toList := by
  cases value with
  | none => exact ⟨nofun, nofun⟩
  | some value => exact plain_encodedString value

namespace RecordTexts

variable {texts : RecordTexts} {fields : FieldMap}

theorem decodeString_encodedString (value : String) :
    texts.decodeString (encodedString value) = .ok value := by
  rw [decodeString, encodedString, hexDecode_hexEncode, ok_bind, Text.fromUTF8?_toUTF8, orReject]

theorem requireField_of_lookup (held : fields.lookup key = some value) :
    texts.requireField fields key = .ok value := by
  rw [requireField, held, orReject]

theorem decodedRequiredString_of_lookup (held : fields.lookup key = some (encodedString value)) :
    texts.decodedRequiredString fields key = .ok value := by
  rw [decodedRequiredString, requireField_of_lookup held, ok_bind, decodeString_encodedString]
  rfl

theorem optionalDecodedString_of_lookup (nonempty : value ≠ some "")
    (held : fields.lookup key = some (optionalString value)) :
    texts.optionalDecodedString fields key = .ok value := by
  rw [optionalDecodedString, held]
  cases value with
  | none => rfl
  | some value =>
      have visible : encodedString value ≠ "" :=
        encodedString_ne_empty fun empty => nonempty (congrArg some empty)
      simp only [optionalString, Option.map_some, Option.getD_some, visible, if_false,
        decodeString_encodedString]
      rfl

theorem optionalIdentifier_of_lookup
    (held : fields.lookup key = some (optionalString (value.map (·.text)))) :
    texts.optionalIdentifier fields label key = .ok value := by
  have nonempty : value.map (·.text) ≠ some "" := by
    cases value with
    | none => nofun
    | some value => exact fun empty => value.valid.nonempty (Option.some.inj empty)
  rw [optionalIdentifier, optionalDecodedString_of_lookup nonempty held, ok_bind]
  cases value with
  | none => rfl
  | some value => simp [Except.map]

theorem requiredNumber_of_lookup (held : fields.lookup key = some number.text) :
    texts.requiredNumber fields bits key = .ok number := by
  simp [requiredNumber, requireField_of_lookup held, parseNumber, orReject]

theorem optionalNumber_of_lookup (held : fields.lookup key = some number.text) :
    texts.optionalNumber fields bits key = .ok (some number) := by
  simp [optionalNumber, held, parseNumber, orReject, Except.map]

theorem parseBool_boolText (value : Bool) : texts.parseBool (boolText value) key = .ok value := by
  cases value <;> rfl

theorem errorKindFromStorage_asStr (kind : ErrorKind) :
    texts.errorKindFromStorage kind.asStr = .ok kind := by
  cases kind <;> rfl

/-- The fields hold what was written for a record. -/
def Holds (fields written : FieldMap) : Prop :=
  ∀ field ∈ written, fields.lookup field.1 = some field.2

theorem Holds.found (holds : Holds fields written)
    (member : (key, value) ∈ written) : fields.lookup key = some value :=
  holds (key, value) member

theorem Holds.of_subset (holds : Holds fields written)
    (subset : part ⊆ written) : Holds fields part :=
  fun field member => holds field (subset member)

section

variable (holds : Holds fields (eventFieldsAt seconds nanos event))
include holds
attribute [local simp] eventFieldsAt

theorem targetFromFields_of_holds :
    texts.targetFromFields fields = .ok event.target := by
  have kind : texts.requireField fields "target_kind" =
      .ok (EventTarget.kindText event.target) :=
    requireField_of_lookup (holds.found (by simp))
  have value : fields.lookup "target_value" = some (EventTarget.valueText event.target) :=
    holds.found (by simp)
  rw [targetFromFields, kind, ok_bind]
  cases target : event.target with
  | broadcast => rfl
  | agent agent =>
      rw [target] at value
      simp [EventTarget.kindText, decodedRequiredString_of_lookup value, Except.map]
  | capability capability =>
      rw [target] at value
      simp [EventTarget.kindText, decodedRequiredString_of_lookup value, Except.map]
  | adapter adapter =>
      rw [target] at value
      simp [EventTarget.kindText, decodedRequiredString_of_lookup value, Except.map]

theorem payloadFromFields_of_holds :
    texts.payloadFromFields fields = .ok event.payload := by
  have kind : texts.requireField fields "payload_kind" =
      .ok (EventPayload.kindText event.payload) :=
    requireField_of_lookup (holds.found (by simp))
  have value : fields.lookup "payload_value" = some (EventPayload.valueText event.payload) :=
    holds.found (by simp)
  rw [payloadFromFields, kind, ok_bind]
  cases payload : event.payload with
  | empty => rfl
  | text text =>
      rw [payload] at value
      simp [EventPayload.kindText, decodedRequiredString_of_lookup value, Except.map]
  | bytes bytes =>
      rw [payload] at value
      simp [EventPayload.kindText, requireField_of_lookup value, EventPayload.valueText,
        hexDecode_hexEncode, Except.map]

theorem metadataFromFields_of_holds :
    texts.metadataFromFields fields seconds nanos =
      orPanic (createdAt seconds nanos) >>= fun time =>
        pure (event.withCreatedAt time).metadata := by
  have requestId : texts.optionalIdentifier fields "request" "request_id" =
      .ok event.metadata.requestId :=
    optionalIdentifier_of_lookup (holds.found (by simp))
  have generationId : texts.optionalIdentifier fields "generation" "generation_id" =
      .ok event.metadata.generationId :=
    optionalIdentifier_of_lookup (holds.found (by simp))
  have correlationId : texts.optionalIdentifier fields "event" "correlation_id" =
      .ok event.metadata.trace.correlationId :=
    optionalIdentifier_of_lookup (holds.found (by simp))
  have causationId : texts.optionalIdentifier fields "event" "causation_id" =
      .ok event.metadata.trace.causationId :=
    optionalIdentifier_of_lookup (holds.found (by simp))
  simp only [metadataFromFields, requestId, generationId, correlationId, causationId,
    fallible_ok, ok_bind]
  rfl

theorem eventFromFields_of_holds :
    texts.eventFromFields fields (.ok (seconds, nanos)) =
      orPanic (createdAt seconds nanos) >>= fun time => pure (event.withCreatedAt time) := by
  have eventId : texts.decodedRequiredString fields "event_id" = .ok event.eventId.text :=
    decodedRequiredString_of_lookup (holds.found (by simp))
  have topic : texts.decodedRequiredString fields "topic" = .ok event.topic.path :=
    decodedRequiredString_of_lookup (holds.found (by simp))
  simp only [eventFromFields, eventId, topic, ok_bind, Identifier.new_text, Topic.parse_path,
    targetFromFields_of_holds holds, payloadFromFields_of_holds holds, fallible_ok,
    metadataFromFields_of_holds holds]
  cases createdAt seconds nanos <;> rfl

end

end RecordTexts

/-! ## Records that read back -/

/-- The characters of field names. -/
def isNameChar (char : Char) : Bool := Text.isAsciiAlphanumeric char || char == '_'

structure IsFieldName (name : String) : Prop where
  nonempty : name ≠ ""
  stable : ∀ char ∈ name.toList, isNameChar char

theorem isFieldName_of_all {names : List String}
    (all : names.all fun name => name != "" && name.toList.all isNameChar) :
    ∀ name ∈ names, IsFieldName name := by
  intro name member
  have holds := List.all_eq_true.mp all name member
  simp only [Bool.and_eq_true, bne_iff_ne, List.all_eq_true] at holds
  exact ⟨holds.1, holds.2⟩

theorem isFieldName_indexedName (index : Nat) (stemNamed : IsFieldName stem)
    (partNamed : IsFieldName part) : IsFieldName (Fields.indexedName stem index part) := by
  constructor
  · rw [Ne, ← String.toList_eq_nil_iff, Fields.toList_indexedName]
    simp
  · intro char member
    rw [Fields.toList_indexedName, List.mem_append, List.mem_append, List.mem_cons] at member
    rcases member with inStem | inIndex | rfl | inPart
    · exact stemNamed.stable char inStem
    · have digit := Nat.isDigit_of_mem_toDigits (by decide) (by decide) inIndex
      simp only [Char.isDigit, Bool.and_eq_true, decide_eq_true_eq, ge_iff_le] at digit
      have range : '0' ≤ char ∧ char ≤ '9' := digit
      simp [isNameChar, isAsciiAlphanumeric, range]
    · decide
    · exact partNamed.stable char inPart

private theorem isWhitespace_of_isNameChar (named : isNameChar char) :
    isWhitespace char = false := by
  have stable : isStableIdChar char := by
    simp only [isNameChar, Bool.or_eq_true, beq_iff_eq] at named
    rcases named with alphanumeric | rfl
    · simp [isStableIdChar, alphanumeric]
    · decide
  exact isWhitespace_of_isStableIdChar stable

namespace RecordTexts

variable {texts : RecordTexts}

theorem writable (distinct : (fields.map Prod.fst).Nodup)
    (names : ∀ field ∈ fields, IsFieldName field.1)
    (values : ∀ field ∈ fields, Plain field.2.toList) :
    Fields.Writable (texts.rules repeated) fields where
  distinct := distinct
  names := by
    intro field member
    have named := names field member
    have trimmed : trim field.1.toList = field.1.toList :=
      trim_eq_self fun char within => isWhitespace_of_isNameChar (named.stable char within)
    refine ⟨?_, plain_of_forall named.stable (by decide) (by decide), ?_⟩
    · intro within
      exact absurd (named.stable _ within) (by decide)
    · change rejectIf _ _ = _
      rw [rejectIf_eq_ok_iff, trimmed]
      simpa using named.nonempty
  values := values
  kept field _ := Fields.isBlank_line field

theorem parse_render (distinct : (fields.map Prod.fst).Nodup)
    (names : ∀ field ∈ fields, IsFieldName field.1)
    (values : ∀ field ∈ fields, Plain field.2.toList) :
    (texts.rules repeated).parse (Fields.render fields) = .ok fields.reverse ∧
      Holds fields.reverse fields :=
  ⟨Fields.parse_render (writable distinct names values),
    fun _ member => Fields.lookup_parsed distinct member⟩

theorem parse_render_indexed (names : List String)
    (split : fields.map Prod.fst =
      fixed ++ (Fields.indexedFields stem parts 0 items).map Prod.fst)
    (parted : ∀ item, (parts item).map Prod.fst = names)
    (distinct : fixed.Nodup ∧ names.Nodup)
    (unsplit : fixed.all fun name => (Fields.splitIndexed stem name).isNone)
    (named : (fixed ++ stem :: names).all fun name => name != "" && name.toList.all isNameChar)
    (values : ∀ field ∈ fields, Plain field.2.toList) :
    (texts.rules repeated).parse (Fields.render fields) = .ok fields.reverse ∧
      Holds fields.reverse fields := by
  refine parse_render ?_ (fun field member => ?_) values
  · rw [split, List.nodup_append]
    refine ⟨distinct.1, Fields.nodup_indexedFields _ _ fun item _ => parted item ▸ distinct.2, ?_⟩
    intro name held other indexed same
    have none := Option.isNone_iff_eq_none.mp (List.all_eq_true.mp unsplit name held)
    exact Fields.notMem_indexedFields none (same ▸ indexed)
  · have name : field.1 ∈ fields.map Prod.fst := List.mem_map_of_mem member
    have named := isFieldName_of_all named
    rw [split, List.mem_append] at name
    rcases name with held | indexed
    · exact named _ (List.mem_append_left _ held)
    · obtain ⟨entry, held, same⟩ := List.mem_map.mp indexed
      obtain ⟨index, item, part, -, -, within, rfl⟩ := Fields.mem_indexedFields held
      rw [← same]
      refine isFieldName_indexedName index (named stem (by simp)) (named part.1 ?_)
      have own := List.mem_map_of_mem (f := Prod.fst) within
      rw [parted item] at own
      simp [own]

end RecordTexts

def eventFieldNames : List String :=
  ["event_id", "topic", "target_kind", "target_value", "payload_kind", "payload_value",
    "created_at_secs", "created_at_nanos", "request_id", "generation_id", "correlation_id",
    "causation_id"]

theorem map_fst_eventFieldsAt (seconds : U64) (nanos : U32) (event : Event) :
    (eventFieldsAt seconds nanos event).map Prod.fst = eventFieldNames := rfl

theorem plain_eventFieldsAt (seconds : U64) (nanos : U32) (event : Event) :
    ∀ field ∈ eventFieldsAt seconds nanos event, Plain field.2.toList := by
  have target : Plain (EventTarget.kindText event.target).toList ∧
      Plain (EventTarget.valueText event.target).toList := by
    cases event.target <;>
      simp [EventTarget.kindText, EventTarget.valueText, plain_encodedString] <;> simp [Plain]
  have payload : Plain (EventPayload.kindText event.payload).toList ∧
      Plain (EventPayload.valueText event.payload).toList := by
    cases event.payload <;>
      simp [EventPayload.kindText, EventPayload.valueText, plain_encodedString,
        plain_hexEncode] <;> simp [Plain]
  simp [eventFieldsAt, target, payload, plain_encodedString, plain_optionalString, plain_text]

end Eva.Storage
