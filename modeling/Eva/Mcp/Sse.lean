import Eva.Core.Error
import Eva.Foundation.Checks
import Eva.Foundation.Numerals

/-! # Server-sent events

The bytes of an event stream arrive in chunks. The parser goes through them one by one
and returns the items that a chunk has completed when it has come to its end.
-/

namespace Eva.Mcp

inductive McpJsonRpcMessageId where
  | number (value : U64)
  | string (value : String)
deriving DecidableEq

inductive McpJsonRpcMessageKind where
  | notification
  | request
  | response
deriving DecidableEq

structure ParsedSseJsonRpcEnvelope where
  requestId : Option McpJsonRpcMessageId
  kind : McpJsonRpcMessageKind

structure McpSseMessage extends ParsedSseJsonRpcEnvelope where
  eventId : Option String
  eventType : Option String
  data : String

inductive McpSseItem where
  | ping
  | message (message : McpSseMessage)

/-- What the parser has taken in. -/
structure SseProgress where
  outputLimitBytes : Nat
  line : List UInt8 := []
  data : String := ""
  hasData : Bool := false
  eventType : Option String := none
  lastEventId : Option String := none
  retryMs : Option U64 := none
  firstLine : Bool := true
  skipLfAfterCr : Bool := false

structure McpSseParser extends SseProgress where
  closed : Bool

def sseItemsPerPushLimit : Nat := 256

def sseProtocolError (message code : String) : EvaError :=
  ((EvaError.unavailable message).withProviderCode code).withRetryable false

def sseLimitError (message code : String) (limit : Nat) : EvaError :=
  ((EvaError.conflict message).withProviderCode code).withContext "output_limit_bytes"
    (toString limit)

namespace McpSseParser

def new (outputLimitBytes : Nat) : Except EvaError McpSseParser :=
  if outputLimitBytes = 0 then
    .error (.invalidArgument "MCP SSE output limit must be greater than zero")
  else .ok { outputLimitBytes, closed := false }

/-- A method that fails leaves what it has come to. -/
abbrev Parsing := ExceptT EvaError (StateM SseProgress)

section

-- `parse_sse_json_rpc_envelope`
variable (envelopeOf : String → Except EvaError ParsedSseJsonRpcEnvelope)

def dispatchEvent : Parsing (Option McpSseItem) := do
  let parser ← get
  if !parser.hasData then
    set { parser with eventType := none }
    return none
  set { parser with data := "", hasData := false, eventType := none }
  if parser.eventType = some "error" then
    throw (sseProtocolError "MCP SSE server emitted an error event" "mcp_sse_error_event")
  let envelope ← liftM (envelopeOf parser.data)
  return some (.message
    { envelope with
      eventId := parser.lastEventId, eventType := parser.eventType, data := parser.data })

def setField (field value : String) : Parsing Unit := do
  let parser ← get
  match field with
  | "data" =>
      let nextLen := parser.data.utf8ByteSize + parser.hasData.toNat + value.utf8ByteSize
      if 2 ^ 64 ≤ nextLen then
        throw (sseLimitError "MCP SSE event size overflowed" "mcp_sse_event_too_large"
          parser.outputLimitBytes)
      if parser.outputLimitBytes < nextLen then
        throw (sseLimitError "MCP SSE event exceeded output limit" "mcp_sse_event_too_large"
          parser.outputLimitBytes)
      let front := if parser.hasData then parser.data.push '\n' else parser.data
      set { parser with data := front ++ value, hasData := true }
  | "event" =>
      set { parser with eventType := if value.isEmpty then none else some value }
  | "id" =>
      if '\x00' ∉ value.toList then
        set { parser with lastEventId := some value }
  | "retry" =>
      if !value.isEmpty && value.toList.all Char.isDigit then
        if let some retryMs := Text.parseUnsigned 64 value.toList then
          set { parser with retryMs := some retryMs }
  | _ => pure ()

def processLine (line : List Char) : Parsing (Option McpSseItem) := do
  if line = [] then return ← dispatchEvent envelopeOf
  if line.head? = some ':' then return some .ping
  let (field, value) := (Text.splitOnce ':' line).getD (line, [])
  setField (String.ofList field) (String.ofList ((Text.stripPrefix [' '] value).getD value))
  return none

/-- `emit_line` up to the item. A byte order mark in front of the first line is dropped. -/
def completeLine : Parsing (Option McpSseItem) := do
  let parser ← get
  set { parser with line := [], firstLine := false }
  let marked := parser.firstLine && [0xef, 0xbb, 0xbf].isPrefixOf parser.line
  let line := if marked then parser.line.drop 3 else parser.line
  match String.fromUTF8? ⟨line.toArray⟩ with
  | none => throw (sseProtocolError "MCP SSE line is not valid UTF-8" "mcp_sse_utf8_invalid")
  | some line => processLine envelopeOf line.toList

def emitLine (items : List McpSseItem) : Parsing (List McpSseItem) := do
  match ← completeLine envelopeOf with
  | none => return items
  | some item =>
      if items.length = sseItemsPerPushLimit then
        throw (sseLimitError "MCP SSE chunk emitted too many items" "mcp_sse_item_limit"
          sseItemsPerPushLimit)
      return items ++ [item]

def takeByte (byte : UInt8) : Parsing Unit := do
  let parser ← get
  if parser.line.length = parser.outputLimitBytes then
    throw (sseLimitError "MCP SSE line exceeded output limit" "mcp_sse_line_too_large"
      parser.outputLimitBytes)
  set { parser with line := parser.line ++ [byte] }

def handleByte (items : List McpSseItem) (byte : UInt8) : Parsing (List McpSseItem) := do
  if byte = 13 then
    let items ← emitLine envelopeOf items
    modify fun parser => { parser with skipLfAfterCr := true }
    return items
  if byte = 10 then return ← emitLine envelopeOf items
  takeByte byte
  return items

def pushByte (items : List McpSseItem) (byte : UInt8) : Parsing (List McpSseItem) := do
  let skips := (← get).skipLfAfterCr
  modify fun parser => { parser with skipLfAfterCr := false }
  if skips && byte = 10 then return items
  handleByte envelopeOf items byte

def pushInner (chunk : List UInt8) : Parsing (List McpSseItem) :=
  chunk.foldlM (pushByte envelopeOf) []

def push (parser : McpSseParser) (chunk : List UInt8) :
    Except EvaError (List McpSseItem) × McpSseParser :=
  if parser.closed then
    (.error (sseProtocolError "MCP SSE parser is already closed" "mcp_sse_parser_closed"), parser)
  else
    match (pushInner envelopeOf chunk).run.run parser.toSseProgress with
    | (.ok items, after) => (.ok items, ⟨after, false⟩)
    | (.error error, after) => (.error error, ⟨after, true⟩)

/-- The items of some chunks up to the first error, and that error. -/
def feed : List (List UInt8) → McpSseParser → List McpSseItem × Option EvaError
  | [], _ => ([], none)
  | chunk :: chunks, parser =>
      match parser.push envelopeOf chunk with
      | (.error error, _) => ([], some error)
      | (.ok items, after) => (items ++ (feed chunks after).1, (feed chunks after).2)

/-! ## The stream without chunks -/

/-- What a method returns and leaves, unless it fails. -/
def outcome (method : Parsing Value) (progress : SseProgress) :
    Except EvaError (Value × SseProgress) :=
  match method.run.run progress with
  | (.error error, _) => .error error
  | (.ok value, after) => .ok (value, after)

/-- What one more byte completes. -/
def completeByte (byte : UInt8) : Parsing (Option McpSseItem) := do
  let skips := (← get).skipLfAfterCr
  modify fun parser => { parser with skipLfAfterCr := false }
  if skips && byte = 10 then return none
  if byte = 13 then
    let item ← completeLine envelopeOf
    modify fun parser => { parser with skipLfAfterCr := true }
    return item
  if byte = 10 then return ← completeLine envelopeOf
  takeByte byte
  return none

/-- The items of a stream, and its first error or what a parser has come to at its end. -/
def reading : List UInt8 → SseProgress → List McpSseItem × Except EvaError SseProgress
  | [], progress => ([], .ok progress)
  | byte :: bytes, progress =>
      match outcome (completeByte envelopeOf byte) progress with
      | .error error => ([], .error error)
      | .ok (item, after) => (item.toList ++ (reading bytes after).1, (reading bytes after).2)

/-- No chunk of the stream completes too many items, and the one with the error has
completed none before it. -/
def Calm : List (List UInt8) → SseProgress → Prop
  | [], _ => True
  | chunk :: chunks, progress =>
      match (reading envelopeOf chunk progress).2 with
      | .error _ => (reading envelopeOf chunk progress).1 = []
      | .ok after => (reading envelopeOf chunk progress).1.length ≤ sseItemsPerPushLimit ∧
          Calm chunks after

end

variable {envelopeOf : String → Except EvaError ParsedSseJsonRpcEnvelope}

theorem reading_append (first second : List UInt8) (progress : SseProgress) :
    reading envelopeOf (first ++ second) progress =
      match (reading envelopeOf first progress).2 with
      | .error error => ((reading envelopeOf first progress).1, .error error)
      | .ok after =>
          ((reading envelopeOf first progress).1 ++ (reading envelopeOf second after).1,
            (reading envelopeOf second after).2) := by
  induction first generalizing progress with
  | nil => rfl
  | cons byte first induction =>
      simp only [List.cons_append, reading]
      rcases outcome (completeByte envelopeOf byte) progress with error | ⟨item, after⟩
      · rfl
      · simp only [induction]
        rcases (reading envelopeOf first after).2 with error | final
        · rfl
        · simp only [List.append_assoc]

theorem flatten_bytes (bytes : List UInt8) : (bytes.map ([·])).flatten = bytes := by
  rw [← List.flatMap_def]
  exact List.flatMap_singleton' bytes

theorem calm_bytes (bytes : List UInt8) (progress : SseProgress) :
    Calm envelopeOf (bytes.map ([·])) progress := by
  induction bytes generalizing progress with
  | nil => trivial
  | cons byte bytes induction =>
      simp only [List.map_cons, Calm, reading]
      rcases outcome (completeByte envelopeOf byte) progress with error | ⟨_ | item, after⟩
      · rfl
      · exact ⟨Nat.zero_le _, induction after⟩
      · exact ⟨Nat.succ_le_succ (Nat.zero_le _), induction after⟩

/-- A stream that is calm as one chunk is calm however it is cut. -/
theorem Calm.cut (calm : Calm envelopeOf [chunks.flatten] progress) :
    Calm envelopeOf chunks progress := by
  induction chunks generalizing progress with
  | nil => trivial
  | cons chunk chunks induction =>
      revert calm
      simp only [List.flatten_cons, Calm, reading_append] at induction ⊢
      rcases (reading envelopeOf chunk progress).2 with error | after
      · exact id
      · specialize @induction after
        revert induction
        rcases (reading envelopeOf chunks.flatten after).2 with error | final
        · intro induction calm
          obtain ⟨none, rest⟩ := List.append_eq_nil_iff.mp calm
          exact ⟨none ▸ Nat.zero_le _, induction rest⟩
        · rintro induction ⟨room, -⟩
          rw [List.length_append] at room
          exact ⟨by omega, induction ⟨by omega, trivial⟩⟩

/-! ## Chunks and the stream -/

section

variable (progress : SseProgress)

@[simp] theorem outcome_pure (value : Value) :
    outcome (pure value) progress = .ok (value, progress) := rfl

@[simp] theorem outcome_get : outcome get progress = .ok (progress, progress) := rfl

@[simp] theorem outcome_modify (change : SseProgress → SseProgress) :
    outcome (modify change) progress = .ok ((), change progress) := rfl

@[simp] theorem outcome_bind (method : Parsing Value) (next : Value → Parsing Next) :
    outcome (method >>= next) progress =
      outcome method progress >>= fun done => outcome (next done.1) done.2 := by
  simp only [outcome, ExceptT.run_bind, StateT.run_bind]
  rcases method.run.run progress with ⟨error | value, after⟩
  · rfl
  · rfl

end

variable {items : List McpSseItem}

def itemLimitError : EvaError :=
  sseLimitError "MCP SSE chunk emitted too many items" "mcp_sse_item_limit" sseItemsPerPushLimit

/-- An item is added while there is room. -/
def adding (items : List McpSseItem) : Option McpSseItem → Except EvaError (List McpSseItem)
  | none => .ok items
  | some item =>
      if items.length = sseItemsPerPushLimit then .error itemLimitError
      else .ok (items ++ [item])

private theorem outcome_emitLine (progress : SseProgress) :
    outcome (emitLine envelopeOf items) progress =
      outcome (completeLine envelopeOf) progress >>= fun done =>
        adding items done.1 >>= fun items => .ok (items, done.2) := by
  simp only [emitLine, outcome_bind]
  congr 1
  funext done
  rcases done with ⟨_ | item, after⟩
  · rfl
  · simp only [adding]
    split
    next => rfl
    next => rfl

private theorem outcome_pushByte (progress : SseProgress) (byte : UInt8) :
    outcome (pushByte envelopeOf items byte) progress =
      outcome (completeByte envelopeOf byte) progress >>= fun done =>
        adding items done.1 >>= fun items => .ok (items, done.2) := by
  simp only [pushByte, completeByte, handleByte, outcome_bind, outcome_get, outcome_modify, ok_bind]
  split
  next => rfl
  next =>
      split
      next =>
          simp only [outcome_bind, outcome_modify, outcome_pure, outcome_emitLine, ok_bind,
            bind_assoc]
      next =>
          split
          next => exact outcome_emitLine _
          next => simp only [outcome_bind, outcome_pure, adding, bind_assoc, ok_bind]

/-- A chunk gives the items that the stream has in it, while there is room. -/
private theorem outcome_foldlM (chunk : List UInt8) (progress : SseProgress)
    (space : items.length ≤ sseItemsPerPushLimit) :
    outcome (chunk.foldlM (pushByte envelopeOf) items) progress =
      if items.length + (reading envelopeOf chunk progress).1.length ≤ sseItemsPerPushLimit then
        (reading envelopeOf chunk progress).2.map
          (items ++ (reading envelopeOf chunk progress).1, ·)
      else .error itemLimitError := by
  induction chunk generalizing items progress with
  | nil => simp [reading, space, Except.map]
  | cons byte chunk induction =>
      rw [List.foldlM_cons, outcome_bind, outcome_pushByte, reading]
      rcases outcome (completeByte envelopeOf byte) progress with error | ⟨_ | item, after⟩
      · exact (if_pos space).symm
      · exact induction after space
      · by_cases full : items.length = sseItemsPerPushLimit
        · rw [if_neg (by simp; omega)]
          simp only [ok_bind, adding, full, if_true]
          rfl
        · have room : (items ++ [item]).length ≤ sseItemsPerPushLimit := by
            rw [List.length_append]
            exact Nat.lt_of_le_of_ne space full
          have rest := induction after room
          simp only [adding, full, if_false, ok_bind, rest, List.length_append,
            List.length_singleton, Option.toList_some, List.append_assoc, Nat.add_assoc]

theorem feed_cons (chunk : List UInt8) (chunks : List (List UInt8)) (progress : SseProgress) :
    feed envelopeOf (chunk :: chunks) ⟨progress, false⟩ =
      match outcome (pushInner envelopeOf chunk) progress with
      | .error error => ([], some error)
      | .ok (items, after) => (items ++ (feed envelopeOf chunks ⟨after, false⟩).1,
          (feed envelopeOf chunks ⟨after, false⟩).2) := by
  simp only [feed, push, outcome, Bool.false_eq_true, if_false]
  rcases (pushInner envelopeOf chunk).run.run progress with ⟨error | items, after⟩
  · rfl
  · rfl

/-- What is told of a stream: its items, and its first error. -/
def told (read : List McpSseItem × Except EvaError SseProgress) :
    List McpSseItem × Option EvaError :=
  (read.1, match read.2 with
    | .error error => some error
    | .ok _ => none)

theorem feed_eq_told_iff (chunks : List (List UInt8)) (progress : SseProgress) :
    feed envelopeOf chunks ⟨progress, false⟩ = told (reading envelopeOf chunks.flatten progress) ↔
      Calm envelopeOf chunks progress := by
  induction chunks generalizing progress with
  | nil => exact ⟨fun _ => trivial, fun _ => rfl⟩
  | cons chunk chunks induction =>
      have whole := @outcome_foldlM envelopeOf [] chunk progress (Nat.zero_le _)
      rw [List.flatten_cons, reading_append, feed_cons, pushInner, whole, Calm]
      rcases reading envelopeOf chunk progress with ⟨items, error | after⟩
      · rcases items with _ | ⟨item, items⟩
        · exact ⟨fun _ => rfl, fun _ => rfl⟩
        · refine iff_of_false (fun equal => ?_) (List.cons_ne_nil item items)
          by_cases room : (item :: items).length ≤ sseItemsPerPushLimit
          · rw [if_pos (by simpa using room)] at equal
            cases congrArg Prod.fst equal
          · rw [if_neg (by simpa using room)] at equal
            cases congrArg Prod.fst equal
      · by_cases room : items.length ≤ sseItemsPerPushLimit
        · rw [if_pos (by simpa using room)]
          simp only [Except.map, told, List.nil_append, List.append_cancel_left_eq, room,
            true_and, ← induction after, Prod.ext_iff]
        · have some : items ≠ [] := by
            rintro rfl
            exact room (Nat.zero_le _)
          rw [if_neg (by simpa using room)]
          simp [told, room, some]

/-- The cuts of a stream make no difference exactly when it is calm as one chunk, and a
chunking gives what the single bytes give exactly when it is calm. -/
theorem feed_of_flatten_eq {envelopeOf : String → Except EvaError ParsedSseJsonRpcEnvelope}
    (created : new outputLimitBytes = .ok parser) (bytes : List UInt8) :
    ((∀ first second, first.flatten = bytes → second.flatten = bytes →
        feed envelopeOf first parser = feed envelopeOf second parser) ↔
      Calm envelopeOf [bytes] parser.toSseProgress) ∧
    ∀ chunks, chunks.flatten = bytes →
      (feed envelopeOf chunks parser = feed envelopeOf (bytes.map ([·])) parser ↔
        Calm envelopeOf chunks parser.toSseProgress) := by
  obtain ⟨progress, rfl⟩ : ∃ progress, parser = ⟨progress, false⟩ := by
    unfold new at created
    split at created
    next => cases created
    next => cases created; exact ⟨_, rfl⟩
  have cut : ∀ chunks, chunks.flatten = bytes →
      (feed envelopeOf chunks ⟨progress, false⟩ =
        feed envelopeOf (bytes.map ([·])) ⟨progress, false⟩ ↔ Calm envelopeOf chunks progress) := by
    rintro chunks rfl
    have single := (feed_eq_told_iff _ progress).mpr (@calm_bytes envelopeOf chunks.flatten progress)
    rw [single, flatten_bytes]
    exact feed_eq_told_iff chunks progress
  refine ⟨⟨fun equal => ?_, fun calm first second left right => ?_⟩, cut⟩
  · have whole : [bytes].flatten = bytes := List.flatten_singleton
    exact (cut [bytes] whole).mp (equal _ _ whole (flatten_bytes bytes))
  · have agrees : ∀ chunks, chunks.flatten = bytes → feed envelopeOf chunks ⟨progress, false⟩ =
        feed envelopeOf (bytes.map ([·])) ⟨progress, false⟩ := by
      rintro chunks rfl
      exact (cut chunks rfl).mpr calm.cut
    rw [agrees first left, agrees second right]

/-- The first cut is inside a character, the second one between a carriage return and its
line feed. -/
theorem feed_of_flatten_eq_notification :
    feed (fun _ => .ok ⟨none, .notification⟩)
        [[100, 97, 116, 97, 58, 32, 195], [169, 13, 10, 13, 10]] ⟨{ outputLimitBytes := 16 }, false⟩ =
      feed (fun _ => .ok ⟨none, .notification⟩)
        [[100, 97, 116, 97, 58, 32, 195, 169, 13], [10, 13], [10]]
        ⟨{ outputLimitBytes := 16 }, false⟩ := by
  refine (@feed_of_flatten_eq 16 _ _ rfl _).1.mpr ?_ _ _ rfl rfl
  exact ⟨by decide, trivial⟩

/-- A ping before a broken line is lost in a chunk with it, and many pings are too many in
one chunk. -/
theorem feed_depends_on_chunks :
    let envelopeOf := fun _ => .ok ⟨none, .notification⟩
    let parser : McpSseParser := ⟨{ outputLimitBytes := 16 }, false⟩
    let pings := (List.replicate 257 [58, 10]).flatten
    new 16 = .ok parser ∧
      (feed envelopeOf [[58, 10, 255, 10]] parser).1 = [] ∧
      (feed envelopeOf [[58, 10], [255, 10]] parser).1 ≠ [] ∧
      (feed envelopeOf [pings] parser).2.isSome ∧
      (feed envelopeOf [pings.take 2, pings.drop 2] parser).2 = none := by
  refine ⟨rfl, ?_, ?_, ?_, ?_⟩
  · decide
  · decide
  · decide +kernel
  · decide +kernel

end McpSseParser

end Eva.Mcp
