import Eva.Core.Identifiers
import Eva.Core.Time

/-! # Events

The values that the event log, the dead-letter store and the scheduler exchange.
Topics and capability names carry the check that accepted them.
-/

namespace Eva

/-! ## Topics -/

def topicError (topic message : String) : EvaError :=
  (EvaError.invalidArgument message).withContext "topic" topic

def validateTopicSegment (topic : String) (segment : List Char) : Except EvaError Unit := do
  rejectIf (segment = []) (topicError topic "topic path must not contain empty segments")
  rejectIf ('*' ∈ segment) (topicError topic "concrete topic segments cannot contain wildcards")
  rejectIf (segment.any Text.isWhitespace)
    (topicError topic "topic segments cannot contain whitespace")

/-- `parse_segments` for concrete topics. -/
def parseSegments (value : String) : Except EvaError (List (List Char)) := do
  rejectIf (value = "") (topicError value "topic path cannot be empty")
  rejectIf (value.toList.head? ≠ some '/') (topicError value "topic path must start with '/'")
  rejectIf (value.utf8ByteSize = 1)
    (topicError value "topic path must contain at least one segment")
  rejectIf (value.toList.getLast? = some '/')
    (topicError value "topic path must not end with '/'")
  let segments := value.toList.tail.splitOn '/'
  segments.forM (validateTopicSegment value)
  pure segments

structure Topic where
  path : String
  segments : List (List Char)
  parsed : parseSegments path = .ok segments
deriving DecidableEq

namespace Topic

def parse (value : String) : Except EvaError Topic :=
  certify (parseSegments value) fun segments parsed => { path := value, segments, parsed }

@[simp] theorem parse_path (topic : Topic) : parse topic.path = .ok topic :=
  certify_of_ok topic.parsed

end Topic

/-! ## Capability names -/

def capabilityError (value message : String) : EvaError :=
  (EvaError.invalidArgument message).withContext "capability" value

def validateCapabilitySegment (fullName : String) (segment : List Char) :
    Except EvaError Unit := do
  rejectIf (segment = [])
    (capabilityError fullName "capability name cannot contain empty segments")
  rejectIf (¬segment.all fun char =>
      Text.isAsciiAlphanumeric char || char == '_' || char == '-')
    (capabilityError fullName
      "capability segments may only contain ASCII letters, digits, '_', and '-'")

def validateCapabilityName (value : String) : Except EvaError Unit := do
  rejectIf (value = "") (capabilityError value "capability name cannot be empty")
  rejectIf (Text.trim value.toList ≠ value.toList)
    (capabilityError value "capability name cannot contain leading or trailing whitespace")
  (value.toList.splitOn '.').forM (validateCapabilitySegment value)

structure CapabilityName where
  name : String
  valid : validateCapabilityName name = .ok ()
deriving DecidableEq

namespace CapabilityName

def parse (value : String) : Except EvaError CapabilityName :=
  certify (validateCapabilityName value) fun _ valid => { name := value, valid }

@[simp] theorem parse_name (capability : CapabilityName) :
    parse capability.name = .ok capability :=
  certify_of_ok capability.valid

end CapabilityName

/-! ## Events and what they carry -/

inductive EventPayload where
  | empty
  | text (value : String)
  | bytes (value : List UInt8)
deriving DecidableEq

inductive EventTarget where
  | broadcast
  | agent (value : AgentId)
  | capability (value : CapabilityName)
  | adapter (value : AdapterId)
deriving DecidableEq

structure TraceContext where
  correlationId : Option EventId
  causationId : Option EventId
deriving DecidableEq

/-- A trace without a root is rooted at the parent event. -/
def TraceContext.childOf (trace : TraceContext) (parentEventId : EventId) : TraceContext where
  correlationId := trace.correlationId.or (some parentEventId)
  causationId := some parentEventId

structure EventMetadata where
  createdAt : SystemTime
  requestId : Option RequestId
  trace : TraceContext
  generationId : Option GenerationId
deriving DecidableEq

structure Event where
  eventId : EventId
  topic : Topic
  target : EventTarget
  payload : EventPayload
  metadata : EventMetadata
deriving DecidableEq

namespace Event

def withCreatedAt (event : Event) (createdAt : SystemTime) : Event :=
  { event with metadata := { event.metadata with createdAt } }

/-- The event with a time before the epoch moved to it. -/
def fromEpoch (event : Event) : Event := event.withCreatedAt event.metadata.createdAt.orEpoch

theorem fromEpoch_eq_self_iff {event : Event} :
    event.fromEpoch = event ↔ event.metadata.createdAt.sinceEpoch ≠ none := by
  rw [← SystemTime.orEpoch_eq_self_iff]
  constructor
  · intro same
    exact congrArg (fun event : Event => event.metadata.createdAt) same
  · intro same
    unfold fromEpoch
    rw [same]
    rfl

end Event

/-! ## An example -/

def exampleCapability : CapabilityName := ⟨"repo.summary", by decide⟩

def exampleEventId : EventId where
  text := "evt-1"
  valid := by decide

def exampleTopic : Topic where
  path := "/input"
  segments := ["input".toList]
  parsed := by decide

def exampleEvent : Event where
  eventId := exampleEventId
  topic := exampleTopic
  target := .broadcast
  payload := .empty
  metadata :=
    { createdAt := .epoch
      requestId := none
      trace := { correlationId := none, causationId := none }
      generationId := none }

end Eva
