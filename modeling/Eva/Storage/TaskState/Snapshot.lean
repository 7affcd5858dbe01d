import Eva.Core.Digest
import Eva.Core.Identifiers

/-! # Task snapshots

The durable record of one task: its identity, its immutable business envelope
and its lifecycle state.
-/

namespace Eva.Storage

abbrev Usize := U64
abbrev StateVersion := U64
abbrev WriterGeneration := U64

def StateVersion.checkedNext (version : StateVersion) : Except EvaError StateVersion :=
  orReject (.conflict "state record version exhausted") (version.checkedAdd 1)

def WriterGeneration.checkedNext (generation : WriterGeneration) :
    Except EvaError WriterGeneration :=
  orReject (.conflict "durable writer generation exhausted") (generation.checkedAdd 1)

/-! ## Status -/

def knownStatusNames : List String :=
  ["queued", "running", "cancelling", "completed", "failed", "timed_out", "cancelled",
    "interrupted", "recovering"]

/-- The source keeps the status as a text. Every text is one of the names it
knows or some `other` text. -/
inductive TaskStatus where
  | queued
  | running
  | cancelling
  | completed
  | failed
  | timedOut
  | cancelled
  | interrupted
  | recovering
  | other (text : String) (unknown : text ∉ knownStatusNames)
deriving DecidableEq

namespace TaskStatus

def asStr : TaskStatus → String
  | queued => "queued"
  | running => "running"
  | cancelling => "cancelling"
  | completed => "completed"
  | failed => "failed"
  | timedOut => "timed_out"
  | cancelled => "cancelled"
  | interrupted => "interrupted"
  | recovering => "recovering"
  | other text _ => text

def ofStr (text : String) : TaskStatus :=
  if known : text ∈ knownStatusNames then
    if text = "queued" then queued
    else if text = "running" then running
    else if text = "cancelling" then cancelling
    else if text = "completed" then completed
    else if text = "failed" then failed
    else if text = "timed_out" then timedOut
    else if text = "cancelled" then cancelled
    else if text = "interrupted" then interrupted
    else recovering
  else other text known

@[simp] theorem ofStr_asStr (status : TaskStatus) : ofStr status.asStr = status := by
  cases status with
  | other text unknown => simp [ofStr, asStr, unknown]
  | _ => rfl

/-- One of the nine statuses the source gives a meaning to. -/
def isKnown : TaskStatus → Bool
  | other _ _ => false
  | _ => true

def isTerminal : TaskStatus → Bool
  | completed | failed | cancelled | timedOut | interrupted => true
  | _ => false

end TaskStatus

/-! ## Data -/

structure TaskAttemptPolicySnapshot where
  maxAttempts : U32
  retryBackoffMs : U64
  attemptTimeoutMs : Option U64
deriving DecidableEq

inductive TaskInputSnapshot where
  | inline (bytes : List UInt8) (digest : String)
  | artifact (artifactRef : String) (digest : String)
deriving DecidableEq

structure TaskEnvelopeSnapshot where
  kind : String
  agentId : String
  input : TaskInputSnapshot
  idempotencyKey : String
  attemptPolicy : TaskAttemptPolicySnapshot
deriving DecidableEq

structure TaskReplayDeliverySnapshot where
  replayEventId : String
  deliveryIndex : Usize
deriving DecidableEq

structure TaskStateLogSnapshot where
  sequence : U64
  level : String
  message : String
deriving DecidableEq

structure TaskStateDeadLetterSnapshot where
  eventId : String
  topic : String
  reasonKind : String
  reason : String
  replayCount : Usize
deriving DecidableEq

structure TaskStateReplaySnapshot where
  eventId : String
  sequence : U64
  topic : String
deriving DecidableEq

structure TaskStateSnapshot where
  recordVersion : StateVersion
  ownerGeneration : WriterGeneration
  taskId : String
  envelope : Option TaskEnvelopeSnapshot
  replayDelivery : Option TaskReplayDeliverySnapshot
  status : TaskStatus
  attempts : Usize
  executionOwner : Option String
  retryMaxAttempts : Usize
  cancelRequested : Bool
  cancelAccepted : Bool
  cancelReason : Option String
  heartbeatAtMs : Option U128
  deadlineAtMs : Option U128
  cancelToken : Option String
  resultDigest : Option String
  resultSizeBytes : Option Usize
  interruptedReason : Option String
  errorKind : Option String
  errorMessage : Option String
  errorRetryable : Option Bool
  retryReadyAtMs : Option U128
  logs : List TaskStateLogSnapshot
  deadLetters : List TaskStateDeadLetterSnapshot
  replayedEvents : List TaskStateReplaySnapshot
deriving DecidableEq

structure TaskAttemptFence where
  taskId : String
  ownerGeneration : WriterGeneration
  executionOwner : String
  attempt : Usize
  cancelToken : String
deriving DecidableEq

structure TaskExecutionClaim where
  snapshot : TaskStateSnapshot
  fence : TaskAttemptFence
deriving DecidableEq

inductive TaskAttemptOutcome where
  | completed (resultDigest : String) (resultSizeBytes : Usize)
  | failed (errorKind errorMessage : String) (retryable : Bool)
  | timedOut (observedAtMs : U128) (retryable : Bool)
deriving DecidableEq

end Eva.Storage
