import Eva.Core.Event
import Eva.Storage.Writer

/-! # Provider processes

Each session of a supervised provider has a record: who the session works for, which
process of the operating system runs it, and how far its automatic restarts have come.
-/

namespace Eva.Storage

/-! ## Restart states -/

def knownRestartStates : List String :=
  ["disabled", "unconfigured", "stable", "running", "pending", "starting", "exhausted", "failed"]

/-- A file can hold any text; only the known ones are valid. -/
inductive RestartState where
  | disabled
  | unconfigured
  | stable
  | running
  | pending
  | starting
  | exhausted
  | failed
  | other (text : String) (unknown : text ∉ knownRestartStates)
deriving DecidableEq

namespace RestartState

def asStr : RestartState → String
  | disabled => "disabled"
  | unconfigured => "unconfigured"
  | stable => "stable"
  | running => "running"
  | pending => "pending"
  | starting => "starting"
  | exhausted => "exhausted"
  | failed => "failed"
  | other text _ => text

def ofStr (text : String) : RestartState :=
  if known : text ∈ knownRestartStates then
    if text = "disabled" then disabled
    else if text = "unconfigured" then unconfigured
    else if text = "stable" then stable
    else if text = "running" then running
    else if text = "pending" then pending
    else if text = "starting" then starting
    else if text = "exhausted" then exhausted
    else failed
  else other text known

@[simp] theorem ofStr_asStr (state : RestartState) : ofStr state.asStr = state := by
  cases state with
  | other text unknown => simp [ofStr, asStr, unknown]
  | _ => rfl

def isKnown : RestartState → Bool
  | other _ _ => false
  | _ => true

end RestartState

/-! ## The record of a session -/

structure ProviderProcessSnapshot where
  sessionId : String
  providerProcessId : String
  pid : Option U32
  processStartToken : Option String
  processGroupId : Option U32
  jobId : Option String
  requestId : RequestId
  adapterId : AdapterId
  capability : CapabilityName
  transport : String
  manifestDigest : String
  startCommand : String
  health : String
  restartPolicy : String
  retryBackoffMs : Option U64
  /-- The number of the process among those of the session; zero without a process. -/
  attempt : U32
  restartMaxAttempts : U32
  restartBackoffMs : U64
  restartAttempts : U32
  restartDueAtMs : Option U128
  restartState : RestartState
  recordVersion : StateVersion
  ownerGeneration : WriterGeneration
  active : Bool
  lastError : Option String
  startedAtMs : U128
  updatedAtMs : U128
  audit : List String
deriving DecidableEq

/-- What no change of a record may touch. -/
structure ProviderIdentity where
  providerProcessId : String
  requestId : RequestId
  adapterId : AdapterId
  capability : CapabilityName
  transport : String
  manifestDigest : String
  startCommand : String
  restartPolicy : String
  retryBackoffMs : Option U64
  restartMaxAttempts : U32
  restartBackoffMs : U64
  startedAtMs : U128
deriving DecidableEq

namespace ProviderProcessSnapshot

def running (now : U128) (sessionId providerProcessId : String) (requestId : RequestId)
    (adapterId : AdapterId) (capability : CapabilityName)
    (transport manifestDigest startCommand restartPolicy : String) :
    ProviderProcessSnapshot where
  sessionId := sessionId
  providerProcessId := providerProcessId
  pid := none
  processStartToken := none
  processGroupId := none
  jobId := none
  requestId := requestId
  adapterId := adapterId
  capability := capability
  transport := transport
  manifestDigest := manifestDigest
  startCommand := startCommand
  health := "running"
  restartPolicy := restartPolicy
  retryBackoffMs := none
  attempt := 0
  restartMaxAttempts := 0
  restartBackoffMs := 0
  restartAttempts := 0
  restartDueAtMs := none
  restartState := if restartPolicy = "none" then .disabled else .stable
  recordVersion := 0
  ownerGeneration := 0
  active := true
  lastError := none
  startedAtMs := now
  updatedAtMs := now
  audit := ["provider.supervisor.acquired", "provider.session:" ++ sessionId,
    "provider.process:" ++ providerProcessId]

variable (snapshot : ProviderProcessSnapshot)

def identity : ProviderIdentity where
  providerProcessId := snapshot.providerProcessId
  requestId := snapshot.requestId
  adapterId := snapshot.adapterId
  capability := snapshot.capability
  transport := snapshot.transport
  manifestDigest := snapshot.manifestDigest
  startCommand := snapshot.startCommand
  restartPolicy := snapshot.restartPolicy
  retryBackoffMs := snapshot.retryBackoffMs
  restartMaxAttempts := snapshot.restartMaxAttempts
  restartBackoffMs := snapshot.restartBackoffMs
  startedAtMs := snapshot.startedAtMs

/-! ## Checks -/

def validateRestartState : Except EvaError Unit := do
  rejectIf (¬snapshot.restartState.isKnown)
    ((EvaError.invalidArgument "provider restart state is invalid").withContext
      "restart_state" snapshot.restartState.asStr)
  rejectIf (snapshot.restartMaxAttempts < snapshot.restartAttempts)
    (.conflict "provider restart attempts exceed configured budget")
  rejectIf (snapshot.restartState = .pending ∧ snapshot.restartDueAtMs = none)
    (.invalidArgument "pending provider restart requires a due timestamp")
  rejectIf (snapshot.restartState ≠ .pending ∧ snapshot.restartDueAtMs ≠ none)
    (.invalidArgument "non-pending provider restart cannot carry a due timestamp")
  rejectIf (snapshot.restartMaxAttempts = 0 ∧ snapshot.restartBackoffMs ≠ 0)
    (.invalidArgument "disabled provider restart requires zero backoff")
  rejectIf (0 < snapshot.restartMaxAttempts ∧ snapshot.restartBackoffMs = 0)
    (.invalidArgument "automatic provider restart requires positive backoff")

/-- Start tokens and job identities share their limits. -/
def isUnusableToken (token : String) : Bool :=
  Text.isBlank token.toList || 256 < token.utf8ByteSize || token.toList.any Text.isControl

def validateProcess : Except EvaError Unit :=
  match snapshot.pid with
  | some pid => do
      rejectIf (pid = 0 ∨ snapshot.attempt = 0)
        (.invalidArgument "provider process identity requires positive pid and attempt")
      let token ← orReject
        (.invalidArgument "provider process identity requires start token")
        snapshot.processStartToken
      rejectIf (isUnusableToken token)
        (.invalidArgument
          "provider process start token is empty, oversized, or contains controls")
      rejectIf (snapshot.processGroupId = none ∧ snapshot.jobId = none)
        (.invalidArgument
          "provider process identity requires a process group or Windows job id")
  | none =>
      rejectIf (snapshot.processStartToken ≠ none ∨ snapshot.processGroupId ≠ none ∨
          snapshot.jobId ≠ none ∨ snapshot.attempt ≠ 0)
        (.invalidArgument "provider process identity fields require a pid")

def validateIdentity : Except EvaError Unit := do
  snapshot.validateProcess
  rejectIf (snapshot.processGroupId ≠ none ∧ snapshot.jobId ≠ none)
    (.invalidArgument
      "provider process group and Windows job identities are mutually exclusive")
  rejectIf (snapshot.processGroupId = some 0)
    (.invalidArgument "provider process group id must be positive")
  rejectIf (∃ job ∈ snapshot.jobId, isUnusableToken job)
    (.invalidArgument "provider Windows job id is empty, oversized, or contains controls")

def validateRecord (persisted : Bool) : Except EvaError Unit := do
  rejectIf (Text.isBlank snapshot.sessionId.toList ∨
      Text.isBlank snapshot.providerProcessId.toList)
    (.invalidArgument "provider process identity fields cannot be empty")
  rejectIf (Text.isBlank snapshot.transport.toList ∨ Text.isBlank snapshot.health.toList)
    (.invalidArgument "provider process transport and health cannot be empty")
  snapshot.validateIdentity
  snapshot.validateRestartState
  rejectIf (persisted ∧ snapshot.recordVersion = 0)
    (.conflict "persisted provider process record must have a positive version")

end ProviderProcessSnapshot

end Eva.Storage
