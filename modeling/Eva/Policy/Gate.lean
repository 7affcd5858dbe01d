import Eva.Core.Event

/-! # The runtime policy gate

High-risk actions are decided from the policy domains of a project. A request names its
action; what else it says about the action is optional, and each decider treats a missing
field in its own way.
-/

namespace Eva.Policy

/-! ## Topic patterns -/

inductive TopicPatternSegment where
  | exactly (segment : List Char)
  | singleWildcard
  | tailWildcard
deriving DecidableEq

structure TopicPattern where
  segments : List TopicPatternSegment
deriving DecidableEq

def matchSegments : List TopicPatternSegment → List (List Char) → Bool
  | [], rest => rest.isEmpty
  | .tailWildcard :: _, _ => true
  | .exactly _ :: _, [] | .singleWildcard :: _, [] => false
  | .exactly expected :: pattern, segment :: rest =>
      segment = expected && matchSegments pattern rest
  | .singleWildcard :: pattern, _ :: rest => matchSegments pattern rest

def TopicPattern.matches (pattern : TopicPattern) (topic : Topic) : Bool :=
  matchSegments pattern.segments topic.segments

/-! ## Policy domains

Sets are lists of their members. The parts that no decision reads are left out.
-/

inductive HighRiskAction where
  | adapterInvoke
  | providerCredentialSession
  | mcpToolCall
  | mcpTopicEmit
  | skillRun
  | hardwareBind
  | hardwareRawIo
  | backupCreate
  | restoreApply
  | upgradeApply
  | releasePointerMutation
  | supervisorHandoff
deriving DecidableEq

def HighRiskAction.asStr : HighRiskAction → String
  | adapterInvoke => "adapter.invoke"
  | providerCredentialSession => "provider.credential_session"
  | mcpToolCall => "mcp.tool.call"
  | mcpTopicEmit => "mcp.topic.emit"
  | skillRun => "skill.run"
  | hardwareBind => "hardware.bind"
  | hardwareRawIo => "hardware.raw_io"
  | backupCreate => "backup.create"
  | restoreApply => "restore.apply"
  | upgradeApply => "upgrade.apply"
  | releasePointerMutation => "release.pointer_mutation"
  | supervisorHandoff => "supervisor.handoff"

structure AdapterPolicyDomain where
  /-- The limit of the default permissions. -/
  maxTimeoutMs : Option U64
  denyCapabilities : List CapabilityName
  /-- The gates of the skill policy. -/
  allowedRuntimeGates : List String

structure HardwarePolicyDomain where
  enabled : Bool
  allowRawIo : Bool
  maxTimeoutMs : Option U64
  allowedBuses : List String
  deniedCapabilities : List CapabilityName

structure McpToolPolicy where
  enabled : Bool
  allowedAgents : List AgentId
  allowedCapabilities : List CapabilityName
  allowedProviders : List AdapterId
  allowedTopics : List TopicPattern
  timeoutMs : Option U64

structure McpServerPolicyDomain where
  enabled : Bool
  tools : List (String × McpToolPolicy)

structure RuntimePolicyDomain where
  allowHighRiskActions : List HighRiskAction

structure PolicyDomainSet where
  adapter : AdapterPolicyDomain
  hardware : HardwarePolicyDomain
  mcpServer : McpServerPolicyDomain
  runtime : RuntimePolicyDomain

/-! ## Requests and decisions -/

structure RuntimePolicyRequest where
  action : HighRiskAction
  tool : Option String
  agent : Option AgentId
  capability : Option CapabilityName
  provider : Option AdapterId
  adapter : Option AdapterId
  topic : Option Topic
  bus : Option String
  timeoutMs : Option U64

def RuntimePolicyRequest.new (action : HighRiskAction) : RuntimePolicyRequest where
  action := action
  tool := none
  agent := none
  capability := none
  provider := none
  adapter := none
  topic := none
  bus := none
  timeoutMs := none

structure PolicyDecision where
  action : HighRiskAction
  allowed : Bool
  reason : String
  audit : List String
deriving DecidableEq

/-- The reason of a denial is the error, that of a permission the result. -/
abbrev Verdict := Except String String

def PolicyDecision.ofVerdict (action : HighRiskAction) : Verdict → PolicyDecision
  | .ok reason =>
      { action
        allowed := true
        reason
        audit := ["policy.action:" ++ action.asStr, "policy.decision:allow",
          "policy.reason:" ++ reason] }
  | .error reason =>
      { action
        allowed := false
        reason
        audit := ["policy.action:" ++ action.asStr, "policy.decision:deny",
          "policy.reason:" ++ reason] }

/-- A check of a field that is only made where the field is given. -/
def whenGiven {Value : Type} (value : Option Value) (check : Value → Except String Unit) :
    Except String Unit :=
  match value with
  | some value => check value
  | none => .ok ()

/-- A timeout above a limit; without a limit every timeout is fine. -/
def exceeds (timeout : U64) (limit : Option U64) : Bool :=
  limit.any fun limit => limit < timeout

/-- An empty list of what is allowed restricts nothing. -/
def restricts {Value : Type} [DecidableEq Value] (allowed : List Value) (value : Value) : Bool :=
  !allowed.isEmpty && !(value ∈ allowed)

namespace PolicyDomainSet

variable (domains : PolicyDomainSet) (request : RuntimePolicyRequest)

def decideAdapterInvoke : Verdict := do
  whenGiven request.capability fun capability =>
    rejectIf (capability ∈ domains.adapter.denyCapabilities)
      ("capability " ++ capability.name ++ " is globally denied")
  whenGiven request.timeoutMs fun timeout =>
    rejectIf (exceeds timeout domains.adapter.maxTimeoutMs)
      "adapter request timeout exceeds policy limit"
  pure "adapter request is within policy domain"

/-- A session must not be used for another provider. -/
def decideProviderCredentialSession : Verdict := do
  let adapter ← orReject "provider credential session requires adapter scope" request.adapter
  let provider ← orReject "provider credential session requires provider scope" request.provider
  rejectIf (adapter ≠ provider)
    "provider credential session cannot be reused across providers"
  pure "provider credential session is scoped to requested provider"

def decideSkillRun : Verdict := do
  let gate ← orReject "skill runtime gate is required" request.tool
  rejectIf (gate ∉ domains.adapter.allowedRuntimeGates)
    ("skill runtime gate " ++ gate ++ " is not allowed")
  pure "skill runtime gate is allowed"

def decideMcpToolCall : Verdict := do
  let toolName ← orReject "MCP tool name is required" request.tool
  let tool ← orReject ("MCP tool " ++ toolName ++ " is not declared")
    (domains.mcpServer.tools.lookup toolName)
  rejectIf (¬domains.mcpServer.enabled ∨ ¬tool.enabled)
    ("MCP tool " ++ toolName ++ " is disabled")
  whenGiven request.agent fun agent =>
    rejectIf (restricts tool.allowedAgents agent)
      ("agent " ++ agent.text ++ " is not allowed for " ++ toolName)
  whenGiven request.capability fun capability =>
    rejectIf (restricts tool.allowedCapabilities capability)
      ("capability " ++ capability.name ++ " is not allowed for " ++ toolName)
  whenGiven request.provider fun provider =>
    rejectIf (restricts tool.allowedProviders provider)
      ("provider " ++ provider.text ++ " is not allowed for " ++ toolName)
  whenGiven request.timeoutMs fun timeout =>
    rejectIf (exceeds timeout tool.timeoutMs)
      ("MCP tool " ++ toolName ++ " timeout exceeds policy")
  pure ("MCP tool " ++ toolName ++ " is allowed")

def decideMcpTopicEmit : Verdict := do
  let tool ← orReject "topic.emit policy is not declared"
    (domains.mcpServer.tools.lookup "topic.emit")
  rejectIf (¬domains.mcpServer.enabled ∨ ¬tool.enabled) "topic.emit is disabled"
  let topic ← orReject "topic.emit requires a topic" request.topic
  rejectIf (¬tool.allowedTopics.any (·.matches topic))
    ("topic " ++ topic.path ++ " is not allowlisted")
  pure ("topic " ++ topic.path ++ " is allowed")

def decideHardwareBind : Verdict := do
  rejectIf (¬domains.hardware.enabled) "hardware policy is disabled"
  whenGiven request.bus fun bus =>
    rejectIf (restricts domains.hardware.allowedBuses bus)
      ("hardware bus " ++ bus ++ " is not allowed")
  whenGiven request.capability fun capability =>
    rejectIf (capability ∈ domains.hardware.deniedCapabilities)
      ("hardware capability " ++ capability.name ++ " is denied")
  whenGiven request.timeoutMs fun timeout =>
    rejectIf (exceeds timeout domains.hardware.maxTimeoutMs)
      "hardware timeout exceeds policy limit"
  pure "hardware bind is within policy domain"

def decideHardwareRawIo : Verdict := do
  rejectIf (¬domains.hardware.enabled) "hardware policy is disabled"
  rejectIf (¬domains.hardware.allowRawIo) "hardware raw I/O is disabled by policy"
  domains.decideHardwareBind request

def decideExplicitRuntimeAction : Verdict := do
  rejectIf (request.action ∉ domains.runtime.allowHighRiskActions)
    "high-risk action requires explicit runtime_policy allow_high_risk_actions entry"
  pure "runtime policy explicitly allows high-risk action"

def verdict : Verdict :=
  match request.action with
  | .mcpToolCall => domains.decideMcpToolCall request
  | .mcpTopicEmit => domains.decideMcpTopicEmit request
  | .hardwareBind => domains.decideHardwareBind request
  | .hardwareRawIo => domains.decideHardwareRawIo request
  | .adapterInvoke => domains.decideAdapterInvoke request
  | .providerCredentialSession => decideProviderCredentialSession request
  | .skillRun => domains.decideSkillRun request
  | .backupCreate | .restoreApply | .upgradeApply | .releasePointerMutation
  | .supervisorHandoff => domains.decideExplicitRuntimeAction request

def decide : PolicyDecision := .ofVerdict request.action (domains.verdict request)

end PolicyDomainSet

end Eva.Policy
