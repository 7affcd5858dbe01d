import Eva.Policy.Gate

/-! # Leaving information out

Some fields of a request are checked only where they are given. Exactly these can turn a
denial into a permission by being left out.
-/

namespace Eva.Policy

inductive RequestField where
  | tool
  | agent
  | capability
  | provider
  | adapter
  | topic
  | bus
  | timeoutMs
deriving DecidableEq

def RuntimePolicyRequest.without (request : RuntimePolicyRequest) :
    RequestField → RuntimePolicyRequest
  | .tool => { request with tool := none }
  | .agent => { request with agent := none }
  | .capability => { request with capability := none }
  | .provider => { request with provider := none }
  | .adapter => { request with adapter := none }
  | .topic => { request with topic := none }
  | .bus => { request with bus := none }
  | .timeoutMs => { request with timeoutMs := none }

/-- The fields that the decider of an action checks where they are given, and does not ask
for. -/
def checkedWhenGiven : HighRiskAction → List RequestField
  | .adapterInvoke => [.capability, .timeoutMs]
  | .mcpToolCall => [.agent, .capability, .provider, .timeoutMs]
  | .hardwareBind | .hardwareRawIo => [.bus, .capability, .timeoutMs]
  | _ => []

namespace PolicyDomainSet

variable {domains : PolicyDomainSet} {request : RuntimePolicyRequest}

theorem allowed_decide_iff :
    (domains.decide request).allowed = true ↔ ∃ reason, domains.verdict request = .ok reason := by
  unfold decide
  cases domains.verdict request <;> simp [PolicyDecision.ofVerdict]

/-! ## Fields that are asked for -/

theorem decideProviderCredentialSession_ne_ok
    (missing : request.adapter = none ∨ request.provider = none) :
    decideProviderCredentialSession request ≠ .ok reason := by
  intro decided
  simp only [decideProviderCredentialSession, bind_eq_ok_iff, orReject_eq_ok_iff] at decided
  obtain ⟨adapter, hasAdapter, provider, hasProvider, -⟩ := decided
  rcases missing with none | none
  · rw [none] at hasAdapter
    cases hasAdapter
  · rw [none] at hasProvider
    cases hasProvider

theorem decideSkillRun_ne_ok (missing : request.tool = none) :
    domains.decideSkillRun request ≠ .ok reason := by
  simp [decideSkillRun, missing, orReject]

theorem decideMcpToolCall_ne_ok (missing : request.tool = none) :
    domains.decideMcpToolCall request ≠ .ok reason := by
  simp [decideMcpToolCall, missing, orReject]

theorem decideMcpTopicEmit_ne_ok (missing : request.topic = none) :
    domains.decideMcpTopicEmit request ≠ .ok reason := by
  simp [decideMcpTopicEmit, missing, orReject]

/-- A field that is not merely checked where it is given is not read, or asked for. -/
theorem verdict_without (strict : field ∉ checkedWhenGiven request.action) :
    domains.verdict (request.without field) = domains.verdict request ∨
      ∀ reason, domains.verdict (request.without field) ≠ .ok reason := by
  obtain ⟨action, tool, agent, capability, provider, adapter, topic, bus, timeoutMs⟩ := request
  cases action with
  | adapterInvoke =>
      cases field
      case capability => exact absurd (by simp [checkedWhenGiven]) strict
      case timeoutMs => exact absurd (by simp [checkedWhenGiven]) strict
      all_goals exact .inl rfl
  | providerCredentialSession =>
      cases field
      case adapter => exact .inr fun _ => decideProviderCredentialSession_ne_ok (.inl rfl)
      case provider => exact .inr fun _ => decideProviderCredentialSession_ne_ok (.inr rfl)
      all_goals exact .inl rfl
  | mcpToolCall =>
      cases field
      case tool => exact .inr fun _ => decideMcpToolCall_ne_ok rfl
      case adapter => exact .inl rfl
      case topic => exact .inl rfl
      case bus => exact .inl rfl
      all_goals exact absurd (by simp [checkedWhenGiven]) strict
  | mcpTopicEmit =>
      cases field
      case topic => exact .inr fun _ => decideMcpTopicEmit_ne_ok rfl
      all_goals exact .inl rfl
  | skillRun =>
      cases field
      case tool => exact .inr fun _ => decideSkillRun_ne_ok rfl
      all_goals exact .inl rfl
  | hardwareBind | hardwareRawIo =>
      cases field
      case bus => exact absurd (by simp [checkedWhenGiven]) strict
      case capability => exact absurd (by simp [checkedWhenGiven]) strict
      case timeoutMs => exact absurd (by simp [checkedWhenGiven]) strict
      all_goals exact .inl rfl
  | backupCreate | restoreApply | upgradeApply | releasePointerMutation | supervisorHandoff =>
      cases field <;> exact .inl rfl

theorem allowed_of_without (strict : field ∉ checkedWhenGiven request.action)
    (allowed : (domains.decide (request.without field)).allowed = true) :
    (domains.decide request).allowed = true := by
  rw [allowed_decide_iff] at allowed ⊢
  obtain ⟨reason, decided⟩ := allowed
  rcases @verdict_without domains request field strict with same | denied
  · exact ⟨reason, same ▸ decided⟩
  · exact absurd decided (denied reason)

end PolicyDomainSet

/-! ## Fields that are only checked -/

def otherAgent : AgentId := ⟨"agent-b", by decide⟩

def otherProvider : AdapterId := ⟨"adapter-b", by decide⟩

/-- Every check of a given field fails for some value. -/
def strictDomains : PolicyDomainSet where
  adapter :=
    { maxTimeoutMs := some 10
      denyCapabilities := [exampleCapability]
      allowedRuntimeGates := ["normal"] }
  hardware :=
    { enabled := true
      allowRawIo := true
      maxTimeoutMs := some 10
      allowedBuses := ["usb"]
      deniedCapabilities := [exampleCapability] }
  mcpServer :=
    { enabled := true
      tools := [("search",
        { enabled := true
          allowedAgents := [otherAgent]
          allowedCapabilities := [⟨"repo.search", by decide⟩]
          allowedProviders := [otherProvider]
          allowedTopics := []
          timeoutMs := some 10 })] }
  runtime := { allowHighRiskActions := [] }

/-- A request that is denied for one field. -/
def offending (action : HighRiskAction) : RequestField → RuntimePolicyRequest
  | .agent => { RuntimePolicyRequest.new action with
      tool := some "search"
      agent := some exampleAgent }
  | .capability => { RuntimePolicyRequest.new action with
      tool := some "search"
      capability := some exampleCapability }
  | .provider => { RuntimePolicyRequest.new action with
      tool := some "search"
      provider := some exampleAdapterId }
  | .bus => { RuntimePolicyRequest.new action with
      tool := some "search"
      bus := some "pci" }
  | .timeoutMs => { RuntimePolicyRequest.new action with
      tool := some "search"
      timeoutMs := some 11 }
  | _ => .new action

theorem offending_action (action : HighRiskAction) (field : RequestField) :
    (offending action field).action = action := by
  cases field <;> rfl

theorem offending_denied (optional : field ∈ checkedWhenGiven action) :
    (strictDomains.decide (offending action field)).allowed = false ∧
      (strictDomains.decide ((offending action field).without field)).allowed = true := by
  cases action <;> simp only [checkedWhenGiven, List.mem_cons, List.not_mem_nil, or_false]
    at optional
  all_goals
    rcases optional with rfl | rfl | rfl | rfl <;> decide

/-- For an action and a field, no denial of any policy set turns into a permission by
leaving the field out, exactly when the field is not merely checked where it is given. -/
theorem denied_without_iff (action : HighRiskAction) (field : RequestField) :
    (∀ (domains : PolicyDomainSet) (request : RuntimePolicyRequest), request.action = action →
      (domains.decide request).allowed = false →
        (domains.decide (request.without field)).allowed = false) ↔
      field ∉ checkedWhenGiven action := by
  constructor
  · intro closed optional
    obtain ⟨denied, allowed⟩ := offending_denied optional
    have kept := closed strictDomains (offending action field) (offending_action action field) denied
    rw [allowed] at kept
    cases kept
  · rintro strict domains request rfl denied
    by_contra allowed
    have permitted := PolicyDomainSet.allowed_of_without strict (Bool.not_eq_false _ ▸ allowed)
    rw [denied] at permitted
    cases permitted

/-- A capability that is denied everywhere passes when it is not named. -/
theorem denied_capability_left_out :
    (strictDomains.decide (offending .adapterInvoke .capability)).allowed = false ∧
      (strictDomains.decide ((offending .adapterInvoke .capability).without .capability)).allowed =
        true := by
  decide

end Eva.Policy
