import Eva.Core.Event
import Eva.Foundation.Meet
import Mathlib.Data.Finset.Insert
import Mathlib.Data.Finset.Lattice.Basic

/-! # Narrowing permissions

The layers of a policy are narrowed one by another. A limit or a set of names that is
absent restricts nothing, so the narrower of two is the one that is there.
-/

namespace Eva.Policy

/-! ## Limits and sets that may be absent -/

def minOption (left right : Option (Unsigned bits)) : Option (Unsigned bits) :=
  match left, right with
  | some left, some right => some (if left ≤ right then left else right)
  | some value, none | none, some value => some value
  | none, none => none

def minTimeout : Option U64 → Option U64 → Option U64 := minOption

def timeoutExpands (requested upperBound : Option U64) : Bool :=
  match requested, upperBound with
  | some requested, some upperBound => upperBound < requested
  | some _, none | none, _ => false

def intersectOptionalSets [DecidableEq Name] (left right : Option (Finset Name)) :
    Option (Finset Name) :=
  match left, right with
  | some left, some right => some (left ∩ right)
  | some values, none | none, some values => some values
  | none, none => none

def optionalSetExpands [DecidableEq Name] (requested upperBound : Option (Finset Name)) : Bool :=
  match requested, upperBound with
  | some requested, some upperBound => ¬requested ⊆ upperBound
  | none, some _ => true
  | some _, none | none, none => false

theorem minOption_isMeet : IsMeet (@minOption bits) where
  comm left right := by
    cases left <;> cases right <;> simp only [minOption, Option.some.injEq]
    grind [Unsigned.eq_iff, Unsigned.le_iff]
  assoc left middle right := by
    cases left <;> cases middle <;> cases right <;> simp only [minOption, Option.some.injEq]
    grind [Unsigned.eq_iff, Unsigned.le_iff]
  idem value := by cases value <;> simp [minOption]

theorem intersectOptionalSets_isMeet [DecidableEq Name] :
    IsMeet (@intersectOptionalSets Name _) where
  comm left right := by
    cases left <;> cases right <;> simp [intersectOptionalSets, Finset.inter_comm]
  assoc left middle right := by
    cases left <;> cases middle <;> cases right <;> simp [intersectOptionalSets]
  idem value := by cases value <;> simp [intersectOptionalSets]

theorem forall_mem_minOption (left right : Option (Unsigned bits)) :
    (∀ limit ∈ minOption left right, value ≤ limit) ↔
      (∀ limit ∈ left, value ≤ limit) ∧ ∀ limit ∈ right, value ≤ limit := by
  cases left <;> cases right <;> simp [minOption]
  grind [Unsigned.le_iff]

theorem forall_mem_intersectOptionalSets [DecidableEq Name] (left right : Option (Finset Name)) :
    (∀ allowed ∈ intersectOptionalSets left right, name ∈ allowed) ↔
      (∀ allowed ∈ left, name ∈ allowed) ∧ ∀ allowed ∈ right, name ∈ allowed := by
  cases left <;> cases right <;> simp [intersectOptionalSets]

theorem timeoutExpands_agrees_iff {requested upperBound : Option U64} :
    (timeoutExpands requested upperBound = false ↔
      minTimeout upperBound requested = requested) ↔
      (requested = none → upperBound = none) := by
  cases requested <;> cases upperBound <;> simp [timeoutExpands, minTimeout, minOption]
  grind [Unsigned.eq_iff, Unsigned.le_iff, Unsigned.lt_iff]

theorem optionalSetExpands_eq_false_iff [DecidableEq Name]
    {requested upperBound : Option (Finset Name)} :
    optionalSetExpands requested upperBound = false ↔
      intersectOptionalSets upperBound requested = requested := by
  cases requested <;> cases upperBound <;> simp [optionalSetExpands, intersectOptionalSets]

/-! ## Permission sets and sandboxes -/

structure PermissionSet where
  network : Bool
  shell : Bool
  readWorkspace : Bool
  writeWorkspace : Bool
  maxTimeoutMs : Option U64
  capabilities : Option (Finset CapabilityName)
  adapters : Option (Finset AdapterId)
deriving DecidableEq

def PermissionSet.denyAll : PermissionSet where
  network := false
  shell := false
  readWorkspace := false
  writeWorkspace := false
  maxTimeoutMs := none
  capabilities := none
  adapters := none

def PermissionSet.narrowedBy (self other : PermissionSet) : PermissionSet where
  network := self.network && other.network
  shell := self.shell && other.shell
  readWorkspace := self.readWorkspace && other.readWorkspace
  writeWorkspace := self.writeWorkspace && other.writeWorkspace
  maxTimeoutMs := minTimeout self.maxTimeoutMs other.maxTimeoutMs
  capabilities := intersectOptionalSets self.capabilities other.capabilities
  adapters := intersectOptionalSets self.adapters other.adapters

/-- The fields that ask for more than the upper bound allows. -/
def PermissionSet.diffAgainst (self upperBound : PermissionSet) : List String :=
  [("network", self.network && !upperBound.network), ("shell", self.shell && !upperBound.shell),
   ("read_workspace", self.readWorkspace && !upperBound.readWorkspace),
   ("write_workspace", self.writeWorkspace && !upperBound.writeWorkspace),
   ("max_timeout_ms", timeoutExpands self.maxTimeoutMs upperBound.maxTimeoutMs),
   ("capabilities", optionalSetExpands self.capabilities upperBound.capabilities),
   ("adapters", optionalSetExpands self.adapters upperBound.adapters)].filterMap fun field =>
    if field.2 then some field.1 else none

/-- A field other than the timeout asks for more. -/
def PermissionSet.ExpandsElsewhere (self upperBound : PermissionSet) : Prop :=
  (self.network && !upperBound.network) ∨ (self.shell && !upperBound.shell) ∨
    (self.readWorkspace && !upperBound.readWorkspace) ∨
    (self.writeWorkspace && !upperBound.writeWorkspace) ∨
    optionalSetExpands self.capabilities upperBound.capabilities ∨
    optionalSetExpands self.adapters upperBound.adapters

structure SandboxPolicy where
  disabledLuaLibs : Finset String
  memoryMb : Option U32
  executionTimeoutMs : Option U64
  filesystemEnabled : Bool
  networkEnabled : Bool
  environmentEnabled : Bool
  returnSchemaValidation : Bool
  emittedTopicValidation : Bool

def SandboxPolicy.luaDefault : SandboxPolicy where
  disabledLuaLibs := {"debug", "io", "os"}
  memoryMb := some 64
  executionTimeoutMs := some 30000
  filesystemEnabled := false
  networkEnabled := false
  environmentEnabled := false
  returnSchemaValidation := true
  emittedTopicValidation := true

def SandboxPolicy.narrowedBy (self other : SandboxPolicy) : SandboxPolicy where
  disabledLuaLibs := self.disabledLuaLibs ∪ other.disabledLuaLibs
  memoryMb := minOption self.memoryMb other.memoryMb
  executionTimeoutMs := minOption self.executionTimeoutMs other.executionTimeoutMs
  filesystemEnabled := self.filesystemEnabled && other.filesystemEnabled
  networkEnabled := self.networkEnabled && other.networkEnabled
  environmentEnabled := self.environmentEnabled && other.environmentEnabled
  returnSchemaValidation := self.returnSchemaValidation || other.returnSchemaValidation
  emittedTopicValidation := self.emittedTopicValidation || other.emittedTopicValidation

structure PolicyLayer where
  name : String
  permissions : PermissionSet
  sandbox : SandboxPolicy

structure EffectivePolicy where
  permissions : PermissionSet
  sandbox : SandboxPolicy
  layerNames : List String

namespace EffectivePolicy

def fromLayers : List PolicyLayer → Except EvaError EffectivePolicy
  | [] => .error (.invalidArgument "at least one policy layer is required")
  | first :: layers => .ok
      { permissions := layers.foldl (fun permissions layer =>
          permissions.narrowedBy layer.permissions) first.permissions
        sandbox := layers.foldl (fun sandbox layer =>
          sandbox.narrowedBy layer.sandbox) first.sandbox
        layerNames := (first :: layers).map (·.name) }

def narrowRequest (effective : EffectivePolicy) (request : PermissionSet) : PermissionSet :=
  effective.permissions.narrowedBy request

def ensureRequestAllowed (effective : EffectivePolicy) (request : PermissionSet) :
    Except EvaError Unit :=
  let expanded := request.diffAgainst effective.permissions
  rejectIf (expanded ≠ []) ((EvaError.permissionDenied
    "request expands effective policy").withContext "expanded_fields"
      (String.intercalate "," expanded))

end EffectivePolicy

/-! ## What is granted -/

/-- The single permissions that a set grants or withholds. -/
inductive Permission where
  | network
  | shell
  | readWorkspace
  | writeWorkspace
  | timeout (milliseconds : U64)
  | capability (name : CapabilityName)
  | adapter (name : AdapterId)

def PermissionSet.Grants (permissions : PermissionSet) : Permission → Prop
  | .network => permissions.network
  | .shell => permissions.shell
  | .readWorkspace => permissions.readWorkspace
  | .writeWorkspace => permissions.writeWorkspace
  | .timeout milliseconds => ∀ limit ∈ permissions.maxTimeoutMs, milliseconds ≤ limit
  | .capability name => ∀ allowed ∈ permissions.capabilities, name ∈ allowed
  | .adapter name => ∀ allowed ∈ permissions.adapters, name ∈ allowed

/-- What a script may do in a sandbox. -/
inductive Liberty where
  | library (name : String)
  | memory (megabytes : U32)
  | execution (milliseconds : U64)
  | filesystem
  | network
  | environment
  | uncheckedReturn
  | uncheckedTopic

def SandboxPolicy.Grants (sandbox : SandboxPolicy) : Liberty → Prop
  | .library name => name ∉ sandbox.disabledLuaLibs
  | .memory megabytes => ∀ limit ∈ sandbox.memoryMb, megabytes ≤ limit
  | .execution milliseconds => ∀ limit ∈ sandbox.executionTimeoutMs, milliseconds ≤ limit
  | .filesystem => sandbox.filesystemEnabled
  | .network => sandbox.networkEnabled
  | .environment => sandbox.environmentEnabled
  | .uncheckedReturn => sandbox.returnSchemaValidation = false
  | .uncheckedTopic => sandbox.emittedTopicValidation = false

theorem PermissionSet.narrowedBy_isMeet : IsMeet narrowedBy where
  comm left right := by
    simp only [narrowedBy, minTimeout, minOption_isMeet.comm left.maxTimeoutMs,
      intersectOptionalSets_isMeet.comm left.capabilities,
      intersectOptionalSets_isMeet.comm left.adapters, Bool.and_comm]
  assoc left middle right := by
    simp only [narrowedBy, minTimeout, minOption_isMeet.assoc, intersectOptionalSets_isMeet.assoc,
      Bool.and_assoc]
  idem value := by
    simp only [narrowedBy, minTimeout, minOption_isMeet.idem, intersectOptionalSets_isMeet.idem,
      Bool.and_self]

theorem SandboxPolicy.narrowedBy_isMeet : IsMeet narrowedBy where
  comm left right := by
    simp only [narrowedBy, Finset.union_comm, minOption_isMeet.comm left.memoryMb,
      minOption_isMeet.comm left.executionTimeoutMs, Bool.and_comm, Bool.or_comm]
  assoc left middle right := by
    simp only [narrowedBy, minOption_isMeet.assoc, Finset.union_assoc, Bool.and_assoc,
      Bool.or_assoc]
  idem value := by
    simp only [narrowedBy, minOption_isMeet.idem, Finset.union_self, Bool.and_self, Bool.or_self]

theorem PermissionSet.grants_narrowedBy (left right : PermissionSet) :
    (left.narrowedBy right).Grants permission ↔
      left.Grants permission ∧ right.Grants permission := by
  cases permission with
  | timeout => exact forall_mem_minOption _ _
  | capability | adapter => exact forall_mem_intersectOptionalSets _ _
  | _ => simp only [Grants, narrowedBy, Bool.and_eq_true]

theorem SandboxPolicy.grants_narrowedBy (left right : SandboxPolicy) :
    (left.narrowedBy right).Grants liberty ↔ left.Grants liberty ∧ right.Grants liberty := by
  cases liberty with
  | memory | execution => exact forall_mem_minOption _ _
  | library => simp only [Grants, narrowedBy, Finset.mem_union, not_or]
  | uncheckedReturn | uncheckedTopic => simp only [Grants, narrowedBy, Bool.or_eq_false_iff]
  | _ => simp only [Grants, narrowedBy, Bool.and_eq_true]

namespace EffectivePolicy

theorem fromLayers_perm (same : layers.Perm others)
    (merged : fromLayers layers = .ok left) (otherMerged : fromLayers others = .ok right) :
    left.permissions = right.permissions ∧ left.sandbox = right.sandbox := by
  match layers, others, merged, otherMerged with
  | first :: layers, other :: others, rfl, rfl =>
      have permissions := PermissionSet.narrowedBy_isMeet.foldl_perm (same.map (·.permissions))
      have sandbox := SandboxPolicy.narrowedBy_isMeet.foldl_perm (same.map (·.sandbox))
      rw [List.foldl_map, List.foldl_map] at permissions sandbox
      exact ⟨permissions, sandbox⟩

theorem fromLayers_grants (merged : fromLayers layers = .ok effective) :
    (∀ permission, effective.permissions.Grants permission ↔
      ∀ layer ∈ layers, layer.permissions.Grants permission) ∧
    ∀ liberty, effective.sandbox.Grants liberty ↔
      ∀ layer ∈ layers, layer.sandbox.Grants liberty := by
  match layers, merged with
  | first :: layers, rfl =>
      refine ⟨fun permission => ?_, fun liberty => ?_⟩
      · have granted := @foldl_iff_forall _ _ (layers.map (·.permissions)) first.permissions
          (·.Grants permission) PermissionSet.grants_narrowedBy
        rw [List.foldl_map] at granted
        simpa using granted
      · have granted := @foldl_iff_forall _ _ (layers.map (·.sandbox)) first.sandbox
          (·.Grants liberty) SandboxPolicy.grants_narrowedBy
        rw [List.foldl_map] at granted
        simpa using granted

theorem ensureRequestAllowed_eq_ok_iff {effective : EffectivePolicy} {request : PermissionSet} :
    effective.ensureRequestAllowed request = .ok () ↔
      ¬request.ExpandsElsewhere effective.permissions ∧
      timeoutExpands request.maxTimeoutMs effective.permissions.maxTimeoutMs = false := by
  have expanded : effective.ensureRequestAllowed request = .ok () ↔
      request.diffAgainst effective.permissions = [] := by
    simp only [ensureRequestAllowed, rejectIf_eq_ok_iff, not_not]
  rw [expanded]
  simp only [PermissionSet.diffAgainst, List.filterMap_eq_nil_iff, List.forall_mem_cons,
    List.not_mem_nil, false_implies, implies_true, and_true, ite_eq_right_iff, reduceCtorEq,
    imp_false, Bool.not_eq_true, PermissionSet.ExpandsElsewhere, not_or]
  tauto

theorem narrowRequest_eq_self_iff {effective : EffectivePolicy} {request : PermissionSet} :
    effective.narrowRequest request = request ↔
      ¬request.ExpandsElsewhere effective.permissions ∧
      minTimeout effective.permissions.maxTimeoutMs request.maxTimeoutMs =
        request.maxTimeoutMs := by
  have switch : ∀ requested upperBound : Bool,
      (upperBound && requested) = requested ↔ (requested && !upperBound) = false := by decide
  cases request
  simp only [narrowRequest, PermissionSet.narrowedBy, PermissionSet.mk.injEq, switch,
    ← optionalSetExpands_eq_false_iff, PermissionSet.ExpandsElsewhere, not_or, Bool.not_eq_true]
  tauto

theorem ensureRequestAllowed_agrees_iff {effective : EffectivePolicy} {request : PermissionSet} :
    (effective.ensureRequestAllowed request = .ok () ↔
        effective.narrowRequest request = request) ↔
      (request.maxTimeoutMs = none → effective.permissions.maxTimeoutMs = none) ∨
      request.ExpandsElsewhere effective.permissions := by
  rw [ensureRequestAllowed_eq_ok_iff, narrowRequest_eq_self_iff]
  by_cases expands : request.ExpandsElsewhere effective.permissions
  · simp [expands]
  · simp only [expands, not_false_eq_true, true_and, or_false]
    exact timeoutExpands_agrees_iff

end EffectivePolicy

/-- Narrowing is a meet of permission sets and of sandboxes: the effective policy grants
what all layers grant, in whichever order they come. Whether a request is accepted and
whether narrowing leaves it as it is come to the same, unless nothing but a missing timeout
is in the way of a limit. -/
theorem narrowing_is_a_meet (layers : List PolicyLayer) (effective : EffectivePolicy)
    (request : PermissionSet) :
    IsMeet PermissionSet.narrowedBy ∧ IsMeet SandboxPolicy.narrowedBy ∧
    (∀ others other, layers.Perm others →
      EffectivePolicy.fromLayers layers = .ok effective →
      EffectivePolicy.fromLayers others = .ok other →
      effective.permissions = other.permissions ∧ effective.sandbox = other.sandbox) ∧
    (EffectivePolicy.fromLayers layers = .ok effective →
      (∀ permission, effective.permissions.Grants permission ↔
        ∀ layer ∈ layers, layer.permissions.Grants permission) ∧
      ∀ liberty, effective.sandbox.Grants liberty ↔
        ∀ layer ∈ layers, layer.sandbox.Grants liberty) ∧
    ((effective.ensureRequestAllowed request = .ok () ↔
        effective.narrowRequest request = request) ↔
      (request.maxTimeoutMs = none → effective.permissions.maxTimeoutMs = none) ∨
      request.ExpandsElsewhere effective.permissions) :=
  ⟨PermissionSet.narrowedBy_isMeet, SandboxPolicy.narrowedBy_isMeet,
    fun _ _ => EffectivePolicy.fromLayers_perm, EffectivePolicy.fromLayers_grants,
    EffectivePolicy.ensureRequestAllowed_agrees_iff⟩

/-- A request without a timeout is accepted and then narrowed to the limit of the policy. -/
theorem unlimited_request_is_narrowed :
    ∃ effective, EffectivePolicy.fromLayers
        [⟨"project", { PermissionSet.denyAll with maxTimeoutMs := some 1000 }, .luaDefault⟩] =
          .ok effective ∧
      effective.ensureRequestAllowed .denyAll = .ok () ∧
      effective.narrowRequest .denyAll ≠ .denyAll :=
  ⟨_, rfl, by decide, by decide⟩

end Eva.Policy
