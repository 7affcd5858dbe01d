import Eva.Memory.Knowledge
import Eva.Memory.Service

/-! # Redaction

Words that look like credentials are replaced before memory and knowledge go into a
context. What was replaced is counted.
-/

namespace Eva.Memory

/-- Sets are lists of their members. -/
structure RedactionPolicyDomain where
  enabled : Bool
  auditRedactions : Bool
  replacement : String
  sensitiveKeyFragments : List String
  sensitiveTokenPrefixes : List String

def RedactionPolicyDomain.default : RedactionPolicyDomain where
  enabled := true
  auditRedactions := true
  replacement := "[REDACTED]"
  sensitiveKeyFragments := ["api_key", "apikey", "authorization", "password", "secret", "token"]
  sensitiveTokenPrefixes := ["sk-"]

structure RedactedText where
  value : String
  replacementCount : Nat
deriving DecidableEq

variable (policy : RedactionPolicyDomain)

def isSensitiveKey (key : List Char) : Bool :=
  let trimmed := Text.toAsciiLowercase (Text.trimMatches
    (fun char => !Text.isAsciiAlphanumeric char && char != '_' && char != '-') key)
  policy.sensitiveKeyFragments.any fun fragment => Text.contains trimmed fragment.toList

/-- What replaces the part of the token behind `separator`. -/
def redactAfter (separator : Char) (token : List Char) : Option (List Char) :=
  match Text.splitOnce separator token with
  | some (key, _) =>
      if isSensitiveKey policy key then some (key ++ separator :: policy.replacement.toList)
      else none
  | none => none

/-- What replaces a token, if anything does. -/
def replacementOf (token : List Char) : Option (List Char) :=
  if policy.sensitiveTokenPrefixes.any fun start =>
      start.toList.isPrefixOf (Text.toAsciiLowercase token) then
    some policy.replacement.toList
  else (redactAfter policy '=' token).or (redactAfter policy ':' token)

def redactToken (token : List Char) : List Char × Nat :=
  match replacementOf policy token with
  | some redacted => (redacted, 1)
  | none => (token, 0)

def redactSensitiveText (input : String) : RedactedText :=
  if policy.enabled then
    let redacted := (Text.splitWhitespace input.toList).map (redactToken policy)
    { value := String.ofList ([' '].intercalate (redacted.map Prod.fst))
      replacementCount := (redacted.map Prod.snd).sum }
  else { value := input, replacementCount := 0 }

def redactMemoryRecord (record : MemoryRecord) : MemoryRecord × Nat :=
  let redacted := redactSensitiveText policy record.value
  ({ record with value := redacted.value }, redacted.replacementCount)

/-- The source stays as it is. -/
def redactKnowledgeResult (result : KnowledgeSearchResult) : KnowledgeSearchResult × Nat :=
  let summary := redactSensitiveText policy result.item.summary
  let content := redactSensitiveText policy result.item.content
  ({ result with item := { result.item with summary := summary.value, content := content.value } },
    summary.replacementCount + content.replacementCount)

/-! ## Texts that differ where the policy replaces -/

/-- Both words are replaced, by the same text. -/
def BothReplaced (left right : List Char) : Prop :=
  replacementOf policy left ≠ none ∧ replacementOf policy left = replacementOf policy right

/-- The texts are the same but for words that the policy replaces. -/
inductive SameButReplaced : String → String → Prop where
  | same (text : String) : SameButReplaced text text
  | replaced {left right : String} (enabled : policy.enabled = true)
      (words : List.Forall₂ (fun one two => one = two ∨ BothReplaced policy one two)
        (Text.splitWhitespace left.toList) (Text.splitWhitespace right.toList)) :
      SameButReplaced left right

variable {policy}

theorem BothReplaced.redactToken_eq (replaced : BothReplaced policy left right) :
    redactToken policy left = redactToken policy right := by
  obtain ⟨given, same⟩ := replaced
  cases found : replacementOf policy left with
  | none => exact absurd found given
  | some redacted => simp only [redactToken, ← same, found]

theorem map_eq_of_forall₂ (all : List.Forall₂ related left right)
    (same : ∀ one two, related one two → image one = image two) :
    left.map image = right.map image := by
  rw [← List.forall₂_eq_eq_eq, List.forall₂_map_left_iff, List.forall₂_map_right_iff]
  exact all.imp same

theorem SameButReplaced.redacted_eq (alike : SameButReplaced policy left right) :
    redactSensitiveText policy left = redactSensitiveText policy right := by
  cases alike with
  | same => rfl
  | replaced enabled words =>
      have tokens : (Text.splitWhitespace left.toList).map (redactToken policy) =
          (Text.splitWhitespace right.toList).map (redactToken policy) := by
        refine map_eq_of_forall₂ words ?_
        rintro one two (rfl | replaced)
        · rfl
        · exact replaced.redactToken_eq
      simp only [redactSensitiveText, enabled, if_true, tokens]

end Eva.Memory
