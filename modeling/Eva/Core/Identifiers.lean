import Eva.Core.Error
import Eva.Foundation.Checks

/-! # Identifiers

All identifier types share one syntax. Where the source only parses a text to
check it, it is kept as a text; a value of `Identifier` carries its check.
-/

namespace Eva

def maxIdLen : Nat := 128

def isStableIdChar (char : Char) : Bool :=
  Text.isAsciiAlphanumeric char || char == '.' || char == '_' || char == '-' || char == ':'

def idError (label value message : String) : EvaError :=
  ((EvaError.invalidArgument message).withContext "id_type" label).withContext "id" value

def validateId (label value : String) : Except EvaError Unit := do
  rejectIf (value = "") (idError label value "identifier cannot be empty")
  rejectIf (Text.trim value.toList ≠ value.toList)
    (idError label value "identifier cannot contain leading or trailing whitespace")
  rejectIf (maxIdLen < value.utf8ByteSize) (idError label value "identifier is too long")
  rejectIf ('/' ∈ value.toList ∨ '\\' ∈ value.toList)
    (idError label value "identifier cannot contain path separators")
  rejectIf (¬value.toList.all isStableIdChar)
    (idError label value
      "identifier may only contain ASCII letters, digits, '.', '_', '-', and ':'")

def AgentId.parse (value : String) : Except EvaError Unit := validateId "agent" value
def RequestId.parse (value : String) : Except EvaError Unit := validateId "request" value
def EventId.parse (value : String) : Except EvaError Unit := validateId "event" value

/-- What every accepted identifier looks like. -/
structure IsIdentifier (value : String) : Prop where
  nonempty : value ≠ ""
  bounded : value.utf8ByteSize ≤ maxIdLen
  stable : ∀ char ∈ value.toList, isStableIdChar char

theorem isWhitespace_of_isStableIdChar (stable : isStableIdChar char) :
    Text.isWhitespace char = false := by
  simp only [isStableIdChar, Text.isAsciiAlphanumeric, Char.le_def, UInt32.le_iff_toNat_le,
    Bool.or_eq_true, Bool.and_eq_true, decide_eq_true_eq, beq_iff_eq, Char.ext_iff,
    UInt32.ext_iff] at stable
  simp only [Text.isWhitespace, Bool.or_eq_false_iff, Bool.and_eq_false_iff,
    decide_eq_false_iff_not, beq_eq_false_iff_ne]
  simp at stable
  omega

theorem validateId_eq_ok_iff :
    validateId label value = .ok result ↔ IsIdentifier value := by
  simp only [validateId, seq_eq_ok_iff, rejectIf_eq_ok_iff, not_not]
  constructor
  · rintro ⟨nonempty, -, bounded, -, stable⟩
    exact ⟨nonempty, by omega, by simpa using stable⟩
  · rintro ⟨nonempty, bounded, stable⟩
    have visible : ∀ char ∈ value.toList, Text.isWhitespace char = false :=
      fun char member => isWhitespace_of_isStableIdChar (stable char member)
    refine ⟨nonempty, Text.trim_eq_self visible, by omega, ?_, by simpa using stable⟩
    rintro (separator | separator)
    · exact absurd (stable _ separator) (by decide)
    · exact absurd (stable _ separator) (by decide)

instance : Decidable (IsIdentifier value) :=
  decidable_of_iff (validateId "" value = .ok ()) validateId_eq_ok_iff

theorem plain_of_isIdentifier (identifier : IsIdentifier value) :
    Text.Plain value.toList :=
  Text.plain_of_forall identifier.stable (by decide) (by decide)

/-- The label tells the identifier types apart. -/
structure Identifier (label : String) where
  text : String
  valid : IsIdentifier text
deriving DecidableEq

abbrev AgentId := Identifier "agent"
abbrev AdapterId := Identifier "adapter"
abbrev RequestId := Identifier "request"
abbrev EventId := Identifier "event"
abbrev GenerationId := Identifier "generation"

instance : LawfulBEq (Identifier label) := inferInstance

namespace Identifier

def new (label value : String) : Except EvaError (Identifier label) :=
  certify (validateId label value) fun _ checked =>
    { text := value, valid := validateId_eq_ok_iff.mp checked }

theorem new_eq_ok_iff :
    new label value = .ok identifier ↔ identifier.text = value := by
  rw [new, certify_eq_ok_iff]
  constructor
  · rintro ⟨_, _, rfl⟩
    rfl
  · rintro rfl
    exact ⟨(), validateId_eq_ok_iff.mpr identifier.valid, rfl⟩

@[simp] theorem new_text (identifier : Identifier label) :
    new label identifier.text = .ok identifier := new_eq_ok_iff.mpr rfl

theorem eq_of_text {left right : Identifier label} (same : left.text = right.text) :
    left = right := by
  cases right
  cases same
  rfl

end Identifier

/-! ## Examples -/

def exampleAgent : AgentId := ⟨"agent-a", by decide⟩

def exampleAdapterId : AdapterId := ⟨"adapter-a", by decide⟩

end Eva
