import Eva.Foundation.Escape
import Eva.Foundation.Numerals

/-! # Encoded text fields

The percent encoding that keeps line feeds, carriage returns, tabs, bars and
equals signs out of the values of the line formats.
-/

namespace Eva.Storage

def encodeField (value : String) : List Char :=
  value.toList
    |> Text.replaceChar '%' ['%', '2', '5']
    |> Text.replaceChar '\n' ['%', '0', 'A']
    |> Text.replaceChar '\r' ['%', '0', 'D']
    |> Text.replaceChar '\t' ['%', '0', '9']
    |> Text.replaceChar '|' ['%', '7', 'C']
    |> Text.replaceChar '=' ['%', '3', 'D']

def decodeField (value : List Char) : String :=
  String.ofList <|
    value
      |> Text.replaceAll ['%', '0', 'A'] ['\n']
      |> Text.replaceAll ['%', '0', 'D'] ['\r']
      |> Text.replaceAll ['%', '0', '9'] ['\t']
      |> Text.replaceAll ['%', '7', 'C'] ['|']
      |> Text.replaceAll ['%', '3', 'D'] ['=']
      |> Text.replaceAll ['%', '2', '5'] ['%']

def decodeOptionalField (value : List Char) : Option String :=
  if value = [] then none else some (decodeField value)

def encodeOptionalField (value : Option String) : List Char :=
  (value.map encodeField).getD []

def optionalNumber {bits : Nat} (number : Option (Unsigned bits)) : String :=
  (number.map Unsigned.text).getD ""

/-! ## The codec as an escape table -/

/-- The table that the six replacements of `encodeField` build up. -/
def fieldEscapes : Text.EscapeTable
  | '%' => some ['2', '5']
  | '\n' => some ['0', 'A']
  | '\r' => some ['0', 'D']
  | '\t' => some ['0', '9']
  | '|' => some ['7', 'C']
  | '=' => some ['3', 'D']
  | _ => none

private theorem fieldEscapes_cases (escaped : fieldEscapes char = some code) :
    (char = '%' ∧ code = ['2', '5']) ∨ (char = '\n' ∧ code = ['0', 'A']) ∨
      (char = '\r' ∧ code = ['0', 'D']) ∨ (char = '\t' ∧ code = ['0', '9']) ∨
      (char = '|' ∧ code = ['7', 'C']) ∨ (char = '=' ∧ code = ['3', 'D']) := by
  unfold fieldEscapes at escaped
  split at escaped <;> simp_all

theorem fieldEscapes_unambiguous : Text.Unambiguous '%' 2 fieldEscapes where
  markerEscaped := rfl
  codeWidth := by
    intro char code escaped
    rcases fieldEscapes_cases escaped with
      ⟨-, rfl⟩ | ⟨-, rfl⟩ | ⟨-, rfl⟩ | ⟨-, rfl⟩ | ⟨-, rfl⟩ | ⟨-, rfl⟩ <;> rfl
  codeUnmarked := by
    intro char code escaped
    rcases fieldEscapes_cases escaped with
      ⟨-, rfl⟩ | ⟨-, rfl⟩ | ⟨-, rfl⟩ | ⟨-, rfl⟩ | ⟨-, rfl⟩ | ⟨-, rfl⟩ <;> decide
  codeUnique := by
    intro left right code first second
    rcases fieldEscapes_cases first with
      ⟨rfl, rfl⟩ | ⟨rfl, rfl⟩ | ⟨rfl, rfl⟩ | ⟨rfl, rfl⟩ | ⟨rfl, rfl⟩ | ⟨rfl, rfl⟩ <;>
      simpa [eq_comm] using fieldEscapes_cases second

/-- The table while `encodeField` runs: each replacement adds one character. -/
theorem encodeField_eq (value : String) :
    encodeField value = Text.escapeWith '%' fieldEscapes value.toList := by
  unfold encodeField
  conv_lhs => rw [← Text.escapeWith_empty '%' value.toList]
  rw [Text.replaceChar_escapeWith, Text.replaceChar_escapeWith, Text.replaceChar_escapeWith,
    Text.replaceChar_escapeWith, Text.replaceChar_escapeWith, Text.replaceChar_escapeWith]
  · congr 1
    funext char
    unfold fieldEscapes
    split <;> simp_all
  all_goals simp [Function.update_apply]
  all_goals
    intro other used
    repeat' split
    all_goals simp +contextual [eq_comm]

theorem decodeField_encodeField (value : String) :
    decodeField (encodeField value) = value := by
  have whole := fieldEscapes_unambiguous
  have noFeed := whole.erase '\n' (by decide)
  have noReturn := noFeed.erase '\r' (by decide)
  have noTab := noReturn.erase '\t' (by decide)
  have noBar := noTab.erase '|' (by decide)
  have noEquals := noBar.erase '=' (by decide)
  rw [encodeField_eq, decodeField, Text.replaceAll_escapeWith whole rfl,
    Text.replaceAll_escapeWith noFeed rfl, Text.replaceAll_escapeWith noReturn rfl,
    Text.replaceAll_escapeWith noTab rfl, Text.replaceAll_escapeWith noBar rfl,
    Text.replaceAll_escapeWith noEquals rfl]
  have nothing : Function.update (Function.update (Function.update (Function.update
      (Function.update (Function.update fieldEscapes '\n' none) '\r' none) '\t' none)
      '|' none) '=' none) '%' none = fun _ => none := by
    funext char
    simp only [Function.update_apply, fieldEscapes]
    all_goals simp_all
  rw [nothing, Text.escapeWith_empty, String.ofList_toList]

/-! ## What encoded values look like -/

theorem encodeField_eq_nil_iff : encodeField value = [] ↔ value = "" := by
  rw [encodeField_eq, Text.escapeWith_eq_nil_iff, String.toList_eq_nil_iff]

theorem notMem_encodeField (value : String)
    (reserved : char ∈ ['\n', '\r', '\t', '|', '=']) : char ∉ encodeField value := by
  rw [encodeField_eq]
  intro member
  rcases Text.mem_escapeWith member with ⟨unescaped, -⟩ | marker | ⟨source, code, escaped, inCode⟩
  · simp only [List.mem_cons, List.not_mem_nil, or_false] at reserved
    rcases reserved with rfl | rfl | rfl | rfl | rfl <;> simp [fieldEscapes] at unescaped
  · subst marker
    exact absurd reserved (by decide)
  · simp only [List.mem_cons, List.not_mem_nil, or_false] at reserved
    rcases fieldEscapes_cases escaped with
      ⟨-, rfl⟩ | ⟨-, rfl⟩ | ⟨-, rfl⟩ | ⟨-, rfl⟩ | ⟨-, rfl⟩ | ⟨-, rfl⟩ <;>
      rcases reserved with rfl | rfl | rfl | rfl | rfl <;> simp at inCode

theorem plain_encodeField (value : String) : Text.Plain (encodeField value) :=
  ⟨notMem_encodeField value (by decide), notMem_encodeField value (by decide)⟩

theorem plain_encodeOptionalField (value : Option String) :
    Text.Plain (encodeOptionalField value) := by
  cases value with
  | none => exact ⟨nofun, nofun⟩
  | some value => simpa [encodeOptionalField] using plain_encodeField value

theorem plain_optionalNumber (number : Option (Unsigned bits)) :
    Text.Plain (optionalNumber number).toList := by
  cases number with
  | none => exact ⟨nofun, nofun⟩
  | some number => exact Text.plain_text number

theorem parseUnsigned_optionalNumber (number : Option (Unsigned bits)) :
    Text.parseUnsigned bits (optionalNumber number).toList = number := by
  cases number with
  | none => simp [optionalNumber, Text.parseUnsigned]
  | some number => exact Text.parseUnsigned_text number

theorem decodeOptionalField_encodeOptionalField (value : Option String) :
    decodeOptionalField (encodeOptionalField value) = value.filter (· ≠ "") := by
  cases value with
  | none => rfl
  | some value =>
      by_cases empty : value = ""
      · subst empty
        rfl
      · have encoded : encodeField value ≠ [] := mt encodeField_eq_nil_iff.mp empty
        simp [encodeOptionalField, decodeOptionalField, encoded, decodeField_encodeField,
          Option.filter, empty]

@[simp] theorem encodeOptionalField_filter (value : Option String) :
    encodeOptionalField (value.filter (· ≠ "")) = encodeOptionalField value := by
  cases value with
  | none => rfl
  | some value =>
      by_cases empty : value = ""
      · subst empty
        rfl
      · simp [Option.filter, empty]

theorem decodeField_of_notMem (unmarked : '%' ∉ value) :
    decodeField value = String.ofList value := by
  have unchanged : ∀ code replacement,
      Text.replaceAll ('%' :: code) replacement value = value :=
    fun code replacement => Text.replaceAll_of_notMem unmarked code replacement
  simp only [decodeField, unchanged]

theorem decodeField_ne_empty (nonempty : value ≠ []) :
    decodeField value ≠ "" := by
  rw [decodeField, Ne, ← String.toList_eq_nil_iff, String.toList_ofList]
  iterate 6 refine Text.replaceAll_ne_nil ?_ (by simp)
  exact nonempty

theorem decodeOptionalField_ne_empty (value : List Char) :
    decodeOptionalField value ≠ some "" := by
  unfold decodeOptionalField
  split
  next => simp
  next nonempty => simpa using decodeField_ne_empty nonempty

attribute [irreducible] encodeField decodeField

theorem filter_of_ne (nonempty : value ≠ some "") : value.filter (· ≠ "") = value := by
  cases value with
  | none => rfl
  | some text =>
      have visible : text ≠ "" := fun empty => nonempty (congrArg some empty)
      simp [Option.filter, visible]

end Eva.Storage
