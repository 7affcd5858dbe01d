import Mathlib.Algebra.GroupWithZero.Nat
import Mathlib.Data.List.DropRight

/-! # Text

Text is handled as a list of characters. This file gives the string operations
of the Rust standard library that line formats use, with their documented
behaviour, and the lemmas that make a line format readable again.
-/

namespace Eva.Text

/-! ## Character classes -/

/-- The Unicode `White_Space` property. -/
def isWhitespace (char : Char) : Bool :=
  let code := char.toNat
  (9 ≤ code && code ≤ 13) || code == 0x20 || code == 0x85 || code == 0xA0 ||
    code == 0x1680 || (0x2000 ≤ code && code ≤ 0x200A) || code == 0x2028 ||
    code == 0x2029 || code == 0x202F || code == 0x205F || code == 0x3000

/-- The Unicode general category `Cc`. -/
def isControl (char : Char) : Bool :=
  let code := char.toNat
  code ≤ 0x1F || (0x7F ≤ code && code ≤ 0x9F)

def isAsciiAlphanumeric (char : Char) : Bool :=
  ('a' ≤ char && char ≤ 'z') || ('A' ≤ char && char ≤ 'Z') ||
    ('0' ≤ char && char ≤ '9')

def isLowerHex (char : Char) : Bool :=
  ('0' ≤ char && char ≤ '9') || ('a' ≤ char && char ≤ 'f')

/-! ## Cutting text apart -/

def trimMatches (drops : Char → Bool) (text : List Char) : List Char :=
  ((text.dropWhile drops).reverse.dropWhile drops).reverse

def trim : List Char → List Char := trimMatches isWhitespace

def toAsciiLowercase (text : List Char) : List Char := text.map Char.toLower

def splitWhitespace (text : List Char) : List (List Char) :=
  (text.splitOnP isWhitespace).filter fun token => !token.isEmpty

def contains (text pattern : List Char) : Bool :=
  text.tails.any fun rest => pattern.isPrefixOf rest

/-- `str::trim(text).is_empty()`. -/
def isBlank (text : List Char) : Bool := text.all isWhitespace

def stripPrefix : (expected text : List Char) → Option (List Char)
  | [], text => some text
  | _ :: _, [] => none
  | first :: expected, char :: text =>
      if first = char then stripPrefix expected text else none

def splitOnce (separator : Char) : List Char → Option (List Char × List Char)
  | [] => none
  | char :: text =>
      if char = separator then some ([], text)
      else (splitOnce separator text).map fun (left, right) => (char :: left, right)

/-- A line that was ended by a line feed also loses one carriage return. -/
def stripCarriageReturn (line : List Char) : List Char :=
  if line.getLast? = some '\r' then line.dropLast else line

/-- `str::lines`: no line is produced for the empty text after the last line
feed, and the unfinished last line keeps its carriage return. -/
def lines (text : List Char) : List (List Char) :=
  let parts := text.splitOn '\n'
  parts.dropLast.map stripCarriageReturn ++
    (match parts.getLast? with
      | some (char :: rest) => [char :: rest]
      | _ => [])

def unlines (parts : List (List Char)) : List Char := parts.flatMap (· ++ ['\n'])

theorem trim_eq_self (visible : ∀ char ∈ text, isWhitespace char = false) : trim text = text := by
  have kept : ∀ text : List Char, (∀ char ∈ text, isWhitespace char = false) →
      text.dropWhile isWhitespace = text := by
    intro text visible
    cases text with
    | nil => rfl
    | cons char text => simp [visible char (by simp)]
  rw [trim, trimMatches, kept text visible, kept text.reverse (by simpa using visible), List.reverse_reverse]

theorem trim_trim (text : List Char) : trim (trim text) = trim text := by
  -- Nothing more is cut off in front of what was cut at its end.
  have front : ∀ rest : List Char, rest.dropWhile isWhitespace = rest →
      (rest.rdropWhile isWhitespace).dropWhile isWhitespace = rest.rdropWhile isWhitespace := by
    intro rest visible
    cases kept : rest.rdropWhile isWhitespace with
    | nil => rfl
    | cons char tail =>
        have starts := List.rdropWhile_prefix isWhitespace rest
        rw [kept] at starts
        obtain ⟨ending, rfl⟩ := starts
        rw [List.dropWhile_eq_self_iff] at visible ⊢
        intro positive
        exact visible (by simp)
  change ((trim text).dropWhile isWhitespace).rdropWhile isWhitespace = _
  rw [show trim text = (text.dropWhile isWhitespace).rdropWhile isWhitespace from rfl,
    front _ (List.dropWhile_idempotent _ _), List.rdropWhile_idempotent]

theorem stripPrefix_append (expected rest : List Char) :
    stripPrefix expected (expected ++ rest) = some rest := by
  induction expected with
  | nil => rfl
  | cons first expected induction => simpa [stripPrefix] using induction

theorem stripPrefix_eq_some_iff :
    stripPrefix expected text = some rest ↔ text = expected ++ rest := by
  constructor
  · induction expected generalizing text with
    | nil => simp [stripPrefix]
    | cons first expected induction =>
        cases text with
        | nil => simp [stripPrefix]
        | cons char text =>
            intro stripped
            simp only [stripPrefix] at stripped
            split at stripped
            next same => simp [← same, induction stripped]
            next => cases stripped
  · rintro rfl
    exact stripPrefix_append expected rest

theorem splitOnce_append (absent : separator ∉ left) (right : List Char) :
    splitOnce separator (left ++ separator :: right) = some (left, right) := by
  induction left with
  | nil => simp [splitOnce]
  | cons char left induction =>
      simp only [List.mem_cons, not_or] at absent
      simp [splitOnce, Ne.symm absent.1, induction absent.2]

theorem mem_intercalate (member : char ∈ [separator].intercalate parts) :
    char = separator ∨ ∃ part ∈ parts, char ∈ part := by
  induction parts with
  | nil => simp [List.intercalate] at member
  | cons part parts induction =>
      cases parts with
      | nil => exact .inr ⟨part, by simp, by simpa [List.intercalate] using member⟩
      | cons next parts =>
          simp only [List.intercalate_cons_cons, List.mem_append, List.mem_singleton] at member
          rcases member with (inPart | isSeparator) | inRest
          · exact .inr ⟨part, by simp, inPart⟩
          · exact .inl isSeparator
          · exact (induction inRest).imp_right fun ⟨part, partMember, inPart⟩ =>
              ⟨part, List.mem_cons_of_mem _ partMember, inPart⟩

theorem utf8ByteSize_ofList (text : List Char) :
    (String.ofList text).utf8ByteSize = (text.map Char.utf8Size).sum := by
  induction text with
  | nil => rfl
  | cons char text induction =>
      have split : String.ofList (char :: text) =
          String.singleton char ++ String.ofList text := by
        simp
      rw [split, String.utf8ByteSize_append, String.utf8ByteSize_singleton, induction]
      simp

theorem utf8Size_of_isLowerHex (lower : isLowerHex char) :
    char.utf8Size = 1 := by
  simp only [isLowerHex, Char.le_def, UInt32.le_iff_toNat_le, Bool.or_eq_true,
    Bool.and_eq_true, decide_eq_true_eq] at lower
  rw [Char.utf8Size_eq_one_iff, UInt32.le_iff_toNat_le]
  simp at lower ⊢
  omega

theorem utf8ByteSize_of_utf8Size (single : ∀ char ∈ text, char.utf8Size = 1) :
    (String.ofList text).utf8ByteSize = text.length := by
  have sizes : text.map Char.utf8Size = List.replicate text.length 1 := by
    rw [List.eq_replicate_iff, List.length_map]
    refine ⟨rfl, fun size member => ?_⟩
    obtain ⟨char, held, rfl⟩ := List.mem_map.mp member
    exact single char held
  rw [utf8ByteSize_ofList, sizes, List.sum_replicate_nat, Nat.mul_one]

theorem utf8ByteSize_of_isLowerHex (lower : ∀ char ∈ text, isLowerHex char) :
    (String.ofList text).utf8ByteSize = text.length :=
  utf8ByteSize_of_utf8Size fun char member => utf8Size_of_isLowerHex (lower char member)

theorem isAsciiAlphanumeric_of_isLowerHex (lower : isLowerHex char) :
    isAsciiAlphanumeric char := by
  simp only [isLowerHex, isAsciiAlphanumeric, Char.le_def, UInt32.le_iff_toNat_le,
    Bool.or_eq_true, Bool.and_eq_true, decide_eq_true_eq] at lower ⊢
  simp at lower ⊢
  omega

/-- A text that stays within its line. -/
def Plain (text : List Char) : Prop := '\n' ∉ text ∧ '\r' ∉ text

theorem plain_append :
    Plain (left ++ right) ↔ Plain left ∧ Plain right := by
  simp only [Plain, List.mem_append, not_or]
  exact and_and_and_comm

theorem plain_of_forall {allowed : Char → Bool}
    (all : ∀ char ∈ text, allowed char) (feed : allowed '\n' = false)
    (carriage : allowed '\r' = false) : Plain text := by
  constructor
  · intro member
    exact absurd (all _ member) (by simp [feed])
  · intro member
    exact absurd (all _ member) (by simp [carriage])

theorem flatMap_append_eq_intercalate (mark : Char) (parts : List (List Char)) :
    parts.flatMap (· ++ [mark]) = [mark].intercalate (parts ++ [[]]) := by
  induction parts with
  | nil => rfl
  | cons part parts induction =>
      rw [List.flatMap_cons, induction, List.cons_append]
      cases parts with
      | nil => simp [List.intercalate]
      | cons next parts => simp [List.intercalate_cons_cons]

/-- Parts that are each ended by a mark are found again. -/
theorem splitOn_flatMap_append {parts : List (List Char)}
    (absent : ∀ part ∈ parts, mark ∉ part) :
    (parts.flatMap (· ++ [mark])).splitOn mark = parts ++ [[]] := by
  rw [flatMap_append_eq_intercalate]
  apply List.splitOn_intercalate
  · intro part member
    rcases List.mem_append.mp member with member | member
    · exact absent part member
    · simp_all
  · simp

/-- The text keeps its place in a line that a line feed ends. -/
def InLine (text : List Char) : Prop := '\n' ∉ text ∧ text.getLast? ≠ some '\r'

theorem Plain.inLine (plain : Plain text) : InLine text :=
  ⟨plain.1, fun last => plain.2 (List.mem_of_getLast? last)⟩

theorem InLine.append (plain : Plain left) (inLine : InLine right) :
    InLine (left ++ right) := by
  refine ⟨fun member => ?_, fun last => ?_⟩
  · rcases List.mem_append.mp member with member | member
    · exact plain.1 member
    · exact inLine.1 member
  · rw [List.getLast?_append] at last
    cases ends : right.getLast? with
    | none => exact plain.inLine.2 (by simpa [ends] using last)
    | some char => exact inLine.2 (by simpa [ends] using last)

/-- Lines without line feeds are read back from their concatenation with a line feed after
each, but for a carriage return at their end. -/
theorem lines_unlines_strip (noFeed : ∀ part ∈ parts, '\n' ∉ part) :
    lines (unlines parts) = parts.map stripCarriageReturn := by
  simp [lines, unlines, splitOn_flatMap_append noFeed]

theorem stripCarriageReturn_of_getLast? (noReturn : part.getLast? ≠ some '\r') :
    stripCarriageReturn part = part := by
  simp [stripCarriageReturn, noReturn]

theorem lines_unlines (noFeed : ∀ part ∈ parts, '\n' ∉ part)
    (noReturn : ∀ part ∈ parts, part.getLast? ≠ some '\r') : lines (unlines parts) = parts := by
  rw [lines_unlines_strip noFeed]
  conv_rhs => rw [← List.map_id parts]
  apply List.map_congr_left
  intro part member
  exact stripCarriageReturn_of_getLast? (noReturn part member)

/-- Where two joined texts meet: their marks stand in one place, or one of them further on. -/
theorem append_mark_eq_iff {left right leftRest rightRest : List Char} :
    left ++ mark :: leftRest = right ++ mark :: rightRest ↔
      (left = right ∧ leftRest = rightRest) ∨
      (∃ middle, right = left ++ mark :: middle ∧ leftRest = middle ++ mark :: rightRest) ∨
      ∃ middle, left = right ++ mark :: middle ∧ rightRest = middle ++ mark :: leftRest := by
  constructor
  · intro same
    rcases List.append_eq_append_iff.mp same with
      ⟨between, extended, rest⟩ | ⟨between, extended, rest⟩
    · cases between with
      | nil => exact .inl ⟨by simpa using extended.symm, by simpa using rest⟩
      | cons char middle =>
          obtain ⟨rfl, tails⟩ := List.cons.inj rest
          exact .inr (.inl ⟨middle, extended, tails⟩)
    · cases between with
      | nil => exact .inl ⟨by simpa using extended, by simpa using rest.symm⟩
      | cons char middle =>
          obtain ⟨rfl, tails⟩ := List.cons.inj rest
          exact .inr (.inr ⟨middle, extended, tails⟩)
  · rintro (⟨rfl, rfl⟩ | ⟨middle, rfl, rfl⟩ | ⟨middle, rfl, rfl⟩) <;> simp

end Eva.Text
