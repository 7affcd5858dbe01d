import Eva.Foundation.Unsigned
import Eva.Foundation.Text

/-! # Numbers and bytes as text -/

namespace Eva

namespace Text

/-! ## Decimal numbers -/

def formatUnsigned {bits : Nat} (number : Unsigned bits) : List Char :=
  Nat.toDigits 10 number.value

/-- `str::parse` at an unsigned type: one leading plus sign is accepted. -/
def parseUnsigned (bits : Nat) (text : List Char) : Option (Unsigned bits) :=
  let digits := match text with
    | '+' :: digits => digits
    | digits => digits
  if digits = [] ∨ ¬digits.all Char.isDigit then none
  else Unsigned.ofNat? bits (Nat.ofDigitChars 10 digits 0)

theorem formatUnsigned_isDigit (number : Unsigned bits) (char : Char)
    (member : char ∈ formatUnsigned number) : char.isDigit :=
  Nat.isDigit_of_mem_toDigits (by decide) (by decide) member

theorem plain_formatUnsigned (number : Unsigned bits) :
    Plain (formatUnsigned number) :=
  plain_of_forall (formatUnsigned_isDigit number) (by decide) (by decide)

theorem formatUnsigned_ne_nil (number : Unsigned bits) :
    formatUnsigned number ≠ [] := by
  simp [formatUnsigned]

theorem parseUnsigned_formatUnsigned (number : Unsigned bits) :
    parseUnsigned bits (formatUnsigned number) = some number := by
  have digits : (formatUnsigned number).all Char.isDigit := by
    simpa using formatUnsigned_isDigit number
  have unsigned : ∀ rest, formatUnsigned number ≠ '+' :: rest := by
    intro rest signed
    have digit := formatUnsigned_isDigit number '+' (by simp [signed])
    exact absurd digit (by decide)
  have value : Nat.ofDigitChars 10 (formatUnsigned number) 0 = number.value :=
    Nat.ofDigitChars_toDigits (by decide) (by decide)
  have inRange := number.inRange
  unfold parseUnsigned
  split
  next rest signed => exact absurd signed (unsigned rest)
  next =>
    simp only [formatUnsigned_ne_nil, digits, not_true_eq_false, or_self, ↓reduceIte, value]
    simp [Unsigned.ofNat?, inRange]

theorem formatUnsigned_injective (same : formatUnsigned left = formatUnsigned right) :
    left = right := by
  have parsed := parseUnsigned_formatUnsigned left
  rw [same, parseUnsigned_formatUnsigned] at parsed
  exact (Option.some.inj parsed).symm

/-- The number at the end of a text, and what stands before it. -/
theorem append_formatUnsigned_inj {first second : Unsigned bits} (noDigit : mark.isDigit = false)
    (same : left ++ mark :: formatUnsigned first = right ++ mark :: formatUnsigned second) :
    left = right ∧ first = second := by
  have trailing (stem : List Char) (number : Unsigned bits) :
      (stem ++ mark :: formatUnsigned number).reverse.takeWhile Char.isDigit =
        (formatUnsigned number).reverse := by
    have digits : ∀ char ∈ (formatUnsigned number).reverse, char.isDigit := by
      intro char member
      exact formatUnsigned_isDigit number char (List.mem_reverse.mp member)
    rw [List.reverse_append, List.reverse_cons, List.append_assoc,
      List.takeWhile_append_of_pos digits]
    simp [noDigit]
  have numbers := trailing left first
  rw [same, trailing, List.reverse_inj] at numbers
  have equal := formatUnsigned_injective numbers
  rw [equal, List.append_cancel_right_eq] at same
  exact ⟨same, equal.symm⟩

/-- `{:0width}`: zeros in front fill up the width. -/
def padUnsigned {bits : Nat} (width : Nat) (number : Unsigned bits) : List Char :=
  List.replicate (width - (formatUnsigned number).length) '0' ++ formatUnsigned number

theorem padUnsigned_ne_nil (width : Nat) (number : Unsigned bits) :
    padUnsigned width number ≠ [] := by
  simp [padUnsigned, formatUnsigned_ne_nil]

theorem padUnsigned_injective {left right : Unsigned bits}
    (same : padUnsigned width left = padUnsigned width right) : left = right := by
  have leading : ∀ (count : Nat) (digits : List Char),
      Nat.ofDigitChars 10 (List.replicate count '0' ++ digits) 0 =
        Nat.ofDigitChars 10 digits 0 := by
    intro count digits
    induction count with
    | zero => rfl
    | succ count induction => rw [List.replicate_succ, List.cons_append, ← induction]; rfl
  have value : ∀ number : Unsigned bits,
      Nat.ofDigitChars 10 (padUnsigned width number) 0 = number.value := by
    intro number
    rw [padUnsigned, leading]
    exact Nat.ofDigitChars_toDigits (by decide) (by decide)
  rw [Unsigned.eq_iff, ← value left, ← value right, same]

attribute [irreducible] formatUnsigned parseUnsigned

/-! ## Bytes as lower-case hexadecimal digits -/

def hexDigit (nibble : Nat) : Char :=
  if nibble < 10 then Char.ofNat ('0'.toNat + nibble)
  else Char.ofNat ('a'.toNat + (nibble - 10))

def hexNibble (digit : Char) : Nat :=
  if '0' ≤ digit ∧ digit ≤ '9' then digit.toNat - '0'.toNat
  else digit.toNat - 'a'.toNat + 10

def encodeHex (bytes : List UInt8) : List Char :=
  bytes.flatMap fun byte => [hexDigit (byte.toNat / 16), hexDigit (byte.toNat % 16)]

def decodeHexPairs : List Char → List UInt8
  | high :: low :: digits =>
      UInt8.ofNat (hexNibble high * 16 + hexNibble low) :: decodeHexPairs digits
  | _ => []

/-- `none` when the text is not an even number of lower-case digits. -/
def decodeHex (text : List Char) : Option (List UInt8) :=
  if text.length % 2 ≠ 0 ∨ ¬text.all isLowerHex then none
  else some (decodeHexPairs text)

theorem hexDigit_isLowerHex : ∀ nibble < 16, isLowerHex (hexDigit nibble) := by
  decide

private theorem hexNibble_hexDigit : ∀ nibble < 16, hexNibble (hexDigit nibble) = nibble := by
  decide

theorem hexDigit_hexNibble (lower : isLowerHex digit) :
    hexNibble digit < 16 ∧ hexDigit (hexNibble digit) = digit := by
  simp only [isLowerHex, Bool.or_eq_true, Bool.and_eq_true, decide_eq_true_eq] at lower
  unfold hexNibble
  rcases lower with decimal | letter
  · rw [if_pos decimal]
    have range : '0'.toNat ≤ digit.toNat ∧ digit.toNat ≤ '9'.toNat := decimal
    simp only [Char.reduceToNat] at range ⊢
    refine ⟨by omega, ?_⟩
    rw [hexDigit, if_pos (by omega), show '0'.toNat = 48 from rfl, Nat.add_sub_cancel' range.1,
      Char.ofNat_toNat]
  · simp only [Char.le_def, UInt32.le_iff_toNat_le] at letter ⊢
    have range : 'a'.toNat ≤ digit.toNat ∧ digit.toNat ≤ 'f'.toNat := letter
    simp only [Char.reduceToNat] at range
    have other : ¬('0'.val.toNat ≤ digit.val.toNat ∧ digit.val.toNat ≤ '9'.val.toNat) := by
      simp
      omega
    rw [if_neg other]
    simp only [Char.reduceToNat]
    refine ⟨by omega, ?_⟩
    rw [hexDigit, if_neg (by omega), show 'a'.toNat = 97 from rfl, Nat.add_sub_cancel,
      Nat.add_sub_cancel' range.1, Char.ofNat_toNat]

theorem encodeHex_isLowerHex (bytes : List UInt8) :
    ∀ char ∈ encodeHex bytes, isLowerHex char := by
  intro char member
  obtain ⟨byte, _, member⟩ := List.mem_flatMap.mp member
  have inRange := byte.toNat_lt
  simp only [List.mem_cons, List.not_mem_nil, or_false] at member
  rcases member with rfl | rfl
  · exact hexDigit_isLowerHex _ (by omega)
  · exact hexDigit_isLowerHex _ (by omega)

theorem encodeHex_length (bytes : List UInt8) :
    (encodeHex bytes).length = 2 * bytes.length := by
  induction bytes with
  | nil => rfl
  | cons byte bytes induction =>
      simp only [encodeHex, List.flatMap_cons, List.length_append] at induction ⊢
      simp only [induction, List.length_cons, List.length_nil]
      omega

theorem decodeHex_encodeHex (bytes : List UInt8) :
    decodeHex (encodeHex bytes) = some bytes := by
  have lower : (encodeHex bytes).all isLowerHex := by
    simpa using encodeHex_isLowerHex bytes
  have pairs : decodeHexPairs (encodeHex bytes) = bytes := by
    induction bytes with
    | nil => rfl
    | cons byte bytes induction =>
        have inRange := byte.toNat_lt
        have joined : UInt8.ofNat (byte.toNat / 16 * 16 + byte.toNat % 16) = byte := by
          rw [Nat.div_add_mod']
          exact UInt8.ofNat_toNat
        have lowerRest : (encodeHex bytes).all isLowerHex := by
          simpa using encodeHex_isLowerHex bytes
        simp only [encodeHex, List.flatMap_cons, List.cons_append, List.nil_append,
          decodeHexPairs, hexNibble_hexDigit _ (show byte.toNat / 16 < 16 by omega),
          hexNibble_hexDigit _ (show byte.toNat % 16 < 16 by omega), joined]
        exact congrArg _ (induction lowerRest)
  simp [decodeHex, encodeHex_length, lower, pairs]

attribute [irreducible] encodeHex decodeHex

/-! ## Hexadecimal digits of either case -/

def isHexDigit (char : Char) : Bool := isLowerHex char || ('A' ≤ char && char ≤ 'F')

def hexValue (digit : Char) : Nat :=
  if 'A' ≤ digit ∧ digit ≤ 'F' then digit.toNat - 'A'.toNat + 10 else hexNibble digit

def readHexPairs : List Char → List UInt8
  | high :: low :: digits =>
      UInt8.ofNat (hexValue high * 16 + hexValue low) :: readHexPairs digits
  | _ => []

private theorem hexValue_of_isLowerHex (lower : isLowerHex digit) :
    hexValue digit = hexNibble digit := by
  refine if_neg ?_
  simp only [isLowerHex, Char.le_def, UInt32.le_iff_toNat_le, Bool.or_eq_true,
    Bool.and_eq_true, decide_eq_true_eq] at lower ⊢
  simp at lower ⊢
  omega

theorem readHexPairs_of_isLowerHex
    (lower : ∀ char ∈ digits, isLowerHex char) : readHexPairs digits = decodeHexPairs digits := by
  fun_induction readHexPairs digits with
  | case1 high low digits induction =>
      have rest := induction fun char member =>
        lower char (List.mem_cons_of_mem _ (List.mem_cons_of_mem _ member))
      rw [decodeHexPairs, rest, hexValue_of_isLowerHex (lower high (by simp)),
        hexValue_of_isLowerHex (lower low (by simp))]
  | case2 digits short => rw [decodeHexPairs]; exact short

theorem readHexPairs_encodeHex (bytes : List UInt8) : readHexPairs (encodeHex bytes) = bytes := by
  have decoded := decodeHex_encodeHex bytes
  rw [readHexPairs_of_isLowerHex (encodeHex_isLowerHex bytes)]
  unfold decodeHex at decoded
  split at decoded
  next => cases decoded
  next => exact Option.some.inj decoded

end Text

def Unsigned.text {bits : Nat} (number : Unsigned bits) : String :=
  String.ofList (Text.formatUnsigned number)

theorem Text.plain_text (number : Unsigned bits) : Plain number.text.toList := by
  rw [Unsigned.text, String.toList_ofList]
  exact plain_formatUnsigned number

@[simp] theorem Text.parseUnsigned_text (number : Unsigned bits) :
    parseUnsigned bits number.text.toList = some number := by
  rw [Unsigned.text, String.toList_ofList, parseUnsigned_formatUnsigned]

theorem Unsigned.text_toList_ne_nil (number : Unsigned bits) : number.text.toList ≠ [] := by
  rw [Unsigned.text, String.toList_ofList]
  exact Text.formatUnsigned_ne_nil number

@[simp] theorem Unsigned.text_ne_empty (number : Unsigned bits) : number.text ≠ "" :=
  fun empty => number.text_toList_ne_nil (empty ▸ rfl)

end Eva
