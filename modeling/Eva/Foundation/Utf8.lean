import Mathlib.Data.List.Basic

/-! # Bytes read as text

`String::from_utf8_lossy`: whatever is not the beginning of a character becomes a
replacement character. Text between other bytes is read back as it was written.
-/

namespace Eva.Text

def utf8 (text : List Char) : List UInt8 := text.flatMap String.utf8EncodeChar

/-- The character that the bytes begin with. -/
def firstChar (bytes : List UInt8) : Option Char := bytes.toByteArray.utf8DecodeChar? 0

def isContinuation (byte : UInt8) : Bool := byte &&& 192 = 128

/-- The second bytes that a sequence of three or four bytes can have. -/
def admitsSecond (first second : UInt8) : Bool :=
  let within (low high : UInt8) := low ≤ second && second ≤ high
  if first = 0xE0 then within 0xA0 0xBF
  else if 0xE1 ≤ first && first ≤ 0xEC then within 0x80 0xBF
  else if first = 0xED then within 0x80 0x9F
  else if 0xEE ≤ first && first ≤ 0xEF then within 0x80 0xBF
  else if first = 0xF0 then within 0x90 0xBF
  else if 0xF1 ≤ first && first ≤ 0xF3 then within 0x80 0xBF
  else if first = 0xF4 then within 0x80 0x8F
  else false

/-- How many bytes one replacement character stands for: the longest beginning of a
character. -/
def brokenLength : List UInt8 → Nat
  | first :: second :: rest =>
      if admitsSecond first second then
        match rest with
        | third :: _ => if 0xF0 ≤ first && isContinuation third then 3 else 2
        | [] => 2
      else 1
  | _ => 1

/-- The text of the bytes after the first `skip`. -/
def decodeLossyFrom : (skip : Nat) → List UInt8 → List Char
  | _, [] => []
  | skip + 1, _ :: rest => decodeLossyFrom skip rest
  | 0, byte :: rest =>
      match firstChar (byte :: rest) with
      | some char => char :: decodeLossyFrom (char.utf8Size - 1) rest
      | none => '�' :: decodeLossyFrom (brokenLength (byte :: rest) - 1) rest

def decodeLossy (bytes : List UInt8) : List Char := decodeLossyFrom 0 bytes

/-! ## Characters -/

theorem firstChar_utf8EncodeChar (char : Char) (rest : List UInt8) :
    firstChar (String.utf8EncodeChar char ++ rest) = some char := by
  rw [firstChar, List.toByteArray_append]
  exact ByteArray.utf8DecodeChar?_utf8EncodeChar_append

theorem firstChar_eq_some (decoded : firstChar bytes = some char) :
    ∃ rest, bytes = String.utf8EncodeChar char ++ rest := by
  obtain ⟨rest, whole⟩ := ByteArray.exists_of_utf8DecodeChar?_eq_some decoded
  refine ⟨rest.data.toList, ?_⟩
  have lists := congrArg (fun array : ByteArray => array.data.toList) whole
  simpa using lists

theorem decodeLossyFrom_drop (skip : Nat) (bytes : List UInt8) :
    decodeLossyFrom skip bytes = decodeLossyFrom 0 (bytes.drop skip) := by
  induction bytes generalizing skip with
  | nil => simp [decodeLossyFrom]
  | cons byte rest induction =>
      cases skip with
      | zero => rfl
      | succ skip => exact induction skip

/-! ## Text between other bytes -/

/-- No byte of a character but the first can stand first. -/
def StartsCharacter (bytes : List UInt8) : Prop :=
  ∀ byte, bytes.head? = some byte → byte.IsUTF8FirstByte

theorem utf8EncodeChar_tail (nonempty : front ≠ [])
    (whole : String.utf8EncodeChar char = front ++ back) (starts : StartsCharacter back) :
    back = [] := by
  cases back with
  | nil => rfl
  | cons byte rest =>
      have first := starts byte rfl
      have inside : front.length < (String.utf8EncodeChar char).length := by simp [whole]
      have same : (String.utf8EncodeChar char)[front.length] = byte := by simp [whole]
      rw [← same, UInt8.isUTF8FirstByte_getElem_utf8EncodeChar] at first
      exact absurd (List.eq_nil_of_length_eq_zero first) nonempty

theorem firstChar_append (nonempty : front ≠ [])
    (starts : StartsCharacter back) : firstChar (front ++ back) = firstChar front := by
  cases whole : firstChar (front ++ back) with
  | none =>
      cases decoded : firstChar front with
      | none => rfl
      | some char =>
          have longer := ByteArray.utf8DecodeChar?_append_eq_some decoded back.toByteArray
          rw [← List.toByteArray_append] at longer
          exact absurd (whole.symm.trans longer) nofun
  | some char =>
      obtain ⟨rest, same⟩ := firstChar_eq_some whole
      rcases List.append_eq_append_iff.mp same with ⟨more, encoded, later⟩ | ⟨more, earlier, -⟩
      · -- The character ends before what starts a new one.
        have ended : more = [] := by
          refine utf8EncodeChar_tail nonempty encoded fun byte head => starts byte ?_
          rw [later, List.head?_append, head]
          rfl
        rw [ended, List.append_nil] at encoded
        rw [← encoded]
        simpa using (firstChar_utf8EncodeChar char []).symm
      · rw [earlier]
        exact (firstChar_utf8EncodeChar char more).symm

theorem admitsSecond_range (admits : admitsSecond lead second) :
    0x80 ≤ second ∧ second ≤ 0xBF := by
  simp only [admitsSecond] at admits
  split_ifs at admits <;>
    simp only [Bool.and_eq_true, decide_eq_true_eq, UInt8.le_iff_toNat_le] at admits ⊢ <;>
    exact ⟨Nat.le_trans (by decide) admits.1, Nat.le_trans admits.2 (by decide)⟩

theorem isContinuation_range (continues : isContinuation byte) :
    0x80 ≤ byte ∧ byte ≤ 0xBF := by
  have table : ∀ number : Fin 256, isContinuation (.ofNat number) →
      0x80 ≤ UInt8.ofNat number ∧ UInt8.ofNat number ≤ 0xBF := by decide +kernel
  simpa using table ⟨byte.toNat, byte.toNat_lt⟩ (by simpa using continues)

theorem not_firstByte_of_range {byte : UInt8} (range : 0x80 ≤ byte ∧ byte ≤ 0xBF) :
    ¬byte.IsUTF8FirstByte := by
  have table : ∀ number : Fin 256, 0x80 ≤ UInt8.ofNat number ∧ UInt8.ofNat number ≤ 0xBF →
      ¬(UInt8.ofNat number).IsUTF8FirstByte := by decide +kernel
  simpa using table ⟨byte.toNat, byte.toNat_lt⟩ (by simpa using range)

/-- A beginning is not continued by what starts a character. -/
theorem brokenLength_append (nonempty : front ≠ []) (starts : StartsCharacter back) :
    brokenLength (front ++ back) = brokenLength front ∧ brokenLength front ≤ front.length := by
  match front with
  | [] => exact absurd rfl nonempty
  | [first] =>
      refine ⟨?_, Nat.le_refl 1⟩
      cases back with
      | nil => rfl
      | cons second rest =>
          have refused : ¬admitsSecond first second := fun admits =>
            not_firstByte_of_range (admitsSecond_range admits) (starts second rfl)
          simp [brokenLength, refused]
  | [first, second] =>
      refine ⟨?_, ?_⟩
      · cases back with
        | nil => rfl
        | cons third rest =>
            have refused : ¬isContinuation third := fun continues =>
              not_firstByte_of_range (isContinuation_range continues) (starts third rfl)
            simp [brokenLength, refused]
      · simp only [brokenLength]
        split <;> simp
  | first :: second :: third :: rest =>
      refine ⟨rfl, ?_⟩
      simp only [brokenLength]
      split_ifs <;> simp

theorem decodeLossyFrom_append (starts : StartsCharacter back) (inside : skip ≤ front.length) :
    decodeLossyFrom skip (front ++ back) = decodeLossyFrom skip front ++ decodeLossy back := by
  induction front generalizing skip with
  | nil =>
      cases Nat.le_zero.mp inside
      rfl
  | cons byte rest induction =>
      cases skip with
      | succ skip => exact induction (Nat.le_of_succ_le_succ inside)
      | zero =>
          have decoded := firstChar_append (List.cons_ne_nil byte rest) starts
          have broken := brokenLength_append (List.cons_ne_nil byte rest) starts
          rw [List.cons_append] at decoded broken
          rw [List.cons_append, decodeLossyFrom, decodeLossyFrom, decoded, broken.1]
          cases first : firstChar (byte :: rest) with
          | none =>
              have length := broken.2
              rw [List.length_cons] at length
              exact congrArg _ (induction (by omega))
          | some char =>
              have length := ByteArray.le_size_of_utf8DecodeChar?_eq_some first
              have fits : char.utf8Size - 1 ≤ rest.length := by
                simp at length
                omega
              exact congrArg _ (induction fits)

theorem decodeLossy_utf8EncodeChar (char : Char) (rest : List UInt8) :
    decodeLossy (String.utf8EncodeChar char ++ rest) = char :: decodeLossy rest := by
  have decoded := firstChar_utf8EncodeChar char rest
  have length := String.length_utf8EncodeChar char
  cases encoded : String.utf8EncodeChar char with
  | nil => exact absurd encoded String.utf8EncodeChar_ne_nil
  | cons byte more =>
      rw [encoded] at decoded length
      rw [decodeLossy, List.cons_append, decodeLossyFrom, ← List.cons_append, decoded]
      have size : char.utf8Size - 1 = more.length := by
        rw [← length, List.length_cons, Nat.add_sub_cancel]
      simp only [size]
      rw [decodeLossyFrom_drop, List.drop_left]
      rfl

theorem decodeLossy_utf8 (text : List Char) (rest : List UInt8) :
    decodeLossy (utf8 text ++ rest) = text ++ decodeLossy rest := by
  induction text with
  | nil => rfl
  | cons char text induction =>
      rw [utf8, List.flatMap_cons, List.append_assoc, decodeLossy_utf8EncodeChar]
      exact congrArg _ induction

theorem utf8_injective : Function.Injective utf8 := by
  intro left right same
  have decoded := congrArg (fun bytes => decodeLossy (bytes ++ [])) same
  simpa only [decodeLossy_utf8, List.append_left_inj] using decoded

theorem startsCharacter_utf8 (nonempty : text ≠ []) (rest : List UInt8) :
    StartsCharacter (utf8 text ++ rest) := by
  cases text with
  | nil => exact absurd rfl nonempty
  | cons char text =>
      intro byte head
      have inside : 0 < (String.utf8EncodeChar char).length :=
        List.length_pos_iff.mpr String.utf8EncodeChar_ne_nil
      have same : (String.utf8EncodeChar char)[0] = byte := by
        rw [utf8, List.flatMap_cons, List.append_assoc, List.head?_append,
          List.head?_eq_getElem?, List.getElem?_eq_getElem inside] at head
        exact Option.some.inj head
      rw [← same]
      exact UInt8.isUTF8FirstByte_getElem_utf8EncodeChar.mpr rfl

/-- Text between other bytes. -/
theorem decodeLossy_append_utf8 (front : List UInt8) (nonempty : text ≠ []) (rest : List UInt8) :
    decodeLossy (front ++ utf8 text ++ rest) = decodeLossy front ++ text ++ decodeLossy rest := by
  rw [List.append_assoc, decodeLossy,
    decodeLossyFrom_append (startsCharacter_utf8 nonempty rest) (Nat.zero_le _),
    decodeLossy_utf8, List.append_assoc]
  rfl

/-! ## Strings -/

theorem fromUTF8?_toUTF8 (value : String) :
    String.fromUTF8? ⟨value.toUTF8.data.toList.toArray⟩ = some value := by
  exact dif_pos value.isValidUTF8

end Eva.Text
