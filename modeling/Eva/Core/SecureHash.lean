import Eva.Core.Digest
import Mathlib.Tactic.IntervalCases

/-! # The secure hash standard

SHA-256 as FIPS 180-4 states it: by recursion over the words of the schedule, over the
rounds of a block and over the blocks of the padded message.
-/

namespace Eva.SecureHash

/-- The word follows the point in the binary expansion of a root of the number. -/
def IsRootFraction (degree number : Nat) (word : UInt32) : Prop :=
  ∃ whole < number, (whole * 2 ^ 32 + word.toNat) ^ degree ≤ number * 2 ^ (32 * degree) ∧
    number * 2 ^ (32 * degree) < (whole * 2 ^ 32 + word.toNat + 1) ^ degree

def primes : List Nat :=
  (List.range 312).filter fun number =>
    2 ≤ number ∧ ∀ factor < number, factor ∣ number → factor = 1

def rotr (count : Nat) (word : UInt32) : UInt32 := ⟨word.toBitVec.rotateRight count⟩

def choose (x y z : UInt32) : UInt32 := (x &&& y) ^^^ (~~~x &&& z)

def majority (x y z : UInt32) : UInt32 := (x &&& y) ^^^ (x &&& z) ^^^ (y &&& z)

def upperSigma0 (x : UInt32) : UInt32 := rotr 2 x ^^^ rotr 13 x ^^^ rotr 22 x

def upperSigma1 (x : UInt32) : UInt32 := rotr 6 x ^^^ rotr 11 x ^^^ rotr 25 x

def lowerSigma0 (x : UInt32) : UInt32 := rotr 7 x ^^^ rotr 18 x ^^^ x >>> 3

def lowerSigma1 (x : UInt32) : UInt32 := rotr 17 x ^^^ rotr 19 x ^^^ x >>> 10

/-! ## Padding -/

theorem exists_zeros (length : Nat) : ∃ zeros, (length + 1 + zeros) % 64 = 56 :=
  ⟨(119 - length % 64) % 64, by omega⟩

/-- The fewest zeros that leave eight bytes of a block for the number of bits. -/
def pad (message : List UInt8) : List UInt8 :=
  message ++ [0x80] ++ List.replicate (Nat.find (exists_zeros message.length)) 0 ++
    (List.range 8).map fun index => UInt8.ofNat (8 * message.length / 256 ^ (7 - index))

def block (message : List UInt8) (index : Nat) : List UInt8 :=
  ((pad message).drop (64 * index)).take 64

/-! ## One block -/

def messageWord (block : List UInt8) (index : Nat) : UInt32 :=
  UInt32.ofNat
    (((block.drop (4 * index)).take 4).foldl (fun value byte => 256 * value + byte.toNat) 0)

def scheduleWord (block : List UInt8) (index : Nat) : UInt32 :=
  if index < 16 then messageWord block index
  else lowerSigma1 (scheduleWord block (index - 2)) + scheduleWord block (index - 7) +
    lowerSigma0 (scheduleWord block (index - 15)) + scheduleWord block (index - 16)

def rounds (block : List UInt8) (start : Sha256.Working) : Nat → Sha256.Working
  | 0 => start
  | count + 1 =>
      let ⟨a, b, c, d, e, f, g, h⟩ := rounds block start count
      let first := h + upperSigma1 e + choose e f g + Sha256.round.getD count 0 +
        scheduleWord block count
      let second := upperSigma0 a + majority a b c
      ⟨first + second, a, b, c, d + first, e, f, g⟩

def addRounds (previous : List UInt32) (block : List UInt8) : List UInt32 :=
  let ⟨a, b, c, d, e, f, g, h⟩ := rounds block (.ofState previous) 64
  previous.zipWith (· + ·) [a, b, c, d, e, f, g, h]

def hash (message : List UInt8) : Nat → List UInt32
  | 0 => Sha256.initial
  | count + 1 => addRounds (hash message count) (block message count)

/-- The hash value of a message, in lower-case hexadecimal digits. -/
def hexDigest (message : List UInt8) : List Char :=
  (hash message ((pad message).length / 64)).flatMap Sha256.wordHex

/-! ## The digest computes it -/

private theorem shift_or (value : Nat) (byte : UInt8) :
    UInt32.ofNat value <<< 8 ||| byte.toUInt32 = UInt32.ofNat (256 * value + byte.toNat) := by
  have small := byte.toNat_lt
  have shifted : (value % 4294967296) <<< 8 % 4294967296 = 2 ^ 8 * (value % 2 ^ 24) := by
    rw [Nat.shiftLeft_eq]
    omega
  apply UInt32.toNat_inj.mp
  simp only [UInt32.toNat_or, UInt32.toNat_shiftLeft, UInt32.toNat_ofNat', UInt8.toNat_toUInt32]
  simp only [UInt32.reduceToNat, Nat.reduceMod, Nat.reducePow, shifted]
  rw [← Nat.two_pow_add_eq_or_of_lt small]
  omega

theorem bigEndianWord_eq (bytes : List UInt8) :
    Sha256.bigEndianWord bytes =
      UInt32.ofNat (bytes.foldl (fun value byte => 256 * value + byte.toNat) 0) :=
  List.foldl_hom UInt32.ofNat fun value byte => shift_or value byte

theorem padded_eq_pad (message : List UInt8) : Sha256.padded message = pad message := by
  have zeros : Nat.find (exists_zeros message.length) = (119 - message.length % 64) % 64 :=
    (Nat.find_eq_iff _).mpr ⟨by omega, fun fewer less => by omega⟩
  simp only [Sha256.padded, pad, zeros, List.append_cancel_left_eq]
  apply List.map_congr_left
  intro index inside
  rw [List.mem_range] at inside
  apply UInt8.toNat_inj.mp
  simp only [UInt64.toNat_toUInt8, UInt64.toNat_shiftRight, UInt64.toNat_ofNat', UInt8.toNat_ofNat',
    Nat.shiftRight_eq_div_pow]
  interval_cases index <;>
    simp only [Nat.reducePow, Nat.reduceMul, Nat.reduceSub, Nat.reduceMod] <;> omega

private theorem foldl_range (next : State → Nat → State) (states : Nat → State)
    (step : ∀ index, next (states index) index = states (index + 1)) (count : Nat) :
    (List.range count).foldl next (states 0) = states count := by
  induction count with
  | zero => rfl
  | succ count induction =>
      rw [List.range_succ, List.foldl_append, induction]
      exact step count

theorem schedule_eq (block : List UInt8) :
    Sha256.schedule block = (List.range 64).map (scheduleWord block) := by
  let written (count : Nat) := (List.range (16 + count)).map (scheduleWord block)
  have words : (List.range 16).map (fun index =>
      Sha256.bigEndianWord ((block.drop (4 * index)).take 4)) = written 0 := by
    apply List.map_congr_left
    intro index inside
    rw [scheduleWord, if_pos (List.mem_range.mp inside), bigEndianWord_eq, messageWord]
  have lookup (index count : Nat) (before : index < 16 + count) :
      (written count).getD index 0 = scheduleWord block index := by
    simp [written, List.getD_eq_getElem?_getD, before]
  rw [Sha256.schedule, words]
  apply foldl_range _ written
  intro count
  have last : written (count + 1) = written count ++ [scheduleWord block (16 + count)] := by
    simp [written, ← Nat.add_assoc, List.range_succ]
  rw [last, scheduleWord, if_neg (by omega)]
  simp only [lookup (16 + count - 15) count (by omega), lookup (16 + count - 2) count (by omega),
    lookup (16 + count - 16) count (by omega), lookup (16 + count - 7) count (by omega)]
  congr 2
  change _ + lowerSigma0 _ + _ + lowerSigma1 _ = _
  ac_rfl

theorem step_rounds (block : List UInt8) (start : Sha256.Working) (index : Nat) :
    (rounds block start index).step (Sha256.round.getD index 0) (scheduleWord block index) =
      rounds block start (index + 1) := by
  rw [rounds]
  rfl

theorem compress_eq_addRounds (state : List UInt32) (block : List UInt8) :
    Sha256.compress state block = addRounds state block := by
  have pairs : Sha256.round.zip (Sha256.schedule block) =
      (List.range 64).map fun index => (Sha256.round.getD index 0, scheduleWord block index) := by
    rw [schedule_eq]
    rfl
  have loop := foldl_range (fun working index =>
    Sha256.Working.step working (Sha256.round.getD index 0) (scheduleWord block index))
    (rounds block (.ofState state)) (step_rounds block (.ofState state)) 64
  rw [rounds] at loop
  simp only [Sha256.compress, addRounds, pairs, List.foldl_map, loop]

theorem sha256Hex_eq_hexDigest (message : List UInt8) : sha256Hex message = hexDigest message := by
  have blocks := foldl_range (fun state index => Sha256.compress state (block message index))
    (hash message) (fun index => by rw [compress_eq_addRounds, hash])
  simp only [sha256Hex, hexDigest, padded_eq_pad, ← blocks, hash, block]

/-- The constants of the digest are those of the standard, and after its label it is the
hash value. -/
theorem sha256Digest_eq_label_hexDigest (message : List UInt8) :
    List.Forall₂ (IsRootFraction 3) primes Sha256.round ∧
    List.Forall₂ (IsRootFraction 2) (primes.take 8) Sha256.initial ∧
    sha256Digest message = "sha256:" ++ String.ofList (hexDigest message) := by
  refine ⟨by unfold IsRootFraction; decide +kernel, by unfold IsRootFraction; decide +kernel, ?_⟩
  rw [sha256Digest, sha256Hex_eq_hexDigest]

theorem sha256Digest_nil_ne_hexDigest : sha256Digest [] ≠ String.ofList (hexDigest []) := by
  intro same
  have lengths := congrArg String.length same
  rw [← sha256Hex_eq_hexDigest, sha256Digest, String.length_append] at lengths
  simp at lengths

end Eva.SecureHash
