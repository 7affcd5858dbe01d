import Mathlib.Data.Fintype.BigOperators
import Mathlib.Data.Fintype.Pigeonhole
import Eva.Foundation.Numerals

/-! # SHA-256

The compression function and the padding of the digest that names inputs,
results and files. General proofs only use that a digest has sixty-four digits.
-/

namespace Eva

namespace Sha256

def initial : List UInt32 :=
  [0x6a09e667, 0xbb67ae85, 0x3c6ef372, 0xa54ff53a,
   0x510e527f, 0x9b05688c, 0x1f83d9ab, 0x5be0cd19]

def round : List UInt32 :=
  [0x428a2f98, 0x71374491, 0xb5c0fbcf, 0xe9b5dba5, 0x3956c25b, 0x59f111f1, 0x923f82a4, 0xab1c5ed5,
   0xd807aa98, 0x12835b01, 0x243185be, 0x550c7dc3, 0x72be5d74, 0x80deb1fe, 0x9bdc06a7, 0xc19bf174,
   0xe49b69c1, 0xefbe4786, 0x0fc19dc6, 0x240ca1cc, 0x2de92c6f, 0x4a7484aa, 0x5cb0a9dc, 0x76f988da,
   0x983e5152, 0xa831c66d, 0xb00327c8, 0xbf597fc7, 0xc6e00bf3, 0xd5a79147, 0x06ca6351, 0x14292967,
   0x27b70a85, 0x2e1b2138, 0x4d2c6dfc, 0x53380d13, 0x650a7354, 0x766a0abb, 0x81c2c92e, 0x92722c85,
   0xa2bfe8a1, 0xa81a664b, 0xc24b8b70, 0xc76c51a3, 0xd192e819, 0xd6990624, 0xf40e3585, 0x106aa070,
   0x19a4c116, 0x1e376c08, 0x2748774c, 0x34b0bcb5, 0x391c0cb3, 0x4ed8aa4a, 0x5b9cca4f, 0x682e6ff3,
   0x748f82ee, 0x78a5636f, 0x84c87814, 0x8cc70208, 0x90befffa, 0xa4506ceb, 0xbef9a3f7, 0xc67178f2]

def rotateRight (word count : UInt32) : UInt32 :=
  (word >>> count) ||| (word <<< (32 - count))

def bigEndianWord (bytes : List UInt8) : UInt32 :=
  bytes.foldl (fun word byte => word <<< 8 ||| byte.toUInt32) 0

/-- The message words of one chunk, extended to sixty-four. -/
def schedule (chunk : List UInt8) : List UInt32 :=
  let words := (List.range 16).map fun index => bigEndianWord ((chunk.drop (4 * index)).take 4)
  (List.range 48).foldl (fun w offset =>
    let index := 16 + offset
    let w15 := w.getD (index - 15) 0
    let w2 := w.getD (index - 2) 0
    let s0 := rotateRight w15 7 ^^^ rotateRight w15 18 ^^^ (w15 >>> 3)
    let s1 := rotateRight w2 17 ^^^ rotateRight w2 19 ^^^ (w2 >>> 10)
    w ++ [w.getD (index - 16) 0 + s0 + w.getD (index - 7) 0 + s1]) words

structure Working where
  a : UInt32
  b : UInt32
  c : UInt32
  d : UInt32
  e : UInt32
  f : UInt32
  g : UInt32
  h : UInt32

def Working.ofState (state : List UInt32) : Working where
  a := state.getD 0 0
  b := state.getD 1 0
  c := state.getD 2 0
  d := state.getD 3 0
  e := state.getD 4 0
  f := state.getD 5 0
  g := state.getD 6 0
  h := state.getD 7 0

def Working.step (working : Working) (constant word : UInt32) : Working :=
  let ⟨a, b, c, d, e, f, g, h⟩ := working
  let s1 := rotateRight e 6 ^^^ rotateRight e 11 ^^^ rotateRight e 25
  let ch := (e &&& f) ^^^ (~~~e &&& g)
  let t1 := h + s1 + ch + constant + word
  let s0 := rotateRight a 2 ^^^ rotateRight a 13 ^^^ rotateRight a 22
  let maj := (a &&& b) ^^^ (a &&& c) ^^^ (b &&& c)
  let t2 := s0 + maj
  ⟨t1 + t2, a, b, c, d + t1, e, f, g⟩

def compress (state : List UInt32) (chunk : List UInt8) : List UInt32 :=
  let ⟨a, b, c, d, e, f, g, h⟩ :=
    (round.zip (schedule chunk)).foldl (fun working (constant, word) =>
      working.step constant word) (Working.ofState state)
  state.zipWith (· + ·) [a, b, c, d, e, f, g, h]

/-- The smallest padding that leaves room for the length in the last chunk. -/
def padded (bytes : List UInt8) : List UInt8 :=
  let bitLen := UInt64.ofNat (bytes.length * 8)
  bytes ++ [0x80] ++ List.replicate ((119 - bytes.length % 64) % 64) 0 ++
    (List.range 8).map fun index => (bitLen >>> UInt64.ofNat (8 * (7 - index))).toUInt8

def wordHex (word : UInt32) : List Char :=
  (List.range 8).map fun index => Text.hexDigit (word.toNat / 16 ^ (7 - index) % 16)

end Sha256

open Sha256 in
/-- The 64 lower-case digits of a digest. -/
def sha256Hex (bytes : List UInt8) : List Char :=
  let message := padded bytes
  let state := (List.range (message.length / 64)).foldl (fun state index =>
    compress state ((message.drop (64 * index)).take 64)) initial
  state.flatMap wordHex

def sha256Digest (bytes : List UInt8) : String :=
  "sha256:" ++ String.ofList (sha256Hex bytes)

/-! ## The shape of a digest -/

namespace Sha256

private theorem compress_length (eight : state.length = 8)
    (chunk : List UInt8) : (compress state chunk).length = 8 := by
  simp [compress, eight]

private theorem foldl_compress_length (chunk : Nat → List UInt8) (indices : List Nat)
    (eight : state.length = 8) :
    (indices.foldl (fun state index => compress state (chunk index)) state).length = 8 := by
  induction indices generalizing state with
  | nil => exact eight
  | cons index indices induction =>
      apply induction
      exact compress_length eight _

private theorem flatMap_wordHex_length (words : List UInt32) :
    (words.flatMap wordHex).length = 8 * words.length := by
  induction words with
  | nil => rfl
  | cons word words induction =>
      rw [List.flatMap_cons, List.length_append, induction, wordHex, List.length_map,
        List.length_range, List.length_cons]
      omega

end Sha256

open Sha256 in
theorem sha256Hex_length (bytes : List UInt8) : (sha256Hex bytes).length = 64 := by
  unfold sha256Hex
  rw [flatMap_wordHex_length, foldl_compress_length _ _ rfl]

theorem sha256Hex_isLowerHex (bytes : List UInt8) :
    ∀ char ∈ sha256Hex bytes, Text.isLowerHex char := by
  intro char member
  obtain ⟨word, -, held⟩ := List.mem_flatMap.mp member
  obtain ⟨index, -, rfl⟩ := List.mem_map.mp held
  exact Text.hexDigit_isLowerHex _ (Nat.mod_lt _ (by decide))

/-- Of more messages than there are digests two have the same one. -/
theorem exists_sha256Hex_eq [Fintype Message] (bytes : Message → List UInt8)
    (many : 16 ^ 64 < Fintype.card Message) :
    ∃ left right, left ≠ right ∧ sha256Hex (bytes left) = sha256Hex (bytes right) := by
  let nibbles (message : Message) : Fin 64 → Fin 16 := fun index =>
    Fin.ofNat 16 (Text.hexNibble ((sha256Hex (bytes message)).get
      (index.cast (sha256Hex_length _).symm)))
  have fewer : Fintype.card (Fin 64 → Fin 16) < Fintype.card Message := by
    rw [Fintype.card_fun, Fintype.card_fin, Fintype.card_fin]
    exact many
  obtain ⟨left, right, different, same⟩ := Fintype.exists_ne_map_eq_of_card_lt nibbles fewer
  refine ⟨left, right, different, ?_⟩
  apply List.ext_get (by rw [sha256Hex_length, sha256Hex_length])
  intro index inLeft inRight
  have equal := congrFun same ⟨index, sha256Hex_length (bytes left) ▸ inLeft⟩
  obtain ⟨small, digit⟩ := Text.hexDigit_hexNibble
    (sha256Hex_isLowerHex (bytes left) _ (List.get_mem _ ⟨index, inLeft⟩))
  obtain ⟨smallRight, digitRight⟩ := Text.hexDigit_hexNibble
    (sha256Hex_isLowerHex (bytes right) _ (List.get_mem _ ⟨index, inRight⟩))
  have value := congrArg Fin.val equal
  simp only [nibbles, Fin.val_ofNat, Fin.cast_mk] at value
  rw [Nat.mod_eq_of_lt small, Nat.mod_eq_of_lt smallRight] at value
  rw [← digit, ← digitRight, value]

end Eva
