import Mathlib.Algebra.Group.Nat.Defs
import Mathlib.Data.List.Basic

/-!
SHA-256 over byte lists, with the digest spelt in hexadecimal.
-/

namespace Hashing

/-- `str.encode()`. -/
def encode (text : String) : List UInt8 := text.toByteArray.data.toList

@[simp] theorem encode_append (text other : String) :
  encode (text ++ other) = encode text ++ encode other := by
  simp [encode, ByteArray.data_append, Array.toList_append]

theorem encode_inj {text other : String} (same : encode text = encode other) : text = other :=
  String.toByteArray_inj.mp (ByteArray.ext (Array.toList_inj.mp same))

namespace Sha256

structure Registers where
  (a b c d e f g h : UInt32)

def initial : Registers :=
  ⟨0x6a09e667, 0xbb67ae85, 0x3c6ef372, 0xa54ff53a, 0x510e527f, 0x9b05688c, 0x1f83d9ab, 0x5be0cd19⟩

def roundConstants : List UInt32 :=
  [0x428a2f98, 0x71374491, 0xb5c0fbcf, 0xe9b5dba5, 0x3956c25b, 0x59f111f1, 0x923f82a4, 0xab1c5ed5,
    0xd807aa98, 0x12835b01, 0x243185be, 0x550c7dc3, 0x72be5d74, 0x80deb1fe, 0x9bdc06a7, 0xc19bf174,
    0xe49b69c1, 0xefbe4786, 0x0fc19dc6, 0x240ca1cc, 0x2de92c6f, 0x4a7484aa, 0x5cb0a9dc, 0x76f988da,
    0x983e5152, 0xa831c66d, 0xb00327c8, 0xbf597fc7, 0xc6e00bf3, 0xd5a79147, 0x06ca6351, 0x14292967,
    0x27b70a85, 0x2e1b2138, 0x4d2c6dfc, 0x53380d13, 0x650a7354, 0x766a0abb, 0x81c2c92e, 0x92722c85,
    0xa2bfe8a1, 0xa81a664b, 0xc24b8b70, 0xc76c51a3, 0xd192e819, 0xd6990624, 0xf40e3585, 0x106aa070,
    0x19a4c116, 0x1e376c08, 0x2748774c, 0x34b0bcb5, 0x391c0cb3, 0x4ed8aa4a, 0x5b9cca4f, 0x682e6ff3,
    0x748f82ee, 0x78a5636f, 0x84c87814, 0x8cc70208, 0x90befffa, 0xa4506ceb, 0xbef9a3f7, 0xc67178f2]

def rotateRight (word count : UInt32) : UInt32 := (word >>> count) ||| (word <<< (32 - count))

def bigEndian (width number : Nat) : List UInt8 :=
  match width with
  | 0 => []
  | width + 1 => UInt8.ofNat (number / 256 ^ width) :: bigEndian width number

def pad (message : List UInt8) : List UInt8 :=
  message ++ 0x80 :: List.replicate ((119 - message.length % 64) % 64) 0 ++
    bigEndian 8 (message.length * 8)

def words : List UInt8 → List UInt32
  | first :: second :: third :: fourth :: rest =>
    ((first.toUInt32 <<< 24) ||| (second.toUInt32 <<< 16) ||| (third.toUInt32 <<< 8) |||
      fourth.toUInt32) :: words rest
  | _ => []

def nextWord (window : List UInt32) : UInt32 :=
  let second := window.getD 1 0
  let fifteenth := window.getD 14 0
  window.getD 0 0 + (rotateRight second 7 ^^^ rotateRight second 18 ^^^ (second >>> 3)) +
    window.getD 9 0 +
    (rotateRight fifteenth 17 ^^^ rotateRight fifteenth 19 ^^^ (fifteenth >>> 10))

def round (registers : Registers) (constant word : UInt32) : Registers :=
  let ⟨a, b, c, d, e, f, g, h⟩ := registers
  let temporary := h + (rotateRight e 6 ^^^ rotateRight e 11 ^^^ rotateRight e 25) +
    ((e &&& f) ^^^ (~~~e &&& g)) + constant + word
  let majority := (rotateRight a 2 ^^^ rotateRight a 13 ^^^ rotateRight a 22) +
    ((a &&& b) ^^^ (a &&& c) ^^^ (b &&& c))
  ⟨temporary + majority, a, b, c, d + temporary, e, f, g⟩

def rounds (window : List UInt32) (registers : Registers) : List UInt32 → Registers
  | [] => registers
  | constant :: constants =>
    rounds (window.tail ++ [nextWord window]) (round registers constant (window.getD 0 0))
      constants

def compress (registers : Registers) (block : List UInt32) : Registers :=
  let mixed := rounds block registers roundConstants
  ⟨registers.a + mixed.a, registers.b + mixed.b, registers.c + mixed.c, registers.d + mixed.d,
    registers.e + mixed.e, registers.f + mixed.f, registers.g + mixed.g, registers.h + mixed.h⟩

def blocks (registers : Registers) (count : Nat) (remaining : List UInt32) : Registers :=
  match count with
  | 0 => registers
  | count + 1 => blocks (compress registers (remaining.take 16)) count (remaining.drop 16)

def digest (message : List UInt8) : Registers :=
  let padded := words (pad message)
  blocks initial (padded.length / 16) padded

def hexWord (word : UInt32) : List Char :=
  [28, 24, 20, 16, 12, 8, 4, 0].map fun shift => Nat.digitChar (word.toNat / 2 ^ shift % 16)

end Sha256

/-- `hashlib.sha256(message).hexdigest()`. -/
def sha256 (message : List UInt8) : String :=
  let registers := Sha256.digest message
  String.ofList ([registers.a, registers.b, registers.c, registers.d, registers.e, registers.f,
    registers.g, registers.h].flatMap Sha256.hexWord)

@[simp] theorem length_sha256 (message : List UInt8) : (sha256 message).toList.length = 64 := by
  simp only [sha256, String.toList_ofList]
  rfl

def CollisionFree (messages : List (List UInt8)) : Prop :=
  ∀ message ∈ messages, ∀ other ∈ messages, sha256 message = sha256 other → message = other

example : sha256 (encode "abc") =
  "ba7816bf8f01cfea414140de5dae2223b00361a396177a9cb410ff61f20015ad" := by
  decide +kernel

end Hashing
