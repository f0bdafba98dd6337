/-
This file computes the SHA-256 digest of bytes: the message is padded to blocks of sixty-four bytes,
and every block is mixed into eight words of state by sixty-four rounds.
-/
import GuidedMigration.Text.Character

namespace GuidedMigration.Sha256

/-- The constants of the rounds. -/
def roundConstants : List UInt32 := [
  0x428a2f98, 0x71374491, 0xb5c0fbcf, 0xe9b5dba5, 0x3956c25b, 0x59f111f1, 0x923f82a4, 0xab1c5ed5,
  0xd807aa98, 0x12835b01, 0x243185be, 0x550c7dc3, 0x72be5d74, 0x80deb1fe, 0x9bdc06a7, 0xc19bf174,
  0xe49b69c1, 0xefbe4786, 0x0fc19dc6, 0x240ca1cc, 0x2de92c6f, 0x4a7484aa, 0x5cb0a9dc, 0x76f988da,
  0x983e5152, 0xa831c66d, 0xb00327c8, 0xbf597fc7, 0xc6e00bf3, 0xd5a79147, 0x06ca6351, 0x14292967,
  0x27b70a85, 0x2e1b2138, 0x4d2c6dfc, 0x53380d13, 0x650a7354, 0x766a0abb, 0x81c2c92e, 0x92722c85,
  0xa2bfe8a1, 0xa81a664b, 0xc24b8b70, 0xc76c51a3, 0xd192e819, 0xd6990624, 0xf40e3585, 0x106aa070,
  0x19a4c116, 0x1e376c08, 0x2748774c, 0x34b0bcb5, 0x391c0cb3, 0x4ed8aa4a, 0x5b9cca4f, 0x682e6ff3,
  0x748f82ee, 0x78a5636f, 0x84c87814, 0x8cc70208, 0x90befffa, 0xa4506ceb, 0xbef9a3f7, 0xc67178f2]

/-- The eight words of state. -/
structure State where
  a : UInt32
  b : UInt32
  c : UInt32
  d : UInt32
  e : UInt32
  f : UInt32
  g : UInt32
  h : UInt32

/-- The state before the first block. -/
def start : State :=
  ⟨0x6a09e667, 0xbb67ae85, 0x3c6ef372, 0xa54ff53a, 0x510e527f, 0x9b05688c, 0x1f83d9ab, 0x5be0cd19⟩

/-- A word turned to the right. -/
def turn (word count : UInt32) : UInt32 := (word >>> count) ||| (word <<< (32 - count))

/-- The message with its padding: a one bit, zeros, and its length in bits as eight bytes. -/
def pad (message : List UInt8) : List UInt8 :=
  let bits := 8 * message.length
  let zeros := (119 - message.length % 64) % 64
  message ++ 0x80 :: List.replicate zeros 0 ++
    (List.range 8).map fun place => UInt8.ofNat (bits / Nat.pow 256 (7 - place) % 256)

/-- The words that the bytes make, four bytes each. -/
def wordsOf : List UInt8 → List UInt32
  | a :: b :: c :: d :: rest =>
    ((a.toUInt32 <<< 24) ||| (b.toUInt32 <<< 16) ||| (c.toUInt32 <<< 8) ||| d.toUInt32) ::
      wordsOf rest
  | _ => []

/-- The schedule extended by one word; its words stand last first. -/
def extend (schedule : List UInt32) : List UInt32 :=
  let back (count : Nat) : UInt32 := schedule.getD (count - 1) 0
  let early := turn (back 15) 7 ^^^ turn (back 15) 18 ^^^ (back 15 >>> 3)
  let late := turn (back 2) 17 ^^^ turn (back 2) 19 ^^^ (back 2 >>> 10)
  (back 16 + early + back 7 + late) :: schedule

/-- The sixty-four words of the schedule of a block of sixteen words. -/
def schedule (block : List UInt32) : List UInt32 :=
  ((List.range 48).foldl (fun words _ => extend words) block.reverse).reverse

/-- One round. -/
def round (state : State) (word constant : UInt32) : State :=
  let sumE := turn state.e 6 ^^^ turn state.e 11 ^^^ turn state.e 25
  let choice := (state.e &&& state.f) ^^^ ((~~~ state.e) &&& state.g)
  let first := state.h + sumE + choice + constant + word
  let sumA := turn state.a 2 ^^^ turn state.a 13 ^^^ turn state.a 22
  let majority := (state.a &&& state.b) ^^^ (state.a &&& state.c) ^^^ (state.b &&& state.c)
  ⟨first + sumA + majority, state.a, state.b, state.c, state.d + first, state.e, state.f, state.g⟩

/-- The state after a block. -/
def compress (state : State) (block : List UInt32) : State :=
  let mixed := ((schedule block).zip roundConstants).foldl
    (fun state (word, constant) => round state word constant) state
  ⟨state.a + mixed.a, state.b + mixed.b, state.c + mixed.c, state.d + mixed.d,
    state.e + mixed.e, state.f + mixed.f, state.g + mixed.g, state.h + mixed.h⟩

/-- The state after as many whole blocks as `fuel` allows. -/
def compressAll : Nat → State → List UInt32 → State
  | 0, state, _ => state
  | fuel + 1, state, words => match words with
    | [] => state
    | _ => compressAll fuel (compress state (words.take 16)) (words.drop 16)

/-- The digest of bytes in hexadecimal digits. -/
def digest (message : List UInt8) : Text :=
  let words := wordsOf (pad message)
  let state := compressAll words.length start words
  [state.a, state.b, state.c, state.d, state.e, state.f, state.g, state.h].flatMap
    fun word => Text.hex 8 word.toNat

end GuidedMigration.Sha256
