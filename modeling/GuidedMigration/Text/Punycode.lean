/-
This file writes a text with any characters in the letters, digits and hyphens of a host name, and
reads it back, by the method of Punycode: the ASCII characters come first, and behind a hyphen stand
numbers that say where the others go, in order of their code points, each number written in digits
to base 36 whose places depend on the numbers before.
-/
import GuidedMigration.Text.Character

namespace GuidedMigration.Punycode

open Text

/-! ### Digits -/

/-- The character of a digit: a letter, or a decimal digit from twenty-six on. -/
def digitChar (digit : Nat) : Char :=
  if digit < 26 then Char.ofNat (97 + digit) else Char.ofNat (22 + digit)

/-- The digit that a character stands for. -/
def digit? (char : Char) : Option Nat :=
  if isAsciiLetter char then some ((asciiLower char).toNat - 97)
  else if isAsciiDigit char then some (char.toNat - 22)
  else none

/-- The bound below which a digit at a place is the last one. -/
def threshold (place bias : Nat) : Nat :=
  if place ≤ bias then 1 else if bias + 26 ≤ place then 26 else place - bias

/-- A number divided by 35 until it is at most 455, and 36 for each division. -/
def damp : Nat → Nat → Nat → Nat × Nat
  | 0, number, steps => (number, steps)
  | fuel + 1, number, steps =>
    if 455 < number then damp fuel (number / 35) (steps + 36) else (number, steps)

/-- The bias behind a number, of which `count` were written so far, this one included. -/
def nextBias (isFirst : Bool) (number count : Nat) : Nat :=
  let start := if isFirst then number / 700 else number / 2
  let (number, steps) := damp (start.log2 + 1) (start + start / count) 0
  steps + 36 * number / (number + 38)

/-! ### Writing -/

/-- A number in digits from a place on. -/
def writeNumber (bias : Nat) : Nat → Nat → Nat → Text
  | 0, _, _ => []
  | fuel + 1, place, number =>
    let bound := threshold place bias
    if number < bound then [digitChar number]
    else digitChar (bound + (number - bound) % (36 - bound)) ::
      writeNumber bias fuel (place + 36) ((number - bound) / (36 - bound))

/-- What writing knows: the digits so far, the number being counted, the bias, and how many
characters have their place. -/
structure Writer where
  digits : Text
  number : Nat
  bias : Nat
  placed : Nat

/-- One character of the text passed while those with a code are being placed. -/
def Writer.pass (basic code : Nat) (writer : Writer) (char : Char) : Writer :=
  if char.toNat < code then { writer with number := writer.number + 1 }
  else if char.toNat = code then
    { digits := writer.digits ++ writeNumber writer.bias (writer.number + 1) 36 writer.number,
      number := 0,
      bias := nextBias (writer.placed = basic) writer.number (writer.placed + 1),
      placed := writer.placed + 1 }
  else writer

/-- The codes placed one after the other; `next` is the code behind the last one. -/
def Writer.run (text : Text) (basic : Nat) : List Nat → Nat → Writer → Writer
  | [], _, writer => writer
  | code :: codes, next, writer =>
    let start := { writer with number := writer.number + (code - next) * (writer.placed + 1) }
    let behind := text.foldl (Writer.pass basic code) start
    Writer.run text basic codes (code + 1) { behind with number := behind.number + 1 }

/-- A text in the form for host names. -/
def encode (text : Text) : Text :=
  let basic := text.filter (·.toNat < 128)
  let codes := (((text.filter (128 ≤ ·.toNat)).map (·.toNat)).eraseDups).mergeSort
  let writer := Writer.run text basic.length codes 128 ⟨[], 0, 72, basic.length⟩
  if basic.isEmpty then writer.digits else basic ++ '-' :: writer.digits

/-! ### Reading -/

/-- A number at the start of digits, and the digits behind it; `weight` is the value of the place.
-/
def readNumber? (bias : Nat) : Nat → Nat → Nat → Text → Option (Nat × Text)
  | _, _, _, [] => none
  | place, weight, number, char :: rest => do
    let digit ← digit? char
    let bound := threshold place bias
    let number := number + digit * weight
    if digit < bound then some (number, rest)
    else readNumber? bias (place + 36) (weight * (36 - bound)) number rest

/-- The characters with those that the digits tell put in their places; `fuel` is at least the
number of digits. -/
def insertAll? (basic : Nat) : Nat → Nat → Nat → Nat → Text → Text → Option Text
  | 0, _, _, _, done, _ => some done
  | fuel + 1, code, place, bias, done, digits =>
    if digits.isEmpty then some done
    else do
      let (number, rest) ← readNumber? bias 36 1 0 digits
      let size := done.length + 1
      let code := code + (place + number) / size
      let place := (place + number) % size
      let bias := nextBias (done.length = basic) number size
      let done := done.take place ++ Char.ofNat code :: done.drop place
      if 0x10FFFF < code then none
      else insertAll? basic fuel code (place + 1) bias done rest

/-- The text that a form for host names stands for. -/
def decode? (written : Text) : Option Text :=
  let behind := (written.reverse.takeWhile (· != '-')).reverse
  let basic := written.take (written.length - behind.length - 1)
  if basic.all (·.toNat < 128) then insertAll? basic.length behind.length 128 0 72 basic behind
  else none

end GuidedMigration.Punycode
