/-
This file writes bytes in base 64 and reads them back.
-/
import GuidedMigration.Text.Character

namespace GuidedMigration.Base64

/-- The digit of a value below sixty-four. -/
def digit (value : Nat) : Char :=
  if value < 26 then Char.ofNat (value + 65)
  else if value < 52 then Char.ofNat (value + 71)
  else if value < 62 then Char.ofNat (value - 4)
  else if value = 62 then '+'
  else '/'

/-- The value of a digit. -/
def value? (char : Char) : Option Nat :=
  if Text.isAsciiUpper char then some (char.toNat - 65)
  else if Text.isAsciiLower char then some (char.toNat - 71)
  else if Text.isAsciiDigit char then some (char.toNat + 4)
  else if char = '+' then some 62
  else if char = '/' then some 63
  else none

/-- Bytes in base 64: four digits for every three bytes, filled up with equals signs. -/
def encode : List UInt8 → Text
  | [] => []
  | [first] =>
    let bits := first.toNat * 16
    [digit (bits / 64), digit (bits % 64), '=', '=']
  | [first, second] =>
    let bits := (first.toNat * 256 + second.toNat) * 4
    [digit (bits / 4096), digit (bits / 64 % 64), digit (bits % 64), '=']
  | first :: second :: third :: rest =>
    let bits := (first.toNat * 256 + second.toNat) * 256 + third.toNat
    digit (bits / 262144) :: digit (bits / 4096 % 64) :: digit (bits / 64 % 64) ::
      digit (bits % 64) :: encode rest

/-- The bytes that the values of digits hold. -/
def bytesOf : List Nat → List UInt8
  | first :: second :: third :: fourth :: rest =>
    let bits := ((first * 64 + second) * 64 + third) * 64 + fourth
    UInt8.ofNat (bits / 65536) :: UInt8.ofNat (bits / 256 % 256) :: UInt8.ofNat (bits % 256) ::
      bytesOf rest
  | [first, second, third] =>
    let bits := (first * 64 + second) * 64 + third
    [UInt8.ofNat (bits / 1024), UInt8.ofNat (bits / 4 % 256)]
  | [first, second] => [UInt8.ofNat ((first * 64 + second) / 16)]
  | _ => []

/-- The values of the digits of a text up to the equals signs that fill up its last four. `place`
counts the digits of the current four, `filled` the equals signs directly before the text.
Characters that are no digits are skipped, and the last four must be filled up. -/
def digits? : Nat → Nat → Text → Option (List Nat)
  | place, _, [] => if place = 0 then some [] else none
  | place, filled, char :: rest =>
    if char = '=' then
      if place < 2 then digits? place filled rest
      else if 4 ≤ place + filled + 1 then some []
      else digits? place (filled + 1) rest
    else match value? char with
      | some value => (digits? ((place + 1) % 4) 0 rest).map (value :: ·)
      | none => digits? place filled rest

/-- The bytes that a text in base 64 writes. -/
def decode? (text : Text) : Option (List UInt8) := (digits? 0 0 text).map bytesOf

end GuidedMigration.Base64
