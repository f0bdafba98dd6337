/-
This file reads numbers from texts: integers to any base and doubles. Blanks around a number do not
count, digits of any script do, and one underscore may stand between two digits.

It also bounds the integers that are read from decimal digits and written as such. An integer with
more digits than the bound is not read at all; the refusal says how many digits it has. Nor is it
written, where it comes from digits to another base.
-/
import GuidedMigration.Number.Double
import GuidedMigration.Text.Basic
import GuidedMigration.Text.Character

namespace GuidedMigration

/-- A refusal to read an integer, with the number of its digits. -/
structure LongInteger where
  digits : Nat
  deriving DecidableEq

namespace LongInteger

/-- The most digits that an integer may have. -/
def limit : Nat := 4300

/-- The wording of the refusal. -/
def message (refusal : LongInteger) : Text :=
  "Exceeds the limit (4300 digits) for integer string conversion: value has ".toList ++
    Text.ofNat refusal.digits ++
    " digits; use sys.set_int_max_str_digits() to increase the limit".toList

/-- Whether an integer has more digits than are written. -/
def isLong (number : Int) : Bool := Nat.pow 10 limit ≤ number.natAbs

/-- The wording of the refusal to write an integer. -/
def unwritable : Text :=
  "Exceeds the limit (4300 digits) for integer string conversion; ".toList ++
    "use sys.set_int_max_str_digits() to increase the limit".toList

/-- The refusal of an integer with so many digits, if it is refused. -/
def check (digits : Nat) : Except LongInteger Unit :=
  if limit < digits then .error ⟨digits⟩ else .ok ()

end LongInteger

end GuidedMigration

namespace GuidedMigration.Numeral

open Text

/-- The value of a digit: decimal digits of any script, then the letters of ASCII from ten on. -/
def digit? (char : Char) : Option Nat :=
  if isAsciiLetter char then some ((asciiLower char).toNat - 87) else digitValue? char

/-- The values of the digits to a base at the start of a text, with single underscores between
them, and the rest of the text. `after` says that a digit or a mark of the base stands before the
text. Nothing, if an underscore does not stand between two digits. -/
def digits? (base : Nat) : Bool → Text → Option (List Nat × Text)
  | _, [] => some ([], [])
  | after, '_' :: rest =>
    if after && ((rest.head?).bind digit?).any (· < base) then digits? base false rest else none
  | _, char :: rest => match (digit? char).filter (· < base) with
    | some value => (digits? base true rest).map fun (values, rest) => (value :: values, rest)
    | none => some ([], char :: rest)

/-- What stands for a base before its digits. -/
def baseMark? (base : Nat) : Option Char :=
  if base = 2 then some 'b' else if base = 8 then some 'o' else if base = 16 then some 'x' else none

/-- The digits behind the mark of a base, and whether there was one. -/
def dropBaseMark (base : Nat) (text : Text) : Bool × Text :=
  match text with
  | '0' :: mark :: rest =>
    if some (asciiLower mark) = baseMark? base then (true, rest) else (false, text)
  | _ => (false, text)

/-- A sign, and the text behind it. -/
def splitSign (text : Text) : Bool × Text :=
  match text with
  | '-' :: rest => (true, rest)
  | '+' :: rest => (false, rest)
  | _ => (false, text)

/-- The number that the values of digits write to a base. -/
def valueOf (base : Nat) (digits : List Nat) : Nat :=
  digits.foldl (fun number digit => number * base + digit) 0

/-- Why a text is not read as an integer. -/
inductive Refusal where
  | malformed
  | long (refusal : LongInteger)

/-- The integer that a text writes to a base. Too many digits are refused even if the text behind
them is no numeral, but not to bases that are powers of two. -/
def integer (base : Nat) (text : Text) : Except Refusal Int :=
  let (negative, body) := splitSign (trim text)
  let (marked, body) := dropBaseMark base body
  match digits? base marked body with
  | none => .error .malformed
  | some (digits, rest) =>
    if base = 10 && LongInteger.limit < digits.length then .error (.long ⟨digits.length⟩)
    else if digits.isEmpty || !rest.isEmpty then .error .malformed
    else
      let magnitude : Int := valueOf base digits
      .ok (if negative then -magnitude else magnitude)

/-- The exponent at the end of a decimal: a letter, possibly a sign, and digits. -/
def exponent? : Text → Option Int
  | [] => some 0
  | mark :: rest =>
    if mark = 'e' || mark = 'E' then
      let (negative, body) := splitSign rest
      match digits? 10 false body with
      | some (digit :: digits, []) =>
        let magnitude : Int := valueOf 10 (digit :: digits)
        some (if negative then -magnitude else magnitude)
      | _ => none
    else none

/-- The double nearest to the decimal that a text writes, or an infinity or no number if the text
says so. What is no number is not the one that documents have a word for. -/
def double? (text : Text) : Option Double :=
  let (negative, body) := splitSign (trim text)
  let word := body.map asciiLower
  if word = "inf".toList || word = "infinity".toList then some (.infinity negative)
  else if word = "nan".toList then some .otherNotNumber
  else do
    let (whole, rest) ← digits? 10 false body
    let (fraction, rest) ← match rest with
      | '.' :: rest => digits? 10 false rest
      | _ => some ([], rest)
    let exponent ← exponent? rest
    if whole.isEmpty && fraction.isEmpty then none
    else
      some (.ofDecimal negative (valueOf 10 (whole ++ fraction)) (exponent - fraction.length))

end GuidedMigration.Numeral
