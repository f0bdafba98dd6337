/-
This file reads the scalars of a YAML document: what a text means under a tag. The tag may have been
written at the text, so every text may meet every tag, and one that does not fit its tag is a fault.
-/
import GuidedMigration.Number.Numeral
import GuidedMigration.Text.Base64
import GuidedMigration.Text.Case
import GuidedMigration.Yaml.Node

namespace GuidedMigration.Yaml

open Text

namespace Leaf

/-- A text without underscores. -/
def withoutGaps (text : Text) : Text := text.filter (· != '_')

/-- An integer to a base. -/
def integer (base : Nat) (written : Text) : Except Fault Int :=
  match Numeral.integer base written with
  | .ok number => .ok number
  | .error .malformed => .error (.integer base written)
  | .error (.long refusal) => .error (.longInteger refusal)

/-- The magnitude of an integer, its sign taken away: `0b` marks base two, `0x` base sixteen, any
other zero at the start base eight, and colons stand between the digits to base sixty. -/
def magnitude (body : Text) : Except Fault Int :=
  match body with
  | [] => .error .noDigits
  | ['0'] => .ok 0
  | '0' :: 'b' :: digits => integer 2 digits
  | '0' :: 'x' :: digits => integer 16 digits
  | '0' :: digits => integer 8 ('0' :: digits)
  | _ =>
    if body.contains ':' then do
      let parts ← (splitOn ':' body).mapM (integer 10)
      .ok (parts.foldl (fun number part => number * 60 + part) 0)
    else integer 10 body

/-- The integer that a text writes. -/
def int (text : Text) : Except Fault Int :=
  match withoutGaps text with
  | [] => .error .noDigits
  | '-' :: body => (magnitude body).map (-·)
  | '+' :: body => magnitude body
  | body => magnitude body

/-- A double. -/
def decimal (written : Text) : Except Fault Double :=
  match Numeral.double? written with
  | some number => .ok number
  | none => .error (.number written)

/-- The sum of the parts of a number to base sixty, the last one first; `unit` is the worth of the
next one, which must not be too large for a double. -/
def sumSixtieths : Nat → Double → List Double → Except Fault Double
  | _, total, [] => .ok total
  | unit, total, part :: parts => match part.times? unit with
    | some product => sumSixtieths (unit * 60) (total.sum product) parts
    | none => .error .tooLarge

/-- The number without its sign that a text in small letters writes. -/
def unsigned (body : Text) : Except Fault Double :=
  if body = ".inf".toList then .ok (.infinity false)
  else if body = ".nan".toList then .ok .notNumber
  else if body.contains ':' then do
    let parts ← (splitOn ':' body).mapM decimal
    sumSixtieths 1 (.ofFields false 0) parts.reverse
  else decimal body

/-- The double that a text writes. -/
def float (text : Text) : Except Fault Double :=
  match lower (withoutGaps text) with
  | [] => .error .noDigits
  | '-' :: body => (unsigned body).map Double.negate
  | '+' :: body => unsigned body
  | body => unsigned body

/-- The truth value that a word names in any case. -/
def bool (text : Text) : Except Fault Bool :=
  let word := lower text
  if Plain.trueWords.contains word then .ok true
  else if Plain.falseWords.contains word then .ok false
  else .error .truth

/-- The bytes that a text in base 64 writes. -/
def binary (text : Text) : Except Fault (List UInt8) :=
  if text.all (·.toNat < 128) then
    match Base64.decode? text with
    | some bytes => .ok bytes
    | none => .error .malformed
  else .error .malformed

/-- The date or time that a text writes. -/
def timestamp (text : Text) : Except Fault Scalar :=
  match Timestamp.read? text with
  | none => .error .moment
  | some stamp => match stamp.toScalar with
    | .ok scalar => .ok scalar
    | .error fault => .error (.date fault)

end Leaf

/-- The scalar that a text is under a tag; only tags of scalars have one. -/
def Tag.scalar (tag : Tag) (text : Text) : Except Fault Scalar :=
  match tag with
  | .null => .ok .null
  | .bool => (Leaf.bool text).map .bool
  | .int => (Leaf.int text).map .int
  | .float => (Leaf.float text).map .double
  | .binary => (Leaf.binary text).map .bytes
  | .timestamp => Leaf.timestamp text
  | .str => .ok (.text text)
  | .enclosing => .error .endless
  | _ => .error .malformed

/-- Whether a tag is one of a collection. -/
def Tag.isCollection : Tag → Bool
  | .omap | .pairs | .set | .seq | .map => true
  | _ => false

end GuidedMigration.Yaml
