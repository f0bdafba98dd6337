/-
This file holds double-precision numbers as their sixty-four bits and does exactly what a library of
documents needs of them: round a ratio to the nearest double, tell whether a double is a whole
number, and find the shortest decimal that reads back as the same double. All of it is arithmetic on
natural numbers, so that two doubles are equal exactly when their bits are.
-/
import GuidedMigration.Text.Basic

namespace GuidedMigration

/-- A double-precision number, held as its bits. -/
structure Double where
  bits : UInt64
  deriving DecidableEq

namespace Double

/-! ### Bits -/

/-- The unit of the sign bit. -/
def signUnit : Nat := Nat.pow 2 63

/-- The unit of the bits of the exponent, and the bit that the fraction of most doubles leaves out.
-/
def exponentUnit : Nat := Nat.pow 2 52

/-- The sign bit. -/
def negative (double : Double) : Bool := double.bits.toNat / signUnit = 1

/-- The eleven bits of the exponent. -/
def exponentField (double : Double) : Nat := double.bits.toNat / exponentUnit % 2048

/-- The fifty-two bits of the fraction. -/
def fractionField (double : Double) : Nat := double.bits.toNat % exponentUnit

/-- A double from its sign and the sixty-three bits below it. -/
def ofFields (negative : Bool) (magnitude : Nat) : Double :=
  ⟨UInt64.ofNat (magnitude + if negative then signUnit else 0)⟩

/-- An infinity. -/
def infinity (negative : Bool) : Double := ofFields negative (2047 * exponentUnit)

/-- The value that is no number. Like any other double it is equal to itself. -/
def notNumber : Double := ofFields false (2047 * exponentUnit + exponentUnit / 2)

/-- What is no number either, and not equal to the value that is none. -/
def otherNotNumber : Double := ofFields true (2047 * exponentUnit + exponentUnit / 2)

/-- Whether a double is no number. -/
def isNotNumber (double : Double) : Bool :=
  double.exponentField = 2047 && double.fractionField != 0

/-- Whether a double is an infinity. -/
def isInfinite (double : Double) : Bool :=
  double.exponentField = 2047 && double.fractionField = 0

/-- The magnitude of a finite double as `significand * 2 ^ exponent`. -/
def parts (double : Double) : Nat × Int :=
  if double.exponentField = 0 then (double.fractionField, -1074)
  else (double.fractionField + exponentUnit, (double.exponentField : Int) - 1075)

/-! ### Rounding a ratio -/

/-- The nearest whole number to a ratio, a half going to the even neighbour. -/
def roundHalfEven (numerator denominator : Nat) : Nat :=
  let quotient := numerator / denominator
  let twice := 2 * (numerator % denominator)
  if twice < denominator then quotient
  else if twice = denominator then quotient + quotient % 2
  else quotient + 1

/-- The ratio `numerator / denominator` divided by `2 ^ exponent` and rounded. -/
def roundScaled (numerator denominator : Nat) (exponent : Int) : Nat :=
  if 0 ≤ exponent then roundHalfEven numerator (denominator * Nat.pow 2 exponent.toNat)
  else roundHalfEven (numerator * Nat.pow 2 (-exponent).toNat) denominator

/-- The double nearest to a ratio; one that is too large is infinite. The exponent is the one that
leaves fifty-three bits, or the least that there is. -/
def ofRatio (negative : Bool) (numerator denominator : Nat) : Double :=
  if numerator = 0 then ofFields negative 0
  else
    let guess : Int := (numerator.log2 : Int) - denominator.log2 - 52
    let tooLarge : Bool :=
      if 0 ≤ guess then numerator < exponentUnit * (denominator * Nat.pow 2 guess.toNat)
      else numerator * Nat.pow 2 (-guess).toNat < exponentUnit * denominator
    let exponent := max (-1074) (if tooLarge then guess - 1 else guess)
    let significand := roundScaled numerator denominator exponent
    let magnitude : Int := (exponent + 1074) * exponentUnit + significand
    if (2047 * exponentUnit : Nat) ≤ magnitude then infinity negative
    else ofFields negative magnitude.toNat

/-- The double nearest to `digits * 10 ^ exponent`. Exponents that leave no doubt about the result
are not raised to a power. -/
def ofDecimal (negative : Bool) (digits : Nat) (exponent : Int) : Double :=
  if digits = 0 then ofFields negative 0
  else if 400 < exponent then infinity negative
  else if exponent < -400 - (digits.log2 : Int) then ofFields negative 0
  else if 0 ≤ exponent then ofRatio negative (digits * Nat.pow 10 exponent.toNat) 1
  else ofRatio negative digits (Nat.pow 10 (-exponent).toNat)

/-- The whole number that a double is, if it is one. -/
def toInt? (double : Double) : Option Int :=
  if double.exponentField = 2047 then none
  else
    let (significand, exponent) := double.parts
    let magnitude? : Option Nat :=
      if 0 ≤ exponent then some (significand * Nat.pow 2 exponent.toNat)
      else
        let unit := Nat.pow 2 (-exponent).toNat
        if significand % unit = 0 then some (significand / unit) else none
    magnitude?.map fun magnitude => if double.negative then -(magnitude : Int) else magnitude

/-- Whether a double is zero, of either sign. -/
def isZero (double : Double) : Bool := double.bits.toNat % signUnit = 0

/-! ### Arithmetic -/

/-- The double of the other sign. -/
def negate (double : Double) : Double :=
  ofFields (!double.negative) (double.bits.toNat % signUnit)

/-- The numerator and the denominator of a finite double. -/
def ratio (double : Double) : Int × Nat :=
  let (significand, exponent) := double.parts
  let numerator : Int := significand * Nat.pow 2 exponent.toNat
  (if double.negative then -numerator else numerator, Nat.pow 2 (-exponent).toNat)

/-- A double times a positive whole number, which is rounded to a double first; nothing if it is too
large for one. -/
def times? (factor : Nat) (double : Double) : Option Double :=
  let whole := ofRatio false factor 1
  if whole.isInfinite then none
  else if double.isNotNumber || double.isInfinite then some double
  else
    let (numerator, denominator) := double.ratio
    let (wholeNumerator, wholeDenominator) := whole.ratio
    some (ofRatio double.negative (numerator * wholeNumerator).natAbs
      (denominator * wholeDenominator))

/-- The sum of two doubles, rounded; a sum that is zero is positive. -/
def sum (left right : Double) : Double :=
  if left.isNotNumber || right.isNotNumber then notNumber
  else if left.isInfinite then
    if right.isInfinite && left.negative != right.negative then notNumber else left
  else if right.isInfinite then right
  else
    let (leftNumerator, leftDenominator) := left.ratio
    let (rightNumerator, rightDenominator) := right.ratio
    let total := leftNumerator * rightDenominator + rightNumerator * leftDenominator
    ofRatio (total < 0) total.natAbs (leftDenominator * rightDenominator)

/-! ### The shortest decimal -/

/-- The place of the decimal point of a positive ratio: the least `place` with the ratio below
`10 ^ place`, looked for in at most `fuel` steps below one. -/
def decimalPlace (fuel numerator denominator : Nat) : Int :=
  if denominator ≤ numerator then (Text.ofNat (numerator / denominator)).length
  else match fuel with
    | 0 => 0
    | fuel + 1 => decimalPlace fuel (numerator * 10) denominator - 1

/-- The decimal with `count` digits that lies in the interval of reals nearest to a double, the
nearer one if there are two. The double is `middle`, the interval reaches from `low` to `high`, all
in units of `2 ^ exponent`; the decimal is in units of `10 ^ scale`. -/
def decimalIn? (low middle high : Nat) (closed : Bool) (exponent scale : Int) : Option Nat :=
  let tens := Nat.pow 10 scale.toNat * Nat.pow 2 (-exponent).toNat
  let twos := Nat.pow 2 exponent.toNat * Nat.pow 10 (-scale).toNat
  let below := middle * twos / tens
  let inside (digits : Nat) : Bool :=
    let point := digits * tens
    if closed then low * twos ≤ point && point ≤ high * twos
    else low * twos < point && point < high * twos
  match inside below, inside (below + 1) with
  | true, true =>
    if 2 * (middle * twos) ≤ (2 * below + 1) * tens then some below else some (below + 1)
  | true, false => some below
  | false, true => some (below + 1)
  | false, false => none

/-- The shortest decimal that reads back as a positive finite double, as digits and the place of the
decimal point in front of which they all stand. -/
def shortest (double : Double) : Nat × Int :=
  let (significand, exponent) := double.parts
  let narrow := double.fractionField = 0 && 1 < double.exponentField
  let middle := 4 * significand
  let low := if narrow then middle - 1 else middle - 2
  let place :=
    if 0 ≤ exponent then decimalPlace 0 (significand * Nat.pow 2 exponent.toNat) 1
    else decimalPlace 400 significand (Nat.pow 2 (-exponent).toNat)
  let found := (List.range 17).findSome? fun count =>
    let scale := place - (count + 1 : Nat)
    (decimalIn? low middle (middle + 2) (significand % 2 = 0) (exponent - 2) scale).map (·, scale)
  match found with
  | some (digits, scale) => (digits, scale + (Text.ofNat digits).length)
  | none => (significand, place)

/-- A double as text: the fewest digits that read back, with a decimal point for magnitudes from a
ten-thousandth up to ten to the sixteenth, and with an exponent of at least two digits otherwise. -/
def toText (double : Double) : Text :=
  let sign : Text := if double.negative then ['-'] else []
  if double.isNotNumber then ['n', 'a', 'n']
  else if double.isInfinite then sign ++ ['i', 'n', 'f']
  else if double.isZero then sign ++ ['0', '.', '0']
  else
    let (number, place) := double.shortest
    let digits := Text.trimRightWhile (· = '0') (Text.ofNat number)
    let count : Int := digits.length
    sign ++
      if -4 < place && place ≤ 16 then
        if place ≤ 0 then ['0', '.'] ++ List.replicate (-place).toNat '0' ++ digits
        else if count ≤ place then
          digits ++ List.replicate (place - count).toNat '0' ++ ['.', '0']
        else digits.take place.toNat ++ ['.'] ++ digits.drop place.toNat
      else
        let power := place - 1
        digits.take 1 ++ (if count = 1 then [] else '.' :: digits.drop 1) ++
          ['e', if power < 0 then '-' else '+'] ++ Text.padLeft 2 '0' (Text.ofNat power.natAbs)

end Double

end GuidedMigration
