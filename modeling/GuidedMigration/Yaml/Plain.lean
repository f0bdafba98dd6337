/-
This file says what a plain scalar of a YAML 1.1 document stands for: the empty value, a truth
value, an integer in one of five notations, a fraction, a date or time, a merge key, or a text. The
reader uses it to give plain scalars their type, the writer to see which texts need quotes.
-/
import GuidedMigration.Yaml.Timestamp

namespace GuidedMigration.Yaml

open Text

/-- What a plain scalar stands for. -/
inductive Kind where
  | null
  | bool
  | int
  | float
  | timestamp
  | merge
  | value
  | text
  deriving DecidableEq

namespace Plain

/-- The words for the empty value. -/
def nullWords : List Text :=
  [[], ['~'], ['n', 'u', 'l', 'l'], ['N', 'u', 'l', 'l'], ['N', 'U', 'L', 'L']]

/-- The words for true. -/
def trueWords : List Text := ["yes", "Yes", "YES", "true", "True", "TRUE", "on", "On", "ON"].map
  String.toList

/-- The words for false. -/
def falseWords : List Text :=
  ["no", "No", "NO", "false", "False", "FALSE", "off", "Off", "OFF"].map String.toList

/-- A text without a sign at its start. -/
def dropSign : Text → Text
  | '+' :: rest => rest
  | '-' :: rest => rest
  | text => text

/-- A digit or an underscore. -/
def isDigitOrGap (char : Char) : Bool := isAsciiDigit char || char = '_'

/-- One or two digits that count sixtieths. -/
def isSixtieth : Text → Bool
  | [one] => isAsciiDigit one
  | [ten, one] => '0' ≤ ten && ten ≤ '5' && isAsciiDigit one
  | _ => false

/-- A digit that `first` accepts, then digits and underscores. -/
def isNumeral (first : Char → Bool) : Text → Bool
  | char :: rest => first char && rest.all isDigitOrGap
  | [] => false

/-- The digits of an unsigned integer after a mark such as `0x`. -/
def isInBase (mark : Text) (isDigit : Char → Bool) (text : Text) : Bool :=
  match dropPrefix? mark text with
  | some digits => !digits.isEmpty && digits.all fun char => isDigit char || char = '_'
  | none => false

/-- Whether a plain scalar is an integer. -/
def isInt (text : Text) : Bool :=
  let digits := dropSign text
  isInBase ['0', 'b'] (fun char => char = '0' || char = '1') digits ||
    isInBase ['0'] (fun char => '0' ≤ char && char ≤ '7') digits ||
    digits = ['0'] || isNumeral (fun char => '1' ≤ char && char ≤ '9') digits ||
    isInBase ['0', 'x'] isHexDigit digits ||
    match splitOn ':' digits with
    | first :: part :: parts =>
      isNumeral (fun char => '1' ≤ char && char ≤ '9') first && (part :: parts).all isSixtieth
    | _ => false

/-- Whether a text is empty or an exponent: a letter, a sign, digits. -/
def isExponent : Text → Bool
  | [] => true
  | mark :: sign :: digits => (mark = 'e' || mark = 'E') && (sign = '+' || sign = '-') &&
      !digits.isEmpty && digits.all isAsciiDigit
  | _ => false

/-- Whether a plain scalar is a fraction. -/
def isFloat (text : Text) : Bool :=
  let digits := dropSign text
  (match splitFirst? ['.'] digits with
    | some (whole, rest) =>
      (isNumeral isAsciiDigit whole && isExponent (rest.dropWhile isDigitOrGap)) ||
        (match splitOn ':' whole with
          | first :: part :: parts => isNumeral isAsciiDigit first &&
              (part :: parts).all isSixtieth && rest.all isDigitOrGap
          | _ => false) ||
        (whole.isEmpty && ["inf", "Inf", "INF"].any (·.toList = rest))
    | none => false) ||
  match text with
  | '.' :: rest => (isNumeral isAsciiDigit (rest.takeWhile isDigitOrGap) &&
      isExponent (rest.dropWhile isDigitOrGap)) || ["nan", "NaN", "NAN"].any (·.toList = rest)
  | _ => false

/-- What a plain scalar stands for. -/
def kind (text : Text) : Kind :=
  if nullWords.contains text then .null
  else if trueWords.contains text || falseWords.contains text then .bool
  else if isFloat text then .float
  else if isInt text then .int
  else if text = ['<', '<'] then .merge
  else if Timestamp.isPlain text then .timestamp
  else if text = ['='] then .value
  else .text

end Plain

end GuidedMigration.Yaml
