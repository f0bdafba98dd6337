/-
This file reads the values of settings. A value need not have the kind of its setting: a text may
write a number or a truth value, a whole fraction counts as an integer, and zero and one count as
truth values. What does not fit is a fault of its field, and all faults are collected.
-/
import GuidedMigration.Number.Numeral
import GuidedMigration.Text.Utf8
import GuidedMigration.Value.Display

namespace GuidedMigration

/-- What is wrong with the value of a field. -/
inductive FieldFault where
  | text
  | textBytes
  | integer
  | integerText
  | integerSize
  | integerFraction
  | finite
  | tooLarge
  | tooSmall
  | truth
  | truthText
  | list
  | mapping
  deriving DecidableEq

/-- The name of a fault. -/
def FieldFault.name : FieldFault → Text
  | .text => "string_type".toList
  | .textBytes => "string_unicode".toList
  | .integer => "int_type".toList
  | .integerText => "int_parsing".toList
  | .integerSize => "int_parsing_size".toList
  | .integerFraction => "int_from_float".toList
  | .finite => "finite_number".toList
  | .tooLarge => "less_than_equal".toList
  | .tooSmall => "greater_than_equal".toList
  | .truth => "bool_type".toList
  | .truthText => "bool_parsing".toList
  | .list => "list_type".toList
  | .mapping => "dict_type".toList

namespace Field

/-- A value that has been read, or the faults that were found, each with the place below the field
where it was found. -/
abbrev Checked (Read : Type) := Except (List (List Text × FieldFault)) Read

/-- A fault of the whole value. -/
def fault {Read : Type} (fault : FieldFault) : Checked Read := .error [([], fault)]

/-- The faults, found one level further down. -/
def below {Read : Type} (part : Text) : Checked Read → Checked Read
  | .ok read => .ok read
  | .error faults => .error (faults.map fun (place, fault) => (part :: place, fault))

/-- Two values together, with the faults of both. -/
def both {First Second : Type} : Checked First → Checked Second → Checked (First × Second)
  | .ok first, .ok second => .ok (first, second)
  | .error faults, .ok _ => .error faults
  | .ok _, .error faults => .error faults
  | .error faults, .error others => .error (faults ++ others)

/-- Several values together, with the faults of all. -/
def all {Read : Type} : List (Checked Read) → Checked (List Read)
  | [] => .ok []
  | first :: rest => (both first (all rest)).map fun (read, reads) => read :: reads

/-! ### Texts -/

/-- A text, or bytes that write one. -/
def text : Value → Checked Text
  | .scalar (.text word) => .ok word
  | .scalar (.bytes bytes) => match Utf8.decode bytes with
    | .ok word => .ok word
    | .error _ => fault .textBytes
  | _ => fault .text

/-- A text that may be left open. -/
def text? : Value → Checked (Option Text)
  | .scalar .null => .ok none
  | value => (text value).map some

/-! ### Integers -/

/-- The white space around the text of an integer. -/
def isSpace (char : Char) : Bool :=
  Text.isBlank char && !(28 ≤ char.toNat && char.toNat ≤ 31)

/-- What is left of the digits behind zeros and gaps at their start; one zero stays before a point
and at the end. Nothing if something else comes first. -/
def dropZeros (before : Char) : Text → Option Text
  | [] => some [before]
  | char :: rest =>
    if char = '0' || char = '_' then dropZeros char rest
    else if '1' ≤ char && char ≤ '9' then some (char :: rest)
    else if char = '.' then some (before :: char :: rest)
    else none

/-- A text without zeros at its start, which must be a digit or a minus sign. -/
def withoutZeros : Text → Option Text
  | '0' :: rest => dropZeros '0' rest
  | char :: rest => if ('1' ≤ char && char ≤ '9') || char = '-' then some (char :: rest) else none
  | [] => none

/-- A text without a point and the zeros behind it, if there is nothing else behind the point. -/
def withoutFraction (body : Text) : Text :=
  match Text.splitFirst? ['.'] body with
  | some (whole, fraction) => if fraction.all (· = '0') then whole else body
  | none => body

/-- A text without underscores, if they stand one by one between other characters. -/
def withoutGaps (body : Text) : Text :=
  if body.head? = some '_' || body.getLast? = some '_' || Text.occursIn ['_', '_'] body then body
  else body.filter (· != '_')

/-- Digits without a needless zero, possibly behind a minus sign. -/
def plainInteger? (body : Text) : Option Int :=
  let (negative, digits) := match body with
    | '-' :: digits => (true, digits)
    | _ => (false, body)
  let isPlain := !digits.isEmpty && digits.all Text.isAsciiDigit &&
    (digits.length = 1 || digits.head? != some '0')
  if isPlain then
    let magnitude : Int := Text.numberOf digits
    some (if negative then -magnitude else magnitude)
  else none

/-- The integer that a text writes: a sign, zeros, gaps and a fraction of zeros are allowed. -/
def integerOfText? (written : Text) : Option Int := do
  let body := Text.trimWhile isSpace written
  let unsigned ← match body with
    | '+' :: '-' :: _ => none
    | '+' :: rest => some rest
    | _ => some body
  let digits ← withoutZeros unsigned
  plainInteger? (withoutGaps (withoutFraction digits))

/-- An integer from a text. -/
def integerText (written : Text) : Checked Int :=
  if LongInteger.limit < (Utf8.encode written).length then fault .integerSize
  else match integerOfText? written with
    | some number => .ok number
    | none => fault .integerText

/-- An integer from a double, which must be whole and fit into sixty-four bits. -/
def integerDouble (number : Double) : Checked Int :=
  if number.isNotNumber || number.isInfinite then fault .finite
  else match number.toInt? with
    | none => fault .integerFraction
    | some whole => if whole.natAbs < Nat.pow 2 63 then .ok whole else fault .integerSize

/-- An integer. -/
def integer : Value → Checked Int
  | .scalar (.int number) => .ok number
  | .scalar (.bool truth) => .ok (if truth then 1 else 0)
  | .scalar (.double number) => integerDouble number
  | .scalar (.text written) => integerText written
  | .scalar (.bytes bytes) => match Utf8.decode bytes with
    | .ok written => integerText written
    | .error _ => fault .integerText
  | _ => fault .integer

/-- An integer between two bounds. -/
def integerBetween (least most : Int) (value : Value) : Checked Int := do
  let number ← integer value
  if number < least then fault .tooSmall
  else if most < number then fault .tooLarge
  else .ok number

/-! ### Truth values -/

/-- The words for true and for false in small letters. -/
def truthWords : List (Text × Bool) :=
  [(['0'], false), ("off".toList, false), (['f'], false), ("false".toList, false), (['n'], false),
    ("no".toList, false), (['1'], true), ("on".toList, true), (['t'], true), ("true".toList, true),
    (['y'], true), ("yes".toList, true)]

/-- A truth value from a text. -/
def truthText (written : Text) : Checked Bool :=
  match truthWords.lookup (written.map Text.asciiLower) with
  | some truth => .ok truth
  | none => fault .truthText

/-- A truth value from an integer. -/
def truthInteger (number : Int) : Checked Bool :=
  if number = 0 then .ok false else if number = 1 then .ok true else fault .truthText

/-- A truth value. -/
def truth : Value → Checked Bool
  | .scalar (.bool truth) => .ok truth
  | .scalar (.int number) => truthInteger number
  | .scalar (.double number) => match integerDouble number with
    | .ok whole => truthInteger whole
    | .error _ => fault .truth
  | .scalar (.text written) => truthText written
  | .scalar (.bytes bytes) => match Utf8.decode bytes with
    | .ok written => truthText written
    | .error _ => fault .truthText
  | _ => fault .truth

/-! ### Collections -/

/-- The items with their numbers, each a text. -/
def itemsFrom : Nat → List Value → List (Checked Text)
  | _, [] => []
  | number, item :: rest => below (Text.ofNat number) (text item) :: itemsFrom (number + 1) rest

/-- A list of texts; the members of a set count as one. -/
def texts : Value → Checked (List Text)
  | .list items => all (itemsFrom 0 items)
  | .set members => all (itemsFrom 0 (members.map .scalar))
  | _ => fault .list

/-- How a key stands in the place of a fault. -/
def keyName : Scalar → Text
  | .bool truth => if truth then ['1'] else ['0']
  | .text word => word
  | key => key.displayInside

/-- A mapping of texts to texts. -/
def textMap : Value → Checked (List (Text × Text))
  | .map entries => all (entries.map fun (key, value) =>
      below (keyName key) (both (below "[key]".toList (text (.scalar key))) (text value)))
  | _ => fault .mapping

end Field

end GuidedMigration
