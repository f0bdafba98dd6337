/-
This file writes values as one line of text, the way they appear inside messages and as parts of key
paths: a text as it is, a text inside a collection between quotes, truth values and the empty value
as capitalised words.

It names the places of a document by key paths: the keys on the way to a value, written with dots
between them. Lists have no key paths of their own. A key path can be looked up again; then its
parts are taken as texts.
-/
import GuidedMigration.Text.Character
import GuidedMigration.Value.Basic

namespace GuidedMigration

/-- The part that a number of bytes between quotes shows for one byte. -/
def displayByte (quote : Char) (byte : UInt8) : Text :=
  let char := Char.ofNat byte.toNat
  if char = quote || char = '\\' then ['\\', char]
  else if char = '\n' then ['\\', 'n']
  else if char = '\r' then ['\\', 'r']
  else if char = '\t' then ['\\', 't']
  else if ' ' ≤ char && char ≤ '~' then [char]
  else ['\\', 'x'] ++ Text.hex 2 byte.toNat

/-- Bytes behind a letter: between single quotes, unless they hold one and no double quote. -/
def displayBytes (bytes : List UInt8) : Text :=
  let holds (char : Char) : Bool := bytes.any (·.toNat = char.toNat)
  let quote := if holds '\'' && !holds '"' then '"' else '\''
  ['b', quote] ++ bytes.flatMap (displayByte quote) ++ [quote]

/-- A scalar on its own: a text is itself, and a time has a blank before its hours. -/
def Scalar.display : Scalar → Text
  | .null => ['N', 'o', 'n', 'e']
  | .bool true => ['T', 'r', 'u', 'e']
  | .bool false => ['F', 'a', 'l', 's', 'e']
  | .int number => Text.ofInt number
  | .double number => number.toText
  | .text word => word
  | .date day => day
  | .moment time => time.map fun char => if char = 'T' then ' ' else char
  | .bytes octets => displayBytes octets

/-! ### Dates and times inside collections -/

/-- The numbers that a text without signs writes between other characters. -/
def numbersIn (text : Text) : List Nat :=
  let parts := text.splitBy fun left right =>
    Text.isAsciiDigit left && Text.isAsciiDigit right
  (parts.filter fun part => part.any Text.isAsciiDigit).map Text.numberOf

/-- A number of seconds before or after midnight as a span of time: days may be negative, the
seconds of a day are not. -/
def displaySpan (negative : Bool) (seconds : Nat) : Text :=
  if negative then
    "datetime.timedelta(days=-1, seconds=".toList ++ Text.ofNat (86400 - seconds) ++ [')']
  else "datetime.timedelta(seconds=".toList ++ Text.ofNat seconds ++ [')']

/-- The offset of a time from universal time. -/
def displayZone (sign : Char) (offset : Text) : Text :=
  let seconds := match numbersIn offset with
    | [hours, minutes] => hours * 3600 + minutes * 60
    | _ => 0
  if seconds = 0 then "datetime.timezone.utc".toList
  else "datetime.timezone(".toList ++ displaySpan (sign = '-') seconds ++ [')']

/-- The numbers of a time that are shown: seconds and their fraction only if they are not zero. -/
def shownNumbers : List Nat → List Nat
  | [year, month, day, hour, minute, 0] => [year, month, day, hour, minute]
  | numbers => numbers

/-- A date inside a collection: its numbers. -/
def displayDate (day : Text) : Text :=
  "datetime.date(".toList ++ Text.joinWith [',', ' '] ((numbersIn day).map Text.ofNat) ++ [')']

/-- A time inside a collection: its numbers and its offset. -/
def displayMoment (time : Text) : Text :=
  let clock := time.drop 11
  let local' := time.take 11 ++ clock.takeWhile fun char => char != '+' && char != '-'
  let zone : List Text := match clock.dropWhile fun char => char != '+' && char != '-' with
    | sign :: offset => ["tzinfo=".toList ++ displayZone sign offset]
    | [] => []
  let numbers := (shownNumbers (numbersIn local')).map Text.ofNat
  "datetime.datetime(".toList ++ Text.joinWith [',', ' '] (numbers ++ zone) ++ [')']

/-- A scalar inside a collection: a text stands between quotes, a date or time shows its parts. -/
def Scalar.displayInside : Scalar → Text
  | .text word => Text.quoted word
  | .date day => displayDate day
  | .moment time => displayMoment time
  | other => other.display

namespace Value

mutual

/-- A value inside a collection. -/
def displayInside : Value → Text
  | .scalar leaf => leaf.displayInside
  | .list items => ['['] ++ Text.joinWith [',', ' '] (displayItems items) ++ [']']
  | .set [] => "set()".toList
  | .set members =>
    '\x7b' :: Text.joinWith [',', ' '] (members.map Scalar.displayInside) ++ ['\x7d']
  | .map entries => '\x7b' :: Text.joinWith [',', ' '] (displayEntries entries) ++ ['\x7d']

/-- The items of a list, each displayed. -/
def displayItems : List Value → List Text
  | [] => []
  | item :: rest => displayInside item :: displayItems rest

/-- The entries of a mapping, each displayed. -/
def displayEntries : List (Scalar × Value) → List Text
  | [] => []
  | (key, value) :: rest =>
    (key.displayInside ++ [':', ' '] ++ displayInside value) :: displayEntries rest

end

/-- A value on its own. -/
def display : Value → Text
  | .scalar leaf => leaf.display
  | value => value.displayInside

end Value

/-! ### Key paths -/

mutual

/-- The key paths below a value that stands at `base`. -/
def Value.keyPathsFrom (base : Text) : Value → List Text
  | .map entries => Mapping.keyPathsFrom base entries
  | .scalar _ => []
  | .list _ => []
  | .set _ => []

/-- The key paths of the entries of a mapping that stands at `base`. -/
def Mapping.keyPathsFrom (base : Text) : List (Scalar × Value) → List Text
  | [] => []
  | (key, value) :: rest =>
    let path := if base.isEmpty then key.display else base ++ '.' :: key.display
    path :: (Value.keyPathsFrom path value ++ Mapping.keyPathsFrom base rest)

end

/-- The key paths of a document, each once and in order. -/
def Value.keyPaths (value : Value) : List Text := Text.sortedUnique (value.keyPathsFrom [])

/-- The value that a list of keys leads to. -/
def Value.follow? : List Text → Value → Option Value
  | [], value => some value
  | part :: parts, .map entries => match Mapping.get? (.text part) entries with
    | some value => value.follow? parts
    | none => none
  | _ :: _, _ => none

/-- The value at a key path. -/
def Value.lookUp? (path : Text) (value : Value) : Option Value :=
  value.follow? (Text.splitOn '.' path)

end GuidedMigration
