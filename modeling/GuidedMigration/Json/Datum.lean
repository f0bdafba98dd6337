/-
This file defines what JSON texts write. An escape can write half of a surrogate pair without the
other half, so that a string is a word of points, each a character or such a half. A word without
halves is a text; a word with halves has no bytes in UTF-8, and the fault that says so names the
first of them.

The members of an object keep the order in which their names were first written; an object holds a
name once, and writing to a name that it holds changes the datum and not the place. Data become
values of documents where their words are texts, and every value is written as data.
-/
import GuidedMigration.Text.Character
import GuidedMigration.Value.Display

namespace GuidedMigration.Json

open Text

/-! ### Words -/

/-- A point of a string: a character, or half of a surrogate pair that stands alone, as its distance
from the first of all halves. -/
inductive Point where
  | char (char : Char)
  | half (offset : Fin 2048)
  deriving DecidableEq

/-- The number of the first half of a surrogate pair. -/
def firstHalf : Nat := 0xD800

/-- Whether a point is half of a surrogate pair. -/
def Point.isHalf : Point → Bool
  | .char _ => false
  | .half _ => true

/-- A string of JSON. -/
abbrev Word := List Point

namespace Word

/-- A text as a word. -/
def ofText (text : Text) : Word := text.map .char

/-- A literal as a word. -/
def ofString (literal : String) : Word := ofText literal.toList

/-- Whether a word has another one as a part. -/
def hasPart (part : Word) : Word → Bool
  | [] => part.isEmpty
  | point :: rest => part.isPrefixOf (point :: rest) || hasPart part rest

/-! ### Texts -/

/-- The first halves in a word that has no bytes: where they stand, the first of them, and how many
stand in a row. -/
structure Unencodable where
  position : Nat
  first : Fin 2048
  count : Nat
  deriving DecidableEq

/-- The escape of half of a surrogate pair. -/
def escapeHalf (offset : Fin 2048) : Text := '\\' :: 'u' :: hex 4 (firstHalf + offset)

/-- The wording of a fault of writing. -/
def Unencodable.message (fault : Unencodable) : Text :=
  "'utf-8' codec can't encode ".toList ++
    (if fault.count = 1 then
      "character '".toList ++ escapeHalf fault.first ++ "' in position ".toList ++
        ofNat fault.position
    else
      "characters in position ".toList ++ ofNat fault.position ++ ['-'] ++
        ofNat (fault.position + fault.count - 1)) ++
    ": surrogates not allowed".toList

/-- The text that a word is from a position on. -/
def textFrom (position : Nat) : Word → Except Unencodable Text
  | [] => .ok []
  | .char char :: rest => (textFrom (position + 1) rest).map (char :: ·)
  | .half first :: rest => .error ⟨position, first, (rest.takeWhile Point.isHalf).length + 1⟩

/-- The text that a word is. -/
def text (word : Word) : Except Unencodable Text := textFrom 0 word

/-! ### Display -/

/-- A point between quotes. -/
def quotedPoint (quote : Char) : Point → Text
  | .char char => quotedChar quote char
  | .half offset => escapeHalf offset

/-- A word between quotes, which are chosen as those of a text. -/
def quoted (word : Word) : Text :=
  let has (char : Char) : Bool := word.elem (.char char)
  let quote := if has '\'' && !has '"' then '"' else '\''
  quote :: word.flatMap (quotedPoint quote) ++ [quote]

end Word

/-! ### Data -/

/-- What a JSON text writes. -/
inductive Datum where
  | null
  | bool (truth : Bool)
  | int (number : Int)
  | double (number : Double)
  | string (word : Word)
  | array (items : List Datum)
  | object (members : List (Word × Datum))

/-- The members of an object. -/
abbrev Members := List (Word × Datum)

namespace Members

/-- The members of an object with a datum written to a name: in place if the name is there, at the
end otherwise. -/
def put (name : Word) (datum : Datum) : Members → Members
  | [] => [(name, datum)]
  | (other, old) :: rest =>
    if other = name then (other, datum) :: rest else (other, old) :: put name datum rest

/-- Whether an object has a member with a name. -/
def has (name : Word) (members : Members) : Bool := (members.lookup name).isSome

end Members

namespace Datum

/-! ### Display -/

mutual

/-- A datum inside a collection, in the notation of values. -/
def displayInside : Datum → Text
  | .null => Scalar.display .null
  | .bool truth => Scalar.display (.bool truth)
  | .int number => Scalar.display (.int number)
  | .double number => Scalar.display (.double number)
  | .string word => Word.quoted word
  | .array items => ['['] ++ joinWith [',', ' '] (displayItems items) ++ [']']
  | .object members => '\x7b' :: joinWith [',', ' '] (displayMembers members) ++ ['\x7d']

/-- The items of an array, each displayed. -/
def displayItems : List Datum → List Text
  | [] => []
  | item :: rest => displayInside item :: displayItems rest

/-- The members of an object, each displayed. -/
def displayMembers : List (Word × Datum) → List Text
  | [] => []
  | (name, datum) :: rest =>
    (Word.quoted name ++ [':', ' '] ++ displayInside datum) :: displayMembers rest

end

/-- A datum on its own: a string is itself. -/
def display : Datum → Word
  | .string word => word
  | datum => .ofText datum.displayInside

/-! ### Values -/

/-- A scalar as a datum. What JSON has no form for is a string. -/
def ofScalar : Scalar → Datum
  | .null => .null
  | .bool truth => .bool truth
  | .int number => .int number
  | .double number => .double number
  | other => .string (.ofText other.display)

mutual

/-- A value as a datum; a set is an array. -/
def ofValue : Value → Datum
  | .scalar leaf => ofScalar leaf
  | .list items => .array (ofItems items)
  | .set members => .array (members.map ofScalar)
  | .map entries => .object (ofEntries entries)

/-- The items of a list as data. -/
def ofItems : List Value → List Datum
  | [] => []
  | item :: rest => ofValue item :: ofItems rest

/-- The entries of a mapping as members. -/
def ofEntries : List (Scalar × Value) → Members
  | [] => []
  | (key, value) :: rest => (.ofText key.display, ofValue value) :: ofEntries rest

end

mutual

/-- The value that a datum is, unless a word in it is no text. -/
def toValue? : Datum → Option Value
  | .null => some .null
  | .bool truth => some (.bool truth)
  | .int number => some (.int number)
  | .double number => some (.scalar (.double number))
  | .string word => (Word.text word).toOption.map .text
  | .array items => (toItems? items).map .list
  | .object members => (toEntries? members).map .map

/-- The items of an array as values. -/
def toItems? : List Datum → Option (List Value)
  | [] => some []
  | item :: rest => do
    let value ← toValue? item
    let values ← toItems? rest
    some (value :: values)

/-- The members of an object as the entries of a mapping. -/
def toEntries? : List (Word × Datum) → Option Mapping
  | [] => some []
  | (name, datum) :: rest => do
    let key ← (Word.text name).toOption
    let value ← toValue? datum
    let entries ← toEntries? rest
    some ((.text key, value) :: entries)

end

end Datum

end GuidedMigration.Json
