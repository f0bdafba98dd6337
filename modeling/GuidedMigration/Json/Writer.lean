/-
This file writes JSON in two forms. In one every member and every item stands on a line of its own,
indented by two columns a level; characters beyond ASCII are written as they are, and so are halves
of surrogate pairs, so that what is written is a word. The other form is a single line of ASCII,
with escapes of sixteen-bit units for any other character, of which one beyond the first plane has
two.
-/
import GuidedMigration.Json.Datum

namespace GuidedMigration.Json

open Text

/-- A character inside a string. -/
def writeChar (char : Char) : Text :=
  if char = '"' || char = '\\' then ['\\', char]
  else if char = '\n' then ['\\', 'n']
  else if char = '\r' then ['\\', 'r']
  else if char = '\t' then ['\\', 't']
  else if char.toNat = 8 then ['\\', 'b']
  else if char.toNat = 12 then ['\\', 'f']
  else if char.toNat < 32 then ['\\', 'u'] ++ hex 4 char.toNat
  else [char]

/-- A point inside a string. -/
def writePoint : Point → Word
  | .char char => .ofText (writeChar char)
  | .half offset => [.half offset]

/-- A string between quotes. -/
def writeString (word : Word) : Word := .char '"' :: word.flatMap writePoint ++ [.char '"']

/-- A double. -/
def writeDouble (number : Double) : Text :=
  if number.isNotNumber then "NaN".toList
  else if number.isInfinite then (if number.negative then ['-'] else []) ++ "Infinity".toList
  else number.toText

/-- A line break and the indent of a level. -/
def lineStart (level : Nat) : Word := .char '\n' :: List.replicate (2 * level) (.char ' ')

/-- Parts between brackets, each on a line of its own; nothing stands between the brackets if there
are none. -/
def enclose (opening closing : Char) (level : Nat) (parts : List Word) : Word :=
  if parts.isEmpty then [.char opening, .char closing]
  else .char opening :: (lineStart (level + 1) ++
    List.intercalate (.char ',' :: lineStart (level + 1)) parts ++
    lineStart level ++ [.char closing])

mutual

/-- A datum at a level of indentation. -/
def writeAt (level : Nat) : Datum → Word
  | .null => .ofString "null"
  | .bool truth => .ofString (if truth then "true" else "false")
  | .int number => .ofText (ofInt number)
  | .double number => .ofText (writeDouble number)
  | .string word => writeString word
  | .array items => enclose '[' ']' level (writeItems (level + 1) items)
  | .object members => enclose '\x7b' '\x7d' level (writeMembers (level + 1) members)

/-- The items of an array. -/
def writeItems (level : Nat) : List Datum → List Word
  | [] => []
  | item :: rest => writeAt level item :: writeItems level rest

/-- The members of an object. -/
def writeMembers (level : Nat) : List (Word × Datum) → List Word
  | [] => []
  | (name, datum) :: rest =>
    (writeString name ++ .ofString ": " ++ writeAt level datum) :: writeMembers level rest

end

/-- A datum as JSON. -/
def write (datum : Datum) : Word := writeAt 0 datum

/-! ### On one line -/

/-- The escape of a sixteen-bit unit. -/
def escapeUnit (unit : Nat) : Text := '\\' :: 'u' :: hex 4 unit

/-- A point inside a string on a line. -/
def linePoint : Point → Text
  | .half offset => Word.escapeHalf offset
  | .char char =>
    let code := char.toNat
    if code < 127 then writeChar char
    else if code < 0x10000 then escapeUnit code
    else
      let beyond := code - 0x10000
      escapeUnit (0xD800 + beyond / 0x400) ++ escapeUnit (0xDC00 + beyond % 0x400)

/-- A string between quotes on a line. -/
def lineString (word : Word) : Text := '"' :: word.flatMap linePoint ++ ['"']

mutual

/-- A datum on a line. -/
def writeLine : Datum → Text
  | .null => "null".toList
  | .bool truth => (if truth then "true" else "false").toList
  | .int number => ofInt number
  | .double number => writeDouble number
  | .string word => lineString word
  | .array items => '[' :: joinWith [','] (lineItems items) ++ [']']
  | .object members => '\x7b' :: joinWith [','] (lineMembers members) ++ ['\x7d']

/-- The items of an array on a line. -/
def lineItems : List Datum → List Text
  | [] => []
  | item :: rest => writeLine item :: lineItems rest

/-- The members of an object on a line. -/
def lineMembers : List (Word × Datum) → List Text
  | [] => []
  | (name, datum) :: rest => (lineString name ++ ':' :: writeLine datum) :: lineMembers rest

end

end GuidedMigration.Json
