/-
This file holds the place of a reader in a YAML text, with its line and column, and the classes of
characters by which the parts of such a text are told apart. The end of the text is no character.
-/
import GuidedMigration.Number.Numeral
import GuidedMigration.Yaml.Timestamp

namespace GuidedMigration.Yaml

open Text

/-- What is wrong with a YAML text: it is malformed, or a value has a type that its text does not
fit. -/
inductive Fault where
  | malformed
  /-- An escape by a number that no character has. -/
  | noCharacter
  /-- Digits that are not those of an integer to a base. -/
  | integer (base : Nat) (written : Text)
  | longInteger (refusal : LongInteger)
  /-- A text that is no number. -/
  | number (written : Text)
  /-- No text at all where a number should be. -/
  | noDigits
  | date (fault : Timestamp.Fault)
  /-- A text that is neither true nor false. -/
  | truth
  /-- A text that is neither a date nor a time. -/
  | moment
  /-- A whole number for which a character's number or a double has no room. -/
  | tooLarge
  /-- An alias inside the collection that it names. The collection holds itself, and comparing it
  with an equal one does not end. -/
  | endless

/-- A reader's place: the text from there on, how many characters stand before it, and its line and
column. -/
structure Cursor where
  rest : Text
  index : Nat
  line : Nat
  column : Nat

/-! ### Characters -/

/-- The characters that end a line. -/
def endsLine (char : Char) : Bool :=
  char = '\n' || char = '\r' || char.toNat = 0x85 || char.toNat = 0x2028 || char.toNat = 0x2029

/-- Whether there is no character, a space, or one that ends a line. -/
def isSpaceOrEnd (char : Option Char) : Bool := char.all fun char => char = ' ' || endsLine char

/-- Whether there is no character, a space or tab, or one that ends a line. -/
def isBlankOrEnd (char : Option Char) : Bool :=
  char.all fun char => isSpaceOrTab char || endsLine char

/-- The characters of names. -/
def isNameChar (char : Char) : Bool := isAsciiAlnum char || char = '-' || char = '_'

/-- The characters that a document may hold. -/
def isAllowed (char : Char) : Bool :=
  let code := char.toNat
  code = 9 || code = 10 || code = 13 || (0x20 ≤ code && code ≤ 0x7E) || code = 0x85 ||
    (0xA0 ≤ code && code ≤ 0xFFFD) || 0x10000 ≤ code

namespace Cursor

/-- The place before a text. -/
def start (text : Text) : Cursor := ⟨text, 0, 0, 0⟩

/-- The character at a place. -/
def peek (cursor : Cursor) : Option Char := cursor.rest.head?

/-- The character some places further on. -/
def peekAt (count : Nat) (cursor : Cursor) : Option Char := cursor.rest[count]?

/-- The place behind a character, with the text behind it. -/
def pass (char : Char) (rest : Text) (cursor : Cursor) : Cursor :=
  if endsLine char && !(char = '\r' && rest.head? = some '\n') then
    ⟨rest, cursor.index + 1, cursor.line + 1, 0⟩
  else
    ⟨rest, cursor.index + 1, cursor.line,
      if char.toNat = 0xFEFF then cursor.column else cursor.column + 1⟩

/-- The place behind the characters of a text that satisfy `accept`. -/
def skipFrom (accept : Char → Bool) : Text → Cursor → Cursor
  | [], cursor => cursor
  | char :: rest, cursor =>
    if accept char then skipFrom accept rest (cursor.pass char rest) else cursor

/-- The place behind the characters that satisfy `accept`. -/
def skip (accept : Char → Bool) (cursor : Cursor) : Cursor := skipFrom accept cursor.rest cursor

/-- The place some characters further on. -/
def drop : Nat → Cursor → Cursor
  | 0, cursor => cursor
  | count + 1, cursor => match cursor.rest with
    | [] => cursor
    | char :: rest => drop count (cursor.pass char rest)

/-- The characters that satisfy `accept`, and the place behind them. -/
def take (accept : Char → Bool) (cursor : Cursor) : Text × Cursor :=
  (cursor.rest.takeWhile accept, cursor.skip accept)

/-- The place behind spaces. -/
def skipSpaces (cursor : Cursor) : Cursor := cursor.skip (· = ' ')

/-- The place behind a line break, if there is one, and the character that it is read as. -/
def lineBreak? (cursor : Cursor) : Option (Char × Cursor) :=
  match cursor.rest with
  | '\r' :: '\n' :: _ => some ('\n', cursor.drop 2)
  | char :: _ =>
    if endsLine char then
      some (if char.toNat = 0x2028 || char.toNat = 0x2029 then char else '\n', cursor.drop 1)
    else none
  | [] => none

/-- The place behind a comment, if one starts there. -/
def skipComment (cursor : Cursor) : Cursor :=
  if cursor.peek = some '#' then cursor.skip (!endsLine ·) else cursor

/-- The place behind the rest of a line that holds nothing but spaces and a comment. -/
def endLine? (cursor : Cursor) : Option Cursor :=
  let cursor := cursor.skipSpaces.skipComment
  match cursor.lineBreak? with
  | some (_, behind) => some behind
  | none => if cursor.rest.isEmpty then some cursor else none

/-- Whether a mark for the start or the end of a document stands at a place. -/
def atMark (mark : Text) (cursor : Cursor) : Bool :=
  startsWith mark cursor.rest && isBlankOrEnd (cursor.peekAt 3)

/-- Whether a document starts or ends at a place that starts a line. -/
def atDocumentMark (cursor : Cursor) : Bool :=
  cursor.atMark ['-', '-', '-'] || cursor.atMark ['.', '.', '.']

end Cursor

end GuidedMigration.Yaml
