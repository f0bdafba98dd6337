/-
This file reads the two escapes of Markdown: a backslash before a punctuation mark of ASCII, and a
character written by its name or number between an ampersand and a semicolon. Numbers that stand for
no character, or for one that is of no use in a text, are refused.
-/
import GuidedMigration.Markdown.EntityTable
import GuidedMigration.Text.Case

namespace GuidedMigration.Markdown

open Text

/-- The number that hexadecimal digits write. -/
def hexNumber (digits : Text) : Nat :=
  digits.foldl (fun number char => number * 16 + hexValue char) 0

/-- The entry of a row at its start, and what is left of the row. -/
def entityEntry (row : Text) : Text × Text × Text :=
  let entry := row.takeWhile (· != ' ')
  let name := entry.takeWhile (· != '=')
  (name, entry.drop (name.length + 1), row.drop (entry.length + 1))

/-- The codes of a name among the entries of a row. -/
def entityInRow? (name : Text) : Nat → Text → Option Text
  | 0, _ => none
  | fuel + 1, row =>
    if row.isEmpty then none
    else
      let (other, codes, rest) := entityEntry row
      if other = name then some codes else entityInRow? name fuel rest

/-- The characters that a name stands for. -/
def entity? (name : Text) : Option Text :=
  (entityRows.findSome? fun row => entityInRow? name row.length row.toList).map fun codes =>
    (splitOn ',' codes).map fun code => Char.ofNat (hexNumber code)

/-- Whether a number may be written as a character. -/
def isCharacterNumber (number : Nat) : Bool :=
  !((0xD800 ≤ number && number ≤ 0xDFFF) || (0xFDD0 ≤ number && number ≤ 0xFDEF) ||
    number % 0x10000 = 0xFFFF || number % 0x10000 = 0xFFFE || number ≤ 8 || number = 0xB ||
    (0xE ≤ number && number ≤ 0x1F) || (0x7F ≤ number && number ≤ 0x9F) || 0x10FFFF < number)

/-- The number behind a number sign: hexadecimal behind an x, with at most `hexSize` digits, or
decimal with at most `size`; and the text behind it. -/
def referenceNumber? (hexSize size : Nat) (text : Text) : Option (Nat × Text) :=
  match text with
  | mark :: rest =>
    if mark = 'x' || mark = 'X' then
      let digits := rest.takeWhile isHexDigit
      if digits.isEmpty || hexSize < digits.length then none
      else some (hexNumber digits, rest.drop digits.length)
    else
      let digits := text.takeWhile isAsciiDigit
      if digits.isEmpty || size < digits.length then none
      else some (numberOf digits, text.drop digits.length)
  | [] => none

/-- The characters of a name at the start of a text: a letter and up to 31 letters and digits. -/
def referenceName? (text : Text) : Option (Text × Text) :=
  let name := text.takeWhile isAsciiAlnum
  if name.head?.any isAsciiLetter && 2 ≤ name.length && name.length ≤ 32 then
    some (name, text.drop name.length)
  else none

/-- The character reference at the start of a text that follows an ampersand: what it stands for
and the text behind it. A number that may not be written stands for the replacement character. -/
def reference? (text : Text) : Option (Text × Text) :=
  match text with
  | '#' :: rest => match referenceNumber? 6 7 rest with
    | some (number, ';' :: rest) =>
      some ([Char.ofNat (if isCharacterNumber number then number else 0xFFFD)], rest)
    | _ => none
  | _ => match referenceName? text with
    | some (name, ';' :: rest) => (entity? name).map (·, rest)
    | _ => none

/-- Recognises an escape inside a link's address or title. There, a number that may not be written
is left as it is. -/
def escapeToken : Recogniser Text := fun _ text => match text with
  | '\\' :: char :: _ => if isAsciiSymbol char then some ([char], 2) else none
  | '&' :: '#' :: rest => match referenceNumber? 8 8 rest with
    | some (number, ';' :: behind) =>
      if isCharacterNumber number then some ([Char.ofNat number], text.length - behind.length)
      else none
    | _ => none
  | '&' :: rest => match referenceName? rest with
    | some (name, ';' :: behind) => (entity? name).map (·, text.length - behind.length)
    | _ => none
  | _ => none

/-- A text with its escapes resolved. -/
def unescape (text : Text) : Text := replaceFound escapeToken id text

end GuidedMigration.Markdown
