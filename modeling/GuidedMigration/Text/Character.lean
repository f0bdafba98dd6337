/-
This file says which characters are blank, make up words, are digits, can be printed, or are
punctuation marks and symbols. Each class follows Unicode 14: its part in ASCII is written out, the
rest is looked up in a table of ranges, so that a statement about ASCII characters never meets a
table.

It also writes a text between quotes so that it can be read at a glance: a backslash goes before the
quote and before a backslash, and characters that cannot be shown are written by their code.
-/
import GuidedMigration.Text.Basic
import GuidedMigration.Text.WordTable
import GuidedMigration.Text.PrintableTable
import GuidedMigration.Text.SymbolTable

namespace GuidedMigration.Text

/-- Whether a code point lies in one of the ranges. -/
def inRanges (ranges : List (Nat × Nat)) (code : Nat) : Bool :=
  ranges.any fun (first, last) => first ≤ code && code ≤ last

/-! ### ASCII -/

/-- The digits `0` to `9`. -/
def isAsciiDigit (char : Char) : Bool := '0' ≤ char && char ≤ '9'

/-- The letters `A` to `Z`. -/
def isAsciiUpper (char : Char) : Bool := 'A' ≤ char && char ≤ 'Z'

/-- The letters `a` to `z`. -/
def isAsciiLower (char : Char) : Bool := 'a' ≤ char && char ≤ 'z'

/-- The letters of ASCII. -/
def isAsciiLetter (char : Char) : Bool := isAsciiUpper char || isAsciiLower char

/-- The letters and digits of ASCII. -/
def isAsciiAlnum (char : Char) : Bool := isAsciiLetter char || isAsciiDigit char

/-- The hexadecimal digits in either case. -/
def isHexDigit (char : Char) : Bool :=
  isAsciiDigit char || ('a' ≤ char && char ≤ 'f') || ('A' ≤ char && char ≤ 'F')

/-- The value of a hexadecimal digit. -/
def hexValue (char : Char) : Nat :=
  if isAsciiDigit char then char.toNat - 48
  else if 'a' ≤ char then char.toNat - 87
  else char.toNat - 55

/-- The small form of an ASCII capital; any other character is itself. -/
def asciiLower (char : Char) : Char :=
  if isAsciiUpper char then Char.ofNat (char.toNat + 32) else char

/-- The capital form of a small ASCII letter; any other character is itself. -/
def asciiUpper (char : Char) : Char :=
  if isAsciiLower char then Char.ofNat (char.toNat - 32) else char

/-- A space or a tab. -/
def isSpaceOrTab (char : Char) : Bool := char = ' ' || char = '\t'

/-! ### Unicode -/

/-- The characters that separate words: the whitespace of Unicode and the four ASCII separators. -/
def isBlank (char : Char) : Bool :=
  let code := char.toNat
  if code < 128 then (9 ≤ code && code ≤ 13) || (28 ≤ code && code ≤ 32)
  else code = 0x85 || code = 0xA0 || code = 0x1680 || (0x2000 ≤ code && code ≤ 0x200A) ||
    code = 0x2028 || code = 0x2029 || code = 0x202F || code = 0x205F || code = 0x3000

/-- The characters that end a line. -/
def isLineBreak (char : Char) : Bool :=
  let code := char.toNat
  (10 ≤ code && code ≤ 13) || (28 ≤ code && code ≤ 30) ||
    code = 0x85 || code = 0x2028 || code = 0x2029

/-- The characters of words: letters, numerals and the underscore. -/
def isWord (char : Char) : Bool :=
  if char.toNat < 128 then isAsciiAlnum char || char = '_'
  else inRanges wordRanges char.toNat

/-- The value of a decimal digit of any script. -/
def digitValue? (char : Char) : Option Nat :=
  if char.toNat < 128 then
    if isAsciiDigit char then some (char.toNat - 48) else none
  else (decimalZeros.find? fun start => start ≤ char.toNat && char.toNat ≤ start + 9).map
    (char.toNat - ·)

/-- The decimal digits of any script. -/
def isDigit (char : Char) : Bool := (digitValue? char).isSome

/-- The characters that can be shown as they are. -/
def isPrintable (char : Char) : Bool :=
  if char.toNat < 128 then ' ' ≤ char && char ≤ '~'
  else inRanges printableRanges char.toNat

/-- The punctuation marks of ASCII, its symbols included. -/
def isAsciiSymbol (char : Char) : Bool :=
  '!' ≤ char && char ≤ '~' && !isAsciiAlnum char

/-- Punctuation marks and symbols. -/
def isSymbol (char : Char) : Bool :=
  if char.toNat < 128 then isAsciiSymbol char
  else inRanges symbolRanges char.toNat

/-- Whether the position between two characters is the edge of a word: a word character stands on
exactly one side of it. -/
def isWordEdge (before after : Option Char) : Bool := before.any isWord != after.any isWord

/-- The number that decimal digits of any script write. -/
def numberOf (digits : Text) : Nat :=
  digits.foldl (fun number char => number * 10 + (digitValue? char).getD 0) 0

/-! ### Blanks at the ends of a text -/

/-- A text without the blanks at its start. -/
def trimLeft (text : Text) : Text := trimLeftWhile isBlank text

/-- A text without the blanks at its end. -/
def trimRight (text : Text) : Text := trimRightWhile isBlank text

/-- A text without the blanks at either end. -/
def trim (text : Text) : Text := trimWhile isBlank text

/-- Whether a text has no character but blanks. -/
def isBlankText (text : Text) : Bool := text.all isBlank

/-- The blanks at the start of a text. -/
def indentOf (text : Text) : Text := text.takeWhile isBlank

/-- The words of a text: its parts between runs of blanks. -/
def words (text : Text) : List Text :=
  let step : Char → Text × List Text → Text × List Text := fun char (word, done) =>
    if isBlank char then ([], if word.isEmpty then done else word :: done)
    else (char :: word, done)
  let (word, done) := text.foldr step ([], [])
  if word.isEmpty then done else word :: done

/-! ### Texts between quotes -/

/-- The hexadecimal digits of a number in small letters, filled up with zeros to `width`. -/
def hex (width number : Nat) : Text := padLeft width '0' (Nat.toDigits 16 number)

/-- A character between quotes `quote`. -/
def quotedChar (quote char : Char) : Text :=
  if char = quote || char = '\\' then ['\\', char]
  else if char = '\n' then ['\\', 'n']
  else if char = '\r' then ['\\', 'r']
  else if char = '\t' then ['\\', 't']
  else if isPrintable char then [char]
  else if char.toNat < 0x100 then ['\\', 'x'] ++ hex 2 char.toNat
  else if char.toNat < 0x10000 then ['\\', 'u'] ++ hex 4 char.toNat
  else ['\\', 'U'] ++ hex 8 char.toNat

/-- A text between quotes: single ones, unless it holds a single quote and no double quote. -/
def quoted (text : Text) : Text :=
  let quote := if text.contains '\'' && !text.contains '"' then '"' else '\''
  quote :: text.flatMap (quotedChar quote) ++ [quote]

end GuidedMigration.Text
