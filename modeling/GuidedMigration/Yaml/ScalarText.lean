/-
This file writes a scalar into a YAML document. A text is written plainly when it then reads back as
that text, otherwise between single quotes, and between double quotes when it holds characters that
need an escape. Lines longer than eighty columns are folded at single spaces.

Positions are counted in columns: `column` is where the scalar starts, `indent` where its further
lines start.
-/
import GuidedMigration.Yaml.Plain

namespace GuidedMigration.Yaml

open Text

/-- The width beyond which lines are folded. -/
def bestWidth : Nat := 80

/-- The line breaks of YAML. -/
def isBreak (char : Char) : Bool :=
  char = '\n' || char.toNat = 0x85 || char.toNat = 0x2028 || char.toNat = 0x2029

/-- Characters beyond ASCII that may stand in a document as they are. -/
def isPlainUnicode (char : Char) : Bool :=
  let code := char.toNat
  code = 0x85 || (0xA0 ≤ code && code ≤ 0xD7FF) ||
    (0xE000 ≤ code && code ≤ 0xFFFD && code != 0xFEFF) || (0x10000 ≤ code && code < 0x10FFFF)

/-- Characters that need an escape. -/
def isSpecial (char : Char) : Bool :=
  !(char = '\n' || (' ' ≤ char && char ≤ '~') || isPlainUnicode char)

/-- A line break and the spaces that start the next line. -/
def lineStart (indent : Nat) : Text := '\n' :: List.replicate indent ' '

/-! ### Plain -/

/-- The characters that no plain scalar starts with. -/
def leadingIndicators : List Char :=
  ['#', ',', '[', ']', '\x7b', '\x7d', '&', '*', '!', '|', '>', '\'', '"', '%', '@', '\x60']

/-- Whether the first characters of a text are fit for a plain scalar. -/
def startsPlain : Text → Bool
  | [] => false
  | '-' :: '-' :: '-' :: _ => false
  | '.' :: '.' :: '.' :: _ => false
  | char :: rest => !leadingIndicators.contains char &&
      !((char = '?' || char = ':' || char = '-') && (rest.head?).all (· = ' '))

/-- Whether no colon before a space or at the end, and no hash behind a space, is in a text. -/
def keepsPlain : Text → Bool
  | [] => true
  | [char] => char != ':'
  | char :: next :: rest =>
    !(char = ':' && next = ' ') && !(char = ' ' && next = '#') && keepsPlain (next :: rest)

/-- Whether a text may be written without quotes. -/
def fitsPlain (text : Text) : Bool :=
  startsPlain text && keepsPlain text && text.head? != some ' ' && text.getLast? != some ' ' &&
    text.all fun char => !isBreak char && !isSpecial char

/-- A plain scalar, folded at single spaces. -/
def foldPlain (fold : Bool) (indent : Nat) : Nat → Char → Text → Text
  | _, _, [] => []
  | column, before, char :: rest =>
    if fold && char = ' ' && before != ' ' && rest.head? != some ' ' && bestWidth < column then
      lineStart indent ++ foldPlain fold indent indent ' ' rest
    else char :: foldPlain fold indent (column + 1) char rest

/-! ### Single quotes -/

/-- Whether a text has no space beside a line break and no character that needs an escape. -/
def fitsSingle : Text → Bool
  | [] => true
  | [char] => !isSpecial char
  | char :: next :: rest => !isSpecial char && !(char = ' ' && isBreak next) &&
      !(isBreak char && next = ' ') && fitsSingle (next :: rest)

/-- A text between single quotes: the quote is written twice, a run of line breaks opens with one
more newline, and the text goes on behind the indent. `before` is the character before the text. -/
def foldSingle (fold : Bool) (indent : Nat) : Nat → Option Char → Text → Text
  | _, _, [] => []
  | column, before, char :: rest =>
    if char = '\'' then '\'' :: '\'' :: foldSingle fold indent (column + 2) (some char) rest
    else if isBreak char then
      let opening : Text := if char = '\n' && !before.any isBreak then ['\n'] else []
      let closing : Text :=
        if (rest.head?).any isBreak then [] else List.replicate indent ' '
      opening ++ [char] ++ closing ++ foldSingle fold indent indent (some char) rest
    else if fold && char = ' ' && before.any (· != ' ') && (rest.head?).any (· != ' ') &&
        bestWidth < column then
      lineStart indent ++ foldSingle fold indent indent (some char) rest
    else char :: foldSingle fold indent (column + 1) (some char) rest

/-! ### Double quotes -/

/-- The escape of a character between double quotes, if it needs one. -/
def escape? (char : Char) : Option Text :=
  let code := char.toNat
  if char = '"' || char = '\\' then some ['\\', char]
  else if (' ' ≤ char && char ≤ '~') ||
      (0xA0 ≤ code && code ≤ 0xD7FF && code != 0x2028 && code != 0x2029) ||
      (0xE000 ≤ code && code ≤ 0xFFFD && code != 0xFEFF) then none
  else
    let short : List (Nat × Char) := [(0, '0'), (7, 'a'), (8, 'b'), (9, 't'), (10, 'n'), (11, 'v'),
      (12, 'f'), (13, 'r'), (27, 'e'), (0x85, 'N'), (0x2028, 'L'), (0x2029, 'P')]
    let capital (width : Nat) : Text :=
      padLeft width '0' ((Nat.toDigits 16 code).map asciiUpper)
    match short.lookup code with
    | some letter => some ['\\', letter]
    | none =>
      if code ≤ 0xFF then some ('\\' :: 'x' :: capital 2)
      else if code ≤ 0xFFFF then some ('\\' :: 'u' :: capital 4)
      else some ('\\' :: 'U' :: capital 8)

/-- A text between double quotes. A long line is broken behind a backslash, before a space or next
to an escape, never at the first or the last character; a space that starts a line has a backslash
before it. `inside` says that there is a character before the text, `escaped` that it was an
escape. -/
def foldDouble (fold : Bool) (indent : Nat) : Nat → Bool → Bool → Text → Text
  | _, _, _, [] => []
  | column, inside, escaped, char :: rest =>
    let mayBreak := fold && inside && !rest.isEmpty
    let broken : Text := '\\' :: lineStart indent
    match escape? char with
    | some written =>
      let after := column + written.length
      if mayBreak && bestWidth < after - 1 then
        let guard : Text := if rest.head? = some ' ' then ['\\'] else []
        written ++ broken ++ guard ++
          foldDouble fold indent (indent + guard.length) true true rest
      else written ++ foldDouble fold indent after true true rest
    | none =>
      if mayBreak && (char = ' ' || escaped) && bestWidth < column then
        let guard : Text := if char = ' ' then ['\\'] else []
        broken ++ guard ++ char ::
          foldDouble fold indent (indent + guard.length + 1) true false rest
      else char :: foldDouble fold indent (column + 1) true false rest

/-! ### Scalars -/

/-- A text as it stands in a document. -/
def writeText (fold : Bool) (indent column : Nat) (text : Text) : Text :=
  if Plain.kind text = .text && fitsPlain text then foldPlain fold indent column ' ' text
  else if fitsSingle text then '\'' :: foldSingle fold indent (column + 1) none text ++ ['\'']
  else '"' :: foldDouble fold indent (column + 1) false false text ++ ['"']

/-- A double as it stands in a document: with a point before an exponent. -/
def writeDouble (number : Double) : Text :=
  if number.isNotNumber then ['.', 'n', 'a', 'n']
  else if number.isInfinite then (if number.negative then ['-'] else []) ++ ['.', 'i', 'n', 'f']
  else
    let written := number.toText
    if written.contains '.' then written
    else written.flatMap fun char => if char = 'e' then ['.', '0', 'e'] else [char]

/-- A scalar other than a text or bytes as it stands in a document. -/
def writeAtom : Scalar → Text
  | .null => ['n', 'u', 'l', 'l']
  | .bool true => ['t', 'r', 'u', 'e']
  | .bool false => ['f', 'a', 'l', 's', 'e']
  | .int number => ofInt number
  | .double number => writeDouble number
  | .text word => word
  | .date day => day
  | .moment time => time.map fun char => if char = 'T' then ' ' else char
  | .bytes _ => []

/-- How many characters the type of a scalar adds to a key when its length is judged. -/
def tagLength : Scalar → Nat
  | .null => 6
  | .bool _ => 6
  | .int _ => 5
  | .double _ => 7
  | .text _ => 5
  | .date _ => 11
  | .moment _ => 11
  | .bytes _ => 8

end GuidedMigration.Yaml
