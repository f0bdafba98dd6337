/-
This file reads the scalars of a YAML text in their three forms: between quotes, as a block behind
an indicator, and plain. Line breaks inside a scalar are folded: one break is a space, several are
one less.
-/
import GuidedMigration.Yaml.Cursor

namespace GuidedMigration.Yaml

open Text

/-! ### Between quotes -/

/-- The characters that simple escapes stand for. -/
def escapes : List (Char × Nat) :=
  [('0', 0), ('a', 7), ('b', 8), ('t', 9), ('\t', 9), ('n', 10), ('v', 11), ('f', 12), ('r', 13),
    ('e', 27), (' ', 32), ('"', 34), ('\\', 92), ('/', 47), ('N', 0x85), ('_', 0xA0),
    ('L', 0x2028), ('P', 0x2029)]

/-- How many hexadecimal digits follow an escape by number. -/
def escapeSize? (char : Char) : Option Nat :=
  if char = 'x' then some 2 else if char = 'u' then some 4 else if char = 'U' then some 8 else none

/-- The line breaks at a place and the blanks around them; a document may not start or end there. -/
def quotedBreaks : Nat → Cursor → Except Fault (Text × Cursor)
  | 0, _ => .error .malformed
  | fuel + 1, cursor =>
    if cursor.atDocumentMark then .error .malformed
    else
      let cursor := cursor.skip isSpaceOrTab
      match cursor.lineBreak? with
      | some (char, behind) => do
        let (breaks, behind) ← quotedBreaks fuel behind
        .ok (char :: breaks, behind)
      | none => .ok ([], cursor)

/-- A line break and those behind it, folded. -/
def foldBreaks (first : Char) (more : Text) : Text :=
  if first != '\n' then first :: more else if more.isEmpty then [' '] else more

/-- The blanks and line breaks at a place between quotes. -/
def quotedSpaces (fuel : Nat) (cursor : Cursor) : Except Fault (Text × Cursor) :=
  let (blanks, behind) := cursor.take isSpaceOrTab
  match behind.lineBreak? with
  | some (first, behind) => do
    let (more, behind) ← quotedBreaks fuel behind
    .ok (foldBreaks first more, behind)
  | none => if behind.rest.isEmpty then .error .malformed else .ok (blanks, behind)

/-- What an escape stands for; the place is behind its backslash. Half of a surrogate pair is in no
text; its escape stands for the null character. -/
def escape (fuel : Nat) (cursor : Cursor) : Except Fault (Text × Cursor) :=
  match cursor.peek with
  | none => .error .malformed
  | some char => match escapes.lookup char with
    | some code => .ok ([Char.ofNat code], cursor.drop 1)
    | none => match escapeSize? char with
      | some size =>
        let digits := (cursor.drop 1).rest.take size
        let code := digits.foldl (fun number digit => number * 16 + hexValue digit) 0
        if digits.length < size || !digits.all isHexDigit then .error .malformed
        else if 0x7FFFFFFF < code then .error .tooLarge
        else if 0x10FFFF < code then .error .noCharacter
        else .ok ([Char.ofNat code], cursor.drop (size + 1))
      | none => match cursor.lineBreak? with
        | some (_, behind) => quotedBreaks fuel behind
        | none => .error .malformed

/-- The text up to the closing quote, and the place behind it. -/
def quotedText (quote : Char) : Nat → Cursor → Except Fault (Text × Cursor)
  | 0, _ => .error .malformed
  | fuel + 1, cursor => match cursor.peek with
    | none => .error .malformed
    | some char =>
      let step : Except Fault (Option Text × Cursor) :=
        if char = quote then
          if quote = '\'' && cursor.peekAt 1 = some '\'' then .ok (some ['\''], cursor.drop 2)
          else .ok (none, cursor.drop 1)
        else if quote = '"' && char = '\\' then do
          let (text, behind) ← escape fuel (cursor.drop 1)
          .ok (some text, behind)
        else if isSpaceOrTab char || endsLine char then do
          let (text, behind) ← quotedSpaces fuel cursor
          .ok (some text, behind)
        else .ok (some [char], cursor.drop 1)
      do
        match ← step with
        | (none, behind) => .ok ([], behind)
        | (some text, behind) =>
          let (rest, behind) ← quotedText quote fuel behind
          .ok (text ++ rest, behind)

/-! ### Blocks -/

/-- What the header of a block says: whether line breaks at its end are all kept or all dropped, and
its indentation. -/
structure BlockHeader where
  keeps : Option Bool
  indent : Option Nat

/-- The sign of a header that says what happens to line breaks at the end. -/
def chomping? (char : Option Char) : Option Bool :=
  if char = some '+' then some true else if char = some '-' then some false else none

/-- The digit of a header that tells the indentation. -/
def indentDigit? (char : Option Char) : Except Fault (Option Nat) :=
  match char with
  | some digit =>
    if isAsciiDigit digit then
      if digit = '0' then .error .malformed else .ok (some (digit.toNat - 48))
    else .ok none
  | none => .ok none

/-- The header of a block, behind its indicator. -/
def blockHeader (cursor : Cursor) : Except Fault (BlockHeader × Cursor) := do
  let first := chomping? cursor.peek
  let cursor := if first.isSome then cursor.drop 1 else cursor
  let digit ← indentDigit? cursor.peek
  let cursor := if digit.isSome then cursor.drop 1 else cursor
  let second := if first.isNone && digit.isSome then chomping? cursor.peek else none
  let cursor := if second.isSome then cursor.drop 1 else cursor
  if isSpaceOrEnd cursor.peek then
    match cursor.endLine? with
    | some behind => .ok (⟨first.or second, digit⟩, behind)
    | none => .error .malformed
  else .error .malformed

/-- The place behind at most as many spaces as reach a column. -/
def skipIndent (indent : Nat) (cursor : Cursor) : Cursor :=
  cursor.drop (min (indent - cursor.column) (cursor.rest.takeWhile (· = ' ')).length)

/-- The line breaks at a place, each with the indentation behind it skipped. -/
def blockBreaks (indent : Nat) : Nat → Cursor → Text × Cursor
  | 0, cursor => ([], cursor)
  | fuel + 1, cursor =>
    let cursor := skipIndent indent cursor
    match cursor.lineBreak? with
    | some (char, behind) =>
      let (breaks, behind) := blockBreaks indent fuel behind
      (char :: breaks, behind)
    | none => ([], cursor)

/-- The line breaks and spaces at a place, and the largest column that the spaces reach. -/
def blockLead : Nat → Nat → Cursor → Text × Nat × Cursor
  | 0, widest, cursor => ([], widest, cursor)
  | fuel + 1, widest, cursor =>
    let cursor := cursor.skipSpaces
    let widest := max widest cursor.column
    match cursor.lineBreak? with
    | some (char, behind) =>
      let (breaks, widest, behind) := blockLead fuel widest behind
      (char :: breaks, widest, behind)
    | none => ([], widest, cursor)

/-- Whether a space or tab stands at a place. -/
def atBlank (cursor : Cursor) : Bool := cursor.peek.any isSpaceOrTab

/-- The lines of a block from the one at a place on, and what they leave at the end: the last line
break and those behind it. -/
def blockLines (folded : Bool) (indent : Nat) : Nat → Cursor → Text × Text × Text × Cursor
  | 0, cursor => ([], [], [], cursor)
  | fuel + 1, cursor =>
    let startsBlank := atBlank cursor
    let (line, behind) := cursor.take (!endsLine ·)
    let (ending, behind) := match behind.lineBreak? with
      | some (char, behind) => ([char], behind)
      | none => ([], behind)
    let (breaks, behind) := blockBreaks indent fuel behind
    if behind.column = indent && !behind.rest.isEmpty then
      let joint := if folded && ending = ['\n'] && !startsBlank && !atBlank behind then
          if breaks.isEmpty then [' '] else []
        else ending
      let (rest, last, left, behind) := blockLines folded indent fuel behind
      (line ++ joint ++ breaks ++ rest, last, left, behind)
    else (line, ending, breaks, behind)

/-- A block behind its indicator; `parent` is the indentation around it. -/
def blockText (folded : Bool) (parent : Int) (cursor : Cursor) : Except Fault (Text × Cursor) := do
  let (header, cursor) ← blockHeader cursor
  let fuel := cursor.rest.length + 1
  let least := max 1 (parent + 1).toNat
  let (breaks, indent, cursor) := match header.indent with
    | some indent =>
      let indent := least + indent - 1
      let (breaks, behind) := blockBreaks indent fuel cursor
      (breaks, indent, behind)
    | none =>
      let (breaks, widest, behind) := blockLead fuel 0 cursor
      (breaks, max least widest, behind)
  let (body, ending, left, behind) :=
    if cursor.column = indent && !cursor.rest.isEmpty then
      let (lines, ending, left, behind) := blockLines folded indent fuel cursor
      (breaks ++ lines, ending, left, behind)
    else ([], [], breaks, cursor)
  .ok (body ++ (if header.keeps = some false then [] else ending) ++
    (if header.keeps = some true then left else []), behind)

/-! ### Plain -/

/-- Whether a plain scalar ends before a character, given the one behind it. -/
def endsPlain (inFlow : Bool) (char : Char) (next : Option Char) : Bool :=
  isSpaceOrTab char || endsLine char ||
    (char = ':' && (isBlankOrEnd next ||
      (inFlow && next.any [',', '[', ']', '\x7b', '\x7d'].contains))) ||
    (inFlow && [',', '?', '[', ']', '\x7b', '\x7d'].contains char)

/-- How many characters of a text a plain scalar takes before a blank. -/
def plainSize (inFlow : Bool) : Text → Nat
  | [] => 0
  | char :: rest => if endsPlain inFlow char rest.head? then 0 else plainSize inFlow rest + 1

/-- The line breaks and spaces behind a first line break in a plain scalar; nothing if a document
starts or ends there. -/
def plainBreaks? : Nat → Cursor → Option (Text × Cursor)
  | 0, cursor => some ([], cursor)
  | fuel + 1, cursor =>
    let cursor := cursor.skipSpaces
    match cursor.lineBreak? with
    | some (char, behind) =>
      if behind.atDocumentMark then none
      else (plainBreaks? fuel behind).map fun (breaks, last) => (char :: breaks, last)
    | none => some ([], cursor)

/-- The blanks behind a part of a plain scalar, as the scalar holds them, the place behind them, and
whether a line ended there. The scalar ends if there are none. -/
def plainSpaces (fuel : Nat) (cursor : Cursor) : Text × Cursor × Bool :=
  let (spaces, behind) := cursor.take (· = ' ')
  match behind.lineBreak? with
  | some (first, next) =>
    if next.atDocumentMark then ([], next, true)
    else match plainBreaks? fuel next with
      | some (more, last) => (foldBreaks first more, last, true)
      | none => ([], lastMark fuel next, true)
  | none => (spaces, behind, false)
where
  /-- The place of the document mark that ends a plain scalar. -/
  lastMark : Nat → Cursor → Cursor
    | 0, cursor => cursor
    | fuel + 1, cursor =>
      let cursor := cursor.skipSpaces
      match cursor.lineBreak? with
      | some (_, behind) => if behind.atDocumentMark then behind else lastMark fuel behind
      | none => cursor

/-- The text of a plain scalar from a place on, the place behind it, and whether a line ended behind
its last part. -/
def plainText (inFlow : Bool) (indent : Int) : Nat → Cursor → Text × Cursor × Bool
  | 0, cursor => ([], cursor, false)
  | fuel + 1, cursor =>
    let size := plainSize inFlow cursor.rest
    let (spaces, behind, hasEnded) := plainSpaces fuel (cursor.drop size)
    let part := cursor.rest.take size
    let next := plainSize inFlow behind.rest
    if spaces.isEmpty || behind.peek = some '#' || (!inFlow && behind.column < indent) ||
        next = 0 then (part, behind, hasEnded)
    else
      let (rest, last, hasEnded) := plainText inFlow indent fuel behind
      (part ++ spaces ++ rest, last, hasEnded)



end GuidedMigration.Yaml
