/-
This file cuts a YAML text into tokens. Indentation opens and closes block collections, so that
tokens for their starts and ends come from the columns at which other tokens stand; a key is only
known by the colon behind it, so that the places at which one may have started are remembered, one
for every level of brackets, until they are used or lost.
-/
import GuidedMigration.Text.Utf8
import GuidedMigration.Yaml.ScalarToken

namespace GuidedMigration.Yaml

open Text

/-- A token. -/
inductive Token where
  | version (major : Text)
  | tagHandle (handle start : Text)
  | directive
  | documentStart
  | documentEnd
  | blockSequence
  | blockMapping
  | blockEnd
  | flowSequence
  | flowSequenceEnd
  | flowMapping
  | flowMappingEnd
  | blockEntry
  | flowEntry
  | key
  | value
  | alias (name : Text)
  | anchor (name : Text)
  | tag (handle : Option Text) (suffix : Text)
  | scalar (text : Text) (isPlain : Bool)
  deriving DecidableEq

/-! ### Directives, anchors and tags -/

/-- A name that is followed by a character which `follows` accepts. -/
def nameToken (follows : Option Char → Bool) (cursor : Cursor) : Except Fault (Text × Cursor) :=
  let (name, behind) := cursor.take isNameChar
  if name.isEmpty || !follows behind.peek then .error .malformed else .ok (name, behind)

/-- Whether a character may follow an anchor or an alias. -/
def followsAnchor (char : Option Char) : Bool :=
  isBlankOrEnd char || char.any ['?', ':', ',', ']', '\x7d', '%', '@', '\x60'].contains

/-- A handle of a tag: an exclamation mark, or a name between two. -/
def handleToken (cursor : Cursor) : Except Fault (Text × Cursor) :=
  if cursor.peek != some '!' then .error .malformed
  else if cursor.peekAt 1 = some ' ' then .ok (['!'], cursor.drop 1)
  else
    let (name, behind) := (cursor.drop 1).take isNameChar
    if behind.peek = some '!' then .ok ('!' :: name ++ ['!'], behind.drop 1)
    else .error .malformed

/-- The characters of the address of a tag. -/
def isTagChar (char : Char) : Bool :=
  isAsciiAlnum char || "-;/?:@&=+$,_.!~*'()[]%".toList.contains char

/-- The bytes of the escapes at the start of a text, and how many characters they take; nothing if
one is incomplete. -/
def tagEscapes? : Text → Option (List UInt8 × Nat)
  | '%' :: first :: second :: rest =>
    if isHexDigit first && isHexDigit second then
      (tagEscapes? rest).map fun (bytes, size) =>
        (UInt8.ofNat (hexValue first * 16 + hexValue second) :: bytes, size + 3)
    else none
  | '%' :: _ => none
  | _ => some ([], 0)

/-- The address of a tag, its escapes resolved. -/
def tagAddress : Nat → Cursor → Except Fault (Text × Cursor)
  | 0, cursor => .ok ([], cursor)
  | fuel + 1, cursor =>
    let (plain, behind) := cursor.take fun char => isTagChar char && char != '%'
    if behind.peek != some '%' then .ok (plain, behind)
    else match tagEscapes? behind.rest with
      | none => .error .malformed
      | some (bytes, size) => match Utf8.decode bytes with
        | .error _ => .error .malformed
        | .ok text => do
          let (rest, last) ← tagAddress fuel (behind.drop size)
          .ok (plain ++ text ++ rest, last)

/-- The address of a tag, which must not be empty. -/
def fullAddress (cursor : Cursor) : Except Fault (Text × Cursor) := do
  let (address, behind) ← tagAddress (cursor.rest.length + 1) cursor
  if behind.index = cursor.index then .error .malformed else .ok (address, behind)

/-- A tag, from its exclamation mark on. -/
def tagToken (cursor : Cursor) : Except Fault (Token × Cursor) := do
  let (token, behind) ← match cursor.peekAt 1 with
    | some '<' => do
      let (address, behind) ← fullAddress (cursor.drop 2)
      if behind.peek = some '>' then .ok (Token.tag none address, behind.drop 1)
      else .error .malformed
    | next =>
      if isBlankOrEnd next then .ok (Token.tag none ['!'], cursor.drop 1)
      else do
        let ahead := (cursor.drop 1).rest.takeWhile fun char => !isSpaceOrEnd (some char)
        let (handle, behind) ←
          if ahead.contains '!' then handleToken cursor else .ok (['!'], cursor.drop 1)
        let (suffix, behind) ← fullAddress behind
        .ok (Token.tag (some handle) suffix, behind)
  if isSpaceOrEnd behind.peek then .ok (token, behind) else .error .malformed

/-- The digits of a number, of which there is at least one. -/
def digitsToken (cursor : Cursor) : Except Fault (Text × Cursor) :=
  let (digits, behind) := cursor.take isAsciiDigit
  if digits.isEmpty then .error .malformed else .ok (digits, behind)

/-- A directive, from its percent sign on, to the end of its line. -/
def directiveToken (cursor : Cursor) : Except Fault (Token × Cursor) := do
  let (name, behind) ← nameToken isSpaceOrEnd (cursor.drop 1)
  let (token, behind) ←
    if name = "YAML".toList then do
      let (major, behind) ← digitsToken behind.skipSpaces
      if behind.peek != some '.' then .error .malformed
      else do
        let (_, behind) ← digitsToken (behind.drop 1)
        if isSpaceOrEnd behind.peek then .ok (Token.version major, behind) else .error .malformed
    else if name = "TAG".toList then do
      let (handle, behind) ← handleToken behind.skipSpaces
      if behind.peek != some ' ' then .error .malformed
      else do
        let (start, behind) ← fullAddress behind.skipSpaces
        if isSpaceOrEnd behind.peek then .ok (Token.tagHandle handle start, behind)
        else .error .malformed
    else .ok (Token.directive, behind.skip (!endsLine ·))
  match behind.endLine? with
  | some behind => .ok (token, behind)
  | none => .error .malformed

/-! ### The scanner -/

/-- A place at which a key may have started: how many tokens stand before it, where it is in the
text, and whether there must be a key. -/
structure KeyPlace where
  token : Nat
  index : Nat
  line : Nat
  column : Nat
  isRequired : Bool

/-- The state of cutting: the place, the number of open brackets, the indentation of the open block
collections from the inside out, whether a key may start here, the places of possible keys by the
number of brackets around them, and the tokens so far, last first. -/
structure Scanner where
  cursor : Cursor
  flow : Nat
  indents : List Nat
  keyAllowed : Bool
  keys : List (Nat × KeyPlace)
  tokens : List Token

namespace Scanner

/-- The indentation of the innermost open block collection. -/
def indent (scanner : Scanner) : Int :=
  match scanner.indents with
  | [] => -1
  | column :: _ => column

/-- The scanner with one more token, and the place behind it. -/
def push (token : Token) (cursor : Cursor) (scanner : Scanner) : Scanner :=
  { scanner with tokens := token :: scanner.tokens, cursor := cursor }

/-- The scanner with all block collections closed that are indented deeper than a column. -/
def closeBlocks (column : Int) (scanner : Scanner) : Scanner :=
  if scanner.flow = 0 then
    let closed := scanner.indents.takeWhile fun (indent : Nat) => column < (indent : Int)
    { scanner with
      indents := scanner.indents.drop closed.length
      tokens := List.replicate closed.length .blockEnd ++ scanner.tokens }
  else scanner

/-- The place of a possible key at the current level of brackets. -/
def keyHere? (scanner : Scanner) : Option KeyPlace := scanner.keys.lookup scanner.flow

/-- The scanner without the possible key at the current level, which must not be required. -/
def dropKey (scanner : Scanner) : Except Fault Scanner :=
  match scanner.keyHere? with
  | some place =>
    if place.isRequired then .error .malformed
    else .ok { scanner with keys := scanner.keys.filter (·.1 != scanner.flow) }
  | none => .ok scanner

/-- Whether a possible key is lost: it goes on over a line or is too long. -/
def isLost (scanner : Scanner) (place : KeyPlace) : Bool :=
  place.line != scanner.cursor.line || 1024 < scanner.cursor.index - place.index

/-- The scanner without the keys that are lost, none of which may be required. -/
def dropLostKeys (scanner : Scanner) : Except Fault Scanner :=
  if scanner.keys.any fun (_, place) => scanner.isLost place && place.isRequired then
    .error .malformed
  else .ok { scanner with keys := scanner.keys.filter fun (_, place) => !scanner.isLost place }

/-- The scanner with its place as one where a key may start. -/
def saveKey (scanner : Scanner) : Except Fault Scanner :=
  if scanner.keyAllowed then do
    let scanner ← scanner.dropKey
    let cursor := scanner.cursor
    let place : KeyPlace := ⟨scanner.tokens.length, cursor.index, cursor.line, cursor.column,
      scanner.flow = 0 && scanner.indent = cursor.column⟩
    .ok { scanner with keys := (scanner.flow, place) :: scanner.keys }
  else .ok scanner

/-- Whether a column opens a block collection. -/
def opensBlock (column : Nat) (scanner : Scanner) : Bool :=
  scanner.flow = 0 && scanner.indent < column

/-- The scanner with a block collection opened at its place, if that is indented deeper. -/
def openBlock (token : Token) (scanner : Scanner) : Scanner :=
  if scanner.opensBlock scanner.cursor.column then
    { scanner with
      indents := scanner.cursor.column :: scanner.indents
      tokens := token :: scanner.tokens }
  else scanner

/-- The tokens, last first, with others put in behind the first `count` tokens. -/
def insertAfter (count : Nat) (inserted tokens : List Token) : List Token :=
  tokens.take (tokens.length - count) ++ inserted ++ tokens.drop (tokens.length - count)

/-- The scanner behind blanks, comments and line breaks; behind a line break outside of brackets a
key may start. -/
def skipBlanks : Nat → Scanner → Scanner
  | 0, scanner => scanner
  | fuel + 1, scanner =>
    let cursor := scanner.cursor.skipSpaces.skipComment
    match cursor.lineBreak? with
    | some (_, behind) => skipBlanks fuel { scanner with
        cursor := behind
        keyAllowed := scanner.keyAllowed || scanner.flow = 0 }
    | none => { scanner with cursor := cursor }

/-! ### Tokens -/

/-- A directive. -/
def takeDirective (scanner : Scanner) : Except Fault Scanner := do
  let scanner ← (scanner.closeBlocks (-1)).dropKey
  let (token, behind) ← directiveToken scanner.cursor
  .ok ({ scanner with keyAllowed := false }.push token behind)

/-- The start or the end of a document. -/
def takeDocumentMark (token : Token) (scanner : Scanner) : Except Fault Scanner := do
  let scanner ← (scanner.closeBlocks (-1)).dropKey
  .ok ({ scanner with keyAllowed := false }.push token (scanner.cursor.drop 3))

/-- An opening bracket. -/
def takeOpening (token : Token) (scanner : Scanner) : Except Fault Scanner := do
  let scanner ← scanner.saveKey
  .ok ({ scanner with flow := scanner.flow + 1, keyAllowed := true }.push token
    (scanner.cursor.drop 1))

/-- A closing bracket. -/
def takeClosing (token : Token) (scanner : Scanner) : Except Fault Scanner := do
  let scanner ← scanner.dropKey
  .ok ({ scanner with flow := scanner.flow - 1, keyAllowed := false }.push token
    (scanner.cursor.drop 1))

/-- A comma. -/
def takeComma (scanner : Scanner) : Except Fault Scanner := do
  let scanner ← scanner.dropKey
  .ok ({ scanner with keyAllowed := true }.push .flowEntry (scanner.cursor.drop 1))

/-- A dash. -/
def takeDash (scanner : Scanner) : Except Fault Scanner := do
  if scanner.flow = 0 && !scanner.keyAllowed then .error .malformed
  else do
    let scanner ← (scanner.openBlock .blockSequence).dropKey
    .ok ({ scanner with keyAllowed := true }.push .blockEntry (scanner.cursor.drop 1))

/-- A question mark. -/
def takeQuestion (scanner : Scanner) : Except Fault Scanner := do
  if scanner.flow = 0 && !scanner.keyAllowed then .error .malformed
  else do
    let scanner ← (scanner.openBlock .blockMapping).dropKey
    .ok ({ scanner with keyAllowed := scanner.flow = 0 }.push .key (scanner.cursor.drop 1))

/-- A colon. What stands before it is a key if one may have started there. -/
def takeColon (scanner : Scanner) : Except Fault Scanner :=
  match scanner.keyHere? with
  | some place =>
    let opens := scanner.opensBlock place.column
    .ok ({ scanner with
      keys := scanner.keys.filter (·.1 != scanner.flow)
      indents := if opens then place.column :: scanner.indents else scanner.indents
      keyAllowed := false
      tokens := insertAfter place.token (if opens then [.key, .blockMapping] else [.key])
        scanner.tokens }.push .value (scanner.cursor.drop 1))
  | none =>
    if scanner.flow = 0 && !scanner.keyAllowed then .error .malformed
    else do
      let scanner ← (scanner.openBlock .blockMapping).dropKey
      .ok ({ scanner with keyAllowed := scanner.flow = 0 }.push .value (scanner.cursor.drop 1))

/-- A token that may start a key and behind which none may start. -/
def takeNode (read : Cursor → Except Fault (Token × Cursor)) (scanner : Scanner) :
    Except Fault Scanner := do
  let scanner ← scanner.saveKey
  let (token, behind) ← read scanner.cursor
  .ok ({ scanner with keyAllowed := false }.push token behind)

/-- An anchor or an alias. -/
def nameOf (make : Text → Token) (cursor : Cursor) : Except Fault (Token × Cursor) := do
  let (name, behind) ← nameToken followsAnchor (cursor.drop 1)
  .ok (make name, behind)

/-- A scalar between quotes. -/
def quotedOf (quote : Char) (cursor : Cursor) : Except Fault (Token × Cursor) := do
  let (text, behind) ← quotedText quote (cursor.rest.length + 1) (cursor.drop 1)
  .ok (.scalar text false, behind)

/-- A block. -/
def takeBlock (folded : Bool) (scanner : Scanner) : Except Fault Scanner := do
  let scanner ← scanner.dropKey
  let (text, behind) ← blockText folded scanner.indent (scanner.cursor.drop 1)
  .ok ({ scanner with keyAllowed := true }.push (.scalar text false) behind)

/-- A plain scalar. -/
def takePlain (scanner : Scanner) : Except Fault Scanner := do
  let scanner ← scanner.saveKey
  let (text, behind, hasEnded) := plainText (scanner.flow != 0) (scanner.indent + 1)
    (scanner.cursor.rest.length + 1) scanner.cursor
  .ok ({ scanner with keyAllowed := hasEnded }.push (.scalar text true) behind)

/-- The characters that no plain scalar starts with, whatever follows. -/
def indicators : List Char :=
  ['-', '?', ':', ',', '[', ']', '\x7b', '\x7d', '#', '&', '*', '!', '|', '>', '\'', '"', '%', '@',
    '\x60']

/-- Whether a plain scalar starts with a character, given the one behind it. -/
def startsPlain (inFlow : Bool) (char : Char) (next : Option Char) : Bool :=
  !(isBlankOrEnd (some char) || indicators.contains char) ||
    (!isBlankOrEnd next && (char = '-' || (!inFlow && (char = '?' || char = ':'))))

/-- One token taken; the place is at a character that starts one. -/
def takeToken (char : Char) (scanner : Scanner) : Except Fault Scanner :=
  let cursor := scanner.cursor
  let next := cursor.peekAt 1
  let inFlow := scanner.flow != 0
  let standsAlone := inFlow || isBlankOrEnd next
  if cursor.column = 0 && char = '%' then scanner.takeDirective
  else if cursor.column = 0 && cursor.atMark ['-', '-', '-'] then
    scanner.takeDocumentMark .documentStart
  else if cursor.column = 0 && cursor.atMark ['.', '.', '.'] then
    scanner.takeDocumentMark .documentEnd
  else if char = '[' then scanner.takeOpening .flowSequence
  else if char = '\x7b' then scanner.takeOpening .flowMapping
  else if char = ']' then scanner.takeClosing .flowSequenceEnd
  else if char = '\x7d' then scanner.takeClosing .flowMappingEnd
  else if char = ',' then scanner.takeComma
  else if char = '-' && isBlankOrEnd next then scanner.takeDash
  else if char = '?' && standsAlone then scanner.takeQuestion
  else if char = ':' && standsAlone then scanner.takeColon
  else if char = '*' then scanner.takeNode (nameOf .alias)
  else if char = '&' then scanner.takeNode (nameOf .anchor)
  else if char = '!' then scanner.takeNode tagToken
  else if char = '|' && !inFlow then scanner.takeBlock false
  else if char = '>' && !inFlow then scanner.takeBlock true
  else if char = '\'' || char = '"' then scanner.takeNode (quotedOf char)
  else if startsPlain inFlow char next then scanner.takePlain
  else .error .malformed

/-- All tokens from the scanner's place on. -/
def run : Nat → Scanner → Except Fault Scanner
  | 0, _ => .error .malformed
  | fuel + 1, scanner => do
    let scanner ← (skipBlanks (scanner.cursor.rest.length + 1) scanner).dropLostKeys
    let scanner := scanner.closeBlocks scanner.cursor.column
    match scanner.cursor.peek with
    | none => (scanner.closeBlocks (-1)).dropKey
    | some char =>
      let scanner ← scanner.takeToken char
      run fuel scanner

end Scanner

/-- The tokens of a text. -/
def tokensOf (text : Text) : Except Fault (List Token) := do
  if !text.all isAllowed then .error .malformed
  else
    let start := Cursor.start text
    let cursor := if start.peek.any (·.toNat = 0xFEFF) then start.drop 1 else start
    let scanner ← Scanner.run (text.length + 2) ⟨cursor, 0, [], true, [], []⟩
    .ok scanner.tokens.reverse

end GuidedMigration.Yaml
