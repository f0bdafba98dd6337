/-
This file finds the links inside the text of a block. The text is read from left to right into
pieces: texts, code, and the openings and closings of links. Where a link may start, the end of its
label is looked for by skipping over whatever else is recognised there, code and other links among
it; what was skipped from a place is remembered, and so are the lengths of the runs of backquotes
behind which no closing run was found.
-/
import GuidedMigration.Guide.Basic
import GuidedMigration.Markdown.Destination
import GuidedMigration.Markdown.Dialect
import GuidedMigration.Markdown.Emphasis
import GuidedMigration.Markdown.Tag

namespace GuidedMigration.Markdown

open Text

/-- A piece of the text of a block. -/
inductive Inline where
  | text (content : Text)
  | code (content : Text)
  | opening (target : Text)
  | closing
  | other
  deriving DecidableEq

namespace Inline

/-! ### Sources and what is remembered of them -/

/-- The text that is read, with the definitions that its links may use. -/
structure Source where
  dialect : Dialect
  definitions : Definitions
  chars : Array Char

/-- The characters of a source from one place up to another. -/
def Source.slice (source : Source) (first last : Nat) : Text :=
  (source.chars.extract first last).toList

/-- Whether a character stands at a place of a source. -/
def Source.has (source : Source) (char : Char) (place : Nat) : Bool :=
  source.chars[place]? = some char

/-- The first place from a place on at which a character does not satisfy `inRun`. -/
def Source.runEnd (source : Source) (inRun : Char → Bool) (stop : Nat) : Nat → Nat → Nat
  | 0, place => place
  | fuel + 1, place =>
    if place < stop && source.chars[place]?.any inRun then source.runEnd inRun stop fuel (place + 1)
    else place

/-- What is remembered: where skipping from a place ended; where the last run of backquotes of a
length stands; and whether all such runs were seen. -/
structure Memory where
  skips : Array (Option Nat)
  runs : List (Nat × Nat)
  hasSeenAll : Bool

/-! ### Code -/

/-- The place of the run of backquotes that closes code, and the place behind it; runs of other
lengths are remembered. -/
def closingRun? (source : Source) (size stop : Nat) :
    Nat → Nat → Memory → Option (Nat × Nat) × Memory
  | 0, _, memory => (none, { memory with hasSeenAll := true })
  | fuel + 1, place, memory =>
    let start := source.runEnd (· != '\x60') source.chars.size (source.chars.size - place) place
    if source.chars.size ≤ start then (none, { memory with hasSeenAll := true })
    else
      let behind := max (start + 1)
        (source.runEnd (· = '\x60') stop (source.chars.size - start) (start + 1))
      if behind - start = size then (some (start, behind), memory)
      else closingRun? source size stop fuel behind
        { memory with runs := (behind - start, start) :: memory.runs }

/-- The content of code: newlines are spaces, and one space at both ends does not count. -/
def codeContent (inner : Text) : Text :=
  let inner := inner.map fun char => if char = '\n' then ' ' else char
  if inner.head? = some ' ' && inner.getLast? = some ' ' && !isBlankText inner then
    (inner.drop 1).dropLast
  else inner

/-! ### Addresses in angle brackets -/

/-- A text without one newline at its end. -/
def dropFinalNewline (text : Text) : Text :=
  if text.getLast? = some '\n' then text.dropLast else text

/-- Whether a text is an address with a scheme. -/
def isAddress (text : Text) : Bool :=
  let scheme := text.takeWhile fun char =>
    isAsciiAlnum char || char = '+' || char = '.' || char = '-'
  scheme.head?.any isAsciiLetter && 2 ≤ scheme.length && scheme.length ≤ 32 &&
    match text.drop scheme.length with
    | ':' :: rest => (dropFinalNewline rest).all fun char =>
        32 < char.toNat && char != '<' && char != '>'
    | _ => false

/-- The characters before the at sign of a mail address. -/
def isMailChar (char : Char) : Bool :=
  isAsciiAlnum char || ".!#$%&'*+/=?^_\x60\x7b|\x7d~-".toList.contains char

/-- Whether a text is a label of the domain of a mail address. -/
def isMailLabel (label : Text) : Bool :=
  label.head?.any isAsciiAlnum && label.getLast?.any isAsciiAlnum && label.length ≤ 63 &&
    label.all fun char => isAsciiAlnum char || char = '-'

/-- Whether a text is a mail address. -/
def isMailAddress (text : Text) : Bool :=
  let user := text.takeWhile isMailChar
  !user.isEmpty && match text.drop user.length with
    | '@' :: domain => (splitOn '.' (dropFinalNewline domain)).all isMailLabel
    | _ => false

/-- The target and the shown text of an address in angle brackets. -/
def bracketedLink? (inner : Text) : Option (Text × Text) :=
  let target? := if isAddress inner then linkable? inner
    else if isMailAddress inner then linkable? ("mailto:".toList ++ inner)
    else none
  target?.map (·, Address.shown inner)

/-! ### What stands at a place -/

/-- What is recognised at a place, links with a label aside. -/
inductive Token where
  /-- Characters that are text. -/
  | plain
  /-- Characters that stand for others. -/
  | special (content : Text)
  | lineBreak
  | code (content : Text)
  | address (target shown : Text)
  | html

/-- The characters at which something other than text may start. -/
def isMarkup (char : Char) : Bool :=
  char = '\n' || "!#$%&*+-:<=>@[\\]^_\x60\x7b\x7d~".toList.contains char

/-- The code at a place, or the run of backquotes there. -/
def codeAt (source : Source) (place stop : Nat) (memory : Memory) : (Token × Nat) × Memory :=
  let size := source.chars.size - place
  let behind := max (place + 1) (source.runEnd (· = '\x60') stop size place)
  let length := behind - place
  if memory.hasSeenAll && (memory.runs.lookup length).getD 0 ≤ place then
    ((.plain, behind), memory)
  else match closingRun? source length stop size behind memory with
    | (some (start, next), memory) =>
      ((.code (codeContent (source.slice behind start)), next), memory)
    | (none, memory) => ((.plain, behind), memory)

/-- The address or the HTML in angle brackets at a place. -/
def angleAt? (source : Source) (place stop : Nat) : Option (Token × Nat) :=
  let text := source.slice (place + 1) stop
  let inner := text.takeWhile fun char => char != '<' && char != '>'
  let link? := if (text.drop inner.length).head? = some '>' then bracketedLink? inner else none
  match link? with
  | some (target, shown) => some (.address target shown, place + inner.length + 2)
  | none =>
    if source.dialect.html && place + 2 < stop then
      let rest := source.slice place source.chars.size
      (Tag.behindTag? rest).map fun behind => (.html, source.chars.size - behind.length)
    else none

/-- What is recognised at a place with a character, and the place behind it. -/
def tokenAt? (source : Source) (place stop : Nat) (char : Char) (memory : Memory) :
    Option (Token × Nat) × Memory :=
  let size := stop - place
  if !isMarkup char then
    (some (.plain, source.runEnd (!isMarkup ·) stop size place), memory)
  else if char = '\n' then
    (some (.lineBreak, source.runEnd isSpaceOrTab stop size (place + 1)), memory)
  else if char = '\\' then
    match source.chars[place + 1]? with
    | some next =>
      if stop ≤ place + 1 then (none, memory)
      else if next = '\n' then
        (some (.lineBreak, source.runEnd isSpaceOrTab stop size (place + 2)), memory)
      else
        let content := if isAsciiSymbol next then [next] else [char, next]
        (some (.special content, place + 2), memory)
    | none => (none, memory)
  else if char = '\x60' then
    let (found, memory) := codeAt source place stop memory
    (some found, memory)
  else if char = '<' then (angleAt? source place stop, memory)
  else if char = '&' && place + 1 < stop then
    let rest := source.slice (place + 1) source.chars.size
    ((reference? rest).map fun (content, behind) =>
      (.special content, source.chars.size - behind.length), memory)
  else (none, memory)

/-! ### Links -/

/-- A link or an image: where its label starts and ends, its target, and the place behind it. -/
structure Labelled where
  first : Nat
  last : Nat
  target : Text
  next : Nat

/-- A text without the spaces, tabs and newlines at its start. -/
def skipGap (text : Text) : Text := text.dropWhile fun char => isSpaceOrTab char || char = '\n'

/-- What stands in parentheses behind a label. -/
inductive Parentheses where
  /-- Nothing but blanks up to the end of the text. -/
  | unclosed
  /-- A target; the text behind the closing parenthesis follows. -/
  | target (address rest : Text)
  /-- Something else; the text from there on follows. -/
  | other (rest : Text)

/-- What stands in parentheses, from behind the opening one on. -/
def parentheses (text : Text) : Parentheses :=
  let start := skipGap text
  if start.isEmpty then .unclosed
  else
    let (address, rest) := match destination? start with
      | none => ([], start)
      | some (written, behind) =>
        let (address, behind) := match linkable? written with
          | some address => (address, behind)
          | none => ([], start)
        let title := skipGap behind
        if title.length = behind.length then (address, title)
        else match behindTitle? title with
          | some rest => (address, skipGap rest)
          | none => (address, title)
    match rest with
    | ')' :: rest => .target address rest
    | _ => .other rest

mutual

/-- The place behind whatever is recognised at a place, or behind the character there. Where too
much is nested it is behind the end. -/
def skip : Nat → Source → Nat → Nat → Nat → Memory → Nat × Memory
  | 0, _, _, place, _, memory => (place + 1, memory)
  | fuel + 1, source, level, place, stop, memory =>
    match memory.skips[place]?.join with
    | some next => (next, memory)
    | none =>
      let (next, memory) :=
        if level < source.dialect.depth then
          match source.chars[place]? with
          | none => (place + 1, memory)
          | some char =>
            if char = '[' then
              match link? fuel source (level + 1) place stop memory with
              | (some link, memory) => (link.next, memory)
              | (none, memory) => (place + 1, memory)
            else if char = '!' then
              match image? fuel source (level + 1) place stop memory with
              | (some image, memory) => (image.next, memory)
              | (none, memory) => (place + 1, memory)
            else
              match tokenAt? source place stop char memory with
              | (some (_, next), memory) => (next, memory)
              | (none, memory) => (place + 1, memory)
        else (stop + 1, memory)
      (next, { memory with skips := memory.skips.setIfInBounds place (some next) })

/-- The place of the bracket that closes a label, from a place inside it on; `depth` brackets are
open. With `alone`, the label may hold no link. -/
def labelEnd? : Nat → Source → Nat → Bool → Nat → Nat → Nat → Memory → Option Nat × Memory
  | 0, _, _, _, _, _, _, memory => (none, memory)
  | fuel + 1, source, level, alone, depth, place, stop, memory =>
    if stop ≤ place then (none, memory)
    else if source.has ']' place && depth = 1 then (some place, memory)
    else
      let depth := if source.has ']' place then depth - 1 else depth
      let (next, memory) := skip fuel source level place stop memory
      if source.has '[' place then
        if next = place + 1 then labelEnd? fuel source level alone (depth + 1) next stop memory
        else if alone then (none, memory)
        else labelEnd? fuel source level alone depth next stop memory
      else labelEnd? fuel source level alone depth next stop memory

/-- The link whose label is known and whose target is defined elsewhere, under the label that stands
in brackets at a place or else under its own. -/
def defined? : Nat → Source → Nat → Nat → Nat → Nat → Nat → Memory → Option Labelled × Memory
  | 0, _, _, _, _, _, _, memory => (none, memory)
  | fuel + 1, source, level, first, last, place, stop, memory =>
    let (bracket, memory) :=
      if place < stop && source.has '[' place then
        labelEnd? fuel source level false 1 (place + 1) stop memory
      else (none, memory)
    let (label, next) := match bracket with
      | some bracket => (source.slice (place + 1) bracket, bracket + 1)
      | none => ([], last + 1)
    let label := if label.isEmpty then source.slice first last else label
    ((source.definitions.lookup (normalizeLabel label)).map fun target =>
      ⟨first, last, target, next⟩, memory)

/-- The link that starts at a place. -/
def link? : Nat → Source → Nat → Nat → Nat → Memory → Option Labelled × Memory
  | 0, _, _, _, _, memory => (none, memory)
  | fuel + 1, source, level, place, stop, memory =>
    match labelEnd? fuel source level true 1 (place + 1) stop memory with
    | (none, memory) => (none, memory)
    | (some last, memory) =>
      let first := place + 1
      if last + 1 < stop && source.has '(' (last + 1) then
        match parentheses (source.slice (last + 2) stop) with
        | .unclosed => (none, memory)
        | .target address rest => (some ⟨first, last, address, stop - rest.length⟩, memory)
        | .other rest => defined? fuel source level first last (stop - rest.length + 1) stop memory
      else defined? fuel source level first last (last + 1) stop memory

/-- The image that starts at a place. -/
def image? : Nat → Source → Nat → Nat → Nat → Memory → Option Labelled × Memory
  | 0, _, _, _, _, memory => (none, memory)
  | fuel + 1, source, level, place, stop, memory =>
    if place + 1 < stop && !source.has '[' (place + 1) then (none, memory)
    else
      match labelEnd? fuel source level false 1 (place + 2) stop memory with
      | (none, memory) => (none, memory)
      | (some last, memory) =>
        let first := place + 2
        if last + 1 < stop && source.has '(' (last + 1) then
          match parentheses (source.slice (last + 2) stop) with
          | .target address rest => (some ⟨first, last, address, stop - rest.length⟩, memory)
          | _ => (none, memory)
        else defined? fuel source level first last (last + 1) stop memory

end

/-! ### Pieces -/

/-- The pieces found so far, the text that will be the next one, last character first, and what is
remembered. -/
structure Pieces where
  done : Array Inline
  pending : Text
  memory : Memory

/-- The pieces with the pending text as one of them. -/
def Pieces.flush (pieces : Pieces) : Pieces :=
  if pieces.pending.isEmpty then pieces
  else { pieces with done := pieces.done.push (.text pieces.pending.reverse), pending := [] }

/-- The pieces and one more. -/
def Pieces.push (piece : Inline) (pieces : Pieces) : Pieces :=
  let pieces := pieces.flush
  { pieces with done := pieces.done.push piece }

/-- The pieces with characters added to the pending text. -/
def Pieces.add (chars : Text) (pieces : Pieces) : Pieces :=
  { pieces with pending := chars.reverse ++ pieces.pending }

/-- The pieces with what a token stands for; `chars` are its characters. -/
def Pieces.addToken (token : Token) (chars : Text) (pieces : Pieces) : Pieces :=
  match token with
  | .plain => pieces.add chars
  | .special content => pieces.push (.text content)
  | .lineBreak =>
    let isEscape := chars.head? = some '\\'
    let pending := if isEscape then pieces.pending else pieces.pending.dropWhile (· = ' ')
    { pieces with pending := pending }.push .other
  | .code content => pieces.push (.code content)
  | .address target shown => ((pieces.push (.opening target)).push (.text shown)).push .closing
  | .html => pieces.push .other

/-- The pieces with a run of marks of emphasis or of struck-out text, each a piece of its own, and
these marks. -/
def Pieces.addMarks (source : Source) (char : Char) (place behind stop : Nat) (pieces : Pieces) :
    Pieces × List Delimiter :=
  let before := if place = 0 then ' ' else source.chars[place - 1]?.getD ' '
  let after := if behind < stop then source.chars[behind]?.getD ' ' else ' '
  let (opens, closes) := Delimiter.roles before after (char != '_')
  let length := behind - place
  let pieces := pieces.flush
  let (pieces, width, size) :=
    if char = '~' then
      (if length % 2 = 1 then pieces.push (.text [char]) else pieces, 2, 0)
    else (pieces, 1, length)
  (List.range (length / width)).foldl (fun (pieces, marks) _ =>
    (pieces.push (.text (List.replicate width char)),
      marks ++ [⟨char, size, pieces.done.size, opens, closes, none⟩])) (pieces, [])

/-- The pieces without the text of the marks that are matched. -/
def Pieces.resolve (marks : List Delimiter) (pieces : Pieces) : Pieces :=
  { pieces with
    done := (Delimiter.matchedPieces marks.toArray).foldl (fun done place =>
      done.setIfInBounds place .other) pieces.done }

/-- The pieces of a source from one place up to another. -/
def piecesFrom : Nat → Source → Nat → Nat → Nat → List Delimiter → Pieces → Pieces
  | 0, _, _, _, _, _, pieces => pieces
  | fuel + 1, source, level, place, stop, marks, pieces =>
    match source.chars[place]? with
    | none => pieces.flush.resolve marks
    | some char =>
      if stop ≤ place then pieces.flush.resolve marks
      else if source.dialect.depth ≤ level then
        piecesFrom fuel source level (place + 1) stop marks (pieces.add [char])
      else if char = '[' then
        match link? fuel source level place stop pieces.memory with
        | (some link, memory) =>
          let opened := { pieces with memory := memory }.push (.opening link.target)
          let within := piecesFrom fuel source (level + 1) link.first link.last [] opened
          piecesFrom fuel source level link.next stop marks (within.push .closing)
        | (none, memory) => piecesFrom fuel source level (place + 1) stop marks
            ({ pieces with memory := memory }.add [char])
      else if char = '!' then
        match image? fuel source level place stop pieces.memory with
        | (some image, memory) => piecesFrom fuel source level image.next stop marks
            ({ pieces with memory := memory }.push .other)
        | (none, memory) => piecesFrom fuel source level (place + 1) stop marks
            ({ pieces with memory := memory }.add [char])
      else if char = '*' || char = '_' || (char = '~' && source.dialect.strikethrough) then
        let behind := source.runEnd (· = char) stop (stop - place) place
        if char = '~' && behind - place < 2 then
          piecesFrom fuel source level (place + 1) stop marks (pieces.add [char])
        else
          let (pieces, more) := pieces.addMarks source char place behind stop
          piecesFrom fuel source level behind stop (marks ++ more) pieces
      else
        match tokenAt? source place stop char pieces.memory with
        | (some (token, next), memory) => piecesFrom fuel source level next stop marks
            ({ pieces with memory := memory }.addToken token (source.slice place next))
        | (none, memory) => piecesFrom fuel source level (place + 1) stop marks
            ({ pieces with memory := memory }.add [char])

/-- The pieces of a text. -/
def ofText (dialect : Dialect) (definitions : Definitions) (text : Text) : List Inline :=
  let chars := text.toArray
  let memory : Memory := ⟨Array.replicate chars.size none, [], false⟩
  if dialect.isPlain then [.text text]
  else (piecesFrom (8 * chars.size + 8) ⟨dialect, definitions, chars⟩ 0 0 chars.size []
    ⟨#[], [], memory⟩).done.toList

/-! ### Links among pieces -/

/-- The links among pieces. `current` is the link that was opened last and not closed, with its text
so far. -/
def linksFrom : Option (Text × Text) → List Inline → List Link
  | _, [] => []
  | _, .opening target :: rest => linksFrom (some (target, [])) rest
  | some (target, shown), .closing :: rest => ⟨trim shown, target⟩ :: linksFrom none rest
  | some (target, shown), .text content :: rest => linksFrom (some (target, shown ++ content)) rest
  | some (target, shown), .code content :: rest => linksFrom (some (target, shown ++ content)) rest
  | current, _ :: rest => linksFrom current rest

/-- The links in a text. -/
def links (dialect : Dialect) (definitions : Definitions) (text : Text) : List Link :=
  linksFrom none (ofText dialect definitions text)

end Inline

end GuidedMigration.Markdown
