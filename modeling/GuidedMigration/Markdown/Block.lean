/-
This file finds the blocks of a Markdown text: headings, code, and the texts of paragraphs and table
cells, in the order in which they stand, whatever quotes and lists they stand in. On the way it
collects the definitions of links.

Rules are tried in a fixed order at the first row of a block. A quote and a list item hold blocks of
their own; their rows are changed to what stands inside before their blocks are found.
-/
import GuidedMigration.Markdown.Destination
import GuidedMigration.Markdown.Dialect
import GuidedMigration.Markdown.Row
import GuidedMigration.Markdown.Tag

namespace GuidedMigration.Markdown

open Text

/-- A block without blocks inside. -/
inductive Leaf where
  /-- A heading: its level, its first row, the row behind it, and its text. -/
  | heading (level first last : Nat) (content : Text)
  /-- A block of code: what its fence says, if it has one, its content, and its first row. -/
  | code (info : Option Text) (content : Text) (first : Nat)
  /-- The text of a paragraph or of a table cell. -/
  | prose (content : Text)
  deriving DecidableEq

/-- The text of a block in which links are looked for. -/
def Leaf.prose? : Leaf → Option Text
  | .heading _ _ _ content => some content
  | .code _ _ _ => none
  | .prose content => some content

/-- What is known where a block is looked for: the rows, how many of them paragraphs may reach, the
column at which the block around starts, the column at which the list around starts, and how many
blocks are around. -/
structure Frame where
  dialect : Dialect
  rows : Array Row
  limit : Nat
  indent : Nat
  listIndent : Option Nat
  level : Nat

namespace Frame

/-- The row at an index. -/
def row (frame : Frame) (index : Nat) : Row := frame.rows[index]?.getD Row.blank

/-- The rows from one index up to another. -/
def slice (frame : Frame) (first last : Nat) : List Row :=
  (List.range (last - first)).map fun offset => frame.row (first + offset)

/-- Whether a row stands outside the block around. -/
def isOutside (frame : Frame) (row : Row) : Bool := row.column < frame.indent

/-- Whether a row is indented so far that it is code. -/
def isCode (frame : Frame) (row : Row) : Bool :=
  !frame.dialect.isPlain && 4 ≤ row.column - frame.indent

/-- The first row from an index on that has content. -/
def skipEmpty (frame : Frame) : Nat → Nat → Nat
  | 0, index => index
  | fuel + 1, index =>
    if index < frame.limit && (frame.row index).isEmpty then skipEmpty frame fuel (index + 1)
    else index

/-! ### How blocks start -/

/-- The fence that a row is: its mark, how often it stands there, and what follows. -/
def fence? (frame : Frame) (row : Row) : Option (Char × Nat × Text) :=
  if frame.isCode row then none
  else match row.content with
    | mark :: rest =>
      if mark = '\x60' || mark = '~' then
        let size := (rest.takeWhile (· = mark)).length + 1
        let info := rest.drop (size - 1)
        if size < 3 || (mark = '\x60' && info.contains mark) then none
        else some (mark, size, info)
      else none
    | [] => none

/-- Whether a row starts a quote. -/
def startsQuote (frame : Frame) (row : Row) : Bool :=
  !frame.isCode row && row.content.head? = some '>'

/-- Whether a row is a rule: three or more of the same mark and nothing else but blanks. -/
def isRule (frame : Frame) (row : Row) : Bool :=
  !frame.isCode row && match row.content with
    | mark :: rest => (mark = '*' || mark = '-' || mark = '_') &&
        rest.all (fun char => char = mark || isSpaceOrTab char) && 2 ≤ rest.count mark
    | [] => false

/-- The mark of a list item: its number, if it has one, the character that ends it, and its length.
-/
structure ItemMark where
  number : Option Nat
  mark : Char
  size : Nat

/-- Whether a text may follow the mark of a list item. -/
def mayFollowMark (text : Text) : Bool := text.head?.all isSpaceOrTab

/-- The mark of an item at the start of a text. -/
def itemMark? (text : Text) : Option ItemMark :=
  match text with
  | [] => none
  | first :: rest =>
    if first = '*' || first = '-' || first = '+' then
      if mayFollowMark rest then some ⟨none, first, 1⟩ else none
    else
      let digits := text.takeWhile isAsciiDigit
      match text.drop digits.length with
      | mark :: behind =>
        if !digits.isEmpty && digits.length ≤ 9 && (mark = ')' || mark = '.') &&
            mayFollowMark behind then
          some ⟨some (numberOf digits), mark, digits.length + 1⟩
        else none
      | [] => none

/-- Whether a row that looks like an item of an inner list goes on with a paragraph of an outer
one. -/
def isDeepItem (frame : Frame) (row : Row) : Bool :=
  match frame.listIndent with
  | some start => 4 ≤ row.column - start && frame.isOutside row
  | none => false

/-- The mark of the list item that a row starts. One that would interrupt a paragraph must have
content and, if it has a number, the number one. -/
def item? (frame : Frame) (inParagraph : Bool) (row : Row) : Option ItemMark :=
  if frame.isCode row || frame.isDeepItem row then none
  else (itemMark? row.content).filter fun mark =>
    !(inParagraph && !frame.isOutside row) ||
      (mark.number.all (· = 1) && !(row.content.drop mark.size).all isSpaceOrTab)

/-- How the block of HTML that a row starts ends. -/
def html? (frame : Frame) (row : Row) : Option Tag.Ending :=
  if frame.isCode row || !frame.dialect.html then none else Tag.blockEnding? row.content

/-- The level and the text of the heading that a row is. -/
def heading? (frame : Frame) (row : Row) : Option (Nat × Text) :=
  if frame.isCode row then none
  else
    let level := (row.content.takeWhile (· = '#')).length
    let rest := row.content.drop level
    if level = 0 || 6 < level || !rest.head?.all isSpaceOrTab then none
    else
      let body := trimRightWhile isSpaceOrTab rest
      let short := trimRightWhile (· = '#') body
      some (level, trim (if short.getLast?.any isSpaceOrTab then short else body))

/-! ### Tables -/

/-- The cells of a row of a table: its parts between bars that are not escaped; an escaped bar
loses its backslash. -/
def cellsFrom : Bool → Text → Text → List Text
  | _, current, [] => [current.reverse]
  | escaped, current, char :: text =>
    if char = '|' then
      if escaped then cellsFrom false ('|' :: current.drop 1) text
      else current.reverse :: cellsFrom false [] text
    else cellsFrom (char = '\\') (char :: current) text

/-- The cells of a line of a table; bars at its ends bound no further cells. -/
def cells (line : Text) : List Text :=
  let cells := cellsFrom false [] line
  let cells := if cells.head? = some [] then cells.drop 1 else cells
  if cells.getLast? = some [] then cells.dropLast else cells

/-- Whether a cell of the second row of a table marks a column. -/
def isColumnMark (cell : Text) : Bool :=
  let cell := if cell.head? = some ':' then cell.drop 1 else cell
  let dashes := cell.takeWhile (· = '-')
  !dashes.isEmpty && (cell.drop dashes.length = [] || cell.drop dashes.length = [':'])

/-- The number of columns that the second row of a table marks. -/
def columnCount? (line : Text) : Option Nat :=
  let parts := (splitOn '|' line).map trim
  let inner := if parts.head? = some [] then parts.drop 1 else parts
  let inner := if inner.getLast? = some [] then inner.dropLast else inner
  if inner.all isColumnMark then some inner.length else none

/-- Whether a row may be the second row of a table. -/
def isColumnRow (frame : Frame) (row : Row) : Bool :=
  !frame.isOutside row && !frame.isCode row && match row.content with
    | first :: second :: rest =>
      let isMark (char : Char) : Bool := char = '|' || char = '-' || char = ':'
      isMark first && (isMark second || isSpaceOrTab second) &&
        !(first = '-' && isSpaceOrTab second) &&
        rest.all fun char => isMark char || isSpaceOrTab char
    | _ => false

/-- The cells of the first row of the table that starts at an index. -/
def tableHead? (frame : Frame) (index last : Nat) : Option (List Text) :=
  let second := frame.row (index + 1)
  if !frame.dialect.tables || last < index + 2 || !frame.isColumnRow second then none
  else do
    let count ← columnCount? (trim second.content)
    let line := trim (frame.row index).content
    let head := cells line
    if !line.contains '|' || frame.isCode (frame.row index) || head.isEmpty ||
        head.length != count then none
    else some head

/-! ### What ends a paragraph -/

/-- Whether a row starts a block that ends any other. -/
def endsItem (frame : Frame) (row : Row) : Bool :=
  !frame.dialect.isPlain &&
    ((frame.fence? row).isSome || frame.startsQuote row || frame.isRule row)

/-- Whether a row starts a block that ends a quote or a table. -/
def endsQuote (frame : Frame) (inParagraph : Bool) (row : Row) : Bool :=
  !frame.dialect.isPlain && (frame.endsItem row || (frame.item? inParagraph row).isSome ||
    (frame.html? row).any (·.interrupts) || (frame.heading? row).isSome)

/-- Whether the row at an index starts a block that ends a paragraph or the definition of a link. -/
def endsProse (frame : Frame) (inParagraph : Bool) (index last : Nat) : Bool :=
  frame.endsQuote inParagraph (frame.row index) || (frame.tableHead? index last).isSome

/-- The index behind the paragraph whose rows before an index are known. -/
def paragraphEnd (frame : Frame) : Nat → Nat → Nat
  | 0, index => index
  | fuel + 1, index =>
    let row := frame.row index
    if frame.limit ≤ index || row.isEmpty then index
    else if 3 < row.column - frame.indent || row.column < 0 then paragraphEnd frame fuel (index + 1)
    else if frame.endsProse true index frame.limit then index
    else paragraphEnd frame fuel (index + 1)

/-- The level of the heading that a row underlines. -/
def underline? (frame : Frame) (row : Row) : Option Nat :=
  if frame.isOutside row then none
  else match row.content with
    | mark :: rest =>
      if (mark = '-' || mark = '=') &&
          (rest.dropWhile (· = mark)).all isSpaceOrTab then
        some (if mark = '=' then 1 else 2)
      else none
    | [] => none

/-- The level of the underlined heading whose rows before an index are known, and the index of the
row that underlines it. -/
def underlined? (frame : Frame) (last : Nat) : Nat → Nat → Option (Nat × Nat)
  | 0, _ => none
  | fuel + 1, index =>
    let row := frame.row index
    if last ≤ index || row.isEmpty then none
    else if 3 < row.column - frame.indent then underlined? frame last fuel (index + 1)
    else match frame.underline? row with
      | some level => some (level, index)
      | none =>
        if row.column < 0 then underlined? frame last fuel (index + 1)
        else if frame.endsProse true index last then none
        else underlined? frame last fuel (index + 1)

/-! ### Definitions of links -/

/-- The next line of a definition, if it goes on there. -/
def nextLine? (frame : Frame) (index : Nat) : Option Text :=
  let row := frame.row index
  if frame.limit ≤ index || row.isEmpty then none
  else if !frame.isCode row && 0 ≤ row.column && frame.endsProse false index frame.limit then none
  else some row.contentLine

/-- A place in a definition: the index of the line behind those taken, and the text left of them. -/
structure Place where
  next : Nat
  rest : Text

/-- A place behind a newline, with the next line taken if there is one. -/
def Place.behindNewline (frame : Frame) (next : Nat) (rest : Text) : Place :=
  match frame.nextLine? next with
  | some line => ⟨next + 1, rest ++ line⟩
  | none => ⟨next, rest⟩

/-- The label up to its closing bracket, and the place behind it. -/
def label? (frame : Frame) : Nat → Place → Option (Text × Place)
  | 0, _ => none
  | fuel + 1, place => match place.rest with
    | [] => none
    | '\\' :: '\n' :: rest =>
      (label? frame fuel (.behindNewline frame place.next rest)).map fun (label, behind) =>
        ('\\' :: '\n' :: label, behind)
    | '\\' :: char :: rest =>
      (label? frame fuel ⟨place.next, rest⟩).map fun (label, behind) =>
        ('\\' :: char :: label, behind)
    | char :: rest =>
      if char = '[' then none
      else if char = ']' then some ([], ⟨place.next, rest⟩)
      else
        let behind := if char = '\n' then Place.behindNewline frame place.next rest
          else ⟨place.next, rest⟩
        (label? frame fuel behind).map fun (label, behind) => (char :: label, behind)

/-- The place behind spaces, tabs and newlines. -/
def skipGap (frame : Frame) : Nat → Place → Place
  | 0, place => place
  | fuel + 1, place => match place.rest with
    | [] => place
    | char :: rest =>
      if char = '\n' then skipGap frame fuel (.behindNewline frame place.next rest)
      else if isSpaceOrTab char then skipGap frame fuel ⟨place.next, rest⟩
      else place

/-- The rest of a title that may go on in further lines: whether it has a character, and the place
behind it. -/
def titleFrom? (frame : Frame) (stop : Char) : Nat → Bool → Place → Option (Bool × Place)
  | 0, _, _ => none
  | fuel + 1, hasText, place => match titleBody stop 0 place.rest with
    | .closed size behind => some (hasText || 0 < size, ⟨place.next, behind⟩)
    | .none => none
    | .unfinished size => match frame.nextLine? place.next with
      | some line => titleFrom? frame stop fuel (hasText || 0 < size) ⟨place.next + 1, line⟩
      | none => none

/-- The title at a place, if there is one: whether it has a character, and the place behind it.
`hasGap` says whether blanks stand before it; a title on one line needs them. -/
def title? (frame : Frame) (fuel : Nat) (hasGap : Bool) (place : Place) : Option (Bool × Place) :=
  match place.rest with
  | opening :: rest => match titleEnd? opening with
    | some stop =>
      (titleFrom? frame stop fuel false ⟨place.next, rest⟩).filter fun (_, behind) =>
        hasGap || place.next < behind.next
    | none => none
  | [] => none

/-- Whether nothing but spaces and tabs stands before the end of a line. -/
def atLineEnd (rest : Text) : Bool := (rest.dropWhile isSpaceOrTab).head?.all (· = '\n')

/-- The place behind the title of a definition, or behind its destination if what follows it is no
title; nothing if the line goes on there. -/
def definitionEnd? (frame : Frame) (fuel : Nat) (destination : Place) : Option Nat :=
  let start := frame.skipGap fuel destination
  let hasGap := start.rest.length != destination.rest.length || start.next != destination.next
  match frame.title? fuel hasGap start with
  | some (hasText, behind) =>
    if atLineEnd behind.rest then some behind.next
    else if hasText && atLineEnd destination.rest then some destination.next
    else none
  | none => if atLineEnd destination.rest then some destination.next else none

/-- The definition that starts at an index: its label, its target, and the index behind it. -/
def definition? (frame : Frame) (index : Nat) : Option (Text × Text × Nat) :=
  let row := frame.row index
  match row.contentLine with
  | '[' :: rest =>
    if frame.isCode row then none
    else
      let fuel := (frame.rows.toList.drop index).foldl (fun sum row => sum + row.text.length + 2) 2
      match label? frame fuel ⟨index + 1, rest⟩ with
      | some (label, ⟨next, ':' :: rest⟩) =>
        let start := frame.skipGap fuel ⟨next, rest⟩
        match destination? start.rest with
        | some (address, behind) => do
          let target ← linkable? address
          let last ← frame.definitionEnd? fuel ⟨start.next, behind⟩
          let label := normalizeLabel label
          if label.isEmpty then none else some (label, target, last)
        | none => none
      | _ => none
  | _ => none

end Frame

/-! ### Blocks -/

/-- What was found so far: the blocks, last first, and the definitions of links. -/
structure Found where
  leaves : List Leaf
  definitions : Definitions

/-- What was found and one more block. -/
def Found.add (leaf : Leaf) (found : Found) : Found := { found with leaves := leaf :: found.leaves }

namespace Frame

/-- The index behind indented code whose rows up to `last` are known. -/
def codeEnd (frame : Frame) (stop : Nat) : Nat → Nat → Nat → Nat
  | 0, last, _ => last
  | fuel + 1, last, index =>
    if stop ≤ index then last
    else
      let row := frame.row index
      if row.isEmpty then codeEnd frame stop fuel last (index + 1)
      else if frame.isCode row then codeEnd frame stop fuel (index + 1) (index + 1)
      else last

/-- Whether a row closes a fence. -/
def closesFence (frame : Frame) (mark : Char) (size : Nat) (row : Row) : Bool :=
  let marks := (row.content.takeWhile (· = mark)).length
  !frame.isCode row && size ≤ marks && (row.content.drop marks).all isSpaceOrTab

/-- The index of the row that ends fenced code, and whether that row closes the fence. A row outside
ends it, and so does an empty row at the end of the text. -/
def fenceEnd (frame : Frame) (mark : Char) (size stop : Nat) : Nat → Nat → Nat × Bool
  | 0, index => (index, false)
  | fuel + 1, index =>
    let row := frame.row index
    if stop ≤ index || (!row.isEmpty && frame.isOutside row) || (row.isEmpty && !row.isClosed) then
      (index, false)
    else if frame.closesFence mark size row then (index, true)
    else fenceEnd frame mark size stop fuel (index + 1)

/-- The index behind a block of HTML. -/
def htmlEnd (frame : Frame) (isLast : Text → Bool) (stop : Nat) : Nat → Nat → Nat
  | 0, index => index
  | fuel + 1, index =>
    let row := frame.row index
    if stop ≤ index || frame.isOutside row then index
    else if isLast row.content then if row.isEmpty then index else index + 1
    else htmlEnd frame isLast stop fuel (index + 1)

/-- The most empty cells by which the rows of a table are filled up. -/
def mostFilledCells : Int := 0x10000

/-- The cells of the rows of a table below its first two, last first, and the index behind them. -/
def tableBody (frame : Frame) (count stop : Nat) : Nat → Int → Nat → List Text → Nat × List Text
  | 0, _, index, done => (index, done)
  | fuel + 1, filled, index, done =>
    let row := frame.row index
    let line := trim row.content
    if stop ≤ index || frame.isOutside row || frame.endsQuote false row || line.isEmpty ||
        frame.isCode row then (index, done)
    else
      let columns := cells line
      let filled := filled + (count : Int) - columns.length
      if mostFilledCells < filled then (index, done)
      else
        let texts := (List.range count).map fun place => trim (columns[place]?.getD [])
        tableBody frame count stop fuel filled (index + 1) (texts.reverse ++ done)

/-- The rows of a quote, each changed to what stands inside; the index behind the quote; and whether
another block ends it. `isOpen` says whether the row before has content. -/
def quoteRows (frame : Frame) (stop : Nat) : Nat → Nat → Bool → Array Row → Array Row × Nat × Bool
  | 0, index, _, rows => (rows, index, false)
  | fuel + 1, index, isOpen, rows =>
    let row := frame.row index
    if stop ≤ index || row.isEmpty then (rows, index, false)
    else if row.content.head? = some '>' && !frame.isOutside row then
      let inner := row.unquote
      quoteRows frame stop fuel (index + 1) (!inner.isEmpty) (rows.setIfInBounds index inner)
    else if !isOpen then (rows, index, false)
    else if frame.endsQuote false row then (rows, index, true)
    else quoteRows frame stop fuel (index + 1) isOpen (rows.setIfInBounds index row.lazy)

/-- The frame of the blocks inside a list item, and whether the item starts with an empty row. -/
def itemFrame (frame : Frame) (mark : ItemMark) (index : Nat) : Frame × Bool :=
  let row := frame.row index
  let start := row.column.toNat + mark.size
  let rest := row.content.drop mark.size
  let (blanks, column) := Row.measure row.base start rest
  let isEmpty := rest.length ≤ blanks
  let gap := if isEmpty || 4 < column - start then 1 else column - start
  let inner := { row with margin := row.margin + mark.size + blanks, column := column }
  ({ frame with
    rows := frame.rows.setIfInBounds index inner
    indent := start + gap
    listIndent := some frame.indent
    level := frame.level + 2 }, isEmpty)

mutual

/-- The blocks from one index up to another, and the index behind them. -/
def blocks : Nat → Frame → Nat → Nat → Found → Nat × Found
  | 0, _, index, _, found => (index, found)
  | fuel + 1, frame, index, stop, found =>
    if stop ≤ index then (index, found)
    else
      let index := frame.skipEmpty (frame.limit - index) index
      if stop ≤ index || frame.isOutside (frame.row index) then (index, found)
      else if frame.dialect.depth ≤ frame.level then (stop, found)
      else
        let (index, found) := block fuel frame index stop found
        blocks fuel frame
          (if index < stop && (frame.row index).isEmpty then index + 1 else index) stop found

/-- The block that starts at an index, and the index behind it. -/
def block : Nat → Frame → Nat → Nat → Found → Nat × Found
  | 0, _, index, _, found => (index + 1, found)
  | fuel + 1, frame, index, stop, found =>
    let row := frame.row index
    let size := stop - index
    if frame.dialect.isPlain then
      let last := frame.paragraphEnd (frame.limit - index) (index + 1)
      (last, found.add (.prose (trim (Row.join frame.indent (frame.slice index last)))))
    else match frame.tableHead? index stop with
    | some head =>
      let (last, body) := frame.tableBody head.length stop size 0 (index + 2) []
      let texts := body ++ (head.map trim).reverse
      (last, { found with leaves := texts.map Leaf.prose ++ found.leaves })
    | none =>
    if frame.isCode row then
      let last := frame.codeEnd stop size (index + 1) (index + 1)
      (last, found.add (.code none
        (Row.join (4 + frame.indent) (frame.slice index last) ++ ['\n']) index))
    else match frame.fence? row with
    | some (mark, count, info) =>
      let (last, isClosed) := frame.fenceEnd mark count stop size (index + 1)
      (if isClosed then last + 1 else last, found.add (.code (some info)
        (Row.joinClosed row.column.toNat (frame.slice (index + 1) last)) index))
    | none =>
    if frame.startsQuote row then
      let inner := row.unquote
      let (rows, last, isEnded) := frame.quoteRows stop size (index + 1) (!inner.isEmpty)
        (frame.rows.setIfInBounds index inner)
      let within := { frame with
        rows := rows
        limit := if isEnded then last else frame.limit
        indent := 0
        level := frame.level + 1 }
      blocks fuel within index last found
    else if frame.isRule row then (index + 1, found)
    else match frame.item? false row with
    | some mark => items fuel frame mark index stop found
    | none => match frame.definition? index with
    | some (label, target, last) =>
      (last, { found with definitions := found.definitions.add label target })
    | none => match frame.html? row with
    | some ending =>
      (if ending.isLast row.content then index + 1
        else frame.htmlEnd ending.isLast stop size (index + 1), found)
    | none => match frame.heading? row with
    | some (level, content) => (index + 1, found.add (.heading level index (index + 1) content))
    | none => match frame.underlined? stop size (index + 1) with
    | some (level, last) =>
      let content := trim (Row.join frame.indent (frame.slice index last))
      (last + 1, found.add (.heading level index (last + 1) content))
    | none =>
      let last := frame.paragraphEnd (frame.limit - index) (index + 1)
      (last, found.add (.prose (trim (Row.join frame.indent (frame.slice index last)))))

/-- The items of a list from one with a known mark on, and the index behind them. -/
def items : Nat → Frame → ItemMark → Nat → Nat → Found → Nat × Found
  | 0, _, _, index, _, found => (index + 1, found)
  | fuel + 1, frame, mark, index, stop, found =>
    let (inner, isEmpty) := frame.itemFrame mark index
    let (next, found) :=
      if isEmpty && (frame.row (index + 1)).isEmpty then (min (index + 2) stop, found)
      else blocks fuel inner index stop found
    let row := frame.row next
    if stop ≤ next || frame.isOutside row || frame.isCode row || frame.endsItem row then
      (next, found)
    else match itemMark? row.content with
      | some other =>
        if other.mark = mark.mark && other.number.isSome = mark.number.isSome then
          items fuel frame other next stop found
        else (next, found)
      | none => (next, found)

end

end Frame

/-- The blocks of a text in a dialect, in order, and the definitions of its links. -/
def blocksOf (dialect : Dialect) (text : Text) : List Leaf × Definitions :=
  let rows := (Row.ofText text).toArray
  let frame : Frame := ⟨dialect, rows, rows.size, 0, none, 0⟩
  let (_, found) := Frame.blocks (4 * rows.size + 4 * dialect.depth + 8) frame 0 rows.size ⟨[], []⟩
  (found.leaves.reverse, found.definitions)

end GuidedMigration.Markdown
