/-
This file cuts a Markdown text into rows. A row is a line as the block around it sees it: what
stands before the row inside a quote or a list item is cut off or counted as its margin, and columns
are counted with tabs reaching to the next multiple of four.
-/
import GuidedMigration.Text.Character

namespace GuidedMigration.Markdown

open Text

/-- A line as the block around it sees it. -/
structure Row where
  /-- The line behind the marks of the quotes around it. -/
  text : Text
  /-- How many characters of it stand before its content. -/
  margin : Nat
  /-- The column at which its content starts, counted from the block around it. A negative one marks
  a line that can only go on with a paragraph. -/
  column : Int
  /-- The column at which its text starts, for tabs. -/
  base : Nat
  /-- Whether the line ends in a newline. -/
  isClosed : Bool

namespace Row

/-- The row behind the last one. -/
def blank : Row := ⟨[], 0, 0, 0, false⟩

/-- The content of a row. -/
def content (row : Row) : Text := row.text.drop row.margin

/-- Whether a row has no content. -/
def isEmpty (row : Row) : Bool := row.text.length ≤ row.margin

/-- The content of a row with its newline. -/
def contentLine (row : Row) : Text := row.content ++ (if row.isClosed then ['\n'] else [])

/-- The column behind a tab or a space at a column, with tabs counted from `base`. -/
def nextColumn (base column : Nat) (char : Char) : Nat :=
  if char = '\t' then column + (4 - (column + base) % 4) else column + 1

/-- The number of spaces and tabs at the start of a text that itself starts at a column, and the
column behind them. -/
def measure (base : Nat) : Nat → Text → Nat × Nat
  | column, [] => (0, column)
  | column, char :: text =>
    if isSpaceOrTab char then
      let (count, last) := measure base (nextColumn base column char) text
      (count + 1, last)
    else (0, column)

/-- A line of a text as a row. -/
def ofLine (line : Text) (isClosed : Bool) : Row :=
  let (margin, column) := measure 0 0 line
  ⟨line, margin, column, 0, isClosed⟩

/-- The rows of lines, the last of which is not closed. An unclosed line of blanks is none. -/
def ofLines : List Text → List Row
  | [] => []
  | [line] => if line.all isSpaceOrTab then [] else [ofLine line false]
  | line :: rest => ofLine line true :: ofLines rest

/-- The rows of a text. -/
def ofText (text : Text) : List Row := ofLines (splitOn '\n' text)

/-- The columns that were passed in a row before what is left of it; characters of its margin count
as blanks. -/
def passIndent (indent base margin : Nat) : Nat → Text → Nat × Text
  | column, [] => (column, [])
  | column, char :: text =>
    if column < indent && (isSpaceOrTab char || 0 < margin) then
      passIndent indent base (margin - 1)
        (if isSpaceOrTab char then nextColumn base column char else column + 1) text
    else (column, char :: text)

/-- A row without an indentation; a tab that reaches beyond it leaves spaces. -/
def withoutIndent (indent : Nat) (row : Row) : Text :=
  let (column, text) := passIndent indent row.base row.margin 0 row.text
  List.replicate (column - indent) ' ' ++ text

/-- The lines of rows without an indentation, each with its newline. -/
def joinClosed (indent : Nat) (rows : List Row) : Text :=
  rows.flatMap fun row => row.withoutIndent indent ++ (if row.isClosed then ['\n'] else [])

/-- The lines of rows without an indentation, with newlines between them. -/
def join (indent : Nat) (rows : List Row) : Text :=
  joinLines (rows.map (·.withoutIndent indent))

/-! ### Quotes -/

/-- A row behind the mark of a quote, and whether it has content there. One blank behind the mark
belongs to it; of a tab that reaches further only one column does. -/
def unquote (row : Row) : Row :=
  let behind := row.text.drop (row.margin + 1)
  let column := row.column.toNat + 1
  let tabFits := (row.base + column) % 4 = 3
  let (text, start, extra) := match behind with
    | ' ' :: rest => (rest, column + 1, 0)
    | '\t' :: rest => if tabFits then (rest, column + 1, 0) else (behind, column, 1)
    | _ => (behind, column, 0)
  let hasBlank := behind.head?.any isSpaceOrTab
  let (margin, last) := measure (row.base + extra) start text
  ⟨text, margin, (last : Int) - start, column + (if hasBlank then 1 else 0), row.isClosed⟩

/-- A row that can only go on with a paragraph. -/
def lazy (row : Row) : Row := { row with column := -1 }

end Row

end GuidedMigration.Markdown
