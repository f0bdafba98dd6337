/-
This file finds the places in a source file where a fragment may go. A locator looks at the lines of
the file and gives an anchor, which is the index of the line before which to insert and the
indentation to use, or nothing.
-/
import GuidedMigration.Code.Statement

namespace GuidedMigration.Code

open Text

/-- Where a fragment goes: before the line at an index, indented like its surroundings. -/
structure Anchor where
  index : Nat
  indent : Text
  deriving DecidableEq

/-- A way to find an anchor. -/
inductive Locator where
  | importBlockEnd
  | topOfFile
  | endOfFile
  | beforeLastClosingBrace
  | beforeLine (pattern : Text)
  | afterLastLine (pattern : Text)
  | beforeDefinition (name : Text)
  | insideElement (tag : Text) (opener definition : Option Text)
  deriving DecidableEq

/-- The name of a locator. -/
def Locator.name : Locator → Text
  | .importBlockEnd => "import_block_end".toList
  | .topOfFile => "top_of_file".toList
  | .endOfFile => "end_of_file".toList
  | .beforeLastClosingBrace => "before_last_closing_brace".toList
  | .beforeLine pattern => "before:".toList ++ pattern
  | .afterLastLine pattern => "after-last:".toList ++ pattern
  | .beforeDefinition name => "before-const:".toList ++ name
  | .insideElement tag _ definition =>
    "inside:<".toList ++ tag ++ ['>'] ++
      match definition with
      | some name => if name.isEmpty then [] else '@' :: name
      | none => []

/-! ### Imports and the ends of the file -/

/-- Behind the last import statement. -/
def importBlockEnd (rows : List Text) : Option Anchor :=
  (importRanges rows).getLast?.map fun (_, last) => ⟨last + 1, []⟩

/-- Behind the last line that is not blank. -/
def endOfFile (rows : List Text) : Anchor :=
  ⟨(trimRightRows rows).length, []⟩
where
  /-- The lines without the blank ones at their end. -/
  trimRightRows (rows : List Text) : List Text := (rows.reverse.dropWhile isBlankText).reverse

/-! ### Lines -/

/-- The index and the text of the last line that satisfies `wanted`. -/
def lastRow? (wanted : Text → Bool) (rows : List Text) : Option (Nat × Text) :=
  (rows.zipIdx.reverse.find? fun (row, _) => wanted row).map fun (row, index) => (index, row)

/-- Before the last line that starts with a closing brace, and two columns deeper. -/
def beforeLastClosingBrace (rows : List Text) : Option Anchor :=
  (lastRow? (fun row => (trimLeft row).head? = some '\x7d') rows).map fun (index, row) =>
    ⟨index, indentOf row ++ [' ', ' ']⟩

/-- Before the first line that holds a pattern, indented like that line. -/
def beforeLine (pattern : Text) (rows : List Text) : Option Anchor :=
  (rows.zipIdx.find? fun (row, _) => occursIn pattern row).map fun (row, index) =>
    ⟨index, indentOf row⟩

/-- What lines end in behind which an element of one line is over. -/
def lineEndings : List Text := [['/', '>'], ['>'], [';'], [',']]

/-- What lines end in behind which an element is over. -/
def elementEndings : List Text := [['/', '>'], ['>']]

/-- Behind the last line that holds a pattern, or, if that line leaves its element open, behind the
next line that ends one; indented like the line found. -/
def afterLastLine (pattern : Text) (rows : List Text) : Option Anchor :=
  (lastRow? (occursIn pattern) rows).map fun (index, row) =>
    if endsWithAny lineEndings (trimRight row) then ⟨index + 1, indentOf row⟩
    else
      let behind := (rows.drop (index + 1)).takeWhile fun row =>
        !endsWithAny elementEndings (trimRight row)
      let last := index + 1 + behind.length
      ⟨if last < rows.length then last + 1 else index + 1, indentOf row⟩

/-! ### Definitions -/

/-- One or more blanks at the start of a text dropped, as many as possible first; all the ways. -/
def afterBlanks : Text → List Text
  | [] => []
  | char :: text => if isBlank char then afterBlanks text ++ [text] else []

/-- Whether a text starts with a name that ends at the edge of a word. -/
def startsWithName (name text : Text) : Bool :=
  match dropPrefix? name text with
  | some rest => isWordEdge name.getLast? rest.head?
  | none => false

/-- Whether a line starts the definition of a constant. -/
def startsDefinition (name line : Text) : Bool :=
  let line := trimLeft line
  let line := match dropPrefix? ['e', 'x', 'p', 'o', 'r', 't'] line with
    | some rest => if rest.head?.any isBlank then trimLeft rest else line
    | none => line
  match dropPrefix? ['c', 'o', 'n', 's', 't'] line with
  | some rest => (afterBlanks rest).any fun rest =>
      if name.isEmpty then isWordEdge (some ' ') rest.head? else startsWithName name rest
  | none => false

/-- The bracket depth behind a line, and whether a bracket was opened so far. -/
def scanBrackets (depth : Int) (opened : Bool) (line : Text) : Int × Bool :=
  (depth + bracketBalance line, opened || line.any isOpener)

/-- The index of the last line of a definition: the first behind which its brackets are closed, if
one was opened or the line ends in a semicolon. -/
def definitionEnd? : Nat → Int → Bool → List Text → Option Nat
  | _, _, _, [] => none
  | index, depth, opened, line :: rest =>
    let (depth, opened) := scanBrackets depth opened line
    if depth ≤ 0 && (opened || endsWith [';'] (trimRight line)) then some index
    else definitionEnd? (index + 1) depth opened rest

/-- The first and the last line of the definition of a constant. A definition that is never closed
goes on to the last line. -/
def definitionRange (name : Text) (rows : List Text) : Option (Nat × Nat) :=
  (rows.zipIdx.find? fun (row, _) => startsDefinition name row).map fun (_, first) =>
    (first, (definitionEnd? first 0 false (rows.drop first)).getD (rows.length - 1))

/-- Before the definition of a constant. -/
def beforeDefinition (name : Text) (rows : List Text) : Option Anchor :=
  (definitionRange name rows).map fun (first, _) => ⟨first, []⟩

/-! ### Elements -/

/-- Recognises the opening of an element's tag, with a blank or the end of the tag behind it. -/
def openingTag (tag : Text) : Recogniser Unit := fun _ text =>
  match dropPrefix? ('<' :: tag) text with
  | some (next :: _) => if isBlank next || next = '>' then some ((), tag.length + 1) else none
  | _ => none

/-- The closing tag of an element. -/
def closingTag (tag : Text) : Text := '<' :: '/' :: tag ++ ['>']

/-- How many elements of a tag a line leaves open; an element closed at the end of the line is none
of them. -/
def tagBalance (tag line : Text) : Int :=
  let opened := (findAll (openingTag tag) line).length
  let opened := if 0 < opened && endsWith ['/', '>'] (trimRight line) then opened - 1 else opened
  (opened : Int) - countOf (closingTag tag) line

/-- The line that closes an element: the first behind its opening line at which as many elements of
its tag are closed as were opened. -/
def closingRow? (tag : Text) : Nat → Int → Bool → List Text → Option Anchor
  | _, _, _, [] => none
  | index, depth, isFirst, line :: rest =>
    let depth := depth + tagBalance tag line
    if depth ≤ 0 && !isFirst then some ⟨index, indentOf line ++ [' ', ' ']⟩
    else closingRow? tag (index + 1) depth false rest

/-- Whether a line opens an element of a tag, with a further text on the line if one is asked for,
and leaves it open. -/
def opensElement (tag : Text) (opener : Option Text) (line : Text) : Bool :=
  (findFirst? (openingTag tag) line).isSome && opener.all (occursIn · line) &&
    !endsWith ['/', '>'] (trimRight line)

/-- Before the closing tag of the first element of a tag, two columns deeper; inside a definition if
one is named. -/
def insideElement (tag : Text) (opener definition : Option Text) (rows : List Text) :
    Option Anchor :=
  let range := match definition.filter (!·.isEmpty) with
    | some name => definitionRange name rows
    | none => some (0, rows.length - 1)
  match range with
  | none => none
  | some (low, high) =>
    let body := (rows.take (high + 1)).drop low
    let before := body.takeWhile (!opensElement tag (opener.filter (!·.isEmpty)) ·)
    closingRow? tag (low + before.length) 0 true (body.drop before.length)

/-- The anchor that a locator finds in the lines of a file. -/
def Locator.locate : Locator → List Text → Option Anchor
  | .importBlockEnd, rows => Code.importBlockEnd rows
  | .topOfFile, _ => some ⟨0, []⟩
  | .endOfFile, rows => some (Code.endOfFile rows)
  | .beforeLastClosingBrace, rows => Code.beforeLastClosingBrace rows
  | .beforeLine pattern, rows => Code.beforeLine pattern rows
  | .afterLastLine pattern, rows => Code.afterLastLine pattern rows
  | .beforeDefinition name, rows => Code.beforeDefinition name rows
  | .insideElement tag opener definition, rows => Code.insideElement tag opener definition rows

end GuidedMigration.Code
