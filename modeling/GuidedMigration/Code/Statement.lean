/-
This file cuts source code into statements. A statement goes on while brackets are open; it ends
with a line that is blank or ends like a statement or an element.

Import statements are recognised apart from the others. One starts with a line that begins with the
word `import` and ends with the first line, from there on, that ends in a quoted module, possibly
with a semicolon. The import statements of a piece of code and the ranges of lines that they take
are found by the same walk.
-/
import GuidedMigration.Text.Character
import GuidedMigration.Text.Lines

namespace GuidedMigration.Code

open Text

/-- Opening brackets. -/
def isOpener (char : Char) : Bool := char = '(' || char = '[' || char = '\x7b'

/-- Closing brackets. -/
def isCloser (char : Char) : Bool := char = ')' || char = ']' || char = '\x7d'

/-- How many more brackets a line opens than it closes. -/
def bracketBalance (line : Text) : Int :=
  ((line.filter isOpener).length : Int) - (line.filter isCloser).length

/-- What lines end in behind which a statement may end. -/
def statementEndings : List Text := [[';'], ['\x7d'], ['/', '>'], ['>'], [')']]

/-- Whether a statement may end behind a line. -/
def mayEnd (line : Text) : Bool :=
  let body := trimRight line
  body.isEmpty || endsWithAny statementEndings body

/-- The statements among lines, each as its lines; `current` are the lines of an open statement,
last first, and `depth` counts its open brackets. -/
def statementsFrom : List Text → Int → List Text → List (List Text)
  | current, _, [] => if current.isEmpty then [] else [current.reverse]
  | current, depth, line :: rest =>
    if current.isEmpty && isBlankText line then statementsFrom [] depth rest
    else
      let depth := depth + bracketBalance line
      if depth ≤ 0 && mayEnd line then (line :: current).reverse :: statementsFrom [] 0 rest
      else statementsFrom (line :: current) depth rest

/-- The statements of a piece of code. -/
def statements (code : Text) : List Text :=
  ((statementsFrom [] 0 (lines code)).map fun rows => trim (joinLines rows)).filter
    (!·.isEmpty)

/-! ### Import statements -/

/-- A single or a double quote. -/
def isQuote (char : Char) : Bool := char = '\'' || char = '"'

/-- The word that starts an import. -/
def importWord : Text := ['i', 'm', 'p', 'o', 'r', 't']

/-- Whether a line starts an import statement. -/
def startsImport (line : Text) : Bool :=
  match dropPrefix? importWord (trimLeft line) with
  | some rest => !rest.head?.any isWord
  | none => false

/-- A text, last character first, without blanks and without one semicolon at its start. -/
def skipEnding (reversed : Text) : Text :=
  match trimLeft reversed with
  | ';' :: rest => trimLeft rest
  | rest => rest

/-- Whether a line ends an import statement: in a quoted text, possibly with a semicolon. -/
def endsImport (line : Text) : Bool :=
  match skipEnding line.reverse with
  | quote :: rest =>
    let inner := rest.takeWhile (!isQuote ·)
    isQuote quote && !inner.isEmpty && inner.length < rest.length
  | [] => false

/-- The import statements among lines, each as its lines; `current` are the lines of an open
statement, last first. A statement without an end is none. -/
def importsFrom : List Text → List Text → List (List Text)
  | _, [] => []
  | current, line :: rest =>
    if current.isEmpty && !startsImport line then importsFrom [] rest
    else if endsImport line then (line :: current).reverse :: importsFrom [] rest
    else importsFrom (line :: current) rest

/-- The import statements of a piece of code. -/
def imports (code : Text) : List Text :=
  (importsFrom [] (lines code)).map fun statement => trim (joinLines (statement.map trimRight))

/-- The ranges of lines that import statements take, first and last line, among the lines from an
index on; `start` is the first line of an open statement. -/
def importRangesFrom : Nat → Option Nat → List Text → List (Nat × Nat)
  | _, _, [] => []
  | index, start, line :: rest =>
    if start.isNone && !startsImport line then importRangesFrom (index + 1) none rest
    else
      let first := start.getD index
      if endsImport line then (first, index) :: importRangesFrom (index + 1) none rest
      else importRangesFrom (index + 1) (some first) rest

/-- The ranges of lines that import statements take. -/
def importRanges (rows : List Text) : List (Nat × Nat) := importRangesFrom 0 none rows

/-- A piece of code without its import statements. -/
def withoutImports (code : Text) : Text :=
  (imports code).foldl (fun rest statement => replace statement [] rest) code

end GuidedMigration.Code
