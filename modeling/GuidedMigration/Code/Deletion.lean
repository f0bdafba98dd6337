/-
This file deletes code. A deletion pattern is a list of pieces that are matched one behind the
other: characters, quotes of either style, gaps of blanks, the edge of a word, the start or end of a
line, and one piece that reaches over as little text as possible. Every occurrence of a pattern is
removed; if there was any, runs of blank lines shrink to one.
-/
import GuidedMigration.Text.Lines

namespace GuidedMigration.Code

open Text

/-- A piece of a deletion pattern. -/
inductive PatternPiece where
  | char (char : Char)
  | oneOf (chars : List Char)
  | optional (char : Char)
  | gap
  | blanks
  | margin
  | wordEdge
  | lineStart
  | lineEnd
  | upTo (stop : Char)
  deriving DecidableEq

/-- A deletion pattern. -/
abbrev Pattern := List PatternPiece

/-- A place in a text: the character before it and the text from there on. -/
structure Place where
  before : Option Char
  rest : Text
  deriving DecidableEq

namespace Place

/-- The place behind the next character. -/
def next? (place : Place) : Option (Char × Place) :=
  match place.rest with
  | [] => none
  | char :: rest => some (char, ⟨some char, rest⟩)

/-- The place behind the characters from here on that satisfy `skip`, reading `rest`. -/
def skipFrom (skip : Char → Bool) : Option Char → Text → Place
  | before, [] => ⟨before, []⟩
  | before, char :: rest =>
    if skip char then skipFrom skip (some char) rest else ⟨before, char :: rest⟩

/-- The place behind the characters from here on that satisfy `skip`. -/
def skip (skip : Char → Bool) (place : Place) : Place := skipFrom skip place.before place.rest

end Place

/-- The first place, from a place on, from which `continue?` succeeds, reached over characters other
than `stop`. -/
def reach? (stop : Char) (continue? : Place → Option Place) : Option Char → Text → Option Place
  | before, [] => continue? ⟨before, []⟩
  | before, char :: rest =>
    match continue? ⟨before, char :: rest⟩ with
    | some place => some place
    | none => if char = stop then none else reach? stop continue? (some char) rest

/-- The place behind a piece matched at a place, from which `continue?` succeeds. -/
def PatternPiece.match? (piece : PatternPiece) (continue? : Place → Option Place) (place : Place) :
    Option Place :=
  match piece with
  | .char wanted => match place.next? with
    | some (found, behind) => if found = wanted then continue? behind else none
    | none => none
  | .oneOf chars => match place.next? with
    | some (found, behind) => if chars.contains found then continue? behind else none
    | none => none
  | .optional wanted => match place.next? with
    | some (found, behind) => if found = wanted then continue? behind else continue? place
    | none => continue? place
  | .gap => continue? (place.skip isBlank)
  | .blanks => match place.next? with
    | some (found, behind) =>
      if isBlank found then continue? (behind.skip isBlank) else none
    | none => none
  | .margin => continue? (place.skip isSpaceOrTab)
  | .wordEdge => if isWordEdge place.before place.rest.head? then continue? place else none
  | .lineStart => if place.before.all (· = '\n') then continue? place else none
  | .lineEnd => if place.rest.head?.all (· = '\n') then continue? place else none
  | .upTo stop => reach? stop continue? place.before place.rest

/-- The place behind a pattern matched at a place. -/
def Pattern.match? : Pattern → Place → Option Place
  | [], place => some place
  | piece :: rest, place => piece.match? (Pattern.match? rest) place

/-! ### Patterns -/

/-- What may stand behind deleted code and goes with it: a semicolon, blanks and a newline. -/
def tail : Pattern := [.optional ';', .margin, .optional '\n']

/-- Characters as pieces. -/
def exactly (text : Text) : Pattern := text.map .char

/-- The three quotes. -/
def quotes : List Char := ['\'', '"', '\x60']

/-- The brackets and the comma, around which blanks do not matter. -/
def isLoose (char : Char) : Bool :=
  ['(', '[', '\x7b', ',', ')', ']', '\x7d'].contains char

/-- The pieces for a character of code whose layout does not matter. -/
def loosePieces (char : Char) : Pattern :=
  if quotes.contains char then [.oneOf quotes]
  else if isBlank char then [.gap]
  else if isLoose char then [.gap, .char char, .gap]
  else [.char char]

/-- A pattern with one gap for every run of gaps. -/
def mergeGaps : Pattern → Pattern
  | [] => []
  | .gap :: rest => match mergeGaps rest with
    | .gap :: more => .gap :: more
    | merged => .gap :: merged
  | piece :: rest => piece :: mergeGaps rest

/-- The code of a snippet without semicolons at its end. -/
def snippetBody (snippet : Text) : Text := trimRightWhile (· = ';') (trim snippet)

/-- The same code with any layout and any style of quotes. -/
def loosely (code : Text) : Pattern := mergeGaps (code.flatMap loosePieces)

/-- The patterns of a snippet, the strictest first. -/
def snippetPatterns (snippet : Text) : List Pattern :=
  let body := snippetBody snippet
  if body.isEmpty then [] else [exactly body ++ tail, loosely body ++ tail]

/-- A module between quotes. -/
def quotedModule (name : Text) : Pattern :=
  .oneOf ['"', '\''] :: exactly name ++ [.oneOf ['"', '\'']]

/-- The patterns of the registration of a module. -/
def registrationPatterns (name : Text) : List Pattern :=
  let backend := exactly "backend.add(".toList
  let load := exactly "import(".toList
  [backend ++ [.gap] ++ load ++ [.gap] ++ quotedModule name ++ [.gap, .char ')', .gap, .char ')'] ++
      tail,
    backend ++ [.gap] ++ quotedModule name ++ [.gap, .char ')'] ++ tail,
    load ++ [.gap] ++ quotedModule name ++ [.gap, .char ')', .optional ',', .margin,
      .optional '\n']]

/-- The patterns of imports from a module. -/
def importPatterns (name : Text) : List Pattern :=
  let start : Pattern := [.lineStart, .margin] ++ exactly "import".toList
  [start ++ [.wordEdge, .upTo ';', .wordEdge] ++ exactly "from".toList ++ [.blanks] ++
      quotedModule name ++ tail,
    start ++ [.blanks] ++ quotedModule name ++ tail]

/-- The pattern of lines that are a text, blanks around it aside. -/
def linePattern (line : Text) : Pattern :=
  [.lineStart, .margin] ++ exactly (trim line) ++ [.margin, .lineEnd, .optional '\n']

/-! ### Deleting -/

/-- A text from a place on with every occurrence of a pattern removed, and their number; `skip`
characters still belong to the last occurrence. An empty occurrence counts and removes nothing. -/
def deleteFrom (pattern : Pattern) : Nat → Option Char → Text → Text × Nat
  | 0, before, [] => match Pattern.match? pattern ⟨before, []⟩ with
    | some _ => ([], 1)
    | none => ([], 0)
  | _ + 1, _, [] => ([], 0)
  | skip + 1, _, char :: rest => deleteFrom pattern skip (some char) rest
  | 0, before, char :: rest =>
    match Pattern.match? pattern ⟨before, char :: rest⟩ with
    | some behind =>
      let size := (char :: rest).length - behind.rest.length
      if size = 0 then
        let (kept, count) := deleteFrom pattern 0 (some char) rest
        (char :: kept, count + 1)
      else
        let (kept, count) := deleteFrom pattern (size - 1) (some char) rest
        (kept, count + 1)
    | none =>
      let (kept, count) := deleteFrom pattern 0 (some char) rest
      (char :: kept, count)

/-- A content with every occurrence of a pattern removed, and their number. -/
def deletePattern (content : Text) (pattern : Pattern) : Text × Nat :=
  deleteFrom pattern 0 none content

/-- A content with runs of blank lines shrunk to one. -/
def collapseBlankLines (content : Text) : Text := collapseNewlines 0 content

/-- A content with every occurrence of every pattern removed, one pattern after the other, and their
number. -/
def deletePatterns (content : Text) (patterns : List Pattern) : Text × Nat :=
  let (kept, count) := patterns.foldl (fun (content, total) pattern =>
    let (kept, count) := deletePattern content pattern
    (kept, total + count)) (content, 0)
  (if count = 0 then kept else collapseBlankLines kept, count)

end GuidedMigration.Code
