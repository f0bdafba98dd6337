/-
This file reads a guide: its title, its sections, its steps, its blocks of code, its links, and what
it requires and refers to. A guide that lacks one of these is still read; what a well-formed guide
should have and this one has not can be asked for.
-/
import GuidedMigration.Digest.Sha256
import GuidedMigration.Guide.Requirement
import GuidedMigration.Guide.Steps
import GuidedMigration.Markdown.Block
import GuidedMigration.Markdown.Inline
import GuidedMigration.Text.Utf8

namespace GuidedMigration

/-- A guide. -/
structure Document where
  path : Text
  title : Text
  sections : List Section
  steps : List Step
  blocks : List CodeBlock
  links : List Link
  requirements : List Text
  providers : List ProviderReference
  hash : Text
  deriving DecidableEq

namespace Document

open Text Guide Markdown

/-- The title of a guide without a title. -/
def untitled : Text := "Untitled Document".toList

/-! ### Leaves of the text -/

/-- A text as its blocks are found in: newlines are one character, and no character is null. -/
def prepare (text : Text) : Text :=
  (unifyNewlines text).map fun char => if char.toNat = 0 then Char.ofNat 0xFFFD else char

/-- The headings among blocks. -/
def headings (leaves : List Leaf) : List Heading :=
  leaves.filterMap fun
    | .heading level first last content => some ⟨level, first, last, content⟩
    | _ => none

/-- The language that the words behind a fence name: the first of them in small letters. -/
def languageOf (info : Text) : Text := lower ((trim info).takeWhile (· != ' '))

/-- The blocks of code among blocks. -/
def codeBlocks (leaves : List Leaf) : List CodeBlock :=
  leaves.filterMap fun
    | .code info content first =>
      let language := (info.map languageOf).getD []
      some ⟨if language.isEmpty then "text".toList else language, content, some (first : Int)⟩
    | _ => none

/-! ### Reading -/

/-- The section that a span of the lines is. -/
def sectionOf (lines : List Text) (span : Span) : Except LongInteger Section := do
  let body := span.body lines
  let steps ← Guide.steps span.start body
  .ok ⟨span.title, span.heading.level, trimWhile (· = '\n') (joinLines body), steps,
    span.heading.first⟩

/-- The guide that a text is. Sections open at headings down to the level `deepest`. -/
def ofText (dialect : Dialect) (deepest : Nat) (path text : Text) :
    Except LongInteger Document := do
  let (leaves, definitions) := blocksOf dialect (prepare text)
  let lines := Text.lines text
  let outline := outline (headings leaves) lines.length deepest
  let sections ← outline.spans.mapM (sectionOf lines)
  let preamble ← Guide.steps 0 (lines.take outline.preambleEnd)
  let links := (leaves.filterMap Leaf.prose?).flatMap (Inline.links dialect definitions)
  .ok {
    path := path
    title := (titleOf? (headings leaves)).getD untitled
    sections := sections
    steps := preamble ++ sections.flatMap (·.steps)
    blocks := codeBlocks leaves
    links := links
    requirements := Guide.requirements lines outline.spans
    providers := providerReferences links text
    hash := Sha256.digest (Utf8.encode text) }

/-! ### Issues -/

/-- The sections that a guide should have. -/
def expectedSections : List Text := ["overview", "setup", "configuration"].map String.toList

/-- What a guide lacks. -/
def issues (document : Document) : List Text :=
  let titles := joinWith [' '] (document.sections.map fun part => lower part.title)
  (if document.title = untitled then ["Document has no title".toList] else []) ++
    (if document.sections.isEmpty then ["Document has no sections".toList] else []) ++
    (if document.steps.isEmpty then ["Document has no actionable steps".toList] else []) ++
    (expectedSections.filter (!occursIn · titles)).map fun name =>
      "Missing ".toList ++ name ++ " section".toList

end Document

end GuidedMigration
