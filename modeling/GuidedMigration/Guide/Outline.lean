/-
This file lays out the sections of a guide over its lines. A heading of the second level or deeper,
down to a level that can be chosen, opens a section, which goes on to the next such heading; the
lines before the first one are the preamble.
-/
import GuidedMigration.Text.Basic

namespace GuidedMigration.Guide

/-- A heading: its level, its first line, the line behind it, and its text. -/
structure Heading where
  level : Nat
  first : Nat
  last : Nat
  text : Text
  deriving DecidableEq

/-- Where a section stands: its heading, the first line of its body, and the line behind it. -/
structure Span where
  heading : Heading
  stop : Nat
  deriving DecidableEq

namespace Span

/-- The title of a section. -/
def title (span : Span) : Text := span.heading.text

/-- The first line of the body. -/
def start (span : Span) : Nat := span.heading.last

/-- The lines of the body among the lines of the guide. -/
def body (lines : List Text) (span : Span) : List Text := (lines.take span.stop).drop span.start

end Span

/-- Whether a heading opens a section. -/
def Heading.opens (deepest : Nat) (heading : Heading) : Bool :=
  2 ≤ heading.level && heading.level ≤ deepest

/-- The spans that opening headings have in a guide of so many lines. -/
def spansOf (count : Nat) : List Heading → List Span
  | [] => []
  | [heading] => [⟨heading, count⟩]
  | heading :: next :: rest => ⟨heading, next.first⟩ :: spansOf count (next :: rest)

/-- How a guide is laid out: the line behind its preamble, and its sections. -/
structure Outline where
  preambleEnd : Nat
  spans : List Span
  deriving DecidableEq

/-- The layout of a guide of so many lines with some headings. -/
def outline (headings : List Heading) (count deepest : Nat) : Outline :=
  let opening := headings.filter (·.opens deepest)
  ⟨match opening with
    | [] => count
    | heading :: _ => heading.first, spansOf count opening⟩

/-- The title of a guide: the text of its first heading of the first level, if it has one. -/
def titleOf? (headings : List Heading) : Option Text :=
  ((headings.find? (·.level = 1)).map (·.text)).filter (!·.isEmpty)

end GuidedMigration.Guide
