/-
This file names the dialects of Markdown in which guides may be written. They differ in whether HTML
is recognised, in tables and struck-out text, and in how deeply blocks may be nested.
-/
import GuidedMigration.Text.Basic

namespace GuidedMigration.Markdown

/-- A dialect. A plain dialect knows nothing but paragraphs. -/
structure Dialect where
  isPlain : Bool
  html : Bool
  tables : Bool
  strikethrough : Bool
  depth : Nat
  deriving DecidableEq

namespace Dialect

/-- The standard without extensions. -/
def commonmark : Dialect := ⟨false, true, false, false, 20⟩

/-- The standard with tables and struck-out text. -/
def extended : Dialect := ⟨false, true, true, true, 20⟩

/-- The extended dialect without HTML, nested more deeply. -/
def safe : Dialect := ⟨false, false, true, true, 100⟩

/-- Paragraphs alone. -/
def plain : Dialect := ⟨true, false, false, false, 20⟩

/-- The dialects by name. -/
def named : List (Text × Dialect) :=
  [("commonmark".toList, commonmark), ("gfm-like".toList, extended), ("js-default".toList, safe),
    ("default".toList, safe), ("zero".toList, plain)]

/-- The dialect with a name. -/
def ofName? (name : Text) : Option Dialect := named.lookup name

end Dialect

end GuidedMigration.Markdown
