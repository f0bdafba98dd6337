/-
This file defines what a setup guide consists of: steps, which tell the reader to do something,
code blocks, sections, links, and references to the guides of providers. Lines are counted from
zero; a part of a guide may be counted from any line.
-/
import GuidedMigration.Text.Basic

namespace GuidedMigration

/-- A block of code with its language; `line` is the line of its opening fence. -/
structure CodeBlock where
  language : Text
  content : Text
  line : Option Int
  deriving DecidableEq

/-- A step of a guide: numbered, or a bullet that tells to do something. The block of code that
belongs to it is its snippet. -/
structure Step where
  number : Option Nat
  text : Text
  snippet : Option CodeBlock
  line : Option Int
  deriving DecidableEq

/-- A section: what stands below a heading of the second level or deeper. -/
structure Section where
  title : Text
  level : Nat
  content : Text
  steps : List Step
  line : Nat
  deriving DecidableEq

/-- A link: what it shows and where it leads. -/
structure Link where
  text : Text
  target : Text
  deriving DecidableEq

/-- A reference to the guide of a provider, by its file; the provider is what the file's name
starts with. -/
structure ProviderReference where
  name : Text
  file : Text
  deriving DecidableEq

end GuidedMigration
