/-
This file collects what the guides contribute to the configuration. Contributions are kept in order
and none is discarded. The template holds them with their placeholders; once a value is known for
one of the placeholders, a local document stands beside the template in which the known values are
filled in.

What the local document has beyond its template is carried back to the template without its values:
every key stays, so that both have the same keys, and every leaf becomes a placeholder named after
the keys on the way to it.
-/
import GuidedMigration.Config.Document
import GuidedMigration.Value.Display
import GuidedMigration.Value.Placeholder

namespace GuidedMigration.Config

/-! ### What a local document has beyond its template -/

/-- The placeholder named after the keys on the way to a leaf. -/
def leafPlaceholder (path : List Text) : Value :=
  .text (Placeholder.ofName (Placeholder.nameOf (Text.joinWith ['_'] path)))

mutual

/-- A value that stands at `path`, with every leaf replaced by its placeholder. A mapping without
entries is a leaf. -/
def asPlaceholders (path : List Text) : Value → Value
  | .map [] => leafPlaceholder path
  | .map (entry :: rest) => .map (entriesAsPlaceholders path (entry :: rest))
  | .scalar _ => leafPlaceholder path
  | .list _ => leafPlaceholder path
  | .set _ => leafPlaceholder path

/-- The entries of a mapping that stands at `path`, with every leaf replaced by its placeholder. -/
def entriesAsPlaceholders (path : List Text) : List (Scalar × Value) → List (Scalar × Value)
  | [] => []
  | (key, value) :: rest =>
    (key, asPlaceholders (path ++ [key.display]) value) :: entriesAsPlaceholders path rest

end

mutual

/-- What a local value has beyond what the template holds at its key, if it has anything. -/
def carriedValue (path : List Text) (held : Option Value) : Value → Option Value
  | .map entries => match held with
    | none => some (asPlaceholders path (.map entries))
    | some (.scalar .null) => some (asPlaceholders path (.map entries))
    | some (.map template) => match carriedEntries path template entries with
      | [] => none
      | extra => some (.map extra)
    | some _ => none
  | .scalar leaf => if held.isNone then some (asPlaceholders path (.scalar leaf)) else none
  | .list items => if held.isNone then some (asPlaceholders path (.list items)) else none
  | .set members => if held.isNone then some (asPlaceholders path (.set members)) else none

/-- What the entries of a local mapping have beyond the template. -/
def carriedEntries (path : List Text) (template : Mapping) : List (Scalar × Value) → Mapping
  | [] => []
  | (key, value) :: rest =>
    match carriedValue (path ++ [key.display]) (Mapping.get? key template) value with
    | some extra => (key, extra) :: carriedEntries path template rest
    | none => carriedEntries path template rest

end

/-- What a local document has beyond its template, with placeholders for its leaves. -/
def carried (template locals : Mapping) : Mapping := carriedEntries [] template locals

/-! ### Contributions -/

/-- A contribution: what it is called, its fragment, and the values that were known for it. -/
structure Contribution where
  label : Text
  fragment : Mapping
  values : Placeholder.Values

namespace Contribution

/-- Whether a value is known for a placeholder of the fragment. -/
def hasLiterals (contribution : Contribution) : Bool :=
  contribution.fragment.placeholders.any fun name => (contribution.values.get? name).isSome

/-- The fragment with the known values filled in. -/
def localFragment (contribution : Contribution) : Mapping :=
  contribution.fragment.fill contribution.values

end Contribution

/-- The contributions of a migration, in order. -/
abbrev Contributions := List Contribution

namespace Contributions

/-- Whether a local document stands beside the template. -/
def isDual (contributions : Contributions) : Bool := contributions.any (·.hasLiterals)

/-- The values known to the contributions. -/
def values (contributions : Contributions) : Placeholder.Values :=
  contributions.foldl (fun merged contribution => merged.update contribution.values) []

/-- The fragments merged in order. -/
def templateFragment (contributions : Contributions) : Mapping :=
  contributions.foldl (fun document contribution => document.merge contribution.fragment) []

/-- The fragments with the known values filled in, merged in order. -/
def localFragment (contributions : Contributions) : Mapping :=
  contributions.foldl (fun document contribution => document.merge contribution.localFragment) []

/-- A template and a local document. -/
structure Pair where
  template : Mapping
  locals : Mapping

/-- The template and the local document that follow from those that are there. -/
def pairFrom (contributions : Contributions) (template locals : Mapping) : Pair :=
  let seed := (template.fill contributions.values).merge locals
  let filled := seed.merge contributions.localFragment
  let merged := template.merge contributions.templateFragment
  ⟨merged.merge (carried merged filled), filled⟩

/-- Writes the template and the local document; nothing if there is to be no local document. -/
def build (contributions : Contributions) (templatePath localPath : Path) :
    Files (Option Pair) := do
  if contributions.isDual then
    let template ← load templatePath
    let locals ← load localPath
    let pair := contributions.pairFrom template locals
    let _ ← write templatePath pair.template
    let _ ← write localPath pair.locals
    pure (some pair)
  else pure none

/-- Merges the fragments into a document one by one. -/
def mergeEach (path : Path) : Contributions → Files Unit
  | [] => pure ()
  | contribution :: rest => do
    let _ ← mergeInto path contribution.fragment
    mergeEach path rest

/-- Writes what has been contributed: both documents, or the template alone. -/
def flush (contributions : Contributions) (templatePath localPath : Path) :
    Files (Option Pair) := do
  if contributions.isDual then contributions.build templatePath localPath
  else
    mergeEach templatePath contributions
    pure none

end Contributions

end GuidedMigration.Config
