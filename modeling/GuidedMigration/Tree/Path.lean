/-
This file says what a path is: whether it starts at the root, and its parts. Empty parts and parts
that are a single dot are dropped when a path is read, so that two spellings of one path are equal;
two dots are kept, because what they mean depends on the tree.
-/
import GuidedMigration.Text.Basic

namespace GuidedMigration

/-- A path: the slashes it starts with, which are none for a relative path, and its parts. -/
structure Path where
  root : Text
  parts : List Text
  deriving DecidableEq

namespace Path

/-- The part that leads one level up. -/
def up : Text := ['.', '.']

/-- The root that the slashes at the start of a text stand for; exactly two of them are kept. -/
def rootOf (text : Text) : Text :=
  match (text.takeWhile (· = '/')).length with
  | 0 => []
  | 2 => ['/', '/']
  | _ => ['/']

/-- Reads a path. -/
def ofText (text : Text) : Path :=
  ⟨rootOf text, (Text.splitOn '/' text).filter fun part => !part.isEmpty && part != ['.']⟩

/-- Whether a path starts at the root. -/
def isAbsolute (path : Path) : Bool := !path.root.isEmpty

/-- A path as text; the empty path is a dot. -/
def toText (path : Path) : Text :=
  if path.root.isEmpty && path.parts.isEmpty then ['.']
  else path.root ++ Text.joinWith ['/'] path.parts

/-- A path seen from another one; an absolute path stays itself. -/
def join (base path : Path) : Path :=
  if path.isAbsolute then path else { base with parts := base.parts ++ path.parts }

/-- A written path seen from another one. -/
def child (base : Path) (text : Text) : Path := base.join (ofText text)

/-- The path one level up. -/
def parent (path : Path) : Path := { path with parts := path.parts.dropLast }

/-- The last part of a path. -/
def name (path : Path) : Text := (path.parts.getLast?).getD []

/-- A name cut before its last dot, if something stands on both sides of it. -/
def splitName (name : Text) : Text × Text :=
  let ending := name.reverse.takeWhile (· != '.')
  let stem := name.take (name.length - ending.length - 1)
  if ending.isEmpty || stem.isEmpty then (name, []) else (stem, '.' :: ending.reverse)

/-- The ending of the last part with its dot. -/
def suffix (path : Path) : Text := (splitName path.name).2

/-- The last part without its ending. -/
def stem (path : Path) : Text := (splitName path.name).1

/-- The order of lists of parts, part by part. -/
def leParts : List Text → List Text → Bool
  | [], _ => true
  | _ :: _, [] => false
  | first :: rest, other :: others =>
    if first = other then leParts rest others else Text.le first other

/-- The order of paths by their parts. -/
def le (left right : Path) : Bool :=
  leParts (left.root :: left.parts) (right.root :: right.parts)

/-! ### Places -/

/-- A place in a tree: the names that lead to it from the root. -/
abbrev Place := List Text

/-- The place that the parts of a path lead to from another place, where two dots lead one level up
whatever the tree holds. -/
def follow (start : Place) (parts : List Text) : Place :=
  parts.foldl (fun place part => if part = up then place.dropLast else place ++ [part]) start

/-- The place of a path seen from a working directory. -/
def placeFrom (directory : Place) (path : Path) : Place :=
  follow (if path.isAbsolute then [] else directory) path.parts

/-- Whether a path leads to a place at or below the one that another path leads to. -/
def isWithin (directory : Place) (root path : Path) : Bool :=
  (root.placeFrom directory).isPrefixOf (path.placeFrom directory)

end Path

end GuidedMigration
