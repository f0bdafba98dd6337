/-
This file copies files and directories inside a tree. A directory is copied into one that is there,
entry by entry; names that match an excluded pattern are left out. A copy that fails does not stop
the others: all failed copies are reported together at the end.
-/
import GuidedMigration.Text.Glob
import GuidedMigration.Tree.Files

namespace GuidedMigration.Files

open Text

/-- Whether something stands at a path; nothing does at one that cannot be. -/
def stands (path : Path) : Files Bool := fun tree =>
  (.ok ((tree.exists? path).toOption.getD false), tree)

/-- A directory and those above it, made one after the other from the outermost missing one on. The
last part of the path comes first. -/
def makeAllFrom (root : Text) : List Text → Files Unit
  | [] => ensureOne ⟨root, []⟩
  | last :: above => do
    let path : Path := ⟨root, (last :: above).reverse⟩
    let outer : Path := ⟨root, above.reverse⟩
    if !above.isEmpty then do
      if !(← stands outer) then
        tryCatch (makeAllFrom root above) fun failure => match failure with
          | .file (.system .taken _) => pure ()
          | other => throw other
    ensureOne path

/-- Makes a directory and those above it for a copy. -/
def makeAll (path : Path) : Files Unit := makeAllFrom path.root path.parts.reverse

/-- Where a file goes that is copied to a path: into the directory there, if there is one. -/
def copyTarget (source destination : Path) : Files Path := do
  if ← isDirectory? destination then
    pure { destination with parts := destination.parts ++ [source.name] }
  else pure destination

/-- Whether two paths lead to one file. -/
def isSame (source destination : Path) : Files Bool := fun tree =>
  (.ok (match tree.place source, tree.place destination with
    | .ok left, .ok right => left = right && (tree.find? left).isSome
    | _, _ => false), tree)

/-- A path as it stands in the report on a file copied to itself. -/
def pathLabel (path : Path) : Text :=
  "PosixPath(".toList ++ quoted path.toText ++ [')']

/-- Copies one file to a path or into the directory there. `label` says how the two are named in the
report on a file copied to itself. -/
def copyFile (label : Path → Path → Text × Text) (source destination : Path) : Files Unit := do
  let target ← copyTarget source destination
  if ← isSame source target then
    let (left, right) := label source target
    throw (.file (.sameFile left right))
  let content ← bytes source
  change (·.writeBytes target content)

/-- The names of a copied file and its target inside a directory. -/
def entryLabel (source target : Path) : Text × Text :=
  ("<DirEntry ".toList ++ quoted source.name ++ ['>'], quoted target.toText)

/-- The names of a file that is copied alone and its target; the target is a written path once a
name has been added to it. -/
def fileLabel (destination source target : Path) : Text × Text :=
  (pathLabel source,
    if target = destination then pathLabel target else quoted target.toText)

/-- Runs the copy of one entry and gives the lines that it adds to the report. The report on a file
copied to itself is added character by character. -/
def attempt (source destination : Path) (copy : Files Unit) : Files (List FailedCopy) :=
  tryCatch (do copy; pure []) fun failure => match failure with
    | .file (.copies failed) => pure failed
    | .file (.sameFile left right) =>
      pure ((FileFault.sameFile left right).message.map FailedCopy.letter)
    | .file (.system cause path) =>
      pure [.entry source.toText destination.toText (FileFault.system cause path).message]
    | other => throw other

/-- Whether a name is left out of a copy. -/
def isExcluded (excluded : List Text) (name : Text) : Bool := excluded.any (globMatches · name)

/-- The names in a directory. -/
def namesIn (path : Path) : Files (List Text) := fun tree =>
  match tree.place path with
  | .error fault => (.error (.file fault), tree)
  | .ok place => match tree.find? place with
    | some .directory => (.ok (tree.names place), tree)
    | some (.file _) => (.error (.file (.system .notDirectory path.toText)), tree)
    | none => (.error (.file (.system .absent path.toText)), tree)

/-- Copies the entries of a directory, directories among them by `copyInner`, and gives the report.
-/
def copyEntries (copyInner : Path → Path → Files Unit) (source destination : Path) :
    List Text → Files (List FailedCopy)
  | [] => pure []
  | name :: names => do
    let left : Path := { source with parts := source.parts ++ [name] }
    let right : Path := { destination with parts := destination.parts ++ [name] }
    let failed ← attempt left right (do
      if ← isDirectory? left then copyInner left right
      else copyFile entryLabel left right)
    let others ← copyEntries copyInner source destination names
    pure (failed ++ others)

/-- Copies a directory, down to a depth. -/
def copyDirectory (excluded : List Text) : Nat → Path → Path → Files Unit
  | 0, _, _ => pure ()
  | depth + 1, source, destination => do
    let names ← namesIn source
    makeAll destination
    let failed ← copyEntries (copyDirectory excluded depth) source destination
      (names.filter (!isExcluded excluded ·))
    if !failed.isEmpty then throw (.file (.copies failed))

/-- Copies a file or a directory. The copies in a directory are no deeper than the tree has entries,
unless a directory is copied into itself. -/
def copy (excluded : List Text) (source destination : Path) : Files Unit := do
  if ← isDirectory? source then do
    let depth ← ask fun tree => .ok (tree.entries.length + 1)
    copyDirectory excluded depth source destination
  else do
    ensureDirectory destination.parent
    copyFile (fileLabel destination) source destination

end GuidedMigration.Files
