/-
This file copies files and directories from the source of a migration to its destination. Nothing is
copied out of the destination's tree, a file that is already there unchanged is left alone, and some
sources may be missing.
-/
import GuidedMigration.Digest.Sha256
import GuidedMigration.Target.Outcome
import GuidedMigration.Tree.Copy

namespace GuidedMigration.Target

open Text

/-- Whether a source may be missing: its path or its name matches one of the patterns. -/
def isOptional (patterns : List Text) (relative : Text) : Bool :=
  let path := Path.ofText (relative.map fun char => if char = '\\' then '/' else char)
  patterns.any fun pattern => globMatches pattern path.toText || globMatches pattern path.name

/-- The digest of the file at a path. -/
def digest (path : Path) : Files Text := do
  let bytes ← Files.bytes path
  pure (Sha256.digest bytes)

/-- Whether a file stands at the second path that has the digest of the first. -/
def isSameFile (source destination : Path) : Files Bool := do
  if ← Files.isFile? destination then do
    let left ← digest source
    let right ← digest destination
    pure (left = right)
  else pure false

/-- What may be left out of a copy, and whether the whole of it may be missing. -/
structure CopyRules where
  excluded : List Text
  optionalAssets : List Text
  isOptional : Bool

/-- Whether a path stays inside the destination. A path with a null character leads nowhere. -/
def staysInside (root path : Path) : Bool :=
  !(path.parts ++ root.parts).any (·.contains '\x00') && Path.isWithin Tree.here root path

/-- Copies a path of the source to a path of the destination. -/
def copyPath (sourceRoot destinationRoot : Path) (rules : CopyRules) (source destination : Text) :
    Files Outcome := do
  let origin := sourceRoot.child source
  let target := destinationRoot.child destination
  let outcome (strategy : Text) (status : Status) (detail : Text) : Outcome :=
    ⟨target.toText, "copy".toList, strategy, status, detail⟩
  if !staysInside destinationRoot target then throw (.refused (.outside destination))
  if !(← Files.exists? origin) then
    if rules.isOptional || isOptional rules.optionalAssets source then
      return outcome "optional".toList .skipped ("optional source missing: ".toList ++ source)
    else throw (.sourceAbsent origin)
  let isDirectory ← Files.isDirectory? origin
  if !isDirectory then
    if ← isSameFile origin target then return outcome "present".toList .skipped []
  Files.copy rules.excluded origin target
  pure (outcome (if isDirectory then "directory".toList else "file".toList) .applied [])

end GuidedMigration.Target
