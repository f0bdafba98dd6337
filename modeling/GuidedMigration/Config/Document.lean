/-
This file reads and writes configuration documents. A missing document is an empty one, and a
document is written only when its content changes, so that what needs no change keeps its comments.
-/
import GuidedMigration.Tree.Files
import GuidedMigration.Value.Basic
import GuidedMigration.Yaml.Reader
import GuidedMigration.Yaml.Writer

namespace GuidedMigration.Config

/-- The mapping that the text of a document writes. A value that counts as absent is an empty
mapping. -/
def mappingOf (path : Path) (text : Text) : Except Failure Mapping :=
  match Yaml.read text with
  | .error .malformed => .error (.malformed (.yaml path))
  | .error fault => .error (.yaml fault)
  | .ok (.map entries) => .ok entries
  | .ok value =>
    if value.isTruthy then .error (.malformed (.notMapping path value.typeName)) else .ok []

/-- The document at a path. -/
def load (path : Path) : Files Mapping := do
  if ← Files.exists? path then
    let text ← Files.read path
    ExceptT.mk (pure (mappingOf path text))
  else pure []

/-- The text of a document. -/
def documentText (document : Mapping) : Text := Yaml.write (.map document)

/-- Whether a document can be written: no integer in it is too long. -/
def isWritable (document : Mapping) : Bool := !Value.holdsLongInteger (.map document)

/-- Writes a document to a file; one that cannot be written is refused, and nothing is touched. -/
def writeDocument (path : Path) (document : Mapping) : Files Unit :=
  if isWritable document then Files.write path (documentText document)
  else throw (.value .unwritableInteger)

/-- Writes a document unless the file holds an equal one, and says whether it did. -/
def write (path : Path) (document : Mapping) : Files Bool := do
  if ← Files.exists? path then
    let held ← load path
    if Value.agrees (.map held) (.map document) then return false
  writeDocument path document
  pure true

/-- Merges a fragment into the document at a path, and says whether that changed it. -/
def mergeInto (path : Path) (fragment : Mapping) : Files Bool := do
  let held ← load path
  let merged := Mapping.merge held fragment
  if ← Files.exists? path then
    if Value.agrees (.map merged) (.map held) then return false
  writeDocument path merged
  pure true

end GuidedMigration.Config
