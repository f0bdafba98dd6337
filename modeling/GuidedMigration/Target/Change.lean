/-
This file changes single files of the destination: it inserts a fragment of code or deletes what
patterns match. A file that needs no change is not written.
-/
import GuidedMigration.Code.Deletion
import GuidedMigration.Code.Primitive
import GuidedMigration.Target.Outcome
import GuidedMigration.Text.Difference
import GuidedMigration.Tree.Files

namespace GuidedMigration.Target

open Text

/-- The text of a file that must be there. -/
def existing (path : Path) (missing : Refusal) : Files Text := do
  if ← Files.exists? path then Files.read path else throw (.refused missing)

/-- The kind of fragment with a name. -/
def primitiveNamed (name : Text) : Except Failure Code.Primitive :=
  match Code.Primitive.ofName? name with
  | some primitive => .ok primitive
  | none => .error (.mismatch .primitive)

/-- The content of a file with a fragment inserted; it must be found there afterwards. -/
def inserted (primitive : Code.Primitive) (label content fragment : Text) :
    Except Failure Code.Insertion :=
  match primitive.insert? content fragment with
  | none => .error (.refused (.noAnchor label fragment))
  | some insertion =>
    if Code.contains insertion.content fragment then .ok insertion
    else .error (.refused (.notPresent label primitive.name))

/-- Inserts a fragment of a kind with a name into a file. The kind itself is looked at only if the
file does not hold the fragment. -/
def insertAs (path : Path) (fragment name : Text) (kind : Except Failure Code.Primitive) :
    Files Outcome := do
  let old ← existing path (.targetMissing path)
  if Code.contains old fragment then
    pure ⟨path.toText, name, "present".toList, .skipped, []⟩
  else
    let primitive ← ExceptT.mk (pure kind)
    let insertion ← ExceptT.mk (pure (inserted primitive path.name old fragment))
    Files.write path insertion.content
    pure ⟨path.toText, name, insertion.strategy, .applied, changeLabel old insertion.content⟩

/-- Inserts a fragment into a file. -/
def insert (path : Path) (fragment : Text) (primitive : Code.Primitive) : Files Outcome :=
  insertAs path fragment primitive.name (.ok primitive)

/-- Inserts a fragment of a named kind into a file. -/
def insertNamed (path : Path) (fragment name : Text) : Files Outcome :=
  insertAs path fragment name (primitiveNamed name)

/-- Deletes what patterns match in a file. `primitive` is what the change is called. -/
def delete (path : Path) (patterns : List Code.Pattern) (primitive : Text) : Files Outcome := do
  let old ← existing path (.targetMissing path)
  let (new, removed) := Code.deletePatterns old patterns
  if removed = 0 then pure ⟨path.toText, primitive, "no-match".toList, .skipped, []⟩
  else
    Files.write path new
    pure ⟨path.toText, primitive, "pattern".toList, .applied, changeLabel old new⟩

end GuidedMigration.Target
