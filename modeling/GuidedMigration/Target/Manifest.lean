/-
This file adds dependencies to the manifest of a package. A guide shows them as a JSON object or as
the members of one. What the manifest already names keeps its version, and nothing is removed. A
manifest that is no text, because a word in it has half of a surrogate pair, is not written; by then
its file has been emptied.
-/
import GuidedMigration.Json.Reader
import GuidedMigration.Json.Writer
import GuidedMigration.Target.Change

namespace GuidedMigration.Target

open Text
open Json (Datum Members Word)

/-- The dependencies that a section of a manifest names, with their versions. -/
abbrev Dependencies := List (Word × Word)

/-- Sections of a manifest and what is to be added to them. -/
abbrev Sections := List (Word × Dependencies)

/-- The section of the dependencies that a package needs when it runs. -/
def runtimeSection : Word := .ofString "dependencies"

/-- The sections in which a manifest names dependencies. -/
def sectionNames : List Word := [runtimeSection, .ofString "devDependencies"]

/-! ### Fragments -/

/-- The object that a fragment writes; the members of one may stand without their braces. -/
def asObject (code : Text) : Text :=
  let text := trim code
  if text.head? = some '\x7b' then text
  else '\x7b' :: trimRightWhile (· = ',') text ++ ['\x7d']

/-- The members of a datum that is an object. -/
def members? : Datum → Option Members
  | .object members => some members
  | _ => none

/-- The dependencies that an object names. -/
def dependenciesOf (members : Members) : Dependencies :=
  members.map fun (name, version) => (name, version.display)

/-- The sections of an object; one that has no section is a section itself. -/
def sectionsOf (members : Members) : Sections :=
  if sectionNames.any (Members.has · members) then
    sectionNames.filterMap fun name =>
      ((members.lookup name).bind members?).map fun found => (name, dependenciesOf found)
  else [(runtimeSection, dependenciesOf members)]

/-- The sections that a fragment of a manifest writes. -/
def readFragment (code : Text) : Except Failure Sections :=
  let text := asObject code
  match Json.read text with
  | .error (.malformed reason rest) =>
    .error (.malformed (.fragment (Json.placeMessage text reason rest)))
  | .error (.longInteger refusal) => .error (.value (.longInteger refusal))
  | .ok (.object members) => .ok (sectionsOf members)
  | .ok _ => .error (.malformed .fragmentKind)

/-! ### Merging -/

/-- Whether a datum that is no object holds a name: an array as an item, a string as a part.
Anything else cannot hold one. -/
def holds? (name : Word) : Datum → Option Bool
  | .array items => some (items.any fun item => match item with
      | .string word => word = name
      | _ => false)
  | .string word => some (Word.hasPart name word)
  | _ => none

/-- A section with dependencies added, and the names that were added. A section that is no object
can take none. -/
def addAll (section' : Datum) : Dependencies → Except Failure (Datum × List Word)
  | [] => .ok (section', [])
  | (name, version) :: rest =>
    match section' with
    | .object members =>
      if Members.has name members then addAll section' rest
      else do
        let (merged, added) ← addAll (.object (Members.put name (.string version) members)) rest
        .ok (merged, name :: added)
    | other =>
      if holds? name other = some true then addAll section' rest
      else .error (.mismatch .section)

/-- A manifest with sections added, and the names that were added. -/
def addSections (manifest : Datum) : Sections → Except Failure (Datum × List Word)
  | [] => .ok (manifest, [])
  | (name, dependencies) :: rest =>
    match manifest with
    | .object members => do
      let held := (members.lookup name).getD (.object [])
      let (merged, added) ← addAll held dependencies
      let (manifest, more) ← addSections (.object (Members.put name merged members)) rest
      .ok (manifest, added ++ more)
    | _ => .error (.mismatch .manifest)

/-- The manifest that a file holds. -/
def readManifest (path : Path) (text : Text) : Except Failure Datum :=
  match Json.read text with
  | .ok manifest => .ok manifest
  | .error (.malformed reason rest) =>
    .error (.malformed (.json path (Json.placeMessage text reason rest)))
  | .error (.longInteger refusal) => .error (.value (.longInteger refusal))

/-- What is written of a manifest. -/
def manifestWord (manifest : Datum) : Word := Json.write manifest ++ .ofString "\n"

/-- Writes a word to a file, which is emptied first: a word that is no text is refused when the file
is open. -/
def writeWord (path : Path) (word : Word) : Files Text :=
  match word.text with
  | .ok text => do
    Files.write path text
    pure text
  | .error fault => do
    Files.write path []
    throw (.unencodable fault)

/-- Adds dependencies to the manifest at a path. -/
def mergeDependencies (path : Path) (sections : Sections) : Files Outcome := do
  let old ← existing path (.manifestMissing path)
  let manifest ← ExceptT.mk (pure (readManifest path old))
  let (merged, added) ← ExceptT.mk (pure (addSections manifest sections))
  if added.isEmpty then
    pure ⟨path.toText, "manifest".toList, "present".toList, .skipped, []⟩
  else
    let new ← writeWord path (manifestWord merged)
    pure ⟨path.toText, "manifest".toList, "merge".toList, .applied, changeLabel old new⟩

end GuidedMigration.Target
