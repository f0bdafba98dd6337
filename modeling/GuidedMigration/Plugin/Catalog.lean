/-
This file builds the fragment of configuration that brings entries into the catalog: one location
for each template, one for the local descriptor, and one for each remote repository. The addresses
of repositories stand in it as placeholders, beside which their values are given.
-/
import GuidedMigration.Value.Placeholder

namespace GuidedMigration.Catalog

open Text

/-- A way in which entries come into the catalog. -/
inductive Mode where
  | manual
  | remote
  | locally
  deriving DecidableEq

/-- The modes with their names. -/
def Mode.named : List (Text × Mode) :=
  [("manual".toList, .manual), ("remote".toList, .remote), ("local".toList, .locally)]

/-- The mode with a name. -/
def Mode.ofName? (name : Text) : Option Mode := named.lookup name

/-- A remote repository: its address, and what kinds of entries are taken from it. -/
structure Repository where
  url : Text
  rules : Text := "Component,System,API,Resource,Location".toList

/-- The location of a template. -/
def templateLocation (name : Text) : Value :=
  Value.record [("type", .text "file".toList),
    ("target", .text ("../../templates/".toList ++ name ++ "/template.yaml".toList)),
    ("rules", .list [Value.record [("allow", .list [.text "Template".toList])]])]

/-- The location of the local descriptor. -/
def localLocation : Value :=
  Value.record [("type", .text "file".toList), ("target", .text "../../catalog-info.yaml".toList)]

/-- The name of a placeholder for a part of a repository, counted from one. -/
def repositoryName (number : Nat) (part : String) : Text :=
  "CATALOG_REPO_".toList ++ ofNat number ++ '_' :: part.toList

/-- The location of a repository, counted from one. -/
def repositoryLocation (number : Nat) : Value :=
  Value.record [("type", .text "url".toList),
    ("target", .text (Placeholder.ofName (repositoryName number "URL"))),
    ("rules", .list [Value.record
      [("allow", .text (Placeholder.ofName (repositoryName number "RULES")))]])]

/-- The values of the placeholders for repositories, which are counted from a number on. -/
def repositoryValues : Nat → List Repository → Placeholder.Values
  | _, [] => []
  | number, repository :: rest =>
    (repositoryName number "URL", repository.url) ::
      (repositoryName number "RULES", repository.rules) :: repositoryValues (number + 1) rest

/-- The locations of templates, of the local descriptor, and of repositories. -/
def locations (modes : List Mode) (repositories : List Repository) (templates : List Text) :
    List Value :=
  templates.map templateLocation ++ (if modes.contains .locally then [localLocation] else []) ++
    if modes.contains .remote then
      (List.range repositories.length).map fun index => repositoryLocation (index + 1)
    else []

/-- The fragment that brings everything into the catalog, and the values of its placeholders. -/
def fragment (modes : List Mode) (repositories : List Repository) (templates : List Text) :
    Mapping × Placeholder.Values :=
  let isRemote := modes.contains .remote
  let found := locations modes repositories templates
  let values := if isRemote then repositoryValues 1 repositories else []
  if found.isEmpty then ([], values)
  else
    let search : List (String × Value) :=
      if isRemote && !repositories.isEmpty then [("useUrlReadersSearch", .bool false)] else []
    ([(.text "catalog".toList, Value.record (("locations", .list found) :: search))], values)

end GuidedMigration.Catalog
