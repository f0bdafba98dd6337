/-
This file names the files of an application by the roles that they play. A role has a usual path
below the root of the application, and settings may give it another one.
-/
import GuidedMigration.Tree.Path

namespace GuidedMigration

/-- A role that a file plays in an application. -/
inductive Role where
  | appEntry
  | backendEntry
  | themeRoot
  | packageManifest
  | backendManifest
  | rootManifest
  | catalogDescriptor
  | entityPage
  deriving DecidableEq

namespace Role

/-- The roles. -/
def all : List Role :=
  [.appEntry, .backendEntry, .themeRoot, .packageManifest, .backendManifest, .rootManifest,
    .catalogDescriptor, .entityPage]

/-- The name of a role. -/
def name : Role → Text
  | .appEntry => "app-entry".toList
  | .backendEntry => "backend-entry".toList
  | .themeRoot => "theme-root".toList
  | .packageManifest => "package-manifest".toList
  | .backendManifest => "backend-manifest".toList
  | .rootManifest => "root-manifest".toList
  | .catalogDescriptor => "catalog-descriptor".toList
  | .entityPage => "entity-page".toList

/-- The role with a name. -/
def ofName? (name : Text) : Option Role := all.find? (·.name = name)

/-- The usual path of a role. -/
def usualPath : Role → Text
  | .appEntry => "packages/app/src/App.tsx".toList
  | .backendEntry => "packages/backend/src/index.ts".toList
  | .themeRoot => "packages/app/src/components/theme".toList
  | .packageManifest => "packages/app/package.json".toList
  | .backendManifest => "packages/backend/package.json".toList
  | .rootManifest => "package.json".toList
  | .catalogDescriptor => "catalog-info.yaml".toList
  | .entityPage => "packages/app/src/components/catalog/EntityPage.tsx".toList

/-- The path of a role below the root. An override that is empty does not count. -/
def relative (overrides : List (Text × Text)) (role : Role) : Text :=
  match overrides.lookup role.name with
  | none | some [] => role.usualPath
  | some path => path

/-- The path of a role. -/
def path (overrides : List (Text × Text)) (root : Path) (role : Role) : Path :=
  root.child (role.relative overrides)

end Role

end GuidedMigration
