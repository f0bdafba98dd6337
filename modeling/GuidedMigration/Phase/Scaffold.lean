/-
This file runs the first phase: it puts the base configuration and the core packages of the source
into the scaffold at the destination and applies the guide to changes of the user interface.
-/
import GuidedMigration.Phase.Progress

namespace GuidedMigration.Phase

open Text

/-- The guide that every source has. -/
def readme : Text := "Readme.md".toList

/-- The guide to changes of the user interface. -/
def interfaceGuide : Text := "UI-Changes.md".toList

/-- The directory of the base configuration below the source. -/
def configurationDirectory : Text := "configuration".toList

/-- The core of the application below the source. -/
def coreApp : Text := "packages-core/app".toList

/-- The core of the backend below the source. -/
def coreBackend : Text := "packages-core/backend".toList

/-- The application below the destination. -/
def appDirectory : Text := "packages/app".toList

/-- The backend below the destination. -/
def backendDirectory : Text := "packages/backend".toList

/-- The files and directories of the base configuration. -/
def baseFiles : List Text :=
  ["Dockerfile", ".dockerignore", ".gitignore", ".yarnrc.yml", "yarn.lock", ".yarn",
    "package.json"].map String.toList

/-- What is copied from the core of the application, and whether it must be there. -/
def appFiles : List (Text × Bool) :=
  [("src/assets".toList, true), ("src/components/theme".toList, true),
    ("src/components/Root".toList, true), ("src/components/search".toList, false),
    ("src/global.css".toList, false), ("public/favicon.ico".toList, false),
    ("public/favicon-16x16.png".toList, false), ("public/favicon-32x32.png".toList, false),
    ("public/apple-touch-icon.png".toList, false)]

/-- What is copied from the core of the backend, and whether it must be there. -/
def backendFiles : List (Text × Bool) := [("src/types.ts".toList, false)]

/-- The patterns that copies leave out if the settings say nothing. -/
def usualExcluded : List Text := ["node_modules".toList, ".git".toList]

namespace Scaffold

/-- The first of some paths at which nothing stands. -/
def firstMissing : List Path → Files (Option Path)
  | [] => pure none
  | path :: rest => do
    if ← Files.exists? path then firstMissing rest else pure (some path)

/-- Checks that the source and the destination are there. -/
def checkSources : Migration Unit := do
  let session ← Migration.ask id
  let required := [session.guides.child readme, session.source.child configurationDirectory,
    session.source.child coreApp, session.source.child coreBackend]
  match ← Migration.onFiles (firstMissing required) with
  | some path => throw (.absent .required path)
  | none =>
    if !(← Migration.onFiles (Files.isDirectory? session.destination)) then
      throw (.absent .scaffold session.destination)

/-- Reads the guide that every source has. -/
def loadReadme : Migration Unit := do
  let guides ← Migration.ask (·.guides)
  let _ ← Migration.guideAt (guides.child readme)

/-- Copies those of the base files that are there. -/
def copyBaseFiles (source destination : Path) : List Text → Migration Unit
  | [] => pure ()
  | name :: rest => do
    if ← Migration.onFiles (Files.exists? (source.child name)) then
      Migration.guarded ("copy ".toList ++ name)
        (Target.copyPath source destination ⟨usualExcluded, [], false⟩ name name)
    copyBaseFiles source destination rest

/-- Puts the base configuration into the scaffold. Packages must not be ignored there. -/
def applyBaseConfiguration : Migration Unit := do
  let session ← Migration.ask id
  copyBaseFiles (session.source.child configurationDirectory) session.destination baseFiles
  let ignored := session.destination.child ".gitignore".toList
  if ← Migration.onFiles (Files.exists? ignored) then
    Migration.guarded "fix .gitignore".toList
      (Target.delete ignored [Code.linePattern "/packages".toList] "gitignore".toList)

/-- Adds the essential dependencies to the manifest of the application. -/
def updateManifests : Migration Unit := do
  let session ← Migration.ask id
  let dependencies : Target.Dependencies := session.settings.essentialDependencies.map
    fun (name, version) => (.ofText name, .ofText version)
  let manifest := session.pathOf .packageManifest
  if !dependencies.isEmpty then
    if ← Migration.onFiles (Files.exists? manifest) then
      Migration.guarded "app manifest".toList
        (Target.mergeDependencies manifest [(Target.runtimeSection, dependencies)])

/-- Runs the guide to changes of the user interface, if there is one. -/
def applyInterfaceChanges : Migration Unit := do
  let guides ← Migration.ask (·.guides)
  let path := guides.child interfaceGuide
  if ← Migration.onFiles (Files.exists? path) then
    let _ ← Migration.runGuide path false []

/-- Copies parts of a core package. -/
def copyParts (source destination : Path) (settings : Settings) :
    List (Text × Bool) → Migration Unit
  | [] => pure ()
  | (name, isRequired) :: rest => do
    let rules : Target.CopyRules := ⟨settings.excluded, settings.optionalAssets, !isRequired⟩
    let _ ← Migration.recorded (Target.copyPath source destination rules name name)
    copyParts source destination settings rest

/-- Copies the core packages. -/
def configureCorePackages : Migration Unit := do
  let session ← Migration.ask id
  let copy (core package : Text) (parts : List (Text × Bool)) : Migration Unit :=
    copyParts (session.source.child core) (session.destination.child package) session.settings parts
  copy coreApp appDirectory appFiles
  copy coreBackend backendDirectory backendFiles
  let _ ← Migration.onFiles (Files.remove
    ((session.destination.child backendDirectory).child "Dockerfile".toList))

/-- The findings on what the phase leaves behind. -/
def findings (session : Session) : Except Failure Findings :=
  Check.checkAll session.tree session.destination (Phase.scaffold.markers session.settings)

/-- The steps of the phase. -/
def body : PhasePart Unit := do
  let run (name : String) (action : Migration Unit) : PhasePart Unit :=
    PhasePart.step name.toList (PhasePart.onSession action)
  run "Validating source paths" checkSources
  run "Loading documentation" loadReadme
  run "Applying base configuration files" applyBaseConfiguration
  run "Updating package manifests" updateManifests
  run "Applying UI customizations" applyInterfaceChanges
  run "Configuring core packages" configureCorePackages
  PhasePart.advance
  let findings ← PhasePart.check findings
  PhasePart.conclude findings

/-- Runs the phase. -/
def run : Migration PhaseReport := Phase.scaffold.runWith body

end Scaffold

end GuidedMigration.Phase
