/-
This file integrates templates and plugins: templates are copied, the directories of plugins are
copied and their guides run, and the catalog is told where to find entries. One that fails leaves a
warning, and the others are integrated.
-/
import GuidedMigration.Phase.Plugins
import GuidedMigration.Plugin.Catalog
import GuidedMigration.Plugin.Metadata

namespace GuidedMigration

open Text

/-- What comes of one plugin: whether it was integrated, the directories that were copied, and what
went wrong. -/
structure PluginResult where
  plugin : Text
  success : Bool
  copied : List Text := []
  error : Option Text := none

/-- What is to be integrated. Without names, everything that is found is. Metadata of plugins is
looked up in lists of its own, or else in the guide to integration. -/
structure PluginPlan where
  integrationType : Text := "both".toList
  plugins : List Text := []
  templates : List Text := []
  modes : List Catalog.Mode := [.manual]
  repositories : List Catalog.Repository := []
  producers : Option (List (List PluginMetadata)) := none

namespace Plugin

/-- The guide to integration. -/
def integrationGuide : Text := "Plugin-Integration.md".toList

/-- The directory of plugins, at the source and at the destination. -/
def pluginsDirectory : Text := "plugins".toList

/-- The directory of templates, at the source and at the destination. -/
def templatesDirectory : Text := "templates".toList

/-- The file that makes a directory a template. -/
def templateFile : Text := "template.yaml".toList

/-- The kinds of integration. -/
def integrationTypes : List Text := ["templates".toList, "plugins".toList, "both".toList]

/-- A path below another one, as text. -/
def below (directory name : Text) : Text := directory ++ '/' :: name

/-! ### One plugin -/

/-- Copies the directories that guides of a plugin stand in, and gives those that were copied. -/
def copyDirectories : List Text → Migration (List Text)
  | [] => pure []
  | guide :: rest => match directoryName? guide with
    | none => copyDirectories rest
    | some name => do
      let session ← Migration.ask id
      let relative := below pluginsDirectory name
      let outcome ← Migration.recorded (Target.copyPath session.source session.destination
        ⟨session.settings.excluded, [], true⟩ relative relative)
      let copied ← copyDirectories rest
      pure (if outcome.status = .applied then relative :: copied else copied)

/-- Runs the guide of a part of a plugin, if there is one. -/
def runPart (plugin : PluginMetadata) (guide : Option Text) (hint : Text) : Migration Unit := do
  match guide with
  | none | some [] => pure ()
  | some guide => do
    let guides ← Migration.ask (·.guides)
    let _ ← Migration.runGuide (guides.child guide) (normalizes plugin.name) hint

/-- Integrates a plugin. -/
def integrate (plugin : PluginMetadata) : Migration PluginResult := do
  let copied ← copyDirectories
    ((plugin.frontend.toList ++ plugin.backend.toList).filter (!·.isEmpty))
  runPart plugin plugin.frontend "frontend".toList
  runPart plugin plugin.backend "backend".toList
  pure { plugin := plugin.name, success := true, copied := copied }

/-! ### All plugins -/

/-- The plugins that the guide to integration lists; none if there is no such guide. -/
def listed : Migration (List PluginMetadata) := fun session =>
  let path := session.guides.child integrationGuide
  (match session.tree.exists? path with
    | .error fault => .error (.file fault)
    | .ok false => .ok []
    | .ok true => do
      let text ← session.tree.read path
      discover session.tree session.guides text, session)

/-- The metadata of the first list that knows a name. -/
def lookUp? (producers : List (List PluginMetadata)) (name : Text) : Option PluginMetadata :=
  producers.findSome? fun plugins => plugins.find? (·.name = name)

/-- The metadata of the wanted plugins, and the names that nothing is known of. -/
def resolve (plan : PluginPlan) : Migration (List PluginMetadata × List Text) := do
  let (producers, names) ← match plan.producers with
    | some producers => pure (producers, plan.plugins)
    | none => do
      let plugins ← listed
      pure ([plugins], if plan.plugins.isEmpty then plugins.map (·.name) else plan.plugins)
  pure (names.filterMap (lookUp? producers),
    names.filter fun name => (lookUp? producers name).isNone)

/-- The result of a plugin that failed. -/
def failedResult (plugin error : Text) : PluginResult :=
  { plugin := plugin, success := false, error := some error }

/-- Runs an action; a failure of the migration's own leaves a warning and gives nothing. -/
def attempt {Answer : Type} (what : Text) (action : Migration Answer) :
    Migration (Except Failure Answer) := fun session =>
  match action session with
  | (.ok answer, after) => (.ok (.ok answer), after)
  | (.error failure, after) =>
    if failure.isOwn then
      (.ok (.error failure), after.warn (what ++ [':', ' '] ++ failure.message))
    else (.error failure, after)

/-- What must hold behind the integration of a plugin. -/
def pluginExpectations (result : PluginResult) : List Expectation :=
  result.copied.map fun relative =>
    { path := relative, isSoft := true,
      label := some ("plugin ".toList ++ result.plugin ++ " copied".toList) }

/-- Integrates plugins one after the other. -/
def integrateEach : List PluginMetadata → Migration (List PluginResult)
  | [] => pure []
  | plugin :: rest => do
    let result ← match ← attempt ("plugin ".toList ++ plugin.name) (integrate plugin) with
      | .ok result => pure result
      | .error failure => pure (failedResult plugin.name failure.message)
    let results ← integrateEach rest
    pure (result :: results)

/-- Leaves a warning for each name that nothing is known of. -/
def warnMissing : List Text → Migration Unit
  | [] => pure ()
  | name :: rest => do
    Migration.change (·.warn
      ("plugin ".toList ++ name ++ " not found in available plugins".toList))
    warnMissing rest

/-- Integrates the wanted plugins. -/
def integratePlugins (plan : PluginPlan) : Migration (List PluginResult) := do
  let (found, missing) ← resolve plan
  warnMissing missing
  let results ← integrateEach found
  pure ((missing.map (failedResult · "plugin not found".toList)) ++ results)

/-! ### Templates -/

/-- Those of some names that are directories with a template, below a directory. -/
def templatesAmong (root : Path) : List Text → Files (List Text)
  | [] => pure []
  | name :: rest => do
    let path : Path := { root with parts := root.parts ++ [name] }
    let found ← Files.exists? (path.child templateFile)
    let others ← templatesAmong root rest
    pure (if found then name :: others else others)

/-- The templates of the source, in order. -/
def availableTemplates : Migration (List Text) := do
  let source ← Migration.ask (·.source)
  let root := source.child templatesDirectory
  if ← Migration.onFiles (Files.isDirectory? root) then
    let names ← Migration.onFiles (Files.namesIn root)
    Migration.onFiles (templatesAmong root (names.mergeSort Text.le))
  else pure []

/-- What must hold behind the integration of a template. -/
def templateExpectation (name : Text) : Expectation :=
  { path := below (below templatesDirectory name) templateFile,
    label := some ("template ".toList ++ name) }

/-- Copies templates one after the other, and gives those that were copied. -/
def copyTemplates : List Text → Migration (List Text)
  | [] => pure []
  | name :: rest => do
    let session ← Migration.ask id
    let relative := below templatesDirectory name
    let result ← attempt ("template ".toList ++ name) (Migration.recorded
      (Target.copyPath session.source session.destination
        ⟨session.settings.excluded, [], false⟩ relative relative))
    let others ← copyTemplates rest
    pure (match result with
      | .ok _ => name :: others
      | .error _ => others)

/-- Integrates the wanted templates. -/
def integrateTemplates (plan : PluginPlan) : Migration (List Text) := do
  let names ← if plan.templates.isEmpty then availableTemplates else pure plan.templates
  copyTemplates names

/-! ### Everything -/

/-- What a plan needs first. -/
def prerequisites (plan : PluginPlan) : Except Failure Unit :=
  if !integrationTypes.contains plan.integrationType then
    .error (.prerequisite (.integrationType plan.integrationType))
  else if plan.modes.contains .remote && plan.repositories.isEmpty then
    .error (.prerequisite .noRepository)
  else .ok ()

/-- Brings templates and repositories into the catalog, and gives what must hold then. -/
def applyCatalog (plan : PluginPlan) (templates : List Text) : Migration (List Expectation) := do
  let (fragment, values) := Catalog.fragment plan.modes plan.repositories templates
  if fragment.isEmpty then pure []
  else do
    Migration.change fun session => { session with values := session.values.update values }
    Executor.applyConfig fragment "catalog locations".toList none
    let settings ← Migration.ask (·.settings)
    pure [{ path := settings.template, kind := .key, needle := some "catalog.locations".toList }]

/-- What was integrated, in a few words. -/
def summaryOf (templates : List Text) (results : List PluginResult) : Text :=
  let failed := (results.filter (!·.success)).map (·.plugin)
  ofNat templates.length ++ " template(s), ".toList ++ ofNat (results.length - failed.length) ++
    " plugin(s) integrated".toList ++
    if failed.isEmpty then [] else ", failed: ".toList ++ joinWith [',', ' '] failed

/-- Integrates what a plan says. -/
def execute (plan : PluginPlan) : Migration Integration := do
  let wants (kind : Text) : Bool :=
    plan.integrationType = kind || plan.integrationType = "both".toList
  let templates ← if wants "templates".toList then integrateTemplates plan else pure []
  let results ← if wants "plugins".toList then integratePlugins plan else pure []
  let catalog ← applyCatalog plan templates
  pure {
    success := results.all (·.success)
    summary := summaryOf templates results
    expectations := templates.map templateExpectation ++ results.flatMap pluginExpectations ++
      catalog }

/-- The orchestrator of a plan. -/
def orchestrator (plan : PluginPlan) : Orchestrator := ⟨prerequisites plan, execute plan⟩

end Plugin

end GuidedMigration
