/-
This file holds the settings of a migration, their defaults, and how they are read from the values
given for them by name. A setting that is not given has its default; names that belong to no setting
are passed over.
-/
import GuidedMigration.Failure
import GuidedMigration.Settings.Field
import GuidedMigration.Tree.Files
import GuidedMigration.Value.Placeholder
import GuidedMigration.Yaml.Reader

namespace GuidedMigration

/-- The settings of a migration. -/
structure Settings where
  application : Text := "mdmigrate".toList
  /-- Where the ledger of runs is kept. -/
  ledger : Text := "sqlite:///mdmigrate.db".toList
  /-- The dialect of the guides, by name. -/
  dialect : Text := "gfm-like".toList
  /-- The deepest level of headings that open a section. -/
  deepest : Int := 3
  source : Text := ['.']
  destination : Text := "app".toList
  /-- The directory of the guides below the source. -/
  guides : Text := "docs".toList
  /-- The configuration document with placeholders. -/
  template : Text := "app-config.yaml".toList
  /-- The configuration document with the values in place of placeholders. -/
  localDocument : Text := "app-config.local.yaml".toList
  /-- The file with the values of placeholders. -/
  valuesFile : Option Text := none
  /-- Patterns of names that no copy of a directory takes along. -/
  excluded : List Text := ["node_modules".toList, ".git".toList]
  /-- Patterns of sources whose absence is no fault. -/
  optionalAssets : List Text :=
    ["*.png".toList, "*.svg".toList, "*.ico".toList, "favicon*".toList, "public/*".toList]
  /-- Paths of roles that differ from the usual ones. -/
  rolePaths : List (Text × Text) := []
  /-- Dependencies that every migrated application gets. -/
  essentialDependencies : List (Text × Text) := []
  /-- Whether a phase first runs the one before it if that has not been done. -/
  autoPrerequisites : Bool := true
  logLevel : Text := "WARNING".toList

namespace Settings

/-- The names of the settings in order. -/
def names : List Text :=
  ["app_name", "db_url", "parser_config", "max_section_level", "source_dir", "dest_dir", "docs_dir",
    "template_config", "local_config", "values_file", "excluded_dirs", "optional_assets",
    "role_paths", "essential_dependencies", "auto_prerequisites", "log_level"].map String.toList

/-- The settings that are lists, which an environment writes with commas. -/
def listNames : List Text := ["excluded_dirs".toList, "optional_assets".toList]

/-- The value of a setting, or its default if none is given. -/
def field {Read : Type} (given : Mapping) (name : String) (default : Read)
    (read : Value → Field.Checked Read) : Field.Checked Read :=
  match given.get? (.text name.toList) with
  | some value => Field.below name.toList (read value)
  | none => .ok default

/-- The faults of a field. -/
def faultsOf {Read : Type} : Field.Checked Read → List (List Text × FieldFault)
  | .ok _ => []
  | .error faults => faults

/-- The settings that values by name make. -/
def ofValues (given : Mapping) : Field.Checked Settings :=
  let usual : Settings := {}
  let application := field given "app_name" usual.application Field.text
  let ledger := field given "db_url" usual.ledger Field.text
  let dialect := field given "parser_config" usual.dialect Field.text
  let deepest := field given "max_section_level" usual.deepest (Field.integerBetween 2 6)
  let source := field given "source_dir" usual.source Field.text
  let destination := field given "dest_dir" usual.destination Field.text
  let guides := field given "docs_dir" usual.guides Field.text
  let template := field given "template_config" usual.template Field.text
  let localDocument := field given "local_config" usual.localDocument Field.text
  let valuesFile := field given "values_file" usual.valuesFile Field.text?
  let excluded := field given "excluded_dirs" usual.excluded Field.texts
  let optionalAssets := field given "optional_assets" usual.optionalAssets Field.texts
  let rolePaths := field given "role_paths" usual.rolePaths Field.textMap
  let essentialDependencies :=
    field given "essential_dependencies" usual.essentialDependencies Field.textMap
  let autoPrerequisites := field given "auto_prerequisites" usual.autoPrerequisites Field.truth
  let logLevel := field given "log_level" usual.logLevel Field.text
  let faults := faultsOf application ++ faultsOf ledger ++ faultsOf dialect ++ faultsOf deepest ++
    faultsOf source ++ faultsOf destination ++ faultsOf guides ++ faultsOf template ++
    faultsOf localDocument ++ faultsOf valuesFile ++ faultsOf excluded ++ faultsOf optionalAssets ++
    faultsOf rolePaths ++ faultsOf essentialDependencies ++ faultsOf autoPrerequisites ++
    faultsOf logLevel
  if !faults.isEmpty then .error faults
  else do
    .ok {
      application := ← application
      ledger := ← ledger
      dialect := ← dialect
      deepest := ← deepest
      source := ← source
      destination := ← destination
      guides := ← guides
      template := ← template
      localDocument := ← localDocument
      valuesFile := ← valuesFile
      excluded := ← excluded
      optionalAssets := ← optionalAssets
      rolePaths := ← rolePaths
      essentialDependencies := ← essentialDependencies
      autoPrerequisites := ← autoPrerequisites
      logLevel := ← logLevel }

/-- Whether a key is a text. -/
def isName : Scalar → Bool
  | .text _ => true
  | _ => false

/-- The settings that values by name make; every key must be a text. -/
def read (given : Mapping) : Except Failure Settings :=
  if given.all fun (key, _) => isName key then
    match ofValues given with
    | .ok settings => .ok settings
    | .error faults => .error (.settings (faults.map fun (place, fault) =>
        (Text.joinWith ['.'] place, fault.name)))
  else .error (.mismatch .settings)

/-- The settings as a value that reads back as the same settings. -/
def toValue (settings : Settings) : Value :=
  .record [("app_name", .text settings.application), ("db_url", .text settings.ledger),
    ("parser_config", .text settings.dialect), ("max_section_level", .int settings.deepest),
    ("source_dir", .text settings.source), ("dest_dir", .text settings.destination),
    ("docs_dir", .text settings.guides), ("template_config", .text settings.template),
    ("local_config", .text settings.localDocument),
    ("values_file", .optional .text settings.valuesFile),
    ("excluded_dirs", .ofTexts settings.excluded),
    ("optional_assets", .ofTexts settings.optionalAssets),
    ("role_paths", .ofTextMap settings.rolePaths),
    ("essential_dependencies", .ofTextMap settings.essentialDependencies),
    ("auto_prerequisites", .bool settings.autoPrerequisites),
    ("log_level", .text settings.logLevel)]

/-! ### Sources of settings -/

/-- Where the settings of the working directory stand. -/
def fileName : Text := "config.yaml".toList

/-- The name of the variable that sets a setting in the environment. -/
def variableOf (name : Text) : Text := "MDMIGRATE_".toList ++ name.map Text.asciiUpper

/-- The value that the environment gives a setting. An empty variable gives none. -/
def fromEnvironment? (environment : List (Text × Text)) (name : Text) : Option Value :=
  match environment.lookup (variableOf name) with
  | none | some [] => none
  | some written =>
    if listNames.contains name then
      some (.list (((Text.splitOn ',' written).map Text.trim |>.filter (!·.isEmpty)).map .text))
    else some (.text written)

/-- The settings of an environment, by name. -/
def environmentValues (environment : List (Text × Text)) : Mapping :=
  names.filterMap fun name => (fromEnvironment? environment name).map (.text name, ·)

/-- The values that a later source writes over those of an earlier one. -/
def overlay (later earlier : Mapping) : Mapping :=
  later.foldl (fun values (key, value) => values.put key value) earlier

/-- The value of the file with the settings; a value that counts as absent is an empty mapping. -/
def fileValue (tree : Tree) : Except Failure Value := do
  let path := Path.ofText fileName
  match tree.exists? path with
  | .error fault => .error (.file fault)
  | .ok false => .ok (.map [])
  | .ok true => do
    let text ← tree.read path
    match Yaml.read text with
    | .error .malformed | .error .endless => .error (.value .configuration)
    | .error fault => .error (.yaml fault)
    | .ok value => .ok (if value.isTruthy then value else .map [])

/-- Reads the settings: the overrides come first, then the environment, then the file of the working
directory. Overrides without a value do not count. -/
def load (tree : Tree) (environment : List (Text × Text)) (overrides : Mapping) :
    Except Failure Settings := do
  let value ← fileValue tree
  let set := environmentValues environment
  let kept := overrides.filter fun (_, value) => !value.isNull
  match value with
  | .map entries => read (overlay kept (overlay set entries))
  | .set _ => .error (.mismatch .settings)
  | _ => .error (.mismatch (if set.isEmpty && !overrides.isEmpty then .overrides else .settings))

/-! ### Values of placeholders -/

/-- Reads a file of values for placeholders; without a file there are none. -/
def loadValues (tree : Tree) (path : Option Text) : Except Failure Placeholder.Values :=
  match path with
  | none | some [] => .ok []
  | some written => do
    let path := Path.ofText written
    match tree.exists? path with
    | .error fault => .error (.file fault)
    | .ok false => .error (.value (.valuesMissing written))
    | .ok true => do
      let text ← tree.read path
      match Yaml.read text with
      | .error .malformed | .error .endless => .error (.value (.valuesMalformed written))
      | .error fault => .error (.yaml fault)
      | .ok value =>
        if !value.isTruthy then .ok []
        else match value with
          | .map entries => .ok (Placeholder.Values.update []
              (entries.map fun (key, value) => (key.display, value.display)))
          | other => .error (.value (.valuesKind written other.typeName))

end Settings

end GuidedMigration
