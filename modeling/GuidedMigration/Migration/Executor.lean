/-
This file carries out instructions and applies blocks of code. What an instruction does not name is
inferred: the file that a fragment goes to from the words around it and from the fragment itself,
the kind of fragment from how it starts. A recoverable failure becomes a warning, and the next
instruction runs.
-/
import GuidedMigration.Code.Statement
import GuidedMigration.Instruction.Classify
import GuidedMigration.Migration.Session
import GuidedMigration.Target.Copy
import GuidedMigration.Target.Manifest

namespace GuidedMigration.Executor

open Text

/-- The module that lets everybody do everything. -/
def allowAllPolicy : Text :=
  "@backstage/plugin-permission-backend-module-allow-all-policy".toList

/-- The keys by which a fragment is known to describe an entry of the catalog. -/
def catalogKeys : List Text := ["apiVersion", "kind", "metadata"].map String.toList

/-- The entry file that words are about: the one of the backend if they mention it. `hint` are
words about the whole guide. -/
def inferRole (hint words : Text) : Role :=
  if occursIn "backend".toList (lower (hint ++ ' ' :: words)) then .backendEntry else .appEntry

/-- The path that an instruction is about: the named one, or that of the inferred role. -/
def targetPath (hint : Text) (target : Option Text) (words : Text) (session : Session) : Path :=
  match target with
  | some (first :: rest) => session.destination.child (first :: rest)
  | _ => session.pathOf (inferRole hint words)

/-- Inserts a fragment and adds the outcome to the journal. -/
def insert (path : Path) (fragment : Text) (primitive : Code.Primitive) : Migration Unit := do
  let _ ← Migration.recorded (Target.insert path fragment primitive)

/-- Inserts fragments of one kind one after the other. -/
def insertEach (path : Path) (primitive : Code.Primitive) : List Text → Migration Unit
  | [] => pure ()
  | fragment :: rest => do
    insert path fragment primitive
    insertEach path primitive rest

/-- Deletes what patterns match and adds the outcome to the journal. -/
def delete (path : Path) (patterns : List Code.Pattern) (primitive : Text) : Migration Unit := do
  let _ ← Migration.recorded (Target.delete path patterns primitive)

/-! ### Configuration -/

/-- The outcome of merging a fragment into a document. -/
def mergeOutcome (path : Path) (primitive label : Text) (changed : Bool) : Outcome :=
  ⟨path.toText, primitive, "deep-merge".toList, .ofChanged changed, label⟩

/-- Merges a fragment into the document at a path and adds the outcome to the journal. -/
def merge (path : Path) (primitive label : Text) (fragment : Mapping) : Migration Unit := do
  let changed ← Migration.onFiles (Config.mergeInto path fragment)
  Migration.change (·.record (mergeOutcome path primitive label changed))

/-- The contribution of a fragment, with those values that its placeholders ask for. -/
def contributionOf (values : Placeholder.Values) (label : Text) (fragment : Mapping) :
    Config.Contribution :=
  let names := fragment.placeholders
  ⟨label, fragment, values.filter fun (name, _) => names.contains name⟩

/-- Applies a fragment of configuration: to the named document, or else to the template, in which
case it also counts as a contribution. -/
def applyConfig (fragment : Mapping) (label : Text) (target : Option Text) : Migration Unit := do
  let session ← Migration.ask id
  let fragment := if session.normalizes then fragment.normalize else fragment
  let primitive := "config-merge".toList
  match target.filter fun name => !name.isEmpty && name != session.settings.template with
  | some name => merge (session.destination.child name) primitive label fragment
  | none => do
    let contribution := contributionOf session.values label fragment
    Migration.change fun session =>
      { session with contributions := session.contributions ++ [contribution] }
    merge session.templatePath primitive label fragment

/-- Applies a fragment that describes an entry of the catalog. The descriptor must be there. -/
def applyCatalog (fragment : Mapping) (label : Text) : Migration Unit := do
  let path ← Migration.ask (·.pathOf .catalogDescriptor)
  if ← Migration.onFiles (Files.exists? path) then
    merge path "catalog-merge".toList label fragment
  else throw (.refused (.catalogMissing path))

/-- The failure that an error in a block of configuration is. -/
def blockFailure : Config.BlockError → Failure
  | .line number fault => .malformed (.block number fault)
  | .longInteger refusal => .value (.longInteger refusal)

/-- The mapping that a block of configuration writes. -/
def blockMapping (content : Text) : Except Failure Mapping :=
  (Config.readBlock content).mapError blockFailure

/-! ### Code -/

/-- A statement without the word `export` at its start and the blanks behind it. -/
def dropExport (statement : Text) : Text :=
  match dropPrefix? "export".toList statement with
  | some rest => if rest.head?.any isBlank then trimLeft rest else statement
  | none => statement

/-- The name of the constant that a statement defines. -/
def constantName? (statement : Text) : Option Text := do
  let rest ← dropPrefix? "const".toList (dropExport (trimLeft statement))
  let rest ← if rest.head?.any isBlank then some (trimLeft rest) else none
  let name := rest.takeWhile isWord
  let behind := trimLeft (rest.drop name.length)
  if name.isEmpty then none
  else if behind.head? = some ':' || behind.head? = some '=' then some name
  else none

/-- The kind of fragment that a statement is, by how it starts; nothing if there is no place for
it. -/
def primitiveOf? (statement : Text) (isEntityPage : Bool) : Option Code.Primitive :=
  let head := trimLeft statement
  if startsWith "backend.add(".toList head then some .registration
  else if startsWith "<EntityLayout.Route".toList head then some .serviceRoute
  else if startsWith "<Route".toList head then some .route
  else if (constantName? statement).any (· != "app".toList) &&
      !occursIn "createApp(".toList statement then
    some (if isEntityPage then .entityConstant else .appConstant)
  else if head.head? = some '<' && isEntityPage then some .overviewComponent
  else none

/-- The role of the file that code goes to. -/
def roleOfCode (hint code words : Text) : Role :=
  if occursIn "backend.add(".toList code then .backendEntry
  else if occursIn "<EntityLayout.Route".toList code || occursIn "entity".toList (lower words) then
    .entityPage
  else if occursIn "createApp(".toList code || occursIn "<Route".toList code then .appEntry
  else inferRole hint words

/-- Inserts statements one after the other, each by its kind; one that fails leaves a warning. -/
def insertStatements (path : Path) (isEntityPage : Bool) : List Text → Migration Unit
  | [] => pure ()
  | statement :: rest => do
    match primitiveOf? statement isEntityPage with
    | some primitive =>
      Migration.recovering primitive.name (insert path statement primitive)
    | none => pure ()
    insertStatements path isEntityPage rest

/-- Applies code: its imports first, then its other statements. `words` are about the code, `hint`
about the whole guide. -/
def applyCode (hint code words : Text) (target : Option Path) : Migration Unit := do
  let role := roleOfCode hint code words
  let path ← match target with
    | some path => pure path
    | none => Migration.ask (·.pathOf role)
  let isEntityPage := target.isNone && role = .entityPage
  insertEach path .importStatement (Code.imports code)
  insertStatements path isEntityPage (Code.statements (Code.withoutImports code))

/-! ### Instructions -/

/-- Copies what a step names. -/
def copyNamed (step : Step) (source destination : Option Text) : Migration Unit := do
  match source with
  | none | some [] => throw (.refused (.noPath step.text))
  | some source => do
    let session ← Migration.ask id
    let rules : Target.CopyRules :=
      ⟨session.settings.excluded, session.settings.optionalAssets, false⟩
    let destination := (destination.filter (!·.isEmpty)).getD source
    let _ ← Migration.recorded
      (Target.copyPath session.source session.destination rules source destination)

/-- The patterns of the imports and the snippets that a step deletes. -/
def deletionPatterns (mentionsImport : Bool) (snippets modules : List Text) : List Code.Pattern :=
  (if mentionsImport then modules.flatMap Code.importPatterns else []) ++
    snippets.flatMap Code.snippetPatterns

/-- Deletes what a step names. A step about the policy that allows everything removes its
registration. -/
def deleteNamed (hint : Text) (step : Step) (target : Option Text) (snippets modules : List Text) :
    Migration Unit := do
  let text := step.text
  let small := lower text
  let named := snippets ++ modules
  let mentionsImport := occursIn "import".toList small
  if occursIn "allow-all".toList small || occursIn "allow all".toList small ||
      named.any (occursIn allowAllPolicy) then do
    let path ← Migration.ask (targetPath hint target (text ++ ' ' :: allowAllPolicy))
    delete path (Code.registrationPatterns allowAllPolicy) "remove-registration".toList
  else if mentionsImport && named.isEmpty then throw (.refused (.noImportNamed text))
  else
    let patterns := deletionPatterns mentionsImport snippets modules
    if patterns.isEmpty then throw (.refused (.nothingToDelete text))
    else
      let path ← Migration.ask (targetPath hint target (text ++ joinWith [' '] named))
      delete path patterns "delete".toList

/-- Updates the configuration or the code that a step shows. -/
def update (hint : Text) (step : Step) (target : Option Text) : Migration Unit := do
  match step.snippet with
  | none => pure ()
  | some snippet =>
    if Instruction.configLanguages.contains snippet.language then do
      let fragment ← Migration.ofResult (blockMapping snippet.content)
      let document := target.filter (endsWithAny [".yaml".toList, ".yml".toList])
      applyConfig fragment step.text document
    else if Instruction.codeLanguages.contains snippet.language then do
      let destination ← Migration.ask (·.destination)
      let path := (target.filter (!·.isEmpty)).map destination.child
      applyCode hint snippet.content step.text path
    else pure ()

/-- Adds the imports that a step shows. -/
def addImports (hint : Text) (step : Step) (target : Option Text) (statements : List Text) :
    Migration Unit := do
  if statements.isEmpty then throw (.refused (.noStatement step.text))
  else do
    let path ← Migration.ask (targetPath hint target (step.text ++ joinWith [' '] statements))
    insertEach path .importStatement statements

/-- Recognises the word `from` and a quoted module behind it. -/
def fromModule : Recogniser Text := fun _ text => do
  let rest ← dropPrefix? "from".toList text
  let rest ← if rest.head?.any isBlank then some (trimLeft rest) else none
  match rest with
  | quote :: more =>
    let name := more.takeWhile (!Code.isQuote ·)
    if Code.isQuote quote && !name.isEmpty && name.length < more.length then
      some (name, text.length - more.length + name.length + 1)
    else none
  | [] => none

/-- Removes the imports from the modules that a step names or shows. -/
def removeImports (hint : Text) (step : Step) (target : Option Text) (modules : List Text) :
    Migration Unit := do
  let shown := (step.snippet.map fun snippet => findAll fromModule snippet.content).getD []
  let modules := modules ++ shown
  if modules.isEmpty then throw (.refused (.noModule step.text))
  else do
    let path ← Migration.ask (targetPath hint target (step.text ++ joinWith [' '] modules))
    delete path (modules.flatMap Code.importPatterns) "remove-import".toList

/-- Carries out an instruction up to its first failure. -/
def perform (hint : Text) (instruction : Instruction) : Migration Unit :=
  let step := instruction.step
  match instruction.action with
  | .copyPath source destination => copyNamed step source destination
  | .deletePattern target snippets modules => deleteNamed hint step target snippets modules
  | .updateConfig target => update hint step target
  | .addImport target statements => addImports hint step target statements
  | .removeImport target modules => removeImports hint step target modules
  | .installPackage packages => Migration.change (·.install packages)
  | .generic => pure ()

/-- Carries out an instruction; a recoverable failure leaves a warning. -/
def execute (hint : Text) (instruction : Instruction) : Migration Unit :=
  Migration.recovering instruction.action.name (perform hint instruction)

/-! ### Blocks -/

/-- The languages of manifests. -/
def isManifestLanguage (language : Text) : Bool := language = "json".toList

/-- Applies a block by its language up to its first failure. -/
def performBlock (executorHint : Text) (block : CodeBlock) (label hint : Text) :
    Migration Unit := do
  if Instruction.configLanguages.contains block.language then do
    let fragment ← Migration.ofResult (blockMapping block.content)
    if catalogKeys.any fun key => Mapping.has (.text key) fragment then applyCatalog fragment label
    else applyConfig fragment label none
  else if Instruction.codeLanguages.contains block.language then
    applyCode executorHint block.content (if hint.isEmpty then label else hint) none
  else if isManifestLanguage block.language then do
    let role : Role :=
      if occursIn "backend".toList (lower hint) then .backendManifest else .packageManifest
    let path ← Migration.ask (·.pathOf role)
    let sections ← Migration.ofResult (Target.readFragment block.content)
    let _ ← Migration.recorded (Target.mergeDependencies path sections)
  else if Instruction.shellLanguages.contains block.language then
    Migration.change (·.queue (Instruction.installedPackages block.content))
  else pure ()

/-- Applies a block; a recoverable failure leaves a warning. -/
def applyBlock (executorHint : Text) (block : CodeBlock) (label hint : Text) : Migration Unit :=
  Migration.recovering (block.language ++ " block".toList)
    (performBlock executorHint block label hint)

end GuidedMigration.Executor
