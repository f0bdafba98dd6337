/-
This file runs the commands of the command line on the tree of the working directory. A command
gives what it prints, what it reports as an error, how it exits, and the tree that it leaves. A
failure that is no expected one leaves the command as it is and is handed on.
-/
import GuidedMigration.CommandLine.Arguments
import GuidedMigration.Instruction.View
import GuidedMigration.Ledger.Stored
import GuidedMigration.Plugin.Orchestrator

namespace GuidedMigration.CommandLine

open Text

/-- What a command is told by its surroundings: the variables that are set, the time, and an
identity that no run has had yet. -/
structure Surroundings where
  environment : List (Text × Text) := []
  now : Text
  identity : Nat

/-- How a command ends: its exit code, what it prints, the error it reports, and a failure that it
does not expect. -/
structure Reply where
  exit : Nat
  output : Text := []
  report : Text := []
  failure : Option Failure := none

namespace Reply

/-- Lines as they are printed. -/
def printed (lines : List Text) : Text := lines.flatMap fun line => line ++ ['\n']

/-- The end of a command that did what it was told. -/
def done (lines : List Text) : Reply := { exit := 0, output := printed lines }

/-- The end of a command that says that it failed by its output. -/
def negative (lines : List Text) : Reply := { exit := 1, output := printed lines }

/-- The end of a command with an error, behind the lines that were printed before it. -/
def error (lines : List Text) (message : Text) (cause : Option Text) : Reply where
  exit := 1
  output := printed lines
  report := printed
    (("Error: ".toList ++ message) :: cause.toList.map fun cause => ' ' :: ' ' :: cause)

/-- The end of a command by a failure that it does not expect. -/
def escaped (lines : List Text) (failure : Failure) : Reply :=
  { exit := 1, output := printed lines, failure := some failure }

/-- The end of a command that is not understood. -/
def usage : Reply := { exit := 2 }

/-- The end of a command by a failure in its settings or values. -/
def ofInput (failure : Failure) : Reply :=
  if failure.isValue then error [] failure.message none else escaped [] failure

end Reply

/-! ### Settings -/

/-- An override that is given or not. -/
def override (name : String) (value : Option Text) : Scalar × Value :=
  (.text name.toList, match value with
    | some value => .text value
    | none => .null)

/-- The settings of a command. -/
def settings (surroundings : Surroundings) (tree : Tree) (overrides : Mapping) :
    Except Reply Settings :=
  match Settings.load tree surroundings.environment overrides with
  | .ok settings => .ok settings
  | .error failure => .error (.ofInput failure)

/-! ### Documents -/

/-- Whether a name ends like one of a Markdown file. -/
def isMarkdown (suffix : Text) : Bool := suffix = ".md".toList || suffix = ".mdx".toList

/-- The Markdown files at or below a path, in order. The ending of a single file must be in small
letters. -/
def discover (tree : Tree) (path : Path) : Except FileFault (List Path) := do
  if ← tree.isFile? path then .ok (if isMarkdown path.suffix then [path] else [])
  else if ← tree.isDirectory? path then
    .ok ((tree.files path).filter fun file => isMarkdown (lower file.suffix))
  else .ok []

/-- Shows documents one after the other; `shown` are the lines before them, last first. -/
def showEach (tree : Tree) (settings : Settings) (show' : Document → List Text) :
    List Text → List Path → Reply
  | shown, [] => .done shown.reverse
  | shown, path :: rest => match Migration.readGuide tree settings path with
    | .ok document => showEach tree settings show' ((show' document).reverse ++ shown) rest
    | .error failure =>
      if failure.isOwn then
        .error shown.reverse ("Could not parse ".toList ++ path.toText) (some failure.message)
      else .escaped shown.reverse failure

/-- Shows the documents at or below a path. -/
def showAll (tree : Tree) (settings : Settings) (written : Text) (show' : Document → List Text) :
    Reply :=
  let path := Path.ofText written
  match tree.exists? path, discover tree path with
  | .error fault, _ => .escaped [] (.file fault)
  | .ok false, _ => .error [] ("Path not found: ".toList ++ written) none
  | .ok true, .error fault => .escaped [] (.file fault)
  | .ok true, .ok [] => .error [] ("No markdown files found under: ".toList ++ written) none
  | .ok true, .ok paths => showEach tree settings show' [] paths

/-- The lines that show a document. -/
def documentLines (asJson : Bool) (document : Document) : List Text :=
  if asJson then (Json.write (.ofValue document.toValue)).text.toOption.toList
  else
    [document.path ++ [':', ' '] ++ document.title,
      [' ', ' '] ++ ofNat document.sections.length ++ " section(s), ".toList ++
        ofNat document.steps.length ++ " step(s), ".toList ++
        ofNat document.blocks.length ++ " code block(s), ".toList ++
        ofNat document.links.length ++ " link(s)".toList] ++
    document.providers.map fun provider =>
      "  provider: ".toList ++ provider.name ++ [' ', '('] ++ provider.file ++ [')']

/-- The line that shows the instruction of a step. -/
def instructionLine (step : Step) : Text :=
  let number := (step.number.map ofNat).getD ['-']
  [' ', ' '] ++ padLeft 3 ' ' number ++ [' ', ' '] ++
    padRight 16 (Instruction.ofStep step).action.name ++ ' ' :: step.text

/-- The lines that show the instructions of a document. -/
def instructionLines (document : Document) : List Text :=
  (document.path ++ [':']) :: document.steps.map instructionLine

/-! ### Migrating -/

/-- The values that arguments give to placeholders, or the first argument that gives none. -/
def valuesOf : List Text → Except Text Placeholder.Values
  | [] => .ok []
  | written :: rest => match splitFirst? ['='] written with
    | none => .error written
    | some (name, value) =>
      if (trim name).isEmpty then .error written
      else do
        let others ← valuesOf rest
        .ok ((trim name, value) :: others)

/-- The ways into the catalog that arguments name, or the first name of none. -/
def modesOf : List Text → Except Text (List Catalog.Mode)
  | [] => .ok []
  | name :: rest => match Catalog.Mode.ofName? name with
    | none => .error name
    | some mode => do
      let modes ← modesOf rest
      .ok (mode :: modes)

/-- The repository that an argument names: its address and, behind a comma, its rules. -/
def repositoryOf (written : Text) : Catalog.Repository :=
  match splitFirst? [','] written with
  | some (url, first :: rules) => { url := url, rules := first :: rules }
  | some (url, []) => { url := url }
  | none => { url := written }

/-- The orchestrator that the arguments ask for. -/
def orchestratorOf (options : MigrateOptions) : Except Reply (Option Orchestrator) :=
  if options.phase < 3 then .ok none
  else
    match modesOf (if options.catalog.isEmpty then ["manual".toList] else options.catalog) with
    | .error name => .error (.error [] "Invalid --catalog".toList
        (some (BadValue.catalogMode name).message))
    | .ok modes => .ok (some (Plugin.orchestrator {
        integrationType := options.integration
        plugins := options.plugins
        templates := options.templates
        modes := modes
        repositories := options.repositories.map repositoryOf }))

/-- The ledger with what came of a migration. -/
def recordRun (run : Nat) (reports : List PhaseReport) (session : Session) (success : Bool)
    (ledger : Ledger) : Ledger :=
  let recorded := reports.foldl (fun ledger report =>
    let earlier := match report.prerequisite with
      | some prerequisite => ledger.recordPhase run prerequisite
      | none => ledger
    earlier.recordPhase run report) ledger
  ((recorded.recordJournal run session.journal).2).finish run success session.contributions.isDual

/-- The lines that a migration prints. -/
def migrationLines (run : Run) (reports : List PhaseReport) (session : Session) (success : Bool) :
    List Text :=
  reports.flatMap PhaseReport.lines ++
    (if session.packages.isEmpty then []
      else ["Packages to install: ".toList ++ joinWith [' '] session.packages]) ++
    ["Run ".toList ++ run.name ++
      if success then " completed".toList else " failed".toList]

/-- The values of placeholders: those of a file, and over them those of the arguments. -/
def migrationValues (tree : Tree) (settings : Settings) (options : MigrateOptions) :
    Except Reply Placeholder.Values :=
  match Settings.loadValues tree settings.valuesFile with
  | .error failure => .error (.ofInput failure)
  | .ok values => match valuesOf options.values with
    | .error written => .error (.error [] ("Invalid --value ".toList ++ quoted written ++
        "; expected NAME=VALUE".toList) none)
    | .ok given => .ok (Placeholder.Values.update values given)

/-- Migrates and records the run. A run that ends by a failure it does not expect is not recorded.
-/
def migrateWith (surroundings : Surroundings) (tree : Tree) (settings : Settings)
    (values : Placeholder.Values) (orchestrator : Option Orchestrator) (options : MigrateOptions) :
    Reply × Tree :=
  let session := Session.start settings values tree
  let run : Run := {
    identity := surroundings.identity
    source := session.source.toText
    destination := session.destination.toText
    target := options.phase
    started := surroundings.now }
  let (number, ledger) := (Ledger.load settings.ledger tree).start run
  let last := (Phase.ofNumber? options.phase).getD .scaffold
  match Phase.runThrough last options.only orchestrator session with
  | (.error failure, after) => (.escaped [] failure, after.tree)
  | (.ok reports, after) =>
    let success := !reports.isEmpty && reports.all (·.success)
    let lines := migrationLines run reports after success
    (if success then .done lines else .negative lines,
      (recordRun number reports after success ledger).save settings.ledger after.tree)

/-- The command `migrate`. -/
def migrate (surroundings : Surroundings) (options : MigrateOptions) (tree : Tree) :
    Reply × Tree :=
  let overrides := [override "source_dir" options.source, override "dest_dir" options.destination,
    override "values_file" options.valuesFile, override "log_level" options.logLevel]
  match settings surroundings tree overrides with
  | .error reply => (reply, tree)
  | .ok settings => match migrationValues tree settings options with
    | .error reply => (reply, tree)
    | .ok values => match orchestratorOf options with
      | .error reply => (reply, tree)
      | .ok orchestrator =>
        migrateWith surroundings tree settings values orchestrator options

/-! ### Validating -/

/-- The findings on the destination, up to a phase. -/
def findingsOf (session : Session) (phase : Int) : Except Failure Findings := do
  let marked : Phase := if phase ≤ 1 then .scaffold else .auth
  let findings ←
    Check.checkAll session.tree session.destination (marked.markers session.settings)
  if 2 ≤ phase then
    if ← Check.stands session.tree session.localPath then
      let parity ← Check.parity session.tree session.templatePath session.localPath
      return findings.append parity
  return findings

/-- The lines that show findings. -/
def findingLines (findings : Findings) : List Text :=
  (findings.passed.map fun item => "  ok: ".toList ++ item) ++
    (findings.warnings.map fun item => "  warning: ".toList ++ item) ++
    (findings.failed.map fun item => "  FAILED: ".toList ++ item) ++
    ["Validation: ".toList ++ ofNat findings.passed.length ++ " passed, ".toList ++
      ofNat findings.failed.length ++ " failed, ".toList ++
      ofNat findings.warnings.length ++ " warning(s)".toList]

/-- The command `validate`. -/
def validate (surroundings : Surroundings) (phase : Int) (destination : Option Text)
    (tree : Tree) : Reply :=
  match settings surroundings tree [override "dest_dir" destination] with
  | .error reply => reply
  | .ok settings =>
    let session := Session.start settings [] tree
    match session.tree.isDirectory? session.destination with
    | .error fault => .escaped [] (.file fault)
    | .ok false =>
      .error [] ("Destination not found: ".toList ++ session.destination.toText) none
    | .ok true => match findingsOf session phase with
      | .error failure => .escaped [] failure
      | .ok findings => match Check.require findings with
        | .ok () => .done (findingLines findings)
        | .error failure => .error (findingLines findings) failure.message none

/-! ### History -/

/-- How a run stands. -/
def statusOf (run : Run) : Text :=
  match run.success with
  | none => "running".toList
  | some true => "ok".toList
  | some false => "failed".toList

/-- The line that lists a run. -/
def runLine (run : Run) : Text :=
  joinWith [' ', ' '] [run.name, run.started, "phase ".toList ++ ofInt run.target,
    statusOf run, run.destination]

/-- The line that shows a phase of a run. -/
def phaseLine (record : PhaseRecord) : Text :=
  "  phase ".toList ++ ofNat record.phase.number ++ [' ', '('] ++ record.phase.name ++
    "): ".toList ++ (if record.success then "ok".toList else "FAILED".toList) ++
    " - steps ".toList ++ ofNat record.steps.completed ++ '/' :: ofNat record.steps.total ++
    [',', ' '] ++ ofNat record.passed ++ " passed, ".toList ++ ofNat record.failed ++
    " failed".toList

/-- The line that shows an entry of a journal. -/
def mutationLine (record : MutationRecord) : Text :=
  let outcome := record.entry.outcome
  "    [".toList ++ ofInt record.entry.phase ++ [']', ' '] ++ padRight 8 outcome.status.name ++
    ' ' :: padRight 14 outcome.primitive ++ ' ' :: padRight 24 outcome.strategy ++
    ' ' :: outcome.path

/-- The lines that show a run. -/
def runLines (ledger : Ledger) (number : Nat) (run : Run) (failedOnly : Bool) : List Text :=
  ("Run ".toList ++ run.name ++ [':', ' '] ++ run.source ++ " -> ".toList ++
      run.destination) ::
    (ledger.phasesOf number).map phaseLine ++
    (ledger.mutationsOf number (if failedOnly then some Status.failed.name else none)).map
      mutationLine

/-- The identity that the name of a run writes. Braces around it and hyphens in it do not count. -/
def identityOf (written : Text) : Except BadValue Nat :=
  let bare := replace "uuid:".toList [] (replace "urn:".toList [] written)
  let digits := (trimWhile (fun char => char = '\x7b' || char = '\x7d') bare).filter (· != '-')
  if digits.length != 32 then .error .runName
  else match Numeral.integer 16 digits with
    | .ok number => .ok number.toNat
    | .error _ => .error (.integer 16 digits)

/-- The command `history`. -/
def history (surroundings : Surroundings) (name : Option Text) (limit : Int) (failedOnly : Bool)
    (tree : Tree) : Reply :=
  match settings surroundings tree [] with
  | .error reply => reply
  | .ok settings =>
    let ledger := Ledger.load settings.ledger tree
    match name with
    | none => match ledger.newest limit with
      | [] => .negative ["No migration runs recorded.".toList]
      | runs => .done (runs.map fun (_, run) => runLine run)
    | some name => match identityOf name with
      | .error fault =>
        .error [] ("Invalid run id: ".toList ++ name) (some fault.message)
      | .ok identity => match ledger.find? identity with
        | none => .error [] ("Run not found: ".toList ++ name) none
        | some (number, run) => .done (runLines ledger number run failedOnly)

/-- The command `init`. -/
def init (surroundings : Surroundings) (reset : Bool) (tree : Tree) :
    Reply × Tree :=
  match settings surroundings tree [] with
  | .error reply => (reply, tree)
  | .ok settings =>
    let line := "Database initialized at: ".toList ++ settings.ledger
    if reset then
      (.done ["Existing data cleared.".toList, line], ({} : Ledger).save settings.ledger tree)
    else (.done [line], (Ledger.load settings.ledger tree).save settings.ledger tree)

/-! ### Commands -/

/-- Runs a command. -/
def Command.run (surroundings : Surroundings) (tree : Tree) : Command → Reply × Tree
  | .parse path asJson dialect =>
    (match settings surroundings tree [override "parser_config" dialect] with
      | .error reply => reply
      | .ok settings => showAll tree settings path (documentLines asJson), tree)
  | .classify path =>
    (match settings surroundings tree [] with
      | .error reply => reply
      | .ok settings => showAll tree settings path instructionLines, tree)
  | .migrate options => CommandLine.migrate surroundings options tree
  | .validate phase destination =>
    (CommandLine.validate surroundings phase destination tree, tree)
  | .history run limit failedOnly =>
    (CommandLine.history surroundings run limit failedOnly tree, tree)
  | .init reset => CommandLine.init surroundings reset tree

/-- Runs the command that arguments give. -/
def run (surroundings : Surroundings) (tree : Tree) (arguments : List Text) :
    Reply × Tree :=
  match Command.ofArguments? arguments with
  | none => (.usage, tree)
  | some command => command.run surroundings tree

end GuidedMigration.CommandLine
