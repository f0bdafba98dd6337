/-
This file reads the arguments of the command line: a command, its options and its operands. Options
stand before or behind operands; one that takes a value takes the next argument or what is behind an
equals sign, and one that is given twice counts as given last, unless it is kept each time. What is
not understood gives no command.
-/
import GuidedMigration.Number.Numeral

namespace GuidedMigration.CommandLine

open Text

/-- What `migrate` is told. -/
structure MigrateOptions where
  phase : Int
  source : Option Text
  destination : Option Text
  values : List Text
  valuesFile : Option Text
  only : Bool
  integration : Text
  plugins : List Text
  templates : List Text
  catalog : List Text
  repositories : List Text
  logLevel : Option Text

/-- A command. -/
inductive Command where
  | parse (path : Text) (asJson : Bool) (dialect : Option Text)
  | classify (path : Text)
  | migrate (options : MigrateOptions)
  | validate (phase : Int) (destination : Option Text)
  | history (run : Option Text) (limit : Int) (failedOnly : Bool)
  | init (reset : Bool)

/-! ### Options and operands -/

/-- The options of a command: their names, and whether they take a value. -/
abbrev Options := List (Text × Bool)

/-- What the arguments of a command hold: its options in order, each with its value, and its
operands. -/
structure Given where
  options : List (Text × Text)
  operands : List Text

/-- The arguments with one more option in front. -/
def Given.withOption (name value : Text) (given : Given) : Given :=
  { given with options := (name, value) :: given.options }

/-- The arguments with one more operand in front. -/
def Given.withOperand (operand : Text) (given : Given) : Given :=
  { given with operands := operand :: given.operands }

/-- Whether an argument is an option. -/
def isOption (argument : Text) : Bool := argument.head? = some '-' && 1 < argument.length

/-- The name of an option and what stands behind an equals sign in it. -/
def splitOption (argument : Text) : Text × Option Text :=
  match splitFirst? ['='] argument with
  | some (name, value) => (name, some value)
  | none => (argument, none)

/-- Sorts arguments into options and operands. Behind two hyphens everything is an operand. -/
def sort? (options : Options) : List Text → Option Given
  | [] => some ⟨[], []⟩
  | argument :: rest =>
    if argument = ['-', '-'] then some ⟨[], rest⟩
    else if !isOption argument then (sort? options rest).map (·.withOperand argument)
    else
      let (name, value?) := splitOption argument
      match options.lookup name, value?, rest with
      | some false, none, rest => (sort? options rest).map (·.withOption name [])
      | some true, some value, rest => (sort? options rest).map (·.withOption name value)
      | some true, none, value :: rest => (sort? options rest).map (·.withOption name value)
      | _, _, _ => none

/-- The values given for an option, in order. -/
def Given.all (name : String) (given : Given) : List Text :=
  (given.options.filter (·.1 = name.toList)).map (·.2)

/-- The value given last for an option. -/
def Given.last? (name : String) (given : Given) : Option Text := (given.all name).getLast?

/-- Whether an option is given. -/
def Given.has (name : String) (given : Given) : Bool := !(given.all name).isEmpty

/-- The integer given last for an option. -/
def Given.integer? (name : String) (usual : Int) (given : Given) : Option Int :=
  match given.last? name with
  | none => some usual
  | some written => (Numeral.integer 10 written).toOption

/-- The number of a phase given last. -/
def Given.phase? (given : Given) : Option Int := do
  let phase ← given.integer? "--phase" 1
  if 1 ≤ phase && phase ≤ 3 then pure phase else none

/-! ### Commands -/

/-- The only operand. -/
def Given.operand? (given : Given) : Option Text :=
  match given.operands with
  | [operand] => some operand
  | _ => none

/-- What `migrate` is told. -/
def migrateOptions? (given : Given) : Option MigrateOptions := do
  let phase ← given.phase?
  if given.operands.isEmpty then
    pure {
      phase := phase
      source := given.last? "--source"
      destination := given.last? "--dest"
      values := given.all "--value"
      valuesFile := given.last? "--values-file"
      only := given.has "--only"
      integration := (given.last? "--integration").getD "both".toList
      plugins := given.all "--plugin"
      templates := given.all "--template"
      catalog := given.all "--catalog"
      repositories := given.all "--catalog-repo"
      logLevel := given.last? "--log-level" }
  else none

/-- The options of a command, by its name. -/
def optionsOf? (command : Text) : Option Options :=
  let table : List (String × List (String × Bool)) := [
    ("parse", [("--json", false), ("--parser-config", true)]),
    ("classify", []),
    ("migrate", [("--phase", true), ("--source", true), ("--dest", true), ("--value", true),
      ("--values-file", true), ("--only", false), ("--integration", true), ("--plugin", true),
      ("--template", true), ("--catalog", true), ("--catalog-repo", true), ("--log-level", true)]),
    ("validate", [("--phase", true), ("--dest", true)]),
    ("history", [("--run", true), ("--limit", true), ("--failed", false)]),
    ("init", [("--reset", false)])]
  (table.find? fun (name, _) => name.toList = command).map fun (_, options) =>
    options.map fun (name, takesValue) => (name.toList, takesValue)

/-- The command with a name and sorted arguments. -/
def build? (command : Text) (given : Given) : Option Command :=
  if command = "parse".toList then
    given.operand?.map fun path =>
      .parse path (given.has "--json") (given.last? "--parser-config")
  else if command = "classify".toList then given.operand?.map .classify
  else if command = "migrate".toList then (migrateOptions? given).map .migrate
  else if !given.operands.isEmpty then none
  else if command = "validate".toList then
    given.phase?.map fun phase => .validate phase (given.last? "--dest")
  else if command = "history".toList then
    (given.integer? "--limit" 20).map fun limit =>
      .history (given.last? "--run") limit (given.has "--failed")
  else if command = "init".toList then some (.init (given.has "--reset"))
  else none

/-- The command with a name and the arguments behind it. -/
def Command.named? (command : Text) (arguments : List Text) : Option Command := do
  let options ← optionsOf? command
  let given ← sort? options arguments
  build? command given

/-- The command that arguments give. Two hyphens may stand before its name. -/
def Command.ofArguments? : List Text → Option Command
  | [] => none
  | first :: rest =>
    if first = ['-', '-'] then
      match rest with
      | [] => none
      | command :: arguments => Command.named? command arguments
    else Command.named? first rest

end GuidedMigration.CommandLine
