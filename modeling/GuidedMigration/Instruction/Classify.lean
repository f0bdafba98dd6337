/-
This file turns a step into an instruction. Rules are tried in a fixed order on the text of the step
in small letters; the first rule that applies reads from the step what its kind of instruction
needs. A step to which no rule applies is generic: nothing is done for it.
-/
import GuidedMigration.Code.Statement
import GuidedMigration.Guide.Basic
import GuidedMigration.Instruction.Quoted

namespace GuidedMigration

/-- What a step asks for. -/
inductive Action where
  | copyPath (source destination : Option Text)
  | deletePattern (target : Option Text) (snippets modules : List Text)
  | updateConfig (target : Option Text)
  | addImport (target : Option Text) (statements : List Text)
  | removeImport (target : Option Text) (modules : List Text)
  | installPackage (packages : List Text)
  | generic
  deriving DecidableEq

/-- A step together with what it asks for. -/
structure Instruction where
  step : Step
  action : Action
  deriving DecidableEq

/-- The name of a kind of instruction. -/
def Action.name : Action → Text
  | .copyPath _ _ => "copy_path".toList
  | .deletePattern _ _ _ => "delete_pattern".toList
  | .updateConfig _ => "update_config".toList
  | .addImport _ _ => "add_import".toList
  | .removeImport _ _ => "remove_import".toList
  | .installPackage _ => "install_package".toList
  | .generic => "generic".toList

namespace Instruction

open Text

/-- The code of a step's snippet. -/
def snippetCode (step : Step) : Text := (step.snippet.map (·.content)).getD []

/-! ### What a kind of instruction needs -/

/-- The paths between which a step copies: those behind `from` and `to`, or else the first two
between backquotes, or else the same path twice. -/
def copyOf (step : Step) : Action :=
  match findFirst? (fromTo quotedPath?) step.text with
  | some (source, destination) => .copyPath (some source) (some destination)
  | none =>
    let paths := (tokens step.text).filter isPath
    match paths with
    | source :: destination :: _ => .copyPath (some source) (some destination)
    | _ => match findFirst? (fromTo barePath?) step.text with
      | some (source, destination) =>
        let tidy (path : Text) : Text :=
          trimRightWhile (fun char => char = '.' || char = ',') path
        .copyPath (some (tidy source)) (some (tidy destination))
      | none => .copyPath paths.head? paths.head?

/-- What a step deletes: the statements between backquotes and the snippet; packages with a scope
are modules. -/
def deletionOf (step : Step) : Action :=
  let others := (tokens step.text).filter (!isPath ·)
  .deletePattern (anyTarget? step.text)
    (others.filter isStatement ++ (step.snippet.map (trim ·.content)).toList)
    (others.filter fun token => token.head? = some '@' && !isStatement token)

/-- The configuration that a step updates. -/
def updateOf (step : Step) : Action := .updateConfig (anyTarget? step.text)

/-- The imports that a step adds: those between backquotes, then those of the snippet. -/
def additionOf (step : Step) : Action :=
  .addImport (sourceTarget? step.text)
    ((tokens step.text).filter Code.startsImport ++ Code.imports (snippetCode step))

/-- The modules whose imports a step removes. -/
def removalOf (step : Step) : Action :=
  .removeImport (sourceTarget? step.text)
    ((tokens step.text).filter fun token => !isPath token || token.head? = some '@')

/-- The packages that a step installs: those between backquotes, then those of the commands in the
snippet, each once. -/
def installationOf (step : Step) : Action :=
  .installPackage
    (((tokens step.text).filter fun token => isPackage token && !hasExtension token) ++
      installedPackages (snippetCode step)).eraseDups

/-! ### The rules -/

/-- A rule: to which texts it applies and what it makes of a step. -/
structure Rule where
  applies : Text → Bool
  build : Step → Action

/-- Whether one of the words occurs in a text. -/
def holds (word : String) (text : Text) : Bool := occursIn word.toList text

/-- The rules in the order in which they are tried. -/
def rules : List Rule := [
  ⟨fun text => (holds "copy" text && (holds "file" text || holds "from" text)) ||
    (holds "create" text && holds "file" text), copyOf⟩,
  ⟨fun text => holds "delete" text || holds "remove" text, deletionOf⟩,
  ⟨fun text => holds "update" text &&
    (holds "config" text || holds ".ts" text || holds ".yaml" text), updateOf⟩,
  ⟨fun text => holds "add" text && holds "import" text, additionOf⟩,
  ⟨fun text => holds "import" text &&
    (holds "remove" text || holds "drop" text || holds "strip" text), removalOf⟩,
  ⟨fun text => holds "install" text && (holds "package" text || holds "dependenc" text),
    installationOf⟩]

/-- The action of the first rule that applies to a step. -/
def firstAction (rules : List Rule) (step : Step) : Action :=
  match rules.find? (·.applies (lower step.text)) with
  | some rule => rule.build step
  | none => .generic

/-- The instruction that a step gives. -/
def ofStep (step : Step) : Instruction := ⟨step, firstAction rules step⟩

/-! ### Snippets -/

/-- The languages of configuration documents. -/
def configLanguages : List Text := ["yaml", "yml"].map String.toList

/-- The languages of source code. -/
def codeLanguages : List Text :=
  ["ts", "tsx", "typescript", "js", "jsx", "javascript"].map String.toList

/-- The languages of commands. -/
def shellLanguages : List Text :=
  ["bash", "sh", "shell", "console", "zsh", "text"].map String.toList

/-- Whether an instruction uses the snippet of its step, so that the snippet is not applied on its
own. -/
def claimsSnippet (instruction : Instruction) : Bool :=
  match instruction.step.snippet with
  | none => false
  | some snippet => match instruction.action with
    | .updateConfig _ => configLanguages.contains snippet.language ||
        codeLanguages.contains snippet.language
    | .installPackage _ => shellLanguages.contains snippet.language
    | .addImport _ _ | .removeImport _ _ | .deletePattern _ _ _ => true
    | .copyPath _ _ | .generic => false

end Instruction

end GuidedMigration
