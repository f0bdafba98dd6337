/-
This file shows a guide and an instruction as values. A guide has its parts by name, each text and
number as it was read; this is how it is handed to other programs. An instruction says what kind it
is, what it names, and whether it uses the block of code of its step.
-/
import GuidedMigration.Guide.Document
import GuidedMigration.Instruction.Classify
import GuidedMigration.Value.Basic

namespace GuidedMigration

/-! ### Guides -/

/-- A block of code as a value. -/
def CodeBlock.toValue (block : CodeBlock) : Value :=
  .record [("language", .text block.language), ("content", .text block.content),
    ("line", .optional .int block.line)]

/-- The name of the kind of a step: it has a number, or it asks for an action without one. -/
def Step.kind (step : Step) : Text :=
  if step.number.isSome then "numbered".toList else "action".toList

/-- A step as a value. -/
def Step.toValue (step : Step) : Value :=
  .record [("number", .optional (fun number => .int (number : Nat)) step.number),
    ("kind", .text step.kind), ("instruction_text", .text step.text),
    ("snippet", .optional CodeBlock.toValue step.snippet), ("line", .optional .int step.line)]

/-- A section as a value. -/
def Section.toValue (part : Section) : Value :=
  .record [("title", .text part.title), ("level", .int part.level),
    ("raw_content", .text part.content), ("steps", .list (part.steps.map Step.toValue)),
    ("line", .int part.line)]

/-- A link as a value. -/
def Link.toValue (link : Link) : Value :=
  .record [("text", .text link.text), ("target", .text link.target)]

/-- A reference to the guide of a provider as a value. -/
def ProviderReference.toValue (reference : ProviderReference) : Value :=
  .record [("name", .text reference.name), ("file", .text reference.file)]

/-- A guide as a value. -/
def Document.toValue (document : Document) : Value :=
  .record [("path", .text document.path), ("title", .text document.title),
    ("sections", .list (document.sections.map Section.toValue)),
    ("steps", .list (document.steps.map Step.toValue)),
    ("code_blocks", .list (document.blocks.map CodeBlock.toValue)),
    ("links", .list (document.links.map Link.toValue)),
    ("requirements", .ofTexts document.requirements),
    ("provider_references", .list (document.providers.map ProviderReference.toValue)),
    ("hash", .text document.hash)]

/-! ### Instructions -/

/-- A file that an instruction may name as its target. -/
def targetField (target : Option Text) : String × Value := ("target", .optional .text target)

/-- What an action names. -/
def Action.fields : Action → List (String × Value)
  | .copyPath source destination =>
    [("source", .optional .text source), ("destination", .optional .text destination)]
  | .deletePattern target snippets modules =>
    [targetField target, ("snippets", .ofTexts snippets), ("modules", .ofTexts modules)]
  | .updateConfig target => [targetField target]
  | .addImport target statements => [targetField target, ("statements", .ofTexts statements)]
  | .removeImport target modules => [targetField target, ("modules", .ofTexts modules)]
  | .installPackage packages => [("packages", .ofTexts packages)]
  | .generic => []

/-- An instruction as a value. -/
def Instruction.toValue (instruction : Instruction) : Value :=
  .record (("kind", .text instruction.action.name) :: instruction.action.fields ++
    [("claims", .bool instruction.claimsSnippet)])

end GuidedMigration
