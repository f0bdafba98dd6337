/-
This file runs a guide: its steps in order, and between them the blocks of code that no step uses,
each at its place in the guide. What runs, and in which order, is fixed before anything is done.
-/
import GuidedMigration.Guide.Document
import GuidedMigration.Migration.Executor

namespace GuidedMigration.Migration

open Text

/-! ### Reading a guide -/

/-- The guide that a text at a path is, in the dialect of the settings. -/
def documentOf (settings : Settings) (path : Path) (text : Text) : Except Failure Document :=
  match Markdown.Dialect.ofName? settings.dialect with
  | none => .error (.mismatch .dialect)
  | some dialect =>
    match Document.ofText dialect settings.deepest.toNat path.toText text with
    | .ok document => .ok document
    | .error refusal => .error (.value (.longInteger refusal))

/-- Reads the guide at a path as the tree stands. -/
def readGuide (tree : Tree) (settings : Settings) (path : Path) : Except Failure Document :=
  match tree.isFile? path with
  | .error fault => .error (.file fault)
  | .ok false => .error (.absent .document path)
  | .ok true => match tree.read path with
    | .error (.undecodable fault) => .error (.malformed (.undecodable path fault))
    | .error failure => .error failure
    | .ok text => documentOf settings path text

/-- Reads the guide at a path. -/
def guideAt (path : Path) : Migration Document := fun session =>
  (readGuide session.tree session.settings path, session)

/-! ### The schedule -/

/-- One thing that a guide asks for: an instruction or a block of its own. -/
inductive Task where
  | instruction (instruction : Instruction)
  | block (block : CodeBlock)
  deriving DecidableEq

/-- The lines of the blocks that instructions use. -/
def claimedLines (instructions : List Instruction) : List Int :=
  (instructions.filter (·.claimsSnippet)).filterMap fun instruction =>
    instruction.step.snippet.bind (·.line)

/-- Whether a block is none of those that instructions use. -/
def isUnclaimed (claimed : List Int) (block : CodeBlock) : Bool :=
  !block.line.any claimed.contains

/-- The blocks that no instruction uses. -/
def unclaimed (instructions : List Instruction) (blocks : List CodeBlock) : List CodeBlock :=
  blocks.filter (isUnclaimed (claimedLines instructions))

/-- The tasks in order: before an instruction come the blocks that stand before its line. -/
def schedule : List CodeBlock → List Instruction → List Task
  | pending, [] => pending.map .block
  | pending, instruction :: rest =>
    match instruction.step.line with
    | none => .instruction instruction :: schedule pending rest
    | some line =>
      let isBefore (block : CodeBlock) : Bool := block.line.any (· < line)
      (pending.takeWhile isBefore).map .block ++
        .instruction instruction :: schedule (pending.dropWhile isBefore) rest

/-- The instructions of a guide. -/
def instructionsOf (document : Document) : List Instruction :=
  document.steps.map Instruction.ofStep

/-- The tasks of a guide. -/
def tasksOf (document : Document) : List Task :=
  let instructions := instructionsOf document
  schedule (unclaimed instructions document.blocks) instructions

/-! ### Running -/

/-- The title of the section that a line belongs to. -/
def sectionTitle (sections : List Section) (line : Option Int) : Text :=
  match line with
  | none => []
  | some line =>
    ((sections.reverse.find? fun part => (part.line : Int) ≤ line).map (·.title)).getD []

/-- A line as it stands in a label. -/
def lineText (line : Option Int) : Text := (line.map ofInt).getD "None".toList

/-- What a block of a guide is called: the name of the guide and the line. -/
def blockLabel (path : Path) (block : CodeBlock) : Text :=
  path.name ++ ':' :: lineText block.line

/-- The words about a block: the hint for the whole guide, its name and the title of the section. -/
def blockHint (hint : Text) (path : Path) (sections : List Section) (block : CodeBlock) : Text :=
  trim (hint ++ ' ' :: path.stem ++ ' ' :: sectionTitle sections block.line)

/-- Does one task. -/
def runTask (hint : Text) (path : Path) (sections : List Section) : Task → Migration Unit
  | .instruction instruction => Executor.execute hint instruction
  | .block block =>
    Executor.applyBlock hint block (blockLabel path block) (blockHint hint path sections block)

/-- Does the tasks in order. -/
def runTasks (hint : Text) (path : Path) (sections : List Section) : List Task → Migration Unit
  | [] => pure ()
  | task :: rest => do
    runTask hint path sections task
    runTasks hint path sections rest

/-- Runs the guide at a path, with open values in its configuration blocks turned into placeholders
or not. `hint` are words about the guide. -/
def runGuide (path : Path) (normalizes : Bool) (hint : Text) : Migration Document := do
  let document ← guideAt path
  normalizing normalizes (runTasks hint path document.sections (tasksOf document))
  pure document

/-- The number of blocks of their own that a guide has. -/
def ownBlocks (document : Document) : Nat :=
  (unclaimed (instructionsOf document) document.blocks).length

end GuidedMigration.Migration
