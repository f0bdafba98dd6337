/-
This file keeps a ledger in a file of the tree between two commands. The file holds the list of the
runs as JSON on one line, each run with its phases and its journal. The address of a ledger names
its file; a ledger without a file, or whose file holds something else, is an empty one.
-/
import GuidedMigration.Json.Reader
import GuidedMigration.Json.Writer
import GuidedMigration.Ledger.Basic
import GuidedMigration.Settings.Field

namespace GuidedMigration

open Value

/-! ### Writing -/

/-- A count as a value. -/
def countValue (count : Nat) : Value := int count

/-- What came of a phase as a value. -/
def PhaseRecord.toValue (phase : PhaseRecord) : Value :=
  record [("phase", countValue phase.phase.number), ("name", text phase.phase.name),
    ("success", bool phase.success), ("steps_completed", countValue phase.steps.completed),
    ("steps_total", countValue phase.steps.total), ("passed", countValue phase.passed),
    ("failed", countValue phase.failed), ("warnings", countValue phase.warnings),
    ("summary", optional text phase.summary), ("errors", optional text phase.errors)]

/-- An entry of a journal with its position as a value. An empty detail is none. -/
def MutationRecord.toValue (mutation : MutationRecord) : Value :=
  let outcome := mutation.entry.outcome
  record [("phase", int mutation.entry.phase), ("position", countValue mutation.position),
    ("path", text outcome.path), ("primitive", text outcome.primitive),
    ("strategy", text outcome.strategy), ("status", text outcome.status.name),
    ("detail", optional text (Ledger.nonempty outcome.detail))]

/-- A run with its phases and its journal as a value. -/
def Ledger.runValue (ledger : Ledger) (number : Nat) (run : Run) : Value :=
  record [("identity", countValue run.identity), ("source", text run.source),
    ("destination", text run.destination), ("target_phase", int run.target),
    ("success", optional bool run.success), ("dual_mode", bool run.isDual),
    ("started", text run.started), ("finished", bool run.isFinished),
    ("phases", .list ((ledger.phasesOf number).map PhaseRecord.toValue)),
    ("mutations", .list ((ledger.mutationsOf number none).map MutationRecord.toValue))]

/-- A ledger as a value. -/
def Ledger.toValue (ledger : Ledger) : Value :=
  .list (((List.range ledger.runs.length).zip ledger.runs).map fun (number, run) =>
    ledger.runValue number run)

/-! ### Reading -/

namespace Stored

/-- The value of a member of an object. -/
def member? (name : String) : Value → Option Value
  | .map entries => Mapping.get? (.text name.toList) entries
  | _ => none

/-- What a reader reads in a member of an object. -/
def read? {Read : Type} (reader : Value → Field.Checked Read) (name : String) (value : Value) :
    Option Read := do
  let found ← member? name value
  (reader found).toOption

/-- A count in a member of an object. -/
def count? (name : String) (value : Value) : Option Nat := do
  let number ← read? Field.integer name value
  if 0 ≤ number then pure number.toNat else none

/-- A truth value that may be open in a member of an object. -/
def truth? (name : String) (value : Value) : Option (Option Bool) := do
  let found ← member? name value
  if found.isNull then pure none
  else (Field.truth found).toOption.map some

/-- The items of a member of an object. -/
def items? (name : String) (value : Value) : Option (List Value) :=
  match member? name value with
  | some (.list items) => some items
  | _ => none

/-- What came of a phase of a run. -/
def phase? (run : Nat) (value : Value) : Option PhaseRecord := do
  let phase ← Phase.ofNumber? (← read? Field.integer "phase" value)
  pure {
    run := run
    phase := phase
    success := ← read? Field.truth "success" value
    steps := ⟨← count? "steps_completed" value, ← count? "steps_total" value⟩
    passed := ← count? "passed" value
    failed := ← count? "failed" value
    warnings := ← count? "warnings" value
    summary := ← read? Field.text? "summary" value
    errors := ← read? Field.text? "errors" value }

/-- An entry of the journal of a run. -/
def mutation? (run : Nat) (value : Value) : Option MutationRecord := do
  let status ← Status.ofName? (← read? Field.text "status" value)
  let outcome : Outcome := ⟨← read? Field.text "path" value, ← read? Field.text "primitive" value,
    ← read? Field.text "strategy" value, status, (← read? Field.text? "detail" value).getD []⟩
  pure ⟨run, ← count? "position" value, ← read? Field.integer "phase" value, outcome⟩

/-- A run without its phases and its journal. -/
def run? (value : Value) : Option Run := do
  pure {
    identity := ← count? "identity" value
    source := ← read? Field.text "source" value
    destination := ← read? Field.text "destination" value
    target := ← read? Field.integer "target_phase" value
    started := ← read? Field.text "started" value
    success := ← truth? "success" value
    isDual := ← read? Field.truth "dual_mode" value
    isFinished := ← read? Field.truth "finished" value }

/-- A ledger with a stored run added. -/
def addRun? (ledger : Ledger) (value : Value) : Option Ledger := do
  let (number, started) := ledger.start (← run? value)
  let phases ← (← items? "phases" value).mapM (phase? number)
  let mutations ← (← items? "mutations" value).mapM (mutation? number)
  pure { started with
    phases := started.phases ++ phases
    mutations := started.mutations ++ mutations }

end Stored

namespace Ledger

/-- The ledger that a value stores. -/
def ofValue? : Value → Option Ledger
  | .list runs => runs.foldlM Stored.addRun? {}
  | _ => none

/-- The ledger that a text stores. -/
def ofText? (text : Text) : Option Ledger := do
  let datum ← (Json.read text).toOption
  ofValue? (← datum.toValue?)

/-! ### Files -/

/-- The file of the ledger at an address. An address that names no file is that of a ledger which
lasts no longer than a command. -/
def file? (address : Text) : Option Path :=
  match Text.dropPrefix? "sqlite:///".toList address with
  | none | some [] => none
  | some name => if name = ":memory:".toList then none else some (Path.ofText name)

/-- The ledger at an address as the tree stands. -/
def load (address : Text) (tree : Tree) : Ledger :=
  match file? address with
  | none => {}
  | some path => ((tree.read path).toOption.bind ofText?).getD {}

/-- The tree with the ledger at an address kept in its file. -/
def save (address : Text) (ledger : Ledger) (tree : Tree) : Tree :=
  match file? address with
  | none => tree
  | some path => (Files.write path (Json.writeLine (.ofValue ledger.toValue) ++ ['\n']) tree).2

end Ledger

end GuidedMigration
