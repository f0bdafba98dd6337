/-
This file keeps the ledger of migrations: which runs there were, what came of each of their phases,
and the journal of every run. A phase that is recorded again replaces what was recorded before; a
journal only grows, and an entry that is there already is not recorded again.
-/
import GuidedMigration.Phase.Report

namespace GuidedMigration

/-- A run: the number it is known by outside of the ledger, where from, where to, up to which phase,
and what came of it; nothing has yet while it is not finished. -/
structure Run where
  identity : Nat := 0
  source : Text
  destination : Text
  target : Int
  started : Text
  success : Option Bool := none
  isDual : Bool := false
  isFinished : Bool := false
  deriving DecidableEq

/-- What came of a phase of a run. -/
structure PhaseRecord where
  run : Nat
  phase : Phase
  success : Bool
  steps : StepCount
  passed : Nat
  failed : Nat
  warnings : Nat
  summary : Option Text
  errors : Option Text
  deriving DecidableEq

/-- An entry of the journal of a run, with its position there. -/
structure MutationRecord where
  run : Nat
  position : Nat
  entry : JournalEntry
  deriving DecidableEq

/-- The ledger. Runs are known by their places in the list of runs, which is in order of their
start. -/
structure Ledger where
  runs : List Run := []
  phases : List PhaseRecord := []
  mutations : List MutationRecord := []
  deriving DecidableEq

namespace Ledger

/-- A text, unless it is empty. -/
def nonempty (text : Text) : Option Text := if text.isEmpty then none else some text

/-! ### Recording -/

/-- The ledger with a new run, and its number. -/
def start (run : Run) (ledger : Ledger) : Nat × Ledger :=
  (ledger.runs.length, { ledger with runs := ledger.runs ++ [run] })

/-- The ledger with the end of a run recorded. -/
def finish (run : Nat) (success isDual : Bool) (ledger : Ledger) : Ledger :=
  { ledger with runs := ledger.runs.modify run fun record =>
      { record with success := some success, isDual := isDual, isFinished := true } }

/-- What a report says about a run. -/
def recordOf (run : Nat) (report : PhaseReport) : PhaseRecord where
  run := run
  phase := report.phase
  success := report.success
  steps := report.steps
  passed := report.findings.passed.length
  failed := report.findings.failed.length
  warnings := report.warnings.length
  summary := nonempty report.summary
  errors := nonempty (Text.joinLines report.errors)

/-- Whether a record is about a phase of a run. -/
def isAbout (run : Nat) (phase : Phase) (record : PhaseRecord) : Bool :=
  record.run = run && record.phase = phase

/-- The ledger with the report of a phase, which replaces an earlier one. -/
def recordPhase (run : Nat) (report : PhaseReport) (ledger : Ledger) : Ledger :=
  { ledger with
    phases := ledger.phases.filter (!isAbout run report.phase ·) ++ [recordOf run report] }

/-- The records of the journal of a run, in the order in which they were made. -/
def journalOf (run : Nat) (ledger : Ledger) : List MutationRecord :=
  ledger.mutations.filter (·.run = run)

/-- The records of entries from a position on. -/
def mutationsFrom (run : Nat) : Nat → List JournalEntry → List MutationRecord
  | _, [] => []
  | position, entry :: rest => ⟨run, position, entry⟩ :: mutationsFrom run (position + 1) rest

/-- The ledger with the entries of a journal that are not recorded yet, and their number. -/
def recordJournal (run : Nat) (journal : List JournalEntry) (ledger : Ledger) : Nat × Ledger :=
  let stored := (ledger.journalOf run).length
  (journal.length - stored,
    { ledger with
      mutations := ledger.mutations ++ mutationsFrom run stored (journal.drop stored) })

/-! ### Asking -/

/-- The runs with their numbers, the newest first. A negative limit is none. -/
def newest (limit : Int) (ledger : Ledger) : List (Nat × Run) :=
  let runs := ((List.range ledger.runs.length).zip ledger.runs).reverse
  if limit < 0 then runs else runs.take limit.toNat

/-- The phases of a run, in order. -/
def phasesOf (run : Nat) (ledger : Ledger) : List PhaseRecord :=
  (ledger.phases.filter (·.run = run)).mergeSort fun left right =>
    left.phase.number ≤ right.phase.number

/-- The journal of a run by position, or those of its entries that have a status. -/
def mutationsOf (run : Nat) (status : Option Text) (ledger : Ledger) : List MutationRecord :=
  let records := (ledger.journalOf run).mergeSort fun left right => left.position ≤ right.position
  match status with
  | none | some [] => records
  | some wanted => records.filter (·.entry.outcome.status.name = wanted)

/-- The run with an identity, and its number. -/
def find? (identity : Nat) (ledger : Ledger) : Option (Nat × Run) :=
  ((List.range ledger.runs.length).zip ledger.runs).find? fun (_, run) => run.identity = identity

end Ledger

/-! ### Names of runs -/

/-- The identity that random bytes give a run. Six of its bits are fixed and say that it is a random
one. -/
def Run.identityOf (bytes : List UInt8) : Nat :=
  let number := bytes.foldl (fun number byte => number * 256 + byte.toNat) 0
  let high := number / Nat.pow 2 80 % Nat.pow 2 48
  let middle := number / Nat.pow 2 64 % Nat.pow 2 12
  let low := number % Nat.pow 2 62
  high * Nat.pow 2 80 + 4 * Nat.pow 2 76 + middle * Nat.pow 2 64 + 2 * Nat.pow 2 62 + low

/-- The name of a run: its identity in thirty-two hexadecimal digits, in five groups. -/
def Run.name (run : Run) : Text :=
  let digits := Text.hex 32 run.identity
  digits.take 8 ++ '-' :: (digits.drop 8).take 4 ++ '-' :: (digits.drop 12).take 4 ++
    '-' :: (digits.drop 16).take 4 ++ '-' :: digits.drop 20

end GuidedMigration
