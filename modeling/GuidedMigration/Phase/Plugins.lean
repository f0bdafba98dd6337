/-
This file runs the third phase and the phases in order. What the third phase integrates is up to an
orchestrator; the phase checks its prerequisites, runs it, and writes the configuration.
-/
import GuidedMigration.Phase.Auth

namespace GuidedMigration

open Text

/-- What comes of an orchestrator: whether it succeeded, in a few words, and what must hold then. -/
structure Integration where
  success : Bool
  summary : Text
  expectations : List Expectation := []

/-- Who integrates templates and plugins: what is needed first, and what is done. -/
structure Orchestrator where
  prerequisites : Except Failure Unit
  execute : Migration Integration

namespace Phase.Plugins

/-- The findings on the markers and on what the orchestrator promised. -/
def findings (expectations : List Expectation) (session : Session) : Except Failure Findings :=
  Check.checkAll session.tree session.destination
    (Phase.auth.markers session.settings ++ expectations)

/-- Ends the phase with an error of its own. -/
def refuse {Answer : Type} (error : Text) (what : Prerequisite) : PhasePart Answer := do
  PhasePart.note (PhasePart.addError error)
  throw (.prerequisite what)

/-- The steps of the phase from the orchestrator on. -/
def integrate (orchestrator : Orchestrator) : PhasePart Unit := do
  PhasePart.step "Validating orchestrator prerequisites".toList
    (PhasePart.onSession (Migration.ofResult orchestrator.prerequisites))
  let integration ← PhasePart.step "Integrating templates and plugins".toList
    (PhasePart.onSession orchestrator.execute)
  PhasePart.note fun report => { report with summary := integration.summary }
  if !integration.success then
    PhasePart.note (PhasePart.addError
      ("orchestrator reported failure: ".toList ++ integration.summary))
  PhasePart.advance
  PhasePart.onSession Auth.flush
  let checked ← PhasePart.check (findings integration.expectations)
  PhasePart.conclude checked
  let all ← PhasePart.check (Auth.withParity · checked)
  PhasePart.conclude all

/-- The steps of the phase. -/
def body (orchestrator : Option Orchestrator) : PhasePart Unit := do
  PhasePart.advance
  let markers ← PhasePart.check Phase.plugins.prerequisites
  if !markers.isOk then
    refuse ("auth markers missing: ".toList ++ joinWith [',', ' '] markers.failed)
      (.authIncomplete markers.failed)
  match orchestrator with
  | none => refuse "no orchestrator supplied".toList .noOrchestrator
  | some orchestrator => integrate orchestrator

/-- Runs the phase. -/
def run (orchestrator : Option Orchestrator) : Migration PhaseReport :=
  Phase.plugins.runWith (body orchestrator)

end Phase.Plugins

namespace Phase

/-- Runs a phase. -/
def run (orchestrator : Option Orchestrator) : Phase → Migration PhaseReport
  | .scaffold => Scaffold.run
  | .auth => Auth.run
  | .plugins => Plugins.run orchestrator

/-- Runs phases in order up to the first that does not succeed. -/
def runEach (orchestrator : Option Orchestrator) : List Phase → Migration (List PhaseReport)
  | [] => pure []
  | phase :: rest => do
    let report ← phase.run orchestrator
    if report.success then do
      let reports ← runEach orchestrator rest
      pure (report :: reports)
    else pure [report]

/-- The phases up to one, or that one alone. -/
def through (last : Phase) (only : Bool) : List Phase :=
  if only then [last] else all.filter fun phase => phase.number ≤ last.number

/-- Runs the phases up to one, or that one alone. -/
def runThrough (last : Phase) (only : Bool) (orchestrator : Option Orchestrator) :
    Migration (List PhaseReport) :=
  runEach orchestrator (through last only)

end Phase

end GuidedMigration
