/-
This file holds a phase while it runs: the session and the report that is being written. A step that
fails says so in the report and ends the phase; the migration itself goes on from there.
-/
import GuidedMigration.Phase.Report

namespace GuidedMigration

open Text

/-- A running phase. -/
structure Progress where
  session : Session
  report : PhaseReport

/-- A part of a phase. -/
abbrev PhasePart := ExceptT Failure (StateM Progress)

namespace PhasePart

/-- An action on the session of a phase. -/
def onSession {Answer : Type} (action : Migration Answer) : PhasePart Answer := fun progress =>
  let (result, session) := action progress.session
  (result, { progress with session := session })

/-- A change of the report. -/
def note (update : PhaseReport → PhaseReport) : PhasePart Unit := fun progress =>
  (.ok (), { progress with report := update progress.report })

/-- What the session says. -/
def ask {Answer : Type} (question : Session → Answer) : PhasePart Answer :=
  onSession (Migration.ask question)

/-- Counts one more step. -/
def advance : PhasePart Unit := note fun report => { report with steps := report.steps.advance }

/-- A report with an error added. -/
def addError (message : Text) (report : PhaseReport) : PhaseReport :=
  { report with errors := report.errors ++ [message] }

/-- What went wrong in a step. -/
def stepError (count : StepCount) (name : Text) (failure : Failure) : Text :=
  "step ".toList ++ ofNat count.completed ++ [' ', '('] ++ name ++ "): ".toList ++ failure.message

/-- Counts a step and does it. A failure that ends the phase is noted as an error of the step. -/
def step {Answer : Type} (name : Text) (part : PhasePart Answer) : PhasePart Answer := do
  advance
  fun progress => match part progress with
    | (.ok answer, after) => (.ok answer, after)
    | (.error failure, after) =>
      if failure.endsPhase then
        (.error failure, { after with
          report := addError (stepError after.report.steps name failure) after.report })
      else (.error failure, after)

/-- Notes findings. -/
def conclude (findings : Findings) : PhasePart Unit :=
  note fun report => { report with findings := findings }

/-- What a check of the tree finds. -/
def check {Answer : Type} (question : Session → Except Failure Answer) : PhasePart Answer := do
  let result ← ask question
  ExceptT.mk (pure result)

end PhasePart

namespace Migration

/-- Whether a failure of a single change is no more than a warning. -/
def isForgivable : Failure → Bool
  | .absent _ _ => true
  | .sourceAbsent _ => true
  | .refused _ => true
  | .file fault => fault.isSystem
  | _ => false

/-- Makes a change and adds its outcome to the journal; a forgivable failure leaves a warning. -/
def guarded (what : Text) (action : Files Outcome) : Migration Unit := fun session =>
  match recorded action session with
  | (.ok _, after) => (.ok (), after)
  | (.error failure, after) =>
    if isForgivable failure then (.ok (), after.warn (what ++ [':', ' '] ++ failure.message))
    else (.error failure, after)

end Migration

/-- The end of a phase: the report is completed, and its errors are added to those of the session.
`before` is the number of warnings that there were before the phase. -/
def Progress.finish (before : Nat) (progress : Progress) : PhaseReport × Session :=
  let report := { progress.report with
    warnings := progress.session.warnings.drop before
    success := progress.report.errors.isEmpty && progress.report.findings.isOk }
  (report, { progress.session with errors := progress.session.errors ++ report.errors })

/-- The progress behind a failure that ends a phase: without an error of a step, the failure itself
is the error. -/
def Progress.fail (failure : Failure) (progress : Progress) : Progress :=
  if progress.report.errors.isEmpty then
    { progress with report := PhasePart.addError failure.message progress.report }
  else progress

/-- Runs a phase to its end or to the first failure that ends it. -/
def Phase.runWith (phase : Phase) (body : PhasePart Unit) : Migration PhaseReport := fun session =>
  let before := session.warnings.length
  let start : Progress := ⟨{ session with phase := phase.number },
    { phase := phase, steps := .start phase.declaredSteps }⟩
  match body start with
  | (.ok (), after) =>
    let (report, session) := after.finish before
    (.ok report, session)
  | (.error failure, after) =>
    if failure.endsPhase then
      let (report, session) := (after.fail failure).finish before
      (.ok report, session)
    else (.error failure, after.session)

end GuidedMigration
