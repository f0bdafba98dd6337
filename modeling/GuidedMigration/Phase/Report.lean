/-
This file says what the phases of a migration are, what a phase leaves behind once it is complete,
and how a phase reports: the steps it took, what its checks found, its warnings and its errors.
-/
import GuidedMigration.Check.Expectation
import GuidedMigration.Migration.Guide

namespace GuidedMigration

open Text

/-- The phases of a migration, in order. -/
inductive Phase where
  | scaffold
  | auth
  | plugins
  deriving DecidableEq

namespace Phase

/-- The number of a phase. -/
def number : Phase → Nat
  | .scaffold => 1
  | .auth => 2
  | .plugins => 3

/-- The phases. -/
def all : List Phase := [.scaffold, .auth, .plugins]

/-- The phase with a number. -/
def ofNumber? (number : Int) : Option Phase := all.find? fun phase => (phase.number : Int) = number

/-- The phase with a number, which must be one of a phase. -/
def ofNumber (number : Int) : Except Failure Phase :=
  match ofNumber? number with
  | some phase => .ok phase
  | none => .error (.value (.phase number))

/-- The name of a phase. -/
def name : Phase → Text
  | .scaffold => "scaffold".toList
  | .auth => "auth".toList
  | .plugins => "templates/plugins".toList

/-- How many steps a phase declares. -/
def declaredSteps : Phase → Nat
  | .scaffold => 7
  | .auth => 6
  | .plugins => 4

end Phase

/-! ### Steps -/

/-- A count of steps. One step more than declared raises the total. -/
structure StepCount where
  completed : Nat
  total : Nat
  deriving DecidableEq

namespace StepCount

/-- A count before the first step. -/
def start (total : Nat) : StepCount := ⟨0, total⟩

/-- A count after one more step. -/
def advance (count : StepCount) : StepCount :=
  ⟨count.completed + 1, max count.total (count.completed + 1)⟩

end StepCount

/-! ### Reports -/

/-- The report of a phase. A phase that ran another one first also has the report of that one. -/
structure PhaseReport where
  phase : Phase
  success : Bool := false
  steps : StepCount
  summary : Text := []
  findings : Findings := {}
  warnings : List Text := []
  errors : List Text := []
  prerequisite : Option PhaseReport := none

namespace PhaseReport

/-- The first line of a report. -/
def headline (report : PhaseReport) : Text :=
  "Phase ".toList ++ ofNat report.phase.number ++ [' ', '('] ++ report.phase.name ++ "): ".toList ++
    (if report.success then "ok".toList else "FAILED".toList) ++ " - steps ".toList ++
    ofNat report.steps.completed ++ '/' :: ofNat report.steps.total ++ [',', ' '] ++
    ofNat report.findings.passed.length ++ " passed, ".toList ++
    ofNat report.findings.failed.length ++ " failed, ".toList ++
    ofNat report.warnings.length ++ " warning(s)".toList

/-- The lines of a report. -/
def lines (report : PhaseReport) : List Text :=
  report.headline ::
    (if report.summary.isEmpty then [] else [' ' :: ' ' :: report.summary]) ++
    (report.errors.map fun error => "  error: ".toList ++ error) ++
    (report.findings.failed.map fun failed => "  failed: ".toList ++ failed)

end PhaseReport

/-! ### Markers -/

/-- What a phase leaves behind once it is complete. -/
def Phase.markers (phase : Phase) (settings : Settings) : List Expectation :=
  let backend := Role.backendEntry.relative settings.rolePaths
  let scaffold : List Expectation := [
    { path := "packages/app/src/components/Root".toList },
    { path := Role.themeRoot.relative settings.rolePaths },
    { path := "packages/app/src/assets".toList },
    { path := settings.template }]
  if phase = .scaffold then scaffold
  else scaffold ++ [
    { path := settings.template, kind := .key, needle := some "auth.providers".toList },
    { path := backend },
    { path := backend, kind := .absent, needle := some Executor.allowAllPolicy, isSoft := true,
      label := some "allow-all policy removed".toList }]

/-- The findings on the markers of the phase before a phase. The first phase needs nothing. -/
def Phase.prerequisites (phase : Phase) (session : Session) : Except Failure Findings :=
  match phase with
  | .scaffold => .ok {}
  | .auth =>
    Check.checkAll session.tree session.destination (Phase.scaffold.markers session.settings)
  | .plugins =>
    Check.checkAll session.tree session.destination (Phase.auth.markers session.settings)

end GuidedMigration
