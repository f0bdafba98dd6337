/-
This file follows the tasks of a guide one by one. A task is either done, or it fails in a way that
is noted, and then the next one has its turn; only a failure that nothing recovers from ends the
run, and then the tasks before it have all had theirs. So a run is a chain of sessions, one for each
task, in the order of the schedule.

Then it finds what the instructions do that do not only add. Such an instruction deletes what
patterns match in one file, or it copies, or it does nothing because it does not say what to do.
Which of these it does, and where it deletes, is fixed by the settings, the destination and the
instruction.
-/
import GuidedMigration.Proofs.Migration.Planned
import GuidedMigration.Proofs.Tree.Copying

namespace GuidedMigration.Migration

/-- What a task does up to its first failure. -/
def Task.carryOut (hint : Text) (path : Path) (sections : List Section) : Task → Migration Unit
  | .instruction asked => Executor.perform hint asked
  | .block own =>
    Executor.performBlock hint own (blockLabel path own) (blockHint hint path sections own)

/-- What a task is called when it fails. -/
def Task.name : Task → Text
  | .instruction asked => asked.action.name
  | .block own => own.language ++ " block".toList

theorem runTask_eq (hint : Text) (path : Path) (sections : List Section) (task : Task) :
    runTask hint path sections task = recovering task.name (task.carryOut hint path sections) := by
  cases task <;> rfl

/-- What becomes of a session when tasks have their turn one after the other: each is done, or its
failure is noted. -/
inductive Performs (hint : Text) (path : Path) (sections : List Section) :
    List Task → Session → Session → Prop
  | nil (session : Session) : Performs hint path sections [] session session
  | done {task : Task} {rest : List Task} {before between after : Session}
      (ok : task.carryOut hint path sections before = (.ok (), between))
      (later : Performs hint path sections rest between after) :
      Performs hint path sections (task :: rest) before after
  | noted {task : Task} {rest : List Task} {before between after : Session} {failure : Failure}
      (failed : task.carryOut hint path sections before = (.error failure, between))
      (recoverable : failure.isRecoverable = true)
      (later : Performs hint path sections rest (between.noteFailure task.name failure) after) :
      Performs hint path sections (task :: rest) before after

variable {hint : Text} {path : Path} {sections : List Section} {task : Task} {tasks : List Task}
  {before between after : Session} {failure : Failure}

theorem runTask_of_ok (ok : task.carryOut hint path sections before = (.ok (), between)) :
    runTask hint path sections task before = (.ok (), between) := by
  rw [runTask_eq, recovering, ok]

/-- A failure that is noted goes no further. -/
theorem runTask_of_error
    (failed : task.carryOut hint path sections before = (.error failure, between))
    (recoverable : failure.isRecoverable = true) :
    runTask hint path sections task before = (.ok (), between.noteFailure task.name failure) := by
  rw [runTask_eq, recovering, failed]
  exact if_pos recoverable

/-- A failure that nothing recovers from is that of the run. -/
theorem runTask_of_fatal
    (failed : task.carryOut hint path sections before = (.error failure, between))
    (fatal : failure.isRecoverable = false) :
    runTask hint path sections task before = (.error failure, between) := by
  rw [runTask_eq, recovering, failed]
  exact if_neg (by simp [fatal])

theorem runTasks_cons (task : Task) (tasks : List Task) (before : Session) :
    runTasks hint path sections (task :: tasks) before =
      match runTask hint path sections task before with
      | (.ok _, between) => runTasks hint path sections tasks between
      | (.error failure, between) => (.error failure, between) := by
  rw [runTasks, bind_apply]
  obtain ⟨result, between⟩ := runTask hint path sections task before
  cases result <;> rfl

/-- Tasks have their turn as they are run. -/
theorem Performs.runTasks (performs : Performs hint path sections tasks before after) :
    runTasks hint path sections tasks before = (.ok (), after) := by
  induction performs with
  | nil => rfl
  | done ok later inductionHypothesis =>
    rw [runTasks_cons, runTask_of_ok ok]
    exact inductionHypothesis
  | noted failed recoverable later inductionHypothesis =>
    rw [runTasks_cons, runTask_of_error failed recoverable]
    exact inductionHypothesis

/-- A run in which not all tasks have their turn: those before one have it, and this one fails in a
way that nothing recovers from. -/
structure Stops (hint : Text) (path : Path) (sections : List Section) (tasks : List Task)
    (before : Session) (failure : Failure) (after : Session) : Prop where
  stopped : ∃ done task rest reached, tasks = done ++ task :: rest ∧
    Performs hint path sections done before reached ∧
    task.carryOut hint path sections reached = (.error failure, after)
  fatal : failure.isRecoverable = false

theorem Stops.cons_done (ok : task.carryOut hint path sections before = (.ok (), between))
    (stops : Stops hint path sections tasks between failure after) :
    Stops hint path sections (task :: tasks) before failure after := by
  obtain ⟨⟨done, last, rest, reached, split, performs, failed⟩, fatal⟩ := stops
  exact ⟨⟨task :: done, last, rest, reached, by rw [split, List.cons_append],
    .done ok performs, failed⟩, fatal⟩

theorem Stops.cons_noted {noted : Failure}
    (failed : task.carryOut hint path sections before = (.error noted, between))
    (recoverable : noted.isRecoverable = true)
    (stops : Stops hint path sections tasks (between.noteFailure task.name noted) failure after) :
    Stops hint path sections (task :: tasks) before failure after := by
  obtain ⟨⟨done, last, rest, reached, split, performs, failed'⟩, fatal⟩ := stops
  exact ⟨⟨task :: done, last, rest, reached, by rw [split, List.cons_append],
    .noted failed recoverable performs, failed'⟩, fatal⟩

/-- Every run comes to its end or stops at a task. -/
theorem performs_or_stops (hint : Text) (path : Path) (sections : List Section) (tasks : List Task)
    (before : Session) :
    (∃ after, Performs hint path sections tasks before after ∧
        runTasks hint path sections tasks before = (.ok (), after)) ∨
      ∃ failure after, Stops hint path sections tasks before failure after ∧
        runTasks hint path sections tasks before = (.error failure, after) := by
  induction tasks generalizing before with
  | nil => exact .inl ⟨before, .nil before, rfl⟩
  | cons task tasks inductionHypothesis =>
    rw [runTasks_cons]
    cases carried : task.carryOut hint path sections before with
    | mk result between =>
      cases result with
      | ok answer =>
        rw [runTask_of_ok carried]
        rcases inductionHypothesis between with
          ⟨after, performs, ran⟩ | ⟨failure, after, stops, ran⟩
        · exact .inl ⟨after, .done carried performs, ran⟩
        · exact .inr ⟨failure, after, stops.cons_done carried, ran⟩
      | error failure =>
        cases kind : failure.isRecoverable with
        | false =>
          rw [runTask_of_fatal carried kind]
          exact .inr ⟨failure, between, ⟨⟨[], task, tasks, before, rfl, .nil before, carried⟩,
            kind⟩, rfl⟩
        | true =>
          rw [runTask_of_error carried kind]
          rcases inductionHypothesis (between.noteFailure task.name failure) with
            ⟨after, performs, ran⟩ | ⟨other, after, stops, ran⟩
          · exact .inl ⟨after, .noted carried kind performs, ran⟩
          · exact .inr ⟨other, after, stops.cons_noted carried kind, ran⟩

/-- The session in which the tasks of a guide have their turn. -/
def opened (normalizes : Bool) (session : Session) : Session :=
  { session with normalizes := normalizes }

/-- The session behind a guide: it goes on as before with open values. -/
def closed (session after : Session) : Session := { after with normalizes := session.normalizes }

/-- A guide that is read has its tasks run. -/
theorem runGuide_of_read {normalizes : Bool} {session : Session} {document : Document}
    (read : readGuide session.tree session.settings path = .ok document) :
    runGuide path normalizes hint session =
      match runTasks hint path document.sections (tasksOf document) (opened normalizes session) with
      | (.ok _, after) => (.ok document, closed session after)
      | (.error failure, after) => (.error failure, closed session after) := by
  rw [runGuide, bind_apply, guideAt, read]
  dsimp only
  rw [bind_apply, normalizing, opened]
  obtain ⟨result, after⟩ := runTasks hint path document.sections (tasksOf document)
    { session with normalizes := normalizes }
  cases result <;> rfl

/-- A guide that is not read changes nothing. -/
theorem runGuide_of_unread {normalizes : Bool} {session : Session}
    (unread : readGuide session.tree session.settings path = .error failure) :
    runGuide path normalizes hint session = (.error failure, session) := by
  rw [runGuide, bind_apply, guideAt, unread]

end GuidedMigration.Migration

namespace GuidedMigration

open GuidedMigration.Tree

/-- A deletion: in which file, of what, and what it is called. -/
structure Deletion where
  path : Path
  patterns : List Code.Pattern
  primitive : Text

namespace Setup

open Text

variable (setup : Setup)

/-- The deletion of imports from modules. -/
def importDeletion? (hint : Text) (step : Step) (target : Option Text) (modules : List Text) :
    Option Deletion :=
  let shown :=
    (step.snippet.map fun snippet => findAll Executor.fromModule snippet.content).getD []
  let modules := modules ++ shown
  if modules.isEmpty then none
  else some ⟨setup.targetPath hint target (step.text ++ joinWith [' '] modules),
    modules.flatMap Code.importPatterns, "remove-import".toList⟩

/-- Whether a step is about the policy that allows everything. -/
def isAboutPolicy (step : Step) (named : List Text) : Bool :=
  occursIn "allow-all".toList (lower step.text) || occursIn "allow all".toList (lower step.text) ||
    named.any (occursIn Executor.allowAllPolicy)

/-- The deletion of what a step names. -/
def namedDeletion? (hint : Text) (step : Step) (target : Option Text)
    (snippets modules : List Text) : Option Deletion :=
  let named := snippets ++ modules
  let mentionsImport := occursIn "import".toList (lower step.text)
  let patterns := Executor.deletionPatterns mentionsImport snippets modules
  if isAboutPolicy step named then
    some ⟨setup.targetPath hint target (step.text ++ ' ' :: Executor.allowAllPolicy),
      Code.registrationPatterns Executor.allowAllPolicy, "remove-registration".toList⟩
  else if mentionsImport && named.isEmpty || patterns.isEmpty then none
  else some ⟨setup.targetPath hint target (step.text ++ joinWith [' '] named), patterns,
    "delete".toList⟩

/-- The deletion that an instruction asks for, if it asks for one and says what is to go. -/
def deletion? (hint : Text) (instruction : Instruction) : Option Deletion :=
  match instruction.action with
  | .deletePattern target snippets modules =>
    setup.namedDeletion? hint instruction.step target snippets modules
  | .removeImport target modules => setup.importDeletion? hint instruction.step target modules
  | _ => none

end Setup

namespace Executor

open Migration

variable {session : Session}

/-- Deletes as a deletion says. -/
def deleteAs (deletion : Deletion) : Migration Unit :=
  delete deletion.path deletion.patterns deletion.primitive

/-- What an action does that stands for a deletion or for none. -/
def DeletesAs (deletion? : Option Deletion) (action : Migration Unit) (session : Session) : Prop :=
  match deletion? with
  | some deletion => action session = deleteAs deletion session
  | none => ∃ why, action session = (.error (.refused why), session)

theorem removeImports_deletesAs (hint : Text) (step : Step) (target : Option Text)
    (modules : List Text) (session : Session) :
    DeletesAs (session.setup.importDeletion? hint step target modules)
      (removeImports hint step target modules) session := by
  unfold removeImports Setup.importDeletion?
  dsimp only
  split
  · exact ⟨_, rfl⟩
  · rw [DeletesAs, bind_ask_apply, targetPath_eq]
    rfl

theorem deleteNamed_deletesAs (hint : Text) (step : Step) (target : Option Text)
    (snippets modules : List Text) (session : Session) :
    DeletesAs (session.setup.namedDeletion? hint step target snippets modules)
      (deleteNamed hint step target snippets modules) session := by
  unfold deleteNamed Setup.namedDeletion? Setup.isAboutPolicy
  dsimp only
  split
  · rw [DeletesAs, bind_ask_apply, targetPath_eq]
    rfl
  · cases silent : Text.occursIn "import".toList (Text.lower step.text) &&
      (snippets ++ modules).isEmpty with
    | true => exact ⟨_, rfl⟩
    | false =>
      rw [Bool.false_or, if_neg Bool.false_ne_true]
      split
      · exact ⟨_, rfl⟩
      · rw [DeletesAs, bind_ask_apply, targetPath_eq]
        rfl

/-- What an instruction does that does not only add: it deletes, or it copies. -/
theorem perform_cases {instruction : Instruction} (other : instruction.action.addsOnly = false)
    (hint : Text) (session : Session) :
    DeletesAs (session.setup.deletion? hint instruction) (perform hint instruction) session ∨
      session.setup.deletion? hint instruction = none ∧
        ∃ rules source destination, perform hint instruction session =
          (recorded (Target.copyPath session.source session.destination rules source destination)
            >>= fun _ => pure ()) session := by
  unfold perform Setup.deletion?
  cases action : instruction.action with
  | copyPath source destination =>
    match source with
    | none => exact .inl ⟨_, rfl⟩
    | some [] => exact .inl ⟨_, rfl⟩
    | some (first :: rest) =>
      refine .inr ⟨rfl, ⟨session.settings.excluded, session.settings.optionalAssets, false⟩,
        first :: rest, (destination.filter (!·.isEmpty)).getD (first :: rest), ?_⟩
      dsimp only [copyNamed]
      rw [bind_ask_apply]
      rfl
  | deletePattern target snippets modules =>
    exact .inl (deleteNamed_deletesAs hint instruction.step target snippets modules session)
  | removeImport target modules =>
    exact .inl (removeImports_deletesAs hint instruction.step target modules session)
  | _ => simp [action, Action.addsOnly] at other

/-! ### What a deletion does to the tree -/

variable {tree : Tree} {path : Path} {patterns : List Code.Pattern} {primitive : Text}

/-- A deletion writes the file that it is about, or nothing. -/
theorem evolves_delete {allowed : Path.Place → Prop} (inside : allowed (spelled path)) :
    Evolves allowed tree (Target.delete path patterns primitive tree).2 := by
  rw [Target.delete, bind_apply]
  by_cases stands : tree.standing path = .file
  · obtain ⟨-, bytes, held⟩ := standing_eq_file.mp stands
    rw [Target.existing_of_file stands held]
    cases textOf bytes with
    | error failure => exact .refl
    | ok old =>
      dsimp only
      split
      · exact .refl
      · rw [Files.snd_bind_pure]
        exact Files.evolves_write inside (Code.deletePatterns old patterns).1 tree
  · obtain ⟨failure, failed⟩ := Target.existing_of_not_file stands (.targetMissing path)
    rw [failed]
    exact .refl

end Executor

end GuidedMigration
