/-
This file says what instructions and blocks are made of. They ask the session where to work, insert,
delete or merge there, and go on; a statement that fails is noted, and the next one has its turn. So
what holds of each of these steps, and of one step after another, holds of instructions and blocks.

It then follows the warnings and the journal through the run of a guide. What is done leaves no
failed entry in the journal; what fails and is recovered from leaves one warning and one failed
entry, and nothing else leaves either. So the warnings of a run and the failed entries of its
journal are the same list of failures, written twice.
-/
import GuidedMigration.Migration.Executor
import GuidedMigration.Proofs.Migration.Performed

namespace GuidedMigration

/-- Whether a failure is about a guide or a phase as a whole: something that it needs is missing, or
its checks failed. -/
def Failure.isGate : Failure → Bool
  | .absent _ _ | .prerequisite _ | .checks _ => true
  | _ => false

end GuidedMigration

namespace GuidedMigration.Migration

/-- A property that instructions and blocks have if their steps do. Paths that they work at follow
from the destination: what is good of it must be good of all that is named seen from it. What they
refuse to do, or cannot read, is no failure of the guide as a whole. -/
structure Inherits (good : Path → Prop) (holds : Migration Unit → Prop) : Prop where
  child : ∀ base text, good base → good (base.child text)
  pure : holds (pure ())
  refuse : ∀ why, holds (throw (.refused why))
  andThen : ∀ first second, holds first → holds second → holds (first >>= fun _ => second)
  recovering : ∀ what action, holds action → holds (recovering what action)
  ask : ∀ {Answer : Type} (question : Session → Answer) (next : Answer → Migration Unit),
    (∀ session, good session.destination → holds (next (question session))) →
      holds (ask question >>= next)
  ofResult : ∀ {Answer : Type} (result : Except Failure Answer) (next : Answer → Migration Unit),
    (∀ failure, result = .error failure → failure.isGate = false) →
      (∀ answer, holds (next answer)) → holds (ofResult result >>= next)
  ifThere : ∀ path first second, holds first → holds second →
    holds (onFiles (Files.exists? path) >>= fun there => if there then first else second)
  queue : ∀ packages, holds (change (·.queue packages))
  contribute : ∀ contribution, holds (change fun session =>
    { session with contributions := session.contributions ++ [contribution] })
  insert : ∀ path fragment primitive, good path → holds (Executor.insert path fragment primitive)
  delete : ∀ path patterns primitive, good path → holds (Executor.delete path patterns primitive)
  merge : ∀ path primitive label fragment, good path →
    holds (Executor.merge path primitive label fragment)
  depend : ∀ path sections, good path →
    holds (do let _ ← recorded (Target.mergeDependencies path sections))

theorem isGate_of_blockMapping {content : Text} {failure : Failure}
    (failed : Executor.blockMapping content = .error failure) : failure.isGate = false := by
  rw [Executor.blockMapping] at failed
  cases read : Config.readBlock content with
  | ok fragment => simp [read, Except.mapError] at failed
  | error fault =>
    rw [read] at failed
    rw [← Except.error.inj failed]
    cases fault <;> rfl

theorem isGate_of_readFragment {content : Text} {failure : Failure}
    (failed : Target.readFragment content = .error failure) : failure.isGate = false := by
  rw [Target.readFragment] at failed
  split at failed
  · rw [← Except.error.inj failed]; rfl
  · rw [← Except.error.inj failed]; rfl
  · cases failed
  · rw [← Except.error.inj failed]; rfl

namespace Inherits

open Executor

variable {good : Path → Prop} {holds : Migration Unit → Prop} {session : Session} {path : Path}
  (inherits : Inherits good holds)

include inherits

theorem good_pathOf (destination : good session.destination) (role : Role) :
    good (session.pathOf role) := inherits.child _ _ destination

theorem good_targetPath (destination : good session.destination) (hint : Text)
    (target : Option Text) (words : Text) : good (targetPath hint target words session) := by
  unfold targetPath
  split
  · exact inherits.child _ _ destination
  · exact inherits.good_pathOf destination _

/-! ### Code -/

theorem insertEach (meant : good path) (primitive : Code.Primitive) (fragments : List Text) :
    holds (insertEach path primitive fragments) := by
  induction fragments with
  | nil => exact inherits.pure
  | cons fragment fragments inductionHypothesis =>
    exact inherits.andThen _ _ (inherits.insert path fragment primitive meant) inductionHypothesis

theorem insertStatements (meant : good path) (isEntityPage : Bool) (statements : List Text) :
    holds (insertStatements path isEntityPage statements) := by
  induction statements with
  | nil => exact inherits.pure
  | cons statement statements inductionHypothesis =>
    rw [Executor.insertStatements]
    cases primitiveOf? statement isEntityPage with
    | none => exact inductionHypothesis
    | some primitive =>
      exact inherits.andThen _ _ (inherits.recovering _ _
        (inherits.insert path statement primitive meant)) inductionHypothesis

theorem applyCode (hint code words : Text) {target : Option Path}
    (meant : ∀ path ∈ target, good path) : holds (applyCode hint code words target) := by
  unfold Executor.applyCode
  have inserts {path : Path} (meant : good path) (isEntityPage : Bool) :=
    inherits.andThen _ _ (inherits.insertEach meant .importStatement (Code.imports code))
      (inherits.insertStatements meant isEntityPage (Code.statements (Code.withoutImports code)))
  cases target with
  | some path => exact inserts (meant path rfl) _
  | none => exact inherits.ask _ _ fun session destination =>
      inserts (inherits.good_pathOf destination _) _

/-! ### Configuration -/

theorem applyConfig (fragment : Mapping) (label : Text) (target : Option Text) :
    holds (applyConfig fragment label target) := by
  refine inherits.ask id _ fun session destination => ?_
  dsimp only
  split
  · exact inherits.merge _ _ _ _ (inherits.child _ _ destination)
  · exact inherits.andThen _ _ (inherits.contribute _)
      (inherits.merge _ _ _ _ (inherits.child _ _ destination))

theorem applyCatalog (fragment : Mapping) (label : Text) :
    holds (applyCatalog fragment label) :=
  inherits.ask _ _ fun _ destination => inherits.ifThere _ _ _
    (inherits.merge _ _ _ _ (inherits.good_pathOf destination _)) (inherits.refuse _)

theorem update (hint : Text) (step : Step) (target : Option Text) :
    holds (update hint step target) := by
  unfold Executor.update
  split
  · exact inherits.pure
  · split
    · exact inherits.ofResult _ _ (fun _ => isGate_of_blockMapping) fun fragment =>
        inherits.applyConfig _ _ _
    · split
      · refine inherits.ask _ _ fun session destination => inherits.applyCode _ _ _ ?_
        intro path named
        obtain ⟨name, -, rfl⟩ := Option.map_eq_some_iff.mp named
        exact inherits.child _ _ destination
      · exact inherits.pure

/-! ### Instructions and blocks -/

/-- An instruction has the property, if its copy has it in case it copies, and its change of the
queue in case it installs. -/
theorem perform (hint : Text) {asked : Instruction}
    (copies : ∀ source destination, asked.action = .copyPath source destination →
      holds (copyNamed asked.step source destination))
    (installs : ∀ packages, asked.action = .installPackage packages →
      holds (change (·.install packages))) : holds (perform hint asked) := by
  unfold Executor.perform
  cases action : asked.action with
  | copyPath source destination => exact copies source destination action
  | deletePattern target snippets modules =>
    dsimp only
    unfold deleteNamed
    dsimp only
    split
    · exact inherits.ask _ _ fun session destination =>
        inherits.delete _ _ _ (inherits.good_targetPath destination _ _ _)
    · split
      · exact inherits.refuse _
      · split
        · exact inherits.refuse _
        · exact inherits.ask _ _ fun session destination =>
            inherits.delete _ _ _ (inherits.good_targetPath destination _ _ _)
  | updateConfig target => exact inherits.update hint asked.step target
  | addImport target statements =>
    dsimp only
    unfold addImports
    split
    · exact inherits.refuse _
    · exact inherits.ask _ _ fun session destination =>
        inherits.insertEach (inherits.good_targetPath destination _ _ _) _ _
  | removeImport target modules =>
    dsimp only
    unfold removeImports
    dsimp only
    split
    · exact inherits.refuse _
    · exact inherits.ask _ _ fun session destination =>
        inherits.delete _ _ _ (inherits.good_targetPath destination _ _ _)
  | installPackage packages => exact installs packages action
  | generic => exact inherits.pure

theorem performBlock (executorHint : Text) (block : CodeBlock) (label hint : Text) :
    holds (performBlock executorHint block label hint) := by
  unfold Executor.performBlock
  split
  · refine inherits.ofResult _ _ (fun _ => isGate_of_blockMapping) fun fragment => ?_
    split
    · exact inherits.applyCatalog fragment label
    · exact inherits.applyConfig fragment label none
  · split
    · exact inherits.applyCode _ _ _ nofun
    · split
      · exact inherits.ask _ _ fun session destination =>
          inherits.ofResult _ _ (fun _ => isGate_of_readFragment) fun sections =>
            inherits.depend _ _ (inherits.good_pathOf destination _)
      · split
        · exact inherits.queue _
        · exact inherits.pure

end Inherits

end GuidedMigration.Migration

/-! ### Notes -/

namespace GuidedMigration

/-- A failure that is noted, and the name that it is noted under. -/
structure Note where
  what : Text
  failure : Failure

/-- The warning that a note leaves. -/
def Note.warning (note : Note) : Text := note.what ++ [':', ' '] ++ note.failure.message

/-- The entry that a note leaves in the journal of a phase. -/
def Note.entry (phase : Int) (note : Note) : JournalEntry :=
  ⟨phase, Session.failedOutcome note.what note.failure⟩

/-- The entries of the journal that say that something failed. -/
def Session.failures (session : Session) : List JournalEntry :=
  session.journal.filter (·.outcome.status = .failed)

/-- A session that has gone on with notes of failures, and with no others. -/
structure Session.Notes (before : Session) (notes : List Note) (after : Session) : Prop where
  warnings : after.warnings = before.warnings ++ notes.map Note.warning
  failures : after.failures = before.failures ++ notes.map (Note.entry before.phase)
  phase : after.phase = before.phase
  recoverable : ∀ note ∈ notes, note.failure.isRecoverable = true

namespace Session.Notes

variable {first second third : Session} {left right : List Note}

/-- A session that has neither more warnings nor more entries in its journal. -/
theorem ofSame (warnings : second.warnings = first.warnings)
    (journal : second.journal = first.journal) (phase : second.phase = first.phase) :
    first.Notes [] second where
  warnings := warnings.trans (List.append_nil _).symm
  failures := (congrArg _ journal).trans (List.append_nil _).symm
  phase := phase
  recoverable := by simp

theorem refl (session : Session) : session.Notes [] session := ofSame rfl rfl rfl

theorem trans (notes : first.Notes left second) (further : second.Notes right third) :
    first.Notes (left ++ right) third where
  warnings := by rw [further.warnings, notes.warnings, List.map_append, List.append_assoc]
  failures := by
    rw [further.failures, notes.failures, notes.phase, List.map_append, List.append_assoc]
  phase := further.phase.trans notes.phase
  recoverable note member :=
    (List.mem_append.mp member).elim (notes.recoverable note) (further.recoverable note)

/-- An outcome that is no failure is nothing to note. -/
theorem record {outcome : Outcome} (done : outcome.status ≠ .failed) (session : Session) :
    session.Notes [] (session.record outcome) where
  warnings := (List.append_nil _).symm
  failures := by simp [Session.failures, Session.record, done]
  phase := rfl
  recoverable := by simp

/-- A failure that is noted. -/
theorem noteFailure {failure : Failure} (recoverable : failure.isRecoverable = true) (what : Text)
    (session : Session) : session.Notes [⟨what, failure⟩] (session.noteFailure what failure) where
  warnings := rfl
  failures := by
    simp [Session.failures, Session.noteFailure, Session.record, Session.warn, Note.entry,
      Session.failedOutcome]
  phase := rfl
  recoverable note member := by rwa [List.mem_singleton.mp member]

end Session.Notes

/-! ### Outcomes -/

namespace Files

variable {First Answer : Type} {holds : Answer → Prop}

/-- Whether something holds of all that an action answers. -/
def Answers (holds : Answer → Prop) (action : Files Answer) : Prop :=
  ∀ tree answer, (action tree).1 = .ok answer → holds answer

theorem Answers.pure {answer : Answer} (held : holds answer) : Answers holds (Pure.pure answer) :=
  fun _ _ answered => Except.ok.inj answered ▸ held

theorem Answers.throw (failure : Failure) : Answers holds (throw failure : Files Answer) :=
  fun _ _ answered => nomatch answered

theorem Answers.bind {action : Files First} {next : First → Files Answer}
    (further : ∀ between, Answers holds (next between)) : Answers holds (action >>= next) := by
  intro tree answer answered
  rw [bind_apply] at answered
  cases outcome : action tree with
  | mk result after =>
    rw [outcome] at answered
    cases result with
    | ok between => exact further between after answer answered
    | error failure => exact nomatch answered

end Files

namespace Target

open Files

/-- Whether an outcome does not say that something failed. -/
def IsDone (outcome : Outcome) : Prop := outcome.status ≠ .failed

variable {path : Path} {patterns : List Code.Pattern}

theorem answers_insert (path : Path) (fragment : Text) (primitive : Code.Primitive) :
    Answers IsDone (insert path fragment primitive) := by
  unfold insert insertAs
  refine .bind fun old => ?_
  split
  · exact .pure nofun
  · exact .bind fun kind => .bind fun insertion => .bind fun _ => .pure nofun

theorem answers_delete (path : Path) (patterns : List Code.Pattern) (primitive : Text) :
    Answers IsDone (delete path patterns primitive) := by
  unfold delete
  refine .bind fun old => ?_
  dsimp only
  split
  · exact .pure nofun
  · exact .bind fun _ => .pure nofun

theorem answers_mergeDependencies (path : Path) (sections : Sections) :
    Answers IsDone (mergeDependencies path sections) := by
  unfold mergeDependencies
  refine .bind fun old => .bind fun manifest => .bind fun outcome => ?_
  split
  split
  · exact .pure nofun
  · exact .bind fun _ => .pure nofun

theorem answers_copyPath (source destination : Path) (rules : CopyRules) (origin target : Text) :
    Answers IsDone (copyPath source destination rules origin target) := by
  unfold copyPath
  dsimp only
  split
  · exact .throw _
  · refine .bind fun there => ?_
    split
    · split
      · exact .pure nofun
      · exact .throw _
    · refine .bind fun directory => ?_
      split
      · refine .bind fun same => ?_
        split
        · exact .pure nofun
        · exact .bind fun _ => .pure nofun
      · exact .bind fun _ => .pure nofun

end Target

/-! ### Actions on a session -/

namespace Migration

variable {First Answer : Type}

/-- Whether an action leaves for each failure that it notes a warning and a failed entry, and no
others. -/
def KeepsBooks (action : Migration Answer) : Prop :=
  ∀ session : Session, ∃ notes, session.Notes notes (action session).2

namespace KeepsBooks

/-- An action that changes neither the warnings nor the journal. -/
theorem ofQuiet {action : Migration Answer}
    (quiet : ∀ session : Session, session.Notes [] (action session).2) : KeepsBooks action :=
  fun session => ⟨[], quiet session⟩

theorem pure (answer : Answer) : KeepsBooks (Pure.pure answer) :=
  ofQuiet fun session => .refl session

theorem throw (failure : Failure) : KeepsBooks (throw failure : Migration Answer) :=
  ofQuiet fun session => .refl session

theorem ask (question : Session → Answer) : KeepsBooks (ask question) :=
  ofQuiet fun session => .refl session

theorem ofResult (result : Except Failure Answer) : KeepsBooks (ofResult result) :=
  ofQuiet fun session => .refl session

theorem onFiles (action : Files Answer) : KeepsBooks (onFiles action) :=
  ofQuiet fun _ => .ofSame rfl rfl rfl

theorem bind {action : Migration First} {next : First → Migration Answer}
    (keeps : KeepsBooks action) (further : ∀ answer, KeepsBooks (next answer)) :
    KeepsBooks (action >>= next) :=
  leads_bind (fun before after : Session => ∃ notes, before.Notes notes after)
    (fun ⟨notes, once⟩ ⟨more, again⟩ => ⟨notes ++ more, once.trans again⟩) keeps further

theorem recovering {action : Migration Unit} (keeps : KeepsBooks action) (what : Text) :
    KeepsBooks (recovering what action) := by
  intro session
  obtain ⟨notes, kept⟩ := keeps session
  rcases recovering_cases what action session with
    same | ⟨failure, after, failed, recoverable, noted⟩
  · exact ⟨notes, same ▸ kept⟩
  · rw [failed] at kept
    rw [noted]
    exact ⟨notes ++ [⟨what, failure⟩], kept.trans (.noteFailure recoverable what after)⟩

/-- What is done and recorded is no failure. -/
theorem recorded {action : Files Outcome} (done : Files.Answers Target.IsDone action) :
    KeepsBooks (do let _ ← recorded action) := by
  refine ofQuiet fun session => ?_
  have isDone := done session.tree
  rw [bind_apply, recorded_apply]
  cases outcome : action session.tree with
  | mk result tree =>
    rw [outcome] at isDone
    cases result with
    | error failure => exact .ofSame rfl rfl rfl
    | ok answer =>
      have moved : session.Notes [] { session with tree := tree } := .ofSame rfl rfl rfl
      exact moved.trans (.record (isDone answer rfl) _)

end KeepsBooks

end Migration

namespace Executor

open Migration

/-- What instructions and blocks are made of keeps the books, and so do they. -/
theorem inherits_keepsBooks : Inherits (fun _ => True) KeepsBooks where
  child _ _ _ := trivial
  pure := .pure ()
  refuse _ := .throw _
  andThen _ _ first second := first.bind fun _ => second
  recovering what _ keeps := keeps.recovering what
  ask question next further := by
    intro session
    exact further session trivial session
  ofResult result next _ further := (KeepsBooks.ofResult result).bind further
  ifThere _ _ _ first second := by
    refine (KeepsBooks.onFiles _).bind fun there => ?_
    split
    · exact first
    · exact second
  queue _ := .ofQuiet fun _ => .ofSame rfl rfl rfl
  contribute _ := .ofQuiet fun _ => .ofSame rfl rfl rfl
  insert path fragment primitive _ := .recorded (Target.answers_insert path fragment primitive)
  delete path patterns primitive _ := .recorded (Target.answers_delete path patterns primitive)
  merge _ _ _ _ _ := (KeepsBooks.onFiles _).bind fun changed =>
    .ofQuiet fun session => .record (by cases changed <;> nofun) session
  depend path sections _ := .recorded (Target.answers_mergeDependencies path sections)

theorem keepsBooks_copyNamed (step : Step) (source destination : Option Text) :
    KeepsBooks (copyNamed step source destination) := by
  match source with
  | none => exact .throw _
  | some [] => exact .throw _
  | some (first :: rest) =>
    exact (KeepsBooks.ask id).bind fun session => .recorded (Target.answers_copyPath _ _ _ _ _)

end Executor

/-! ### Tasks -/

namespace Migration

variable {hint : Text} {path : Path} {sections : List Section} {task : Task} {tasks : List Task}
  {before between after : Session} {failure : Failure} {note : Note}

theorem keepsBooks_carryOut (hint : Text) (path : Path) (sections : List Section) (task : Task) :
    KeepsBooks (task.carryOut hint path sections) := by
  cases task with
  | instruction asked =>
    exact Executor.inherits_keepsBooks.perform hint
      (fun source destination _ => Executor.keepsBooks_copyNamed asked.step source destination)
      fun _ _ => .ofQuiet fun _ => .ofSame rfl rfl rfl
  | block own => exact Executor.inherits_keepsBooks.performBlock _ own _ _

/-- Whether a note is that of a task that fails when those before it have had their turn. -/
def Fails (hint : Text) (path : Path) (sections : List Section) (tasks : List Task)
    (before : Session) (note : Note) : Prop :=
  ∃ done task rest reached after, tasks = done ++ task :: rest ∧
    Performs hint path sections done before reached ∧
    task.carryOut hint path sections reached = (.error note.failure, after) ∧
    note.what = task.name

/-- Behind the turn of the first task come those of the others. -/
theorem Performs.tail (performs : Performs hint path sections (task :: tasks) before after) :
    Performs hint path sections tasks (runTask hint path sections task before).2 after := by
  cases performs with
  | done ok later => rwa [runTask_of_ok ok]
  | noted failed recoverable later => rwa [runTask_of_error failed recoverable]

/-- What fails among tasks is the first one, or it fails among the others. -/
theorem Fails.cases (fails : Fails hint path sections (task :: tasks) before note) :
    (note.what = task.name ∧
        (task.carryOut hint path sections before).1 = .error note.failure) ∨
      Fails hint path sections tasks (runTask hint path sections task before).2 note := by
  obtain ⟨done, last, rest, reached, after, split, performs, failed, name⟩ := fails
  cases done with
  | nil =>
    obtain ⟨rfl, rfl⟩ := List.cons.inj split
    cases performs
    exact .inl ⟨name, congrArg Prod.fst failed⟩
  | cons first done =>
    obtain ⟨rfl, split'⟩ := List.cons.inj split
    exact .inr ⟨done, last, rest, reached, after, split', performs.tail, failed, name⟩

/-- When tasks have had their turn, what failed among them is noted. -/
theorem Performs.notes (performs : Performs hint path sections tasks before after) :
    ∃ notes, before.Notes notes after ∧
      ∀ note, Fails hint path sections tasks before note → note ∈ notes := by
  induction performs with
  | nil session =>
    refine ⟨[], .refl session, fun note fails => ?_⟩
    obtain ⟨done, task, rest, -, -, split, -⟩ := fails
    simp at split
  | @done task rest before between after ok later inductionHypothesis =>
    obtain ⟨inner, kept⟩ := keepsBooks_carryOut hint path sections task before
    obtain ⟨more, kept', among⟩ := inductionHypothesis
    rw [ok] at kept
    refine ⟨inner ++ more, kept.trans kept', fun note fails => ?_⟩
    rcases fails.cases with ⟨-, failed⟩ | fails
    · simp [ok] at failed
    · rw [runTask_of_ok ok] at fails
      exact List.mem_append_right _ (among note fails)
  | @noted task rest before between after failure failed recoverable later inductionHypothesis =>
    obtain ⟨inner, kept⟩ := keepsBooks_carryOut hint path sections task before
    obtain ⟨more, kept', among⟩ := inductionHypothesis
    rw [failed] at kept
    refine ⟨inner ++ [⟨task.name, failure⟩] ++ more,
      (kept.trans (.noteFailure recoverable task.name between)).trans kept', fun note fails => ?_⟩
    rcases fails.cases with ⟨name, failed'⟩ | fails
    · obtain rfl : failure = note.failure := by simpa [failed] using failed'
      exact List.mem_append_left _ (List.mem_append_right _ (by simp [← name]))
    · rw [runTask_of_error failed recoverable] at fails
      exact List.mem_append_right _ (among note fails)

end Migration

end GuidedMigration
