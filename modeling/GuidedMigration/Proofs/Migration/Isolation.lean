/-
This file shows how far the failure of one task is kept from the others. A run has each task do its
turn, and one that fails leaves a warning and a failed entry in the journal; but something may get
in the way of a task when it has its turn, and then the run ends there. A run comes to its end
exactly if its guide can be read and nothing gets in the way of any task, unless it meets a document
that holds itself.
-/
import GuidedMigration.Proofs.Migration.Containment
import GuidedMigration.Proofs.Migration.Noted
import GuidedMigration.Proofs.Migration.Obstruction

namespace GuidedMigration.Migration

open GuidedMigration.Tree

/-! ### Reading a guide -/

section

variable {tree : Tree} {settings : Settings} {path : Path} {text : Text} {document : Document}

/-- A guide is what its text is. -/
theorem readGuide_of_read (read : tree.read path = .ok text) :
    readGuide tree settings path = documentOf settings path text := by
  have stands : tree.standing path = .file := by
    refine Classical.byContradiction fun other => ?_
    obtain ⟨failure, unread⟩ := read_of_not_file other
    simp [unread] at read
  obtain ⟨reached, bytes, held⟩ := standing_eq_file.mp stands
  rw [readGuide, isFile?, look_of_place reached, held, read]
  rfl

/-- A guide that is read is a text, and one of the dialect. -/
theorem exists_of_readGuide (read : readGuide tree settings path = .ok document) :
    ∃ text, tree.read path = .ok text ∧ documentOf settings path text = .ok document := by
  have stands := standing_of_readGuide read
  obtain ⟨-, bytes, held⟩ := standing_eq_file.mp stands
  cases unread : tree.read path with
  | ok text => exact ⟨text, rfl, by rwa [readGuide_of_read unread] at read⟩
  | error failure =>
    unfold readGuide at read
    rw [unread] at read
    split at read
    · simp at read
    · simp at read
    · split at read <;> simp_all

end

/-! ### What gets in the way of a guide -/

variable {hint : Text} {path : Path} {document : Document} {normalizes : Bool}
  {session before after reached : Session} {tasks : List Task}

/-- Whether nothing gets in the way of the tasks of a guide, as the tree stands when each has its
turn. -/
def IsUnobstructed (hint : Text) (path : Path) (document : Document) (before : Session) : Prop :=
  ∀ done task rest reached, tasksOf document = done ++ task :: rest →
    Performs hint path document.sections done before reached →
    before.setup.isObstructed hint path document.sections task reached.tree = false

/-- The tasks of a guide that have had their turn. Each that failed left a warning and a failed
entry in the journal. -/
structure RunsThrough (hint : Text) (path : Path) (document : Document) (before after : Session) :
    Prop where
  performs : Performs hint path document.sections (tasksOf document) before after
  notes : ∃ notes, before.Notes notes after ∧
    ∀ note, Fails hint path document.sections (tasksOf document) before note → note ∈ notes

/-- What is in the way of a task is what the task fails of. -/
theorem isFatal_at {sections : List Section} (sound : before.tree.IsSound)
    (performs : Performs hint path sections tasks before reached) (task : Task) :
    isFatal (task.carryOut hint path sections reached).1 =
      before.setup.isObstructed hint path sections task reached.tree := by
  have stays := @Performs.stays (fun _ => True) _ _ _ _ _ _ performs sound
    fun _ _ _ _ => trivial
  rw [isFatal_carryOut (stays.evolves.sound sound), stays.setup]

/-- A task that has its turn does not fail so that nothing recovers from it. -/
theorem Performs.recovers {sections : List Section} {done rest : List Task} {task : Task}
    (performs : Performs hint path sections (done ++ task :: rest) before after)
    (earlier : Performs hint path sections done before reached) :
    escapes (task.carryOut hint path sections reached).1 = false := by
  induction done generalizing before with
  | nil =>
    cases earlier
    cases performs with
    | done ok later => rw [ok]; rfl
    | noted failed recoverable later => rw [failed]; exact congrArg Bool.not recoverable
  | cons first done inductionHypothesis => exact inductionHypothesis performs.tail earlier.tail

/-- When a guide runs to its end, all its tasks have had their turn. -/
theorem exists_runsThrough (ok : (runGuide path normalizes hint session).1 = .ok document) :
    ∃ after, RunsThrough hint path document (opened normalizes session) after ∧
      sessionAfter path normalizes hint session = closed session after := by
  obtain ⟨read, after, ran, reached⟩ := exists_of_runGuide ok
  rcases performs_or_stops hint path document.sections (tasksOf document)
    (opened normalizes session) with ⟨last, performs, ran'⟩ | ⟨failure, last, -, ran'⟩
  · obtain rfl : last = after := congrArg Prod.snd (ran'.symm.trans ran)
    exact ⟨last, ⟨performs, performs.notes⟩, reached⟩
  · exact absurd (congrArg Prod.fst (ran'.symm.trans ran)) (by simp)

/-- Where all tasks have had their turn, nothing was in the way of any. -/
theorem RunsThrough.isUnobstructed (sound : before.tree.IsSound)
    (runs : RunsThrough hint path document before after) :
    IsUnobstructed hint path document before := by
  intro done task rest reached split earlier
  have performs := runs.performs
  rw [split] at performs
  exact (isFatal_at sound earlier task).symm.trans
    (isFatal_of_escapes (performs.recovers earlier))

/-- A run that stops does so at a task that something is in the way of, unless it meets a document
that holds itself. -/
theorem Stops.not_isUnobstructed {failure : Failure} (sound : before.tree.IsSound)
    (stops : Stops hint path document.sections (tasksOf document) before failure after)
    (finite : failure.isEndless = false) : ¬ IsUnobstructed hint path document before := by
  intro unobstructed
  obtain ⟨done, task, rest, reached, split, earlier, failed⟩ := stops.stopped
  have obstructed := (isFatal_at sound earlier task).symm
  rw [failed, isFatal, Failure.isFatal, stops.fatal, finite,
    unobstructed done task rest reached split earlier] at obstructed
  simp at obstructed

set_option maxRecDepth 100000

end GuidedMigration.Migration
