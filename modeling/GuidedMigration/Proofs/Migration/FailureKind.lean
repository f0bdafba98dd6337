/-
This file tells failures by their kind. Actions on directories, and copies, fail of faults of files
alone. Whatever a task does to the files, and whatever it refuses to do, it never fails because
something that a guide or a phase needs is missing, nor of their checks. So a failure of a task that
nothing recovers from is none of the migration's own.
-/
import GuidedMigration.Proofs.Migration.Noted
import GuidedMigration.Proofs.Migration.Obstacle
import GuidedMigration.Proofs.Tree.Reported

namespace GuidedMigration

variable {State First Answer : Type} {kind : Failure → Prop}

/-! ### Actions that fail in ways of one kind -/

/-- Whether all failures of an action are of a kind. -/
def FailsAs (kind : Failure → Prop) (action : ExceptT Failure (StateM State) Answer) : Prop :=
  ∀ state failure, (action state).1 = .error failure → kind failure

namespace FailsAs

variable {action : ExceptT Failure (StateM State) Answer}

theorem pure (answer : Answer) :
    FailsAs kind (Pure.pure answer : ExceptT Failure (StateM State) Answer) :=
  fun _ _ failed => nomatch failed

theorem throw {failure : Failure} (meant : kind failure) :
    FailsAs kind (throw failure : ExceptT Failure (StateM State) Answer) :=
  fun _ _ failed => Except.error.inj failed ▸ meant

theorem ofResult {result : Except Failure Answer}
    (meant : ∀ failure, result = .error failure → kind failure) :
    FailsAs kind (ExceptT.mk (Pure.pure result) : ExceptT Failure (StateM State) Answer) :=
  fun _ failure failed => meant failure failed

theorem bind {action : ExceptT Failure (StateM State) First}
    {next : First → ExceptT Failure (StateM State) Answer} (fails : FailsAs kind action)
    (further : ∀ answer, FailsAs kind (next answer)) : FailsAs kind (action >>= next) := by
  intro state failure failed
  rcases failed_of_bind failed with failed | ⟨answer, between, -, failed⟩
  · exact fails state failure failed
  · exact further answer between failure failed

end FailsAs

/-- Whether a failure is a fault of files. -/
def Failure.IsFault (failure : Failure) : Prop := ∃ fault, failure = .file fault

theorem Failure.IsFault.isGate {failure : Failure} (fault : failure.IsFault) :
    failure.isGate = false := by
  obtain ⟨fault, rfl⟩ := fault
  rfl

/-! ### Changes of a file -/

open Files

/-- A failure that is not that of a guide or of a phase as a whole. -/
abbrev Failure.IsMild (failure : Failure) : Prop := failure.isGate = false

theorem Files.FailsByFault.mild {action : Files Answer} (faults : FailsByFault action) :
    FailsAs Failure.IsMild action :=
  fun tree failure failed => Failure.IsFault.isGate (faults tree failure failed)

namespace Files

theorem failsAs_read (path : Path) : FailsAs Failure.IsMild (read path) := by
  intro tree failure failed
  rw [read, Tree.read] at failed
  dsimp only at failed
  split at failed
  · rw [← Except.error.inj failed]; rfl
  · split at failed
    · rw [← Except.error.inj failed]; rfl
    · cases failed

end Files

namespace Target

variable {path : Path}

theorem failsAs_existing (path : Path) (missing : Refusal) :
    FailsAs Failure.IsMild (existing path missing) := by
  refine (FailsByFault.ask _).mild.bind fun there => ?_
  split
  · exact failsAs_read path
  · exact .throw rfl

theorem isMild_of_inserted {primitive : Code.Primitive} {label content fragment : Text}
    {failure : Failure} (failed : inserted primitive label content fragment = .error failure) :
    failure.IsMild := by
  rw [inserted] at failed
  split at failed
  · rw [← Except.error.inj failed]; rfl
  · split at failed
    · cases failed
    · rw [← Except.error.inj failed]; rfl

theorem failsAs_insert (path : Path) (fragment : Text) (primitive : Code.Primitive) :
    FailsAs Failure.IsMild (insert path fragment primitive) := by
  unfold insert insertAs
  refine (failsAs_existing _ _).bind fun old => ?_
  split
  · exact .pure _
  · refine FailsAs.bind (.ofResult fun _ failed => ?_) fun kind => ?_
    · cases failed
    refine FailsAs.bind (.ofResult fun _ => isMild_of_inserted) fun insertion => ?_
    exact (FailsByFault.write _ _).mild.bind fun _ => .pure _

theorem failsAs_delete (path : Path) (patterns : List Code.Pattern) (primitive : Text) :
    FailsAs Failure.IsMild (delete path patterns primitive) := by
  unfold delete
  refine (failsAs_existing _ _).bind fun old => ?_
  dsimp only
  split
  · exact .pure _
  · exact (FailsByFault.write _ _).mild.bind fun _ => .pure _

theorem isMild_of_readManifest {text : Text} {failure : Failure}
    (failed : readManifest path text = .error failure) : failure.IsMild := by
  rw [readManifest] at failed
  split at failed
  · cases failed
  · rw [← Except.error.inj failed]; rfl
  · rw [← Except.error.inj failed]; rfl

theorem isMild_of_addSections {manifest : Json.Datum} {sections : Sections} {failure : Failure}
    (failed : addSections manifest sections = .error failure) : failure.IsMild := by
  obtain ⟨kind, rfl⟩ := exists_mismatch_of_addSections failed
  rfl

theorem failsAs_writeWord (path : Path) (word : Json.Word) :
    FailsAs Failure.IsMild (writeWord path word) := by
  unfold writeWord
  split
  · exact (FailsByFault.write _ _).mild.bind fun _ => .pure _
  · exact (FailsByFault.write _ _).mild.bind fun _ => .throw rfl

theorem failsAs_mergeDependencies (path : Path) (sections : Sections) :
    FailsAs Failure.IsMild (mergeDependencies path sections) := by
  unfold mergeDependencies
  refine (failsAs_existing _ _).bind fun old => ?_
  refine FailsAs.bind (.ofResult fun _ => isMild_of_readManifest) fun manifest => ?_
  refine FailsAs.bind (.ofResult fun _ => isMild_of_addSections) fun outcome => ?_
  split
  split
  · exact .pure _
  · exact (failsAs_writeWord _ _).bind fun _ => .pure _

section

variable {sourceRoot destinationRoot : Path} {rules : CopyRules} {source destination : Text}
  {tree : Tree}

theorem copyPath_of_outside
    (outside : staysInside destinationRoot (destinationRoot.child destination) = false) :
    copyPath sourceRoot destinationRoot rules source destination tree =
      (.error (.refused (.outside destination)), tree) := by
  unfold copyPath
  dsimp only
  rw [outside]
  rfl

theorem copyPath_of_absent
    (inside : staysInside destinationRoot (destinationRoot.child destination) = true)
    (absent : tree.exists? (sourceRoot.child source) = .ok false)
    (required : (rules.isOptional || isOptional rules.optionalAssets source) = false) :
    copyPath sourceRoot destinationRoot rules source destination tree =
      (.error (.sourceAbsent (sourceRoot.child source)), tree) := by
  unfold copyPath
  dsimp only
  rw [inside, Bool.not_true, if_neg Bool.false_ne_true, bind_apply, Files.exists?,
    Files.ask, absent]
  dsimp only
  rw [Bool.not_false, if_pos rfl, required]
  rfl

theorem copyPath_of_unseen {fault : FileFault}
    (inside : staysInside destinationRoot (destinationRoot.child destination) = true)
    (unseen : tree.exists? (sourceRoot.child source) = .error fault) :
    copyPath sourceRoot destinationRoot rules source destination tree =
      (.error (.file fault), tree) := by
  unfold copyPath
  dsimp only
  rw [inside, Bool.not_true, if_neg Bool.false_ne_true, bind_apply, Files.exists?,
    Files.ask, unseen]

/-- A copy inside of the destination fails of faults of files alone, if its source is there or may
be missing. -/
theorem isFault_of_copyPath {failure : Failure}
    (inside : staysInside destinationRoot (destinationRoot.child destination) = true)
    (present : tree.exists? (sourceRoot.child source) = .ok false →
      (rules.isOptional || isOptional rules.optionalAssets source) = true)
    (failed : (copyPath sourceRoot destinationRoot rules source destination tree).1 =
      .error failure) : failure.IsFault := by
  have digests (path : Path) : FailsByFault (digest path) :=
    (FailsByFault.ask _).bind fun _ => .pure _
  have same (left right : Path) : FailsByFault (isSameFile left right) := by
    refine (FailsByFault.ask _).bind fun there => ?_
    split
    · exact (digests _).bind fun _ => (digests _).bind fun _ => .pure _
    · exact .pure _
  have copies (left right : Path) (outcome : Outcome) :
      FailsByFault (do Files.copy rules.excluded left right; pure outcome) :=
    (FailsByFault.copy _ _ _).bind fun _ => .pure _
  cases found : tree.exists? (sourceRoot.child source) with
  | error fault =>
    rw [copyPath_of_unseen inside found] at failed
    exact ⟨fault, (Except.error.inj failed).symm⟩
  | ok there =>
    unfold copyPath at failed
    dsimp only at failed
    rw [inside, Bool.not_true, if_neg Bool.false_ne_true, bind_apply, Files.exists?,
      Files.ask, found] at failed
    dsimp only at failed
    cases there with
    | false =>
      rw [Bool.not_false, if_pos rfl, if_pos (present found)] at failed
      cases failed
    | true =>
      rw [Bool.not_true, if_neg Bool.false_ne_true] at failed
      refine FailsByFault.bind (FailsByFault.ask _) (fun directory => ?_) tree failure failed
      split
      · refine (same _ _).bind fun same => ?_
        split
        · exact .pure _
        · exact copies _ _ _
      · exact copies _ _ _

theorem failsAs_copyPath (sourceRoot destinationRoot : Path) (rules : CopyRules)
    (source destination : Text) :
    FailsAs Failure.IsMild (copyPath sourceRoot destinationRoot rules source destination) := by
  intro tree failure failed
  cases stays : staysInside destinationRoot (destinationRoot.child destination) with
  | false =>
    rw [copyPath_of_outside stays] at failed
    exact Except.error.inj failed ▸ rfl
  | true =>
    by_cases absent : tree.exists? (sourceRoot.child source) = .ok false ∧
        (rules.isOptional || isOptional rules.optionalAssets source) = false
    · rw [copyPath_of_absent stays absent.1 absent.2] at failed
      exact Except.error.inj failed ▸ rfl
    · refine (isFault_of_copyPath stays (fun there => ?_) failed).isGate
      exact eq_true_of_ne_false fun required => absent ⟨there, required⟩

end

end Target

namespace Config

variable {path : Path}

theorem isMild_of_mappingOf {text : Text} {failure : Failure}
    (failed : mappingOf path text = .error failure) : failure.IsMild := by
  rw [mappingOf] at failed
  split at failed
  · rw [← Except.error.inj failed]; rfl
  · rw [← Except.error.inj failed]; rfl
  · cases failed
  · split at failed
    · rw [← Except.error.inj failed]; rfl
    · cases failed

theorem failsAs_load (path : Path) : FailsAs Failure.IsMild (load path) := by
  refine (FailsByFault.ask _).mild.bind fun there => ?_
  split
  · exact (failsAs_read path).bind fun text => .ofResult fun _ => isMild_of_mappingOf
  · exact .pure _

theorem failsAs_writeDocument (path : Path) (document : Mapping) :
    FailsAs Failure.IsMild (writeDocument path document) := by
  unfold writeDocument
  split
  · exact (FailsByFault.write _ _).mild
  · exact .throw rfl

theorem failsAs_mergeInto (path : Path) (fragment : Mapping) :
    FailsAs Failure.IsMild (mergeInto path fragment) := by
  have written (document : Mapping) :
      FailsAs Failure.IsMild (do writeDocument path document; pure true) :=
    (failsAs_writeDocument path document).bind fun _ => .pure _
  unfold mergeInto
  refine (failsAs_load path).bind fun held => (FailsByFault.ask _).mild.bind fun there => ?_
  dsimp only
  split
  · split
    · exact .pure _
    · exact written _
  · exact written _

end Config

/-! ### Tasks -/

namespace Migration

theorem failsAs_onFiles {action : Files Answer} (fails : FailsAs kind action) :
    FailsAs kind (onFiles action) :=
  fun session failure failed => fails session.tree failure failed

theorem failsAs_ask (view : Session → Answer) : FailsAs kind (ask view) :=
  fun _ _ failed => nomatch failed

theorem failsAs_change (update : Session → Session) : FailsAs kind (change update) :=
  fun _ _ failed => nomatch failed

theorem failsAs_recorded {action : Files Outcome} (fails : FailsAs kind action) :
    FailsAs kind (recorded action) :=
  (failsAs_onFiles fails).bind fun _ => (failsAs_change _).bind fun _ => .pure _

theorem failsAs_recovering {action : Migration Unit} (fails : FailsAs kind action) (what : Text) :
    FailsAs kind (recovering what action) := by
  intro session failure failed
  rcases recovering_cases what action session with same | ⟨other, after, -, -, noted⟩
  · rw [same] at failed
    exact fails session failure failed
  · rw [noted] at failed
    cases failed

end Migration

namespace Executor

open Migration

/-- What instructions and blocks are made of does not fail as a guide does as a whole, and so do
they not. -/
theorem inherits_failsAs : Inherits (fun _ => True) (FailsAs Failure.IsMild) where
  child _ _ _ := trivial
  pure := .pure ()
  refuse _ := .throw rfl
  andThen _ _ first second := first.bind fun _ => second
  recovering what _ fails := failsAs_recovering fails what
  ask question next further := by
    intro session
    exact further session trivial session
  ofResult _ _ mild further := FailsAs.bind (.ofResult mild) further
  ifThere _ _ _ first second := by
    refine (failsAs_onFiles (FailsByFault.ask _).mild).bind fun there => ?_
    split
    · exact first
    · exact second
  queue _ := failsAs_change _
  contribute _ := failsAs_change _
  insert path fragment primitive _ :=
    (failsAs_recorded (Target.failsAs_insert path fragment primitive)).bind fun _ => .pure _
  delete path patterns primitive _ :=
    (failsAs_recorded (Target.failsAs_delete path patterns primitive)).bind fun _ => .pure _
  merge path _ _ fragment _ := (failsAs_onFiles (Config.failsAs_mergeInto path fragment)).bind
    fun _ => failsAs_change _
  depend path sections _ :=
    (failsAs_recorded (Target.failsAs_mergeDependencies path sections)).bind fun _ => .pure _

theorem failsAs_copyNamed (step : Step) (source destination : Option Text) :
    FailsAs Failure.IsMild (copyNamed step source destination) := by
  match source with
  | none => exact .throw rfl
  | some [] => exact .throw rfl
  | some (first :: rest) =>
    refine (Migration.failsAs_ask _).bind fun session => ?_
    exact (failsAs_recorded (Target.failsAs_copyPath _ _ _ _ _)).bind fun _ => .pure _

end Executor

namespace Migration

variable {hint : Text} {path : Path} {sections : List Section} {task : Task} {session : Session}
  {failure : Failure}

/-- Failures that nothing recovers from are the migration's own only as those of a guide or of a
phase as a whole. -/
theorem isOwn_of_fatal (fatal : failure.isRecoverable = false) :
    failure.isOwn = failure.isGate := by
  cases failure <;> simp_all [Failure.isRecoverable, Failure.isGate, Failure.isOwn]

/-- No task fails as a guide does as a whole. -/
theorem isMild_of_carryOut
    (failed : (task.carryOut hint path sections session).1 = .error failure) :
    failure.IsMild := by
  cases task with
  | block own => exact Executor.inherits_failsAs.performBlock _ own _ _ session failure failed
  | instruction asked =>
    exact Executor.inherits_failsAs.perform hint (fun source destination _ =>
      Executor.failsAs_copyNamed asked.step source destination) (fun _ _ => failsAs_change _)
      session failure failed

/-- A task that fails so that nothing recovers from it fails of nothing that is the migration's own.
-/
theorem isOwn_of_carryOut
    (failed : (task.carryOut hint path sections session).1 = .error failure)
    (fatal : failure.isRecoverable = false) : failure.isOwn = false :=
  (isOwn_of_fatal fatal).trans (isMild_of_carryOut failed)

/-- What tasks stop at is none of the migration's own failures. -/
theorem Stops.isOwn {tasks : List Task} {before after : Session}
    (stops : Stops hint path sections tasks before failure after) : failure.isOwn = false := by
  obtain ⟨done, task, rest, reached, -, -, failed⟩ := stops.stopped
  exact isOwn_of_carryOut (congrArg Prod.fst failed) stops.fatal

end Migration

end GuidedMigration
