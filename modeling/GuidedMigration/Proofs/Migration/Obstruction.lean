/-
This file says when a task fails so that nothing recovers from it. It does if the task shows an
integer with too many digits, or if there is an obstacle for one of its edits or for its deletion,
as the tree stands before the task is done. Nothing else makes it fail this way, documents that hold
themselves left aside, and copies never do.
-/
import GuidedMigration.Proofs.Migration.Obstacle
import GuidedMigration.Proofs.Migration.Performed

namespace GuidedMigration

open GuidedMigration.Tree Files

variable {First : Type}

/-! ### Actions on a session -/

namespace Migration

variable {session : Session}

theorem isFatal_bind_pure (action : Migration First) (session : Session) :
    isFatal ((action >>= fun _ => pure ()) session).1 = isFatal (action session).1 := by
  rw [bind_apply]
  obtain ⟨result, after⟩ := action session
  cases result <;> rfl

theorem isFatal_recorded (action : Files Outcome) (session : Session) :
    isFatal ((recorded action >>= fun _ => pure ()) session).1 =
      isFatal (action session.tree).1 := by
  rw [isFatal_bind_pure, recorded_apply]
  obtain ⟨result, tree⟩ := action session.tree
  cases result <;> rfl

/-- An action that does nothing but insert into one file: nothing gets in its way but that the file
is no text, and then its first insertion fails. -/
structure HaltsAt (path : Path) (edits : List Edit) (action : Migration Unit) : Prop extends
    InsertsAt path edits action where
  calm : ∀ session : Session, session.tree.isGarbledAt path = false →
    isFatal (action session).1 = false ∧ (action session).2.tree.isGarbledAt path = false
  idle : edits = [] → ∀ session, action session = (.ok (), session)
  stops : edits ≠ [] → ∀ session : Session, session.tree.isGarbledAt path = true →
    isFatal (action session).1 = true

namespace HaltsAt

variable {left right : List Edit} {first second : Migration Unit}

theorem pure (path : Path) : HaltsAt path [] (Pure.pure ()) where
  toInsertsAt := .pure path
  calm _ clear := ⟨rfl, clear⟩
  idle _ _ := rfl
  stops some' := absurd rfl some'

theorem andThen (before : HaltsAt path left first) (after : HaltsAt path right second) :
    HaltsAt path (left ++ right) (first >>= fun _ => second) where
  toInsertsAt := before.toInsertsAt.andThen after.toInsertsAt
  calm session clear := by
    have calm := before.calm session clear
    rw [bind_apply]
    cases outcome : first session with
    | mk result between =>
      rw [outcome] at calm
      cases result with
      | ok answer => exact after.calm between calm.2
      | error failure => exact calm
  idle none' session := by
    obtain ⟨none', none''⟩ := List.append_eq_nil_iff.mp none'
    rw [bind_apply, before.idle none']
    exact after.idle none'' session
  stops some' session garbled := by
    rw [bind_apply]
    by_cases idle : left = []
    · rw [before.idle idle]
      exact after.stops (by simpa [idle] using some') session garbled
    · have halted := before.stops idle session garbled
      cases outcome : first session with
      | mk result between =>
        rw [outcome] at halted
        cases result with
        | ok answer => exact absurd halted Bool.false_ne_true
        | error failure => exact halted

theorem recovering (halts : HaltsAt path left first) (what : Text) :
    HaltsAt path left (Migration.recovering what first) where
  toInsertsAt := halts.toInsertsAt.recovering what
  calm session clear := by
    have calm := halts.calm session clear
    rcases recovering_cases what first session with same | ⟨failure, after, failed, -, noted⟩
    · rwa [same]
    · rw [failed] at calm
      rw [noted]
      exact ⟨rfl, calm.2⟩
  idle none' session := by rw [Migration.recovering, halts.idle none']
  stops some' session garbled := by
    have halted := halts.stops some' session garbled
    rcases recovering_cases what first session with
      same | ⟨failure, after, failed, recoverable, -⟩
    · rwa [same]
    · rw [failed, isFatal, Failure.isFatal, recoverable] at halted
      exact absurd halted Bool.false_ne_true

/-- An obstacle for one of the edits is one for the action. -/
theorem isFatal_eq (halts : HaltsAt path left first) (session : Session) :
    isFatal (first session).1 = left.any (·.isObstructed session.tree) := by
  match left, halts with
  | [], halts => rw [halts.idle rfl]; rfl
  | edit :: rest, halts =>
    have garbledBy : ∀ other ∈ edit :: rest,
        other.isObstructed session.tree = session.tree.isGarbledAt path := by
      intro other member
      obtain ⟨fragment, primitive, rfl⟩ := halts.only other member
      rfl
    cases garbled : session.tree.isGarbledAt path with
    | true =>
      rw [halts.stops (List.cons_ne_nil _ _) session garbled, List.any_cons,
        garbledBy edit List.mem_cons_self, garbled, Bool.true_or]
    | false =>
      rw [(halts.calm session garbled).1]
      refine (List.any_eq_false.mpr fun other member => ?_).symm
      rw [garbledBy other member, garbled]
      exact Bool.false_ne_true

end HaltsAt

end Migration

namespace Executor

open Migration

variable {session : Session}

/-! ### Code -/

theorem haltsAt_insert (path : Path) (fragment : Text) (primitive : Code.Primitive) :
    HaltsAt path [.insert path fragment primitive] (insert path fragment primitive) := by
  have escaping (session : Session) : isFatal (insert path fragment primitive session).1 =
      session.tree.isGarbledAt path :=
    (isFatal_recorded _ session).trans isFatal_insert
  have inserts := insertsAt_insert path fragment primitive
  refine ⟨inserts, fun session clear => ⟨(escaping session).trans clear, ?_⟩, nofun,
    fun _ session garbled => (escaping session).trans garbled⟩
  rw [(inserts.follows session).tree]
  exact isGarbledAt_insert clear

theorem composes_haltsAt (path : Path) : Composes path (HaltsAt path) where
  pure := .pure path
  insert := haltsAt_insert path
  andThen := .andThen
  recovering halts what := halts.recovering what

theorem isFatal_applyCode (hint code words : Text) (target : Option Path) (session : Session) :
    isFatal (applyCode hint code words target session).1 =
      (session.setup.codeEdits hint code words target).any (·.isObstructed session.tree) := by
  obtain ⟨path, action, halts, applied⟩ :=
    Composes.exists_applyCode composes_haltsAt hint code words target session
  rw [applied]
  exact halts.isFatal_eq session

/-! ### Configuration -/

theorem isFatal_merge (sound : session.tree.IsSound) (path : Path) (primitive label : Text)
    (fragment : Mapping) : isFatal (merge path primitive label fragment session).1 =
      (Edit.merge path fragment).isObstructed session.tree := by
  rw [Edit.isObstructed, ← isFatal_mergeInto sound path fragment, merge, bind_apply,
    onFiles]
  obtain ⟨result, tree⟩ := Config.mergeInto path fragment session.tree
  cases result <;> rfl

theorem isFatal_applyConfig (sound : session.tree.IsSound) (fragment : Mapping) (label : Text)
    (target : Option Text) : isFatal (applyConfig fragment label target session).1 =
      (Edit.merge (session.setup.documentPath target)
        (session.setup.openFragment fragment)).isObstructed session.tree := by
  have filtered : (target.filter fun name =>
      !name.isEmpty && name != session.setup.settings.template) =
      target.filter fun name => !name.isEmpty && name != session.settings.template := rfl
  rw [Setup.documentPath, filtered, applyConfig, bind_ask_apply]
  dsimp only [id_eq]
  cases target.filter fun name => !name.isEmpty && name != session.settings.template with
  | some name => exact isFatal_merge sound _ _ _ _
  | none =>
    -- the contribution is added before the merge, which does not look at it
    exact @isFatal_merge { session with contributions := session.contributions ++
      [contributionOf session.values label (session.setup.openFragment fragment)] } sound _ _ _ _

theorem isFatal_applyCatalog (sound : session.tree.IsSound) (fragment : Mapping) (label : Text) :
    isFatal (applyCatalog fragment label session).1 =
      (Edit.describe (session.setup.pathOf .catalogDescriptor) fragment).isObstructed
        session.tree := by
  have path : session.setup.pathOf .catalogDescriptor = session.pathOf .catalogDescriptor := rfl
  rw [Edit.isObstructed, path, applyCatalog, bind_ask_apply, bind_apply, onFiles, Files.exists?,
    Files.ask]
  cases found : session.tree.exists? (session.pathOf .catalogDescriptor) with
  | error fault =>
    rw [isUnloadableAt_of_exists? (by simp [found])]
    exact Failure.isFatal_file (isSystem_of_map_look found)
  | ok there =>
    cases there with
    | false =>
      rw [isUnloadableAt_of_exists? (by simp [found])]
      rfl
    | true =>
      refine (isFatal_merge sound _ "catalog-merge".toList label fragment).trans ?_
      rw [Edit.isObstructed, isUnwritableAt_of_exists? (by simp [found]), Bool.or_false]

end Executor

/-! ### Integers with too many digits -/

/-- Whether a block of configuration has an integer with too many digits. -/
def Config.hasLongInteger (content : Text) : Bool :=
  match readBlock content with
  | .error (.longInteger _) => true
  | _ => false

/-- Whether a fragment of a manifest has an integer with too many digits. -/
def Target.hasLongInteger (content : Text) : Bool :=
  match Json.read (asObject content) with
  | .error (.longInteger _) => true
  | _ => false

/-- Whether a step shows configuration with an integer with too many digits. -/
def Step.hasLongInteger (step : Step) : Bool :=
  step.snippet.any fun snippet =>
    Instruction.configLanguages.contains snippet.language && Config.hasLongInteger snippet.content

/-- Whether a block of its own shows configuration or dependencies with an integer with too many
digits. -/
def CodeBlock.hasLongInteger (block : CodeBlock) : Bool :=
  Instruction.configLanguages.contains block.language && Config.hasLongInteger block.content ||
    Executor.isManifestLanguage block.language && Target.hasLongInteger block.content

namespace Executor

open Migration

variable {session : Session}

theorem isFatal_blockMapping (content : Text) :
    isFatal (blockMapping content) = Config.hasLongInteger content := by
  rw [blockMapping, Config.hasLongInteger]
  cases Config.readBlock content with
  | ok fragment => rfl
  | error fault => cases fault <;> rfl

theorem isFatal_readFragment (content : Text) :
    isFatal (Target.readFragment content) = Target.hasLongInteger content := by
  rw [Target.readFragment, Target.hasLongInteger]
  cases Json.read (Target.asObject content) with
  | ok datum => cases datum <;> rfl
  | error fault => cases fault <;> rfl

/-! ### Instructions and blocks -/

theorem isFatal_update (sound : session.tree.IsSound) (hint : Text) (step : Step)
    (target : Option Text) : isFatal (update hint step target session).1 =
      (step.hasLongInteger ||
        (session.setup.updateEdits hint step target).any (·.isObstructed session.tree)) := by
  unfold update Setup.updateEdits Step.hasLongInteger
  cases step.snippet with
  | none => rfl
  | some snippet =>
    rw [Option.any_some]
    dsimp only
    cases configures : Instruction.configLanguages.contains snippet.language with
    | true =>
      rw [if_pos rfl, if_pos rfl, bind_ofResult_apply, Bool.true_and, ← isFatal_blockMapping]
      cases blockMapping snippet.content with
      | error failure => exact (Bool.or_false _).symm
      | ok fragment =>
        rw [List.any_cons, List.any_nil, Bool.or_false]
        exact isFatal_applyConfig sound fragment step.text _
    | false =>
      rw [if_neg Bool.false_ne_true, if_neg Bool.false_ne_true, Bool.false_and, Bool.false_or]
      split
      · rw [bind_ask_apply]
        exact isFatal_applyCode hint snippet.content step.text _ session
      · rfl

theorem isFatal_addImports (hint : Text) (step : Step) (target : Option Text)
    (statements : List Text) : isFatal (addImports hint step target statements session).1 =
      (statements.map (Edit.insert (session.setup.targetPath hint target
        (step.text ++ Text.joinWith [' '] statements)) · .importStatement)).any
          (·.isObstructed session.tree) := by
  rw [addImports]
  split
  · rename_i none'
    rw [List.isEmpty_iff.mp none']
    rfl
  · rw [bind_ask_apply, targetPath_eq]
    exact ((composes_haltsAt _).insertEach .importStatement statements).isFatal_eq session

/-- A language among others that is none of manifests. -/
theorem isManifestLanguage_of_contains {languages : List Text} {language : Text}
    (known : languages.contains language = true)
    (others : languages.contains "json".toList = false) :
    isManifestLanguage language = false := by
  cases manifests : isManifestLanguage language with
  | false => rfl
  | true =>
    rw [of_decide_eq_true manifests, others] at known
    exact absurd known Bool.false_ne_true

theorem isFatal_performBlock (sound : session.tree.IsSound) (executorHint : Text)
    (block : CodeBlock) (label hint : Text) :
    isFatal (performBlock executorHint block label hint session).1 =
      (block.hasLongInteger || (session.setup.blockEdits executorHint block label hint).any
        (·.isObstructed session.tree)) := by
  unfold performBlock Setup.blockEdits CodeBlock.hasLongInteger
  cases configures : Instruction.configLanguages.contains block.language with
  | true =>
    rw [isManifestLanguage_of_contains configures (by decide), if_pos rfl, if_pos rfl,
      Bool.true_and, Bool.false_and, Bool.or_false, bind_ofResult_apply, ← isFatal_blockMapping]
    cases blockMapping block.content with
    | error failure => exact (Bool.or_false _).symm
    | ok fragment =>
      dsimp only
      split
      · rw [List.any_cons, List.any_nil, Bool.or_false]
        exact isFatal_applyCatalog sound fragment label
      · rw [List.any_cons, List.any_nil, Bool.or_false]
        exact isFatal_applyConfig sound fragment label none
  | false =>
    rw [if_neg Bool.false_ne_true, if_neg Bool.false_ne_true, Bool.false_and, Bool.false_or]
    cases codes : Instruction.codeLanguages.contains block.language with
    | true =>
      rw [isManifestLanguage_of_contains codes (by decide), if_pos rfl, if_pos rfl,
        Bool.false_and, Bool.false_or]
      exact isFatal_applyCode executorHint block.content _ none session
    | false =>
      rw [if_neg Bool.false_ne_true, if_neg Bool.false_ne_true]
      cases isManifestLanguage block.language with
      | true =>
        rw [if_pos rfl, if_pos rfl, Bool.true_and, bind_ask_apply, bind_ofResult_apply,
          ← isFatal_readFragment]
        cases Target.readFragment block.content with
        | error failure => exact (Bool.or_false _).symm
        | ok sections =>
          dsimp only
          rw [List.any_cons, List.any_nil, Bool.or_false]
          exact (isFatal_recorded _ session).trans isFatal_mergeDependencies
      | false =>
        rw [if_neg Bool.false_ne_true, if_neg Bool.false_ne_true, Bool.false_and]
        split <;> rfl

end Executor

/-! ### Tasks -/

/-- Whether a task shows an integer with too many digits where one is read. -/
def Migration.Task.hasLongInteger : Migration.Task → Bool
  | .instruction asked => match asked.action with
    | .updateConfig _ => asked.step.hasLongInteger
    | _ => false
  | .block own => own.hasLongInteger

namespace Setup

variable (setup : Setup)

/-- The deletion that a task asks for. Blocks ask for none. -/
def taskDeletion? (hint : Text) : Migration.Task → Option Deletion
  | .instruction asked => setup.deletion? hint asked
  | .block _ => none

/-- Whether something gets in the way of a task so that nothing recovers from it: the task shows an
integer with too many digits, or there is an obstacle where it edits or deletes. -/
def isObstructed (hint : Text) (path : Path) (sections : List Section) (task : Migration.Task)
    (tree : Tree) : Bool :=
  task.hasLongInteger || (setup.taskEdits hint path sections task).any (·.isObstructed tree) ||
    (setup.taskDeletion? hint task).any fun deletion => tree.isGarbledAt deletion.path

end Setup

namespace Migration

variable {session : Session} {hint : Text} {path : Path} {sections : List Section}

theorem isFatal_of_deletesAs {deletion? : Option Deletion} {action : Migration Unit}
    (deletes : Executor.DeletesAs deletion? action session) :
    isFatal (action session).1 =
      deletion?.any fun deletion => session.tree.isGarbledAt deletion.path := by
  unfold Executor.DeletesAs at deletes
  cases deletion? with
  | none =>
    obtain ⟨why, refused⟩ := deletes
    rw [refused]
    rfl
  | some deletion =>
    rw [deletes]
    exact (isFatal_recorded _ session).trans isFatal_delete

/-- An instruction that does not only add asks for no edit and shows no configuration. -/
theorem isObstructed_of_not_addsOnly {asked : Instruction} (other : asked.action.addsOnly = false)
    (setup : Setup) (tree : Tree) :
    setup.isObstructed hint path sections (.instruction asked) tree =
      (setup.deletion? hint asked).any fun deletion => tree.isGarbledAt deletion.path := by
  rw [Setup.isObstructed, Task.hasLongInteger, Setup.taskEdits, Setup.instructionEdits]
  cases action : asked.action with
  | updateConfig target => simp [action, Action.addsOnly] at other
  | addImport target statements => simp [action, Action.addsOnly] at other
  | _ => rfl

/-- An instruction that only adds asks for no deletion. -/
theorem deletion?_of_addsOnly {asked : Instruction} (adds : asked.action.addsOnly = true)
    (setup : Setup) : setup.deletion? hint asked = none := by
  rw [Setup.deletion?]
  cases action : asked.action with
  | deletePattern target snippets modules => simp [action, Action.addsOnly] at adds
  | removeImport target modules => simp [action, Action.addsOnly] at adds
  | _ => rfl

/-- A task fails so that nothing recovers from it exactly if something gets in its way. -/
theorem isFatal_carryOut (sound : session.tree.IsSound) (task : Task) :
    isFatal (task.carryOut hint path sections session).1 =
      session.setup.isObstructed hint path sections task session.tree := by
  cases task with
  | block own => exact (Executor.isFatal_performBlock sound _ own _ _).trans (Bool.or_false _).symm
  | instruction asked =>
    rw [Task.carryOut]
    cases adds : asked.action.addsOnly with
    | false =>
      rw [isObstructed_of_not_addsOnly adds]
      rcases Executor.perform_cases adds hint session with
        deletes | ⟨none', rules, source, named, copies⟩
      · exact isFatal_of_deletesAs deletes
      · rw [copies, none']
        exact (isFatal_recorded _ session).trans (isFatal_of_escapes (Target.behaves_copyPath
          session.source session.destination rules source named session.tree sound).recovers)
    | true =>
      rw [Setup.isObstructed, Setup.taskDeletion?, deletion?_of_addsOnly adds, Option.any_none,
        Bool.or_false, Task.hasLongInteger, Setup.taskEdits, Setup.instructionEdits,
        Executor.perform]
      cases action : asked.action with
      | updateConfig target => exact Executor.isFatal_update sound hint asked.step target
      | addImport target statements =>
        exact Executor.isFatal_addImports hint asked.step target statements
      | installPackage packages => rfl
      | generic => rfl
      | _ => simp [action, Action.addsOnly] at adds

end Migration

end GuidedMigration
