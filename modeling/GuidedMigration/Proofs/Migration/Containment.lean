/-
This file shows where a guide writes. The files that it changes are those of the roles, the
template, the copies below the destination, and the files that its steps name themselves. Copies are
kept inside the destination, but nothing else is: a step that names a file outside of it has that
file changed. All other files outside of the destination stay as they are, however the run of the
guide ends.
-/
import GuidedMigration.Proofs.Migration.Performed
import GuidedMigration.Proofs.Migration.Rerun

namespace GuidedMigration

open GuidedMigration.Tree Files

/-- The file that an instruction names. Copies are not meant: they name what is copied. -/
def Action.target? : Action → Option Text
  | .deletePattern target _ _ | .updateConfig target | .addImport target _ |
    .removeImport target _ => target
  | _ => none

/-- The file that a task names. -/
def Migration.Task.target? : Migration.Task → Option Text
  | .instruction asked => asked.action.target?
  | .block _ => none

/-! ### The files that are written -/

namespace Setup

variable {setup : Setup} {hint words : Text} {step : Step} {target : Option Text} {edit : Edit}
  {path : Path}

/-- Paths that stand for the file that something is about: that of a role, the template, or one that
is named. -/
def Means (setup : Setup) (target : Option Text) (path : Path) : Prop :=
  (∃ role, path = setup.pathOf role) ∨ path = setup.destination.child setup.settings.template ∨
    ∃ name ∈ target, path = setup.destination.child name

theorem means_targetPath : setup.Means target (setup.targetPath hint target words) := by
  match target with
  | none => exact .inl ⟨_, rfl⟩
  | some [] => exact .inl ⟨_, rfl⟩
  | some (first :: rest) => exact .inr (.inr ⟨first :: rest, rfl, rfl⟩)

theorem means_documentPath {narrower : Option Text} (among : ∀ name ∈ narrower, name ∈ target) :
    setup.Means target (setup.documentPath narrower) := by
  rw [documentPath]
  split
  · rename_i name found
    exact .inr (.inr ⟨name, among name (Option.filter_eq_some_iff.mp found).1, rfl⟩)
  · exact .inr (.inl rfl)

theorem means_of_mem_updateEdits (member : edit ∈ setup.updateEdits hint step target) :
    setup.Means target edit.path := by
  rcases exists_of_mem_updateEdits member with ⟨_, _, -, rfl⟩ | ⟨role, _, _, rfl⟩
  · exact means_documentPath fun name found => (Option.filter_eq_some_iff.mp found).1
  · cases named : target.filter (!·.isEmpty) with
    | none => exact .inl ⟨role, rfl⟩
    | some name => exact .inr (.inr ⟨name, (Option.filter_eq_some_iff.mp named).1, rfl⟩)

theorem means_of_mem_blockEdits {block : CodeBlock} {executorHint label : Text}
    (member : edit ∈ setup.blockEdits executorHint block label hint) :
    setup.Means none edit.path := by
  rcases exists_of_mem_blockEdits member with
    ⟨_, -, rfl | rfl⟩ | ⟨role, _, _, rfl⟩ | ⟨role, _, rfl⟩
  · exact .inl ⟨.catalogDescriptor, rfl⟩
  · exact means_documentPath fun _ none' => none'
  · exact .inl ⟨role, rfl⟩
  · exact .inl ⟨role, rfl⟩

theorem means_of_mem_taskEdits {task : Migration.Task} {sections : List Section}
    (member : edit ∈ setup.taskEdits hint path sections task) :
    setup.Means task.target? edit.path := by
  cases task with
  | block block => exact means_of_mem_blockEdits member
  | instruction asked =>
    rw [taskEdits, instructionEdits] at member
    rw [Migration.Task.target?]
    cases action : asked.action with
    | updateConfig target =>
      rw [action] at member
      exact means_of_mem_updateEdits member
    | addImport target statements =>
      rw [action] at member
      obtain ⟨statement, -, rfl⟩ := List.mem_map.mp member
      exact means_targetPath
    | _ => simp [action] at member

theorem means_deletion? {instruction : Instruction} {deletion : Deletion}
    (deletes : setup.deletion? hint instruction = some deletion) :
    setup.Means instruction.action.target? deletion.path := by
  rw [deletion?] at deletes
  cases action : instruction.action with
  | deletePattern target snippets modules =>
    simp only [action, namedDeletion?] at deletes
    split at deletes
    · rw [← Option.some.inj deletes]
      exact means_targetPath
    · split at deletes
      · simp at deletes
      · rw [← Option.some.inj deletes]
        exact means_targetPath
  | removeImport target modules =>
    simp only [action, importDeletion?] at deletes
    split at deletes
    · simp at deletes
    · rw [← Option.some.inj deletes]
      exact means_targetPath
  | _ => simp [action] at deletes

end Setup

/-! ### What is written -/

variable {allowed : Path.Place → Prop} {tree : Tree}

theorem Edit.evolves_apply {edit : Edit} (inside : allowed (spelled edit.path)) (tree : Tree) :
    Evolves allowed tree (edit.apply tree) := by
  by_cases stands : tree.standing edit.path = .file
  · obtain ⟨-, bytes, held⟩ := standing_eq_file.mp stands
    rw [apply_of_file stands held]
    exact Evolves.refl.file (.inr stands) inside _
  · rcases apply_cases stands with ⟨same, -⟩ | ⟨path, fragment, rfl, -, made⟩
    · rw [same]
      exact .refl
    · rw [made]
      exact evolves_write inside _ tree

theorem Edit.evolves_applyAll {edits : List Edit}
    (inside : ∀ edit ∈ edits, allowed (spelled edit.path)) (tree : Tree) :
    Evolves allowed tree (Edit.applyAll edits tree) := by
  induction edits generalizing tree with
  | nil => exact .refl
  | cons edit edits inductionHypothesis =>
    rw [Edit.applyAll, List.foldl_cons]
    exact (Edit.evolves_apply (inside edit List.mem_cons_self) tree).trans
      (inductionHypothesis (fun other member => inside other (List.mem_cons_of_mem _ member)) _)

/-- A session that has gone on with files written at allowed places alone. -/
structure Session.Stays (allowed : Path.Place → Prop) (before after : Session) : Prop where
  setup : after.setup = before.setup
  evolves : Evolves allowed before.tree after.tree

theorem Session.Stays.trans {first second third : Session} (left : first.Stays allowed second)
    (right : second.Stays allowed third) : first.Stays allowed third :=
  ⟨right.setup.trans left.setup, left.evolves.trans right.evolves⟩

namespace Migration

variable {hint : Text} {path : Path} {sections : List Section} {task : Task} {tasks : List Task}
  {session before after : Session}

/-- Noting a failure leaves the session otherwise as the action left it. -/
theorem recovering_keeps (what : Text) (action : Migration Unit) (session : Session) :
    (recovering what action session).2.tree = (action session).2.tree ∧
      (recovering what action session).2.setup = (action session).2.setup := by
  rcases recovering_cases what action session with same | ⟨failure, after, failed, -, noted⟩
  · rw [same]
    exact ⟨rfl, rfl⟩
  · rw [noted, failed]
    exact ⟨rfl, rfl⟩

theorem stays_recorded {action : Files Outcome}
    (evolves : Evolves allowed session.tree (action session.tree).2) :
    session.Stays allowed ((recorded action >>= fun _ => pure ()) session).2 := by
  rw [bind_apply, recorded_apply]
  cases outcome : action session.tree with
  | mk result tree =>
    rw [outcome] at evolves
    cases result <;> exact ⟨rfl, evolves⟩

/-- The places where a task may write: those of the files that it can mean, and all at or below the
destination. -/
def Task.MayWrite (setup : Setup) (task : Task) (place : Path.Place) : Prop :=
  IsAtOrBelow (spelled setup.destination) place ∨
    ∃ path, setup.Means task.target? path ∧ spelled path = place

theorem stays_carryOut (sound : session.tree.IsSound) :
    session.Stays (task.MayWrite session.setup) (task.carryOut hint path sections session).2 := by
  cases adds : task.addsOnly with
  | true =>
    have follows := @follows_runTask hint path sections task adds session
    obtain ⟨tree, setup⟩ := recovering_keeps task.name (task.carryOut hint path sections) session
    rw [runTask_eq] at follows
    refine ⟨setup ▸ follows.setup, ?_⟩
    rw [← tree, follows.tree]
    exact Edit.evolves_applyAll (fun edit member =>
      .inr ⟨edit.path, Setup.means_of_mem_taskEdits member, rfl⟩) session.tree
  | false =>
    cases task with
    | block block => simp [Task.addsOnly] at adds
    | instruction asked =>
      rw [Task.carryOut]
      rcases Executor.perform_cases adds hint session with
        deletes | ⟨-, rules, source, named, copies⟩
      · unfold Executor.DeletesAs at deletes
        cases asks : session.setup.deletion? hint asked with
        | none =>
          rw [asks] at deletes
          obtain ⟨why, refused⟩ := deletes
          rw [refused]
          exact ⟨rfl, .refl⟩
        | some deletion =>
          rw [asks] at deletes
          rw [deletes]
          exact stays_recorded (Executor.evolves_delete
            (.inr ⟨deletion.path, Setup.means_deletion? asks, rfl⟩))
      · rw [copies]
        have behaved := Target.behaves_copyPath session.source session.destination rules source
          named session.tree sound
        exact stays_recorded (behaved.evolves.mono fun place below => .inl below)

/-- The turn of a task and then those of the others. -/
theorem stays_turn {rest : List Task} {next : Session} (sound : before.tree.IsSound)
    (within : ∀ other ∈ task :: rest, ∀ place,
      other.MayWrite before.setup place → allowed place)
    (stays : before.Stays (task.MayWrite before.setup) next)
    (further : next.tree.IsSound → (∀ other ∈ rest, ∀ place,
      other.MayWrite next.setup place → allowed place) → next.Stays allowed after) :
    before.Stays allowed after := by
  refine Session.Stays.trans ⟨stays.setup, stays.evolves.mono (within task List.mem_cons_self)⟩
    (further (stays.evolves.sound sound) fun other member place may => ?_)
  exact within other (List.mem_cons_of_mem _ member) place (stays.setup ▸ may)

/-- Tasks that have their turn write where each of them may. -/
theorem Performs.stays (performs : Performs hint path sections tasks before after)
    (sound : before.tree.IsSound)
    (within : ∀ task ∈ tasks, ∀ place, task.MayWrite before.setup place → allowed place) :
    before.Stays allowed after := by
  induction performs with
  | nil session => exact ⟨rfl, .refl⟩
  | @done task rest before between after ok later inductionHypothesis =>
    have stays := @stays_carryOut hint path sections task before sound
    rw [ok] at stays
    exact stays_turn sound within stays inductionHypothesis
  | @noted task rest before between after failure failed recoverable later inductionHypothesis =>
    have stays := @stays_carryOut hint path sections task before sound
    rw [failed] at stays
    -- a failure that is noted leaves the tree as the task left it
    have noted : before.Stays (task.MayWrite before.setup)
        (between.noteFailure task.name failure) := ⟨stays.setup, stays.evolves⟩
    exact stays_turn sound within noted inductionHypothesis

theorem Stops.stays {failure : Failure}
    (stops : Stops hint path sections tasks before failure after) (sound : before.tree.IsSound)
    (within : ∀ task ∈ tasks, ∀ place, task.MayWrite before.setup place → allowed place) :
    before.Stays allowed after := by
  obtain ⟨done, task, rest, reached, rfl, performs, failed⟩ := stops.stopped
  have earlier := performs.stays sound fun other member =>
    within other (List.mem_append_left _ member)
  have last := @stays_carryOut hint path sections task reached (earlier.evolves.sound sound)
  rw [failed] at last
  refine earlier.trans ⟨last.setup, last.evolves.mono fun place may => ?_⟩
  exact within task (List.mem_append_right _ List.mem_cons_self) place (earlier.setup ▸ may)

/-- A guide writes where each of its tasks may, however it ends. -/
theorem stays_runGuide {normalizes : Bool} (sound : session.tree.IsSound)
    (within : ∀ document, readGuide session.tree session.settings path = .ok document →
      ∀ task ∈ tasksOf document, ∀ place,
        task.MayWrite (setupFor normalizes session) place → allowed place) :
    session.Stays allowed (runGuide path normalizes hint session).2 := by
  cases read : readGuide session.tree session.settings path with
  | error failure =>
    rw [runGuide_of_unread read]
    exact ⟨rfl, .refl⟩
  | ok document =>
    rw [runGuide_of_read read]
    have ended {after : Session} (stays : (opened normalizes session).Stays allowed after) :
        session.Stays allowed (closed session after) :=
      ⟨congrArg (fun setup : Setup => { setup with normalizes := session.normalizes }) stays.setup,
        stays.evolves⟩
    rcases performs_or_stops hint path document.sections (tasksOf document)
      (opened normalizes session) with ⟨after, performs, ran⟩ | ⟨failure, after, stops, ran⟩
    · rw [ran]
      exact ended (performs.stays sound (within document read))
    · rw [ran]
      exact ended (stops.stays sound (within document read))

/-! ### Actions that write within -/

section

variable {First Answer : Type}

/-- Whether an action writes at allowed places alone, in every session over a sound tree. -/
def WritesWithin (allowed : Path.Place → Prop) (action : Migration Answer) : Prop :=
  ∀ session : Session, session.tree.IsSound → session.Stays allowed (action session).2

namespace WritesWithin

theorem ofSame {action : Migration Answer} (same : ∀ session : Session,
    (action session).2.setup = session.setup ∧ (action session).2.tree = session.tree) :
    WritesWithin allowed action :=
  fun session _ => ⟨(same session).1, (same session).2 ▸ .refl⟩

theorem pure (answer : Answer) : WritesWithin allowed (Pure.pure answer) :=
  .ofSame fun _ => ⟨rfl, rfl⟩

theorem bind {action : Migration First} {next : First → Migration Answer}
    (writes : WritesWithin allowed action)
    (further : ∀ answer, WritesWithin allowed (next answer)) :
    WritesWithin allowed (action >>= next) :=
  leads_bind (fun before after : Session => before.tree.IsSound → before.Stays allowed after)
    (fun once again sound => (once sound).trans (again ((once sound).evolves.sound sound)))
    writes further

theorem ask (question : Session → Answer) : WritesWithin allowed (Migration.ask question) :=
  .ofSame fun _ => ⟨rfl, rfl⟩

theorem onFiles {action : Files Answer} (behaves : Files.Behaves allowed action) :
    WritesWithin allowed (Migration.onFiles action) :=
  fun session sound => ⟨rfl, (behaves session.tree sound).evolves⟩

theorem exists? (path : Path) : WritesWithin allowed (Migration.onFiles (Files.exists? path)) :=
  onFiles (Files.behaves_look path _)

theorem recorded {action : Files Outcome}
    (evolves : ∀ tree, tree.IsSound → Evolves allowed tree (action tree).2) :
    WritesWithin allowed (Migration.recorded action) := by
  intro session sound
  have evolves := evolves session.tree sound
  rw [recorded_apply]
  revert evolves
  generalize action session.tree = outcome
  obtain ⟨result, tree⟩ := outcome
  cases result <;> exact fun evolves => ⟨rfl, evolves⟩

end WritesWithin

/-- A guide leaves a sound tree, however it ends. -/
theorem writesWithin_runGuide (path : Path) (normalizes : Bool) (hint : Text) :
    WritesWithin (fun _ => True) (runGuide path normalizes hint) :=
  fun _ sound => stays_runGuide sound fun _ _ _ _ _ _ => trivial

end

/-! ### Files outside of the destination -/

end Migration

/-- Whether the paths that a setup gives lead into the destination: those of the roles, and the
template. -/
structure Setup.IsContained (setup : Setup) : Prop where
  roles : ∀ role, IsAtOrBelow (spelled setup.destination) (spelled (setup.pathOf role))
  template : IsAtOrBelow (spelled setup.destination)
    (spelled (setup.destination.child setup.settings.template))

namespace Migration

variable {hint : Text} {path : Path} {session : Session}

/-- A guide leaves the files outside of the destination as they are, all but those that its steps
name, however it ends. -/
theorem spares_outside_unless_named {normalizes : Bool} {place : Path.Place}
    (sound : session.tree.IsSound) (contained : session.setup.IsContained)
    (outside : ¬ IsAtOrBelow (spelled session.destination) place)
    (unnamed : ∀ document, readGuide session.tree session.settings path = .ok document →
      ∀ task ∈ tasksOf document, ∀ name ∈ task.target?,
        spelled (session.destination.child name) ≠ place) :
    (runGuide path normalizes hint session).2.tree.fileAt? place =
      session.tree.fileAt? place := by
  have stays := @stays_runGuide (· ≠ place) hint path session normalizes sound ?_
  · rcases stays.evolves.frame (fun other => other rfl) with same | ⟨free, made⟩
    · exact fileAt?_congr same
    · rw [fileAt?, fileAt?, made, free]
  · rintro document read task member _ may rfl
    rcases may with below | ⟨path, (⟨role, rfl⟩ | rfl | ⟨name, named, rfl⟩), same⟩
    · exact outside below
    · exact outside (same ▸ contained.roles role)
    · exact outside (same ▸ contained.template)
    · exact unnamed document read task member name named same

/-! ### Two guides that point outside -/

set_option maxRecDepth 100000

/-- A document beside the destination. -/
def outerPlace : Path.Place := ["", "y.yaml"].map String.toList

theorem isContained_smallSession (guide source : Text) :
    (smallSession guide source).setup.IsContained := by
  show Setup.IsContained
    ⟨{ source := "src".toList, destination := "dst".toList }, .ofText "dst".toList, false⟩
  exact ⟨fun role => List.isPrefixOf_iff_prefix.mp (by cases role <;> decide),
    List.isPrefixOf_iff_prefix.mp (by decide)⟩

theorem outerPlace_outside (guide source : Text) :
    ¬ IsAtOrBelow (spelled (smallSession guide source).destination) outerPlace := by
  show ¬ IsAtOrBelow (spelled (.ofText "dst".toList)) outerPlace
  exact fun below => absurd (List.isPrefixOf_iff_prefix.mpr below) (by decide)

/-- A guide that copies to outside of the destination, and names a document inside. -/
def copyingSession : Session :=
  smallSession
    ("# G\n\n1. Copy from `g.md` to `../y.yaml`\n2. Update the config `y.yaml`:\n\n" ++
      "```yaml\na: b\n```\n").toList []

theorem readGuide_copyingSession :
    readGuide copyingSession.tree copyingSession.settings smallPath =
      .ok (smallDocument copyingSession) := eq_ok_of_toOption (by decide +kernel)

/-- The copy is refused. -/
theorem copying_guide_spares_outside :
    (runGuide smallPath false [] copyingSession).2.tree.fileAt? outerPlace =
      copyingSession.tree.fileAt? outerPlace := by
  refine spares_outside_unless_named (isSound_of_entries (by decide) (by decide))
    (isContained_smallSession _ _) (outerPlace_outside _ _) fun document read => ?_
  obtain rfl := Except.ok.inj (readGuide_copyingSession.symm.trans read)
  decide +kernel

/-- A guide with a step that names a document outside of the destination. -/
def pointingSession : Session :=
  smallSession "# G\n\n1. Update the config `../y.yaml`:\n\n```yaml\na: b\n```\n".toList []

/-- The document is made. -/
theorem pointing_guide_writes_outside :
    pointingSession.tree.IsSound ∧ pointingSession.setup.IsContained ∧
      ¬ IsAtOrBelow (spelled pointingSession.destination) outerPlace ∧
      (runGuide smallPath false [] pointingSession).2.tree.fileAt? outerPlace ≠
        pointingSession.tree.fileAt? outerPlace :=
  ⟨isSound_of_entries (by decide) (by decide), isContained_smallSession _ _,
    outerPlace_outside _ _, by decide +kernel⟩

end Migration

end GuidedMigration
