/-
This file finds the edits that a guide asks for. They are fixed by the settings, the destination and
the guide before anything is done. A guide that neither copies nor deletes leaves the tree that its
edits leave, done one after the other, also where a task fails and becomes a warning: what a failed
insertion keeps from being done would have changed nothing.
-/
import GuidedMigration.Migration.Guide
import GuidedMigration.Proofs.Migration.Edit

namespace GuidedMigration

open GuidedMigration.Tree

/-- What a session says from which the edits of a guide are found. -/
structure Setup where
  settings : Settings
  destination : Path
  normalizes : Bool

/-- What a session says from which the edits of a guide are found. -/
def Session.setup (session : Session) : Setup :=
  ⟨session.settings, session.destination, session.normalizes⟩

namespace Setup

open Text

variable (setup : Setup)

/-- The path of a role. -/
def pathOf (role : Role) : Path := role.path setup.settings.rolePaths setup.destination

/-- The path that an instruction is about. -/
def targetPath (hint : Text) (target : Option Text) (words : Text) : Path :=
  match target with
  | some (first :: rest) => setup.destination.child (first :: rest)
  | _ => setup.pathOf (Executor.inferRole hint words)

/-- A fragment of configuration as it is merged. -/
def openFragment (fragment : Mapping) : Mapping :=
  if setup.normalizes then fragment.normalize else fragment

/-- The document that a fragment of configuration goes to. -/
def documentPath (target : Option Text) : Path :=
  match target.filter fun name => !name.isEmpty && name != setup.settings.template with
  | some name => setup.destination.child name
  | none => setup.destination.child setup.settings.template

/-- The insertions of statements into a file. -/
def statementEdits (path : Path) (isEntityPage : Bool) (statements : List Text) : List Edit :=
  statements.filterMap fun statement =>
    (Executor.primitiveOf? statement isEntityPage).map (.insert path statement)

/-- The insertions that code asks for. -/
def codeEdits (hint code words : Text) (target : Option Path) : List Edit :=
  let role := Executor.roleOfCode hint code words
  let path := target.getD (setup.pathOf role)
  (Code.imports code).map (.insert path · .importStatement) ++
    statementEdits path (target.isNone && role = .entityPage)
      (Code.statements (Code.withoutImports code))

/-- The edits that the snippet of a step asks for. -/
def updateEdits (hint : Text) (step : Step) (target : Option Text) : List Edit :=
  match step.snippet with
  | none => []
  | some snippet =>
    if Instruction.configLanguages.contains snippet.language then
      match Executor.blockMapping snippet.content with
      | .error _ => []
      | .ok fragment =>
        [.merge (setup.documentPath (target.filter (endsWithAny [".yaml".toList, ".yml".toList])))
          (setup.openFragment fragment)]
    else if Instruction.codeLanguages.contains snippet.language then
      setup.codeEdits hint snippet.content step.text
        ((target.filter (!·.isEmpty)).map setup.destination.child)
    else []

/-- The edits that an instruction asks for, if it adds only. -/
def instructionEdits (hint : Text) (instruction : Instruction) : List Edit :=
  match instruction.action with
  | .updateConfig target => setup.updateEdits hint instruction.step target
  | .addImport target statements =>
    let words := instruction.step.text ++ joinWith [' '] statements
    statements.map (.insert (setup.targetPath hint target words) · .importStatement)
  | _ => []

/-- The edits that a block asks for. -/
def blockEdits (executorHint : Text) (block : CodeBlock) (label hint : Text) : List Edit :=
  if Instruction.configLanguages.contains block.language then
    match Executor.blockMapping block.content with
    | .error _ => []
    | .ok fragment =>
      if Executor.catalogKeys.any fun key => Mapping.has (.text key) fragment then
        [.describe (setup.pathOf .catalogDescriptor) fragment]
      else [.merge (setup.documentPath none) (setup.openFragment fragment)]
  else if Instruction.codeLanguages.contains block.language then
    setup.codeEdits executorHint block.content (if hint.isEmpty then label else hint) none
  else if Executor.isManifestLanguage block.language then
    match Target.readFragment block.content with
    | .error _ => []
    | .ok sections =>
      [.depend (setup.pathOf
        (if occursIn "backend".toList (lower hint) then .backendManifest else .packageManifest))
        sections]
  else []

/-- The edits that a task asks for. -/
def taskEdits (hint : Text) (path : Path) (sections : List Section) : Migration.Task → List Edit
  | .instruction instruction => setup.instructionEdits hint instruction
  | .block block => setup.blockEdits hint block (Migration.blockLabel path block)
      (Migration.blockHint hint path sections block)

/-- The edits that a guide at a path asks for. -/
def guideEdits (hint : Text) (path : Path) (document : Document) : List Edit :=
  (Migration.tasksOf document).flatMap (setup.taskEdits hint path document.sections)

variable {setup : Setup} {hint words : Text} {edit : Edit}

/-- What code asks for is insertions into one file. -/
theorem exists_of_mem_codeEdits {code : Text} {target : Option Path}
    (member : edit ∈ setup.codeEdits hint code words target) : ∃ text primitive,
      edit = .insert (target.getD (setup.pathOf (Executor.roleOfCode hint code words))) text
        primitive := by
  rw [codeEdits] at member
  rcases List.mem_append.mp member with import' | statement
  · obtain ⟨text, -, rfl⟩ := List.mem_map.mp import'
    exact ⟨text, .importStatement, rfl⟩
  · obtain ⟨text, -, found⟩ := List.mem_filterMap.mp statement
    obtain ⟨primitive, -, rfl⟩ := Option.map_eq_some_iff.mp found
    exact ⟨text, primitive, rfl⟩

/-- What the snippet of a step asks for is a fragment to be merged or code to be inserted. -/
theorem exists_of_mem_updateEdits {step : Step} {target : Option Text}
    (member : edit ∈ setup.updateEdits hint step target) :
    (∃ content fragment, Executor.blockMapping content = .ok fragment ∧
      edit = .merge (setup.documentPath (target.filter (endsWithAny [".yaml".toList,
        ".yml".toList]))) (setup.openFragment fragment)) ∨
    ∃ role text primitive, edit = .insert (((target.filter (!·.isEmpty)).map
      setup.destination.child).getD (setup.pathOf role)) text primitive := by
  rw [updateEdits] at member
  split at member
  · simp at member
  · split at member
    · split at member
      · simp at member
      · rename_i fragment read
        exact .inl ⟨_, fragment, read, List.mem_singleton.mp member⟩
    · split at member
      · exact .inr ⟨_, exists_of_mem_codeEdits member⟩
      · simp at member

/-- What a block asks for is a fragment to be merged or to describe the component, code to be
inserted, or dependencies. -/
theorem exists_of_mem_blockEdits {block : CodeBlock} {executorHint label : Text}
    (member : edit ∈ setup.blockEdits executorHint block label hint) :
    (∃ fragment, Executor.blockMapping block.content = .ok fragment ∧
      (edit = .describe (setup.pathOf .catalogDescriptor) fragment ∨
        edit = .merge (setup.documentPath none) (setup.openFragment fragment))) ∨
    (∃ role text primitive, edit = .insert (setup.pathOf role) text primitive) ∨
    ∃ role sections, edit = .depend (setup.pathOf role) sections := by
  rw [blockEdits] at member
  split at member
  · split at member
    · simp at member
    · rename_i fragment read
      refine .inl ⟨fragment, read, ?_⟩
      split at member
      · exact .inl (List.mem_singleton.mp member)
      · exact .inr (List.mem_singleton.mp member)
  · split at member
    · exact .inr (.inl ⟨_, exists_of_mem_codeEdits member⟩)
    · split at member
      · split at member
        · simp at member
        · exact .inr (.inr ⟨_, _, List.mem_singleton.mp member⟩)
      · simp at member

end Setup

/-- Whether an instruction neither copies nor deletes. -/
def Action.addsOnly : Action → Bool
  | .updateConfig _ | .addImport _ _ | .installPackage _ | .generic => true
  | _ => false

/-- Whether a task neither copies nor deletes. Blocks never do. -/
def Migration.Task.addsOnly : Migration.Task → Bool
  | .instruction asked => asked.action.addsOnly
  | .block _ => true

/-! ### Sessions and edits -/

/-- A session that has gone on as edits say. -/
structure Session.Follows (before : Session) (edits : List Edit) (after : Session) : Prop where
  tree : after.tree = Edit.applyAll edits before.tree
  setup : after.setup = before.setup

namespace Session.Follows

variable {first second third : Session} {left right : List Edit}

theorem refl (session : Session) : session.Follows [] session := ⟨rfl, rfl⟩

theorem trans (follows : first.Follows left second) (next : second.Follows right third) :
    first.Follows (left ++ right) third where
  tree := by rw [next.tree, follows.tree, Edit.applyAll_append]
  setup := next.setup.trans follows.setup

end Session.Follows

/-- Whether no insertion can change the file at a path: there is none, or it is no text. -/
def Tree.IsClosedAt (path : Path) (tree : Tree) : Prop :=
  ∀ fragment primitive, (Edit.insert path fragment primitive).apply tree = tree

/-- Where one insertion fails, none changes anything. -/
theorem Target.isClosedAt_of_insert {tree after : Tree} {path : Path} {fragment : Text}
    {primitive : Code.Primitive} {failure : Failure}
    (failed : Target.insert path fragment primitive tree = (.error failure, after)) :
    after = tree ∧ tree.IsClosedAt path := by
  have closed : tree.IsClosedAt path := by
    intro other kind
    by_cases stands : tree.standing path = .file
    · obtain ⟨-, bytes, held⟩ := standing_eq_file.mp stands
      cases text : textOf bytes with
      | error unread => rw [Edit.apply, Edit.insert_of_unread stands held text]
      | ok old =>
        obtain ⟨outcome, inserted⟩ :=
          @Edit.insert_of_text _ _ path fragment primitive _ stands held text
        rw [inserted, Prod.mk.injEq] at failed
        exact absurd failed.1 (by simp)
    · obtain ⟨unread, refused⟩ := @Edit.insert_of_not_file _ path other kind stands
      rw [Edit.apply, refused]
  refine ⟨?_, closed⟩
  have same := closed fragment primitive
  rw [Edit.apply, failed] at same
  exact same

theorem Tree.IsClosedAt.applyAll {tree : Tree} {path : Path} (closed : tree.IsClosedAt path)
    {edits : List Edit} (inserts : ∀ edit ∈ edits, ∃ fragment primitive,
      edit = .insert path fragment primitive) : Edit.applyAll edits tree = tree := by
  induction edits with
  | nil => rfl
  | cons edit edits inductionHypothesis =>
    obtain ⟨fragment, primitive, rfl⟩ := inserts edit List.mem_cons_self
    rw [Edit.applyAll, List.foldl_cons, closed fragment primitive]
    exact inductionHypothesis fun other member => inserts other (List.mem_cons_of_mem _ member)

namespace Migration

variable {session : Session}

theorem recorded_apply (action : Files Outcome) (session : Session) :
    recorded action session = match action session.tree with
      | (.ok outcome, tree) => (.ok outcome, { session with tree := tree }.record outcome)
      | (.error failure, tree) => (.error failure, { session with tree := tree }) := by
  rw [recorded, bind_apply, onFiles]
  obtain ⟨result, tree⟩ := action session.tree
  cases result <;> rfl

theorem bind_ask_apply {First Second : Type} (question : Session → First)
    (next : First → Migration Second) (session : Session) :
    (ask question >>= next) session = next (question session) session := rfl

theorem bind_ofResult_apply {First Second : Type} (result : Except Failure First)
    (next : First → Migration Second) (session : Session) :
    (ofResult result >>= next) session = match result with
      | .ok answer => next answer session
      | .error failure => (.error failure, session) := by
  rw [bind_apply, ofResult]
  cases result <;> rfl

/-- What is recorded is done to the tree. -/
theorem follows_recorded {edit : Edit} {action : Files Outcome}
    (does : ∀ tree, edit.apply tree = (action tree).2) (session : Session) :
    session.Follows [edit] ((recorded action >>= fun _ => pure ()) session).2 := by
  have now : (action session.tree).2 = Edit.applyAll [edit] session.tree := (does _).symm
  rw [bind_apply, recorded_apply]
  cases outcome : action session.tree with
  | mk result tree =>
    rw [outcome] at now
    cases result <;> exact ⟨now, rfl⟩

/-- An action whose failures are noted does what it does, and goes on behind the note of a failure
that can be recovered from. -/
theorem recovering_cases (what : Text) (action : Migration Unit) (session : Session) :
    recovering what action session = action session ∨
      ∃ failure after, action session = (.error failure, after) ∧ failure.isRecoverable = true ∧
        recovering what action session = (.ok (), after.noteFailure what failure) := by
  cases outcome : action session with
  | mk result after =>
    rw [recovering, outcome]
    cases result with
    | ok answer => exact .inl rfl
    | error failure =>
      dsimp only
      split
      · rename_i recoverable
        exact .inr ⟨failure, after, rfl, recoverable, rfl⟩
      · exact .inl rfl

/-- A failure that is noted leaves the tree as the action left it. -/
theorem follows_recovering {edits : List Edit} {action : Migration Unit}
    (follows : session.Follows edits (action session).2) (what : Text) :
    session.Follows edits (recovering what action session).2 := by
  rcases recovering_cases what action session with same | ⟨failure, after, failed, -, noted⟩
  · rwa [same]
  · rw [failed] at follows
    rw [noted]
    exact ⟨follows.tree, follows.setup⟩

/-- An action that does nothing but insert into one file. If it fails, nothing can be inserted
there. -/
structure InsertsAt (path : Path) (edits : List Edit) (action : Migration Unit) : Prop where
  only : ∀ edit ∈ edits, ∃ fragment primitive, edit = .insert path fragment primitive
  follows : ∀ session : Session, session.Follows edits (action session).2
  closed : ∀ (session : Session) (failure : Failure), (action session).1 = .error failure →
    (action session).2.tree.IsClosedAt path

namespace InsertsAt

variable {path : Path} {left right : List Edit} {first second : Migration Unit}

theorem pure (path : Path) : InsertsAt path [] (Pure.pure ()) where
  only := by simp
  follows := .refl
  closed _ _ failed := nomatch failed

/-- What a failed insertion keeps from being done would have changed nothing. -/
theorem andThen (before : InsertsAt path left first) (after : InsertsAt path right second) :
    InsertsAt path (left ++ right) (first >>= fun _ => second) := by
  refine ⟨fun edit member => ?_, fun session => ?_, fun session failure failed => ?_⟩
  · exact (List.mem_append.mp member).elim (before.only edit) (after.only edit)
  · have follows := before.follows session
    have closed := before.closed session
    rw [bind_apply]
    cases outcome : first session with
    | mk result middle =>
      rw [outcome] at follows closed
      cases result with
      | ok answer => exact follows.trans (after.follows middle)
      | error failure =>
        -- The edits of the second action are counted although it does not run.
        have shut : middle.tree.IsClosedAt path := closed failure rfl
        exact follows.trans ⟨(shut.applyAll after.only).symm, rfl⟩
  · have closed := before.closed session
    rw [bind_apply] at failed ⊢
    cases outcome : first session with
    | mk result middle =>
      rw [outcome] at failed closed
      cases result with
      | ok answer => exact after.closed middle failure failed
      | error failure => exact closed failure rfl

theorem recovering (inserts : InsertsAt path left first) (what : Text) :
    InsertsAt path left (Migration.recovering what first) := by
  refine ⟨inserts.only, fun session => follows_recovering (inserts.follows session) what,
    fun session failure failed => ?_⟩
  rcases recovering_cases what first session with same | ⟨found, after, -, -, noted⟩
  · rw [same] at failed ⊢
    exact inserts.closed session failure failed
  · rw [noted] at failed
    cases failed

end InsertsAt

end Migration

namespace Executor

open Migration

variable {session : Session} {path : Path}

/-! ### Code -/

theorem insertsAt_insert (path : Path) (fragment : Text) (primitive : Code.Primitive) :
    InsertsAt path [.insert path fragment primitive] (insert path fragment primitive) := by
  refine ⟨fun edit member => ?_, fun session => ?_, fun session failure failed => ?_⟩
  · exact ⟨fragment, primitive, List.mem_singleton.mp member⟩
  · exact @follows_recorded (.insert path fragment primitive) _ (fun _ => rfl) session
  · rw [insert, bind_apply, recorded_apply] at failed ⊢
    cases outcome : Target.insert path fragment primitive session.tree with
    | mk result tree =>
      rw [outcome] at failed
      cases result with
      | ok answer => cases failed
      | error found =>
        obtain ⟨rfl, closed⟩ := Target.isClosedAt_of_insert outcome
        exact closed

/-- What is known of each insertion into a file, and stays so when insertions follow one another and
their failures are noted. The edits are those that the insertions stand for. -/
structure Composes (path : Path) (does : List Edit → Migration Unit → Prop) : Prop where
  pure : does [] (pure ())
  insert : ∀ fragment primitive,
    does [.insert path fragment primitive] (insert path fragment primitive)
  andThen : ∀ {left right : List Edit} {first second : Migration Unit}, does left first →
    does right second → does (left ++ right) (first >>= fun _ => second)
  recovering : ∀ {edits : List Edit} {action : Migration Unit}, does edits action →
    ∀ what, does edits (recovering what action)

namespace Composes

variable {does : List Edit → Migration Unit → Prop}

theorem insertEach (composes : Composes path does) (primitive : Code.Primitive)
    (fragments : List Text) :
    does (fragments.map (.insert path · primitive))
      (insertEach path primitive fragments) := by
  induction fragments with
  | nil => exact composes.pure
  | cons fragment fragments inductionHypothesis =>
    exact composes.andThen (composes.insert fragment primitive) inductionHypothesis

theorem insertStatements (composes : Composes path does) (isEntityPage : Bool)
    (statements : List Text) :
    does (Setup.statementEdits path isEntityPage statements)
      (insertStatements path isEntityPage statements) := by
  induction statements with
  | nil => exact composes.pure
  | cons statement statements inductionHypothesis =>
    rw [Setup.statementEdits, List.filterMap_cons, Executor.insertStatements]
    cases primitiveOf? statement isEntityPage with
    | none => exact inductionHypothesis
    | some primitive =>
      exact composes.andThen
        (composes.recovering (composes.insert statement primitive) primitive.name)
        inductionHypothesis

/-- Code is applied to one file, which is named or found by the session. -/
theorem exists_applyCode {does : Path → List Edit → Migration Unit → Prop}
    (composes : ∀ path, Composes path (does path)) (hint code words : Text) (target : Option Path)
    (session : Session) :
    ∃ path action, does path (session.setup.codeEdits hint code words target) action ∧
      applyCode hint code words target session = action session := by
  have applied (path : Path) (isEntityPage : Bool) := (composes path).andThen
    ((composes path).insertEach .importStatement (Code.imports code))
    ((composes path).insertStatements isEntityPage (Code.statements (Code.withoutImports code)))
  unfold applyCode Setup.codeEdits
  generalize roleOfCode hint code words = role
  cases target with
  | some path =>
    dsimp only [Option.isNone, Option.getD]
    rw [Bool.false_and, pure_bind]
    exact ⟨path, _, applied path false, rfl⟩
  | none =>
    dsimp only [Option.isNone, Option.getD]
    rw [Bool.true_and, bind_ask_apply]
    exact ⟨_, _, applied (session.pathOf role) (decide (role = .entityPage)), rfl⟩

end Composes

theorem composes_insertsAt (path : Path) : Composes path (InsertsAt path) where
  pure := .pure path
  insert := insertsAt_insert path
  andThen := .andThen
  recovering inserts what := inserts.recovering what

theorem follows_applyCode (hint code words : Text) (target : Option Path) (session : Session) :
    session.Follows (session.setup.codeEdits hint code words target)
      (applyCode hint code words target session).2 := by
  obtain ⟨path, action, inserts, applied⟩ :=
    Composes.exists_applyCode composes_insertsAt hint code words target session
  rw [applied]
  exact inserts.follows session

/-! ### Configuration -/

theorem follows_merge (path : Path) (primitive label : Text) (fragment : Mapping)
    (session : Session) :
    session.Follows [.merge path fragment] (merge path primitive label fragment session).2 := by
  have now : (Config.mergeInto path fragment session.tree).2 =
      Edit.applyAll [.merge path fragment] session.tree := rfl
  rw [merge, bind_apply, onFiles]
  cases outcome : Config.mergeInto path fragment session.tree with
  | mk result tree =>
    rw [outcome] at now
    cases result <;> exact ⟨now, rfl⟩

theorem follows_applyConfig (fragment : Mapping) (label : Text) (target : Option Text)
    (session : Session) :
    session.Follows
      [.merge (session.setup.documentPath target) (session.setup.openFragment fragment)]
      (applyConfig fragment label target session).2 := by
  have filtered : session.setup.documentPath target = match target.filter fun name =>
      !name.isEmpty && name != session.settings.template with
    | some name => session.destination.child name
    | none => session.templatePath := rfl
  rw [filtered, applyConfig, bind_ask_apply]
  dsimp only [id_eq]
  cases target.filter fun name => !name.isEmpty && name != session.settings.template with
  | some name => exact follows_merge _ _ _ _ session
  | none =>
    have follows := follows_merge session.templatePath "config-merge".toList label
      (session.setup.openFragment fragment)
      { session with contributions := session.contributions ++
        [contributionOf session.values label (session.setup.openFragment fragment)] }
    exact ⟨follows.tree, follows.setup⟩

theorem follows_applyCatalog (fragment : Mapping) (label : Text) (session : Session) :
    session.Follows [.describe (session.setup.pathOf .catalogDescriptor) fragment]
      (applyCatalog fragment label session).2 := by
  have described :
      Edit.applyAll [.describe (session.pathOf .catalogDescriptor) fragment] session.tree =
        Edit.apply (.describe (session.pathOf .catalogDescriptor) fragment) session.tree := rfl
  rw [Edit.apply] at described
  rw [applyCatalog, bind_ask_apply, bind_apply, onFiles, Files.exists?, Files.ask]
  cases found : session.tree.exists? (session.pathOf .catalogDescriptor) with
  | error fault => exact ⟨by rw [found] at described; exact described.symm, rfl⟩
  | ok there =>
    cases there with
    | false => exact ⟨by rw [found] at described; exact described.symm, rfl⟩
    | true =>
      have follows := follows_merge (session.pathOf .catalogDescriptor) "catalog-merge".toList label
        fragment session
      refine ⟨?_, follows.setup⟩
      refine Eq.trans follows.tree ?_
      rw [found] at described
      exact described.symm

/-! ### Instructions and blocks -/

theorem follows_update (hint : Text) (step : Step) (target : Option Text) (session : Session) :
    session.Follows (session.setup.updateEdits hint step target)
      (update hint step target session).2 := by
  unfold update Setup.updateEdits
  cases step.snippet with
  | none => exact .refl session
  | some snippet =>
    dsimp only
    by_cases configures : Instruction.configLanguages.contains snippet.language = true
    · rw [if_pos configures, if_pos configures, bind_ofResult_apply]
      cases blockMapping snippet.content with
      | error failure => exact .refl session
      | ok fragment => exact follows_applyConfig fragment step.text _ session
    · rw [if_neg configures, if_neg configures]
      by_cases codes : Instruction.codeLanguages.contains snippet.language = true
      · rw [if_pos codes, if_pos codes, bind_ask_apply]
        exact follows_applyCode hint snippet.content step.text _ session
      · rw [if_neg codes, if_neg codes]
        exact .refl session

theorem targetPath_eq (hint : Text) (target : Option Text) (words : Text) (session : Session) :
    targetPath hint target words session = session.setup.targetPath hint target words := by
  match target with
  | none => rfl
  | some [] => rfl
  | some (first :: rest) => rfl

theorem follows_addImports (hint : Text) (step : Step) (target : Option Text)
    (statements : List Text) (session : Session) :
    session.Follows (statements.map (.insert (session.setup.targetPath hint target
        (step.text ++ Text.joinWith [' '] statements)) · .importStatement))
      (addImports hint step target statements session).2 := by
  rw [addImports]
  split
  · rename_i none'
    rw [List.isEmpty_iff.mp none']
    exact .refl session
  · rw [bind_ask_apply, targetPath_eq]
    exact ((composes_insertsAt _).insertEach .importStatement statements).follows session

theorem follows_execute (hint : Text) (instruction : Instruction)
    (adds : instruction.action.addsOnly = true) (session : Session) :
    session.Follows (session.setup.instructionEdits hint instruction)
      (execute hint instruction session).2 := by
  refine follows_recovering ?_ instruction.action.name
  rw [perform, Setup.instructionEdits]
  cases action : instruction.action with
  | updateConfig target => exact follows_update hint instruction.step target session
  | addImport target statements =>
    exact follows_addImports hint instruction.step target statements session
  | installPackage packages => exact ⟨rfl, rfl⟩
  | generic => exact .refl session
  | _ => rw [action] at adds; simp [Action.addsOnly] at adds

theorem follows_applyBlock (executorHint : Text) (block : CodeBlock) (label hint : Text)
    (session : Session) :
    session.Follows (session.setup.blockEdits executorHint block label hint)
      (applyBlock executorHint block label hint session).2 := by
  refine follows_recovering ?_ (block.language ++ " block".toList)
  unfold performBlock Setup.blockEdits
  by_cases configures : Instruction.configLanguages.contains block.language = true
  · rw [if_pos configures, if_pos configures, bind_ofResult_apply]
    cases blockMapping block.content with
    | error failure => exact .refl session
    | ok fragment =>
      dsimp only
      split
      · exact follows_applyCatalog fragment label session
      · exact follows_applyConfig fragment label none session
  · rw [if_neg configures, if_neg configures]
    by_cases codes : Instruction.codeLanguages.contains block.language = true
    · rw [if_pos codes, if_pos codes]
      exact follows_applyCode executorHint block.content _ none session
    · rw [if_neg codes, if_neg codes]
      by_cases manifests : isManifestLanguage block.language = true
      · rw [if_pos manifests, if_pos manifests, bind_ask_apply, bind_ofResult_apply]
        cases Target.readFragment block.content with
        | error failure => exact .refl session
        | ok sections =>
          dsimp only
          exact @follows_recorded (.depend _ sections) _ (fun _ => rfl) session
      · rw [if_neg manifests, if_neg manifests]
        split
        · exact ⟨rfl, rfl⟩
        · exact .refl session

end Executor

namespace Migration

/-! ### Guides -/

variable {hint : Text} {path : Path}

theorem follows_runTask (sections : List Section) {task : Task} (adds : task.addsOnly = true)
    (session : Session) :
    session.Follows (session.setup.taskEdits hint path sections task)
      (runTask hint path sections task session).2 := by
  cases task with
  | instruction asked => exact Executor.follows_execute hint asked adds session
  | block block =>
    exact Executor.follows_applyBlock hint block (blockLabel path block)
      (blockHint hint path sections block) session

/-- Tasks that all run to their end, done or with a warning. -/
theorem follows_runTasks (sections : List Section) {tasks : List Task}
    (adds : ∀ task ∈ tasks, task.addsOnly = true) {session : Session}
    (ok : (runTasks hint path sections tasks session).1 = .ok ()) :
    session.Follows (tasks.flatMap (session.setup.taskEdits hint path sections))
      (runTasks hint path sections tasks session).2 := by
  induction tasks generalizing session with
  | nil => exact .refl session
  | cons task tasks inductionHypothesis =>
    have follows := @follows_runTask hint path sections task (adds task List.mem_cons_self) session
    rw [runTasks, bind_apply] at ok ⊢
    rw [List.flatMap_cons]
    cases outcome : runTask hint path sections task session with
    | mk result after =>
      rw [outcome] at follows ok
      cases result with
      | error failure => simp at ok
      | ok answer =>
        have further := @inductionHypothesis
          (fun other member => adds other (List.mem_cons_of_mem task member)) after ok
        rw [follows.setup] at further
        exact follows.trans further

/-- The setup of a session while a guide is run. -/
def setupFor (normalizes : Bool) (session : Session) : Setup :=
  { session.setup with normalizes := normalizes }

/-- Whether a guide neither copies nor deletes. -/
def addsOnly (document : Document) : Bool := (tasksOf document).all (·.addsOnly)

/-- A guide that runs to its end has been read, and its tasks have run. -/
theorem exists_of_runGuide {normalizes : Bool} {session : Session} {document : Document}
    (ok : (runGuide path normalizes hint session).1 = .ok document) :
    readGuide session.tree session.settings path = .ok document ∧
      ∃ after, runTasks hint path document.sections (tasksOf document)
          { session with normalizes := normalizes } = (.ok (), after) ∧
        (runGuide path normalizes hint session).2 =
          { after with normalizes := session.normalizes } := by
  rw [runGuide, bind_apply, guideAt] at ok ⊢
  cases read : readGuide session.tree session.settings path with
  | error failure =>
    rw [read] at ok
    simp at ok
  | ok found =>
    rw [read] at ok
    dsimp only at ok ⊢
    rw [bind_apply, normalizing] at ok ⊢
    cases outcome : runTasks hint path found.sections (tasksOf found)
        { session with normalizes := normalizes } with
    | mk result after =>
      rw [outcome] at ok
      cases result with
      | error failure => simp at ok
      | ok answer =>
        obtain rfl : found = document := Except.ok.inj ok
        exact ⟨rfl, after, outcome, rfl⟩

/-- A guide that only adds and runs to its end leaves what its edits leave. -/
theorem follows_runGuide {normalizes : Bool} {session : Session} {document : Document}
    (ok : (runGuide path normalizes hint session).1 = .ok document)
    (adds : addsOnly document = true) :
    session.Follows ((setupFor normalizes session).guideEdits hint path document)
      (runGuide path normalizes hint session).2 := by
  obtain ⟨-, after, ran, reached⟩ := exists_of_runGuide ok
  have follows := @follows_runTasks hint path document.sections _ (List.all_eq_true.mp adds)
    { session with normalizes := normalizes } (by rw [ran])
  rw [ran] at follows
  rw [reached]
  refine ⟨follows.tree, ?_⟩
  obtain ⟨settings, destination, -⟩ := Setup.mk.inj follows.setup
  show Setup.mk after.settings after.destination session.normalizes = session.setup
  rw [settings, destination]
  rfl

end Migration

end GuidedMigration
