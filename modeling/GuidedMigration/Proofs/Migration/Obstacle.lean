/-
This file says what gets in the way of a change to one file so that nothing recovers from it: a file
that is no text, a document or a manifest with a value that cannot be used or is of the wrong kind,
a path with a null character where a document would be made, an integer that is too long in a
document that would be written, and half of a surrogate pair in a manifest that would be. This is
found by looking at the tree before the change is made. Nothing else gets in the way, and each of
these does.

Documents that hold themselves are left aside. They can be read, but values do not describe them,
and it depends on how far two of them have to be compared whether anything fails.
-/
import GuidedMigration.Proofs.Migration.Performed

namespace GuidedMigration

open GuidedMigration.Tree Files

/-! ### Failures -/

/-- Whether a failure is that of a document that holds itself. -/
def Failure.isEndless : Failure → Bool
  | .yaml .endless => true
  | _ => false

theorem Failure.isEndless_eq_false {failure : Failure} (finite : failure ≠ .yaml .endless) :
    failure.isEndless = false := by
  unfold isEndless
  split
  · exact absurd rfl finite
  · rfl

/-- Whether nothing recovers from a failure, documents that hold themselves left aside. -/
def Failure.isFatal (failure : Failure) : Bool := !failure.isRecoverable && !failure.isEndless

/-- Whether a result is a failure that nothing recovers from, documents that hold themselves left
aside. -/
def isFatal {Answer : Type} : Except Failure Answer → Bool
  | .ok _ => false
  | .error failure => failure.isFatal

theorem isFatal_of_escapes {Answer : Type} {result : Except Failure Answer}
    (recovers : escapes result = false) : isFatal result = false := by
  cases result with
  | ok answer => rfl
  | error failure =>
    rw [escapes] at recovers
    rw [isFatal, Failure.isFatal, recovers, Bool.false_and]

theorem Failure.isFatal_file {fault : FileFault} (system : fault.isSystem = true) :
    (Failure.file fault).isFatal = false := by
  rw [isFatal, isRecoverable, system, Bool.not_true, Bool.false_and]

/-! ### Obstacles -/

namespace Tree

/-- Whether a path leads to a file that is no text. -/
def isGarbledAt (path : Path) (tree : Tree) : Bool :=
  match tree.read path with
  | .error (.undecodable _) => true
  | _ => false

/-- Whether a path leads to a document that cannot be read: it is no text, or it has a value that
cannot be used. A text that is no document is only malformed, and a document that holds itself can
be read. -/
def isUnloadableAt (path : Path) (tree : Tree) : Bool :=
  match tree.read path with
  | .error (.undecodable _) => true
  | .error _ => false
  | .ok text => match Config.mappingOf path text with
    | .error (.yaml .endless) => false
    | .error (.yaml _) => true
    | _ => false

/-- Whether a fragment makes of the document at a path one that would be written and has an integer
that is too long for that. -/
def isOverlongAt (path : Path) (fragment : Mapping) (tree : Tree) : Bool :=
  match tree.exists? path, (Config.load path tree).1 with
  | .ok there, .ok held =>
    !Config.isWritable (held.merge fragment) &&
      !(there && Value.agrees (.map (held.merge fragment)) (.map held))
  | _, _ => false

/-- Whether nothing but a null character keeps a path from being written: its directory is there or
can be made. -/
def isUnwritableAt (path : Path) (tree : Tree) : Bool :=
  !isNullFree path && (!isNullFree path.parent || (ensureDirectory path.parent tree).1.isOk)

/-- Whether a path leads to a manifest that cannot take dependencies: it is no text, it has an
integer with too many digits, it or a section of it is of the wrong kind, or it would be written
with half of a surrogate pair. -/
def isUnfitAt (path : Path) (sections : Target.Sections) (tree : Tree) : Bool :=
  match tree.read path with
  | .error (.undecodable _) => true
  | .error _ => false
  | .ok text => match Target.readManifest path text with
    | .error (.value _) => true
    | .error _ => false
    | .ok manifest => match Target.addSections manifest sections with
      | .error _ => true
      | .ok (merged, added) => !added.isEmpty && !(Target.manifestWord merged).text.isOk

end Tree

/-- Whether something gets in the way of an edit. -/
def Edit.isObstructed (tree : Tree) : Edit → Bool
  | .insert path _ _ => tree.isGarbledAt path
  | .merge path fragment =>
    tree.isUnloadableAt path || tree.isUnwritableAt path || tree.isOverlongAt path fragment
  | .describe path fragment =>
    tree.isUnloadableAt path || match tree.exists? path with
      | .ok true => tree.isOverlongAt path fragment
      | _ => false
  | .depend path sections => tree.isUnfitAt path sections

/-! ### Reading -/

variable {tree : Tree} {path : Path} {First Answer : Type}

theorem Tree.read_of_directory (stands : tree.standing path = .directory) :
    tree.read path = .error (.file (.system .isDirectory path.toText)) := by
  obtain ⟨reached, held⟩ := standing_eq_directory.mp stands
  rw [Tree.read, bytes]
  simp [reached, held, Bind.bind, Except.bind]

/-- What is no file is not read as a text, and not because its bytes are none. -/
theorem Tree.fault_of_not_file (other : tree.standing path ≠ .file) :
    ∃ fault, tree.read path = .error (.file fault) := by
  cases read : tree.bytes path with
  | ok content => exact absurd (standing_of_bytes read) other
  | error fault => exact ⟨fault, by rw [Tree.read, read]⟩

/-- A text that must be there is read, or there is a failure from which nothing recovers exactly if
the path leads to a file that is no text. -/
theorem Target.existing_cases (path : Path) (missing : Refusal) (tree : Tree) :
    (∃ text, tree.standing path = .file ∧ tree.read path = .ok text ∧
        existing path missing tree = (.ok text, tree)) ∨
      ∃ failure, existing path missing tree = (.error failure, tree) ∧
        failure.isFatal = tree.isGarbledAt path ∧ ∀ text, tree.read path ≠ .ok text := by
  by_cases stands : tree.standing path = .file
  · obtain ⟨-, bytes, held⟩ := standing_eq_file.mp stands
    have read := read_of_file stands held
    rw [existing_of_file stands held, isGarbledAt, read, textOf]
    cases Utf8.decode bytes with
    | ok text => exact .inl ⟨_, stands, rfl, rfl⟩
    | error fault => exact .inr ⟨_, rfl, rfl, by simp⟩
  · obtain ⟨fault, unread⟩ := fault_of_not_file stands
    refine .inr ?_
    rw [existing, bind_apply, Files.exists?, Files.ask, isGarbledAt, unread]
    cases found : tree.exists? path with
    | error fault => exact ⟨_, rfl, Failure.isFatal_file (isSystem_of_map_look found), by simp⟩
    | ok there =>
      cases there with
      | false => exact ⟨_, rfl, rfl, by simp⟩
      | true =>
        have directory := read_of_directory (directory_of_exists? found stands)
        refine ⟨.file (.system .isDirectory path.toText), ?_, rfl, by simp⟩
        show Files.read path tree = _
        rw [Files.read, directory]

/-! ### Single files -/

section

variable {fragment : Text} {primitive : Code.Primitive} {patterns : List Code.Pattern} {what : Text}
  {sections : Target.Sections}

theorem isFatal_insert : isFatal (Target.insert path fragment primitive tree).1 =
    tree.isGarbledAt path := by
  rcases Target.existing_cases path (.targetMissing path) tree with
    ⟨text, stands, read, existing⟩ | ⟨failure, failed, garbled, -⟩
  · obtain ⟨-, bytes, held⟩ := standing_eq_file.mp stands
    rw [read_of_file stands held] at read
    obtain ⟨outcome, inserted⟩ :=
      @Edit.insert_of_text _ _ path fragment primitive _ stands held read
    rw [inserted, isGarbledAt, read_of_file stands held, read]
    rfl
  · rw [Target.insert, Target.insertAs, bind_apply, failed]
    exact garbled

/-- An insertion leaves a text a text. -/
theorem isGarbledAt_insert (clear : tree.isGarbledAt path = false) :
    ((Edit.insert path fragment primitive).apply tree).isGarbledAt path = false := by
  have kept := Edit.kept_apply (.insert path fragment primitive) tree
  by_cases stands : tree.standing path = .file
  · obtain ⟨-, bytes, held⟩ := standing_eq_file.mp stands
    have other : tree.find? (spelled path) ≠ some .directory := by simp [held]
    rw [Edit.apply_of_file stands held] at kept ⊢
    have settled : tree.IsSettled path := by simp [IsSettled, stands]
    have stays := (kept.grows.standing settled).trans stands
    rw [isGarbledAt, read_of_file stands held] at clear
    rw [isGarbledAt, read_of_file stays (find?_put_same (isGround_of_find? other) _ tree),
      Edit.onBytes]
    cases text : textOf bytes with
    | error failure => rwa [text] at clear ⊢
    | ok old =>
      dsimp only
      cases (Edit.insert path fragment primitive).newText? old with
      | some new => rw [textOf_encode]
      | none => rw [text]
  · rwa [Edit.apply_of_not_file stands rfl]

theorem isFatal_delete : isFatal (Target.delete path patterns what tree).1 =
    tree.isGarbledAt path := by
  rw [Target.delete, bind_apply]
  rcases Target.existing_cases path (.targetMissing path) tree with
    ⟨text, stands, read, existing⟩ | ⟨failure, failed, garbled, -⟩
  · rw [existing, isGarbledAt, read]
    dsimp only
    split
    · rfl
    · rw [bind_apply, Files.write_of_file stands]
      rfl
  · rw [failed]
    exact garbled

/-- A step that fails fails itself, or behind a step before it that succeeds. -/
theorem exists_of_bind_error {Second Fault : Type} {first : Except Fault First}
    {next : First → Except Fault Second} {fault : Fault}
    (failed : (first >>= next) = .error fault) :
    first = .error fault ∨ ∃ between, first = .ok between ∧ next between = .error fault := by
  cases first with
  | error other => exact .inl (congrArg _ (Except.error.inj failed))
  | ok between => exact .inr ⟨between, rfl, failed⟩

/-- A section that cannot take a dependency is of the wrong kind. -/
theorem mismatch_of_addAll {value : Json.Datum} {dependencies : Target.Dependencies}
    {failure : Failure} (failed : Target.addAll value dependencies = .error failure) :
    failure = .mismatch .section := by
  induction dependencies generalizing value with
  | nil => simp [Target.addAll] at failed
  | cons dependency rest inductionHypothesis =>
    obtain ⟨name, version⟩ := dependency
    unfold Target.addAll at failed
    split at failed
    · split at failed
      · exact inductionHypothesis failed
      · rcases exists_of_bind_error failed with inner | ⟨outcome, -, outer⟩
        · exact inductionHypothesis inner
        · exact nomatch outer
    · split at failed
      · exact inductionHypothesis failed
      · exact (Except.error.inj failed).symm

/-- A manifest that cannot take sections is of the wrong kind, or has a section that is. -/
theorem exists_mismatch_of_addSections {value : Json.Datum} {failure : Failure}
    (failed : Target.addSections value sections = .error failure) :
    ∃ kind, failure = .mismatch kind := by
  induction sections generalizing value with
  | nil => simp [Target.addSections] at failed
  | cons part rest inductionHypothesis =>
    obtain ⟨name, dependencies⟩ := part
    unfold Target.addSections at failed
    split at failed
    · rcases exists_of_bind_error failed with inner | ⟨outcome, -, failed⟩
      · exact ⟨.section, mismatch_of_addAll inner⟩
      · rcases exists_of_bind_error failed with inner | ⟨outcome, -, outer⟩
        · exact inductionHypothesis inner
        · exact nomatch outer
    · exact ⟨.manifest, (Except.error.inj failed).symm⟩

theorem isUnfitAt_of_unread (unread : ∀ text, tree.read path ≠ .ok text) :
    tree.isUnfitAt path sections = tree.isGarbledAt path := by
  rw [isUnfitAt, isGarbledAt]
  cases read : tree.read path with
  | ok text => exact absurd read (unread text)
  | error failure => cases failure <;> rfl

/-- A word that is no text is refused when its file is open. -/
theorem isFatal_writeWord (stands : tree.standing path = .file) (word : Json.Word) :
    isFatal (Target.writeWord path word tree).1 = !word.text.isOk := by
  rw [Target.writeWord]
  cases word.text with
  | ok text =>
    dsimp only
    rw [bind_apply, Files.write_of_file stands]
    rfl
  | error fault =>
    dsimp only
    rw [bind_apply, Files.write_of_file stands]
    rfl

theorem isFatal_bind_pure {First Answer : Type} (action : Files First) (answer : First → Answer)
    (tree : Tree) :
    isFatal ((action >>= fun first => pure (answer first)) tree).1 = isFatal (action tree).1 := by
  rw [bind_apply]
  obtain ⟨result, after⟩ := action tree
  cases result <;> rfl

theorem isFatal_mergeDependencies : isFatal (Target.mergeDependencies path sections tree).1 =
    tree.isUnfitAt path sections := by
  rw [Target.mergeDependencies, bind_apply]
  rcases Target.existing_cases path (.manifestMissing path) tree with
    ⟨text, stands, read, existing⟩ | ⟨failure, failed, garbled, unread⟩
  · rw [existing, isUnfitAt, read]
    dsimp only
    rw [Files.bind_mk_apply]
    cases manifest : Target.readManifest path text with
    | error failure =>
      have kind := manifest
      rw [Target.readManifest] at kind
      split at kind
      · simp at kind
      · rw [← Except.error.inj kind]
        rfl
      · rw [← Except.error.inj kind]
        rfl
    | ok value =>
      dsimp only
      rw [Files.bind_mk_apply]
      cases added : Target.addSections value sections with
      | error failure =>
        obtain ⟨kind, rfl⟩ := exists_mismatch_of_addSections added
        rfl
      | ok outcome =>
        obtain ⟨merged, names⟩ := outcome
        dsimp only
        cases names with
        | nil => rfl
        | cons name names =>
          rw [List.isEmpty_cons, if_neg Bool.false_ne_true, isFatal_bind_pure,
            isFatal_writeWord stands, Bool.not_false, Bool.true_and]
  · rw [failed, isUnfitAt_of_unread unread]
    exact garbled

/-! ### Documents -/

/-- The text of a document fails to be one in a way from which nothing recovers exactly if a value
in it cannot be used. -/
theorem isFatal_mappingOf (path : Path) (text : Text) :
    isFatal (Config.mappingOf path text) = match Config.mappingOf path text with
      | .error (.yaml .endless) => false
      | .error (.yaml _) => true
      | _ => false := by
  rw [Config.mappingOf]
  split
  · rfl
  · rename_i fault _ _
    cases fault <;> rfl
  · rfl
  · split <;> rfl

theorem Config.load_cases (path : Path) (tree : Tree) :
    (∃ held, load path tree = (.ok held, tree) ∧ tree.isUnloadableAt path = false) ∨
      ∃ failure, load path tree = (.error failure, tree) ∧
        failure.isFatal = tree.isUnloadableAt path := by
  rw [isUnloadableAt]
  by_cases stands : tree.standing path = .file
  · obtain ⟨-, bytes, held⟩ := standing_eq_file.mp stands
    rw [load_of_file stands held, read_of_file stands held, textOf]
    cases Utf8.decode bytes with
    | error fault => exact .inr ⟨_, rfl, rfl⟩
    | ok text =>
      have escaping := isFatal_mappingOf path (Text.unifyNewlines text)
      dsimp only
      rw [← escaping]
      show (∃ held, (mappingOf path (Text.unifyNewlines text), tree) = (.ok held, tree) ∧ _) ∨
        ∃ failure, (mappingOf path (Text.unifyNewlines text), tree) = (.error failure, tree) ∧ _
      cases mappingOf path (Text.unifyNewlines text) with
      | ok held => exact .inl ⟨held, rfl, rfl⟩
      | error failure => exact .inr ⟨failure, rfl, rfl⟩
  · obtain ⟨fault, unread⟩ := fault_of_not_file stands
    rw [unread]
    cases found : tree.exists? path with
    | error fault =>
      exact .inr ⟨_, load_of_error found, Failure.isFatal_file (isSystem_of_map_look found)⟩
    | ok there =>
      cases there with
      | false => exact .inl ⟨[], load_of_free found, rfl⟩
      | true =>
        have directory := read_of_directory (directory_of_exists? found stands)
        refine .inr ⟨.file (.system .isDirectory path.toText), ?_, rfl⟩
        rw [load, bind_apply, Files.exists?, Files.ask, found]
        show (Files.read path >>= fun text => ExceptT.mk (pure (mappingOf path text)) :
          Files Mapping) tree = _
        rw [bind_apply, Files.read, directory]

theorem Files.ensureDirectory_of_null (null : isNullFree path = false) (tree : Tree) :
    ensureDirectory path tree = (.error (.file .nullCharacter), tree) := by
  have own : ensureOne path tree = (.error (.file .nullCharacter), tree) := by
    rw [ensureOne, makeDirectory, Tree.isDirectory?, look, place_of_null null]
    rfl
  have unnamed : isNamed path = false := by
    rw [isNamed, ← isNullFree, null, Bool.false_and]
  have barred := standing_of_not_isNamed unnamed tree
  rw [ensureDirectory]
  obtain ⟨root, parts⟩ := path
  cases order : parts.reverse with
  | nil =>
    obtain rfl := List.reverse_eq_nil_iff.mp order
    exact own
  | cons last above =>
    have spelling : above.reverse ++ [last] = parts := by
      rw [← List.reverse_cons, ← order, List.reverse_reverse]
    rw [← spelling] at barred own
    rw [ensureFrom_of_not_lost (by simp [barred])]
    exact own

/-- Writing to a path with a null character fails for it, if nothing else is in the way. -/
theorem Files.isFatal_write (sound : tree.IsSound) (path : Path) (content : Text) :
    isFatal (Files.write path content tree).1 = tree.isUnwritableAt path := by
  rw [isUnwritableAt]
  cases free : isNullFree path with
  | true =>
    rw [Bool.not_true, Bool.false_and]
    exact isFatal_of_escapes
      (@behaves_write (fun _ => True) path free trivial content tree sound).recovers
  | false =>
    rw [Bool.not_false, Bool.true_and, write_apply]
    cases above : isNullFree path.parent with
    | false =>
      rw [ensureDirectory_of_null above]
      rfl
    | true =>
      rw [Bool.not_true, Bool.false_or]
      have made := isFatal_of_escapes
        (@behaves_ensureDirectory (fun _ => True) _ above tree sound).recovers
      cases outcome : ensureDirectory path.parent tree with
      | mk result between =>
        rw [outcome] at made
        cases result with
        | error failure => exact made
        | ok answer =>
          dsimp only
          rw [change, writeBytes, place_of_null free]
          rfl

theorem Tree.isUnwritableAt_of_exists? (other : tree.exists? path ≠ .ok false) :
    tree.isUnwritableAt path = false := by
  cases free : isNullFree path with
  | true => rw [isUnwritableAt, free, Bool.not_true, Bool.false_and]
  | false => exact absurd (exists?_of_null free tree) other

/-- Only what is there can be an unusable document. -/
theorem Tree.isUnloadableAt_of_exists? (other : tree.exists? path ≠ .ok true) :
    tree.isUnloadableAt path = false := by
  obtain ⟨fault, unread⟩ := fault_of_not_file fun stands => other (exists?_of_file stands)
  rw [isUnloadableAt, unread]

/-- A document is written at a path, or there is a null character in the path or an integer in the
document that is too long. -/
theorem isFatal_writeDocument (sound : tree.IsSound) (path : Path) (document : Mapping) :
    isFatal ((do
      Config.writeDocument path document
      pure true : Files Bool) tree).1 =
      (tree.isUnwritableAt path || !Config.isWritable document) := by
  rw [isFatal_bind_pure]
  cases writable : Config.isWritable document with
  | true =>
    rw [Config.writeDocument_of_writable writable, isFatal_write sound, Bool.not_true,
      Bool.or_false]
  | false =>
    rw [Config.writeDocument_of_not_writable writable, Bool.not_false, Bool.or_true]
    rfl

theorem isFatal_mergeInto (sound : tree.IsSound) (path : Path) (fragment : Mapping) :
    isFatal (Config.mergeInto path fragment tree).1 =
      (tree.isUnloadableAt path || tree.isUnwritableAt path ||
        tree.isOverlongAt path fragment) := by
  rw [Config.mergeInto, bind_apply, isOverlongAt]
  rcases Config.load_cases path tree with ⟨held, loaded, loadable⟩ | ⟨failure, failed, unloadable⟩
  · have written := isFatal_writeDocument sound path (held.merge fragment)
    rw [loaded, loadable, Bool.false_or]
    dsimp only
    rw [bind_apply, Files.exists?, Files.ask]
    cases found : tree.exists? path with
    | error fault =>
      rw [isUnwritableAt_of_exists? (by simp [found])]
      exact Failure.isFatal_file (isSystem_of_map_look found)
    | ok there =>
      cases there with
      | false =>
        dsimp only
        rw [Bool.false_and, Bool.not_false, Bool.and_true]
        exact written
      | true =>
        dsimp only
        rw [if_pos rfl, Bool.true_and]
        cases agreeing : Value.agrees (.map (held.merge fragment)) (.map held) with
        | true =>
          rw [if_pos rfl, isUnwritableAt_of_exists? (by simp [found]), Bool.not_true,
            Bool.and_false]
          rfl
        | false =>
          rw [if_neg Bool.false_ne_true, Bool.not_false, Bool.and_true]
          exact written
  · have there : tree.exists? path ≠ .ok false := by
      intro free
      rw [Config.load_of_free free] at failed
      cases congrArg Prod.fst failed
    rw [failed, isUnwritableAt_of_exists? there, Bool.or_false]
    dsimp only
    split
    · rename_i loaded
      cases loaded
    · exact unloadable.trans (Bool.or_false _).symm

end

end GuidedMigration
