/-
This file says what a guide that only adds does to a tree, as a list of edits: a fragment that goes
into a source file, a fragment that is merged into a document, one that describes an entry of the
catalog, and dependencies for a manifest. What an edit does depends only on the file that its path
leads to. It writes that file or leaves it as it is; where no file is, only a document is made.
-/
import GuidedMigration.Migration.Executor
import GuidedMigration.Proofs.Code.Presence
import GuidedMigration.Proofs.Tree.Reading
import GuidedMigration.Proofs.Value.Keyed

namespace GuidedMigration

open GuidedMigration.Tree

namespace Target

/-- The text that stands in a file after a manifest has been written to it: none, if the manifest is
no text. -/
def manifestText (manifest : Json.Datum) : Text := (manifestWord manifest).text.toOption.getD []

theorem writeWord_of_file {tree : Tree} {path : Path} (stands : tree.standing path = .file)
    (word : Json.Word) : writeWord path word tree =
      (match word.text with
        | .ok text => .ok text
        | .error fault => .error (.unencodable fault),
      tree.put (spelled path) (.file (Utf8.encode (word.text.toOption.getD [])))) := by
  rw [writeWord]
  cases word.text with
  | ok text =>
    dsimp only
    rw [bind_apply, Files.write_of_file stands]
    rfl
  | error fault =>
    dsimp only
    rw [bind_apply, Files.write_of_file stands]
    rfl

end Target

/-- A change that a guide asks of one file. -/
inductive Edit where
  | insert (path : Path) (fragment : Text) (primitive : Code.Primitive)
  | merge (path : Path) (fragment : Mapping)
  | describe (path : Path) (fragment : Mapping)
  | depend (path : Path) (sections : Target.Sections)
  deriving DecidableEq

namespace Edit

/-- The path of the file that is changed. -/
def path : Edit → Path
  | .insert path _ _ | .merge path _ | .describe path _ | .depend path _ => path

/-- The tree that an edit leaves, done or failed. -/
def apply : Edit → Tree → Tree
  | .insert path fragment primitive, tree => (Target.insert path fragment primitive tree).2
  | .merge path fragment, tree => (Config.mergeInto path fragment tree).2
  | .describe path fragment, tree =>
    match tree.exists? path with
    | .ok true => (Config.mergeInto path fragment tree).2
    | _ => tree
  | .depend path sections, tree => (Target.mergeDependencies path sections tree).2

/-- The tree that edits leave that are done one after the other. -/
def applyAll (edits : List Edit) (tree : Tree) : Tree :=
  edits.foldl (fun tree edit => edit.apply tree) tree

theorem applyAll_append (left right : List Edit) (tree : Tree) :
    applyAll (left ++ right) tree = applyAll right (applyAll left tree) := List.foldl_append

/-! ### What becomes of a file -/

/-- The text of a document with a fragment merged in; nothing if it need not or cannot be
written. -/
def mergedText? (path : Path) (fragment : Mapping) (old : Text) : Option Text :=
  match Config.mappingOf path old with
  | .error _ => none
  | .ok held =>
    if Value.agrees (.map (held.merge fragment)) (.map held) then none
    else if Config.isWritable (held.merge fragment) then
      some (Config.documentText (held.merge fragment))
    else none

/-- The text of a manifest with dependencies added; nothing if it need not be written. -/
def dependentText? (path : Path) (sections : Target.Sections) (old : Text) : Option Text :=
  match Target.readManifest path old >>= (Target.addSections · sections) with
  | .error _ => none
  | .ok (merged, added) => if added.isEmpty then none else some (Target.manifestText merged)

/-- The text that an edit writes to a file with a text; nothing if it leaves the file alone. -/
def newText? : Edit → Text → Option Text
  | .insert _ fragment primitive, old =>
    if Code.contains old fragment then none
    else (primitive.insert? old fragment).map (·.content)
  | .merge path fragment, old | .describe path fragment, old => mergedText? path fragment old
  | .depend path sections, old => dependentText? path sections old

/-- The bytes of a file after an edit. -/
def onBytes (edit : Edit) (bytes : Utf8.Bytes) : Utf8.Bytes :=
  match textOf bytes with
  | .error _ => bytes
  | .ok old => match edit.newText? old with
    | some new => Utf8.encode new
    | none => bytes

variable {tree : Tree} {bytes : Utf8.Bytes}

/-- Writing to a file what an edit makes of it. -/
theorem put_onBytes {place : Path.Place} (held : tree.find? place = some (.file bytes)) {old : Text}
    (text : textOf bytes = .ok old) (edit : Edit) :
    tree.put place (.file (edit.onBytes bytes)) = match edit.newText? old with
      | some new => tree.put place (.file (Utf8.encode new))
      | none => tree := by
  rw [onBytes, text]
  dsimp only
  cases edit.newText? old with
  | some new => rfl
  | none => exact put_of_find? held

/-- A file that is no text is left as it is. -/
theorem put_onBytes_of_error {place : Path.Place} (held : tree.find? place = some (.file bytes))
    {failure : Failure} (unread : textOf bytes = .error failure) (edit : Edit) :
    tree.put place (.file (edit.onBytes bytes)) = tree := by
  rw [onBytes, unread]
  exact put_of_find? held

/-! ### Insertions -/

section Insert

variable {path : Path} {fragment : Text} {primitive : Code.Primitive}

/-- Inserting into a file that is a text succeeds. -/
theorem insert_of_text {old : Text} (stands : tree.standing path = .file)
    (held : tree.find? (spelled path) = some (.file bytes)) (text : textOf bytes = .ok old) :
    ∃ outcome, Target.insert path fragment primitive tree = (.ok outcome,
      tree.put (spelled path) (.file ((Edit.insert path fragment primitive).onBytes bytes))) := by
  rw [Target.insert, Target.insertAs, bind_apply, Target.existing_of_file stands held, text,
    put_onBytes held text, newText?]
  dsimp only
  cases contained : Code.contains old fragment with
  | true => exact ⟨_, rfl⟩
  | false =>
    obtain ⟨insertion, found, inserted⟩ := Target.exists_inserted primitive path.name old fragment
    rw [if_neg Bool.false_ne_true, if_neg Bool.false_ne_true, found, Files.bind_mk_apply]
    dsimp only
    rw [inserted, Files.bind_mk_apply]
    dsimp only
    rw [bind_apply, Files.write_of_file stands]
    exact ⟨_, rfl⟩

theorem insert_of_unread {failure : Failure} (stands : tree.standing path = .file)
    (held : tree.find? (spelled path) = some (.file bytes))
    (unread : textOf bytes = .error failure) :
    Target.insert path fragment primitive tree = (.error failure, tree) := by
  rw [Target.insert, Target.insertAs, bind_apply, Target.existing_of_file stands held, unread]

theorem insert_of_not_file (other : tree.standing path ≠ .file) :
    ∃ failure, Target.insert path fragment primitive tree = (.error failure, tree) := by
  obtain ⟨failure, failed⟩ := Target.existing_of_not_file other (.targetMissing path)
  refine ⟨failure, ?_⟩
  rw [Target.insert, Target.insertAs, bind_apply, failed]

end Insert

/-! ### Dependencies -/

section Depend

variable {path : Path} {sections : Target.Sections}

theorem mergeDependencies_of_file (stands : tree.standing path = .file)
    (held : tree.find? (spelled path) = some (.file bytes)) :
    (Target.mergeDependencies path sections tree).2 =
      tree.put (spelled path) (.file ((Edit.depend path sections).onBytes bytes)) := by
  rw [Target.mergeDependencies, bind_apply, Target.existing_of_file stands held]
  cases text : textOf bytes with
  | error failure =>
    rw [put_onBytes_of_error held text]
  | ok old =>
    rw [put_onBytes held text, newText?, dependentText?]
    dsimp only
    rw [Files.bind_mk_apply]
    cases manifest : Target.readManifest path old with
    | error failure => rfl
    | ok value =>
      dsimp only
      rw [Files.bind_mk_apply]
      show _ = match (match Target.addSections value sections with
        | .error _ => none
        | .ok (merged, added) =>
          if added.isEmpty then none else some (Target.manifestText merged)) with
        | some new => tree.put (spelled path) (.file (Utf8.encode new))
        | none => tree
      cases Target.addSections value sections with
      | error failure => rfl
      | ok outcome =>
        obtain ⟨merged, added⟩ := outcome
        dsimp only
        cases none' : added.isEmpty with
        | true => rfl
        | false =>
          rw [if_neg Bool.false_ne_true, if_neg Bool.false_ne_true]
          rw [bind_apply, Target.writeWord_of_file stands, Target.manifestText]
          cases (Target.manifestWord merged).text <;> rfl

theorem mergeDependencies_of_not_file (other : tree.standing path ≠ .file) :
    (Target.mergeDependencies path sections tree).2 = tree := by
  obtain ⟨failure, failed⟩ := Target.existing_of_not_file other (.manifestMissing path)
  rw [Target.mergeDependencies, bind_apply, failed]

end Depend

/-! ### Documents -/

section Merge

variable {path : Path} {fragment : Mapping}

theorem mergeInto_of_not_loaded {failure : Failure}
    (failed : Config.load path tree = (.error failure, tree)) :
    (Config.mergeInto path fragment tree).2 = tree := by
  rw [Config.mergeInto, bind_apply, failed]

theorem mergeInto_of_loaded {held : Mapping} {there : Bool}
    (loaded : Config.load path tree = (.ok held, tree)) (found : tree.exists? path = .ok there) :
    (Config.mergeInto path fragment tree).2 =
      if there && Value.agrees (.map (held.merge fragment)) (.map held) then tree
      else (Config.writeDocument path (held.merge fragment) tree).2 := by
  have written : ((do
      Config.writeDocument path (held.merge fragment)
      pure true : Files Bool) tree).2 =
        (Config.writeDocument path (held.merge fragment) tree).2 := by
    rw [bind_apply]
    obtain ⟨result, after⟩ := Config.writeDocument path (held.merge fragment) tree
    cases result <;> rfl
  rw [Config.mergeInto, bind_apply, loaded]
  dsimp only
  rw [bind_apply, Files.exists?, Files.ask, found]
  dsimp only
  cases there with
  | false => exact written
  | true =>
    rw [if_pos rfl, Bool.true_and]
    split
    · rfl
    · exact written

theorem mergeInto_of_file (stands : tree.standing path = .file)
    (held : tree.find? (spelled path) = some (.file bytes)) :
    (Config.mergeInto path fragment tree).2 =
      tree.put (spelled path) (.file ((Edit.merge path fragment).onBytes bytes)) := by
  have loaded := Config.load_of_file stands held
  cases text : textOf bytes with
  | error failure =>
    rw [put_onBytes_of_error held text]
    rw [text] at loaded
    exact mergeInto_of_not_loaded loaded
  | ok old =>
    have parsed : (textOf bytes >>= Config.mappingOf path) = Config.mappingOf path old := by
      rw [text]
      rfl
    rw [put_onBytes held text, newText?, mergedText?]
    rw [parsed] at loaded
    cases document : Config.mappingOf path old with
    | error failure =>
      rw [document] at loaded
      exact mergeInto_of_not_loaded loaded
    | ok mapping =>
      rw [document] at loaded
      rw [mergeInto_of_loaded loaded (exists?_of_file stands), Bool.true_and]
      dsimp only
      split
      · rfl
      · cases fits : Config.isWritable (mapping.merge fragment) with
        | true =>
          rw [Config.writeDocument_of_writable fits, Files.write_of_file stands]
          rfl
        | false =>
          rw [Config.writeDocument_of_not_writable fits]
          rfl

/-- Where no file is, merging changes nothing, and nothing ever will be there, or it writes a
document. -/
theorem mergeInto_of_not_file (other : tree.standing path ≠ .file) :
    tree.IsSettled path ∧ (Config.mergeInto path fragment tree).2 = tree ∨
      (Config.mergeInto path fragment tree).2 =
        (Config.writeDocument path (Mapping.merge [] fragment) tree).2 := by
  have made (free : tree.exists? path = .ok false) : (Config.mergeInto path fragment tree).2 =
      (Config.writeDocument path (Mapping.merge [] fragment) tree).2 :=
    mergeInto_of_loaded (Config.load_of_free free) free
  cases stands : tree.standing path with
  | file => exact absurd stands other
  | lost => exact .inr (made (exists?_of_free (.inr stands)))
  | vacant => exact .inr (made (exists?_of_free (.inl stands)))
  | directory =>
    obtain ⟨failure, failed⟩ := Config.load_of_directory stands
    exact .inl ⟨by simp [IsSettled, stands], mergeInto_of_not_loaded failed⟩
  | barred =>
    rcases exists?_of_barred stands with free | ⟨fault, failed⟩
    · exact .inr (made free)
    · exact .inl ⟨by simp [IsSettled, stands],
        mergeInto_of_not_loaded (Config.load_of_error failed)⟩

end Merge

/-! ### What becomes of a tree -/

/-- A file that an edit is about is written. -/
theorem apply_of_file {edit : Edit} (stands : tree.standing edit.path = .file)
    (held : tree.find? (spelled edit.path) = some (.file bytes)) :
    edit.apply tree = tree.put (spelled edit.path) (.file (edit.onBytes bytes)) := by
  cases edit with
  | insert path fragment primitive =>
    change tree.standing path = .file at stands
    cases text : textOf bytes with
    | error failure => rw [put_onBytes_of_error held text, apply, insert_of_unread stands held text]
    | ok old =>
      obtain ⟨outcome, inserted⟩ :=
        @insert_of_text _ _ path fragment primitive _ stands held text
      rw [apply, inserted]
      rfl
  | merge path fragment => exact mergeInto_of_file stands held
  | describe path fragment =>
    change tree.standing path = .file at stands
    rw [apply, exists?_of_file stands]
    exact mergeInto_of_file stands held
  | depend path sections => exact mergeDependencies_of_file stands held

/-- Whether an edit makes the file that it is about if it is not there. -/
def makes : Edit → Bool
  | .merge _ fragment => Config.isWritable (Mapping.merge [] fragment)
  | _ => false

theorem apply_of_not_file {edit : Edit} (other : tree.standing edit.path ≠ .file)
    (needs : edit.makes = false) : edit.apply tree = tree := by
  cases edit with
  | insert path fragment primitive =>
    obtain ⟨failure, failed⟩ := @insert_of_not_file _ path fragment primitive other
    rw [apply, failed]
  | merge path fragment =>
    rcases @mergeInto_of_not_file _ path fragment other with ⟨-, same⟩ | made
    · exact same
    · rwa [Config.writeDocument_of_not_writable needs] at made
  | describe path fragment =>
    rw [apply]
    split
    · rename_i there
      obtain ⟨failure, failed⟩ := Config.load_of_directory (directory_of_exists? there other)
      exact mergeInto_of_not_loaded failed
    · rfl
  | depend path sections => exact mergeDependencies_of_not_file other

/-- Where no file is, an edit changes nothing, or it makes a document. -/
theorem apply_cases {edit : Edit} (other : tree.standing edit.path ≠ .file) :
    edit.apply tree = tree ∧ (edit.makes = true → tree.IsSettled edit.path) ∨
      ∃ path fragment, edit = .merge path fragment ∧ edit.makes = true ∧ edit.apply tree =
        (Files.write path (Config.documentText (Mapping.merge [] fragment)) tree).2 := by
  cases needs : edit.makes with
  | false => exact .inl ⟨apply_of_not_file other needs, by simp⟩
  | true =>
    cases edit with
    | merge path fragment =>
      rcases @mergeInto_of_not_file _ path fragment other with ⟨settled, same⟩ | made
      · exact .inl ⟨same, fun _ => settled⟩
      · rw [Config.writeDocument_of_writable needs] at made
        exact .inr ⟨path, fragment, rfl, rfl, made⟩
    | _ => simp [makes] at needs

/-! ### The frame of an edit -/

/-- What every edit keeps: it only adds to the tree, and away from its own place no files. -/
structure Kept (before : Tree) (path : Path) (after : Tree) : Prop where
  grows : before.Grows after
  rooted : before.IsRooted → after.IsRooted
  frame : ∀ place, place ≠ spelled path → after.find? place = before.find? place ∨
    before.find? place = none ∧ after.find? place = some .directory

theorem kept_apply (edit : Edit) (tree : Tree) : Kept tree edit.path (edit.apply tree) := by
  by_cases stands : tree.standing edit.path = .file
  · obtain ⟨reached, bytes, held⟩ := standing_eq_file.mp stands
    have other : tree.find? (spelled edit.path) ≠ some .directory := by simp [held]
    rw [apply_of_file stands held]
    exact ⟨grows_put_file other _,
      fun rooted => rooted.put (rooted _ (by simp [held])) (.inr other) (isGround_of_find? other),
      fun place different => .inl (find?_put_of_ne different _ tree)⟩
  · rcases apply_cases stands with ⟨same, -⟩ | ⟨path, fragment, rfl, -, made⟩
    · rw [same]
      exact ⟨.refl tree, id, fun _ _ => .inl rfl⟩
    · have written := Files.written_write path
        (Config.documentText (Mapping.merge [] fragment)) tree
      rw [made]
      exact ⟨written.grows, written.rooted, written.frame⟩

end Edit

end GuidedMigration
