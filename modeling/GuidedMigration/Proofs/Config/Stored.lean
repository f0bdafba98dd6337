/-
This file follows documents into their files. A document is stored at a path if a file there holds
it, and what a successful write or merge leaves behind is again a stored document: the one that was
to be written, or one that is alike and that was kept with its comments and its order. Documents at
other paths stay. Where a document can be loaded and its file can be made, writing succeeds.

What is written has to be read back as the same document. That is asked of each document by name,
in `LoadsBack`.
-/
import GuidedMigration.Proofs.Migration.EditedDocument
import GuidedMigration.Proofs.Value.Absorption
import GuidedMigration.Proofs.Yaml.Keyed
import GuidedMigration.Proofs.Config.Built

namespace GuidedMigration

namespace Tree

theorem putEntry_putEntry (place : Path.Place) (first second : Node)
    (entries : List (Path.Place × Node)) :
    putEntry place second (putEntry place first entries) = putEntry place second entries := by
  induction entries with
  | nil => simp [putEntry]
  | cons entry rest inductionHypothesis =>
    obtain ⟨other, old⟩ := entry
    by_cases same : other = place
    · simp [putEntry, same]
    · simp [putEntry, same, inductionHypothesis]

/-- Of two things that are put at one place the second stays. -/
theorem put_put (place : Path.Place) (first second : Node) (tree : Tree) :
    (tree.put place first).put place second = tree.put place second := by
  rw [put, put, putEntry_putEntry]
  rfl

end Tree

open GuidedMigration.Tree

/-- An action that succeeds and is made of two has a first half that does. -/
theorem Files.exists_of_bind_ok {First Second : Type} {action : Files First}
    {next : First → Files Second} {tree after : Tree} {answer : Second}
    (done : (action >>= next) tree = (.ok answer, after)) :
    ∃ first between, action tree = (.ok first, between) ∧
      next first between = (.ok answer, after) := by
  rw [bind_apply] at done
  revert done
  cases action tree with
  | mk result between =>
    cases result with
    | error failure => exact fun done => nomatch (Prod.mk.inj done).1
    | ok first => exact fun done => ⟨first, between, rfl, done⟩

/-- What a tree says is said of the tree, and leaves it. -/
theorem Files.ask_eq_ok {Answer : Type} {question : Tree → Except FileFault Answer}
    {tree after : Tree} {answer : Answer} (done : Files.ask question tree = (.ok answer, after)) :
    question tree = .ok answer ∧ after = tree := by
  rw [Files.ask] at done
  cases said : question tree with
  | error fault =>
    rw [said] at done
    cases (Prod.mk.inj done).1
  | ok found =>
    rw [said] at done
    exact ⟨congrArg Except.ok (Except.ok.inj (Prod.mk.inj done).1), (Prod.mk.inj done).2.symm⟩

/-- Where a file is or could be made, it is written without further ado. -/
theorem Files.write_of_free {tree : Tree} {path : Path}
    (stands : tree.standing path = .vacant ∨ tree.standing path = .file) (content : Text) :
    Files.write path content tree =
      (.ok (), tree.put (spelled path) (.file (Utf8.encode content))) := by
  rw [Files.write_apply, Files.ensureDirectory_of_directory (standing_parent stands)]
  dsimp only
  rw [Files.change, writeBytes_of_free stands]

namespace Config

variable {tree before after : Tree} {path other : Path} {document fragment old : Mapping}

/-! ### Stored documents -/

/-- Whether a document can be written and is read back from the text that is written for it. -/
structure LoadsBack (document : Mapping) : Prop where
  writable : isWritable document = true
  reads : ∀ path, mappingOf path (Text.unifyNewlines (documentText document)) = .ok document

theorem LoadsBack.isProper (loads : LoadsBack document) : Mapping.isProper document = true :=
  isProper_mappingOf (loads.reads ⟨[], []⟩)

theorem LoadsBack.holds (loads : LoadsBack document) :
    Holds (Utf8.encode (documentText document)) document := ⟨_, textOf_encode _, loads.reads⟩

theorem Holds.isProper {bytes : Utf8.Bytes} (holds : Holds bytes document) :
    Mapping.isProper document = true := by
  obtain ⟨text, -, parsed⟩ := holds
  exact isProper_mappingOf (parsed ⟨[], []⟩)

/-- Reading a document back can be computed for any path. -/
theorem loadsBack_of_read (writable : isWritable document = true) (read : (mappingOf ⟨[], []⟩
    (Text.unifyNewlines (documentText document))).toOption = some document) :
    LoadsBack document := ⟨writable, fun _ => mappingOf_congr (eq_ok_of_toOption read) _⟩

/-- How a document is stored at a path: there is no file and one could be made, or a file holds the
document. -/
inductive IsStored (tree : Tree) (path : Path) : Option Mapping → Prop where
  | missing (free : tree.standing path = .vacant) : IsStored tree path none
  | held {document : Mapping} (bytes : Utf8.Bytes) (stands : tree.standing path = .file)
      (found : tree.find? (spelled path) = some (.file bytes)) (holds : Holds bytes document) :
      IsStored tree path (some document)

namespace IsStored

variable {held : Option Mapping}

theorem isFree (stored : IsStored tree path held) :
    tree.standing path = .vacant ∨ tree.standing path = .file := by
  cases stored with
  | missing free => exact .inl free
  | held bytes stands => exact .inr stands

theorem exists? (stored : IsStored tree path held) : tree.exists? path = .ok held.isSome := by
  cases stored with
  | missing free => exact exists?_of_free (.inl free)
  | held bytes stands => exact exists?_of_file stands

theorem load (stored : IsStored tree path held) :
    load path tree = (.ok (held.getD []), tree) := by
  cases stored with
  | missing free => exact load_of_free (exists?_of_free (.inl free))
  | held bytes stands found holds =>
    obtain ⟨text, read, parsed⟩ := holds
    rw [load_of_file stands found, read]
    exact Prod.ext (parsed path) rfl

theorem isProper (stored : IsStored tree path held) :
    Mapping.isProper (held.getD []) = true := by
  cases stored with
  | missing => rfl
  | held bytes stands found holds => exact holds.isProper

theorem isKeyed (stored : IsStored tree path held) : Mapping.isKeyed (held.getD []) = true :=
  Mapping.isKeyed_of_isProper stored.isProper

/-- What is put where a document can be stored is there. -/
theorem find?_put (stored : IsStored tree path held) (node : Node) :
    (tree.put (spelled path) node).find? (spelled path) = some node := by
  refine find?_put_same (@isGround_of_find? tree (spelled path) ?_) node tree
  cases stored with
  | missing free => simp [(standing_eq_vacant.mp free).2]
  | held bytes stands found => simp [found]

/-- At most one document is stored at a path. -/
theorem eq (stored : IsStored tree path held) {other : Option Mapping}
    (again : IsStored tree path other) : held = other := by
  cases stored with
  | missing free =>
    cases again with
    | missing => rfl
    | held bytes stands => simp [free] at stands
  | held bytes stands found holds =>
    cases again with
    | missing free => simp [free] at stands
    | held bytes' stands' found' holds' =>
      obtain rfl : bytes = bytes' := by
        rw [found] at found'
        exact Node.file.inj (Option.some.inj found')
      rw [holds.eq holds']

end IsStored

/-- A document that can be loaded from what is there is stored there. -/
theorem isStored_of_load (there : tree.exists? path = .ok true)
    (loaded : (load path tree).1 = .ok document) : IsStored tree path (some document) := by
  by_cases stands : tree.standing path = .file
  · obtain ⟨-, bytes, found⟩ := standing_eq_file.mp stands
    rw [load_of_file stands found] at loaded
    obtain ⟨text, read, parsed⟩ := exists_of_bind_ok loaded
    exact .held bytes stands found ⟨text, read, mappingOf_congr parsed⟩
  · obtain ⟨failure, failed⟩ := load_of_directory (directory_of_exists? there stands)
    rw [failed] at loaded
    simp at loaded

theorem eq_of_load (loaded : load path tree = (.ok document, after)) : after = tree := by
  rw [← load_snd path tree, loaded]

/-! ### What writing leaves -/

/-- Whether a file need not be written: the document to write and the one that it holds compare
equal. -/
def isKept (left right : Mapping) : Bool := Value.agrees (.map left) (.map right)

/-- What is left when a document has been stored at a path: the document is there, and what is
stored elsewhere stays. A path that is free for a file can only be taken for a directory where
directories had to be made. -/
structure Stores (before : Tree) (path : Path) (document : Mapping) (after : Tree) : Prop where
  stored : IsStored after path (some document)
  others : ∀ other held, spelled other ≠ spelled path →
    (held = none → before.standing path ≠ .lost) → IsStored before other held →
    IsStored after other held

theorem Stores.refl (stored : IsStored tree path (some document)) :
    Stores tree path document tree := ⟨stored, fun _ _ _ _ => id⟩

theorem Stores.trans {between : Tree} (first : Stores before path old between)
    (second : Stores between path document after) : Stores before path document after := by
  refine ⟨second.stored, fun other held apart found stored => ?_⟩
  refine second.others other held apart (fun _ lost => ?_)
    (first.others other held apart found stored)
  rcases first.stored.isFree with vacant | file
  · simp [vacant] at lost
  · simp [file] at lost

/-- Nothing but a file and the directories above it are new after a text was written. -/
theorem isStored_of_written {content : Text} {held : Option Mapping}
    (written : Files.write path content before = (.ok (), after))
    (apart : spelled other ≠ spelled path)
    (found : held = none → before.standing path ≠ .lost) (stored : IsStored before other held) :
    IsStored after other held := by
  have effect := Files.written_write path content before
  rw [written] at effect
  cases stored with
  | held bytes stands at' holds =>
    refine .held bytes ?_ ?_ holds
    · rw [effect.grows.standing (by simp [IsSettled, stands]), stands]
    · rcases effect.frame _ apart with same | ⟨free, -⟩
      · rw [same, at']
      · simp [free] at at'
  | missing free =>
    -- the directory is there, so that nothing was made but the file
    obtain ⟨reached, empty⟩ := standing_eq_vacant.mp free
    have settled := found rfl
    refine .missing (standing_eq_vacant.mpr ⟨effect.grows.place reached, ?_⟩)
    have open' : before.standing path = .vacant ∨ before.standing path = .file := by
      have now := (effect.written rfl).1
      by_cases vacant : before.standing path = .vacant
      · exact .inl vacant
      · exact .inr (by rw [← effect.grows.standing ⟨settled, vacant⟩, now])
    rw [Files.write_of_free open'] at written
    rw [← (Prod.mk.inj written).2, find?_put_of_ne apart, empty]

theorem isStored_written {content : Text}
    (written : Files.write path content before = (.ok (), after))
    (holds : Holds (Utf8.encode content) document) : IsStored after path (some document) := by
  have effect := Files.written_write path content before
  rw [written] at effect
  obtain ⟨stands, found⟩ := effect.written rfl
  exact .held _ stands found holds

theorem stores_written (loads : LoadsBack document)
    (written : Files.write path (documentText document) before = (.ok (), after)) :
    Stores before path document after :=
  ⟨isStored_written written loads.holds,
    fun _ _ apart found stored => isStored_of_written written apart found stored⟩

/-! ### One document -/

theorem eq_ok_of_write_then {changed : Bool}
    (done : (do
      writeDocument path document
      pure true : Files Bool) tree = (.ok changed, after)) :
    Files.write path (documentText document) tree = (.ok (), after) := by
  obtain ⟨answer, between, written, done⟩ := Files.exists_of_bind_ok done
  cases writable : isWritable document with
  | true =>
    rw [writeDocument_of_writable writable] at written
    rw [written]
    exact Prod.ext rfl (Prod.mk.inj done).2
  | false =>
    rw [writeDocument_of_not_writable writable] at written
    cases (Prod.mk.inj written).1

theorem write_then_of_free
    (stands : tree.standing path = .vacant ∨ tree.standing path = .file)
    (writable : isWritable document = true) :
    (do
      writeDocument path document
      pure true : Files Bool) tree =
      (.ok true, tree.put (spelled path) (.file (Utf8.encode (documentText document)))) := by
  rw [bind_apply, writeDocument_of_writable writable, Files.write_of_free stands]
  rfl

/-- A write that succeeds has found the document or has written it. -/
theorem write_cases {changed : Bool} (done : write path document tree = (.ok changed, after)) :
    (after = tree ∧ ∃ old, IsStored tree path (some old) ∧ isKept old document = true) ∨
      Files.write path (documentText document) tree = (.ok (), after) := by
  rw [write] at done
  obtain ⟨there, between, asked, rest⟩ := Files.exists_of_bind_ok done
  obtain ⟨found, rfl⟩ := Files.ask_eq_ok asked
  cases there with
  | false => exact .inr (eq_ok_of_write_then rest)
  | true =>
    dsimp only at rest
    rw [if_pos rfl] at rest
    obtain ⟨old, same, loaded, last⟩ := Files.exists_of_bind_ok rest
    obtain rfl := eq_of_load loaded
    split at last
    · rename_i kept
      exact .inl ⟨(Prod.mk.inj last).2.symm, old,
        isStored_of_load found (by rw [loaded]), kept⟩
    · exact .inr (eq_ok_of_write_then last)

/-- What a write leaves: the document, or one that is alike and was there. -/
theorem stores_of_write (loads : LoadsBack document) {changed : Bool}
    (done : write path document tree = (.ok changed, after)) :
    ∃ kept, Stores tree path kept after ∧ kept.Alike document ∧
      (kept = document ∨ after = tree) := by
  rcases write_cases done with ⟨rfl, old, stored, kept⟩ | written
  · exact ⟨old, .refl stored,
      (Mapping.agrees_iff_alike stored.isProper loads.isProper).mp kept, .inr rfl⟩
  · exact ⟨document, stores_written loads written, .refl document, .inl rfl⟩

/-- A document that is stored already is left alone. -/
theorem write_of_kept (stored : IsStored tree path (some old))
    (kept : isKept old document = true) :
    write path document tree = (.ok false, tree) := by
  rw [isKept] at kept
  rw [write, bind_apply, Files.exists?, Files.ask, stored.exists?]
  dsimp only [Option.isSome]
  rw [if_pos rfl, bind_apply, stored.load]
  dsimp only [Option.getD]
  rw [if_pos kept]
  rfl

theorem write_of_not_kept {held : Option Mapping} (stored : IsStored tree path held)
    (writable : isWritable document = true)
    (changed : ∀ old, held = some old → isKept old document = false) :
    write path document tree =
      (.ok true, tree.put (spelled path) (.file (Utf8.encode (documentText document)))) := by
  rw [write, bind_apply, Files.exists?, Files.ask, stored.exists?]
  cases held with
  | none => exact write_then_of_free stored.isFree writable
  | some old =>
    have differs := changed old rfl
    rw [isKept] at differs
    dsimp only [Option.isSome]
    rw [if_pos rfl, bind_apply, stored.load]
    dsimp only [Option.getD]
    rw [differs, if_neg Bool.false_ne_true]
    exact write_then_of_free stored.isFree writable

/-- Where a document is stored or missing, writing one that can be written succeeds. -/
theorem exists_write {held : Option Mapping} (stored : IsStored tree path held)
    (writable : isWritable document = true) :
    ∃ changed after, write path document tree = (.ok changed, after) := by
  by_cases kept : ∃ old, held = some old ∧ isKept old document = true
  · obtain ⟨old, rfl, kept⟩ := kept
    exact ⟨_, _, write_of_kept stored kept⟩
  · refine ⟨_, _, write_of_not_kept stored writable fun old found => ?_⟩
    rw [Bool.eq_false_iff]
    exact fun same => kept ⟨old, found, same⟩

/-- A merge that succeeds has found nothing to change or has written the merged document. -/
theorem mergeInto_cases {changed : Bool}
    (done : mergeInto path fragment tree = (.ok changed, after)) :
    ∃ old, load path tree = (.ok old, tree) ∧
      ((after = tree ∧ IsStored tree path (some old) ∧
          isKept (old.merge fragment) old = true) ∨
        Files.write path (documentText (old.merge fragment)) tree = (.ok (), after)) := by
  rw [mergeInto] at done
  obtain ⟨old, between, loaded, rest⟩ := Files.exists_of_bind_ok done
  obtain rfl := eq_of_load loaded
  refine ⟨old, loaded, ?_⟩
  obtain ⟨there, same, asked, last⟩ := Files.exists_of_bind_ok rest
  obtain ⟨found, rfl⟩ := Files.ask_eq_ok asked
  cases there with
  | false => exact .inr (eq_ok_of_write_then last)
  | true =>
    dsimp only at last
    rw [if_pos rfl] at last
    split at last
    · rename_i kept
      exact .inl ⟨(Prod.mk.inj last).2.symm, isStored_of_load found (by rw [loaded]), kept⟩
    · exact .inr (eq_ok_of_write_then last)

/-- A document that a fragment does not change is left alone. -/
theorem mergeInto_of_kept (stored : IsStored tree path (some old))
    (kept : isKept (old.merge fragment) old = true) :
    mergeInto path fragment tree = (.ok false, tree) := by
  rw [isKept] at kept
  rw [mergeInto, bind_apply, stored.load]
  dsimp only [Option.getD]
  rw [bind_apply, Files.exists?, Files.ask, stored.exists?]
  dsimp only [Option.isSome]
  rw [if_pos rfl, if_pos kept]
  rfl

theorem mergeInto_of_not_kept {held : Option Mapping} (stored : IsStored tree path held)
    (writable : isWritable ((held.getD []).merge fragment) = true)
    (changed : ∀ old, held = some old → isKept (old.merge fragment) old = false) :
    mergeInto path fragment tree = (.ok true, tree.put (spelled path)
      (.file (Utf8.encode (documentText ((held.getD []).merge fragment))))) := by
  rw [mergeInto, bind_apply, stored.load]
  dsimp only
  rw [bind_apply, Files.exists?, Files.ask, stored.exists?]
  cases held with
  | none => exact write_then_of_free stored.isFree writable
  | some old =>
    have differs := changed old rfl
    rw [isKept] at differs
    dsimp only [Option.isSome, Option.getD]
    rw [if_pos rfl, if_neg (by simp [differs])]
    exact write_then_of_free stored.isFree writable

/-- Where a document is stored or missing, merging succeeds if the merged document can be
written. -/
theorem exists_mergeInto {held : Option Mapping} (stored : IsStored tree path held)
    (writable : isWritable ((held.getD []).merge fragment) = true) :
    ∃ changed after, mergeInto path fragment tree = (.ok changed, after) := by
  by_cases kept : ∃ old, held = some old ∧ isKept (old.merge fragment) old = true
  · obtain ⟨old, rfl, kept⟩ := kept
    exact ⟨_, _, mergeInto_of_kept stored kept⟩
  · refine ⟨_, _, mergeInto_of_not_kept stored writable fun old found => ?_⟩
    rw [Bool.eq_false_iff]
    exact fun same => kept ⟨old, found, same⟩

/-- What a merge leaves: the merged document, or the old one if that is alike. -/
theorem stores_of_mergeInto (loaded : load path tree = (.ok old, tree))
    (proper : Mapping.isProper fragment = true) (loads : LoadsBack (old.merge fragment))
    {changed : Bool} (done : mergeInto path fragment tree = (.ok changed, after)) :
    ∃ kept, Stores tree path kept after ∧ kept.Alike (old.merge fragment) ∧
      (kept = old.merge fragment ∨ kept = old) := by
  obtain ⟨old', loaded', outcome⟩ := mergeInto_cases done
  obtain rfl : old = old' := by
    rw [loaded] at loaded'
    exact Except.ok.inj (Prod.mk.inj loaded').1
  rcases outcome with ⟨rfl, stored, kept⟩ | written
  · have oldProper : Mapping.isProper old = true := stored.isProper
    exact ⟨old, .refl stored, ((Mapping.agrees_iff_alike
      (Value.isProper_merge oldProper proper) oldProper).mp kept).symm, .inr rfl⟩
  · exact ⟨_, stores_written loads written, .refl _, .inl rfl⟩

end Config

end GuidedMigration
