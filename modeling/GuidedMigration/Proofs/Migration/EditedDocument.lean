/-
This file shows that documents come to rest: fragments that have been merged into a document one by
one, each written at once, and that are merged into it again in the same order, leave the bytes as
they were. In between the document may change, where fragments contradict each other. What is
written is taken to be read back, and documents that agree to be equal.

So do manifests: dependencies that have been added to a manifest are named in it, whatever has been
added since, and adding them again does not write the file. A file that has been emptied because its
manifest is no text holds no manifest, and stays empty.
-/
import GuidedMigration.Proofs.Migration.EditedFile
import GuidedMigration.Proofs.Target.Manifest
import GuidedMigration.Proofs.Value.Replay
import GuidedMigration.Proofs.Yaml.Keyed

namespace GuidedMigration

open GuidedMigration.Tree

namespace Config

/-- Whether the bytes of a file hold a document. -/
def Holds (bytes : Utf8.Bytes) (document : Mapping) : Prop :=
  ∃ text, textOf bytes = .ok text ∧ ∀ path, mappingOf path text = .ok document

/-- Whether documents can be written, are read back as they are written, and told apart when they
are compared. -/
structure Faithful (documents : Mapping → Prop) : Prop where
  writable : ∀ document, documents document → isWritable document = true
  reads : ∀ document, documents document →
    ∀ path, mappingOf path (Text.unifyNewlines (documentText document)) = .ok document
  differs : ∀ document other, documents document → documents other →
    Value.agrees (.map document) (.map other) = true → document = other

/-- The path of a document is only named when the document cannot be read. -/
theorem mappingOf_congr {path : Path} {text : Text} {document : Mapping}
    (read : mappingOf path text = .ok document) (other : Path) :
    mappingOf other text = .ok document := by
  rw [mappingOf] at read ⊢
  split at read
  · simp at read
  · simp at read
  · exact read
  · split at read
    · simp at read
    · rename_i falsy
      rw [if_neg falsy]
      exact read

theorem Holds.eq {bytes : Utf8.Bytes} {document other : Mapping} (left : Holds bytes document)
    (right : Holds bytes other) : document = other := by
  obtain ⟨text, read, parsed⟩ := left
  obtain ⟨text', read', parsed'⟩ := right
  obtain rfl : text = text' := Except.ok.inj (read.symm.trans read')
  exact Except.ok.inj ((parsed ⟨[], []⟩).symm.trans (parsed' ⟨[], []⟩))

theorem Holds.isKeyed {bytes : Utf8.Bytes} {document : Mapping} (holds : Holds bytes document) :
    Mapping.isKeyed document = true := by
  obtain ⟨text, -, parsed⟩ := holds
  exact isKeyed_mappingOf (parsed ⟨[], []⟩)

/-- What is written holds the document. -/
theorem Faithful.holds {documents : Mapping → Prop} (faithful : Faithful documents)
    {document : Mapping} (among : documents document) :
    Holds (Utf8.encode (documentText document)) document :=
  ⟨_, textOf_encode _, faithful.reads document among⟩

end Config

namespace Edit

open Config

/-- The fragment that an edit merges into a document. -/
def fragment? : Edit → Option Mapping
  | .merge _ fragment | .describe _ fragment => some fragment
  | _ => none

variable {edit : Edit} {edits : List Edit} {bytes : Utf8.Bytes} {document fragment : Mapping}
  {documents : Mapping → Prop}

theorem newText?_of_fragment? (merges : edit.fragment? = some fragment) (old : Text) :
    edit.newText? old = mergedText? edit.path fragment old := by
  cases edit with
  | merge path other => rw [← Option.some.inj merges]; rfl
  | describe path other => rw [← Option.some.inj merges]; rfl
  | _ => simp [fragment?] at merges

/-- A file that holds no document stays as it is. -/
theorem onBytes_of_not_holds (merges : edit.fragment? = some fragment)
    (none' : ∀ document, ¬ Holds bytes document) : edit.onBytes bytes = bytes := by
  rw [onBytes]
  cases text : textOf bytes with
  | error failure => rfl
  | ok old =>
    dsimp only
    rw [newText?_of_fragment? merges, mergedText?]
    cases parsed : mappingOf edit.path old with
    | error failure => rfl
    | ok document => exact absurd ⟨old, text, mappingOf_congr parsed⟩ (none' document)

/-- A file that holds a document holds the merged one afterwards; if it is written, then as that
document. -/
theorem onBytes_of_holds (faithful : Faithful documents) (merges : edit.fragment? = some fragment)
    (holds : Holds bytes document) (before : documents document)
    (after : documents (document.merge fragment)) :
    Holds (edit.onBytes bytes) (document.merge fragment) ∧ (edit.onBytes bytes = bytes ∨
      edit.onBytes bytes = Utf8.encode (documentText (document.merge fragment))) := by
  obtain ⟨old, text, parsed⟩ := holds
  rw [onBytes, text]
  dsimp only
  rw [newText?_of_fragment? merges, mergedText?, parsed]
  dsimp only
  rw [if_pos (faithful.writable _ after)]
  split
  · rename_i new written
    split at written
    · simp at written
    · rw [← Option.some.inj written]
      exact ⟨faithful.holds after, .inr rfl⟩
  · rename_i unwritten
    split at unwritten
    · rename_i agreeing
      rw [faithful.differs _ _ after before agreeing]
      exact ⟨⟨old, text, parsed⟩, .inl rfl⟩
    · simp at unwritten

/-- The fragments that edits merge, in order. -/
def fragments (edits : List Edit) : List Mapping := edits.filterMap fragment?

/-- Whether documents include what comes of merging any of the fragments into one of them. -/
def IsClosed (documents : Mapping → Prop) (edits : List Edit) : Prop :=
  ∀ document, documents document → ∀ fragment ∈ fragments edits, documents (document.merge fragment)

theorem onBytesAll_of_not_holds (merges : ∀ edit ∈ edits, edit.fragment? ≠ none)
    (none' : ∀ document, ¬ Holds bytes document) : onBytesAll edits bytes = bytes := by
  refine onBytesAll_of_each fun edit member => ?_
  obtain ⟨fragment, found⟩ := Option.ne_none_iff_exists'.mp (merges edit member)
  exact onBytes_of_not_holds found none'

/-- After edits a file holds all fragments merged in order; if it is written, then as that
document. -/
theorem onBytesAll_of_holds (faithful : Faithful documents)
    (merges : ∀ edit ∈ edits, edit.fragment? ≠ none) (closed : IsClosed documents edits)
    (holds : Holds bytes document) (start : documents document) :
    Holds (onBytesAll edits bytes) ((fragments edits).foldl Mapping.merge document) ∧
      (onBytesAll edits bytes = bytes ∨ onBytesAll edits bytes =
        Utf8.encode (documentText ((fragments edits).foldl Mapping.merge document))) := by
  induction edits generalizing bytes document with
  | nil => exact ⟨holds, .inl rfl⟩
  | cons edit edits inductionHypothesis =>
    obtain ⟨fragment, found⟩ := Option.ne_none_iff_exists'.mp (merges edit List.mem_cons_self)
    have listed : fragments (edit :: edits) = fragment :: fragments edits := by
      rw [fragments, List.filterMap_cons, found]
      rfl
    have after := closed document start fragment (by rw [listed]; exact List.mem_cons_self)
    obtain ⟨now, written⟩ := onBytes_of_holds faithful found holds start after
    obtain ⟨finally', rewritten⟩ := inductionHypothesis
      (fun other member => merges other (List.mem_cons_of_mem edit member))
      (fun document among other member => closed document among other
        (by rw [listed]; exact List.mem_cons_of_mem fragment member)) now after
    rw [listed, List.foldl_cons]
    refine ⟨finally', ?_⟩
    change onBytesAll edits (edit.onBytes bytes) = bytes ∨
      onBytesAll edits (edit.onBytes bytes) = _
    rcases rewritten with same | new
    · rcases written with untouched | written
      · exact .inl (same.trans untouched)
      · refine .inr ?_
        rw [same] at finally'
        rw [same, written, finally'.eq now]
    · exact .inr new

/-! ### A second run -/

/-- The fragments that edits merge are keyed. -/
def AreKeyed (edits : List Edit) : Prop :=
  ∀ fragment ∈ fragments edits, Mapping.isKeyed fragment = true

/-- Edits that are done again leave a document as it is that they have made before. -/
theorem onBytesAll_eq_of_written (faithful : Faithful documents)
    (merges : ∀ edit ∈ edits, edit.fragment? ≠ none) (closed : IsClosed documents edits)
    (keyed : AreKeyed edits) (documentKeyed : Mapping.isKeyed document = true)
    (start : documents ((fragments edits).foldl Mapping.merge document))
    (written : bytes =
      Utf8.encode (documentText ((fragments edits).foldl Mapping.merge document))) :
    onBytesAll edits bytes = bytes := by
  have holds : Holds bytes ((fragments edits).foldl Mapping.merge document) := by
    rw [written]
    exact faithful.holds start
  obtain ⟨-, same | rewritten⟩ := onBytesAll_of_holds faithful merges closed holds start
  · exact same
  · rw [rewritten, Mapping.foldl_merge_idem keyed documentKeyed, written]

theorem closed_foldl (closed : IsClosed documents edits) (start : documents document) :
    documents ((fragments edits).foldl Mapping.merge document) := by
  have onto (done : List Mapping) (among : ∀ fragment ∈ done, fragment ∈ fragments edits)
      (document : Mapping) (start : documents document) :
      documents (done.foldl Mapping.merge document) := by
    induction done generalizing document with
    | nil => exact start
    | cons fragment done inductionHypothesis =>
      exact inductionHypothesis (fun other member => among other (List.mem_cons_of_mem _ member)) _
        (closed document start fragment (among fragment List.mem_cons_self))
  exact onto (fragments edits) (fun _ => id) document start

/-- Merging the same fragments into a file again leaves it as it is. -/
theorem onBytesAll_replay (faithful : Faithful documents)
    (merges : ∀ edit ∈ edits, edit.fragment? ≠ none) (closed : IsClosed documents edits)
    (keyed : AreKeyed edits) (start : ∀ document, Holds bytes document → documents document) :
    onBytesAll edits (onBytesAll edits bytes) = onBytesAll edits bytes := by
  by_cases some' : ∃ document, Holds bytes document
  · obtain ⟨document, holds⟩ := some'
    obtain ⟨-, same | written⟩ :=
      onBytesAll_of_holds faithful merges closed holds (start document holds)
    · rw [same, same]
    · exact onBytesAll_eq_of_written faithful merges closed keyed holds.isKeyed
        (closed_foldl closed (start document holds)) written
  · rw [not_exists] at some'
    rw [onBytesAll_of_not_holds merges some', onBytesAll_of_not_holds merges some']

/-- A document that was made by merging fragments stays as it is when they are merged again. -/
theorem onFileAll?_replay (faithful : Faithful documents)
    (merging : ∀ edit ∈ edits, ∃ path fragment, edit = .merge path fragment)
    (closed : IsClosed documents edits) (keyed : AreKeyed edits) (start : documents [])
    (made : onFileAll? edits none = some bytes) : onBytesAll edits bytes = bytes := by
  have merges (edit : Edit) (member : edit ∈ edits) : edit.fragment? ≠ none := by
    obtain ⟨path, fragment, rfl⟩ := merging edit member
    simp [fragment?]
  refine @onBytesAll_eq_of_written _ _ [] _ faithful merges closed keyed rfl
    (closed_foldl closed start) ?_
  cases edits with
  | nil => simp [onFileAll?] at made
  | cons edit edits =>
    obtain ⟨path, fragment, rfl⟩ := merging _ List.mem_cons_self
    have after : documents (Mapping.merge [] fragment) :=
      closed [] start fragment List.mem_cons_self
    rw [onFileAll?, List.foldl_cons, onFile?, if_pos (faithful.writable _ after)] at made
    have made' := Option.some.inj ((onFileAll?_some edits _).symm.trans made)
    obtain ⟨finally', same | written⟩ := @onBytesAll_of_holds edits _ _ _ faithful
      (fun other member => merges other (List.mem_cons_of_mem _ member))
      (fun document among other member => closed document among other
        (List.mem_cons_of_mem fragment member)) (faithful.holds after) after
    · rw [same] at finally'
      rw [← made', same, (faithful.holds after).eq finally']
      rfl
    · rw [← made', written]
      rfl

end Edit

end GuidedMigration

namespace GuidedMigration

open GuidedMigration.Tree

namespace Target

/-- Whether the bytes of a file hold a manifest. -/
def Holds (bytes : Utf8.Bytes) (manifest : Json.Datum) : Prop :=
  ∃ text, textOf bytes = .ok text ∧ ∀ path, readManifest path text = .ok manifest

/-- Whether manifests, as far as they are texts, are read back as they are written. -/
def Faithful (manifests : Json.Datum → Prop) : Prop :=
  ∀ manifest, manifests manifest → ∀ text, (manifestWord manifest).text = .ok text →
    ∀ path, readManifest path (Text.unifyNewlines text) = .ok manifest

variable {bytes : Utf8.Bytes} {manifest : Json.Datum} {manifests : Json.Datum → Prop}

/-- The path of a manifest is only named when the manifest cannot be read. -/
theorem readManifest_congr {path : Path} {text : Text}
    (read : readManifest path text = .ok manifest)
    (other : Path) : readManifest other text = .ok manifest := by
  rw [readManifest] at read ⊢
  split at read
  · exact read
  · simp at read
  · simp at read

/-- A manifest that was written is there, unless it is no text; then the file is empty. -/
theorem Faithful.holds (faithful : Faithful manifests) (among : manifests manifest) :
    Holds (Utf8.encode (manifestText manifest)) manifest ∨ manifestText manifest = [] := by
  rw [manifestText]
  cases spelled : (manifestWord manifest).text with
  | ok text => exact .inl ⟨_, textOf_encode _, faithful manifest among text spelled⟩
  | error fault => exact .inr rfl

/-- An empty file holds no manifest. -/
theorem not_holds_nil : ¬ Holds [] manifest := by
  rintro ⟨text, read, parsed⟩
  obtain rfl : [] = text := Except.ok.inj read
  exact nomatch parsed ⟨[], []⟩

end Target

namespace Edit

open Target

/-- The sections that an edit adds to a manifest. -/
def sections? : Edit → Option Sections
  | .depend _ sections => some sections
  | _ => none

variable {edit : Edit} {edits : List Edit} {bytes : Utf8.Bytes} {manifest : Json.Datum}
  {sections : Sections} {manifests : Json.Datum → Prop}

theorem newText?_of_sections? (adds : edit.sections? = some sections) (old : Text) :
    edit.newText? old = dependentText? edit.path sections old := by
  cases edit with
  | depend path other => rw [← Option.some.inj adds]; rfl
  | _ => simp [sections?] at adds

theorem dependentText?_of_read {path : Path} {old : Text}
    (read : readManifest path old = .ok manifest) : dependentText? path sections old =
      match addSections manifest sections with
      | .error _ => none
      | .ok (merged, added) => if added.isEmpty then none else some (manifestText merged) := by
  rw [dependentText?, read]
  rfl

theorem onBytes_of_sections? {old : Text} (adds : edit.sections? = some sections)
    (text : textOf bytes = .ok old) (read : readManifest edit.path old = .ok manifest) :
    edit.onBytes bytes =
      match addSections manifest sections with
      | .error _ => bytes
      | .ok (merged, added) =>
        if added.isEmpty then bytes else Utf8.encode (manifestText merged) := by
  rw [onBytes, text]
  dsimp only
  rw [newText?_of_sections? adds, dependentText?_of_read read]
  cases addSections manifest sections with
  | error failure => rfl
  | ok outcome =>
    obtain ⟨merged, added⟩ := outcome
    dsimp only
    cases added.isEmpty <;> rfl

/-- A file that holds no manifest stays as it is. -/
theorem onBytes_of_no_manifest (adds : edit.sections? = some sections)
    (none' : ∀ manifest, ¬ Holds bytes manifest) : edit.onBytes bytes = bytes := by
  rw [onBytes]
  cases text : textOf bytes with
  | error failure => rfl
  | ok old =>
    dsimp only
    rw [newText?_of_sections? adds, dependentText?]
    cases read : readManifest edit.path old with
    | error failure => rfl
    | ok manifest => exact absurd ⟨old, text, readManifest_congr read⟩ (none' manifest)

/-- A file whose manifest takes nothing more stays as it is. -/
theorem onBytes_of_isIdle (adds : edit.sections? = some sections) (holds : Holds bytes manifest)
    (idle : IsIdle sections manifest) : edit.onBytes bytes = bytes := by
  obtain ⟨old, text, read⟩ := holds
  rw [onBytes_of_sections? adds text (read edit.path)]
  cases added : addSections manifest sections with
  | error failure => rfl
  | ok outcome =>
    obtain ⟨merged, names⟩ := outcome
    dsimp only
    rw [idle merged names added]
    rfl

/-- Whether manifests include what comes of adding any of the sections to one of them. -/
def IsClosedUnderSections (manifests : Json.Datum → Prop) (edits : List Edit) : Prop :=
  ∀ edit ∈ edits, ∀ sections, edit.sections? = some sections → ∀ manifest, manifests manifest →
    ∀ after added, addSections manifest sections = .ok (after, added) → manifests after

/-- A file that holds a manifest holds one afterwards that takes nothing more of what was added,
nor of anything that the first one did not take, or it has been emptied. -/
theorem exists_holds_onBytes (faithful : Faithful manifests) (adds : edit.sections? = some sections)
    (holds : Holds bytes manifest) (among : manifests manifest)
    (closed : ∀ after added, addSections manifest sections = .ok (after, added) → manifests after) :
    (∃ later, Holds (edit.onBytes bytes) later ∧ manifests later ∧ IsIdle sections later ∧
      ∀ others, IsIdle others manifest → IsIdle others later) ∨ edit.onBytes bytes = [] := by
  obtain ⟨old, text, read⟩ := holds
  rw [onBytes_of_sections? adds text (read edit.path)]
  cases outcome : addSections manifest sections with
  | error failure =>
    refine .inl ⟨manifest, ⟨old, text, read⟩, among, fun after added ok => ?_, fun _ => id⟩
    rw [outcome] at ok
    simp at ok
  | ok merged =>
    obtain ⟨after, added⟩ := merged
    dsimp only
    cases none' : added.isEmpty with
    | true =>
      refine .inl ⟨manifest, ⟨old, text, read⟩, among, fun again more ok => ?_, fun _ => id⟩
      rw [outcome] at ok
      obtain ⟨-, rfl⟩ := Prod.mk.inj (Except.ok.inj ok)
      exact List.isEmpty_iff.mp none'
    | false =>
      rw [if_neg Bool.false_ne_true]
      have later := closed after added outcome
      rcases faithful.holds later with there | empty
      · exact .inl ⟨after, there, later, isIdle_of_addSections outcome,
          fun others idle => idle.addSections outcome⟩
      · exact .inr (congrArg Utf8.encode empty)

/-- A file that holds no manifest stays as it is when dependencies are added. -/
theorem onBytesAll_of_no_manifest (adds : ∀ edit ∈ edits, edit.sections? ≠ none)
    (none' : ∀ manifest, ¬ Holds bytes manifest) : onBytesAll edits bytes = bytes := by
  refine onBytesAll_of_each fun edit member => ?_
  obtain ⟨sections, found⟩ := Option.ne_none_iff_exists'.mp (adds edit member)
  exact onBytes_of_no_manifest found none'

/-- After edits a file holds a manifest that takes nothing more of what any of them adds, or it has
been emptied. -/
theorem exists_holds_onBytesAll (faithful : Faithful manifests)
    (adds : ∀ edit ∈ edits, edit.sections? ≠ none) (closed : IsClosedUnderSections manifests edits)
    (holds : Holds bytes manifest) (among : manifests manifest) :
    (∃ later, Holds (onBytesAll edits bytes) later ∧
      (∀ edit ∈ edits, ∀ sections, edit.sections? = some sections → IsIdle sections later) ∧
      ∀ others, IsIdle others manifest → IsIdle others later) ∨ onBytesAll edits bytes = [] := by
  induction edits generalizing bytes manifest with
  | nil => exact .inl ⟨manifest, holds, by simp, fun _ => id⟩
  | cons edit edits inductionHypothesis =>
    obtain ⟨sections, found⟩ := Option.ne_none_iff_exists'.mp (adds edit List.mem_cons_self)
    have others (other : Edit) (member : other ∈ edits) : other.sections? ≠ none :=
      adds other (List.mem_cons_of_mem edit member)
    rcases exists_holds_onBytes faithful found holds among
      (closed edit List.mem_cons_self sections found manifest among) with
      ⟨next, held, still, idle, kept⟩ | emptied
    · rcases inductionHypothesis others
        (fun other member => closed other (List.mem_cons_of_mem edit member)) held still with
        ⟨later, finally', all, keeps⟩ | emptied
      · refine .inl ⟨later, finally', List.forall_mem_cons.mpr ⟨fun others listed => ?_, all⟩,
          fun others free => keeps others (kept others free)⟩
        rw [found] at listed
        rw [← Option.some.inj listed]
        exact keeps sections idle
      · exact .inr emptied
    · refine .inr ?_
      rw [onBytesAll, List.foldl_cons, emptied, ← onBytesAll]
      exact onBytesAll_of_no_manifest others fun _ => not_holds_nil

/-- Adding the same dependencies to a file again leaves it as it is. -/
theorem onBytesAll_readd (faithful : Faithful manifests)
    (adds : ∀ edit ∈ edits, edit.sections? ≠ none) (closed : IsClosedUnderSections manifests edits)
    (start : ∀ manifest, Holds bytes manifest → manifests manifest) :
    onBytesAll edits (onBytesAll edits bytes) = onBytesAll edits bytes := by
  have sections (edit : Edit) (member : edit ∈ edits) :
      ∃ sections, edit.sections? = some sections :=
    Option.ne_none_iff_exists'.mp (adds edit member)
  by_cases some' : ∃ manifest, Holds bytes manifest
  · obtain ⟨manifest, holds⟩ := some'
    rcases exists_holds_onBytesAll faithful adds closed holds (start manifest holds) with
      ⟨later, held, idle, -⟩ | emptied
    · refine onBytesAll_of_each fun edit member => ?_
      obtain ⟨sections, found⟩ := sections edit member
      exact onBytes_of_isIdle found held (idle edit member sections found)
    · rw [emptied]
      exact onBytesAll_of_no_manifest adds fun _ => not_holds_nil
  · rw [not_exists] at some'
    have same : onBytesAll edits bytes = bytes := onBytesAll_of_no_manifest adds some'
    rw [same, same]

end Edit

end GuidedMigration
