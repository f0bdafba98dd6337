/-
This file shows when a tree is at rest under edits that have been done to it: done again, they leave
every file as it is, exactly if every fragment of code is still there that they insert. Later
insertions may have parted the lines of an earlier fragment; documents, descriptors and manifests
come to rest by themselves, also where fragments contradict each other.
-/
import GuidedMigration.Proofs.Migration.EditedFile
import GuidedMigration.Proofs.Migration.EditedDocument

namespace GuidedMigration

open GuidedMigration.Tree

namespace Edit

/-- What a file is for an edit: source code, a document, a descriptor, which must be there, or a
manifest. -/
inductive Kind where
  | code
  | document
  | descriptor
  | manifest
  deriving DecidableEq

/-- What the file is for an edit. -/
def kind : Edit → Kind
  | .insert _ _ _ => .code
  | .merge _ _ => .document
  | .describe _ _ => .descriptor
  | .depend _ _ => .manifest

/-- Edits whose paths do not go up, and by which no file is of two kinds. -/
structure AreApart (edits : List Edit) : Prop where
  level : ∀ edit ∈ edits, Path.up ∉ edit.path.parts
  apart : ∀ edit ∈ edits, ∀ other ∈ edits, spelled edit.path = spelled other.path →
    edit.kind = other.kind

/-- Documents and manifests that are read back as they are written: those that edits find in a tree
and all that they make of them. -/
structure LoadBack (documents : Mapping → Prop) (manifests : Json.Datum → Prop) (edits : List Edit)
    (tree : Tree) : Prop where
  documentsFaithful : Config.Faithful documents
  merged : IsClosed documents edits
  empty : documents []
  documentsHeld : ∀ edit ∈ edits, edit.fragment? ≠ none → ∀ bytes,
    tree.fileAt? (spelled edit.path) = some bytes →
      ∀ document, Config.Holds bytes document → documents document
  manifestsFaithful : Target.Faithful manifests
  extended : IsClosedUnderSections manifests edits
  manifestsHeld : ∀ edit ∈ edits, edit.sections? ≠ none → ∀ bytes,
    tree.fileAt? (spelled edit.path) = some bytes →
      ∀ manifest, Target.Holds bytes manifest → manifests manifest

variable {tree : Tree} {edits : List Edit} {place : Path.Place} {bytes : Utf8.Bytes}
  {documents : Mapping → Prop} {manifests : Json.Datum → Prop}

theorem isInsertion_of_kind {edit : Edit} (code : edit.kind = .code) : edit.isInsertion = true := by
  cases edit with
  | insert path fragment primitive => rfl
  | _ => simp [kind] at code

theorem exists_of_kind {edit : Edit} (document : edit.kind = .document) :
    ∃ path fragment, edit = .merge path fragment := by
  cases edit with
  | merge path fragment => exact ⟨path, fragment, rfl⟩
  | _ => simp [kind] at document

theorem kind_of_makes {edit : Edit} (makes : edit.makes = true) : edit.kind = .document := by
  cases edit with
  | merge path fragment => rfl
  | _ => simp [Edit.makes] at makes

theorem fragment?_of_kind {edit : Edit} (merges : edit.kind = .document ∨ edit.kind = .descriptor) :
    edit.fragment? ≠ none := by
  cases edit with
  | merge path fragment => simp [fragment?]
  | describe path fragment => simp [fragment?]
  | _ => simp [kind] at merges

theorem sections?_of_kind {edit : Edit} (manifest : edit.kind = .manifest) :
    edit.sections? ≠ none := by
  cases edit with
  | depend path sections => simp [sections?]
  | _ => simp [kind] at manifest

theorem fragments_filter_subset (choice : Edit → Bool) (edits : List Edit) :
    fragments (edits.filter choice) ⊆ fragments edits :=
  List.filterMap_subset fragment? List.filter_sublist.subset

theorem IsClosed.filter (closed : IsClosed documents edits) (choice : Edit → Bool) :
    IsClosed documents (edits.filter choice) := fun document among fragment listed =>
  closed document among fragment (fragments_filter_subset choice edits listed)

theorem AreKeyed.filter (keyed : AreKeyed edits) (choice : Edit → Bool) :
    AreKeyed (edits.filter choice) := fun fragment listed =>
  keyed fragment (fragments_filter_subset choice edits listed)

/-! ### One file -/

/-- Edits that aim at one file are of one kind. -/
theorem AreApart.kind_eq (apart : AreApart edits) {edit other : Edit} (member : edit ∈ edits)
    (aimed : edit.aims place = true) (among : other ∈ edits.filter (aims place)) :
    other.kind = edit.kind := by
  obtain ⟨listed, otherAimed⟩ := List.mem_filter.mp among
  refine apart.apart other listed edit member ?_
  rw [(aims_iff.mp otherAimed).2, (aims_iff.mp aimed).2]

/-- A file that edits have made stays as it is when they are done again: it is a document. -/
theorem onBytesAll_of_made (apart : AreApart edits)
    (loadBack : LoadBack documents manifests edits tree) (keyed : AreKeyed edits)
    (made : onPlace place edits none = some bytes) :
    onBytesAll (edits.filter (aims place)) bytes = bytes := by
  obtain ⟨maker, listed, makes, aimed⟩ := exists_makes_of_onPlace made
  refine onFileAll?_replay loadBack.documentsFaithful (fun other among => ?_)
    (loadBack.merged.filter _) (keyed.filter _) loadBack.empty made
  exact exists_of_kind ((apart.kind_eq listed aimed among).trans (kind_of_makes makes))

/-- What edits of any kind but code have made of a file stays as it is when they are done again. -/
theorem onBytesAll_of_kind (apart : AreApart edits)
    (loadBack : LoadBack documents manifests edits tree) (keyed : AreKeyed edits)
    (held : tree.fileAt? place = some bytes) {edit : Edit} (member : edit ∈ edits)
    (aimed : edit.aims place = true) (other : edit.kind ≠ .code) :
    onBytesAll (edits.filter (aims place)) (onBytesAll (edits.filter (aims place)) bytes) =
      onBytesAll (edits.filter (aims place)) bytes := by
  have kinds := fun other => @AreApart.kind_eq _ _ apart edit other member aimed
  have there : tree.fileAt? (spelled edit.path) = some bytes := by
    rw [(aims_iff.mp aimed).2, held]
  have merging (kind : edit.kind = .document ∨ edit.kind = .descriptor) :
      onBytesAll (edits.filter (aims place)) (onBytesAll (edits.filter (aims place)) bytes) =
        onBytesAll (edits.filter (aims place)) bytes := by
    refine onBytesAll_replay loadBack.documentsFaithful (fun other among => ?_)
      (loadBack.merged.filter _) (keyed.filter _)
      (loadBack.documentsHeld edit member (fragment?_of_kind kind) bytes there)
    rw [← kinds other among] at kind
    exact fragment?_of_kind kind
  cases kind : edit.kind with
  | code => exact absurd kind other
  | document => exact merging (.inl kind)
  | descriptor => exact merging (.inr kind)
  | manifest =>
    refine onBytesAll_readd loadBack.manifestsFaithful (fun other among => ?_)
      (fun other among => loadBack.extended other (List.filter_sublist.subset among))
      (loadBack.manifestsHeld edit member (sections?_of_kind kind) bytes there)
    exact sections?_of_kind ((kinds other among).trans kind)

/-! ### The tree -/

/-- Whether the file at the path of an edit, if it is a text, holds what the edit inserts. -/
def isThere (tree : Tree) : Edit → Bool
  | .insert path fragment _ => match tree.read path with
    | .ok text => Code.contains text fragment
    | .error _ => true
  | _ => true

theorem isThere_iff_of_file {edit : Edit} (stands : tree.standing edit.path = .file)
    (held : tree.find? (spelled edit.path) = some (.file bytes)) :
    edit.isThere tree = true ↔ edit.IsHeld bytes := by
  cases edit with
  | insert path fragment primitive =>
    change tree.standing path = .file at stands
    rw [isThere, read_of_file stands held, IsHeld]
    cases textOf bytes with
    | error failure => simp
    | ok text => simp
  | _ => simp [isThere, IsHeld]

theorem isThere_of_not_file {edit : Edit} (other : tree.standing edit.path ≠ .file) :
    edit.isThere tree = true := by
  cases edit with
  | insert path fragment primitive =>
    obtain ⟨failure, unread⟩ := read_of_not_file other
    change tree.read path = _ at unread
    rw [isThere, unread]
  | _ => rfl

theorem isThere_of_kind {edit : Edit} (other : edit.kind ≠ .code) : edit.isThere tree = true := by
  cases edit with
  | insert path fragment primitive => exact absurd rfl other
  | _ => rfl

/-- Where edits leave a file as it is, all that they insert is there. -/
theorem isThere_of_same (rooted : tree.IsRooted) (apart : AreApart edits) {edit : Edit}
    (member : edit ∈ edits)
    (same : (applyAll edits tree).fileAt? (spelled edit.path) =
      tree.fileAt? (spelled edit.path)) : edit.isThere tree = true := by
  by_cases stands : tree.standing edit.path = .file
  · obtain ⟨-, bytes, held⟩ := standing_eq_file.mp stands
    by_cases kind : edit.kind = .code
    · have aimed : edit.aims (spelled edit.path) = true :=
        aims_iff.mpr ⟨isPlain_of_file (apart.level edit member) stands, rfl⟩
      have there := fileAt?_eq_some.mpr held
      rw [fileAt?_applyAll_of_held rooted apart.level there, there] at same
      refine (isThere_iff_of_file stands held).mpr ?_
      refine (onBytesAll_eq_iff fun other among => ?_).mp (Option.some.inj same) edit
        (List.mem_filter.mpr ⟨member, aimed⟩)
      exact isInsertion_of_kind ((apart.kind_eq member aimed among).trans kind)
    · exact isThere_of_kind kind
  · exact isThere_of_not_file stands

/-- Where all that edits insert is there, they leave a file of code as it is. -/
theorem onBytesAll_of_isThere (rooted : tree.IsRooted) (apart : AreApart edits)
    (there : ∀ edit ∈ edits, edit.isThere tree = true) (held : tree.fileAt? place = some bytes)
    {edit : Edit} (member : edit ∈ edits) (aimed : edit.aims place = true)
    (code : edit.kind = .code) : onBytesAll (edits.filter (aims place)) bytes = bytes := by
  refine (onBytesAll_eq_iff fun other among => ?_).mpr fun other among => ?_
  · exact isInsertion_of_kind ((apart.kind_eq member aimed among).trans code)
  · obtain ⟨listed, otherAimed⟩ := List.mem_filter.mp among
    obtain ⟨plain, rfl⟩ := aims_iff.mp otherAimed
    have found := fileAt?_eq_some.mp held
    exact (isThere_iff_of_file (rooted.standing_file plain found) found).mp (there other listed)

/-- Edits that are done again to the tree that they have left leave every file as it is exactly if
all that they insert is there. -/
theorem applyAll_rest_iff (rooted : tree.IsRooted) (apart : AreApart edits)
    (loadBack : LoadBack documents manifests edits tree) (keyed : AreKeyed edits) :
    (∀ place, (applyAll edits (applyAll edits tree)).fileAt? place =
        (applyAll edits tree).fileAt? place) ↔
      ∀ edit ∈ edits, edit.isThere (applyAll edits tree) = true := by
  have onceRooted := rooted_applyAll edits rooted
  refine ⟨fun same edit member => isThere_of_same onceRooted apart member (same _),
    fun there place => ?_⟩
  cases held : (applyAll edits tree).fileAt? place with
  | none => exact fileAt?_replay_eq_none rooted apart.level held
  | some bytes =>
    rw [fileAt?_applyAll_of_held onceRooted apart.level held]
    refine congrArg some ?_
    have made := fileAt?_applyAll rooted apart.level (fileAt?_eq_some.mp held)
    rw [held] at made
    cases start : tree.fileAt? place with
    | none =>
      -- A file that the first run has made is a document, and nothing of another kind aims at it.
      rw [start] at made
      exact onBytesAll_of_made apart loadBack keyed made.symm
    | some old =>
      by_cases none' : edits.filter (aims place) = []
      · rw [none']
        rfl
      · obtain ⟨edit, among⟩ := List.exists_mem_of_ne_nil _ none'
        obtain ⟨member, aimed⟩ := List.mem_filter.mp among
        by_cases kind : edit.kind = .code
        · exact onBytesAll_of_isThere onceRooted apart there held member aimed kind
        · rw [start, onPlace, onFileAll?_some] at made
          rw [Option.some.inj made]
          exact onBytesAll_of_kind apart loadBack keyed start member aimed kind

end Edit

end GuidedMigration
