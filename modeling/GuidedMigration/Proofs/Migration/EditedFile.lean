/-
This file follows one place through a run of edits. If there is a file at the end, then it comes
from what was there at the start by the edits alone that aim at this place, in their order; all the
others pass it by. Run once more, edits make no file that was not there after the first run.

Insertions leave a file alone exactly if it holds every fragment. A fragment that is missing is
inserted and adds a newline, and no later insertion takes one away, so that the file cannot come to
be again what it was. Where a fragment has been put, its rows stand together in the file; edits of
other files do not touch them, and a later insertion into this file leaves them together unless its
place is between them.
-/
import GuidedMigration.Proofs.Code.Insertion
import GuidedMigration.Proofs.Migration.Edit

namespace GuidedMigration

open GuidedMigration.Tree

/-- The bytes of the file at a place. -/
def Tree.fileAt? (tree : Tree) (place : Path.Place) : Option Utf8.Bytes :=
  match tree.find? place with
  | some (.file bytes) => some bytes
  | _ => none

theorem Tree.fileAt?_eq_some {tree : Tree} {place : Path.Place} {bytes : Utf8.Bytes} :
    tree.fileAt? place = some bytes ↔ tree.find? place = some (.file bytes) := by
  rw [fileAt?]
  split
  · rename_i held
    simp [held]
  · rename_i other
    simp only [reduceCtorEq, false_iff]
    exact fun held => other bytes held

theorem Tree.fileAt?_congr {before after : Tree} {place : Path.Place}
    (same : after.find? place = before.find? place) :
    after.fileAt? place = before.fileAt? place := by
  rw [fileAt?, same, fileAt?]

namespace Edit

/-- What an edit makes of the file that it aims at, or of none. -/
def onFile? : Edit → Option Utf8.Bytes → Option Utf8.Bytes
  | edit, some bytes => some (edit.onBytes bytes)
  | .merge _ fragment, none =>
    if Config.isWritable (Mapping.merge [] fragment) then
      some (Utf8.encode (Config.documentText (Mapping.merge [] fragment)))
    else none
  | _, none => none

/-- What edits make of a file, one after the other. -/
def onBytesAll (edits : List Edit) (bytes : Utf8.Bytes) : Utf8.Bytes :=
  edits.foldl (fun bytes edit => edit.onBytes bytes) bytes

/-- What edits make of a file, or of none, one after the other. -/
def onFileAll? (edits : List Edit) (held : Option Utf8.Bytes) : Option Utf8.Bytes :=
  edits.foldl (fun held edit => edit.onFile? held) held

theorem onFileAll?_some (edits : List Edit) (bytes : Utf8.Bytes) :
    onFileAll? edits (some bytes) = some (onBytesAll edits bytes) := by
  induction edits generalizing bytes with
  | nil => rfl
  | cons edit edits inductionHypothesis => exact inductionHypothesis (edit.onBytes bytes)

/-- Edits that each leave a file as it is do so one after the other. -/
theorem onBytesAll_of_each {edits : List Edit} {bytes : Utf8.Bytes}
    (each : ∀ edit ∈ edits, edit.onBytes bytes = bytes) : onBytesAll edits bytes = bytes := by
  induction edits with
  | nil => rfl
  | cons edit edits inductionHypothesis =>
    rw [onBytesAll, List.foldl_cons, each edit List.mem_cons_self]
    exact inductionHypothesis fun other member => each other (List.mem_cons_of_mem edit member)

/-- Whether an edit aims at a place: its path is plain and leads there. -/
def aims (place : Path.Place) (edit : Edit) : Bool := isPlain edit.path && spelled edit.path = place

/-- What edits make of the file at a place. -/
def onPlace (place : Path.Place) (edits : List Edit) (held : Option Utf8.Bytes) :
    Option Utf8.Bytes :=
  onFileAll? (edits.filter (aims place)) held

variable {tree final : Tree} {edit : Edit} {edits : List Edit} {place : Path.Place}
  {bytes : Utf8.Bytes}

theorem aims_iff :
    edit.aims place = true ↔ isPlain edit.path = true ∧ spelled edit.path = place := by
  rw [aims, Bool.and_eq_true, decide_eq_true_eq]

/-- Away from its own place an edit leaves every file as it is. -/
theorem fileAt?_apply_of_ne (grows : (edit.apply tree).Grows final)
    (held : final.find? place = some (.file bytes)) (different : place ≠ spelled edit.path) :
    (edit.apply tree).fileAt? place = tree.fileAt? place := by
  rcases (kept_apply edit tree).frame place different with same | ⟨-, directory⟩
  · exact fileAt?_congr same
  · have stays := grows place false (kindAt?_eq_directory.mpr directory)
    rw [kindAt?_eq_file.mpr ⟨bytes, held⟩] at stays
    simp at stays

/-- An edit whose path is not plain leaves the files as they are. -/
theorem fileAt?_apply_of_not_plain (level : Path.up ∉ edit.path.parts)
    (grows : (edit.apply tree).Grows final) (held : final.find? place = some (.file bytes))
    (winding : isPlain edit.path = false) :
    (edit.apply tree).fileAt? place = tree.fileAt? place := by
  have never (tree : Tree) : tree.standing edit.path ≠ .file := by
    intro stands
    rw [isPlain_of_file level stands] at winding
    simp at winding
  rcases apply_cases (never tree) with ⟨same, -⟩ | ⟨path, fragment, rfl, -, made⟩
  · rw [same]
  · have written := Files.written_write path (Config.documentText (Mapping.merge [] fragment)) tree
    rw [made] at grows ⊢
    cases outcome : (Files.write path (Config.documentText (Mapping.merge [] fragment)) tree).1 with
    | ok answer => exact absurd (written.written outcome).1 (never _)
    | error failure =>
      rcases written.failed failure outcome place with same | ⟨-, directory⟩
      · exact fileAt?_congr same
      · have stays := grows place false (kindAt?_eq_directory.mpr directory)
        rw [kindAt?_eq_file.mpr ⟨bytes, held⟩] at stays
        simp at stays

/-- An edit does to no file what it makes of none, if a file is there in the end. -/
theorem fileAt?_apply_of_not_file (finally' : final.standing edit.path = .file)
    (grows : (edit.apply tree).Grows final) (none' : tree.fileAt? (spelled edit.path) = none)
    (other : tree.standing edit.path ≠ .file) :
    (edit.apply tree).fileAt? (spelled edit.path) = edit.onFile? none := by
  rcases apply_cases other with ⟨same, settled⟩ | ⟨path, fragment, rfl, makes, made⟩
  · rw [same] at grows ⊢
    rw [none']
    cases edit with
    | merge path fragment =>
      cases makes : Config.isWritable (Mapping.merge [] fragment) with
      | true =>
        rw [grows.standing (settled makes)] at finally'
        exact absurd finally' other
      | false => rw [onFile?, makes, if_neg Bool.false_ne_true]
    | _ => rfl
  · have now : (Edit.merge path fragment).onFile? none =
        some (Utf8.encode (Config.documentText (Mapping.merge [] fragment))) := if_pos makes
    have written :=
      Files.written_write path (Config.documentText (Mapping.merge [] fragment)) tree
    rw [made] at grows ⊢
    have stands : (Files.write path (Config.documentText (Mapping.merge [] fragment))
        tree).2.standing path = .file := by
      rw [← grows.standing written.settled]
      exact finally'
    cases outcome :
        (Files.write path (Config.documentText (Mapping.merge [] fragment)) tree).1 with
    | ok answer =>
      rw [now]
      exact fileAt?_eq_some.mpr (written.written outcome).2
    | error failure =>
      obtain ⟨-, new, there⟩ := standing_eq_file.mp stands
      rcases written.failed failure outcome (spelled path) with same | ⟨-, directory⟩
      · rw [same] at there
        exact absurd (none'.symm.trans (fileAt?_eq_some.mpr there)) (by simp)
      · simp [directory] at there

/-- An edit does to the file that it aims at what it makes of it. -/
theorem fileAt?_apply_of_aims (rooted : tree.IsRooted) (finalRooted : final.IsRooted)
    (grows : (edit.apply tree).Grows final) (held : final.find? place = some (.file bytes))
    (aimed : edit.aims place = true) :
    (edit.apply tree).fileAt? place = edit.onFile? (tree.fileAt? place) := by
  obtain ⟨plain, rfl⟩ := aims_iff.mp aimed
  by_cases stands : tree.standing edit.path = .file
  · obtain ⟨reached, old, there⟩ := standing_eq_file.mp stands
    have ground : isGround (spelled edit.path) = false :=
      @isGround_of_find? tree _ (by simp [there])
    rw [apply_of_file stands there, fileAt?_eq_some.mpr there, onFile?]
    exact fileAt?_eq_some.mpr (find?_put_same ground _ tree)
  · have none' : tree.fileAt? (spelled edit.path) = none := by
      cases there : tree.fileAt? (spelled edit.path) with
      | none => rfl
      | some old => exact absurd (rooted.standing_file plain (fileAt?_eq_some.mp there)) stands
    rw [none']
    exact fileAt?_apply_of_not_file (finalRooted.standing_file plain held) grows none' stands

theorem fileAt?_apply (rooted : tree.IsRooted) (level : Path.up ∉ edit.path.parts)
    (finalRooted : final.IsRooted) (grows : (edit.apply tree).Grows final)
    (held : final.find? place = some (.file bytes)) :
    (edit.apply tree).fileAt? place =
      if edit.aims place then edit.onFile? (tree.fileAt? place) else tree.fileAt? place := by
  split
  · rename_i aimed
    exact fileAt?_apply_of_aims rooted finalRooted grows held aimed
  · rename_i missed
    by_cases different : place = spelled edit.path
    · refine fileAt?_apply_of_not_plain level grows held ?_
      rw [aims_iff, different] at missed
      simpa using missed
    · exact fileAt?_apply_of_ne grows held different

/-! ### Runs of edits -/

theorem grows_applyAll (edits : List Edit) (tree : Tree) : tree.Grows (applyAll edits tree) := by
  induction edits generalizing tree with
  | nil => exact .refl tree
  | cons edit edits inductionHypothesis =>
    exact (kept_apply edit tree).grows.trans (inductionHypothesis (edit.apply tree))

theorem rooted_applyAll (edits : List Edit) (rooted : tree.IsRooted) :
    (applyAll edits tree).IsRooted := by
  induction edits generalizing tree with
  | nil => exact rooted
  | cons edit edits inductionHypothesis =>
    exact inductionHypothesis ((kept_apply edit tree).rooted rooted)

/-- A file that no edit is about stays as it is. -/
theorem find?_applyAll_of_ne (away : ∀ edit ∈ edits, spelled edit.path ≠ place)
    (held : tree.find? place = some (.file bytes)) :
    (applyAll edits tree).find? place = some (.file bytes) := by
  induction edits generalizing tree with
  | nil => exact held
  | cons edit edits inductionHypothesis =>
    refine inductionHypothesis
      (fun other member => away other (List.mem_cons_of_mem edit member)) ?_
    rcases (kept_apply edit tree).frame place (away edit List.mem_cons_self).symm with
      same | ⟨free, -⟩
    · rw [same, held]
    · rw [held] at free
      simp at free

theorem onPlace_cons (place : Path.Place) (edit : Edit) (edits : List Edit)
    (held : Option Utf8.Bytes) : onPlace place (edit :: edits) held =
      onPlace place edits (if edit.aims place then edit.onFile? held else held) := by
  rw [onPlace, List.filter_cons]
  split <;> rfl

/-- A file that is there at the end is what the edits that aim at it have made. -/
theorem fileAt?_applyAll (rooted : tree.IsRooted)
    (level : ∀ edit ∈ edits, Path.up ∉ edit.path.parts)
    (held : (applyAll edits tree).find? place = some (.file bytes)) :
    (applyAll edits tree).fileAt? place = onPlace place edits (tree.fileAt? place) := by
  induction edits generalizing tree with
  | nil => rfl
  | cons edit edits inductionHypothesis =>
    have finalRooted := rooted_applyAll (edit :: edits) rooted
    have grows := grows_applyAll edits (edit.apply tree)
    rw [onPlace_cons, ← fileAt?_apply rooted (level edit List.mem_cons_self) finalRooted grows held]
    exact inductionHypothesis ((kept_apply edit tree).rooted rooted)
      (fun other member => level other (List.mem_cons_of_mem edit member)) held

/-- A file that is there at the start stays, and the edits that aim at it are done to it. -/
theorem fileAt?_applyAll_of_held (rooted : tree.IsRooted)
    (level : ∀ edit ∈ edits, Path.up ∉ edit.path.parts) (held : tree.fileAt? place = some bytes) :
    (applyAll edits tree).fileAt? place = some (onBytesAll (edits.filter (aims place)) bytes) := by
  have stays := grows_applyAll edits tree place true
    (kindAt?_eq_file.mpr ⟨bytes, fileAt?_eq_some.mp held⟩)
  obtain ⟨later, there⟩ := kindAt?_eq_file.mp stays
  rw [fileAt?_applyAll rooted level there, held, onPlace, onFileAll?_some]

/-! ### A second run -/

theorem isSettled_of_grows {before after : Tree} (grows : before.Grows after) {path : Path}
    (settled : before.IsSettled path) : after.IsSettled path := by
  rw [IsSettled, grows.standing settled]
  exact settled

/-- Once an edit has been done that makes its file, it is settled whether the file is there. -/
theorem isSettled_apply (makes : edit.makes = true) : (edit.apply tree).IsSettled edit.path := by
  by_cases stands : tree.standing edit.path = .file
  · refine isSettled_of_grows (kept_apply edit tree).grows ?_
    simp [IsSettled, stands]
  · rcases apply_cases stands with ⟨same, settled⟩ | ⟨path, fragment, rfl, -, made⟩
    · rw [same]
      exact settled makes
    · rw [made]
      exact (Files.written_write path _ tree).settled

theorem isSettled_applyAll (makes : edit.makes = true) (member : edit ∈ edits) :
    (applyAll edits tree).IsSettled edit.path := by
  induction edits generalizing tree with
  | nil => simp at member
  | cons first edits inductionHypothesis =>
    rcases List.mem_cons.mp member with rfl | behind
    · exact isSettled_of_grows (grows_applyAll edits (edit.apply tree)) (isSettled_apply makes)
    · exact inductionHypothesis behind

/-- Only an edit that makes its file gives a place a file where none was. -/
theorem exists_makes_of_onPlace {bytes : Utf8.Bytes}
    (made : onPlace place edits none = some bytes) :
    ∃ edit ∈ edits, edit.makes = true ∧ edit.aims place = true := by
  induction edits with
  | nil => simp [onPlace, onFileAll?] at made
  | cons edit edits inductionHypothesis =>
    rw [onPlace_cons] at made
    by_cases first : edit.makes = true ∧ edit.aims place = true
    · exact ⟨edit, List.mem_cons_self, first⟩
    · have still : (if edit.aims place then edit.onFile? none else none) = none := by
        split
        · rename_i aimed
          cases edit with
          | merge path fragment => exact if_neg fun makes => first ⟨makes, aimed⟩
          | _ => rfl
        · rfl
      rw [still] at made
      obtain ⟨other, member, found⟩ := inductionHypothesis made
      exact ⟨other, List.mem_cons_of_mem edit member, found⟩

/-- Run once more, edits make no file that was not there after the first run. -/
theorem fileAt?_replay_eq_none (rooted : tree.IsRooted)
    (level : ∀ edit ∈ edits, Path.up ∉ edit.path.parts)
    (missing : (applyAll edits tree).fileAt? place = none) :
    (applyAll edits (applyAll edits tree)).fileAt? place = none := by
  have onceRooted := rooted_applyAll edits rooted
  have twiceRooted := rooted_applyAll edits onceRooted
  have grows := grows_applyAll edits (applyAll edits tree)
  cases held : (applyAll edits (applyAll edits tree)).fileAt? place with
  | none => rfl
  | some bytes =>
    have there := fileAt?_eq_some.mp held
    have made := fileAt?_applyAll onceRooted level there
    rw [held, missing] at made
    obtain ⟨edit, member, makes, aimed⟩ := exists_makes_of_onPlace made.symm
    obtain ⟨plain, rfl⟩ := aims_iff.mp aimed
    -- The first run has settled how the path stands, so the file is there already.
    have stands := twiceRooted.standing_file plain there
    rw [grows.standing (isSettled_applyAll makes member)] at stands
    obtain ⟨-, old, found⟩ := standing_eq_file.mp stands
    rw [fileAt?_eq_some.mpr found] at missing
    simp at missing

end Edit

end GuidedMigration

/-! ### Insertions -/

namespace GuidedMigration

open GuidedMigration.Tree

/-- The number of newlines in a file; none if it is no text. -/
def newlines (bytes : Utf8.Bytes) : Nat :=
  match textOf bytes with
  | .error _ => 0
  | .ok text => text.count '\n'

namespace Edit

/-- Whether an edit is an insertion. -/
def isInsertion : Edit → Bool
  | .insert _ _ _ => true
  | _ => false

/-- Whether a file, if it is a text, holds what an edit inserts. -/
def IsHeld (bytes : Utf8.Bytes) : Edit → Prop
  | .insert _ fragment _ => ∀ text, textOf bytes = .ok text → Code.contains text fragment = true
  | _ => True

variable {edit : Edit} {edits : List Edit} {bytes : Utf8.Bytes}

theorem onBytes_of_isHeld (inserts : edit.isInsertion = true) (held : edit.IsHeld bytes) :
    edit.onBytes bytes = bytes := by
  cases edit with
  | insert path fragment primitive =>
    rw [onBytes]
    cases text : textOf bytes with
    | error failure => rfl
    | ok old =>
      dsimp only
      rw [newText?, if_pos (held old text)]
  | _ => simp [isInsertion] at inserts

/-- A missing fragment adds a newline to the file. -/
theorem newlines_lt_of_not_isHeld (missing : ¬ edit.IsHeld bytes) :
    newlines bytes < newlines (edit.onBytes bytes) := by
  cases edit with
  | insert path fragment primitive =>
    obtain ⟨old, unheld⟩ := Classical.not_forall.mp missing
    obtain ⟨text, unheld⟩ := Classical.not_imp.mp unheld
    rw [Bool.not_eq_true] at unheld
    obtain ⟨insertion, found⟩ := primitive.exists_insert? old fragment
    have written : (Edit.insert path fragment primitive).onBytes bytes =
        Utf8.encode insertion.content := by
      rw [onBytes, text]
      dsimp only
      rw [newText?, unheld, if_neg Bool.false_ne_true, found]
      rfl
    rw [written, newlines, text, newlines, textOf_encode]
    exact Nat.lt_of_lt_of_le (Code.count_lt_of_insert? unheld found)
      (Text.count_le_count_unifyNewlines insertion.content)
  | _ => exact absurd trivial missing

theorem newlines_le_onBytes (inserts : edit.isInsertion = true) (bytes : Utf8.Bytes) :
    newlines bytes ≤ newlines (edit.onBytes bytes) := by
  by_cases held : edit.IsHeld bytes
  · exact Nat.le_of_eq (congrArg newlines (onBytes_of_isHeld inserts held).symm)
  · exact Nat.le_of_lt (newlines_lt_of_not_isHeld held)

theorem newlines_le_onBytesAll (inserts : ∀ edit ∈ edits, edit.isInsertion = true)
    (bytes : Utf8.Bytes) : newlines bytes ≤ newlines (onBytesAll edits bytes) := by
  induction edits generalizing bytes with
  | nil => exact Nat.le_refl _
  | cons edit edits inductionHypothesis =>
    exact Nat.le_trans (newlines_le_onBytes (inserts edit List.mem_cons_self) bytes)
      (inductionHypothesis (fun other member => inserts other (List.mem_cons_of_mem edit member)) _)

/-- Insertions leave a file as it is exactly if it holds all that they insert. -/
theorem onBytesAll_eq_iff (inserts : ∀ edit ∈ edits, edit.isInsertion = true) :
    onBytesAll edits bytes = bytes ↔ ∀ edit ∈ edits, edit.IsHeld bytes := by
  induction edits with
  | nil => simp [onBytesAll]
  | cons edit edits inductionHypothesis =>
    have rest (other : Edit) (member : other ∈ edits) : other.isInsertion = true :=
      inserts other (List.mem_cons_of_mem edit member)
    have first := inserts edit List.mem_cons_self
    rw [List.forall_mem_cons, ← inductionHypothesis rest, onBytesAll, List.foldl_cons, ← onBytesAll]
    by_cases held : edit.IsHeld bytes
    · rw [onBytes_of_isHeld first held]
      simp [held]
    · refine iff_of_false (fun same => ?_) fun both => held both.1
      -- The newlines that it adds are still there after all the others.
      have more := newlines_lt_of_not_isHeld held
      have later := newlines_le_onBytesAll rest (edit.onBytes bytes)
      rw [same] at later
      omega

end Edit

end GuidedMigration

namespace GuidedMigration

open GuidedMigration.Tree

/-- Whether a fragment stands in the file at a place. -/
def Tree.HoldsAt (tree : Tree) (place : Path.Place) (fragment : Text) : Prop :=
  ∃ bytes text, tree.fileAt? place = some bytes ∧ textOf bytes = .ok text ∧
    Code.StandsIn text fragment

namespace Edit

variable {tree : Tree} {place : Path.Place} {path : Path} {fragment other : Text}
  {primitive : Code.Primitive} {edit : Edit} {edits : List Edit}

/-- Whether an edit of the file that a fragment stands in is an insertion that does not cut it. -/
def Spares (fragment : Text) (tree : Tree) : Edit → Prop
  | .insert path other primitive =>
    ∀ text, tree.read path = .ok text → ¬ primitive.Cuts text other fragment
  | _ => False

/-- Whether all edits of the file at a place, done one after the other, spare a fragment there. -/
def AllSpare (fragment : Text) (place : Path.Place) : List Edit → Tree → Prop
  | [], _ => True
  | edit :: rest, tree =>
    (spelled edit.path = place → edit.Spares fragment tree) ∧
      AllSpare fragment place rest (edit.apply tree)

/-! ### Steps -/

theorem exists_textOf_encode {content : Text} (stands : Code.StandsIn content fragment) :
    ∃ text, textOf (Utf8.encode content) = .ok text ∧ Code.StandsIn text fragment :=
  ⟨_, textOf_encode content, by rwa [Code.StandsIn, Text.solidRows_unifyNewlines]⟩

/-- An insertion that does not cut a fragment leaves it in the file. -/
theorem standsIn_onBytes {bytes : Utf8.Bytes} {text : Text} (read : textOf bytes = .ok text)
    (stands : Code.StandsIn text fragment) (whole : ¬ primitive.Cuts text other fragment) :
    ∃ text, textOf ((Edit.insert path other primitive).onBytes bytes) = .ok text ∧
      Code.StandsIn text fragment := by
  rw [onBytes, read]
  dsimp only [newText?]
  cases held : Code.contains text other with
  | true => exact ⟨text, read, stands⟩
  | false =>
    obtain ⟨insertion, inserted⟩ := primitive.exists_insert? text other
    rw [if_neg Bool.false_ne_true, inserted]
    exact exists_textOf_encode (stands.insert? inserted whole)

/-- An edit of another file, or one that spares the fragment, leaves it where it is. -/
theorem holdsAt_apply (holds : tree.HoldsAt place fragment)
    (spares : spelled edit.path = place → edit.Spares fragment tree) :
    (edit.apply tree).HoldsAt place fragment := by
  obtain ⟨bytes, text, there, read, stands⟩ := holds
  have held := fileAt?_eq_some.mp there
  by_cases aimed : spelled edit.path = place
  · cases edit with
    | insert path other primitive =>
      have spares := spares aimed
      change spelled path = place at aimed
      by_cases file : tree.standing path = .file
      · have held' : tree.find? (spelled path) = some (.file bytes) := by rw [aimed, held]
        have ground : isGround (spelled path) = false :=
          @isGround_of_find? tree _ (by simp [held'])
        obtain ⟨text', read', stands'⟩ := @standsIn_onBytes path fragment other primitive _ _ read
          stands (spares text (by rw [read_of_file file held', read]))
        refine ⟨_, text', ?_, read', stands'⟩
        rw [apply_of_file file held', ← aimed]
        exact fileAt?_eq_some.mpr (find?_put_same ground _ tree)
      · rw [apply_of_not_file file rfl]
        exact ⟨bytes, text, there, read, stands⟩
    | _ => exact (spares aimed).elim
  · refine ⟨bytes, text, ?_, read, stands⟩
    rcases (kept_apply edit tree).frame place (Ne.symm aimed) with same | ⟨free, -⟩
    · rw [fileAt?_congr same, there]
    · simp [held] at free

/-- A fragment that an insertion has put into a file stands there. -/
theorem holdsAt_of_insert {outcome : Outcome}
    (inserted : (Target.insert path fragment primitive tree).1 = .ok outcome)
    (applied : outcome.status = .applied) :
    ((Edit.insert path fragment primitive).apply tree).HoldsAt (spelled path) fragment := by
  by_cases file : tree.standing path = .file
  · obtain ⟨-, bytes, held⟩ := standing_eq_file.mp file
    cases read : textOf bytes with
    | error failure =>
      rw [insert_of_unread file held read] at inserted
      cases inserted
    | ok old =>
      have ground : isGround (spelled path) = false := @isGround_of_find? tree _ (by simp [held])
      cases contained : Code.contains old fragment with
      | true =>
        rw [Target.insert, Target.insertAs, bind_apply, Target.existing_of_file file held,
          read] at inserted
        dsimp only at inserted
        rw [if_pos contained] at inserted
        rw [← Except.ok.inj inserted] at applied
        cases applied
      | false =>
        obtain ⟨insertion, found⟩ := primitive.exists_insert? old fragment
        obtain ⟨text, read', stands⟩ :=
          exists_textOf_encode (Code.standsIn_of_insert? contained found)
        refine ⟨Utf8.encode insertion.content, text, ?_, read', stands⟩
        have written : (Edit.insert path fragment primitive).onBytes bytes =
            Utf8.encode insertion.content := by
          rw [onBytes, read]
          dsimp only [newText?]
          rw [contained, if_neg Bool.false_ne_true, found]
          rfl
        rw [← written, @apply_of_file _ _ (.insert path fragment primitive) file held]
        exact fileAt?_eq_some.mpr (find?_put_same ground _ tree)
  · obtain ⟨failure, failed⟩ := @insert_of_not_file _ path fragment primitive file
    rw [failed] at inserted
    cases inserted

/-! ### Runs -/

/-- What stands in a file stands there after edits that spare it. -/
theorem holdsAt_applyAll (holds : tree.HoldsAt place fragment)
    (spare : AllSpare fragment place edits tree) :
    (applyAll edits tree).HoldsAt place fragment := by
  induction edits generalizing tree with
  | nil => exact holds
  | cons edit edits inductionHypothesis =>
    exact inductionHypothesis (holdsAt_apply holds spare.1) spare.2

theorem spares_of_single (single : (Text.solidRows fragment).length ≤ 1)
    (holds : tree.HoldsAt (spelled edit.path) fragment) (inserts : edit.isInsertion = true) :
    edit.Spares fragment tree := by
  cases edit with
  | insert path other primitive =>
    intro text read
    obtain ⟨bytes, held, there, read', stands⟩ := holds
    have file : tree.standing path = .file := Classical.byContradiction fun missing => by
      obtain ⟨failure, failed⟩ := read_of_not_file missing
      cases read.symm.trans failed
    rw [read_of_file file (fileAt?_eq_some.mp there), read'] at read
    rw [← Except.ok.inj read]
    exact Code.not_cuts_of_single stands single primitive other
  | _ => simp [isInsertion] at inserts

/-- A fragment of a single row is spared by all insertions. -/
theorem allSpare_of_single (single : (Text.solidRows fragment).length ≤ 1)
    (holds : tree.HoldsAt place fragment)
    (inserts : ∀ edit ∈ edits, spelled edit.path = place → edit.isInsertion = true) :
    AllSpare fragment place edits tree := by
  induction edits generalizing tree with
  | nil => trivial
  | cons edit edits inductionHypothesis =>
    have spares (aimed : spelled edit.path = place) : edit.Spares fragment tree :=
      spares_of_single single (aimed ▸ holds) (inserts edit List.mem_cons_self aimed)
    exact ⟨spares, inductionHypothesis (holdsAt_apply holds spares)
      fun other member => inserts other (List.mem_cons_of_mem _ member)⟩

end Edit

end GuidedMigration
