/-
This file says how a tree goes on while files are written. Whatever is written, and whether it fails
or not, the tree changes in two ways only, again and again: a directory is made where a path leads
to nothing, and a file is written where a path leads to a file or to nothing. So a tree in which
everything stands in a directory, under a name that a file can have, remains one, and a file at a
place where none is written remains as it is.
-/
import GuidedMigration.Proofs.Tree.Writing

namespace GuidedMigration

namespace Tree

/-! ### Sound trees -/

/-- Whether a part of a path is the name of something: it does not lead up, and it has no null
character. -/
def isName (part : Text) : Bool := part != Path.up && !part.contains '\x00'

/-- A tree as file systems have them: everything stands in a directory and has a name. -/
structure IsSound (tree : Tree) : Prop where
  rooted : tree.IsRooted
  named : ∀ place, tree.find? place ≠ none → ∀ name ∈ place, isName name = true

theorem mem_follow {name : Text} {place : Path.Place} {parts : List Text}
    (member : name ∈ Path.follow place parts) : name ∈ place ∨ name ∈ parts ∧ name ≠ Path.up := by
  induction parts generalizing place with
  | nil => exact .inl member
  | cons part rest inductionHypothesis =>
    rw [Path.follow, List.foldl_cons, ← Path.follow] at member
    rcases inductionHypothesis member with before | ⟨behind, level⟩
    · split at before
      · exact .inl (List.dropLast_subset _ before)
      · rename_i level
        rcases List.mem_append.mp before with before | own
        · exact .inl before
        · rw [List.mem_singleton] at own
          exact .inr ⟨own ▸ List.mem_cons_self, own ▸ level⟩
    · exact .inr ⟨List.mem_cons_of_mem _ behind, level⟩

theorem isName_of_mem_start {path : Path} {name : Text} (member : name ∈ start path) :
    isName name = true := by
  rw [start] at member
  split at member
  · simp at member
  · rw [here, List.mem_singleton] at member
    rw [member]
    decide

/-- The place of a path that can stand at all has a name in each of its parts. -/
theorem isName_of_mem_spelled {path : Path} (named : isNamed path = true) {name : Text}
    (member : name ∈ spelled path) : isName name = true := by
  rcases mem_follow member with before | ⟨part, level⟩
  · exact isName_of_mem_start before
  · rw [isNamed, Bool.and_eq_true, Bool.not_eq_true', List.any_eq_false] at named
    rw [isName, Bool.and_eq_true, bne_iff_ne, Bool.not_eq_true']
    exact ⟨level, eq_false_of_ne_true (named.1 name part)⟩

/-- A tree stays sound when something is put where a path leads. -/
theorem IsSound.put {tree : Tree} (sound : tree.IsSound) {path : Path}
    (reached : tree.place path = .ok (spelled path)) {node : Node}
    (other : node = .directory ∨ tree.find? (spelled path) ≠ some .directory)
    (ground : isGround (spelled path) = false) : (tree.put (spelled path) node).IsSound where
  rooted := sound.rooted.put (sound.rooted.dropLast_spelled reached) other ground
  named := by
    intro place stands name member
    by_cases same : place = spelled path
    · exact isName_of_mem_spelled (walk_of_place reached).1 (same ▸ member)
    · rw [find?_put_of_ne same] at stands
      exact sound.named place stands name member

/-- A tree is sound if the entries that it is written with are. -/
theorem isSound_of_entries {tree : Tree}
    (above : ∀ entry ∈ tree.entries, tree.kindAt? entry.1.dropLast = some false)
    (named : ∀ entry ∈ tree.entries, ∀ name ∈ entry.1, isName name = true) : tree.IsSound where
  rooted := isRooted_of_entries above
  named := by
    intro place held name member
    cases ground : isGround place with
    | true =>
      rw [isGround, Bool.or_eq_true, decide_eq_true_eq, decide_eq_true_eq] at ground
      rcases ground with rfl | rfl
      · simp at member
      · rw [List.mem_singleton.mp member]
        decide
    | false =>
      rw [find?_of_not_isGround ground] at held
      obtain ⟨node, found⟩ := Option.ne_none_iff_exists'.mp held
      obtain ⟨before, after, written, -⟩ := List.lookup_eq_some_iff.mp found
      refine named (place, node) ?_ name member
      rw [written]
      exact List.mem_append_right before List.mem_cons_self

/-! ### Evolution -/

/-- How a tree goes on: directories are made anywhere, and files are written at allowed places. -/
inductive Evolves (allowed : Path.Place → Prop) (before : Tree) : Tree → Prop
  | refl : Evolves allowed before before
  | directory {between : Tree} {path : Path} (earlier : Evolves allowed before between)
      (vacant : between.standing path = .vacant) :
      Evolves allowed before (between.put (spelled path) .directory)
  | file {between : Tree} {path : Path} (earlier : Evolves allowed before between)
      (free : between.standing path = .vacant ∨ between.standing path = .file)
      (inside : allowed (spelled path)) (bytes : Utf8.Bytes) :
      Evolves allowed before (between.put (spelled path) (.file bytes))

namespace Evolves

variable {allowed wider : Path.Place → Prop} {first second third : Tree}

theorem trans (left : Evolves allowed first second) (right : Evolves allowed second third) :
    Evolves allowed first third := by
  induction right with
  | refl => exact left
  | directory earlier vacant inductionHypothesis => exact inductionHypothesis.directory vacant
  | file earlier free inside bytes inductionHypothesis =>
    exact inductionHypothesis.file free inside bytes

theorem mono (evolves : Evolves allowed first second)
    (within : ∀ place, allowed place → wider place) : Evolves wider first second := by
  induction evolves with
  | refl => exact .refl
  | directory earlier vacant inductionHypothesis => exact inductionHypothesis.directory vacant
  | file earlier free inside bytes inductionHypothesis =>
    exact inductionHypothesis.file free (within _ inside) bytes

theorem find?_of_free {tree : Tree} {path : Path}
    (free : tree.standing path = .vacant ∨ tree.standing path = .file) :
    tree.place path = .ok (spelled path) ∧ tree.find? (spelled path) ≠ some .directory := by
  rcases free with vacant | file
  · obtain ⟨reached, none'⟩ := standing_eq_vacant.mp vacant
    exact ⟨reached, by simp [none']⟩
  · obtain ⟨reached, bytes, held⟩ := standing_eq_file.mp file
    exact ⟨reached, by simp [held]⟩

theorem sound (evolves : Evolves allowed first second) (before : first.IsSound) :
    second.IsSound := by
  induction evolves with
  | refl => exact before
  | directory earlier vacant inductionHypothesis =>
    obtain ⟨reached, other⟩ := find?_of_free (.inl vacant)
    exact inductionHypothesis.put reached (.inl rfl) (isGround_of_find? other)
  | file earlier free inside bytes inductionHypothesis =>
    obtain ⟨reached, other⟩ := find?_of_free free
    exact inductionHypothesis.put reached (.inr other) (isGround_of_find? other)

/-- Where no file is written, nothing is new but directories. -/
theorem frame (evolves : Evolves allowed first second) {place : Path.Place}
    (outside : ¬ allowed place) : second.find? place = first.find? place ∨
      first.find? place = none ∧ second.find? place = some .directory := by
  induction evolves with
  | refl => exact .inl rfl
  | @directory between path earlier vacant inductionHypothesis =>
    obtain ⟨-, free⟩ := standing_eq_vacant.mp vacant
    by_cases same : place = spelled path
    · subst same
      have missing : first.find? (spelled path) = none := by
        rcases inductionHypothesis with same | ⟨missing, -⟩
        · rw [← same, free]
        · exact missing
      exact .inr ⟨missing, find?_put_same (isGround_of_find? (by rw [free]; simp)) _ between⟩
    · rwa [find?_put_of_ne same]
  | @file between path earlier free inside bytes inductionHypothesis =>
    have other : place ≠ spelled path := fun same => outside (same ▸ inside)
    rwa [find?_put_of_ne other]

/-- A tree that goes on grows. -/
theorem grows (evolves : Evolves allowed first second) : first.Grows second := by
  induction evolves with
  | refl => exact .refl first
  | directory earlier vacant inductionHypothesis =>
    exact inductionHypothesis.trans (furnishes_put (standing_eq_vacant.mp vacant).2).grows
  | file earlier free inside bytes inductionHypothesis =>
    exact inductionHypothesis.trans (grows_put_file (find?_of_free free).2 bytes)

end Evolves

end Tree

/-! ### Making directories and writing files -/

namespace Files

open GuidedMigration.Tree

variable {allowed : Path.Place → Prop}

/-- What is answered in the end does not change the tree. -/
theorem snd_bind_pure {First Second : Type} (action : Files First) (answer : Second) (tree : Tree) :
    ((action >>= fun _ => pure answer) tree).2 = (action tree).2 := by
  rw [bind_apply]
  obtain ⟨result, after⟩ := action tree
  cases result <;> rfl

theorem evolves_ensureOne (path : Path) (tree : Tree) :
    Evolves allowed tree (ensureOne path tree).2 := by
  by_cases vacant : tree.standing path = .vacant
  · rw [ensureOne_of_vacant vacant]
    exact Evolves.refl.directory vacant
  · by_cases directory : tree.standing path = .directory
    · rw [ensureOne_of_directory directory]
      exact .refl
    · obtain ⟨failure, failed⟩ := ensureOne_of_obstacle vacant directory
      rw [failed]
      exact .refl

theorem evolves_ensureFrom (root : Text) (parts : List Text) (tree : Tree) :
    Evolves allowed tree (ensureFrom root parts tree).2 := by
  induction parts with
  | nil => exact evolves_ensureOne _ tree
  | cons last above inductionHypothesis =>
    by_cases lost : tree.standing ⟨root, above.reverse ++ [last]⟩ = .lost
    · rw [ensureFrom_of_lost lost]
      revert inductionHypothesis
      generalize ensureFrom root above tree = outcome
      obtain ⟨result, after⟩ := outcome
      intro evolves
      cases result with
      | error failure => exact evolves
      | ok answer => exact evolves.trans (evolves_ensureOne _ after)
    · rw [ensureFrom_of_not_lost lost]
      exact evolves_ensureOne _ tree

theorem evolves_writeBytes {path : Path} (inside : allowed (spelled path)) (bytes : Utf8.Bytes)
    (tree : Tree) : Evolves allowed tree (change (·.writeBytes path bytes) tree).2 := by
  rw [change]
  by_cases free : tree.standing path = .vacant ∨ tree.standing path = .file
  · rw [writeBytes_of_free free]
    exact Evolves.refl.file free inside bytes
  · rw [not_or] at free
    obtain ⟨fault, failed⟩ := writeBytes_of_taken free.1 free.2 bytes
    rw [failed]
    exact .refl

/-- Writing a text to a file makes directories and writes that file. -/
theorem evolves_write {path : Path} (inside : allowed (spelled path)) (content : Text)
    (tree : Tree) : Evolves allowed tree (write path content tree).2 := by
  rw [write_apply]
  have made : Evolves allowed tree (ensureDirectory path.parent tree).2 :=
    evolves_ensureFrom path.parent.root path.parent.parts.reverse tree
  revert made
  generalize ensureDirectory path.parent tree = outcome
  obtain ⟨result, between⟩ := outcome
  intro made
  cases result with
  | error failure => exact made
  | ok answer => exact made.trans (evolves_writeBytes inside (Utf8.encode content) between)

end Files

end GuidedMigration
