/-
This file says what is there after a directory of the source has been copied to a path of the
destination: every file of it whose way has no excluded name, and no other file is new or changed;
and copying it again changes no file. A copied file is in its place below the path, unless making
the directory at the path has put a directory there. That takes a path that leads up out of a
directory that was missing.
-/
import GuidedMigration.Proofs.Tree.Mirroring
import GuidedMigration.Proofs.Value.Keyed
import Mathlib.Data.List.Nodup
import Mathlib.Data.List.Perm.Subperm

namespace GuidedMigration

namespace Files

open GuidedMigration.Tree

variable {tree made : Tree} {path : Path} {root : Text} {above below : List Text}
  {place : Path.Place}

/-! ### Making a directory and those above it -/

/-- The directory itself is made last. -/
theorem exists_of_makeAllFrom {parts : List Text}
    (ran : makeAllFrom root parts tree = (.ok (), made)) :
    ∃ between, ensureOne ⟨root, parts.reverse⟩ between = (.ok (), made) := by
  cases parts with
  | nil => exact ⟨tree, ran⟩
  | cons last above =>
    rw [makeAllFrom] at ran
    dsimp only at ran
    split at ran
    · rw [bind_apply] at ran
      obtain ⟨there, answered⟩ : ∃ there, stands ⟨root, above.reverse⟩ tree = (.ok there, tree) :=
        ⟨_, rfl⟩
      rw [answered] at ran
      cases there with
      | true => exact ⟨tree, ran⟩
      | false =>
        dsimp only at ran
        rw [Bool.not_false, if_pos rfl, bind_apply] at ran
        split at ran
        · exact ⟨_, ran⟩
        · cases ran
    · exact ⟨tree, ran⟩

theorem standing_of_makeAll (ran : makeAll path tree = (.ok (), made)) :
    made.standing path = .directory := by
  obtain ⟨between, last⟩ := exists_of_makeAllFrom ran
  rw [List.reverse_reverse] at last
  exact standing_of_ensureOne last

theorem makeAll_of_directory (there : tree.standing path = .directory) :
    makeAll path tree = (.ok (), tree) := by
  obtain ⟨root, parts⟩ := path
  rcases List.eq_nil_or_concat parts with rfl | ⟨above, last, rfl⟩
  · exact ensureOne_of_directory there
  · rw [List.concat_eq_append] at there ⊢
    have outer : tree.standing ⟨root, above⟩ = .directory :=
      @standing_above tree root above last (by simp [there]) (by simp [there])
    rw [← ensureOne_of_directory there]
    exact makeAll_entry outer last

theorem find?_ensureOne (other : place ≠ spelled path) (tree : Tree) :
    (ensureOne path tree).2.find? place = tree.find? place := by
  by_cases vacant : tree.standing path = .vacant
  · rw [ensureOne_of_vacant vacant]
    exact find?_put_of_ne other _ tree
  · by_cases directory : tree.standing path = .directory
    · rw [ensureOne_of_directory directory]
    · obtain ⟨failure, failed⟩ := ensureOne_of_obstacle vacant directory
      rw [failed]

/-- Below a directory that is there, a path that does not lead up makes directories above its own
place alone. -/
theorem find?_makeAllFrom (there : tree.standing ⟨root, above⟩ = .directory)
    (level : Path.up ∉ below)
    (beyond : ¬ place <+: spelled ⟨root, above ++ below.reverse⟩) :
    (makeAllFrom root (below ++ above.reverse) tree).2.find? place = tree.find? place := by
  induction below with
  | nil =>
    have made := makeAll_of_directory there
    rw [makeAll] at made
    rw [List.nil_append, made]
  | cons last below inductionHypothesis =>
    have spelling : (last :: (below ++ above.reverse)).reverse =
        above ++ below.reverse ++ [last] := by simp
    have outer : (below ++ above.reverse).reverse = above ++ below.reverse := by simp
    have deeper := spelled_append ⟨root, above ++ below.reverse⟩ last
      (Ne.symm (List.ne_of_not_mem_cons level))
    rw [List.reverse_cons, ← List.append_assoc] at beyond
    have own : ∀ tree : Tree, (ensureOne ⟨root, above ++ below.reverse ++ [last]⟩ tree).2.find?
        place = tree.find? place :=
      find?_ensureOne fun same => beyond (same ▸ List.prefix_rfl)
    have before := inductionHypothesis (List.not_mem_of_not_mem_cons level) fun prior =>
      beyond (prior.trans (by rw [deeper]; exact List.prefix_append _ _))
    rw [List.cons_append, makeAllFrom, spelling, outer]
    dsimp only
    split
    · rw [bind_apply]
      obtain ⟨stood, answered⟩ : ∃ stood, stands ⟨root, above ++ below.reverse⟩ tree =
        (.ok stood, tree) := ⟨_, rfl⟩
      rw [answered]
      cases stood with
      | true => exact own tree
      | false =>
        dsimp only
        rw [Bool.not_false, if_pos rfl, bind_apply, tryCatch_apply]
        revert before
        generalize makeAllFrom root (below ++ above.reverse) tree = outcome
        obtain ⟨result, between⟩ := outcome
        intro before
        cases result with
        | ok answer => exact (own between).trans before
        | error failure =>
          dsimp only
          split
          · rename_i caught
            split at caught
            · obtain rfl := congrArg Prod.snd caught
              exact (own between).trans before
            · cases caught
          · rename_i caught
            split at caught
            · cases caught
            · obtain rfl := congrArg Prod.snd caught
              exact before
    · exact own tree

theorem evolves_of_makeAll (sound : tree.IsSound) (free : isNullFree path = true)
    (makes : makeAll path tree = (.ok (), made)) : Evolves (fun _ => False) tree made := by
  have behaved : Behaved (fun _ => False) tree (makeAll path tree).1 (makeAll path tree).2 := by
    refine behaves_makeAllFrom ?_ tree sound
    rw [List.reverse_reverse]
    exact free
  rw [makes] at behaved
  exact behaved.evolves

/-- Making directories changes no file and makes none. -/
theorem file_of_makeAll (sound : tree.IsSound) (free : isNullFree path = true)
    (makes : makeAll path tree = (.ok (), made)) (bytes : Utf8.Bytes) :
    made.find? place = some (.file bytes) ↔ tree.find? place = some (.file bytes) := by
  rcases @Evolves.frame _ _ _ (evolves_of_makeAll sound free makes) place id with
    same | ⟨none', new⟩
  · rw [same]
  · simp [none', new]

/-- Up from a directory leads to a directory. -/
theorem standing_up (rooted : tree.IsRooted)
    (named : isNamed ⟨root, above ++ [Path.up]⟩ = true)
    (there : tree.standing ⟨root, above⟩ = .directory) :
    tree.standing ⟨root, above ++ [Path.up]⟩ = .directory := by
  obtain ⟨reached, held⟩ := standing_eq_directory.mp there
  have walked := walk_below tree root above Path.up
  rw [place_of_isNamed (isNamed_above named)] at reached
  cases outer : tree.walk (start ⟨root, above⟩) above with
  | error cause =>
    rw [outer] at reached
    cases reached
  | ok target =>
    rw [outer] at reached walked
    obtain rfl : target = spelled ⟨root, above⟩ := Except.ok.inj reached
    dsimp only at walked
    rw [walk_cons, kindAt?_eq_directory.mpr held] at walked
    dsimp only at walked
    rw [if_pos rfl] at walked
    rw [standing_of_walk named walked, kindAt?_eq_directory.mpr (rooted _ (by simp [held]))]
    rfl

/-- A path that leads up out of directories that are there alone does not lead up beyond one of
them. -/
theorem exists_level (rooted : tree.IsRooted) (named : isNamed path = true)
    (open' : ∀ above below, path.parts = above ++ Path.up :: below →
      tree.standing ⟨path.root, above⟩ = .directory) :
    ∃ above below, path.parts = above ++ below ∧
      tree.standing ⟨path.root, above⟩ = .directory ∧ Path.up ∉ below := by
  obtain ⟨root, parts⟩ := path
  by_cases level : Path.up ∈ parts
  · obtain ⟨before, after, spelling, last⟩ :=
      List.eq_append_cons_of_mem (List.mem_reverse.mpr level)
    have forward : parts = after.reverse ++ Path.up :: before.reverse := by
      rw [← List.reverse_reverse parts, spelling]
      simp
    have whole : parts = after.reverse ++ [Path.up] ++ before.reverse := by
      rw [forward, List.append_assoc, List.singleton_append]
    have outer : isNamed ⟨root, after.reverse ++ [Path.up]⟩ = true := by
      rw [whole] at named
      exact isNamed_of_sublist (List.sublist_append_left _ _) named
    exact ⟨_, _, whole, standing_up rooted outer (open' _ _ forward),
      fun member => last (List.mem_reverse.mp member)⟩
  · refine ⟨[], parts, rfl, ?_, level⟩
    have outer : isNamed ⟨root, []⟩ = true :=
      isNamed_of_sublist (List.nil_sublist _) named
    rcases standing_of_no_parts tree root with there | barred
    · exact there
    · rw [standing, if_pos outer] at barred
      exact absurd barred (ofKind_ne _).2

/-! ### Copying the entries of a directory -/

variable {source destination : Path} {excluded : List Text}

/-- No path of a tree is longer than the tree has entries. -/
theorem length_le_entries (rooted : tree.IsRooted) (proper : place ≠ []) {rest : List Text}
    (stands : tree.find? (place ++ rest) ≠ none) : rest.length ≤ tree.entries.length := by
  -- The places on the way are places of entries, and they are different.
  have distinct : ((List.range rest.length).map fun count =>
      place ++ rest.take (count + 1)).Nodup := by
    refine List.Nodup.map_on (fun left member right member' same => ?_) List.nodup_range
    have lengths := congrArg List.length (List.append_cancel_left same)
    rw [List.mem_range] at member member'
    simp only [List.length_take] at lengths
    omega
  have among : ((List.range rest.length).map fun count => place ++ rest.take (count + 1)) ⊆
      tree.entries.map Prod.fst := by
    intro other member
    obtain ⟨count, within, rfl⟩ := List.mem_map.mp member
    rw [List.mem_range] at within
    have held : tree.find? (place ++ rest.take (count + 1)) ≠ none := by
      cases behind : rest.drop (count + 1) with
      | nil =>
        rw [List.take_of_length_le (List.drop_eq_nil_iff.mp behind)]
        exact stands
      | cons next further =>
        have whole : tree.find? (place ++ rest.take (count + 1) ++ next :: further) ≠ none := by
          rwa [List.append_assoc, ← behind, List.take_append_drop]
        rw [rooted.above whole]
        simp
    have long : 2 ≤ (place ++ rest.take (count + 1)).length := by
      have filled := List.length_pos_of_ne_nil proper
      rw [List.length_append, List.length_take]
      omega
    obtain ⟨node, entered⟩ := exists_mem_entries (not_isGround_of_length long) held
    exact List.mem_map_of_mem entered
  have shorter := (distinct.subperm among).length_le
  rwa [List.length_map, List.length_map, List.length_range] at shorter

/-- What the copy of a directory does once the directory that it goes to has been made. -/
theorem mirrors_copyDirectory (sound : tree.IsSound) (opens : tree.standing source = .directory)
    (free : isNullFree destination = true)
    (apart : AreApart (spelled source) (spelled destination))
    (makes : makeAll destination tree = (.ok (), made)) :
    Mirrors (fun rest => ∃ name ∈ (tree.names (spelled source)).filter (!isExcluded excluded ·),
        ∃ more, rest = name :: more ∧ IsKept excluded more) made (spelled source)
      (spelled destination) made
      ((copyDirectory excluded (tree.entries.length + 1) source destination tree).1 = .ok ())
      (copyDirectory excluded (tree.entries.length + 1) source destination tree).2 := by
  have evolves := evolves_of_makeAll sound free makes
  have ready : IsReady made tree.entries.length source destination made := by
    refine ⟨evolves.sound sound, ?_, standing_of_makeAll makes, fun _ _ _ => rfl,
      fun rest bytes held => ?_⟩
    · rw [evolves.grows.standing (by simp [IsSettled, opens]), opens]
    · refine length_le_entries sound.rooted apart.source_ne_nil ?_
      rw [(file_of_makeAll sound free makes bytes).mp held]
      simp
  exact (copied_entries (fun _ _ _ => copied_copyDirectory _) sound opens free apart makes
    ready).mirrors

theorem grows_copyDirectory (excluded : List Text) (sound : tree.IsSound)
    (opens : tree.standing source = .directory)
    (free : isNullFree destination = true) (makes : makeAll destination tree = (.ok (), made)) :
    made.Grows (copyDirectory excluded (tree.entries.length + 1) source destination tree).2 := by
  have named := isName_of_namesIn sound (congrArg Prod.fst (namesIn_of_directory opens))
  have entries : Behaves (IsAtOrBelow (spelled destination))
      (copyEntries (copyDirectory excluded tree.entries.length) source destination
        ((tree.names (spelled source)).filter (!isExcluded excluded ·))) :=
    behaves_copyEntries (fun _ _ => behaves_copyDirectory excluded _)
      (isNullFree_of_standing (by rw [opens]; simp)) free List.prefix_rfl
      fun name member => named name (List.mem_filter.mp member).1
  rw [copyDirectory, bind_apply, namesIn_of_directory opens]
  dsimp only
  rw [bind_apply, makes]
  refine (entries.bind (fun failed => ?_) made
    ((evolves_of_makeAll sound free makes).sound sound)).evolves.grows
  split
  · exact .throw rfl
  · exact .pure ()

end Files

namespace Target

open Files GuidedMigration.Tree

variable {tree made after : Tree} {sourceRoot destinationRoot : Path} {rules : CopyRules}
  {source destination : Text} {outcome : Outcome}

/-- The copy of a directory, after the checks that come before it. -/
theorem copyPath_of_directory
    (stays : staysInside destinationRoot (destinationRoot.child destination) = true)
    (opens : tree.standing (sourceRoot.child source) = .directory) :
    copyPath sourceRoot destinationRoot rules source destination tree =
      ((copyDirectory rules.excluded (tree.entries.length + 1) (sourceRoot.child source)
          (destinationRoot.child destination) tree).1.map fun _ =>
          ⟨(destinationRoot.child destination).toText, "copy".toList, "directory".toList, .applied,
            []⟩,
        (copyDirectory rules.excluded (tree.entries.length + 1) (sourceRoot.child source)
          (destinationRoot.child destination) tree).2) := by
  unfold copyPath
  dsimp only
  rw [stays, Bool.not_true, if_neg Bool.false_ne_true, bind_apply, Files.exists?, Files.ask,
    exists?_of_directory opens]
  dsimp only
  rw [Bool.not_true, if_neg Bool.false_ne_true, bind_apply, Files.isDirectory?, Files.ask,
    isDirectory?_iff.mpr opens]
  dsimp only
  rw [Bool.not_true, if_neg Bool.false_ne_true, bind_apply, copy, bind_apply,
    Files.isDirectory?, Files.ask, isDirectory?_iff.mpr opens]
  dsimp only
  rw [if_pos rfl, bind_apply, Files.ask]
  dsimp only
  generalize copyDirectory rules.excluded (tree.entries.length + 1) (sourceRoot.child source)
    (destinationRoot.child destination) tree = outcome
  obtain ⟨result, after⟩ := outcome
  cases result <;> rfl

/-- What the copy of a directory leaves once it has been made. -/
theorem mirrors_copyPath (rules : CopyRules) (sound : tree.IsSound)
    (stays : staysInside destinationRoot (destinationRoot.child destination) = true)
    (opens : tree.standing (sourceRoot.child source) = .directory)
    (apart : AreApart (spelled (sourceRoot.child source))
      (spelled (destinationRoot.child destination)))
    (makes : makeAll (destinationRoot.child destination) tree = (.ok (), made)) :
    Mirrors (fun rest => ∃ name ∈ (tree.names (spelled (sourceRoot.child source))).filter
          (!isExcluded rules.excluded ·), ∃ more, rest = name :: more ∧ IsKept rules.excluded more)
      made (spelled (sourceRoot.child source)) (spelled (destinationRoot.child destination)) made
      (∃ outcome, (copyPath sourceRoot destinationRoot rules source destination tree).1 =
        .ok outcome)
      (copyPath sourceRoot destinationRoot rules source destination tree).2 := by
  rw [copyPath_of_directory stays opens]
  refine (mirrors_copyDirectory sound opens (isAtOrBelow_of_staysInside stays).1 apart
    makes).imp (fun _ => id) ?_ fun _ _ _ among _ => among
  rintro ⟨outcome, done⟩
  dsimp only at done ⊢
  generalize (copyDirectory rules.excluded (tree.entries.length + 1) (sourceRoot.child source)
    (destinationRoot.child destination) tree).1 = result at done ⊢
  cases result with
  | error failure => cases done
  | ok answer => rfl

/-- A copy that succeeds has stayed inside the destination, and its directory has been made. -/
theorem makes_of_copyPath (opens : tree.standing (sourceRoot.child source) = .directory)
    (ran : copyPath sourceRoot destinationRoot rules source destination tree =
      (.ok outcome, after)) :
    staysInside destinationRoot (destinationRoot.child destination) = true ∧
      ∃ made, makeAll (destinationRoot.child destination) tree = (.ok (), made) := by
  cases stays : staysInside destinationRoot (destinationRoot.child destination) with
  | false =>
    unfold copyPath at ran
    dsimp only at ran
    rw [stays] at ran
    cases ran
  | true =>
    refine ⟨rfl, ?_⟩
    rw [copyPath_of_directory stays opens, copyDirectory, bind_apply,
      namesIn_of_directory opens] at ran
    dsimp only at ran
    rw [bind_apply] at ran
    cases outcome : makeAll (destinationRoot.child destination) tree with
    | mk result made =>
      cases result with
      | error failure =>
        rw [outcome] at ran
        cases ran
      | ok answer => exact ⟨made, rfl⟩

/-- Whether no path leads to a file below one place and to a directory below another one. -/
def IsAlike (tree : Tree) (source target : Path.Place) : Prop :=
  ∀ rest kind kind', tree.kindAt? (source ++ rest) = some kind →
    tree.kindAt? (target ++ rest) = some kind' → kind = kind'

/-- Whether a file below the source is to be copied. -/
def IsCopied (excluded : List Text) (tree : Tree) (source : Path.Place) (rest : List Text)
    (bytes : Utf8.Bytes) : Prop :=
  IsKept excluded rest ∧ tree.find? (source ++ rest) = some (.file bytes)

/-- Where a file below the source is copied to: to its place below the target, or into the
directory that making the target has put there. -/
def copyPlace (tree : Tree) (target : Path) (rest : List Text) : Path.Place :=
  (makeAll target tree).2.landing (spelled target ++ rest)

/-- What the copy of a directory leaves, and what the same copy leaves after it. -/
structure DirectoryCopied (excluded : List Text) (source target : Path)
    (before after again : Tree) : Prop where
  present : ∀ rest bytes, IsCopied excluded before (spelled source) rest bytes →
    after.find? (copyPlace before target rest) = some (.file bytes)
  frame : ∀ place, (∀ rest bytes, IsCopied excluded before (spelled source) rest bytes →
    place ≠ copyPlace before target rest) → ∀ bytes,
      after.find? place = some (.file bytes) ↔ before.find? place = some (.file bytes)
  idle : ∀ place bytes,
    again.find? place = some (.file bytes) ↔ after.find? place = some (.file bytes)

/-- The place of a copied file is its place below the target, if the target does not lead up out of
directories that are missing. -/
theorem copyPlace_of_level {excluded : List Text} {origin target : Path} {rest : List Text}
    {bytes : Utf8.Bytes} (sound : tree.IsSound) (opens : tree.standing origin = .directory)
    (alike : IsAlike tree (spelled origin) (spelled target))
    (makes : makeAll target tree = (.ok (), made))
    (open' : ∀ above below, target.parts = above ++ Path.up :: below →
      tree.standing ⟨target.root, above⟩ = .directory)
    (copied : IsCopied excluded tree (spelled origin) rest bytes) :
    copyPlace tree target rest = spelled target ++ rest := by
  have stands : made.standing target ≠ .barred := by simp [standing_of_makeAll makes]
  obtain ⟨above, below, spelling, there, level⟩ := 
    exists_level sound.rooted (isNamed_of_standing stands) open'
  rw [copyPlace, makes, landing, if_neg]
  intro inside
  have held := isDirectoryAt_iff.mp inside
  have proper : rest ≠ [] := by
    rintro rfl
    rw [IsCopied, List.append_nil, (standing_eq_directory.mp opens).2] at copied
    cases copied.2
  have same : made.find? (spelled target ++ rest) = tree.find? (spelled target ++ rest) := by
    have unchanged := @find?_makeAllFrom tree target.root above below.reverse
      (spelled target ++ rest) there (fun member => level (List.mem_reverse.mp member)) (by
        rw [List.reverse_reverse, ← spelling]
        intro prior
        have shorter : (spelled target ++ rest).length ≤ (spelled target).length := prior.length_le
        have filled := List.length_pos_of_ne_nil proper
        rw [List.length_append] at shorter
        omega)
    rw [← List.reverse_append, ← spelling] at unchanged
    rw [← unchanged]
    have ran : makeAllFrom target.root target.parts.reverse tree = (.ok (), made) := makes
    rw [ran]
  rw [same] at held
  cases alike rest true false (kindAt?_eq_file.mpr ⟨bytes, copied.2⟩)
    (kindAt?_eq_directory.mpr held)

/-- What a copy leaves is sound if the tree was, and its directory is there. -/
theorem grows_of_copyPath (sound : tree.IsSound)
    (stays : staysInside destinationRoot (destinationRoot.child destination) = true)
    (opens : tree.standing (sourceRoot.child source) = .directory)
    (makes : makeAll (destinationRoot.child destination) tree = (.ok (), made))
    (ran : copyPath sourceRoot destinationRoot rules source destination tree =
      (.ok outcome, after)) : after.IsSound ∧ made.Grows after := by
  have evolves := (behaves_copyPath sourceRoot destinationRoot rules source destination tree
    sound).evolves
  have onward := grows_copyDirectory rules.excluded sound opens (isAtOrBelow_of_staysInside stays).1
    makes
  rw [ran] at evolves
  rw [copyPath_of_directory stays opens] at ran
  rw [congrArg Prod.snd ran] at onward
  exact ⟨evolves.sound sound, onward⟩

/-- A copy of a directory puts every file of it that is not excluded in its place, leaves all other
files as they are, and changes no file when it is made again. -/
theorem directoryCopied_copyPath (sound : tree.IsSound)
    (opens : tree.standing (sourceRoot.child source) = .directory)
    (apart : AreApart (spelled (sourceRoot.child source))
      (spelled (destinationRoot.child destination)))
    (ran : copyPath sourceRoot destinationRoot rules source destination tree =
      (.ok outcome, after)) :
    DirectoryCopied rules.excluded (sourceRoot.child source) (destinationRoot.child destination)
      tree after (copyPath sourceRoot destinationRoot rules source destination after).2 := by
  obtain ⟨stays, made, makes⟩ := makes_of_copyPath opens ran
  have free := (isAtOrBelow_of_staysInside stays).1
  have there := (standing_eq_directory.mp opens).2
  have takes := standing_of_makeAll makes
  have evolves := evolves_of_makeAll sound free makes
  obtain ⟨sound', onward⟩ := grows_of_copyPath sound stays opens makes ran
  have mirrors := mirrors_copyPath rules sound stays opens apart makes
  rw [ran] at mirrors
  have spot (rest : List Text) : copyPlace tree (destinationRoot.child destination) rest =
      made.landing (spelled (destinationRoot.child destination) ++ rest) := by
    rw [copyPlace, makes]
  have present : ∀ rest bytes,
      IsCopied rules.excluded tree (spelled (sourceRoot.child source)) rest bytes →
      after.find? (copyPlace tree (destinationRoot.child destination) rest) =
        some (.file bytes) := by
    rintro rest bytes ⟨kept, held⟩
    rw [spot]
    exact mirrors.copied ⟨outcome, rfl⟩ rest bytes (exists_entry sound.rooted apart there kept held)
      ((file_of_makeAll sound free makes bytes).mpr held)
  refine ⟨present, fun place outside bytes => ?_, fun place bytes => ?_⟩
  · rcases mirrors.file_cases onward place with same | ⟨rest, content, chosen, held, lands, -⟩
    · rw [same, file_of_makeAll sound free makes]
    · have copied := (file_of_makeAll sound free makes content).mp held
      exact absurd (lands.trans (spot rest).symm)
        (outside rest content ⟨wider_of_entries rest chosen, copied⟩)
  · -- The directory is there now, and files land where they landed before.
    have opens' : after.standing (sourceRoot.child source) = .directory := by
      rw [(evolves.grows.trans onward).standing (by simp [IsSettled, opens]), opens]
    have takes' : after.standing (destinationRoot.child destination) = .directory := by
      rw [onward.standing (by simp [IsSettled, takes]), takes]
    have mirrors' := mirrors_copyPath rules sound' stays opens' apart (makeAll_of_directory takes')
    have lasting := (behaves_copyPath sourceRoot destinationRoot rules source destination after
      sound').evolves.grows
    rcases mirrors'.file_cases lasting place with same | ⟨rest, content, chosen, held, lands, new⟩
    · exact same bytes
    · have earlier := held
      rw [mirrors.find?_source apart, file_of_makeAll sound free makes] at earlier
      have copied := present rest content ⟨wider_of_entries rest chosen, earlier⟩
      have steady := mirrors.steady apart (evolves.sound sound).rooted (fun _ _ _ => rfl) rest
        content held
      rw [landing, steady, ← landing, ← spot] at lands
      rw [new, lands, copied]

/-- The copy of a directory puts every file of it that is not excluded in its place below the
target, leaves all other files as they are, and changes no file when it is made again. A file goes
into a directory in its place only if the target leads up out of a directory that was missing. -/
theorem copyPath_mirrors (sound : tree.IsSound)
    (opens : tree.standing (sourceRoot.child source) = .directory)
    (apart : AreApart (spelled (sourceRoot.child source))
      (spelled (destinationRoot.child destination)))
    (alike : IsAlike tree (spelled (sourceRoot.child source))
      (spelled (destinationRoot.child destination)))
    (ran : copyPath sourceRoot destinationRoot rules source destination tree =
      (.ok outcome, after)) :
    DirectoryCopied rules.excluded (sourceRoot.child source) (destinationRoot.child destination)
      tree after (copyPath sourceRoot destinationRoot rules source destination after).2 ∧
    ((∀ above below, (destinationRoot.child destination).parts = above ++ Path.up :: below →
        tree.standing ⟨(destinationRoot.child destination).root, above⟩ = .directory) →
      ∀ rest bytes, IsCopied rules.excluded tree (spelled (sourceRoot.child source)) rest bytes →
        copyPlace tree (destinationRoot.child destination) rest =
          spelled (destinationRoot.child destination) ++ rest) := by
  obtain ⟨-, made, makes⟩ := makes_of_copyPath opens ran
  exact ⟨directoryCopied_copyPath sound opens apart ran, fun open' rest bytes copied =>
    copyPlace_of_level sound opens alike makes open' copied⟩

/-! ### A small directory -/

/-- Trees are alike below two places if their entries are. -/
theorem isAlike_of_entries {origin target : Path.Place} (long : 2 ≤ origin.length)
    (alike : ∀ entry ∈ tree.entries, origin <+: entry.1 →
      tree.kindAt? (target ++ entry.1.drop origin.length) = none ∨
      tree.kindAt? (target ++ entry.1.drop origin.length) = tree.kindAt? entry.1) :
    IsAlike tree origin target := by
  intro rest kind kind' left right
  have stands : tree.find? (origin ++ rest) ≠ none := by
    rw [Ne, ← kindAt?_eq_none, left]
    simp
  have longer : 2 ≤ (origin ++ rest).length := by
    rw [List.length_append]
    omega
  obtain ⟨node, member⟩ := exists_mem_entries (not_isGround_of_length longer) stands
  have own := alike _ member (List.prefix_append origin rest)
  rw [List.drop_left, left, right] at own
  simpa [eq_comm] using own

/-- An entry of a tree for a directory below the working directory. -/
def directoryAt (place : List String) : Path.Place × Node :=
  (here ++ place.map String.toList, .directory)

/-- An entry of a tree for a file below the working directory. -/
def fileAt (place : List String) (content : String) : Path.Place × Node :=
  (here ++ place.map String.toList, .file (Utf8.encode content.toList))

/-- A tree with a directory in the source and one in the destination. -/
def kitTree : Tree :=
  ⟨[directoryAt ["src"], directoryAt ["src", "lib"], fileAt ["src", "lib", "a"] "x",
    fileAt ["src", "lib", "b.log"] "y", directoryAt ["src", "lib", "sub"],
    fileAt ["src", "lib", "sub", "c"] "z", directoryAt ["dst"], directoryAt ["dst", "kit"],
    fileAt ["dst", "kit", "a"] "old", fileAt ["dst", "kit", "d"] "other"]⟩

/-- Copies a directory of the source, but for its logs. -/
def copyWithoutLogs (source destination : Text) : Files Outcome :=
  copyPath (.ofText "src".toList) (.ofText "dst".toList) ⟨["*.log".toList], [], false⟩ source
    destination

/-- The path of a directory in the source. -/
def libPath : Path := Path.child (.ofText "src".toList) "lib".toList

/-- The path of a directory in the destination. -/
def kitPath : Path := Path.child (.ofText "dst".toList) "kit".toList

set_option maxRecDepth 100000 in
/-- The files of a directory but for its logs come to be in one that is there, beside what it holds.
-/
theorem copyPath_merges_kit :
    ∃ outcome after, copyWithoutLogs "lib".toList "kit".toList kitTree = (.ok outcome, after) ∧
      (∀ rest bytes, IsCopied ["*.log".toList] kitTree (spelled libPath) rest bytes →
        after.find? (spelled kitPath ++ rest) = some (.file bytes)) ∧
      ∀ bytes, after.find? (spelled kitPath ++ ["d".toList]) = some (.file bytes) ↔
        kitTree.find? (spelled kitPath ++ ["d".toList]) = some (.file bytes) := by
  obtain ⟨outcome, read⟩ := Option.isSome_iff_exists.mp
    (show (copyWithoutLogs "lib".toList "kit".toList kitTree).1.toOption.isSome = true by
      decide +kernel)
  have ran := eq_mk_of_toOption read
  have sound : kitTree.IsSound := isSound_of_entries (by decide +kernel) (by decide +kernel)
  have opens : kitTree.standing libPath = .directory := by decide +kernel
  have apart : AreApart (spelled libPath) (spelled kitPath) := ⟨by decide, by decide⟩
  have alike : IsAlike kitTree (spelled libPath) (spelled kitPath) :=
    isAlike_of_entries (by decide) (by decide +kernel)
  obtain ⟨copied, placed⟩ := copyPath_mirrors sound opens apart alike ran
  have level := placed fun above below spelling => by
    have member : Path.up ∈ kitPath.parts :=
      spelling ▸ List.mem_append_right above List.mem_cons_self
    exact absurd member (by decide)
  refine ⟨outcome, _, ran, fun rest bytes own => ?_, copied.frame _ fun rest bytes own same => ?_⟩
  · exact level rest bytes own ▸ copied.present rest bytes own
  · rw [level rest bytes own] at same
    obtain rfl : ["d".toList] = rest := List.append_cancel_left same
    have none' : kitTree.kindAt? (spelled libPath ++ ["d".toList]) = none := by decide +kernel
    have file : kitTree.kindAt? (spelled libPath ++ ["d".toList]) = some true :=
      kindAt?_eq_file.mpr ⟨bytes, own.2⟩
    rw [none'] at file
    cases file

/-- A tree with a directory in the source and an empty destination. -/
def bareTree : Tree :=
  ⟨[directoryAt ["src"], directoryAt ["src", "lib"], fileAt ["src", "lib", "a"] "x",
    directoryAt ["dst"]]⟩

/-- A path that leads up twice out of directories that are missing. -/
def windingPath : Path := Path.child (.ofText "dst".toList) "lib/a/../../lib".toList

set_option maxRecDepth 100000 in
/-- A directory comes to be in the place of a copied file, because the path of the target leads up
out of it. -/
theorem copyPath_misses_place :
    bareTree.IsSound ∧ bareTree.standing libPath = .directory ∧
      AreApart (spelled libPath) (spelled windingPath) ∧
      IsAlike bareTree (spelled libPath) (spelled windingPath) ∧
      (∃ bytes, IsCopied ["*.log".toList] bareTree (spelled libPath) ["a".toList] bytes) ∧
      ∃ outcome after,
        copyWithoutLogs "lib".toList "lib/a/../../lib".toList bareTree = (.ok outcome, after) ∧
        after.find? (spelled windingPath ++ ["a".toList]) = some .directory := by
  obtain ⟨outcome, read⟩ := Option.isSome_iff_exists.mp
    (show (copyWithoutLogs "lib".toList "lib/a/../../lib".toList bareTree).1.toOption.isSome = true
      by decide +kernel)
  have ran := eq_mk_of_toOption read
  obtain ⟨bytes, held⟩ := kindAt?_eq_file.mp
    (show bareTree.kindAt? (spelled libPath ++ ["a".toList]) = some true by decide +kernel)
  have taken : (copyWithoutLogs "lib".toList "lib/a/../../lib".toList bareTree).2.kindAt?
      (spelled windingPath ++ ["a".toList]) = some false := by decide +kernel
  have kept : IsKept ["*.log".toList] ["a".toList] :=
    List.forall_mem_singleton.mpr (by decide +kernel)
  exact ⟨isSound_of_entries (by decide +kernel) (by decide +kernel), by decide +kernel,
    ⟨by decide +kernel, by decide +kernel⟩,
    isAlike_of_entries (by decide +kernel) (by decide +kernel), ⟨bytes, kept, held⟩, outcome, _,
    ran, kindAt?_eq_directory.mp taken⟩

end Target

end GuidedMigration
