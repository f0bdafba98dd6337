/-
This file follows plain paths through trees in which everything stands in a directory. A path is
plain if it never leads up. In such a tree nothing but its own place decides how a plain path
stands, as long as its names are short enough: where something stands, the way to it is open.

Then it shows what writing to a tree does. Making a directory and those above it only adds
directories where nothing stood; writing a file does so too, and then puts the file where its path
leads. Either way the path is settled afterwards: even if the writing failed, nothing that happens
to the tree later on gives the path a place that it has not got now.
-/
import GuidedMigration.Proofs.Tree.Growth

namespace GuidedMigration.Tree

/-- Whether everything stands in a directory. -/
def IsRooted (tree : Tree) : Prop :=
  ∀ place, tree.find? place ≠ none → tree.find? place.dropLast = some .directory

/-- Whether a path never leads up and can have a place: its names and itself are short enough. -/
def isPlain (path : Path) : Bool :=
  isNamed path && path.parts.all fun part =>
    part != Path.up && (Utf8.encode part).length ≤ nameLimit

theorem find?_nil (tree : Tree) : tree.find? [] = some .directory :=
  find?_of_isGround (by simp [isGround]) tree

theorem find?_here (tree : Tree) : tree.find? here = some .directory :=
  find?_of_isGround (by simp [isGround]) tree

theorem find?_start (tree : Tree) (path : Path) : tree.find? (start path) = some .directory := by
  rw [start]
  split
  · exact find?_nil tree
  · exact find?_here tree

/-! ### Plain paths -/

theorem follow_of_plain {parts : List Text} (plain : ∀ part ∈ parts, part ≠ Path.up)
    (place : Path.Place) : Path.follow place parts = place ++ parts := by
  induction parts generalizing place with
  | nil => simp [Path.follow]
  | cons part rest inductionHypothesis =>
    have behind :=
      inductionHypothesis (fun other member => plain other (List.mem_cons_of_mem _ member))
      (place ++ [part])
    rw [Path.follow] at behind ⊢
    rw [List.foldl_cons, if_neg (plain part List.mem_cons_self), behind, List.append_assoc,
      List.singleton_append]

/-- Where something stands, all that is above it are directories. -/
theorem IsRooted.above {tree : Tree} (rooted : tree.IsRooted) {place : Path.Place} {part : Text}
    {rest : List Text} (stands : tree.find? (place ++ part :: rest) ≠ none) :
    tree.find? place = some .directory := by
  induction rest generalizing place part with
  | nil =>
    have above := rooted _ stands
    rwa [List.dropLast_concat] at above
  | cons next rest inductionHypothesis =>
    have inside : tree.find? (place ++ [part]) = some .directory := by
      refine @inductionHypothesis (place ++ [part]) next ?_
      rwa [List.append_assoc, List.singleton_append]
    have above := rooted (place ++ [part]) (by simp [inside])
    rwa [List.dropLast_concat] at above

/-- Where something stands, the plain way to it is open. -/
theorem IsRooted.walk {tree : Tree} (rooted : tree.IsRooted) {place : Path.Place}
    {parts : List Text}
    (plain : ∀ part ∈ parts, part ≠ Path.up ∧ (Utf8.encode part).length ≤ nameLimit)
    (stands : tree.find? (place ++ parts) ≠ none) :
    tree.walk place parts = .ok (place ++ parts) := by
  induction parts generalizing place with
  | nil => rw [List.append_nil, Tree.walk]
  | cons part rest inductionHypothesis =>
    obtain ⟨other, short⟩ := plain part List.mem_cons_self
    rw [walk_cons, kindAt?_eq_directory.mpr (rooted.above stands)]
    dsimp only
    rw [if_neg other, if_neg (Nat.not_lt.mpr short), inductionHypothesis]
    · rw [List.append_assoc, List.singleton_append]
    · exact fun other member => plain other (List.mem_cons_of_mem _ member)
    · rwa [List.append_assoc, List.singleton_append]

theorem isPlain_iff {path : Path} : isPlain path = true ↔ isNamed path = true ∧
    ∀ part ∈ path.parts, part ≠ Path.up ∧ (Utf8.encode part).length ≤ nameLimit := by
  rw [isPlain, Bool.and_eq_true, List.all_eq_true]
  refine and_congr_right fun _ => forall_congr' fun part => forall_congr' fun _ => ?_
  rw [Bool.and_eq_true, bne_iff_ne, decide_eq_true_eq]

theorem spelled_of_isPlain {path : Path} (plain : isPlain path = true) :
    spelled path = start path ++ path.parts :=
  follow_of_plain (fun part member => ((isPlain_iff.mp plain).2 part member).1) (start path)

/-- A plain path to something stands as that. -/
theorem IsRooted.standing {tree : Tree} (rooted : tree.IsRooted) {path : Path}
    (plain : isPlain path = true) {kind : Bool} (stands : tree.kindAt? (spelled path) = some kind) :
    tree.standing path = .ofKind (some kind) := by
  rw [← stands]
  have there : tree.find? (start path ++ path.parts) ≠ none := by
    rw [← spelled_of_isPlain plain]
    intro missing
    rw [kindAt?_eq_none.mpr missing] at stands
    simp at stands
  have walked := rooted.walk (isPlain_iff.mp plain).2 there
  rw [spelled_of_isPlain plain]
  exact standing_of_walk (isPlain_iff.mp plain).1 walked

theorem IsRooted.standing_file {tree : Tree} (rooted : tree.IsRooted) {path : Path}
    (plain : isPlain path = true) {bytes : Utf8.Bytes}
    (held : tree.find? (spelled path) = some (.file bytes)) : tree.standing path = .file :=
  rooted.standing plain (kindAt?_eq_file.mpr ⟨bytes, held⟩)

theorem short_of_walk {tree : Tree} {place target : Path.Place} {parts : List Text}
    (walked : tree.walk place parts = .ok target) {part : Text} (member : part ∈ parts) :
    part = Path.up ∨ (Utf8.encode part).length ≤ nameLimit := by
  induction parts generalizing place with
  | nil => simp at member
  | cons first rest inductionHypothesis =>
    rw [walk_cons] at walked
    split at walked
    · simp at walked
    · simp at walked
    · split at walked
      · rename_i up
        rcases List.mem_cons.mp member with rfl | behind
        · exact .inl up
        · exact inductionHypothesis walked behind
      · split at walked
        · simp at walked
        · rename_i short
          rcases List.mem_cons.mp member with rfl | behind
          · exact .inr (Nat.not_lt.mp short)
          · exact inductionHypothesis walked behind

/-- A path to a file that never leads up is plain. -/
theorem isPlain_of_file {tree : Tree} {path : Path} (level : Path.up ∉ path.parts)
    (stands : tree.standing path = .file) : isPlain path = true := by
  have named : isNamed path = true := @isNamed_of_standing tree path (by simp [stands])
  refine isPlain_iff.mpr ⟨named, fun part member => ?_⟩
  have other : part ≠ Path.up := fun up => level (up ▸ member)
  cases walked : tree.walk (start path) path.parts with
  | error cause =>
    rw [standing_of_walk_error named walked] at stands
    split at stands <;> simp at stands
  | ok target => exact ⟨other, (short_of_walk walked member).resolve_left other⟩

/-! ### Trees that stay rooted -/

/-- What has a place has it in a directory. -/
theorem IsRooted.dropLast {tree : Tree} (rooted : tree.IsRooted) {place target : Path.Place}
    {parts : List Text} (above : tree.find? place.dropLast = some .directory)
    (walked : tree.walk place parts = .ok target) :
    tree.find? target.dropLast = some .directory := by
  induction parts generalizing place with
  | nil => rwa [← Except.ok.inj walked]
  | cons part rest inductionHypothesis =>
    rw [walk_cons] at walked
    split at walked
    · simp at walked
    · simp at walked
    · rename_i directory
      split at walked
      · exact inductionHypothesis (rooted _ (by simp [above])) walked
      · split at walked
        · simp at walked
        · refine inductionHypothesis ?_ walked
          rw [List.dropLast_concat]
          exact kindAt?_eq_directory.mp directory

theorem IsRooted.dropLast_spelled {tree : Tree} (rooted : tree.IsRooted) {path : Path}
    (reached : tree.place path = .ok (spelled path)) :
    tree.find? (spelled path).dropLast = some .directory := by
  refine rooted.dropLast (rooted _ ?_) (walk_of_place reached).2
  simp [find?_start]

/-- A tree stays rooted when something new is put into a directory. -/
theorem IsRooted.put {tree : Tree} (rooted : tree.IsRooted) {place : Path.Place} {node : Node}
    (above : tree.find? place.dropLast = some .directory)
    (other : node = .directory ∨ tree.find? place ≠ some .directory)
    (ground : isGround place = false) : (tree.put place node).IsRooted := by
  have proper : place.dropLast ≠ place := by
    intro same
    rcases List.eq_nil_or_concat place with rfl | ⟨rest, last, rfl⟩
    · simp [isGround] at ground
    · simp at same
  intro target stands
  have within : tree.find? target.dropLast = some .directory := by
    by_cases same : target = place
    · rw [same]
      exact above
    · rw [find?_put_of_ne same] at stands
      exact rooted target stands
  by_cases same : target.dropLast = place
  · rw [same] at within ⊢
    rw [find?_put_same ground]
    rcases other with directory | file
    · rw [directory]
    · exact absurd within file
  · rw [find?_put_of_ne same, within]

/-- A tree is rooted if the entries that it is written with are. -/
theorem isRooted_of_entries {tree : Tree}
    (above : ∀ entry ∈ tree.entries, tree.kindAt? entry.1.dropLast = some false) :
    tree.IsRooted := by
  intro place held
  cases ground : isGround place with
  | true =>
    rw [isGround, Bool.or_eq_true, decide_eq_true_eq, decide_eq_true_eq] at ground
    rcases ground with rfl | rfl <;> exact find?_nil tree
  | false =>
    rw [find?_of_not_isGround ground] at held
    obtain ⟨node, found⟩ := Option.ne_none_iff_exists'.mp held
    obtain ⟨before, after, written, -⟩ := List.lookup_eq_some_iff.mp found
    refine kindAt?_eq_directory.mp (above (place, node) ?_)
    rw [written]
    exact List.mem_append_right before List.mem_cons_self

end GuidedMigration.Tree

namespace GuidedMigration

/-! ### Actions on a state that may fail -/

section

variable {State First Second : Type} {action : ExceptT Failure (StateM State) First}
  {next : First → ExceptT Failure (StateM State) Second}

/-- An action that is followed by another one. -/
theorem bind_apply (action : ExceptT Failure (StateM State) First)
    (next : First → ExceptT Failure (StateM State) Second) (state : State) :
    (action >>= next) state = match action state with
      | (.ok answer, after) => next answer after
      | (.error failure, after) => (.error failure, after) := by
  show (match action state with | (result, after) => ExceptT.bindCont next result after) = _
  obtain ⟨result, after⟩ := action state
  cases result <;> rfl

/-- What fails fails first or in what comes behind it. -/
theorem failed_of_bind {state : State} {failure : Failure}
    (failed : ((action >>= next) state).1 = .error failure) :
    (action state).1 = .error failure ∨
      ∃ first between, action state = (.ok first, between) ∧
        (next first between).1 = .error failure := by
  rw [bind_apply] at failed
  cases outcome : action state with
  | mk result between =>
    rw [outcome] at failed
    cases result with
    | error other =>
      have same : (.error other : Except Failure Second) = .error failure := failed
      exact .inl (congrArg Except.error (Except.error.inj same))
    | ok first => exact .inr ⟨first, between, rfl, failed⟩

/-- Two actions lead to where the first one fails, or to where the second one leads from there. -/
theorem leads_bind (leads : State → State → Prop)
    (trans : ∀ {first second third}, leads first second → leads second third → leads first third)
    (once : ∀ state, leads state (action state).2)
    (again : ∀ answer state, leads state (next answer state).2) (state : State) :
    leads state ((action >>= next) state).2 := by
  have led := once state
  rw [bind_apply]
  cases outcome : action state with
  | mk result between =>
    rw [outcome] at led
    cases result with
    | ok answer => exact trans led (again answer between)
    | error failure => exact led

end

/-- A result that is followed by an action. -/
theorem Files.bind_mk_apply {First Second : Type} (result : Except Failure First)
    (next : First → Files Second) (tree : Tree) :
    ((ExceptT.mk (pure result) : Files First) >>= next) tree = match result with
      | .ok answer => next answer tree
      | .error failure => (.error failure, tree) := by
  rw [bind_apply]
  cases result <;> rfl

namespace Tree

/-! ### Directories -/

/-- A tree to which directories have been added where nothing stood. -/
def Furnishes (before after : Tree) : Prop :=
  ∀ place, after.find? place = before.find? place ∨
    before.find? place = none ∧ after.find? place = some .directory

theorem Furnishes.refl (tree : Tree) : tree.Furnishes tree := fun _ => .inl rfl

theorem Furnishes.trans {first second third : Tree} (left : first.Furnishes second)
    (right : second.Furnishes third) : first.Furnishes third := by
  intro place
  rcases left place with same | ⟨free, made⟩
  · rw [← same]
    exact right place
  · rcases right place with same | ⟨free', -⟩
    · exact .inr ⟨free, same.trans made⟩
    · rw [made] at free'
      simp at free'

theorem Furnishes.grows {before after : Tree} (furnishes : before.Furnishes after) :
    before.Grows after := by
  intro place kind stands
  rcases furnishes place with same | ⟨free, -⟩
  · rw [kindAt?, same, ← kindAt?, stands]
  · rw [kindAt?_eq_none.mpr free] at stands
    simp at stands

theorem furnishes_put {tree : Tree} {place : Path.Place} (free : tree.find? place = none) :
    tree.Furnishes (tree.put place .directory) := by
  intro other
  by_cases same : other = place
  · subst same
    have ground : isGround other = false := @isGround_of_find? tree other (by rw [free]; simp)
    exact .inr ⟨free, find?_put_same ground _ tree⟩
  · exact .inl (find?_put_of_ne same _ tree)

theorem makeDirectory_of_vacant {tree : Tree} {path : Path}
    (stands : tree.standing path = .vacant) :
    tree.makeDirectory path = .ok (tree.put (spelled path) .directory) := by
  obtain ⟨reached, free⟩ := standing_eq_vacant.mp stands
  simp [makeDirectory, reached, free, bind, Except.bind]

theorem makeDirectory_of_lost {tree : Tree} {path : Path} (stands : tree.standing path = .lost) :
    tree.makeDirectory path = .error (.system .absent path.toText) := by
  simp [makeDirectory, place_of_lost stands, bind, Except.bind]

/-- Where something stands, or where there is no way to, no directory can be made. -/
theorem makeDirectory_of_settled {tree : Tree} {path : Path} (found : tree.standing path ≠ .lost)
    (taken : tree.standing path ≠ .vacant) :
    ∃ fault, IsLasting fault ∧ tree.makeDirectory path = .error fault := by
  cases stands : tree.standing path with
  | lost => exact absurd stands found
  | vacant => exact absurd stands taken
  | directory =>
    obtain ⟨reached, held⟩ := standing_eq_directory.mp stands
    exact ⟨.system .taken path.toText, by simp [IsLasting],
      by simp [makeDirectory, reached, held, bind, Except.bind]⟩
  | file =>
    obtain ⟨reached, bytes, held⟩ := standing_eq_file.mp stands
    exact ⟨.system .taken path.toText, by simp [IsLasting],
      by simp [makeDirectory, reached, held, bind, Except.bind]⟩
  | barred =>
    obtain ⟨fault, lasting, failed⟩ := place_of_barred stands
    exact ⟨fault, lasting, by simp [makeDirectory, failed, bind, Except.bind]⟩

theorem isDirectory?_iff {tree : Tree} {path : Path} :
    tree.isDirectory? path = .ok true ↔ tree.standing path = .directory := by
  rw [standing_eq_directory]
  constructor
  · intro directory
    cases found : tree.look path with
    | error fault => simp [isDirectory?, found, Except.map] at directory
    | ok node =>
      rw [isDirectory?, found] at directory
      match node with
      | some .directory => exact standing_of_look found
      | some (.file _) => simp [Except.map] at directory
      | none => simp [Except.map] at directory
  · rintro ⟨reached, held⟩
    rw [isDirectory?, look_of_place reached, held]
    rfl

end Tree

namespace Files

open GuidedMigration.Tree

variable {tree : Tree} {path : Path}

theorem ensureOne_of_vacant (stands : tree.standing path = .vacant) :
    ensureOne path tree = (.ok (), tree.put (spelled path) .directory) := by
  rw [ensureOne, makeDirectory_of_vacant stands]

theorem ensureOne_of_directory (stands : tree.standing path = .directory) :
    ensureOne path tree = (.ok (), tree) := by
  obtain ⟨fault, -, failed⟩ := @makeDirectory_of_settled tree path
    (by simp [stands]) (by simp [stands])
  rw [ensureOne, failed]
  dsimp only
  rw [isDirectory?_iff.mpr stands]

theorem ensureOne_of_obstacle (taken : tree.standing path ≠ .vacant)
    (other : tree.standing path ≠ .directory) :
    ∃ failure, ensureOne path tree = (.error failure, tree) := by
  have unmade : ∃ fault, tree.makeDirectory path = .error fault := by
    by_cases lost : tree.standing path = .lost
    · exact ⟨_, makeDirectory_of_lost lost⟩
    · obtain ⟨fault, -, failed⟩ := makeDirectory_of_settled lost taken
      exact ⟨fault, failed⟩
  obtain ⟨fault, failed⟩ := unmade
  refine ⟨.file fault, ?_⟩
  rw [ensureOne, failed]
  dsimp only
  split
  · rename_i directory
    exact absurd (isDirectory?_iff.mp directory) other
  · rfl

/-- What making a directory leaves: new directories alone, and either the directory or something in
its way. -/
structure Made (before : Tree) (path : Path) (result : Except Failure Unit) (after : Tree) :
    Prop where
  furnishes : before.Furnishes after
  rooted : before.IsRooted → after.IsRooted
  directory : result = .ok () → after.standing path = .directory
  obstacle : ∀ failure, result = .error failure →
    after.standing path = .file ∨ after.standing path = .barred

/-- One directory is made if the one above it is there. -/
theorem made_ensureOne (found : tree.standing path ≠ .lost) :
    Made tree path (ensureOne path tree).1 (ensureOne path tree).2 := by
  cases stands : tree.standing path with
  | lost => exact absurd stands found
  | vacant =>
    rw [ensureOne_of_vacant stands]
    obtain ⟨reached, free⟩ := standing_eq_vacant.mp stands
    have furnishes := furnishes_put free
    have ground : isGround (spelled path) = false := @isGround_of_find? tree _ (by simp [free])
    refine ⟨furnishes, fun rooted => rooted.put (rooted.dropLast_spelled reached) (.inl rfl) ground,
      fun _ => standing_eq_directory.mpr ⟨furnishes.grows.place reached, ?_⟩, by simp⟩
    exact find?_put_same ground _ tree
  | directory =>
    rw [ensureOne_of_directory stands]
    exact ⟨.refl tree, id, fun _ => stands, by simp⟩
  | file =>
    obtain ⟨failure, failed⟩ := @ensureOne_of_obstacle tree path
      (by simp [stands]) (by simp [stands])
    rw [failed]
    exact ⟨.refl tree, id, by simp, fun _ _ => .inl stands⟩
  | barred =>
    obtain ⟨failure, failed⟩ := @ensureOne_of_obstacle tree path
      (by simp [stands]) (by simp [stands])
    rw [failed]
    exact ⟨.refl tree, id, by simp, fun _ _ => .inr stands⟩

theorem ensureFrom_of_lost {root last : Text} {above : List Text}
    (lost : tree.standing ⟨root, above.reverse ++ [last]⟩ = .lost) :
    ensureFrom root (last :: above) tree = match ensureFrom root above tree with
      | (.ok _, after) => ensureOne ⟨root, above.reverse ++ [last]⟩ after
      | (.error failure, after) => (.error failure, after) := by
  rw [ensureFrom, List.reverse_cons]
  dsimp only
  rw [makeDirectory_of_lost lost]
  dsimp only
  rw [bind_apply]
  obtain ⟨result, after⟩ := ensureFrom root above tree
  cases result <;> rfl

theorem ensureFrom_of_not_lost {root last : Text} {above : List Text}
    (found : tree.standing ⟨root, above.reverse ++ [last]⟩ ≠ .lost) :
    ensureFrom root (last :: above) tree = ensureOne ⟨root, above.reverse ++ [last]⟩ tree := by
  rw [ensureFrom, List.reverse_cons]
  dsimp only
  by_cases free : tree.standing ⟨root, above.reverse ++ [last]⟩ = .vacant
  · rw [makeDirectory_of_vacant free]
  · obtain ⟨fault, lasting, failed⟩ := makeDirectory_of_settled found free
    rw [failed]
    split
    · rename_i absent
      exact absurd (Except.error.inj absent) (lasting _)
    · rfl

/-- One directory after another is made, from the top. -/
theorem made_ensureFrom (root : Text) (parts : List Text) (tree : Tree) :
    Made tree ⟨root, parts.reverse⟩ (ensureFrom root parts tree).1
      (ensureFrom root parts tree).2 := by
  induction parts with
  | nil =>
    refine made_ensureOne ?_
    rcases standing_of_no_parts tree root with stands | stands <;> simp [stands]
  | cons last above inductionHypothesis =>
    rw [List.reverse_cons]
    by_cases lost : tree.standing ⟨root, above.reverse ++ [last]⟩ = .lost
    · rw [ensureFrom_of_lost lost]
      revert inductionHypothesis
      generalize ensureFrom root above tree = outcome
      rintro ⟨furnishes, rooted, directory, obstacle⟩
      obtain ⟨result, after⟩ := outcome
      cases result with
      | error failure =>
        exact ⟨furnishes, rooted, by simp,
          fun _ _ => .inr (standing_below_barred last (obstacle failure rfl))⟩
      | ok answer =>
        have made := made_ensureOne (standing_below_directory last (directory rfl))
        exact ⟨furnishes.trans made.furnishes, made.rooted ∘ rooted, made.directory, made.obstacle⟩
    · rw [ensureFrom_of_not_lost lost]
      exact made_ensureOne lost

theorem made_ensureDirectory (path : Path) (tree : Tree) :
    Made tree path (ensureDirectory path tree).1 (ensureDirectory path tree).2 := by
  have made := made_ensureFrom path.root path.parts.reverse tree
  rwa [List.reverse_reverse] at made

theorem ensureDirectory_of_directory (stands : tree.standing path = .directory) :
    ensureDirectory path tree = (.ok (), tree) := by
  rw [ensureDirectory]
  obtain ⟨root, parts⟩ := path
  cases order : parts.reverse with
  | nil =>
    obtain rfl := List.reverse_eq_nil_iff.mp order
    exact ensureOne_of_directory stands
  | cons last above =>
    have spelling : above.reverse ++ [last] = parts := by
      rw [← List.reverse_cons, ← order, List.reverse_reverse]
    rw [ensureFrom_of_not_lost] <;> rw [spelling]
    · exact ensureOne_of_directory stands
    · simp [stands]

end Files

namespace Tree

/-! ### Files -/

theorem writeBytes_of_free {tree : Tree} {path : Path}
    (stands : tree.standing path = .vacant ∨ tree.standing path = .file) (bytes : Utf8.Bytes) :
    tree.writeBytes path bytes = .ok (tree.put (spelled path) (.file bytes)) := by
  rcases stands with vacant | file
  · obtain ⟨reached, free⟩ := standing_eq_vacant.mp vacant
    simp [writeBytes, reached, free, bind, Except.bind]
  · obtain ⟨reached, old, held⟩ := standing_eq_file.mp file
    simp [writeBytes, reached, held, bind, Except.bind]

theorem writeBytes_of_taken {tree : Tree} {path : Path} (taken : tree.standing path ≠ .vacant)
    (other : tree.standing path ≠ .file) (bytes : Utf8.Bytes) :
    ∃ fault, tree.writeBytes path bytes = .error fault := by
  cases stands : tree.standing path with
  | vacant => exact absurd stands taken
  | file => exact absurd stands other
  | lost => exact ⟨_, by simp [writeBytes, place_of_lost stands, bind, Except.bind]; rfl⟩
  | directory =>
    obtain ⟨reached, held⟩ := standing_eq_directory.mp stands
    exact ⟨_, by simp [writeBytes, reached, held, bind, Except.bind]; rfl⟩
  | barred =>
    obtain ⟨fault, -, failed⟩ := place_of_barred stands
    exact ⟨fault, by simp [writeBytes, failed, bind, Except.bind]⟩

theorem grows_put_file {tree : Tree} {place : Path.Place}
    (other : tree.find? place ≠ some .directory) (bytes : Utf8.Bytes) :
    tree.Grows (tree.put place (.file bytes)) := by
  intro target kind stands
  by_cases same : target = place
  · subst same
    rw [kindAt?_eq_file.mpr ⟨bytes, find?_put_same (isGround_of_find? other) _ tree⟩]
    cases kind with
    | true => rfl
    | false => exact absurd (kindAt?_eq_directory.mp stands) other
  · rw [kindAt?, find?_put_of_ne same, ← kindAt?, stands]

end Tree

namespace Files

open GuidedMigration.Tree

variable {tree : Tree} {path : Path}

theorem write_apply (path : Path) (content : Text) (tree : Tree) :
    write path content tree = match ensureDirectory path.parent tree with
      | (.ok _, made) => change (·.writeBytes path (Utf8.encode content)) made
      | (.error failure, made) => (.error failure, made) := by
  rw [write, bind_apply]
  obtain ⟨result, made⟩ := ensureDirectory path.parent tree
  cases result <;> rfl

/-- What writing a text to a file leaves: directories where nothing stood, and either the file or a
path that leads nowhere else. -/
structure Written (before : Tree) (path : Path) (content : Text) (result : Except Failure Unit)
    (after : Tree) : Prop where
  grows : before.Grows after
  rooted : before.IsRooted → after.IsRooted
  frame : ∀ place, place ≠ spelled path → after.find? place = before.find? place ∨
    before.find? place = none ∧ after.find? place = some .directory
  settled : after.IsSettled path
  written : result = .ok () →
    after.standing path = .file ∧ after.find? (spelled path) = some (.file (Utf8.encode content))
  failed : ∀ failure, result = .error failure → before.Furnishes after

/-- Writing to a file whose directory is there. -/
theorem written_change (content : Text) (found : tree.standing path ≠ .lost) :
    Written tree path content (change (·.writeBytes path (Utf8.encode content)) tree).1
      (change (·.writeBytes path (Utf8.encode content)) tree).2 := by
  by_cases free : tree.standing path = .vacant ∨ tree.standing path = .file
  · rw [change, writeBytes_of_free free]
    have reached : tree.place path = .ok (spelled path) ∧
        tree.find? (spelled path) ≠ some .directory := by
      rcases free with vacant | file
      · obtain ⟨reached, none'⟩ := standing_eq_vacant.mp vacant
        exact ⟨reached, by simp [none']⟩
      · obtain ⟨reached, old, held⟩ := standing_eq_file.mp file
        exact ⟨reached, by simp [held]⟩
    have grows := grows_put_file reached.2 (Utf8.encode content)
    have held := find?_put_same (isGround_of_find? reached.2) (.file (Utf8.encode content)) tree
    have stands := standing_eq_file.mpr ⟨grows.place reached.1, _, held⟩
    exact ⟨grows, fun rooted => rooted.put (rooted.dropLast_spelled reached.1) (.inr reached.2)
      (isGround_of_find? reached.2), fun place different => .inl (find?_put_of_ne different _ tree),
      by simp [IsSettled, stands], fun _ => ⟨stands, held⟩, by simp⟩
  · rw [not_or] at free
    obtain ⟨fault, failed⟩ := writeBytes_of_taken free.1 free.2 (Utf8.encode content)
    rw [change, failed]
    exact ⟨.refl tree, id, fun _ _ => .inl rfl, ⟨found, free.1⟩, by simp, fun _ _ => .refl tree⟩

/-- Writing to a file, whether it and its directory are there or not. -/
theorem written_write (path : Path) (content : Text) (tree : Tree) :
    Written tree path content (write path content tree).1 (write path content tree).2 := by
  rw [write_apply]
  have made := made_ensureDirectory path.parent tree
  revert made
  generalize ensureDirectory path.parent tree = outcome
  rintro ⟨furnishes, rooted, directory, obstacle⟩
  obtain ⟨result, between⟩ := outcome
  cases result with
  | error failure =>
    exact ⟨furnishes.grows, rooted, fun place _ => furnishes place,
      settled_of_parent (obstacle failure rfl), by simp, fun _ _ => furnishes⟩
  | ok answer =>
    have changed := written_change content (found_of_parent (directory rfl))
    refine ⟨furnishes.grows.trans changed.grows, changed.rooted ∘ rooted,
      fun place different => ?_, changed.settled,
      changed.written, fun failure failed => furnishes.trans (changed.failed failure failed)⟩
    rcases changed.frame place different with same | ⟨free, new⟩
    · dsimp only at same ⊢
      rw [same]
      exact furnishes place
    · rcases furnishes place with same | ⟨-, old⟩
      · exact .inr ⟨same ▸ free, new⟩
      · rw [old] at free
        simp at free

/-- A file that is there is written in its place. -/
theorem write_of_file (stands : tree.standing path = .file) (content : Text) :
    write path content tree =
      (.ok (), tree.put (spelled path) (.file (Utf8.encode content))) := by
  rw [write_apply, ensureDirectory_of_directory (standing_parent (.inr stands))]
  dsimp only
  rw [change, writeBytes_of_free (.inr stands)]

end Files

end GuidedMigration
