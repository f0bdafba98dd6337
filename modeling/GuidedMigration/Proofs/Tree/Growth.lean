/-
This file follows paths through trees that grow. A path is looked up by kinds alone: which places
hold a file and which a directory. When a tree grows, what stands somewhere keeps its kind; so a
path that led to a place still leads there, and one that ran into a file or met a name that is too
long still fails. Only a path that met nothing may lead somewhere later on.
-/
import GuidedMigration.Tree.Files

namespace GuidedMigration

namespace Tree

/-! ### What stands at a place -/

theorem lookup_putEntry_same (place : Path.Place) (node : Node)
    (entries : List (Path.Place × Node)) :
    (putEntry place node entries).lookup place = some node := by
  induction entries with
  | nil => simp [putEntry]
  | cons entry rest inductionHypothesis =>
    obtain ⟨other, old⟩ := entry
    rw [putEntry]
    split
    · exact List.lookup_cons_self
    · rename_i different
      rw [List.lookup_cons, beq_false_of_ne (Ne.symm different)]
      exact inductionHypothesis

theorem lookup_putEntry_of_ne {place other : Path.Place} (different : other ≠ place) (node : Node)
    (entries : List (Path.Place × Node)) :
    (putEntry place node entries).lookup other = entries.lookup other := by
  induction entries with
  | nil => rw [putEntry, List.lookup_cons, beq_false_of_ne different]
  | cons entry rest inductionHypothesis =>
    obtain ⟨held, old⟩ := entry
    rw [putEntry]
    split
    · rename_i same
      subst same
      rw [List.lookup_cons, List.lookup_cons, beq_false_of_ne different]
    · rw [List.lookup_cons, List.lookup_cons, inductionHypothesis]

theorem putEntry_of_lookup {place : Path.Place} {node : Node}
    {entries : List (Path.Place × Node)} (found : entries.lookup place = some node) :
    putEntry place node entries = entries := by
  induction entries with
  | nil => simp at found
  | cons entry rest inductionHypothesis =>
    obtain ⟨other, old⟩ := entry
    rw [putEntry]
    split
    · rename_i same
      subst same
      rw [List.lookup_cons_self] at found
      rw [Option.some.inj found]
    · rename_i different
      rw [List.lookup_cons, beq_false_of_ne (Ne.symm different)] at found
      rw [inductionHypothesis found]

/-- Whether a place always holds a directory: the root and the working directory. -/
def isGround (place : Path.Place) : Bool := place = [] || place = here

theorem find?_of_isGround {place : Path.Place} (ground : isGround place = true) (tree : Tree) :
    tree.find? place = some .directory := if_pos ground

theorem find?_of_not_isGround {place : Path.Place} (ground : isGround place = false) (tree : Tree) :
    tree.find? place = tree.entries.lookup place := by
  rw [find?, ← isGround, ground, if_neg Bool.false_ne_true]

theorem find?_put_same {place : Path.Place} (ground : isGround place = false) (node : Node)
    (tree : Tree) : (tree.put place node).find? place = some node := by
  rw [find?_of_not_isGround ground]
  exact lookup_putEntry_same place node tree.entries

theorem find?_put_of_ne {place other : Path.Place} (different : other ≠ place) (node : Node)
    (tree : Tree) : (tree.put place node).find? other = tree.find? other := by
  cases ground : isGround other with
  | true => rw [find?_of_isGround ground, find?_of_isGround ground]
  | false =>
    rw [find?_of_not_isGround ground, find?_of_not_isGround ground]
    exact lookup_putEntry_of_ne different node tree.entries

theorem isGround_of_find? {tree : Tree} {place : Path.Place}
    (notDirectory : tree.find? place ≠ some .directory) : isGround place = false := by
  cases ground : isGround place with
  | true => exact absurd (find?_of_isGround ground tree) notDirectory
  | false => rfl

/-- Writing to a file what it holds changes nothing. -/
theorem put_of_find? {tree : Tree} {place : Path.Place} {bytes : Utf8.Bytes}
    (found : tree.find? place = some (.file bytes)) : tree.put place (.file bytes) = tree := by
  have ground : isGround place = false := isGround_of_find? (by rw [found]; simp)
  rw [find?_of_not_isGround ground] at found
  rw [put, putEntry_of_lookup found]

/-! ### Kinds -/

/-- Whether it is a file that stands at a place; nothing if nothing does. -/
def kindAt? (tree : Tree) (place : Path.Place) : Option Bool :=
  (tree.find? place).map fun
    | .file _ => true
    | .directory => false

theorem kindAt?_eq_none {tree : Tree} {place : Path.Place} :
    tree.kindAt? place = none ↔ tree.find? place = none := Option.map_eq_none_iff

theorem kindAt?_eq_directory {tree : Tree} {place : Path.Place} :
    tree.kindAt? place = some false ↔ tree.find? place = some .directory := by
  rw [kindAt?]
  cases tree.find? place with
  | none => simp
  | some node => cases node <;> simp

theorem kindAt?_eq_file {tree : Tree} {place : Path.Place} :
    tree.kindAt? place = some true ↔ ∃ bytes, tree.find? place = some (.file bytes) := by
  rw [kindAt?]
  cases tree.find? place with
  | none => simp
  | some node => cases node <;> simp

/-- One step down a path, by the kind of what stands there. -/
theorem walk_cons (tree : Tree) (place : Path.Place) (part : Text) (rest : List Text) :
    tree.walk place (part :: rest) = match tree.kindAt? place with
      | none => .error .absent
      | some true => .error .notDirectory
      | some false =>
        if part = Path.up then tree.walk place.dropLast rest
        else if nameLimit < (Utf8.encode part).length then .error .nameTooLong
        else tree.walk (place ++ [part]) rest := by
  rw [walk, kindAt?]
  cases tree.find? place with
  | none => rfl
  | some node => cases node <;> rfl

theorem walk_append (tree : Tree) (place : Path.Place) (parts more : List Text) :
    tree.walk place (parts ++ more) = match tree.walk place parts with
      | .ok target => tree.walk target more
      | .error cause => .error cause := by
  induction parts generalizing place with
  | nil => rfl
  | cons part rest inductionHypothesis =>
    rw [List.cons_append, walk_cons, walk_cons]
    cases tree.kindAt? place with
    | none => rfl
    | some file =>
      cases file with
      | true => rfl
      | false =>
        dsimp only
        split
        · exact inductionHypothesis place.dropLast
        · split
          · rfl
          · exact inductionHypothesis (place ++ [part])

/-- A path leads to the place that it spells. -/
theorem walk_eq_follow {tree : Tree} {place target : Path.Place} {parts : List Text}
    (reached : tree.walk place parts = .ok target) : target = Path.follow place parts := by
  induction parts generalizing place with
  | nil => exact (Except.ok.inj reached).symm
  | cons part rest inductionHypothesis =>
    rw [walk_cons] at reached
    rw [Path.follow, List.foldl_cons]
    split at reached
    · simp at reached
    · simp at reached
    · split at reached
      · rename_i up
        rw [if_pos up]
        exact inductionHypothesis reached
      · rename_i up
        split at reached
        · simp at reached
        · rw [if_neg up]
          exact inductionHypothesis reached

/-! ### Growth -/

/-- A tree that has grown: what stood somewhere stands there still, as a file or as a directory. -/
def Grows (before after : Tree) : Prop :=
  ∀ place kind, before.kindAt? place = some kind → after.kindAt? place = some kind

theorem Grows.refl (tree : Tree) : tree.Grows tree := fun _ _ => id

theorem Grows.trans {first second third : Tree} (left : first.Grows second)
    (right : second.Grows third) : first.Grows third :=
  fun place kind stands => right place kind (left place kind stands)

/-- A path that led somewhere still leads there, and one that failed for another reason than that
something was missing still fails for that reason. -/
theorem Grows.walk {before after : Tree} (grows : before.Grows after) {place : Path.Place}
    {parts : List Text} (known : before.walk place parts ≠ .error .absent) :
    after.walk place parts = before.walk place parts := by
  induction parts generalizing place with
  | nil => rfl
  | cons part rest inductionHypothesis =>
    rw [walk_cons] at known
    rw [walk_cons, walk_cons]
    cases stands : before.kindAt? place with
    | none =>
      rw [stands] at known
      exact absurd rfl known
    | some kind =>
      rw [stands] at known
      rw [grows place kind stands]
      cases kind with
      | true => rfl
      | false =>
        dsimp only at known ⊢
        split at known
        · rename_i up
          rw [if_pos up, if_pos up]
          exact inductionHypothesis known
        · rename_i up
          rw [if_neg up, if_neg up]
          split at known
          · rename_i long
            rw [if_pos long, if_pos long]
          · rename_i short
            rw [if_neg short, if_neg short]
            exact inductionHypothesis known

/-! ### How a path stands -/

/-- How a path stands in a tree: a directory above it is missing, it is free, a directory or a file
stands there, or there is no way to it. -/
inductive Standing where
  | lost
  | vacant
  | directory
  | file
  | barred
  deriving DecidableEq

/-- How a path stands whose place has a kind. -/
def Standing.ofKind : Option Bool → Standing
  | none => .vacant
  | some false => .directory
  | some true => .file

theorem Standing.ofKind_inj {left right : Option Bool} (same : ofKind left = ofKind right) :
    left = right := by
  rcases left with _ | _ | _ <;> rcases right with _ | _ | _ <;> simp_all [ofKind]

/-- Where the walk along a path starts. -/
def start (path : Path) : Path.Place := if path.isAbsolute then [] else here

/-- The place that a path spells, seen from the working directory. -/
def spelled (path : Path) : Path.Place := path.placeFrom here

/-- Whether a path can stand at all: it has no null character and is not too long. -/
def isNamed (path : Path) : Bool :=
  !path.parts.any (·.contains '\x00') && (Utf8.encode path.toText).length < pathLimit

/-- How a path stands. -/
def standing (tree : Tree) (path : Path) : Standing :=
  if isNamed path then
    match tree.walk (start path) path.parts with
    | .ok target => .ofKind (tree.kindAt? target)
    | .error .absent => .lost
    | .error _ => .barred
  else .barred

theorem place_of_isNamed {path : Path} (named : isNamed path = true) (tree : Tree) :
    tree.place path = match tree.walk (start path) path.parts with
      | .ok target => .ok target
      | .error cause => .error (.system cause path.toText) := by
  rw [isNamed, Bool.and_eq_true, Bool.not_eq_true', decide_eq_true_eq] at named
  rw [place, named.1, if_neg Bool.false_ne_true, if_neg (by omega)]
  rfl

/-- A fault of another kind than that something is missing. -/
def IsLasting (fault : FileFault) : Prop := ∀ text, fault ≠ .system .absent text

theorem place_of_not_isNamed {path : Path} (unnamed : isNamed path = false) :
    ∃ fault, IsLasting fault ∧ ∀ tree : Tree, tree.place path = .error fault := by
  rw [isNamed, Bool.and_eq_false_iff, decide_eq_false_iff_not, Nat.not_lt] at unnamed
  by_cases null : path.parts.any (·.contains '\x00') = true
  · exact ⟨.nullCharacter, by simp [IsLasting], fun tree => by rw [place, if_pos null]⟩
  · have long : pathLimit ≤ (Utf8.encode path.toText).length :=
      unnamed.resolve_left (by simpa using null)
    exact ⟨.system .nameTooLong path.toText, by simp [IsLasting],
      fun tree => by rw [place, if_neg null, if_pos long]⟩

/-- What a path leads to is where the walk along it ends. -/
theorem walk_of_place {tree : Tree} {path : Path} {place : Path.Place}
    (reached : tree.place path = .ok place) :
    isNamed path = true ∧ tree.walk (start path) path.parts = .ok place := by
  cases named : isNamed path with
  | false =>
    obtain ⟨fault, -, failed⟩ := place_of_not_isNamed named
    rw [failed] at reached
    cases reached
  | true =>
    rw [place_of_isNamed named] at reached
    cases walked : tree.walk (start path) path.parts with
    | error cause =>
      rw [walked] at reached
      cases reached
    | ok target =>
      rw [walked] at reached
      exact ⟨rfl, congrArg _ (Except.ok.inj reached)⟩

theorem standing_of_not_isNamed {path : Path} (unnamed : isNamed path = false) (tree : Tree) :
    tree.standing path = .barred := by
  rw [standing, unnamed, if_neg Bool.false_ne_true]

theorem isNamed_of_standing {tree : Tree} {path : Path} (open' : tree.standing path ≠ .barred) :
    isNamed path = true := by
  cases named : isNamed path with
  | true => rfl
  | false => exact absurd (standing_of_not_isNamed named tree) open'

/-- A path stands as the place stands that it leads to. -/
theorem standing_eq_ofKind {tree : Tree} {path : Path} {kind : Option Bool} :
    tree.standing path = .ofKind kind ↔
      tree.place path = .ok (spelled path) ∧ tree.kindAt? (spelled path) = kind := by
  cases named : isNamed path with
  | false =>
    obtain ⟨fault, -, failed⟩ := place_of_not_isNamed named
    rw [standing_of_not_isNamed named, failed]
    rcases kind with _ | _ | _ <;> simp [Standing.ofKind]
  | true =>
    rw [standing, if_pos named, place_of_isNamed named]
    cases walked : tree.walk (start path) path.parts with
    | ok target =>
      obtain rfl : target = spelled path := walk_eq_follow walked
      simp only [true_and]
      exact ⟨Standing.ofKind_inj, congrArg _⟩
    | error cause =>
      cases cause <;> rcases kind with _ | _ | _ <;> simp [Standing.ofKind]

theorem standing_eq_vacant {tree : Tree} {path : Path} :
    tree.standing path = .vacant ↔
      tree.place path = .ok (spelled path) ∧ tree.find? (spelled path) = none := by
  rw [← kindAt?_eq_none]
  exact @standing_eq_ofKind tree path none

theorem standing_eq_directory {tree : Tree} {path : Path} :
    tree.standing path = .directory ↔
      tree.place path = .ok (spelled path) ∧ tree.find? (spelled path) = some .directory := by
  rw [← kindAt?_eq_directory]
  exact @standing_eq_ofKind tree path (some false)

theorem standing_eq_file {tree : Tree} {path : Path} :
    tree.standing path = .file ↔ tree.place path = .ok (spelled path) ∧
      ∃ bytes, tree.find? (spelled path) = some (.file bytes) := by
  rw [← kindAt?_eq_file]
  exact @standing_eq_ofKind tree path (some true)

theorem standing_of_walk {tree : Tree} {path : Path} {target : Path.Place}
    (named : isNamed path = true) (walked : tree.walk (start path) path.parts = .ok target) :
    tree.standing path = .ofKind (tree.kindAt? target) := by
  rw [standing, if_pos named, walked]

theorem standing_of_walk_error {tree : Tree} {path : Path} {cause : FileCause}
    (named : isNamed path = true) (walked : tree.walk (start path) path.parts = .error cause) :
    tree.standing path = if cause = .absent then .lost else .barred := by
  rw [standing, if_pos named, walked]
  cases cause <;> rfl

theorem ofKind_ne (kind : Option Bool) :
    Standing.ofKind kind ≠ .lost ∧ Standing.ofKind kind ≠ .barred := by
  rcases kind with _ | _ | _ <;> simp [Standing.ofKind]

theorem place_of_lost {tree : Tree} {path : Path} (stands : tree.standing path = .lost) :
    tree.place path = .error (.system .absent path.toText) := by
  have named : isNamed path = true := @isNamed_of_standing tree path (by rw [stands]; simp)
  rw [place_of_isNamed named]
  cases walked : tree.walk (start path) path.parts with
  | ok target =>
    rw [standing_of_walk named walked] at stands
    exact absurd stands (ofKind_ne _).1
  | error cause =>
    rw [standing_of_walk_error named walked] at stands
    split at stands
    · rename_i absent
      rw [absent]
    · simp at stands

theorem place_of_barred {tree : Tree} {path : Path} (stands : tree.standing path = .barred) :
    ∃ fault, IsLasting fault ∧ tree.place path = .error fault := by
  cases named : isNamed path with
  | false =>
    obtain ⟨fault, lasting, failed⟩ := place_of_not_isNamed named
    exact ⟨fault, lasting, failed tree⟩
  | true =>
    rw [place_of_isNamed named]
    cases walked : tree.walk (start path) path.parts with
    | ok target =>
      rw [standing_of_walk named walked] at stands
      exact absurd stands (ofKind_ne _).2
    | error cause =>
      rw [standing_of_walk_error named walked] at stands
      refine ⟨.system cause path.toText, fun text same => ?_, rfl⟩
      rw [if_pos (FileFault.system.inj same).1] at stands
      simp at stands

/-! ### Looking -/

theorem look_of_place {tree : Tree} {path : Path} {place : Path.Place}
    (reached : tree.place path = .ok place) : tree.look path = .ok (tree.find? place) := by
  rw [look, reached]

theorem look_of_lost {tree : Tree} {path : Path} (stands : tree.standing path = .lost) :
    tree.look path = .ok none := by
  rw [look, place_of_lost stands]

theorem look_of_barred {tree : Tree} {path : Path} (stands : tree.standing path = .barred) :
    tree.look path = .ok none ∨ ∃ fault, tree.look path = .error fault := by
  obtain ⟨fault, -, failed⟩ := place_of_barred stands
  rw [look, failed]
  split
  · rename_i reached
    simp at reached
  · exact .inr ⟨_, rfl⟩
  · exact .inl rfl

/-- What is found at a path stands there. -/
theorem standing_of_look {tree : Tree} {path : Path} {node : Node}
    (found : tree.look path = .ok (some node)) :
    tree.place path = .ok (spelled path) ∧ tree.find? (spelled path) = some node := by
  have reached : tree.place path = .ok (spelled path) := by
    cases stands : tree.standing path with
    | lost => simp [look_of_lost stands] at found
    | barred => rcases look_of_barred stands with none' | ⟨fault, failed⟩ <;> simp_all
    | vacant => exact (standing_eq_vacant.mp stands).1
    | directory => exact (standing_eq_directory.mp stands).1
    | file => exact (standing_eq_file.mp stands).1
  rw [look_of_place reached] at found
  exact ⟨reached, Except.ok.inj found⟩

/-! ### Standing in a tree that grows -/

/-- A path that has a place keeps it. -/
theorem Grows.place {before after : Tree} (grows : before.Grows after) {path : Path}
    {place : Path.Place} (reached : before.place path = .ok place) :
    after.place path = .ok place := by
  obtain ⟨named, walked⟩ := walk_of_place reached
  rw [place_of_isNamed named, grows.walk (by simp [walked]), walked]

/-- A path of which it is settled how it stands: something stands there, or nothing ever will. -/
def IsSettled (tree : Tree) (path : Path) : Prop :=
  tree.standing path ≠ .lost ∧ tree.standing path ≠ .vacant

/-- A path keeps its standing, unless nothing stood there and something may now. -/
theorem Grows.standing {before after : Tree} (grows : before.Grows after) {path : Path}
    (settled : before.IsSettled path) :
    after.standing path = before.standing path := by
  cases named : isNamed path with
  | false => rw [standing_of_not_isNamed named, standing_of_not_isNamed named]
  | true =>
    have known : before.walk (start path) path.parts ≠ .error .absent := by
      intro absent
      exact settled.1 (standing_of_walk_error named absent)
    have walked := grows.walk known
    cases reached : before.walk (start path) path.parts with
    | error cause =>
      rw [reached] at walked
      rw [standing_of_walk_error named reached, standing_of_walk_error named walked]
    | ok target =>
      rw [reached] at walked
      have stands := standing_of_walk named reached
      rw [stands, standing_of_walk named walked]
      cases kind : before.kindAt? target with
      | none =>
        rw [kind] at stands
        exact absurd stands settled.2
      | some kind' => rw [grows target kind' kind]

/-! ### A path and the one above it -/

/-- Joined parts get no longer when some are left out. -/
theorem length_joinWith_le {parts others : List Text} (within : parts.Sublist others) :
    (Utf8.encode (Text.joinWith ['/'] parts)).length ≤
      (Utf8.encode (Text.joinWith ['/'] others)).length := by
  have encoded (left right : Text) : (Utf8.encode (left ++ right)).length =
      (Utf8.encode left).length + (Utf8.encode right).length := by
    rw [Utf8.encode, List.flatMap_append, List.length_append]
    rfl
  induction within with
  | slnil => exact Nat.le_refl _
  | @cons parts others part within inductionHypothesis =>
    cases others with
    | nil =>
      rw [List.sublist_nil.mp within]
      exact Nat.zero_le _
    | cons next rest =>
      rw [Text.joinWith, encoded]
      omega
  | @cons_cons parts others part within inductionHypothesis =>
    cases parts with
    | nil =>
      cases others with
      | nil => exact Nat.le_refl _
      | cons next rest =>
        rw [Text.joinWith, Text.joinWith, encoded, encoded]
        omega
    | cons first parts =>
      cases others with
      | nil => cases within
      | cons next rest =>
        simp only [Text.joinWith, encoded]
        exact Nat.add_le_add_left inductionHypothesis _

/-- A path that can stand can stand without some of its parts. -/
theorem isNamed_of_sublist {root : Text} {parts others : List Text}
    (within : parts.Sublist others) (named : isNamed ⟨root, others⟩ = true) :
    isNamed ⟨root, parts⟩ = true := by
  rw [isNamed, Bool.and_eq_true, Bool.not_eq_true', decide_eq_true_eq, List.any_eq_false]
    at named ⊢
  refine ⟨fun part member => named.1 part (within.subset member), ?_⟩
  have short := named.2
  rw [Path.toText]
  split
  · decide
  · rename_i written
    have written' : ¬ (root.isEmpty && others.isEmpty) = true := by
      intro none'
      rw [Bool.and_eq_true, List.isEmpty_iff, List.isEmpty_iff] at none'
      obtain ⟨rfl, rfl⟩ := none'
      rw [List.sublist_nil.mp within] at written
      exact written rfl
    rw [Path.toText, if_neg written', Utf8.encode, List.flatMap_append, List.length_append] at short
    rw [Utf8.encode, List.flatMap_append, List.length_append]
    exact Nat.lt_of_le_of_lt (Nat.add_le_add_left (length_joinWith_le within) _) short

/-- What is above a path that can stand can stand. -/
theorem isNamed_above {root : Text} {parts : List Text} {part : Text}
    (named : isNamed ⟨root, parts ++ [part]⟩ = true) : isNamed ⟨root, parts⟩ = true :=
  isNamed_of_sublist (List.sublist_append_left parts [part]) named

/-- A path without parts starts where something is. -/
theorem standing_of_no_parts (tree : Tree) (root : Text) :
    tree.standing ⟨root, []⟩ = .directory ∨ tree.standing ⟨root, []⟩ = .barred := by
  cases named : isNamed ⟨root, []⟩ with
  | false => exact .inr (standing_of_not_isNamed named tree)
  | true =>
    have ground : isGround (start ⟨root, []⟩) = true := by
      rw [start]
      split <;> simp [isGround]
    rw [standing_of_walk named rfl, kindAt?_eq_directory.mpr (find?_of_isGround ground tree)]
    exact .inl rfl

/-- The walk to a path goes through the place of the path above it. -/
theorem walk_below (tree : Tree) (root : Text) (parts : List Text) (part : Text) :
    tree.walk (start ⟨root, parts ++ [part]⟩) (parts ++ [part]) =
      match tree.walk (start ⟨root, parts⟩) parts with
      | .ok target => tree.walk target [part]
      | .error cause => .error cause := walk_append tree _ parts [part]

theorem walk_part_of_directory {tree : Tree} {place : Path.Place}
    (stands : tree.kindAt? place = some false) (part : Text) :
    tree.walk place [part] ≠ .error .absent := by
  rw [walk_cons, stands]
  dsimp only
  split
  · simp [walk]
  · split
    · simp
    · simp [walk]

/-- What is below a directory is not lost. -/
theorem standing_below_directory {tree : Tree} {root : Text} {parts : List Text} (part : Text)
    (above : tree.standing ⟨root, parts⟩ = .directory) :
    tree.standing ⟨root, parts ++ [part]⟩ ≠ .lost := by
  cases named : isNamed ⟨root, parts ++ [part]⟩ with
  | false => simp [standing_of_not_isNamed named]
  | true =>
    have walked := walk_below tree root parts part
    cases reached : tree.walk (start ⟨root, parts⟩) parts with
    | error cause =>
      rw [standing_of_walk_error (isNamed_above named) reached] at above
      split at above <;> simp at above
    | ok target =>
      rw [standing_of_walk (isNamed_above named) reached] at above
      have stands : tree.kindAt? target = some false := Standing.ofKind_inj above
      rw [reached] at walked
      cases further : tree.walk target [part] with
      | ok place =>
        rw [standing_of_walk named (walked.trans further)]
        exact (ofKind_ne _).1
      | error cause =>
        rw [standing_of_walk_error named (walked.trans further), if_neg]
        · simp
        · rintro rfl
          exact walk_part_of_directory stands part further

/-- What is below a file, or below what there is no way to, there is no way to. -/
theorem standing_below_barred {tree : Tree} {root : Text} {parts : List Text} (part : Text)
    (above : tree.standing ⟨root, parts⟩ = .file ∨ tree.standing ⟨root, parts⟩ = .barred) :
    tree.standing ⟨root, parts ++ [part]⟩ = .barred := by
  cases named : isNamed ⟨root, parts ++ [part]⟩ with
  | false => exact standing_of_not_isNamed named tree
  | true =>
    have walked := walk_below tree root parts part
    cases reached : tree.walk (start ⟨root, parts⟩) parts with
    | error cause =>
      rw [standing_of_walk_error (isNamed_above named) reached] at above
      rw [reached] at walked
      rw [standing_of_walk_error named walked]
      split at above
      · simp at above
      · rename_i other
        rw [if_neg other]
    | ok target =>
      rw [standing_of_walk (isNamed_above named) reached] at above
      have stands : tree.kindAt? target = some true := by
        rcases above with file | barred
        · exact Standing.ofKind_inj file
        · exact absurd barred (ofKind_ne _).2
      rw [reached] at walked
      dsimp only at walked
      rw [walk_cons, stands] at walked
      exact standing_of_walk_error named walked

/-- What has a place stands in a directory. -/
theorem standing_above {tree : Tree} {root : Text} {parts : List Text} {part : Text}
    (found : tree.standing ⟨root, parts ++ [part]⟩ ≠ .lost)
    (open' : tree.standing ⟨root, parts ++ [part]⟩ ≠ .barred) :
    tree.standing ⟨root, parts⟩ = .directory := by
  have named := isNamed_of_standing open'
  have walked := walk_below tree root parts part
  cases whole : tree.walk (start ⟨root, parts ++ [part]⟩) (parts ++ [part]) with
  | error cause =>
    rw [standing_of_walk_error named whole] at found open'
    split at found
    · exact absurd rfl found
    · rename_i other
      rw [if_neg other] at open'
      exact absurd rfl open'
  | ok place =>
    rw [whole] at walked
    cases reached : tree.walk (start ⟨root, parts⟩) parts with
    | error cause => simp [reached] at walked
    | ok target =>
      rw [reached] at walked
      dsimp only at walked
      rw [walk_cons] at walked
      rw [standing_of_walk (isNamed_above named) reached]
      split at walked
      · simp at walked
      · simp at walked
      · rename_i stands
        rw [stands]
        rfl

theorem parent_eq (root : Text) (above : List Text) (last : Text) :
    Path.parent ⟨root, above ++ [last]⟩ = ⟨root, above⟩ := by
  rw [Path.parent, List.dropLast_concat]

/-- A path whose directory is there is not lost. -/
theorem found_of_parent {tree : Tree} {path : Path}
    (directory : tree.standing path.parent = .directory) : tree.standing path ≠ .lost := by
  obtain ⟨root, parts⟩ := path
  rcases List.eq_nil_or_concat parts with rfl | ⟨above, last, rfl⟩
  · rw [Path.parent, List.dropLast_nil] at directory
    simp [directory]
  · rw [List.concat_eq_append] at directory ⊢
    rw [parent_eq] at directory
    exact standing_below_directory last directory

/-- A path whose directory can never be there is settled. -/
theorem settled_of_parent {tree : Tree} {path : Path}
    (obstacle : tree.standing path.parent = .file ∨ tree.standing path.parent = .barred) :
    tree.IsSettled path := by
  obtain ⟨root, parts⟩ := path
  rcases List.eq_nil_or_concat parts with rfl | ⟨above, last, rfl⟩
  · rw [Path.parent, List.dropLast_nil] at obstacle
    rcases obstacle with stands | stands <;> simp [IsSettled, stands]
  · rw [List.concat_eq_append] at obstacle ⊢
    rw [parent_eq] at obstacle
    simp [IsSettled, standing_below_barred last obstacle]

/-- A file stands in a directory, or could. -/
theorem standing_parent {tree : Tree} {path : Path}
    (free : tree.standing path = .vacant ∨ tree.standing path = .file) :
    tree.standing path.parent = .directory := by
  obtain ⟨root, parts⟩ := path
  rcases List.eq_nil_or_concat parts with rfl | ⟨above, last, rfl⟩
  · rcases standing_of_no_parts tree root with directory | barred
    · simp [directory] at free
    · simp [barred] at free
  · rw [List.concat_eq_append] at free ⊢
    rw [parent_eq]
    exact @standing_above tree root above last (by rcases free with free | free <;> simp [free])
      (by rcases free with free | free <;> simp [free])

end Tree

end GuidedMigration
