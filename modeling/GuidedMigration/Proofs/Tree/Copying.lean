/-
This file shows that a copy stays where it should. What is copied into a directory is written at or
below it: the names in a sound tree do not lead up, and a file is never called by a path that ends
in two dots. And a copy between paths without null characters fails in ways only from which one
recovers.
-/
import GuidedMigration.Proofs.Tree.Evolution
import GuidedMigration.Target.Copy

namespace GuidedMigration

/-- Whether a result is a failure that no instruction recovers from. -/
def escapes {Answer : Type} : Except Failure Answer → Bool
  | .ok _ => false
  | .error failure => !failure.isRecoverable

namespace Tree

/-- Whether a path has no null character. -/
def isNullFree (path : Path) : Bool := !path.parts.any (·.contains '\x00')

theorem isNullFree_iff {path : Path} :
    isNullFree path = true ↔ ∀ part ∈ path.parts, part.contains '\x00' = false := by
  simp [isNullFree]

/-- A path with a null character leads nowhere. -/
theorem place_of_null {path : Path} (null : isNullFree path = false) (tree : Tree) :
    tree.place path = .error .nullCharacter := by
  rw [isNullFree, Bool.not_eq_false'] at null
  rw [place, if_pos null]

theorem exists?_of_null {path : Path} (null : isNullFree path = false) (tree : Tree) :
    tree.exists? path = .ok false := by
  rw [exists?, look, place_of_null null]
  rfl

theorem isSystem_of_place {tree : Tree} {path : Path} (nullFree : isNullFree path = true)
    {fault : FileFault} (failed : tree.place path = .error fault) : fault.isSystem = true := by
  rw [isNullFree, Bool.not_eq_true'] at nullFree
  rw [place, nullFree, if_neg Bool.false_ne_true] at failed
  split at failed
  · rw [← Except.error.inj failed]
    rfl
  · split at failed
    · simp at failed
    · rw [← Except.error.inj failed]
      rfl

theorem isSystem_of_look {tree : Tree} {path : Path} {fault : FileFault}
    (failed : tree.look path = .error fault) : fault.isSystem = true := by
  rw [look] at failed
  split at failed
  · simp at failed
  · rw [← Except.error.inj failed]
    rfl
  · simp at failed

theorem isSystem_of_map_look {Answer : Type} {tree : Tree} {path : Path}
    {reading : Option Node → Answer} {fault : FileFault}
    (failed : (tree.look path).map reading = .error fault) : fault.isSystem = true := by
  cases found : tree.look path with
  | ok node => simp [found, Except.map] at failed
  | error other =>
    rw [found] at failed
    exact Except.error.inj failed ▸ isSystem_of_look found

end Tree

namespace Files

open GuidedMigration.Tree

variable {allowed : Path.Place → Prop} {First Second Answer : Type}

/-- A failure that is caught. -/
theorem tryCatch_apply (action : Files Answer) (handler : Failure → Files Answer) (tree : Tree) :
    (tryCatch action handler : Files Answer) tree = match action tree with
      | (.ok answer, after) => (.ok answer, after)
      | (.error failure, after) => handler failure after := by
  simp only [tryCatch, tryCatchThe, MonadExceptOf.tryCatch, ExceptT.tryCatch, ExceptT.mk,
    Bind.bind, StateT.bind]
  obtain ⟨result, after⟩ := action tree
  cases result <;> rfl

/-! ### Actions that behave -/

/-- What an action leaves that behaves: no files but at allowed places, and no failure from which
nothing recovers. -/
structure Behaved (allowed : Path.Place → Prop) (before : Tree) (result : Except Failure Answer)
    (after : Tree) : Prop where
  evolves : Evolves allowed before after
  recovers : escapes result = false

/-- Whether an action behaves on every sound tree. -/
def Behaves (allowed : Path.Place → Prop) (action : Files Answer) : Prop :=
  ∀ tree, tree.IsSound → Behaved allowed tree (action tree).1 (action tree).2

namespace Behaves

/-- An action that is followed by another one, which may rely on what the first one answers. -/
theorem bindWith {action : Files First} {next : First → Files Second} (holds : First → Prop)
    (behaves : Behaves allowed action)
    (answers : ∀ tree, tree.IsSound → ∀ answer, (action tree).1 = .ok answer → holds answer)
    (further : ∀ answer, holds answer → Behaves allowed (next answer)) :
    Behaves allowed (action >>= next) := by
  intro tree sound
  have behaved := behaves tree sound
  have holds := answers tree sound
  rw [bind_apply]
  cases outcome : action tree with
  | mk result after =>
    rw [outcome] at behaved holds
    cases result with
    | ok answer =>
      have behaved' := further answer (holds answer rfl) after (behaved.evolves.sound sound)
      exact ⟨behaved.evolves.trans behaved'.evolves, behaved'.recovers⟩
    | error failure => exact ⟨behaved.evolves, behaved.recovers⟩

theorem bind {action : Files First} {next : First → Files Second} (behaves : Behaves allowed action)
    (further : ∀ answer, Behaves allowed (next answer)) : Behaves allowed (action >>= next) :=
  behaves.bindWith (fun _ => True) (fun _ _ _ _ => trivial) fun answer _ => further answer

theorem pure (answer : Answer) : Behaves allowed (Pure.pure answer) :=
  fun _ _ => ⟨.refl, rfl⟩

theorem throw {failure : Failure} (recoverable : failure.isRecoverable = true) :
    Behaves allowed (throw failure : Files Answer) :=
  fun _ _ => ⟨.refl, congrArg Bool.not recoverable⟩

theorem ask {question : Tree → Except FileFault Answer}
    (system : ∀ tree fault, question tree = .error fault → fault.isSystem = true) :
    Behaves allowed (Files.ask question) := by
  intro tree _
  rw [Files.ask]
  cases answered : question tree with
  | ok answer => exact ⟨.refl, rfl⟩
  | error fault => exact ⟨.refl, congrArg Bool.not (system tree fault answered)⟩

/-- A failure that is caught behaves as what is done about it. -/
theorem tryCatch {action : Files Answer} {handler : Failure → Files Answer}
    (behaves : Behaves allowed action)
    (handled : ∀ failure, failure.isRecoverable = true → Behaves allowed (handler failure)) :
    Behaves allowed (tryCatch action handler) := by
  intro tree sound
  have behaved := behaves tree sound
  rw [tryCatch_apply]
  cases outcome : action tree with
  | mk result after =>
    rw [outcome] at behaved
    cases result with
    | ok answer => exact behaved
    | error failure =>
      have recoverable : failure.isRecoverable = true := by
        simpa [escapes] using behaved.recovers
      have behaved' := handled failure recoverable after (behaved.evolves.sound sound)
      exact ⟨behaved.evolves.trans behaved'.evolves, behaved'.recovers⟩

end Behaves

/-! ### Looking and reading -/

variable {path source destination : Path}

theorem behaves_look (path : Path) (reading : Option Node → Answer) :
    Behaves allowed (ask fun tree => (tree.look path).map reading) :=
  .ask fun _ _ => isSystem_of_map_look

theorem behaves_bytes (nullFree : isNullFree path = true) : Behaves allowed (bytes path) := by
  refine .ask fun tree fault failed => ?_
  rw [Tree.bytes] at failed
  cases reached : tree.place path with
  | error other =>
    rw [reached] at failed
    exact Except.error.inj failed ▸ isSystem_of_place nullFree reached
  | ok place =>
    simp only [reached, bind, Except.bind] at failed
    split at failed
    · simp at failed
    · exact Except.error.inj failed ▸ rfl
    · exact Except.error.inj failed ▸ rfl

/-! ### Directories -/

theorem behaves_ensureOne (nullFree : isNullFree path = true) :
    Behaves allowed (ensureOne path) := by
  intro tree sound
  refine ⟨evolves_ensureOne path tree, ?_⟩
  rw [ensureOne]
  cases made : tree.makeDirectory path with
  | ok after => rfl
  | error fault =>
    have system : fault.isSystem = true := by
      rw [makeDirectory] at made
      cases reached : tree.place path with
      | error other =>
        rw [reached] at made
        exact Except.error.inj made ▸ isSystem_of_place nullFree reached
      | ok place =>
        simp only [reached, bind, Except.bind] at made
        split at made
        · exact Except.error.inj made ▸ rfl
        · simp at made
    dsimp only
    split
    · rfl
    · exact congrArg Bool.not system

theorem isNullFree_append {part : Text} (nullFree : isNullFree path = true)
    (free : part.contains '\x00' = false) :
    isNullFree { path with parts := path.parts ++ [part] } = true := by
  refine isNullFree_iff.mpr fun other member => ?_
  rcases List.mem_append.mp member with before | own
  · exact isNullFree_iff.mp nullFree other before
  · rw [List.mem_singleton.mp own, free]

theorem isNullFree_parent (nullFree : isNullFree path = true) :
    isNullFree path.parent = true :=
  isNullFree_iff.mpr fun part member =>
    isNullFree_iff.mp nullFree part (List.dropLast_subset _ member)

theorem isNullFree_above {root : Text} {parts : List Text} {part : Text}
    (nullFree : isNullFree ⟨root, parts ++ [part]⟩ = true) : isNullFree ⟨root, parts⟩ = true :=
  isNullFree_iff.mpr fun other member =>
    isNullFree_iff.mp nullFree other (List.mem_append_left _ member)

theorem behaves_ensureFrom {root : Text} {parts : List Text}
    (nullFree : isNullFree ⟨root, parts.reverse⟩ = true) :
    Behaves allowed (ensureFrom root parts) := by
  induction parts with
  | nil => exact behaves_ensureOne nullFree
  | cons last above inductionHypothesis =>
    rw [List.reverse_cons] at nullFree
    have own : Behaves allowed (ensureOne ⟨root, above.reverse ++ [last]⟩) :=
      behaves_ensureOne nullFree
    have both := (inductionHypothesis (isNullFree_above nullFree)).bind fun _ => own
    intro tree sound
    by_cases lost : tree.standing ⟨root, above.reverse ++ [last]⟩ = .lost
    · have same : ensureFrom root (last :: above) tree =
          (ensureFrom root above >>= fun _ => ensureOne ⟨root, above.reverse ++ [last]⟩) tree := by
        rw [ensureFrom_of_lost lost, bind_apply]
        obtain ⟨result, after⟩ := ensureFrom root above tree
        cases result <;> rfl
      rw [same]
      exact both tree sound
    · rw [ensureFrom_of_not_lost lost]
      exact own tree sound

theorem behaves_ensureDirectory (nullFree : isNullFree path = true) :
    Behaves allowed (ensureDirectory path) := by
  refine behaves_ensureFrom ?_
  rwa [List.reverse_reverse]

theorem behaves_writeBytes (nullFree : isNullFree path = true) (inside : allowed (spelled path))
    (bytes : Utf8.Bytes) : Behaves allowed (change (·.writeBytes path bytes)) := by
  intro tree _
  refine ⟨evolves_writeBytes inside bytes tree, ?_⟩
  rw [change]
  cases written : tree.writeBytes path bytes with
  | ok after => rfl
  | error fault =>
    have system : fault.isSystem = true := by
      rw [writeBytes] at written
      cases reached : tree.place path with
      | error other =>
        rw [reached] at written
        exact Except.error.inj written ▸ isSystem_of_place nullFree reached
      | ok place =>
        simp only [reached, bind, Except.bind] at written
        split at written
        · exact Except.error.inj written ▸ rfl
        · simp at written
    exact congrArg Bool.not system

theorem behaves_write (nullFree : isNullFree path = true) (inside : allowed (spelled path))
    (content : Text) : Behaves allowed (write path content) :=
  (behaves_ensureDirectory (isNullFree_parent nullFree)).bind fun _ =>
    behaves_writeBytes nullFree inside _

theorem behaves_stands (path : Path) : Behaves allowed (stands path) :=
  fun _ _ => ⟨.refl, rfl⟩

theorem behaves_makeAllFrom {root : Text} {parts : List Text}
    (nullFree : isNullFree ⟨root, parts.reverse⟩ = true) :
    Behaves allowed (makeAllFrom root parts) := by
  induction parts with
  | nil => exact behaves_ensureOne nullFree
  | cons last above inductionHypothesis =>
    have own : Behaves allowed (ensureOne ⟨root, (last :: above).reverse⟩) :=
      behaves_ensureOne nullFree
    rw [List.reverse_cons] at nullFree
    have outer := inductionHypothesis (isNullFree_above nullFree)
    unfold makeAllFrom
    dsimp only
    split
    · refine (behaves_stands _).bind fun there => ?_
      split
      · refine Behaves.bind (outer.tryCatch fun failure recoverable => ?_) fun _ => own
        split
        · exact .pure ()
        · exact .throw recoverable
      · exact own
    · exact own

/-! ### Copies of one file -/

/-- The last part of a path, if it has one. -/
theorem parts_eq_of_name {path : Path} (parts : path.parts ≠ []) :
    path.parts = path.parts.dropLast ++ [path.name] := by
  rw [Path.name, List.getLast?_eq_some_getLast parts, Option.getD_some,
    List.dropLast_concat_getLast parts]

theorem isNullFree_name {path : Path} (nullFree : isNullFree path = true) :
    path.name.contains '\x00' = false := by
  rw [Path.name]
  cases found : path.parts.getLast? with
  | none => rfl
  | some last => exact isNullFree_iff.mp nullFree last (List.mem_of_getLast? found)

/-- A path to a file does not end by leading up. -/
theorem name_ne_up_of_file {tree : Tree} (rooted : tree.IsRooted)
    (file : tree.standing path = .file) : path.name ≠ Path.up := by
  intro up
  have parts : path.parts ≠ [] := by
    intro none'
    rw [Path.name, none'] at up
    simp [Path.up] at up
  obtain ⟨reached, bytes, held⟩ := standing_eq_file.mp file
  have named : isNamed path = true := @isNamed_of_standing tree path (by simp [file])
  rw [place_of_isNamed named, parts_eq_of_name parts, walk_append, up] at reached
  cases above : tree.walk (start path) path.parts.dropLast with
  | error cause => simp [above] at reached
  | ok target =>
    simp only [above, walk_cons, if_true] at reached
    cases kind : tree.kindAt? target with
    | none => simp [kind] at reached
    | some isFile =>
      cases isFile with
      | true => simp [kind] at reached
      | false =>
        simp only [kind, walk, Except.ok.injEq] at reached
        rw [← reached, rooted target (by simp [kindAt?_eq_directory.mp kind])] at held
        simp at held

/-- A path that goes on below a directory leads below its place. -/
theorem spelled_append (path : Path) (name : Text) (level : name ≠ Path.up) :
    spelled { path with parts := path.parts ++ [name] } = spelled path ++ [name] := by
  rw [spelled, Path.placeFrom, Path.follow, List.foldl_append, List.foldl_cons, if_neg level]
  rfl

theorem behaves_isSame (source destination : Path) : Behaves allowed (isSame source destination) :=
  fun _ _ => ⟨.refl, rfl⟩

/-- Places at or below one. -/
def IsAtOrBelow (root place : Path.Place) : Prop := root <+: place

instance (root place : Path.Place) : Decidable (IsAtOrBelow root place) :=
  inferInstanceAs (Decidable (root <+: place))

/-- The copy of one file to the path where it goes. -/
def copyOnto (label : Path → Path → Text × Text) (source target : Path) : Files Unit := do
  if ← isSame source target then
    let (left, right) := label source target
    throw (.file (.sameFile left right))
  let content ← bytes source
  change (·.writeBytes target content)

variable {root : Path.Place} {label : Path → Path → Text × Text}

theorem behaves_copyOnto (sourceFree : isNullFree source = true)
    (targetFree : isNullFree destination = true) (inside : allowed (spelled destination)) :
    Behaves allowed (copyOnto label source destination) := by
  refine (behaves_isSame source destination).bind fun same => ?_
  have copies : Behaves allowed (bytes source >>= fun content =>
      change (·.writeBytes destination content)) :=
    (behaves_bytes sourceFree).bind fun content => behaves_writeBytes targetFree inside content
  split
  · exact Behaves.bind (.throw rfl) fun _ => copies
  · exact copies

theorem standing_of_bytes {tree : Tree} {content : Utf8.Bytes}
    (read : tree.bytes path = .ok content) : tree.standing path = .file := by
  rw [Tree.bytes] at read
  cases reached : tree.place path with
  | error fault => simp [reached, Bind.bind, Except.bind] at read
  | ok place =>
    simp only [reached, Bind.bind, Except.bind] at read
    have found := look_of_place reached
    split at read
    · rename_i held
      rw [held] at found
      obtain ⟨reached, held⟩ := standing_of_look found
      exact standing_eq_file.mpr ⟨reached, _, held⟩
    · simp at read
    · simp at read

/-- What is no file is not copied as one. -/
theorem copyOnto_of_not_file {tree : Tree} (other : tree.standing source ≠ .file) :
    (copyOnto label source destination tree).2 = tree := by
  have unread : ((bytes source >>= fun content =>
      change (·.writeBytes destination content)) tree).2 = tree := by
    rw [bind_apply, bytes, ask]
    cases read : tree.bytes source with
    | ok content => exact absurd (standing_of_bytes read) other
    | error fault => rfl
  obtain ⟨same, answered⟩ : ∃ same, isSame source destination tree = (.ok same, tree) := ⟨_, rfl⟩
  rw [copyOnto, bind_apply, answered]
  cases same with
  | true => rfl
  | false => exact unread

/-- A file is copied to a path, or below it under its own name. -/
theorem behaves_copyFile (sourceFree : isNullFree source = true)
    (targetFree : isNullFree destination = true)
    (inside : IsAtOrBelow root (spelled destination)) :
    Behaves (IsAtOrBelow root) (copyFile label source destination) := by
  have split : copyFile label source destination =
      copyTarget source destination >>= copyOnto label source := rfl
  have below := isNullFree_append targetFree (isNullFree_name sourceFree)
  rw [split, copyTarget, bind_assoc]
  refine (behaves_look destination _).bind fun there => ?_
  cases there with
  | false => exact behaves_copyOnto sourceFree targetFree inside
  | true =>
    intro tree sound
    rw [if_pos rfl, pure_bind]
    by_cases file : tree.standing source = .file
    · refine behaves_copyOnto sourceFree below ?_ tree sound
      rw [spelled_append destination source.name (name_ne_up_of_file sound.rooted file)]
      exact inside.trans (List.prefix_append _ _)
    · have anywhere := @behaves_copyOnto (fun _ => True) _ _ label sourceFree below trivial
      rw [copyOnto_of_not_file file]
      exact ⟨.refl, (anywhere tree sound).recovers⟩

/-! ### Copies of directories -/

theorem find?_of_mem_entries {tree : Tree} {entry : Path.Place × Node}
    (member : entry ∈ tree.entries) : tree.find? entry.1 ≠ none := by
  cases ground : isGround entry.1 with
  | true => simp [find?_of_isGround ground]
  | false =>
    rw [find?_of_not_isGround ground]
    intro missing
    simpa using List.lookup_eq_none_iff.mp missing entry member

theorem behaves_attempt {copy : Files Unit} (behaves : Behaves allowed copy) :
    Behaves allowed (attempt source destination copy) := by
  refine Behaves.tryCatch (behaves.bind fun _ => .pure []) fun failure recoverable => ?_
  split
  · exact .pure _
  · exact .pure _
  · exact .pure _
  · exact .throw recoverable

theorem behaves_namesIn (nullFree : isNullFree path = true) : Behaves allowed (namesIn path) := by
  intro tree _
  rw [namesIn]
  cases reached : tree.place path with
  | error fault => exact ⟨.refl, congrArg Bool.not (isSystem_of_place nullFree reached)⟩
  | ok place => dsimp only; split <;> exact ⟨.refl, rfl⟩

/-- The names in a directory of a sound tree are names. -/
theorem isName_of_namesIn {tree : Tree} (sound : tree.IsSound) {names : List Text}
    (listed : (namesIn path tree).1 = .ok names) : ∀ name ∈ names, isName name = true := by
  have known : ∀ place, ∀ name ∈ tree.names place, isName name = true := by
    intro place name member
    obtain ⟨⟨other, node⟩, entry, found⟩ := List.mem_filterMap.mp member
    rw [Option.ite_none_right_eq_some] at found
    refine sound.named other ?_ name (List.mem_of_getLast? found.2)
    exact find?_of_mem_entries entry
  rw [namesIn] at listed
  cases reached : tree.place path with
  | error fault => simp [reached] at listed
  | ok place =>
    rw [reached] at listed
    dsimp only at listed
    split at listed
    · exact Except.ok.inj listed ▸ known place
    · simp at listed
    · simp at listed

/-- The copy of one entry of a directory. -/
def copyEntry (copyInner : Path → Path → Files Unit) (left right : Path) : Files Unit := do
  if ← isDirectory? left then copyInner left right else copyFile entryLabel left right

theorem behaves_copyEntry {copyInner : Path → Path → Files Unit}
    (inner : ∀ source destination, isNullFree source = true → isNullFree destination = true →
      IsAtOrBelow root (spelled destination) → Behaves (IsAtOrBelow root)
        (copyInner source destination))
    (sourceFree : isNullFree source = true) (targetFree : isNullFree destination = true)
    (inside : IsAtOrBelow root (spelled destination)) {name : Text} (named : isName name = true) :
    Behaves (IsAtOrBelow root) (copyEntry copyInner
      { source with parts := source.parts ++ [name] }
      { destination with parts := destination.parts ++ [name] }) := by
  obtain ⟨level, free⟩ : name ≠ Path.up ∧ name.contains '\x00' = false := by
    simpa [isName] using named
  have left := isNullFree_append sourceFree free
  have right := isNullFree_append targetFree free
  have below : IsAtOrBelow root
      (spelled { destination with parts := destination.parts ++ [name] }) := by
    rw [spelled_append destination name level]
    exact inside.trans (List.prefix_append _ _)
  refine (behaves_look _ _).bind fun directory => ?_
  split
  · exact inner _ _ left right below
  · exact behaves_copyFile left right below

theorem copyEntries_cons (copyInner : Path → Path → Files Unit) (source destination : Path)
    (name : Text) (names : List Text) :
    copyEntries copyInner source destination (name :: names) =
      attempt { source with parts := source.parts ++ [name] }
        { destination with parts := destination.parts ++ [name] }
        (copyEntry copyInner { source with parts := source.parts ++ [name] }
          { destination with parts := destination.parts ++ [name] }) >>= fun failed =>
        copyEntries copyInner source destination names >>= fun others =>
          pure (failed ++ others) := rfl

theorem behaves_copyEntries {copyInner : Path → Path → Files Unit}
    (inner : ∀ source destination, isNullFree source = true → isNullFree destination = true →
      IsAtOrBelow root (spelled destination) → Behaves (IsAtOrBelow root)
        (copyInner source destination))
    (sourceFree : isNullFree source = true) (targetFree : isNullFree destination = true)
    (inside : IsAtOrBelow root (spelled destination)) {names : List Text}
    (named : ∀ name ∈ names, isName name = true) :
    Behaves (IsAtOrBelow root) (copyEntries copyInner source destination names) := by
  induction names with
  | nil => exact .pure []
  | cons name names inductionHypothesis =>
    have further := inductionHypothesis fun other member =>
      named other (List.mem_cons_of_mem _ member)
    have copies := behaves_copyEntry inner sourceFree targetFree inside
      (named name List.mem_cons_self)
    exact (behaves_attempt copies).bind fun failed => further.bind fun others => .pure _

theorem behaves_copyDirectory (excluded : List Text) (depth : Nat)
    (sourceFree : isNullFree source = true) (targetFree : isNullFree destination = true)
    (inside : IsAtOrBelow root (spelled destination)) :
    Behaves (IsAtOrBelow root) (copyDirectory excluded depth source destination) := by
  induction depth generalizing source destination with
  | zero => exact .pure ()
  | succ depth inductionHypothesis =>
    rw [copyDirectory]
    refine (behaves_namesIn sourceFree).bindWith (∀ name ∈ ·, isName name = true)
      (fun tree sound names listed => isName_of_namesIn sound listed) fun names named => ?_
    refine Behaves.bind (behaves_makeAllFrom ?_) fun _ => Behaves.bind (behaves_copyEntries
      (fun source destination => inductionHypothesis) sourceFree targetFree inside
      fun name member => named name ((List.mem_filter.mp member).1)) fun failed => ?_
    · rwa [List.reverse_reverse]
    · split
      · exact .throw rfl
      · exact .pure ()

theorem behaves_copy (excluded : List Text) (sourceFree : isNullFree source = true)
    (targetFree : isNullFree destination = true)
    (inside : IsAtOrBelow root (spelled destination)) :
    Behaves (IsAtOrBelow root) (copy excluded source destination) := by
  rw [copy]
  refine (behaves_look source _).bind fun directory => ?_
  split
  · refine Behaves.bind (.ask fun tree fault failed => ?_) fun depth =>
      behaves_copyDirectory excluded depth sourceFree targetFree inside
    simp at failed
  · exact Behaves.bind (behaves_ensureDirectory (isNullFree_parent targetFree)) fun _ =>
      behaves_copyFile sourceFree targetFree inside

end Files

/-! ### Copies into the destination -/

namespace Target

open GuidedMigration.Tree Files

variable {source destination : Path} {allowed : Path.Place → Prop}

theorem behaves_digest (nullFree : isNullFree source = true) : Behaves allowed (digest source) :=
  (behaves_bytes nullFree).bind fun _ => .pure _

theorem behaves_isSameFile (sourceFree : isNullFree source = true)
    (targetFree : isNullFree destination = true) :
    Behaves allowed (isSameFile source destination) := by
  refine (behaves_look destination _).bind fun there => ?_
  split
  · exact (behaves_digest sourceFree).bind fun left =>
      (behaves_digest targetFree).bind fun right => .pure _
  · exact .pure false

theorem exists?_of_answer {tree : Tree} {answer : Bool}
    (answered : (Files.exists? source tree).1 = .ok answer) :
    tree.exists? source = .ok answer := by
  rw [Files.exists?, Files.ask] at answered
  cases found : tree.exists? source with
  | ok other => simpa [found] using answered
  | error fault => simp [found] at answered

theorem isNullFree_of_exists? {tree : Tree} (there : tree.exists? source = .ok true) :
    isNullFree source = true := by
  cases free : isNullFree source with
  | true => rfl
  | false => simp [exists?_of_null free] at there

theorem isAtOrBelow_of_staysInside {root path : Path} (stays : staysInside root path = true) :
    isNullFree path = true ∧ IsAtOrBelow (spelled root) (spelled path) := by
  rw [staysInside, Bool.and_eq_true, Bool.not_eq_true', List.any_append, Bool.or_eq_false_iff]
    at stays
  exact ⟨by rw [isNullFree, stays.1.1, Bool.not_false], List.isPrefixOf_iff_prefix.mp stays.2⟩

/-- A copy writes at or below the path that it goes to, and a failed one leaves a warning. -/
theorem behaves_copyPath_at (sourceRoot destinationRoot : Path) (rules : CopyRules)
    (source destination : Text) :
    Behaves (IsAtOrBelow (spelled (destinationRoot.child destination)))
      (copyPath sourceRoot destinationRoot rules source destination) := by
  unfold copyPath
  dsimp only
  cases stays : staysInside destinationRoot (destinationRoot.child destination) with
  | false => exact fun tree _ => ⟨.refl, rfl⟩
  | true =>
    obtain ⟨targetFree, -⟩ := isAtOrBelow_of_staysInside stays
    rw [Bool.not_true, if_neg Bool.false_ne_true]
    refine (behaves_look (sourceRoot.child source) Option.isSome).bindWith
      (fun there => there = true → isNullFree (sourceRoot.child source) = true)
      (fun tree _ answer answered there => ?_) fun there free => ?_
    · exact isNullFree_of_exists? (there ▸ exists?_of_answer answered)
    · cases there with
      | false =>
        rw [Bool.not_false, if_pos rfl]
        split
        · exact .pure _
        · exact fun tree _ => ⟨.refl, rfl⟩
      | true =>
        have sourceFree := free rfl
        rw [Bool.not_true, if_neg Bool.false_ne_true]
        refine (behaves_look _ _).bind fun directory => ?_
        have copies := fun (outcome : Outcome) => (behaves_copy rules.excluded sourceFree targetFree
          List.prefix_rfl).bind fun _ => Behaves.pure outcome
        split
        · refine (behaves_isSameFile sourceFree targetFree).bind fun same => ?_
          split
          · exact .pure _
          · exact copies _
        · exact copies _

/-- A copy writes at or below the destination, and a failed one leaves a warning. -/
theorem behaves_copyPath (sourceRoot destinationRoot : Path) (rules : CopyRules)
    (source destination : Text) :
    Behaves (IsAtOrBelow (spelled destinationRoot))
      (copyPath sourceRoot destinationRoot rules source destination) := by
  cases stays : staysInside destinationRoot (destinationRoot.child destination) with
  | false =>
    unfold copyPath
    dsimp only
    rw [stays]
    exact fun tree _ => ⟨.refl, rfl⟩
  | true =>
    obtain ⟨-, inside⟩ := isAtOrBelow_of_staysInside stays
    intro tree sound
    have behaved := behaves_copyPath_at sourceRoot destinationRoot rules source destination tree
      sound
    exact ⟨behaved.evolves.mono fun place below => inside.trans below, behaved.recovers⟩

end Target

end GuidedMigration
