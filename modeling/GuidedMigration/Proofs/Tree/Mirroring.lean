/-
This file shows what the copy of a directory leaves. Whatever is new is a copy of something below
the source, and has the same place below the target; if all copies are made, then all files below
the source have theirs, but for those with an excluded name on their way. There is one exception: a
file goes into a directory that stood in its place when the copying began.
-/
import GuidedMigration.Proofs.Tree.Reading
import GuidedMigration.Proofs.Tree.Reported

namespace GuidedMigration

namespace Tree

/-! ### Places below a source and a target -/

/-- Whether neither of two places is at or below the other. -/
def AreApart (source target : Path.Place) : Prop := ¬ source <+: target ∧ ¬ target <+: source

variable {source target : Path.Place} {name : Text} {rest : List Text}

theorem AreApart.source_ne_nil (apart : AreApart source target) : source ≠ [] := by
  rintro rfl
  exact apart.1 List.nil_prefix

theorem AreApart.target_ne_nil (apart : AreApart source target) : target ≠ [] := by
  rintro rfl
  exact apart.2 List.nil_prefix

/-- Nothing is below both places. -/
theorem AreApart.ne (apart : AreApart source target) (rest more : List Text) :
    source ++ rest ≠ target ++ more := by
  intro same
  have below : target <+: source ++ rest := same ▸ List.prefix_append target more
  rcases List.prefix_or_prefix_of_prefix (List.prefix_append source rest) below with left | right
  · exact apart.1 left
  · exact apart.2 right

theorem AreApart.below (apart : AreApart source target) (name : Text) :
    AreApart (source ++ [name]) (target ++ [name]) := by
  constructor
  · rintro ⟨rest, same⟩
    refine apart.ne (name :: rest) [name] ?_
    rw [← same, List.append_assoc, List.singleton_append]
  · rintro ⟨rest, same⟩
    refine apart.ne [name] (name :: rest) ?_
    rw [← same, List.append_assoc, List.singleton_append]

/-- Where a copied file comes to be that is meant for a place: in a directory that stood there, if
one did. -/
def landing (stood : Tree) (place : Path.Place) : Path.Place :=
  if stood.isDirectoryAt place then place ++ place.getLast?.toList else place

/-- Where a copy comes to be that is meant for a place. -/
def goal (stood : Tree) (place : Path.Place) : Node → Path.Place
  | .directory => place
  | .file _ => stood.landing place

theorem isDirectoryAt_iff {tree : Tree} {place : Path.Place} :
    tree.isDirectoryAt place = true ↔ tree.find? place = some .directory := by
  rw [isDirectoryAt]
  split <;> simp_all

/-- Where a copy comes to be is at or below the place that it is meant for. -/
theorem exists_goal (stood : Tree) (place : Path.Place) (node : Node) :
    ∃ more, goal stood place node = place ++ more := by
  cases node with
  | directory => exact ⟨[], (List.append_nil place).symm⟩
  | file bytes =>
    rw [goal, landing]
    split
    · exact ⟨_, rfl⟩
    · exact ⟨[], (List.append_nil place).symm⟩

/-- A place that goes on below the one of a file holds nothing. -/
theorem IsRooted.eq_of_file {tree : Tree} (rooted : tree.IsRooted) {place : Path.Place}
    {bytes : Utf8.Bytes} (held : tree.find? place = some (.file bytes)) {more : List Text}
    (stands : tree.find? (place ++ more) ≠ none) : more = [] := by
  cases more with
  | nil => rfl
  | cons first rest =>
    have above := rooted.above stands
    rw [held] at above
    cases above

/-- A place that has a last name ends in it once more where a file lands in a directory. -/
theorem exists_last (proper : target ≠ []) (rest : List Text) :
    ∃ last, (target ++ rest).getLast?.toList = [last] := by
  have filled : target ++ rest ≠ [] := List.append_ne_nil_of_left_ne_nil proper rest
  exact ⟨_, by rw [List.getLast?_eq_some_getLast filled, Option.toList_some]⟩

/-- A file that lands in a directory lands where something below it would, and nothing is there. -/
theorem ne_inside {tree : Tree} (rooted : tree.IsRooted) (proper : target ≠ [])
    {rest other : List Text} {bytes : Utf8.Bytes}
    (held : tree.find? (source ++ rest) = some (.file bytes))
    (stands : tree.find? (source ++ other) ≠ none) :
    target ++ rest ++ (target ++ rest).getLast?.toList ≠ target ++ other := by
  intro same
  obtain ⟨last, ends⟩ := exists_last proper rest
  rw [ends, List.append_assoc] at same
  have below : tree.find? (source ++ rest ++ [last]) ≠ none := by
    rwa [List.append_assoc, List.append_cancel_left same]
  cases rooted.eq_of_file held below

/-- Two copies do not come to be at one place. -/
theorem eq_of_goal {tree stood : Tree} (rooted : tree.IsRooted) (proper : target ≠ [])
    {rest other : List Text} {node node' : Node}
    (held : tree.find? (source ++ rest) = some node)
    (held' : tree.find? (source ++ other) = some node')
    (same : goal stood (target ++ rest) node = goal stood (target ++ other) node') :
    rest = other := by
  have stands : tree.find? (source ++ rest) ≠ none := by simp [held]
  have stands' : tree.find? (source ++ other) ≠ none := by simp [held']
  have landed {bytes : Utf8.Bytes} (held' : tree.find? (source ++ other) = some (.file bytes))
      (same : target ++ rest = stood.landing (target ++ other)) : rest = other := by
    rw [landing] at same
    split at same
    · exact absurd same.symm (ne_inside rooted proper held' stands)
    · exact List.append_cancel_left same
  cases node with
  | directory =>
    cases node' with
    | directory => exact List.append_cancel_left same
    | file bytes => exact landed held' same
  | file bytes =>
    rw [goal, landing] at same
    split at same
    · cases node' with
      | directory => exact absurd same (ne_inside rooted proper held stands')
      | file content =>
        rw [goal, landing] at same
        split at same
        · obtain ⟨last, ends⟩ := exists_last proper rest
          obtain ⟨last', ends'⟩ := exists_last proper other
          rw [ends, ends'] at same
          exact List.append_cancel_left (List.append_inj_left' same rfl)
        · exact absurd same (ne_inside rooted proper held stands')
    · cases node' with
      | directory => exact List.append_cancel_left same
      | file content => exact landed held' same

/-! ### Mirrors -/

/-- What copying leaves of which parts below the source are chosen: nothing is new but copies of
them, and if the copying is complete, then all files among them are there. -/
structure Mirrors (chosen : List Text → Prop) (stood : Tree) (source target : Path.Place)
    (before : Tree) (complete : Prop) (after : Tree) : Prop where
  frame : ∀ place, after.find? place = before.find? place ∨ ∃ rest node, chosen rest ∧
    before.find? (source ++ rest) = some node ∧ place = goal stood (target ++ rest) node ∧
    after.find? place = some node
  copied : complete → ∀ rest bytes, chosen rest →
    before.find? (source ++ rest) = some (.file bytes) →
    after.find? (stood.landing (target ++ rest)) = some (.file bytes)

/-- Whether directories are in the places of files below the source where they were before. -/
def IsSteady (stood : Tree) (source target : Path.Place) (tree : Tree) : Prop :=
  ∀ rest bytes, tree.find? (source ++ rest) = some (.file bytes) →
    tree.isDirectoryAt (target ++ rest) = stood.isDirectoryAt (target ++ rest)

namespace Mirrors

variable {chosen others : List Text → Prop} {stood before between after : Tree}
  {complete further : Prop}

theorem refl (none' : complete → ∀ rest bytes, chosen rest →
    before.find? (source ++ rest) ≠ some (.file bytes)) :
    Mirrors chosen stood source target before complete before where
  frame _ := .inl rfl
  copied done rest bytes among held := absurd held (none' done rest bytes among)

/-- Copying that is not complete may have copied nothing. -/
theorem refl_of_not (failed : ¬ complete) :
    Mirrors chosen stood source target before complete before :=
  .refl fun done => absurd done failed

/-- What is chosen only matters where something is. -/
theorem imp (mirrors : Mirrors chosen stood source target before complete after)
    (wider : ∀ rest, chosen rest → others rest) (sooner : further → complete)
    (narrower : further → ∀ rest bytes, others rest →
      before.find? (source ++ rest) = some (.file bytes) → chosen rest) :
    Mirrors others stood source target before further after where
  frame place := by
    rcases mirrors.frame place with same | ⟨rest, node, among, held, spelled, new⟩
    · exact .inl same
    · exact .inr ⟨rest, node, wider rest among, held, spelled, new⟩
  copied done rest bytes among held :=
    mirrors.copied (sooner done) rest bytes (narrower done rest bytes among held) held

theorem of_not (mirrors : Mirrors chosen stood source target before complete after)
    (wider : ∀ rest, chosen rest → others rest) (failed : ¬ further) :
    Mirrors others stood source target before further after :=
  mirrors.imp wider (fun done => absurd done failed) fun done => absurd done failed

/-- Copying changes nothing below the source. -/
theorem find?_source (mirrors : Mirrors chosen stood source target before complete after)
    (apart : AreApart source target) (rest : List Text) :
    after.find? (source ++ rest) = before.find? (source ++ rest) := by
  rcases mirrors.frame (source ++ rest) with same | ⟨other, node, -, -, spelled, -⟩
  · exact same
  · obtain ⟨more, goes⟩ := exists_goal stood (target ++ other) node
    rw [goes, List.append_assoc] at spelled
    exact absurd spelled (apart.ne rest _)

theorem trans (left : Mirrors chosen stood source target before complete between)
    (right : Mirrors others stood source target between further after)
    (apart : AreApart source target) (rooted : before.IsRooted) :
    Mirrors (fun rest => chosen rest ∨ others rest) stood source target before
      (complete ∧ further) after where
  frame place := by
    rcases right.frame place with same | ⟨rest, node, among, held, spelled, new⟩
    · rcases left.frame place with old | ⟨rest, node, among, held, spelled, new⟩
      · exact .inl (same.trans old)
      · exact .inr ⟨rest, node, .inl among, held, spelled, same.trans new⟩
    · rw [left.find?_source apart] at held
      exact .inr ⟨rest, node, .inr among, held, spelled, new⟩
  copied done rest bytes among held := by
    rcases among with first | second
    · have there := left.copied done.1 rest bytes first held
      rcases right.frame (stood.landing (target ++ rest)) with same |
        ⟨other, node, -, held', spelled, new⟩
      · rw [same, there]
      · rw [left.find?_source apart] at held'
        obtain rfl : rest = other := eq_of_goal rooted apart.target_ne_nil held held' spelled
        rw [new, ← held', held]
    · refine right.copied done.2 rest bytes second ?_
      rw [left.find?_source apart, held]

/-- Copies from below a directory of the source. -/
theorem below (mirrors : Mirrors chosen stood (source ++ [name]) (target ++ [name]) before complete
    after) : Mirrors (fun rest => ∃ more, rest = name :: more ∧ chosen more) stood source target
      before complete after where
  frame place := by
    rcases mirrors.frame place with same | ⟨rest, node, among, held, spelled, new⟩
    · exact .inl same
    · rw [List.append_assoc, List.singleton_append] at held spelled
      exact .inr ⟨name :: rest, node, ⟨rest, rfl, among⟩, held, spelled, new⟩
  copied done rest bytes among held := by
    obtain ⟨more, rfl, chosen⟩ := among
    have there := mirrors.copied done more bytes chosen
    rw [List.append_assoc, List.append_assoc, List.singleton_append] at there
    exact there held

/-- Copying makes no directory in the place of a file, and removes none. -/
theorem steady (mirrors : Mirrors chosen stood source target before complete after)
    (apart : AreApart source target) (rooted : before.IsRooted)
    (steady : IsSteady stood source target before) : IsSteady stood source target after := by
  intro rest bytes held
  rw [mirrors.find?_source apart] at held
  rcases mirrors.frame (target ++ rest) with same | ⟨other, node, -, held', spelled, new⟩
  · rw [← steady rest bytes held, isDirectoryAt, isDirectoryAt, same]
  · cases node with
    | directory =>
      obtain rfl : rest = other := List.append_cancel_left spelled
      rw [held] at held'
      cases held'
    | file content =>
      rw [goal, landing] at spelled
      split at spelled
      · exact absurd spelled.symm (ne_inside rooted apart.target_ne_nil held' (by simp [held]))
      · rename_i free
        obtain rfl : rest = other := List.append_cancel_left spelled
        rw [isDirectoryAt, new]
        exact (Bool.eq_false_iff.mpr free).symm

end Mirrors

end Tree

/-! ### Faults that are no reports -/

/-- Whether a fault is a report on copies in a directory. -/
def FileFault.isReport : FileFault → Bool
  | .copies _ => true
  | _ => false

namespace Tree

variable {tree : Tree} {path : Path} {fault : FileFault}

theorem isReport_of_place (failed : tree.place path = .error fault) : fault.isReport = false := by
  rw [place] at failed
  split at failed
  · rw [← Except.error.inj failed]
    rfl
  · split at failed
    · rw [← Except.error.inj failed]
      rfl
    · split at failed
      · cases failed
      · rw [← Except.error.inj failed]
        rfl

theorem isReport_of_isDirectory? (failed : tree.isDirectory? path = .error fault) :
    fault.isReport = false := by
  rw [isDirectory?, look] at failed
  split at failed
  · cases failed
  · rw [← Except.error.inj failed]
    rfl
  · cases failed

/-- What is done at the place of a path does not fail with a report, if it does not at any place. -/
theorem isReport_of_bind {Answer : Type} {next : Path.Place → Except FileFault Answer}
    (failed : (tree.place path >>= next) = .error fault)
    (further : ∀ place, next place = .error fault → fault.isReport = false) :
    fault.isReport = false := by
  cases reached : tree.place path with
  | error other =>
    rw [reached] at failed
    rw [← Except.error.inj failed]
    exact isReport_of_place reached
  | ok place =>
    rw [reached] at failed
    exact further place failed

theorem isReport_of_bytes (failed : tree.bytes path = .error fault) : fault.isReport = false := by
  refine isReport_of_bind failed fun place failed => ?_
  split at failed
  · cases failed
  · rw [← Except.error.inj failed]
    rfl
  · rw [← Except.error.inj failed]
    rfl

theorem isReport_of_makeDirectory (failed : tree.makeDirectory path = .error fault) :
    fault.isReport = false := by
  refine isReport_of_bind failed fun place failed => ?_
  split at failed
  · rw [← Except.error.inj failed]
    rfl
  · cases failed

theorem isReport_of_writeBytes {content : Utf8.Bytes}
    (failed : tree.writeBytes path content = .error fault) : fault.isReport = false := by
  refine isReport_of_bind failed fun place failed => ?_
  split at failed
  · rw [← Except.error.inj failed]
    rfl
  · cases failed

/-! ### Entries -/

theorem not_isGround_of_length {place : Path.Place} (long : 2 ≤ place.length) :
    isGround place = false := by
  rw [isGround, Bool.or_eq_false_iff, decide_eq_false_iff_not, decide_eq_false_iff_not]
  constructor <;> intro same <;> simp [same, here] at long

/-- What stands somewhere has an entry. -/
theorem exists_mem_entries {place : Path.Place} (ground : isGround place = false)
    (stands : tree.find? place ≠ none) : ∃ node, (place, node) ∈ tree.entries := by
  rw [find?_of_not_isGround ground] at stands
  obtain ⟨node, found⟩ := Option.ne_none_iff_exists'.mp stands
  obtain ⟨before, after, written, -⟩ := List.lookup_eq_some_iff.mp found
  refine ⟨node, ?_⟩
  rw [written]
  exact List.mem_append_right before List.mem_cons_self

/-- The names in a directory are those of what stands in it. -/
theorem mem_names {place : Path.Place} {name : Text} (proper : place ≠ [])
    (stands : tree.find? (place ++ [name]) ≠ none) : name ∈ tree.names place := by
  have long : 2 ≤ (place ++ [name]).length := by
    have filled := List.length_pos_of_ne_nil proper
    rw [List.length_append, List.length_singleton]
    omega
  have ground := not_isGround_of_length long
  obtain ⟨node, member⟩ := exists_mem_entries ground stands
  have other : place ++ [name] ≠ here := by
    intro same
    simp [isGround, same] at ground
  exact List.mem_filterMap.mpr ⟨_, member, by simp [other]⟩

/-- Where a copy has changed a file or made one, it is the copy of a file. -/
theorem Mirrors.file_cases {chosen : List Text → Prop} {stood before after : Tree}
    {complete : Prop} {source target : Path.Place}
    (mirrors : Mirrors chosen stood source target before complete after)
    (grows : before.Grows after) (place : Path.Place) :
    (∀ bytes, after.find? place = some (.file bytes) ↔ before.find? place = some (.file bytes)) ∨
    ∃ rest bytes, chosen rest ∧ before.find? (source ++ rest) = some (.file bytes) ∧
      place = stood.landing (target ++ rest) ∧ after.find? place = some (.file bytes) := by
  rcases mirrors.frame place with same | ⟨rest, node, among, held, spelled, new⟩
  · exact .inl fun bytes => by rw [same]
  · cases node with
    | file bytes => exact .inr ⟨rest, bytes, among, held, spelled, new⟩
    | directory =>
      refine .inl fun bytes => ⟨fun file => ?_, fun file => ?_⟩
      · rw [new] at file
        cases file
      · have kept := grows place true (kindAt?_eq_file.mpr ⟨bytes, file⟩)
        rw [kindAt?_eq_directory.mpr new] at kept
        cases kept

end Tree

/-! ### Copies of one file -/

namespace Files

open GuidedMigration.Tree

variable {tree stood : Tree} {source destination : Path} {label : Path → Path → Text × Text}

/-- A file is copied onto a path where a file or nothing stands, or nothing happens. -/
theorem copyOnto_cases (label : Path → Path → Text × Text) (source destination : Path)
    (tree : Tree) :
    (∃ fault, fault.isReport = false ∧
      copyOnto label source destination tree = (.error (.file fault), tree)) ∨
    ∃ content, tree.find? (spelled source) = some (.file content) ∧
      (tree.standing destination = .vacant ∨ tree.standing destination = .file) ∧
      copyOnto label source destination tree =
        (.ok (), tree.put (spelled destination) (.file content)) := by
  rw [copyOnto, bind_apply]
  obtain ⟨same, answered⟩ : ∃ same, isSame source destination tree = (.ok same, tree) := ⟨_, rfl⟩
  rw [answered]
  cases same with
  | true => exact .inl ⟨_, rfl, rfl⟩
  | false =>
    dsimp only
    rw [if_neg Bool.false_ne_true, bind_apply, bytes, ask]
    cases read : tree.bytes source with
    | error fault => exact .inl ⟨fault, isReport_of_bytes read, rfl⟩
    | ok content =>
      dsimp only
      rw [change]
      by_cases free : tree.standing destination = .vacant ∨ tree.standing destination = .file
      · obtain ⟨reached, other, held⟩ := standing_eq_file.mp (standing_of_bytes read)
        have same : other = content := by
          rw [Tree.bytes, reached] at read
          dsimp only [bind, Except.bind] at read
          rw [held] at read
          exact Except.ok.inj read
        rw [writeBytes_of_free free]
        exact .inr ⟨content, same ▸ held, free, rfl⟩
      · rw [not_or] at free
        obtain ⟨fault, failed⟩ := writeBytes_of_taken free.1 free.2 content
        rw [failed]
        exact .inl ⟨fault, isReport_of_writeBytes failed, rfl⟩

/-- The copy of a file lands in the place of its target, or in the directory there. -/
theorem copyFile_cases (label : Path → Path → Text × Text) (source destination : Path)
    (level : source.name ≠ Path.up) (tree : Tree) :
    (∃ fault, fault.isReport = false ∧
      copyFile label source destination tree = (.error (.file fault), tree)) ∨
    ∃ content place, tree.find? (spelled source) = some (.file content) ∧
      (place = if tree.isDirectoryAt (spelled destination) then
        spelled destination ++ [source.name] else spelled destination) ∧
      tree.find? place ≠ some .directory ∧
      copyFile label source destination tree = (.ok (), tree.put place (.file content)) := by
  have split : copyFile label source destination =
      copyTarget source destination >>= copyOnto label source := rfl
  rw [split, copyTarget, bind_assoc, bind_apply, isDirectory?, ask]
  cases looked : tree.isDirectory? destination with
  | error fault => exact .inl ⟨fault, isReport_of_isDirectory? looked, rfl⟩
  | ok there =>
    cases there with
    | true =>
      obtain ⟨-, held⟩ := standing_eq_directory.mp (isDirectory?_iff.mp looked)
      rcases copyOnto_cases label source
        { destination with parts := destination.parts ++ [source.name] } tree with
        failed | ⟨content, own, free, done⟩
      · exact .inl failed
      · have other := (Evolves.find?_of_free free).2
        rw [spelled_append destination source.name level] at other done
        refine .inr ⟨content, _, own, ?_, other, done⟩
        rw [if_pos (isDirectoryAt_iff.mpr held)]
    | false =>
      rcases copyOnto_cases label source destination tree with failed | ⟨content, own, free, done⟩
      · exact .inl failed
      · have other := (Evolves.find?_of_free free).2
        refine .inr ⟨content, _, own, ?_, other, done⟩
        rw [if_neg (mt isDirectoryAt_iff.mp other)]

/-! ### Copies of single entries -/

/-- The path of an entry of a directory. -/
abbrev entry (path : Path) (name : Text) : Path := { path with parts := path.parts ++ [name] }

variable {chosen : List Text → Prop} {before after : Tree} {from' to' : Path.Place}

/-- What an action leaves that copies chosen parts; if it fails, then not with an empty report. -/
structure Copied (chosen : List Text → Prop) (stood : Tree) (from' to' : Path.Place)
    (before : Tree) (result : Except Failure Unit) (after : Tree) : Prop where
  mirrors : Mirrors chosen stood from' to' before (result = .ok ()) after
  reported : result ≠ .error (.file (.copies []))

theorem ne_report {fault : FileFault} (single : fault.isReport = false) (failed : List FailedCopy) :
    (.error (.file fault) : Except Failure Unit) ≠ .error (.file (.copies failed)) := by
  intro same
  cases same
  cases single

theorem copied_ensureOne (path : Path) (there : tree.find? from' = some .directory) :
    Copied (· = []) stood from' (spelled path) tree (ensureOne path tree).1
      (ensureOne path tree).2 := by
  have none' : ∀ rest bytes, rest = [] → tree.find? (from' ++ rest) ≠ some (.file bytes) := by
    rintro rest bytes rfl
    simp [there]
  by_cases vacant : tree.standing path = .vacant
  · rw [ensureOne_of_vacant vacant]
    have ground := isGround_of_find? (Evolves.find?_of_free (.inl vacant)).2
    refine ⟨⟨fun place => ?_, fun _ rest bytes among held => ?_⟩, by simp⟩
    · by_cases same : place = spelled path
      · subst same
        exact .inr ⟨[], .directory, rfl, by rwa [List.append_nil],
          (List.append_nil _).symm, find?_put_same ground _ tree⟩
      · exact .inl (find?_put_of_ne same _ tree)
    · exact absurd held (none' rest bytes among)
  · have unmade : ∃ fault, tree.makeDirectory path = .error fault := by
      by_cases lost : tree.standing path = .lost
      · exact ⟨_, makeDirectory_of_lost lost⟩
      · obtain ⟨fault, -, failed⟩ := makeDirectory_of_settled lost vacant
        exact ⟨fault, failed⟩
    obtain ⟨fault, failed⟩ := unmade
    rw [ensureOne, failed]
    dsimp only
    split
    · exact ⟨.refl fun _ => none', by simp⟩
    · exact ⟨.refl fun _ => none', ne_report (isReport_of_makeDirectory failed) []⟩

/-- The copy of a file from one directory to another. -/
theorem copied_copyFile {name : Text} (level : name ≠ Path.up) (whole : chosen [])
    (rooted : tree.IsRooted)
    (steady : IsSteady stood (spelled source) (spelled destination) tree) :
    Copied (fun rest => ∃ more, rest = name :: more ∧ chosen more) stood (spelled source)
      (spelled destination) tree
      (copyFile entryLabel (entry source name)
        (entry destination name) tree).1
      (copyFile entryLabel (entry source name)
        (entry destination name) tree).2 := by
  have own : (entry source name).name = name := by
    simp [Path.name]
  rcases copyFile_cases entryLabel (entry source name)
    (entry destination name) (by rwa [own]) tree with
    ⟨fault, single, failed⟩ | ⟨content, place, held, spelling, other, done⟩
  · rw [failed]
    exact ⟨.refl_of_not (by simp), ne_report single []⟩
  · rw [spelled_append source name level] at held
    rw [own, spelled_append destination name level, steady [name] content held] at spelling
    have lands : place = stood.landing (spelled destination ++ [name]) := by
      rw [spelling, landing, List.getLast?_concat]
      rfl
    have ground := isGround_of_find? other
    rw [done]
    refine ⟨⟨fun target => ?_, fun _ rest bytes among held' => ?_⟩, by simp⟩
    · by_cases same : target = place
      · subst same
        exact .inr ⟨[name], .file content, ⟨[], rfl, whole⟩, held, lands,
          find?_put_same ground _ tree⟩
      · exact .inl (find?_put_of_ne same _ tree)
    · obtain ⟨more, rfl, -⟩ := among
      rw [← List.singleton_append, ← List.append_assoc] at held'
      have stands : tree.find? (spelled source ++ [name] ++ more) ≠ none := by
        rw [held']
        simp
      obtain rfl : more = [] := rooted.eq_of_file held stands
      rw [List.append_nil, held] at held'
      rw [← lands, find?_put_same ground, held']

theorem sameFile_message_ne_nil (left right : Text) :
    (FileFault.sameFile left right).message ≠ [] := by
  intro none'
  have parts := List.append_eq_nil_iff.mp
    (show (left ++ " and ".toList ++ right) ++ " are the same file".toList = [] from none')
  exact absurd parts.2 (by simp)

/-- A copy that fails leaves lines in the report on the directory, unless its own report is empty.
-/
theorem attempt_of_error {copy : Files Unit} {failure : Failure} (failed : copy tree =
    (.error failure, after)) (source destination : Path) :
    ∃ result, attempt source destination copy tree = (result, after) ∧
      (result = .ok [] → failure = .file (.copies [])) := by
  rw [attempt, tryCatch_apply, bind_apply, failed]
  dsimp only
  split
  · refine ⟨_, rfl, fun empty => ?_⟩
    rw [Except.ok.inj empty]
  · rename_i left right
    have lines := sameFile_message_ne_nil left right
    generalize (FileFault.sameFile left right).message = message at lines
    refine ⟨.ok (message.map .letter), rfl, fun empty => ?_⟩
    exact absurd (List.map_eq_nil_iff.mp (Except.ok.inj empty)) lines
  · exact ⟨_, rfl, fun empty => absurd (Except.ok.inj empty) (List.cons_ne_nil _ _)⟩
  · exact ⟨_, rfl, fun empty => by cases empty⟩

/-- The report on a copy is empty only if the copy is made. -/
theorem mirrors_attempt {copy : Files Unit} (copied : Copied chosen stood from' to' tree
    (copy tree).1 (copy tree).2) (source destination : Path) :
    Mirrors chosen stood from' to' tree ((attempt source destination copy tree).1 = .ok [])
      (attempt source destination copy tree).2 := by
  obtain ⟨mirrors, reported⟩ := copied
  cases outcome : copy tree with
  | mk result between =>
    rw [outcome] at mirrors reported
    cases result with
    | ok answer =>
      rw [attempt, tryCatch_apply, bind_apply, outcome]
      exact mirrors.imp (fun _ => id) (fun _ => rfl) fun _ _ _ among _ => among
    | error failure =>
      obtain ⟨result, attempted, full⟩ := attempt_of_error outcome source destination
      rw [attempted]
      exact mirrors.imp (fun _ => id) (fun empty => absurd (congrArg _ (full empty)) reported)
        fun _ _ _ among _ => among

/-- The copy of an entry of a directory, if that of a directory among them does. -/
theorem copied_copyEntry {name : Text} {copyInner : Path → Path → Files Unit}
    (level : name ≠ Path.up) (whole : chosen []) (rooted : tree.IsRooted)
    (steady : IsSteady stood (spelled source) (spelled destination) tree)
    (inner : tree.standing (entry source name) = .directory →
      Copied chosen stood (spelled source ++ [name]) (spelled destination ++ [name]) tree
        (copyInner (entry source name)
          (entry destination name) tree).1
        (copyInner (entry source name)
          (entry destination name) tree).2) :
    Copied (fun rest => ∃ more, rest = name :: more ∧ chosen more) stood (spelled source)
      (spelled destination) tree
      (copyEntry copyInner (entry source name)
        (entry destination name) tree).1
      (copyEntry copyInner (entry source name)
        (entry destination name) tree).2 := by
  rw [copyEntry, bind_apply, isDirectory?, ask]
  cases looked : tree.isDirectory? (entry source name) with
  | error fault =>
    exact ⟨.refl_of_not (by simp), ne_report (isReport_of_isDirectory? looked) []⟩
  | ok there =>
    cases there with
    | true =>
      obtain ⟨mirrors, reported⟩ := inner (isDirectory?_iff.mp looked)
      exact ⟨mirrors.below, reported⟩
    | false => exact copied_copyFile level whole rooted steady

/-! ### Copies of directories -/

/-- Whether none of the names on the way to something is excluded. -/
def IsKept (excluded : List Text) (rest : List Text) : Prop :=
  ∀ name ∈ rest, isExcluded excluded name = false

/-- Whether the entries of a directory can be copied to another one, down to a depth. -/
structure IsReady (stood : Tree) (depth : Nat) (source destination : Path) (tree : Tree) :
    Prop where
  sound : tree.IsSound
  opens : tree.standing source = .directory
  takes : tree.standing destination = .directory
  steady : IsSteady stood (spelled source) (spelled destination) tree
  bound : ∀ rest bytes, tree.find? (spelled source ++ rest) = some (.file bytes) →
    rest.length ≤ depth

theorem ne_up_of_isName {name : Text} (named : isName name = true) : name ≠ Path.up := by
  rw [isName, Bool.and_eq_true, bne_iff_ne] at named
  exact named.1

theorem isNullFree_of_standing {tree : Tree} {path : Path}
    (open' : tree.standing path ≠ .barred) : isNullFree path = true := by
  have named := isNamed_of_standing open'
  rw [isNamed, Bool.and_eq_true] at named
  exact named.1

variable {depth : Nat} {excluded : List Text} {complete : Prop}

/-- What is ready stays ready while entries are copied. -/
theorem IsReady.of_mirrors (ready : IsReady stood depth source destination before)
    (apart : AreApart (spelled source) (spelled destination))
    (mirrors : Mirrors chosen stood (spelled source) (spelled destination) before complete after)
    {allowed : Path.Place → Prop} (evolves : Evolves allowed before after) :
    IsReady stood depth source destination after where
  sound := evolves.sound ready.sound
  opens := by
    rw [evolves.grows.standing (by simp [IsSettled, ready.opens])]
    exact ready.opens
  takes := by
    rw [evolves.grows.standing (by simp [IsSettled, ready.takes])]
    exact ready.takes
  steady := mirrors.steady apart ready.sound.rooted ready.steady
  bound rest bytes held := ready.bound rest bytes (mirrors.find?_source apart rest ▸ held)

/-- The copy of one entry among others, if that of a directory does: the others stay ready. -/
theorem IsReady.attempt_copyEntry {name : Text}
    (apart : AreApart (spelled source) (spelled destination))
    (ready : IsReady stood depth source destination tree) (named : isName name = true)
    (inner : tree.standing (entry source name) = .directory →
      Copied (IsKept excluded) stood (spelled source ++ [name]) (spelled destination ++ [name]) tree
        (copyDirectory excluded depth (entry source name) (entry destination name) tree).1
        (copyDirectory excluded depth (entry source name) (entry destination name) tree).2) :
    let outcome := attempt (entry source name) (entry destination name)
      (copyEntry (copyDirectory excluded depth) (entry source name) (entry destination name)) tree
    Mirrors (fun rest => ∃ more, rest = name :: more ∧ IsKept excluded more) stood
      (spelled source) (spelled destination) tree (outcome.1 = .ok []) outcome.2 ∧
      IsReady stood depth source destination outcome.2 := by
  have first := mirrors_attempt (copied_copyEntry (ne_up_of_isName named) (by simp [IsKept])
    ready.sound.rooted ready.steady inner) (entry source name) (entry destination name)
  have behaved : Behaved (IsAtOrBelow (spelled destination)) tree
      (attempt (entry source name) (entry destination name)
        (copyEntry (copyDirectory excluded depth) (entry source name)
          (entry destination name)) tree).1
      (attempt (entry source name) (entry destination name)
        (copyEntry (copyDirectory excluded depth) (entry source name)
          (entry destination name)) tree).2 :=
    behaves_attempt (behaves_copyEntry (fun _ _ => behaves_copyDirectory excluded depth)
      (isNullFree_of_standing (by rw [ready.opens]; simp))
      (isNullFree_of_standing (by rw [ready.takes]; simp)) List.prefix_rfl named) tree ready.sound
  exact ⟨first, ready.of_mirrors apart first behaved.evolves⟩

/-- What is copied of entries is copied of the first one or of the others. -/
theorem exists_entry_cons_iff {name : Text} {names rest : List Text} :
    (∃ other ∈ name :: names, ∃ more, rest = other :: more ∧ IsKept excluded more) ↔
      (∃ more, rest = name :: more ∧ IsKept excluded more) ∨
        ∃ other ∈ names, ∃ more, rest = other :: more ∧ IsKept excluded more :=
  List.exists_mem_cons_iff _ _ _

/-- The copies of entries, if those of directories among them do. -/
theorem mirrors_copyEntries {names : List Text}
    (apart : AreApart (spelled source) (spelled destination))
    (ready : IsReady stood depth source destination tree)
    (named : ∀ name ∈ names, isName name = true)
    (inner : ∀ between, IsReady stood depth source destination between → ∀ name ∈ names,
      between.standing (entry source name) = .directory →
      Copied (IsKept excluded) stood (spelled source ++ [name]) (spelled destination ++ [name])
        between (copyDirectory excluded depth (entry source name) (entry destination name)
          between).1
        (copyDirectory excluded depth (entry source name) (entry destination name) between).2) :
    Mirrors (fun rest => ∃ name ∈ names, ∃ more, rest = name :: more ∧ IsKept excluded more) stood
      (spelled source) (spelled destination) tree
      ((copyEntries (copyDirectory excluded depth) source destination names tree).1 = .ok [])
      (copyEntries (copyDirectory excluded depth) source destination names tree).2 := by
  induction names generalizing tree with
  | nil => exact .refl (by simp)
  | cons name names inductionHypothesis =>
    obtain ⟨first, ready'⟩ := ready.attempt_copyEntry apart (named name List.mem_cons_self)
      (inner tree ready name List.mem_cons_self)
    rw [copyEntries_cons, bind_apply]
    generalize attempt (entry source name) (entry destination name)
      (copyEntry (copyDirectory excluded depth) (entry source name) (entry destination name))
      tree = outcome at first ready'
    obtain ⟨result, between⟩ := outcome
    cases result with
    | error failure => exact first.of_not (fun _ => exists_entry_cons_iff.mpr ∘ Or.inl) (by simp)
    | ok failed =>
      have others := inductionHypothesis ready'
        (fun other member => named other (List.mem_cons_of_mem _ member))
        fun between ready other member =>
          inner between ready other (List.mem_cons_of_mem _ member)
      dsimp only at first others ⊢
      rw [bind_apply]
      generalize copyEntries (copyDirectory excluded depth) source destination names between =
        outcome at others
      obtain ⟨result, after⟩ := outcome
      have both := first.trans others apart ready.sound.rooted
      cases result with
      | error failure => exact both.of_not (fun _ => exists_entry_cons_iff.mpr) (by simp)
      | ok more =>
        refine both.imp (fun _ => exists_entry_cons_iff.mpr) (fun empty => ?_)
          fun _ rest bytes chosen held => exists_entry_cons_iff.mp chosen
        have none' := List.append_eq_nil_iff.mp (Except.ok.inj empty)
        exact ⟨congrArg Except.ok none'.1, congrArg Except.ok none'.2⟩

theorem standing_of_ensureOne {path : Path} (made : ensureOne path before = (.ok (), after)) :
    after.standing path = .directory := by
  by_cases lost : before.standing path = .lost
  · obtain ⟨failure, failed⟩ := @ensureOne_of_obstacle before path
      (by simp [lost]) (by simp [lost])
    rw [failed] at made
    cases made
  · have directory := (made_ensureOne lost).directory
    rw [made] at directory
    exact directory rfl

theorem namesIn_of_directory (opens : tree.standing source = .directory) :
    namesIn source tree = (.ok (tree.names (spelled source)), tree) := by
  obtain ⟨reached, held⟩ := standing_eq_directory.mp opens
  rw [namesIn, reached]
  dsimp only
  rw [held]

/-- What a copy of entries makes comes with the directory that they are copied to. -/
theorem wider_of_entries {names : List Text} (rest : List Text)
    (chosen : ∃ name ∈ names.filter (!isExcluded excluded ·), ∃ more,
      rest = name :: more ∧ IsKept excluded more) : IsKept excluded rest := by
  obtain ⟨name, member, more, rfl, kept⟩ := chosen
  have own := (List.mem_filter.mp member).2
  rw [Bool.not_eq_true'] at own
  exact List.forall_mem_cons.mpr ⟨own, kept⟩

/-- A file below a directory is among the entries or below one of them. -/
theorem exists_entry (rooted : tree.IsRooted) (apart : AreApart from' to')
    (opens : tree.find? from' = some .directory) {rest : List Text} {bytes : Utf8.Bytes}
    (kept : IsKept excluded rest) (held : tree.find? (from' ++ rest) = some (.file bytes)) :
    ∃ name ∈ (tree.names from').filter (!isExcluded excluded ·), ∃ more,
      rest = name :: more ∧ IsKept excluded more := by
  cases rest with
  | nil =>
    rw [List.append_nil, opens] at held
    cases held
  | cons name more =>
    obtain ⟨own, others⟩ := List.forall_mem_cons.mp kept
    refine ⟨name, List.mem_filter.mpr ⟨mem_names apart.source_ne_nil ?_, by rw [own]; rfl⟩, more,
      rfl, others⟩
    rw [← List.singleton_append, ← List.append_assoc] at held
    cases more with
    | nil =>
      rw [List.append_nil] at held
      simp [held]
    | cons next further =>
      rw [rooted.above (by rw [held]; simp)]
      simp

theorem stands_of_directory {path : Path} (there : tree.standing path = .directory) :
    stands path tree = (.ok true, tree) := by
  rw [stands, exists?_of_directory there]
  rfl

/-- Below a directory that is there, one directory is made. -/
theorem makeAll_entry (takes : tree.standing destination = .directory) (name : Text) :
    makeAll (entry destination name) tree = ensureOne (entry destination name) tree := by
  obtain ⟨root, parts⟩ := destination
  rw [makeAll, List.reverse_concat, makeAllFrom]
  dsimp only
  rw [List.reverse_cons, List.reverse_reverse]
  split
  · rw [bind_apply, stands_of_directory takes]
    rfl
  · rfl

/-- Whether a directory can be copied down to a depth to a path that is there or whose directory is.
-/
structure IsCopyable (stood : Tree) (depth : Nat) (source destination : Path) (tree : Tree) :
    Prop where
  sound : tree.IsSound
  opens : tree.standing source = .directory
  free : isNullFree destination = true
  makes : makeAll destination tree = ensureOne destination tree
  apart : AreApart (spelled source) (spelled destination)
  steady : IsSteady stood (spelled source) (spelled destination) tree
  bound : ∀ rest bytes, tree.find? (spelled source ++ rest) = some (.file bytes) →
    rest.length < depth

/-- A directory among the entries that are ready can be copied. -/
theorem IsReady.entry {name : Text} (ready : IsReady stood depth source destination tree)
    (free : isNullFree destination = true)
    (apart : AreApart (spelled source) (spelled destination)) (named : isName name = true)
    (opens : tree.standing (entry source name) = .directory) :
    IsCopyable stood depth (entry source name) (entry destination name) tree := by
  obtain ⟨level, null⟩ : name ≠ Path.up ∧ name.contains '\x00' = false := by
    simpa [isName] using named
  have origin : spelled (Files.entry source name) = spelled source ++ [name] :=
    spelled_append source name level
  have goes : spelled (Files.entry destination name) = spelled destination ++ [name] :=
    spelled_append destination name level
  refine ⟨ready.sound, opens, isNullFree_append free null, makeAll_entry ready.takes name, ?_, ?_,
    ?_⟩
  · rw [origin, goes]
    exact apart.below name
  · intro rest bytes
    rw [origin, goes, List.append_assoc, List.append_assoc]
    exact ready.steady (name :: rest) bytes
  · intro rest bytes
    rw [origin, List.append_assoc]
    exact ready.bound (name :: rest) bytes

/-- What the copy of a directory does once the directory that it goes to has been made, if the
copies of directories in it do. -/
theorem copied_entries {between : Tree}
    (inner : ∀ source destination between, IsCopyable stood depth source destination between →
      Copied (IsKept excluded) stood (spelled source) (spelled destination) between
        (copyDirectory excluded depth source destination between).1
        (copyDirectory excluded depth source destination between).2)
    (sound : tree.IsSound) (opens : tree.standing source = .directory)
    (free : isNullFree destination = true)
    (apart : AreApart (spelled source) (spelled destination))
    (makes : makeAll destination tree = (.ok (), between))
    (ready : IsReady stood depth source destination between) :
    Copied (fun rest => ∃ name ∈ (tree.names (spelled source)).filter (!isExcluded excluded ·),
        ∃ more, rest = name :: more ∧ IsKept excluded more) stood (spelled source)
      (spelled destination) between
      (copyDirectory excluded (depth + 1) source destination tree).1
      (copyDirectory excluded (depth + 1) source destination tree).2 := by
  have named := isName_of_namesIn sound (congrArg Prod.fst (namesIn_of_directory opens))
  have level : ∀ name ∈ (tree.names (spelled source)).filter (!isExcluded excluded ·),
      isName name = true := fun name member => named name (List.mem_filter.mp member).1
  have entries := mirrors_copyEntries apart ready level fun between ready name member opens => by
    have copyable := ready.entry free apart (level name member) opens
    have other := ne_up_of_isName (level name member)
    rw [← spelled_append source name other, ← spelled_append destination name other]
    exact inner _ _ between copyable
  obtain ⟨failed, after, copied⟩ := exists_copyEntries
    (fun _ _ => behaves_copyDirectory excluded depth) (.copyDirectory excluded depth)
    (isNullFree_of_standing (by rw [opens]; simp)) free List.prefix_rfl level ready.sound
  rw [copied] at entries
  rw [copyDirectory, bind_apply, namesIn_of_directory opens]
  dsimp only
  rw [bind_apply, makes]
  dsimp only
  rw [bind_apply, copied]
  cases failed with
  | nil =>
    exact ⟨entries.imp (fun _ => id) (fun _ => rfl) fun _ _ _ among _ => among,
      by rintro ⟨⟩⟩
  | cons line lines => exact ⟨entries.of_not (fun _ => id) (by rintro ⟨⟩), by rintro ⟨⟩⟩

/-- The copy of a directory to another one, which is made if it is not there. -/
theorem copied_copyDirectory (depth : Nat)
    (copyable : IsCopyable stood depth source destination tree) :
    Copied (IsKept excluded) stood (spelled source) (spelled destination) tree
      (copyDirectory excluded depth source destination tree).1
      (copyDirectory excluded depth source destination tree).2 := by
  induction depth generalizing source destination tree with
  | zero =>
    refine ⟨.refl fun _ rest bytes _ held => ?_, by rintro ⟨⟩⟩
    exact absurd (copyable.bound rest bytes held) (Nat.not_lt_zero _)
  | succ depth inductionHypothesis =>
    obtain ⟨sound, opens, free, makes, apart, steady, bound⟩ := copyable
    obtain ⟨-, there⟩ := standing_eq_directory.mp opens
    have made : Copied (· = []) stood (spelled source) (spelled destination) tree
        (ensureOne destination tree).1 (ensureOne destination tree).2 :=
      copied_ensureOne destination there
    have evolves : Evolves (fun _ => False) tree (ensureOne destination tree).2 :=
      evolves_ensureOne destination tree
    cases outcome : ensureOne destination tree with
    | mk result between =>
      rw [outcome] at made evolves makes
      cases result with
      | error failure =>
        rw [copyDirectory, bind_apply, namesIn_of_directory opens]
        dsimp only
        rw [bind_apply, makes]
        refine ⟨made.mirrors.of_not ?_ (by simp), made.reported⟩
        rintro rest rfl
        simp [IsKept]
      | ok answer =>
        have ready : IsReady stood depth source destination between := by
          refine ⟨evolves.sound sound, ?_, standing_of_ensureOne outcome,
            made.mirrors.steady apart sound.rooted steady, fun rest bytes held => ?_⟩
          · rw [evolves.grows.standing (by simp [IsSettled, opens]), opens]
          · rw [made.mirrors.find?_source apart] at held
            exact Nat.le_of_lt_succ (bound rest bytes held)
        obtain ⟨entries, reported⟩ := copied_entries
          (fun _ _ _ => inductionHypothesis) sound opens free apart makes ready
        refine ⟨(made.mirrors.trans entries apart sound.rooted).imp ?_ (fun done => ⟨rfl, done⟩)
          fun _ rest bytes kept held => .inr (exists_entry sound.rooted apart there kept held),
          reported⟩
        rintro rest (rfl | chosen)
        · simp [IsKept]
        · exact wider_of_entries rest chosen

end Files

end GuidedMigration
