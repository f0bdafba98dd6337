/-
This file says what a manifest is after the dependencies of a fragment have been merged into it: the
manifest member by member, with the missing names behind those that a section has, and with the
sections that it lacked behind its own. A section that is asked for comes to be even if no name is
asked for in it, as long as a name is missing somewhere; else the file stays as it is. Merging the
same fragment again changes nothing, and what fails has changed nothing, unless the manifest that
would be written is no text.
-/
import GuidedMigration.Proofs.Json.Named
import GuidedMigration.Proofs.Migration.EditedDocument
import Mathlib.Data.List.Nodup

namespace GuidedMigration.Target

open GuidedMigration.Tree
open Json (Datum Members Word)

/-! ### What is asked for -/

/-- Whether sections are told apart by their names, and what they ask for by its names. -/
structure IsFragment (sections : Sections) : Prop where
  known : ∀ part ∈ sections, part.1 ∈ sectionNames
  distinct : (sections.map Prod.fst).Nodup
  each : ∀ part ∈ sections, (part.2.map Prod.fst).Nodup

theorem names_dependenciesOf (members : Members) :
    (dependenciesOf members).map Prod.fst = Members.names members := by
  simp [dependenciesOf, Members.names]

theorem isFragment_sectionsOf {members : Members} (named : Json.IsNamed (.object members)) :
    IsFragment (sectionsOf members) := by
  obtain ⟨distinct, each⟩ := named.of_object
  rw [sectionsOf]
  split
  · refine ⟨fun part member => ?_, ?_, fun part member => ?_⟩
    · obtain ⟨name, listed, found⟩ := List.mem_filterMap.mp member
      obtain ⟨_, -, rfl⟩ := Option.map_eq_some_iff.mp found
      exact listed
    · rw [List.map_filterMap]
      refine List.Nodup.filterMap (fun name other spelled found found' => ?_) (by decide)
      simp only [Option.map_map, Option.mem_def, Option.map_eq_some_iff] at found found'
      obtain ⟨_, -, rfl⟩ := found
      obtain ⟨_, -, same⟩ := found'
      exact same.symm
    · obtain ⟨name, listed, found⟩ := List.mem_filterMap.mp member
      obtain ⟨inner, held, rfl⟩ := Option.map_eq_some_iff.mp found
      obtain ⟨datum, there, object⟩ := Option.bind_eq_some_iff.mp held
      have named := each _ (Members.exists_mem_of_lookup there)
      cases datum with
      | object members =>
        obtain rfl : members = inner := Option.some.inj object
        rw [names_dependenciesOf]
        exact named.of_object.1
      | _ => cases object
  · refine ⟨?_, ?_, ?_⟩
    · simp [sectionNames]
    · simp
    · simpa [names_dependenciesOf] using distinct

theorem isFragment_of_readFragment {code : Text} {sections : Sections}
    (read : readFragment code = .ok sections) : IsFragment sections := by
  unfold readFragment at read
  dsimp only at read
  split at read
  · cases read
  · cases read
  · rename_i found
    rw [← Except.ok.inj read]
    exact isFragment_sectionsOf (Json.isNamed_read found)
  · cases read

/-! ### What is there afterwards -/

/-- Those of some dependencies that a section does not name. -/
def missing (members : Members) (dependencies : Dependencies) : Dependencies :=
  dependencies.filter fun dependency => !Members.has dependency.1 members

/-- Dependencies as the members of a section. -/
def asMembers (dependencies : Dependencies) : Members :=
  dependencies.map fun dependency => (dependency.1, .string dependency.2)

/-- A section with the missing ones of some dependencies behind its own. -/
def withDependencies (members : Members) (dependencies : Dependencies) : Members :=
  members ++ asMembers (missing members dependencies)

/-- The dependencies that sections ask for in the one with a name. -/
def requested (sections : Sections) (name : Word) : Dependencies :=
  ((sections.find? (·.1 = name)).map (·.2)).getD []

/-- A member of a manifest with what sections ask for in it. -/
def withRequested (sections : Sections) : Word × Datum → Word × Datum
  | (name, .object members) =>
    (name, .object (withDependencies members (requested sections name)))
  | member => member

/-- Those of some sections that a manifest does not have. -/
def lacking (manifest : Members) (sections : Sections) : Sections :=
  sections.filter fun part => !Members.has part.1 manifest

/-- A manifest with what sections ask for: each of its members with what is asked for in it, and the
sections that it lacks behind them. -/
def withSections (manifest : Members) (sections : Sections) : Members :=
  manifest.map (withRequested sections) ++
    (lacking manifest sections).map fun part => (part.1, .object (asMembers part.2))

variable {members manifest : Members} {dependencies : Dependencies} {sections : Sections}
  {name : Word}

theorem withDependencies_nil (members : Members) : withDependencies members [] = members :=
  List.append_nil members

/-- Adding dependencies to a section puts the missing ones behind its own. -/
theorem addAll_eq (distinct : (dependencies.map Prod.fst).Nodup) :
    addAll (.object members) dependencies = .ok (.object (withDependencies members dependencies),
      (missing members dependencies).map Prod.fst) := by
  induction dependencies generalizing members with
  | nil => rw [addAll, withDependencies_nil]; rfl
  | cons dependency rest inductionHypothesis =>
    obtain ⟨name, version⟩ := dependency
    obtain ⟨fresh, distinct⟩ := List.nodup_cons.mp distinct
    cases held : Members.has name members with
    | true =>
      have same : missing members ((name, version) :: rest) = missing members rest := by
        simp [missing, held]
      have named : names (.object members) name = true := held
      rw [addAll_of_names named, inductionHypothesis distinct, withDependencies, withDependencies,
        same]
    | false =>
      have put : Members.put name (.string version) members =
          members ++ [(name, .string version)] := by
        refine Members.put_of_not_mem fun among => ?_
        rw [Members.has_iff.mpr among] at held
        cases held
      have others : missing (Members.put name (.string version) members) rest =
          missing members rest := by
        refine List.filter_congr fun dependency member => ?_
        have different : name ≠ dependency.1 := by
          intro same
          refine fresh (show name ∈ _ from ?_)
          rw [same]
          exact List.mem_map_of_mem member
        rw [Members.has_put, decide_eq_false different, Bool.false_or]
      have same : missing members ((name, version) :: rest) =
          (name, version) :: missing members rest := by
        simp [missing, held]
      rw [addAll_of_object held, inductionHypothesis distinct, others, withDependencies,
        withDependencies, others, same, put, asMembers, asMembers]
      simp

/-! ### Adding sections -/

theorem requested_of_not_mem (absent : name ∉ sections.map Prod.fst) :
    requested sections name = [] := by
  rw [requested, List.find?_eq_none.mpr]
  · rfl
  · intro part member same
    refine absent ?_
    rw [← of_decide_eq_true same]
    exact List.mem_map_of_mem member

theorem requested_cons (other : Word) (dependencies : Dependencies) (sections : Sections)
    (name : Word) : requested ((other, dependencies) :: sections) name =
      if other = name then dependencies else requested sections name := by
  rw [requested, List.find?_cons]
  by_cases same : other = name <;> simp [same, requested]

/-- A member in which nothing more is asked for. -/
theorem withRequested_of_not_mem (absent : name ∉ sections.map Prod.fst) (datum : Datum) :
    withRequested sections (name, datum) = (name, datum) := by
  cases datum with
  | object members => rw [withRequested, requested_of_not_mem absent, withDependencies_nil]
  | _ => rfl

theorem withSections_nil (manifest : Members) : withSections manifest [] = manifest := by
  have others : ∀ member ∈ manifest, withRequested [] member = member :=
    fun (_, datum) _ => withRequested_of_not_mem List.not_mem_nil datum
  rw [withSections, List.map_congr_left others]
  simp [lacking]

/-- What is asked for under another name does not matter to a member. -/
theorem withRequested_cons_of_ne {member : Word × Datum} (different : member.1 ≠ name) :
    withRequested ((name, dependencies) :: sections) member = withRequested sections member := by
  obtain ⟨other, datum⟩ := member
  cases datum with
  | object members =>
    rw [withRequested, withRequested, requested_cons, if_neg (Ne.symm different)]
  | _ => rfl

theorem lacking_put (absent : name ∉ sections.map Prod.fst) (datum : Datum) (manifest : Members) :
    lacking (Members.put name datum manifest) sections = lacking manifest sections := by
  refine List.filter_congr fun part member => ?_
  have different : name ≠ part.1 := by
    intro same
    rw [same] at absent
    exact absent (List.mem_map_of_mem member)
  rw [Members.has_put, decide_eq_false different, Bool.false_or]

theorem withDependencies_empty (dependencies : Dependencies) :
    withDependencies [] dependencies = asMembers dependencies := by
  have all : missing [] dependencies = dependencies := by simp [missing, Members.has]
  rw [withDependencies, all, List.nil_append]

/-- Writing back a section with what is asked for in it comes first. -/
theorem withSections_put (distinct : (Members.names manifest).Nodup)
    (absent : name ∉ sections.map Prod.fst) (object : sectionOf name manifest = .object members) :
    withSections (Members.put name (.object (withDependencies members dependencies)) manifest)
      sections = withSections manifest ((name, dependencies) :: sections) := by
  rw [withSections, withSections, lacking_put absent]
  cases held : Members.has name manifest with
  | true =>
    have behind : lacking manifest ((name, dependencies) :: sections) =
        lacking manifest sections := by
      simp [lacking, held]
    rw [behind, Members.put_of_mem distinct (Members.has_iff.mp held), List.map_map]
    congr 1
    refine List.map_congr_left fun member among => ?_
    obtain ⟨other, datum⟩ := member
    by_cases same : other = name
    · subst same
      have datum' : datum = .object members := by
        rw [← object, sectionOf, Members.lookup_of_mem distinct among]
        rfl
      rw [Function.comp, if_pos rfl, withRequested_of_not_mem absent, datum', withRequested,
        requested_cons, if_pos rfl]
    · rw [Function.comp, if_neg same, withRequested_cons_of_ne same]
  | false =>
    have free : manifest.lookup name = none := by
      rwa [Members.has, Option.isSome_eq_false_iff, Option.isNone_iff_eq_none] at held
    have outside : name ∉ Members.names manifest := fun among =>
      Bool.false_ne_true (held.symm.trans (Members.has_iff.mpr among))
    obtain rfl : [] = members := by simpa [sectionOf, free] using object
    have behind : lacking manifest ((name, dependencies) :: sections) =
        (name, dependencies) :: lacking manifest sections := by
      simp [lacking, held]
    have others : ∀ member ∈ manifest, withRequested sections member =
        withRequested ((name, dependencies) :: sections) member := by
      intro member among
      refine (withRequested_cons_of_ne fun same => outside ?_).symm
      rw [← same]
      exact Members.mem_names among
    rw [behind, Members.put_of_not_mem outside, List.map_append, List.map_congr_left others,
      List.map_singleton, withRequested_of_not_mem absent, withDependencies_empty,
      List.append_assoc]
    rfl

/-- What adding sections to a manifest gives. -/
theorem exists_addSections (named : (Members.names manifest).Nodup)
    (distinct : (sections.map Prod.fst).Nodup)
    (each : ∀ part ∈ sections, (part.2.map Prod.fst).Nodup)
    (objects : ∀ part ∈ sections, isObject (sectionOf part.1 manifest) = true) :
    ∃ added, addSections (.object manifest) sections =
      .ok (.object (withSections manifest sections), added) := by
  induction sections generalizing manifest with
  | nil => exact ⟨[], by rw [addSections, withSections_nil]⟩
  | cons part rest inductionHypothesis =>
    obtain ⟨name, dependencies⟩ := part
    obtain ⟨absent, distinct⟩ := List.nodup_cons.mp distinct
    obtain ⟨first, each⟩ := List.forall_mem_cons.mp each
    obtain ⟨object, objects⟩ := List.forall_mem_cons.mp objects
    cases found : sectionOf name manifest with
    | object members =>
      have others : ∀ part ∈ rest, isObject (sectionOf part.1 (Members.put name
          (.object (withDependencies members dependencies)) manifest)) = true := by
        intro part member
        rw [sectionOf_put, if_neg]
        · exact objects part member
        · intro same
          refine absent (show name ∈ _ from ?_)
          rw [same]
          exact List.mem_map_of_mem member
      obtain ⟨added, done⟩ :=
        inductionHypothesis (Members.nodup_names_put named) distinct each others
      rw [addSections_cons, found, addAll_eq first]
      dsimp only
      rw [done, withSections_put named absent found]
      exact ⟨_, rfl⟩
    | _ => simp [found, isObject] at object

/-! ### Merging -/

variable {tree : Tree} {path : Path} {bytes : Utf8.Bytes}

/-- Merging into a file that holds a manifest which names all that is asked for. -/
theorem mergeDependencies_of_nothing {manifest merged : Datum}
    (stands : tree.standing path = .file)
    (held : tree.find? (spelled path) = some (.file bytes)) (holds : Holds bytes manifest)
    (done : addSections manifest sections = .ok (merged, [])) :
    ∃ outcome, mergeDependencies path sections tree = (.ok outcome, tree) ∧
      outcome.status = .skipped := by
  obtain ⟨text, read, parsed⟩ := holds
  rw [mergeDependencies, bind_apply, existing_of_file stands held, read]
  dsimp only
  rw [Files.bind_mk_apply, parsed path]
  dsimp only
  rw [Files.bind_mk_apply, done]
  exact ⟨_, rfl, rfl⟩

/-- Merging into a file that holds a manifest which lacks a name that is asked for. -/
theorem mergeDependencies_of_added {manifest merged : Datum} {added : List Word} {new : Text}
    (stands : tree.standing path = .file)
    (held : tree.find? (spelled path) = some (.file bytes)) (holds : Holds bytes manifest)
    (done : addSections manifest sections = .ok (merged, added)) (some' : added ≠ [])
    (text : (manifestWord merged).text = .ok new) :
    ∃ outcome, mergeDependencies path sections tree =
        (.ok outcome, tree.put (spelled path) (.file (Utf8.encode new))) ∧
      outcome.status = .applied := by
  obtain ⟨old, read, parsed⟩ := holds
  rw [mergeDependencies, bind_apply, existing_of_file stands held, read]
  dsimp only
  rw [Files.bind_mk_apply, parsed path]
  dsimp only
  rw [Files.bind_mk_apply, done]
  dsimp only
  rw [if_neg (mt List.isEmpty_iff.mp some'), bind_apply, writeWord_of_file stands, text]
  exact ⟨_, rfl, rfl⟩

/-- A merge that fails changes nothing, unless the manifest that would be written is no text. -/
theorem eq_of_mergeDependencies_error {failure : Failure} {after : Tree}
    (failed : mergeDependencies path sections tree = (.error failure, after))
    (spells : ∀ fault, failure ≠ .unencodable fault) : after = tree := by
  by_cases stands : tree.standing path = .file
  · obtain ⟨-, bytes, held⟩ := standing_eq_file.mp stands
    rw [mergeDependencies, bind_apply, existing_of_file stands held] at failed
    cases read : textOf bytes with
    | error fault =>
      rw [read] at failed
      exact (congrArg Prod.snd failed).symm
    | ok text =>
      rw [read] at failed
      dsimp only at failed
      rw [Files.bind_mk_apply] at failed
      cases parsed : readManifest path text with
      | error fault =>
        rw [parsed] at failed
        exact (congrArg Prod.snd failed).symm
      | ok manifest =>
        rw [parsed] at failed
        dsimp only at failed
        rw [Files.bind_mk_apply] at failed
        cases done : addSections manifest sections with
        | error fault =>
          rw [done] at failed
          exact (congrArg Prod.snd failed).symm
        | ok result =>
          rw [done] at failed
          dsimp only at failed
          split at failed
          · cases failed
          · rw [bind_apply, writeWord_of_file stands] at failed
            cases text : (manifestWord result.1).text with
            | ok new =>
              rw [text] at failed
              cases failed
            | error fault =>
              rw [text] at failed
              exact absurd (Except.error.inj (congrArg Prod.fst failed)).symm (spells fault)
  · have same : (mergeDependencies path sections tree).2 = tree :=
      Edit.mergeDependencies_of_not_file stands
    rwa [failed] at same

theorem nodup_names_of_holds (holds : Holds bytes (.object manifest)) :
    (Members.names manifest).Nodup := by
  obtain ⟨text, -, parsed⟩ := holds
  have read := parsed ⟨[], []⟩
  rw [readManifest] at read
  split at read
  · rename_i found
    rw [Except.ok.inj read] at found
    exact (Json.isNamed_read found).of_object.1
  · cases read
  · cases read

/-- Merging what a manifest names already. -/
theorem mergeDependencies_of_namesAll (fragment : IsFragment sections)
    (stands : tree.standing path = .file) (held : tree.find? (spelled path) = some (.file bytes))
    (holds : Holds bytes (.object manifest))
    (objects : ∀ part ∈ sections, isObject (sectionOf part.1 manifest) = true)
    (all : NamesAll manifest sections) :
    ∃ outcome, mergeDependencies path sections tree = (.ok outcome, tree) ∧
      outcome.status = .skipped := by
  obtain ⟨added, done⟩ :=
    exists_addSections (nodup_names_of_holds holds) fragment.distinct fragment.each objects
  obtain ⟨-, -, -, -, needless⟩ := includes_of_addSections done
  rw [needless.mpr all] at done
  exact mergeDependencies_of_nothing stands held holds done

/-- For every file that holds a manifest whose sections of dependencies are objects, and for every
fragment: if the manifest names all that the fragment asks for, the file stays as it is. Otherwise,
if the manifest with what the fragment asks for is a text, the file holds that manifest. Either way
merging the fragment once more changes nothing. A merge that fails, of whatever into whatever, has
changed nothing, unless the manifest that would be written is no text. -/
theorem mergeDependencies_only_adds {code : Text} {manifests : Datum → Prop}
    (parsed : readFragment code = .ok sections) (stands : tree.standing path = .file)
    (held : tree.find? (spelled path) = some (.file bytes)) (holds : Holds bytes (.object manifest))
    (objects : ∀ name ∈ sectionNames, isObject (sectionOf name manifest) = true)
    (faithful : Faithful manifests)
    (among : manifests (.object (withSections manifest sections))) :
    (NamesAll manifest sections ∨
        (manifestWord (.object (withSections manifest sections))).text.isOk = true →
      ∃ outcome new,
        mergeDependencies path sections tree =
          (.ok outcome, tree.put (spelled path) (.file new)) ∧
        (NamesAll manifest sections → outcome.status = .skipped ∧ new = bytes) ∧
        (¬ NamesAll manifest sections →
          outcome.status = .applied ∧ Holds new (.object (withSections manifest sections))) ∧
        ∃ again, again.status = .skipped ∧
          mergeDependencies path sections (tree.put (spelled path) (.file new)) =
            (.ok again, tree.put (spelled path) (.file new))) ∧
      ∀ path sections tree failure after,
        mergeDependencies path sections tree = (.error failure, after) →
        (∀ fault, failure ≠ .unencodable fault) → after = tree := by
  refine ⟨fun either => ?_, fun path sections tree failure after =>
    eq_of_mergeDependencies_error⟩
  have fragment := isFragment_of_readFragment parsed
  have asked : ∀ part ∈ sections, isObject (sectionOf part.1 manifest) = true :=
    fun part member => objects part.1 (fragment.known part member)
  by_cases all : NamesAll manifest sections
  · obtain ⟨outcome, ran, skipped⟩ :=
      mergeDependencies_of_namesAll fragment stands held holds asked all
    refine ⟨outcome, bytes, ?_, fun _ => ⟨skipped, rfl⟩, fun lacks => absurd all lacks, outcome,
      skipped, ?_⟩
    · rw [ran, put_of_find? held]
    · rw [put_of_find? held, ran]
  · obtain ⟨added, done⟩ :=
      exists_addSections (nodup_names_of_holds holds) fragment.distinct fragment.each asked
    obtain ⟨final, same, includes, named, needless⟩ := includes_of_addSections done
    obtain rfl : withSections manifest sections = final := Datum.object.inj same
    cases text : (manifestWord (.object (withSections manifest sections))).text with
    | error fault =>
      rw [text] at either
      exact absurd (either.resolve_left all) Bool.false_ne_true
    | ok new =>
      obtain ⟨outcome, ran, applied⟩ :=
        mergeDependencies_of_added stands held holds done (mt needless.mp all) text
      have reads : Holds (Utf8.encode new) (.object (withSections manifest sections)) :=
        ⟨_, textOf_encode _, faithful _ among new text⟩
      have written := Files.written_write path new tree
      rw [Files.write_of_file stands] at written
      obtain ⟨stands', held'⟩ := written.written rfl
      obtain ⟨again, reran, skipped⟩ := mergeDependencies_of_namesAll fragment stands' held' reads
        (fun part member => (includes.object part.1).trans (asked part member)) named
      exact ⟨outcome, _, ran, fun yes => absurd yes all, fun _ => ⟨applied, reads⟩, again, skipped,
        reran⟩

/-! ### A small manifest -/

/-- The path of a manifest. -/
def manifestPath : Path := .ofText "package.json".toList

/-- A tree that holds nothing but a manifest. -/
def manifestTree (text : Text) : Tree :=
  ⟨[([[], "package.json".toList], .file (Utf8.encode text))]⟩

/-- A manifest with one dependency. -/
def smallManifest : Members :=
  [(.ofString "a", .int 1),
    (.ofString "dependencies", .object [(.ofString "x", .string (.ofString "1"))])]

/-- The text of that manifest, on a line. -/
def smallText : Text := "\x7b\"a\": 1, \"dependencies\": \x7b\"x\": \"1\"\x7d\x7d".toList

/-- A request for that dependency in another version, and for another one. -/
def smallSections : Sections :=
  [(.ofString "dependencies",
    [(.ofString "x", .ofString "2"), (.ofString "y", .ofString "3")])]

set_option maxRecDepth 100000 in
/-- One name is added, and the version that is there stays. -/
theorem merge_adds_missing_name :
    ∃ outcome new,
      mergeDependencies manifestPath smallSections (manifestTree smallText) =
        (.ok outcome, (manifestTree smallText).put (spelled manifestPath) (.file new)) ∧
      outcome.status = .applied ∧ Holds new (.object [(.ofString "a", .int 1),
        (.ofString "dependencies", .object [(.ofString "x", .string (.ofString "1")),
          (.ofString "y", .string (.ofString "3"))])]) := by
  have parsed : readFragment "\"x\": \"2\",\n\"y\": \"3\",\n".toList = .ok smallSections :=
    eq_ok_of_toOption (by decide +kernel)
  have read : readManifest manifestPath (Text.unifyNewlines smallText) =
      .ok (.object smallManifest) := eq_ok_of_toOption (by decide +kernel)
  have back : ((manifestWord (.object (withSections smallManifest smallSections))).text.toOption
      |>.bind fun text => (readManifest manifestPath (Text.unifyNewlines text)).toOption) =
      some (.object (withSections smallManifest smallSections)) := by decide +kernel
  have stands : (manifestTree smallText).standing manifestPath = .file := by decide +kernel
  have faithful : Faithful (· = .object (withSections smallManifest smallSections)) := by
    rintro manifest rfl text written
    rw [written] at back
    exact readManifest_congr (eq_ok_of_toOption back)
  obtain ⟨returns, -⟩ := mergeDependencies_only_adds parsed stands rfl
    ⟨_, textOf_encode _, readManifest_congr read⟩ (by decide +kernel) faithful rfl
  obtain ⟨outcome, new, ran, -, made, -⟩ := returns (.inr (by decide +kernel))
  refine ⟨outcome, new, ran, made fun all => ?_⟩
  have named := all (smallSections.head (by decide)) (List.head_mem _)
    (.ofString "y", .ofString "3") (by decide)
  exact absurd named (by decide +kernel)

/-- A fragment with a section in which it asks for nothing. -/
def idleFragment : Text :=
  "\x7b\"dependencies\": \x7b\x7d, \"devDependencies\": \x7b\"b\": \"2\"\x7d\x7d".toList

/-- The text of a manifest with half of a surrogate pair. -/
def halvedText : Text :=
  "\x7b\"author\": \"\\ud83d\", \"dependencies\": \x7b\"a\": \"1\"\x7d\x7d".toList

/-- A request for one dependency. -/
def oneSection : Sections := [(runtimeSection, [(.ofString "x", .ofString "1")])]

set_option maxRecDepth 100000 in
/-- A section in which nothing is asked for comes to be in a manifest that lacks it, if a name is
asked for in another one. A manifest with half of a surrogate pair cannot be written, and its file
has been emptied. -/
theorem merge_makes_idle_section_or_empties :
    ((readFragment idleFragment).toOption.map fun sections =>
      (((mergeDependencies manifestPath sections (manifestTree "\x7b\x7d".toList)).2.read
        manifestPath).toOption.bind fun text => (Json.read text).toOption)) =
      some (some (.object [(.ofString "dependencies", .object []),
        (.ofString "devDependencies", .object [(.ofString "b", .string (.ofString "2"))])])) ∧
    (readFragment "\"x\": \"1\"".toList).toOption = some oneSection ∧
    (readManifest manifestPath halvedText).toOption = some (.object
      [(.ofString "author", .string [.half 0x3d]),
        (runtimeSection, .object [(.ofString "a", .string (.ofString "1"))])]) ∧
    (mergeDependencies manifestPath oneSection (manifestTree halvedText)).1.isOk = false ∧
    ((mergeDependencies manifestPath oneSection (manifestTree halvedText)).2.read
      manifestPath).toOption = some [] :=
  ⟨by decide +kernel, by decide +kernel, by decide +kernel, by decide +kernel, by decide +kernel⟩

end GuidedMigration.Target
