/-
This file follows the template and the local document into their files. Building them loads both,
writes the template and then the local document, and what stays behind is a pair that compares equal
to the one that follows from what was loaded. Where both can be stored, building succeeds.

It also says what the local document is when there was none before: the template that is written,
with the values filled in that are known. Each contribution knows no more than the values that its
own placeholders ask for, and is filled in before it is merged; the template that is there is filled
in with the values of all contributions. That comes to the same, because filling in can be done
before or after a merge, and because every contribution takes its values from the same ones, so that
no two of them know different values for one name.

A template can hold an integer that is read and is too long to be written, from digits to another
base than ten. Then building is refused before any file is touched.
-/
import GuidedMigration.Migration.Executor
import GuidedMigration.Proofs.Config.Carried
import GuidedMigration.Proofs.Config.Replayed
import GuidedMigration.Proofs.Config.Stored
import GuidedMigration.Proofs.Config.Writable
import GuidedMigration.Proofs.Value.Filled

namespace GuidedMigration

open GuidedMigration.Tree

/-- A file that is written where one is does not change what stands anywhere. -/
theorem Tree.grows_of_put_file {tree : Tree} {place : Path.Place} {bytes fresh : Utf8.Bytes}
    (found : tree.find? place = some (.file bytes)) :
    (tree.put place (.file fresh)).Grows tree := by
  intro other kind stands
  by_cases same : other = place
  · subst same
    have ground : isGround other = false := @isGround_of_find? tree other (by simp [found])
    rw [kindAt?, find?_put_same ground] at stands
    rw [← stands, kindAt?, found]
    rfl
  · rwa [kindAt?, find?_put_of_ne same, ← kindAt?] at stands

namespace Config.Contributions

variable {tree after : Tree} {templatePath localPath : Path} {contributions : Contributions}
  {template locals : Mapping} {answer : Option Pair}

/-! ### Building, step by step -/

/-- Of the documents that are there, building makes a pair, and writes it. -/
theorem exists_writes_of_build (dual : contributions.isDual = true)
    (held : load templatePath tree = (.ok template, tree))
    (heldLocals : load localPath tree = (.ok locals, tree))
    (done : contributions.build templatePath localPath tree = (.ok answer, after)) :
    answer = some (contributions.pairFrom template locals) ∧ ∃ changed changed' between,
      write templatePath (contributions.pairFrom template locals).template tree =
        (.ok changed, between) ∧
      write localPath (contributions.pairFrom template locals).locals between =
        (.ok changed', after) := by
  rw [build, dual, if_pos rfl] at done
  obtain ⟨template', _, loaded, rest⟩ := Files.exists_of_bind_ok done
  obtain ⟨same, rfl⟩ := Prod.mk.inj (held.symm.trans loaded)
  obtain rfl := Except.ok.inj same
  obtain ⟨locals', _, loadedLocals, writes⟩ := Files.exists_of_bind_ok rest
  obtain ⟨same, rfl⟩ := Prod.mk.inj (heldLocals.symm.trans loadedLocals)
  obtain rfl := Except.ok.inj same
  obtain ⟨changed, between, first, last⟩ := Files.exists_of_bind_ok writes
  obtain ⟨changed', final, second, returned⟩ := Files.exists_of_bind_ok last
  obtain ⟨said, rfl⟩ := Prod.mk.inj returned
  exact ⟨(Except.ok.inj said).symm, changed, changed', between, first, second⟩

theorem build_of_writes (dual : contributions.isDual = true) {between : Tree}
    {changed changed' : Bool} (held : load templatePath tree = (.ok template, tree))
    (heldLocals : load localPath tree = (.ok locals, tree))
    (first : write templatePath (contributions.pairFrom template locals).template tree =
      (.ok changed, between))
    (second : write localPath (contributions.pairFrom template locals).locals between =
      (.ok changed', after)) :
    contributions.build templatePath localPath tree =
      (.ok (some (contributions.pairFrom template locals)), after) := by
  rw [build, dual, if_pos rfl, bind_apply, held]
  dsimp only
  rw [bind_apply, heldLocals]
  dsimp only
  rw [bind_apply, first]
  dsimp only
  rw [bind_apply, second]
  rfl

/-- With a value for a placeholder, writing the contributions is building both documents. -/
theorem flush_of_dual (dual : contributions.isDual = true) (templatePath localPath : Path) :
    contributions.flush templatePath localPath = contributions.build templatePath localPath := by
  rw [flush, dual, if_pos rfl]

/-! ### What is left -/

/-- What is stored at another path stays when a document is written. -/
theorem isStored_of_write {path other : Path} {document : Mapping} {changed : Bool}
    {held : Option Mapping} (done : write path document tree = (.ok changed, after))
    (apart : spelled other ≠ spelled path) (found : held = none → tree.standing path ≠ .lost)
    (stored : IsStored tree other held) : IsStored after other held := by
  rcases write_cases done with ⟨rfl, -⟩ | written
  · exact stored
  · exact isStored_of_written written apart found stored

/-- Where a document is stored, writing another one keeps it, if they compare equal, or replaces it.
-/
theorem write_cases_of_stored {path : Path} {old document : Mapping} {changed : Bool}
    (stored : IsStored tree path (some old))
    (done : write path document tree = (.ok changed, after)) :
    after = tree ∧ Value.agrees (.map old) (.map document) = true ∨
      after = tree.put (spelled path) (.file (Utf8.encode (documentText document))) := by
  rcases write_cases done with ⟨same, old', stored', kept⟩ | written
  · rw [Option.some.inj (stored.eq stored')]
    exact .inl ⟨same, kept⟩
  · rw [Files.write_of_free stored.isFree] at written
    exact .inr (Prod.mk.inj written).2.symm

/-- Where a document is stored, writing another one lets nothing else appear. -/
theorem grows_of_write_stored {path : Path} {old document : Mapping} {changed : Bool}
    (stored : IsStored tree path (some old))
    (done : write path document tree = (.ok changed, after)) : after.Grows tree := by
  rcases write_cases_of_stored stored done with ⟨rfl, -⟩ | put
  · exact .refl _
  · cases stored with
    | held bytes stands found => exact put ▸ grows_of_put_file found

/-- What is left at a path where a document was to be written over an old one: the document, or the
old one if that is alike. -/
structure IsLeft (tree : Tree) (path : Path) (old document kept : Mapping) : Prop where
  stored : IsStored tree path (some kept)
  alike : kept.Alike document
  either : kept = document ∨ kept = old

theorem isLeft_of_write {path : Path} {old document : Mapping} {changed : Bool}
    (held : load path tree = (.ok old, tree)) (loads : LoadsBack document)
    (done : write path document tree = (.ok changed, after)) :
    ∃ kept, IsLeft after path old document kept := by
  obtain ⟨kept, stores, alike, written | untouched⟩ := stores_of_write loads done
  · exact ⟨kept, stores.stored, alike, .inl written⟩
  · have same := stores.stored.load
    rw [untouched, held] at same
    exact ⟨kept, stores.stored, alike, .inr (Except.ok.inj (Prod.mk.inj same).1).symm⟩

variable {held heldLocals : Option Mapping}

theorem standing_ne_lost_of_stored (stored : IsStored tree templatePath held) :
    tree.standing templatePath ≠ .lost := by
  rcases stored.isFree with free | free <;> simp [free]

/-- Where both documents can be stored, they are built if they can be written. -/
theorem exists_build (dual : contributions.isDual = true)
    (apart : spelled localPath ≠ spelled templatePath)
    (stored : IsStored tree templatePath held)
    (storedLocals : IsStored tree localPath heldLocals)
    (writable :
      isWritable (contributions.pairFrom (held.getD []) (heldLocals.getD [])).template = true)
    (writableLocals :
      isWritable (contributions.pairFrom (held.getD []) (heldLocals.getD [])).locals = true) :
    ∃ after, contributions.build templatePath localPath tree =
      (.ok (some (contributions.pairFrom (held.getD []) (heldLocals.getD []))), after) := by
  obtain ⟨changed, between, first⟩ := exists_write stored writable
  have beside := isStored_of_write first apart (fun _ => standing_ne_lost_of_stored stored)
    storedLocals
  obtain ⟨changed', after, second⟩ := exists_write beside writableLocals
  exact ⟨after, build_of_writes dual stored.load storedLocals.load first second⟩

/-- Where there is no file, a document that cannot be written is refused. -/
theorem write_of_missing_of_not_writable {path : Path} {document : Mapping}
    (absent : tree.exists? path = .ok false) (long : isWritable document = false) :
    write path document tree = (.error (.value .unwritableInteger), tree) := by
  rw [write, bind_apply, Files.exists?, Files.ask, absent]
  dsimp only
  rw [if_neg Bool.false_ne_true, bind_apply, writeDocument_of_not_writable long]

/-- Where a file holds a document, another one that cannot be written is refused, unless the two
compare equal. -/
theorem write_of_stored_of_not_writable {path : Path} {old document : Mapping}
    (stored : IsStored tree path (some old)) (long : isWritable document = false) :
    write path document tree = (.ok false, tree) ∨
      write path document tree = (.error (.value .unwritableInteger), tree) := by
  cases kept : isKept old document with
  | true => exact .inl (write_of_kept stored kept)
  | false =>
    rw [isKept] at kept
    rw [write, bind_apply, Files.exists?, Files.ask, stored.exists?]
    dsimp only [Option.isSome]
    rw [if_pos rfl, bind_apply, stored.load]
    dsimp only [Option.getD]
    rw [kept, if_neg Bool.false_ne_true, bind_apply, writeDocument_of_not_writable long]
    exact .inr rfl

/-- Where there is a template and no local document, a pair that cannot be written is refused, and
no file is touched. -/
theorem build_of_not_writable (dual : contributions.isDual = true)
    (stored : IsStored tree templatePath (some template))
    (absent : tree.exists? localPath = .ok false)
    (long : isWritable (contributions.pairFrom template []).template = false)
    (longLocals : isWritable (contributions.pairFrom template []).locals = false) :
    contributions.build templatePath localPath tree =
      (.error (.value .unwritableInteger), tree) := by
  rw [build, dual, if_pos rfl, bind_apply, stored.load]
  dsimp only [Option.getD]
  rw [bind_apply, load_of_free absent]
  dsimp only
  rw [bind_apply]
  rcases write_of_stored_of_not_writable stored long with kept | refused
  · rw [kept]
    dsimp only
    rw [bind_apply, write_of_missing_of_not_writable absent longLocals]
  · rw [refused]

/-- What building leaves in the two files. -/
theorem isLeft_of_build (dual : contributions.isDual = true)
    (apart : spelled localPath ≠ spelled templatePath)
    (stored : IsStored tree templatePath held) (storedLocals : IsStored tree localPath heldLocals)
    (loads : LoadsBack (contributions.pairFrom (held.getD []) (heldLocals.getD [])).template)
    (loadsLocals : LoadsBack (contributions.pairFrom (held.getD []) (heldLocals.getD [])).locals)
    (done : contributions.build templatePath localPath tree = (.ok answer, after)) :
    answer = some (contributions.pairFrom (held.getD []) (heldLocals.getD [])) ∧
      ∃ kept keptLocals,
        IsLeft after templatePath (held.getD [])
          (contributions.pairFrom (held.getD []) (heldLocals.getD [])).template kept ∧
        IsLeft after localPath (heldLocals.getD [])
          (contributions.pairFrom (held.getD []) (heldLocals.getD [])).locals keptLocals := by
  obtain ⟨rfl, changed, changed', between, first, second⟩ :=
    exists_writes_of_build dual stored.load storedLocals.load done
  have beside := isStored_of_write first apart (fun _ => standing_ne_lost_of_stored stored)
    storedLocals
  obtain ⟨kept, left⟩ := isLeft_of_write stored.load loads first
  obtain ⟨keptLocals, leftLocals⟩ := isLeft_of_write beside.load loadsLocals second
  exact ⟨rfl, kept, keptLocals, ⟨isStored_of_write second apart.symm (by simp) left.stored,
    left.alike, left.either⟩, leftLocals⟩

end Config.Contributions

end GuidedMigration

namespace GuidedMigration.Config

open Value GuidedMigration.Tree

/-! ### Nothing to carry back -/

theorem carriedEntries_eq_nil {path : List Text} {template : Mapping}
    {entries : List (Scalar × Value)}
    (each : ∀ key value, (key, value) ∈ entries →
      ∀ inner, carriedValue inner (Mapping.get? key template) value = none) :
    carriedEntries path template entries = [] := by
  induction entries with
  | nil => rfl
  | cons entry rest inductionHypothesis =>
    obtain ⟨key, value⟩ := entry
    rw [carriedEntries, each key value List.mem_cons_self]
    exact inductionHypothesis fun key value member => each key value (List.mem_cons_of_mem _ member)

/-- Nothing is carried to what holds something wherever the local document does, and not the empty
value where that holds a mapping. -/
theorem carriedTo_eq_none {held new : Option Value} (keyed : new.all isKeyed = true)
    (within : ∀ trail, Value.blocks trail held = false → (behind trail new).isSome = true →
      behind trail held ≠ none ∧
        ∀ entries, behind trail new = some (.map entries) → behind trail held ≠ some null)
    (path : List Text) : carriedTo path held new = none := by
  match new with
  | none => rfl
  | some (.list _) | some (.set _) | some (.scalar _) =>
    obtain ⟨old, rfl⟩ := Option.ne_none_iff_exists'.mp (within [] rfl rfl).1
    rfl
  | some (.map entries) =>
    obtain ⟨present, full⟩ := within [] rfl rfl
    obtain ⟨old, rfl⟩ := Option.ne_none_iff_exists'.mp present
    match old with
    | .scalar .null => exact absurd rfl (full entries rfl)
    | .scalar (.text _) | .scalar (.bool _) | .scalar (.int _) | .scalar (.double _)
    | .scalar (.date _) | .scalar (.moment _) | .scalar (.bytes _) | .list _ | .set _ => rfl
    | .map template =>
      have entriesKeyed : Mapping.isKeyed entries = true := by simpa [isKeyed] using keyed
      have nothing : carriedEntries path template entries = [] := by
        refine carriedEntries_eq_nil fun key value member inner => ?_
        have found := Mapping.get?_of_mem entriesKeyed member
        show carriedTo inner (Mapping.get? key template) (some value) = none
        refine carriedTo_eq_none
          (by simpa using Mapping.isKeyed_of_get? entriesKeyed found) (fun trail unblocked => ?_)
          inner
        have longer := within (key :: trail) unblocked
        rwa [behind_cons, behind_cons, child_map, child_map, found] at longer
      rw [carriedTo, Option.bind_some, carriedValue, nothing]
termination_by sizeOf new
decreasing_by
  have smaller := Mapping.sizeOf_lt_of_get? found
  simp only [Option.some.sizeOf_spec, map.sizeOf_spec]
  omega

/-- Nothing is carried back from a local document to a template that holds something wherever the
local document does. -/
theorem carried_eq_nil {template locals : Mapping} (keyed : Mapping.isKeyed locals = true)
    (within : ∀ trail, Mapping.blocks trail template = false →
      (Mapping.at? trail locals).isSome = true → Mapping.at? trail template ≠ none ∧
        ∀ entries, Mapping.at? trail locals = some (.map entries) →
          Mapping.at? trail template ≠ some null) : carried template locals = [] := by
  have nothing : carriedTo [] (some (.map template)) (some (.map locals)) = none :=
    carriedTo_eq_none (by simpa [isKeyed] using keyed) within []
  rw [carriedTo, Option.bind_some, carriedValue] at nothing
  rw [carried]
  split at nothing
  · assumption
  · simp at nothing

/-- Nothing is carried back from a template that was filled in. -/
theorem carried_of_alike_fill {template locals : Mapping} {values : Placeholder.Values}
    (keyed : Mapping.isKeyed locals = true) (alike : locals.Alike (template.fill values)) :
    carried template locals = [] := by
  refine carried_eq_nil keyed fun trail _ present => ?_
  have same := alike.at? trail
  rw [Mapping.at?_fill] at same
  refine ⟨fun missing => ?_, fun entries mapping null => ?_⟩
  · rw [same.isSome, missing] at present
    simp at present
  · rw [mapping, null] at same
    obtain ⟨inner, filled, -⟩ := same.eq_map
    simp [fill, Value.null, mapTexts] at filled

namespace Contributions

variable {values : Placeholder.Values} {contributions : Contributions} {template : Mapping}

/-! ### The values of the contributions -/

/-- Whether every contribution knows those of the values that its placeholders ask for. -/
def AreDrawnFrom (values : Placeholder.Values) (contributions : Contributions) : Prop :=
  ∀ part ∈ contributions, part = Executor.contributionOf values part.label part.fragment

/-- Whether a contribution asks for a name. -/
def asks (name : Text) (contributions : Contributions) : Bool :=
  contributions.any fun part => part.fragment.placeholders.contains name

namespace AreDrawnFrom

variable {part : Contribution} (drawn : contributions.AreDrawnFrom values)
  (member : part ∈ contributions)

include drawn member

/-- What a contribution knows for a name. -/
theorem get?_of_mem (name : Text) : part.values.get? name =
    if part.fragment.placeholders.contains name then values.get? name else none := by
  rw [congrArg Contribution.values (drawn part member)]
  exact Placeholder.Values.get?_filter part.fragment.placeholders.contains

theorem nodup_of_mem (distinct : (values.map Prod.fst).Nodup) :
    (part.values.map Prod.fst).Nodup := by
  rw [congrArg Contribution.values (drawn part member)]
  exact distinct.sublist (List.filter_sublist.map _)

end AreDrawnFrom

/-- The contributions know the values of the names that they ask for. -/
theorem get?_values (distinct : (values.map Prod.fst).Nodup)
    (drawn : contributions.AreDrawnFrom values) (name : Text) :
    contributions.values.get? name =
      if contributions.asks name then values.get? name else none := by
  have folded (known : Placeholder.Values) :
      (contributions.foldl (fun merged part => merged.update part.values) known).get? name =
        (if contributions.asks name then values.get? name else none).or (known.get? name) := by
    induction contributions generalizing known with
    | nil => rfl
    | cons part rest inductionHypothesis =>
      rw [List.foldl_cons, inductionHypothesis fun other member =>
        drawn other (List.mem_cons_of_mem _ member),
        Placeholder.Values.get?_update (drawn.nodup_of_mem List.mem_cons_self distinct),
        drawn.get?_of_mem List.mem_cons_self,
        show asks name (part :: rest) = (part.fragment.placeholders.contains name || asks name rest)
          from List.any_cons]
      by_cases here : part.fragment.placeholders.contains name = true <;>
        by_cases later : asks name rest = true <;>
        simp only [here, later, if_true, Bool.or_self, Bool.or_true, Bool.or_false] <;>
        cases values.get? name <;> simp
  rw [Contributions.values, folded]
  simp [Placeholder.Values.get?]

/-- A contribution is filled in with its own values as with all values. -/
theorem localFragment_of_drawn (distinct : (values.map Prod.fst).Nodup)
    (drawn : contributions.AreDrawnFrom values) {part : Contribution}
    (member : part ∈ contributions) :
    part.localFragment = part.fragment.fill contributions.values := by
  refine Mapping.fill_congr fun name named => ?_
  have asked : part.fragment.placeholders.contains name = true := by simpa using named
  have asking : contributions.asks name = true := List.any_eq_true.mpr ⟨part, member, asked⟩
  rw [get?_values distinct drawn, asking, if_pos rfl, drawn.get?_of_mem member, if_pos asked]

/-- What the contributions come to with their values is what they come to, filled in. -/
theorem localFragment_eq_fill (distinct : (values.map Prod.fst).Nodup)
    (drawn : contributions.AreDrawnFrom values) :
    contributions.localFragment = contributions.templateFragment.fill contributions.values := by
  calc
    contributions.localFragment
      = (contributions.map Contribution.localFragment).foldl Mapping.merge [] := by
        rw [localFragment, List.foldl_map]
    _ = (contributions.fragments.map (Mapping.fill contributions.values)).foldl
          Mapping.merge [] := by
        rw [fragments, List.map_map]
        exact congrArg (List.foldl Mapping.merge []) (List.map_congr_left fun part member =>
          localFragment_of_drawn distinct drawn member)
    _ = contributions.templateFragment.fill contributions.values := by
        rw [templateFragment_eq, mergedInto, Mapping.fill_foldl_merge]
        rfl

/-! ### Without a local document -/

/-- Where there is no local document, it is the template that is written, filled in. -/
theorem pairFrom_nil (distinct : (values.map Prod.fst).Nodup)
    (drawn : contributions.AreDrawnFrom values)
    (keyed : ∀ part ∈ contributions, Mapping.isKeyed part.fragment = true)
    (templateKeyed : Mapping.isKeyed template = true) :
    contributions.pairFrom template [] =
      ⟨template.merge contributions.templateFragment,
        (template.merge contributions.templateFragment).fill contributions.values⟩ := by
  have filled : (template.fill contributions.values).merge contributions.localFragment =
      (template.merge contributions.templateFragment).fill contributions.values := by
    rw [localFragment_eq_fill distinct drawn, Mapping.fill_merge]
  have nothing : carried (template.merge contributions.templateFragment)
      ((template.merge contributions.templateFragment).fill contributions.values) = [] := by
    refine carried_of_alike_fill ?_ (.refl _)
    rw [Mapping.isKeyed_fill]
    exact isKeyed_merge templateKeyed (isKeyed_templateFragment keyed)
  rw [pairFrom]
  simp only [Mapping.merge, filled, nothing]

/-- Building writes the template with everything that was contributed, and beside it, where there
was no local document, that template with the known values filled in. A template that compares equal
to the one that is there is not written again. Where the local document can be stored, both are
built if the template can be written; if it cannot, building is refused and changes nothing. -/
theorem build_fills_template {tree : Tree} {templatePath localPath : Path}
    (distinct : (values.map Prod.fst).Nodup) (drawn : contributions.AreDrawnFrom values)
    (keyed : ∀ part ∈ contributions, Mapping.isKeyed part.fragment = true)
    (dual : contributions.isDual = true) (apart : spelled localPath ≠ spelled templatePath)
    (there : tree.exists? templatePath = .ok true)
    (loaded : (load templatePath tree).1 = .ok template)
    (absent : tree.exists? localPath = .ok false) :
    let merged := template.merge contributions.templateFragment
    let filled := merged.fill contributions.values
    (∀ answer after, contributions.build templatePath localPath tree = (.ok answer, after) →
      answer = some ⟨merged, filled⟩ ∧
      after.find? (spelled localPath) = some (.file (Utf8.encode (documentText filled))) ∧
      (after.find? (spelled templatePath) = some (.file (Utf8.encode (documentText merged))) ∨
        after.find? (spelled templatePath) = tree.find? (spelled templatePath) ∧
          Value.agrees (.map template) (.map merged) = true)) ∧
    (isWritable merged = true → tree.standing localPath = .vacant →
      ∃ after, contributions.build templatePath localPath tree =
        (.ok (some ⟨merged, filled⟩), after)) ∧
    (isWritable merged = false → contributions.build templatePath localPath tree =
      (.error (.value .unwritableInteger), tree)) := by
  intro merged filled
  have pair : contributions.pairFrom template [] = ⟨merged, filled⟩ :=
    pairFrom_nil distinct drawn keyed (isKeyed_load loaded)
  have stored : IsStored tree templatePath (some template) := isStored_of_load there loaded
  have sameWritable : isWritable filled = isWritable merged :=
    isWritable_fill contributions.values merged
  refine ⟨fun answer after done => ?_, fun writable vacant => ?_, fun long => ?_⟩
  · obtain ⟨rfl, changed, changed', between, first, second⟩ :=
      exists_writes_of_build dual stored.load (load_of_free absent) done
    rw [Option.getD_some, pair] at first second ⊢
    have written : Files.write localPath (documentText filled) between = (.ok (), after) := by
      -- a local document that could be kept would have been there before
      refine (write_cases second).resolve_left fun kept => ?_
      obtain ⟨-, old, storedLocals, -⟩ := kept
      cases storedLocals with
      | held bytes stands =>
        have settled : between.IsSettled localPath := by simp [IsSettled, stands]
        have before := (grows_of_write_stored stored first).standing settled
        rw [exists?_of_file (before.trans stands)] at absent
        simp at absent
    have effect := Files.written_write localPath (documentText filled) between
    rw [written] at effect
    have templateStays {node : Node} (found : between.find? (spelled templatePath) = some node) :
        after.find? (spelled templatePath) = some node := by
      rw [← found]
      refine (effect.frame _ apart.symm).resolve_right fun ground => ?_
      rw [ground.1] at found
      simp at found
    refine ⟨rfl, (effect.written rfl).2, ?_⟩
    rcases write_cases_of_stored stored first with ⟨rfl, equal⟩ | put
    · cases stored with
      | held bytes stands found => exact .inr ⟨(templateStays found).trans found.symm, equal⟩
    · exact .inl (templateStays (by rw [put]; exact stored.find?_put _))
  · obtain ⟨after, done⟩ := exists_build dual apart stored (.missing vacant)
      (by rw [Option.getD_some, Option.getD_none, pair]; exact writable)
      (by rw [Option.getD_some, Option.getD_none, pair]; exact sameWritable.trans writable)
    exact ⟨after, by rw [done, Option.getD_some, Option.getD_none, pair]⟩
  · exact build_of_not_writable dual stored absent (by rw [pair]; exact long)
      (by rw [pair]; exact sameWritable.trans long)

/-- A tree with a template whose placeholder nobody knows a value for. -/
def openTree : Tree :=
  ⟨[([[], "app-config.yaml".toList], .file (Utf8.encode "a: $\x7bN\x7d\nb: 1\n".toList))]⟩

/-- A contribution that asks for the placeholder is filled in, and so is the template. -/
theorem build_fills_open_template :
    let template := [(.text "a".toList, .text (Placeholder.ofName "N".toList)),
      (.text "b".toList, .int 1)]
    let contribution := Executor.contributionOf [("M".toList, "u".toList), ("N".toList, "v".toList)]
      "x".toList [(.text "x".toList, .text (Placeholder.ofName "N".toList))]
    ∃ after, build [contribution] (.ofText "app-config.yaml".toList)
        (.ofText "app-config.local.yaml".toList) openTree =
      (.ok (some ⟨Mapping.merge template (templateFragment [contribution]),
        (Mapping.merge template (templateFragment [contribution])).fill
          (Contributions.values [contribution])⟩), after) := by
  intro template contribution
  have drawn : AreDrawnFrom [("M".toList, "u".toList), ("N".toList, "v".toList)]
      [contribution] := by
    intro part member
    rw [List.mem_singleton.mp member]
    rfl
  exact (build_fills_template (by decide) drawn (by decide +kernel) (by decide +kernel)
    (by decide) (eq_ok_of_toOption (by decide +kernel))
    (eq_ok_of_toOption (by decide +kernel)) (eq_ok_of_toOption (by decide +kernel))).2.1
    (by decide +kernel) (by decide +kernel)

/-- A template with an integer of 3573 digits to the base sixteen, the first of which is one. -/
def longTemplate : Text := "a: 0x1".toList ++ List.replicate 3572 '0' ++ ['\n']

/-- A tree with that template. -/
def longTree : Tree := ⟨[([[], "app-config.yaml".toList], .file (Utf8.encode longTemplate))]⟩

/-- The integer is read and cannot be written, so that neither document is built. -/
theorem build_refuses_long_integer :
    (load (.ofText "app-config.yaml".toList) longTree).1 =
        .ok [(.text "a".toList, .int (Nat.pow 16 3572))] ∧
      longTree.standing (.ofText "app-config.local.yaml".toList) = .vacant ∧
      AreDrawnFrom [("N".toList, "v".toList)] [smallContribution] ∧
      (∀ part ∈ [smallContribution], Mapping.isKeyed part.fragment = true) ∧
      isDual [smallContribution] = true ∧
      build [smallContribution] (.ofText "app-config.yaml".toList)
          (.ofText "app-config.local.yaml".toList) longTree =
        (.error (.value .unwritableInteger), longTree) := by
  have parsed : (mappingOf ⟨[], []⟩ longTemplate).toOption =
      some [(.text "a".toList, .int (Nat.pow 16 3572))] := by decide +kernel
  have unchanged : Text.unifyNewlines longTemplate = longTemplate := by
    refine Text.unifyNewlines_of_not_mem ?_
    simp only [longTemplate, List.mem_append, List.mem_replicate]
    decide
  have stored : IsStored longTree (.ofText "app-config.yaml".toList)
      (some [(.text "a".toList, .int (Nat.pow 16 3572))]) :=
    .held _ (by decide +kernel) rfl ⟨longTemplate, by rw [textOf_encode, unchanged],
      fun path => mappingOf_congr (eq_ok_of_toOption parsed) path⟩
  have vacant : longTree.standing (.ofText "app-config.local.yaml".toList) = .vacant := by
    decide +kernel
  have dual : isDual [smallContribution] = true := by decide +kernel
  refine ⟨congrArg Prod.fst stored.load, vacant, fun part member => ?_, by decide +kernel, dual,
    build_of_not_writable dual stored (exists?_of_free (.inl vacant)) (by decide +kernel)
      (by decide +kernel)⟩
  rw [List.mem_singleton.mp member]
  rfl

end Contributions

end GuidedMigration.Config
