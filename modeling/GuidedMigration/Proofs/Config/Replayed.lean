/-
This file merges contributions into a document a second time, each written at once as the first
time. The second time the document may change in between, where the fragments contradict each other,
but what is stored in the end compares equal to what was stored before, and merging in what all the
fragments come to changes nothing at all. That the bytes of the file stay needs one thing more. A
fragment that says 1 where the document says true compares equal and is not written; if the document
is written later on for another reason, then with the 1. So the bytes stay if leaves that compare
equal are equal.
-/
import GuidedMigration.Proofs.Config.Built
import GuidedMigration.Proofs.Config.Stored

namespace GuidedMigration

namespace Config

open GuidedMigration.Tree

/-- Whether the documents that come of merging the fragments are read back as they are written. -/
structure ReadBack (documents : Mapping → Prop) (fragments : List Mapping) : Prop where
  loads : ∀ document, documents document → LoadsBack document
  merged : ∀ document, documents document → ∀ fragment ∈ fragments,
    documents (document.merge fragment)

theorem ReadBack.mono {documents : Mapping → Prop} {fragments fewer : List Mapping}
    (readBack : ReadBack documents fragments) (within : fewer ⊆ fragments) :
    ReadBack documents fewer :=
  ⟨readBack.loads, fun document among fragment member =>
    readBack.merged document among fragment (within member)⟩

/-- What is left when one of the fragments was merged in. -/
theorem ReadBack.stores_of_mergeInto {documents : Mapping → Prop} {fragments : List Mapping}
    (readBack : ReadBack documents fragments) {path : Path} {tree after : Tree}
    {document fragment : Mapping} {changed : Bool} (member : fragment ∈ fragments)
    (proper : Mapping.isProper fragment = true) (loaded : load path tree = (.ok document, tree))
    (among : documents document) (merged : mergeInto path fragment tree = (.ok changed, after)) :
    ∃ kept, Stores tree path kept after ∧ documents kept ∧
      kept.Alike (document.merge fragment) := by
  have next := readBack.merged document among fragment member
  obtain ⟨kept, stores, alike, rfl | rfl⟩ :=
    Config.stores_of_mergeInto loaded proper (readBack.loads _ next) merged
  · exact ⟨_, stores, next, alike⟩
  · exact ⟨_, stores, among, alike⟩

/-- A list of documents that has all that come of merging the fragments. -/
theorem readBack_of_list {listed fragments : List Mapping}
    (writable : ∀ document ∈ listed, isWritable document = true)
    (read : ∀ document ∈ listed, (mappingOf ⟨[], []⟩
      (Text.unifyNewlines (documentText document))).toOption = some document)
    (merged : ∀ document ∈ listed, ∀ fragment ∈ fragments, document.merge fragment ∈ listed) :
    ReadBack (· ∈ listed) fragments :=
  ⟨fun document among => loadsBack_of_read (writable document among) (read document among), merged⟩

namespace Contributions

/-- The fragments of contributions, in order. -/
def fragments (contributions : Contributions) : List Mapping := contributions.map (·.fragment)

theorem fragments_subset_cons (contribution : Contribution) (rest : Contributions) :
    fragments rest ⊆ fragments (contribution :: rest) := List.subset_cons_self _ _

theorem fragments_subset_of_isPrefix {done all : Contributions} (earlier : done <+: all) :
    done.fragments ⊆ all.fragments := (earlier.map _).subset

/-- A document with the fragments of contributions merged into it in order. -/
def mergedInto (document : Mapping) (contributions : Contributions) : Mapping :=
  contributions.fragments.foldl Mapping.merge document

theorem mergedInto_cons (document : Mapping) (contribution : Contribution)
    (rest : Contributions) :
    mergedInto document (contribution :: rest) =
      mergedInto (document.merge contribution.fragment) rest := rfl

theorem mergedInto_append (document : Mapping) (first second : Contributions) :
    mergedInto document (first ++ second) = mergedInto (mergedInto document first) second := by
  rw [mergedInto, fragments, List.map_append, List.foldl_append]
  rfl

theorem templateFragment_eq (contributions : Contributions) :
    contributions.templateFragment = mergedInto [] contributions := by
  rw [templateFragment, mergedInto, fragments, List.foldl_map]

/-- Whether all fragments are proper. -/
def AreProper (contributions : Contributions) : Prop :=
  ∀ fragment ∈ contributions.fragments, Mapping.isProper fragment = true

variable {contributions : Contributions} {documents : Mapping → Prop} {tree after : Tree}
  {path : Path} {document : Mapping}

theorem AreProper.keyed (proper : contributions.AreProper) :
    ∀ fragment ∈ contributions.fragments, Mapping.isKeyed fragment = true :=
  fun fragment member => Mapping.isKeyed_of_isProper (proper fragment member)

theorem AreProper.mono (proper : contributions.AreProper) {fewer : Contributions}
    (within : fewer.fragments ⊆ contributions.fragments) : fewer.AreProper :=
  fun fragment member => proper fragment (within member)

theorem AreProper.part (proper : contributions.AreProper) {part : Contribution}
    (member : part ∈ contributions) : Mapping.isProper part.fragment = true :=
  proper _ (List.mem_map_of_mem member)

theorem isProper_templateFragment (proper : contributions.AreProper) :
    Mapping.isProper contributions.templateFragment = true := by
  rw [templateFragment_eq]
  exact Mapping.isProper_foldl_merge id rfl proper

theorem isProper_locals (proper : contributions.AreProper) {template locals : Mapping}
    (templateProper : Mapping.isProper template = true)
    (localsProper : Mapping.isProper locals = true) :
    Mapping.isProper (contributions.pairFrom template locals).locals = true := by
  refine Value.isProper_merge (Value.isProper_merge ?_ localsProper) ?_
  · exact (Mapping.isProper_fill contributions.values template).trans templateProper
  · exact Mapping.isProper_foldl_merge Contribution.localFragment rfl fun part member =>
      (Mapping.isProper_fill part.values part.fragment).trans (proper.part member)

/-! ### Merging once -/

theorem exists_of_mergeEach_cons {contribution : Contribution} {rest : Contributions}
    (done : mergeEach path (contribution :: rest) tree = (.ok (), after)) :
    ∃ changed between, mergeInto path contribution.fragment tree = (.ok changed, between) ∧
      mergeEach path rest between = (.ok (), after) := by
  rw [mergeEach] at done
  exact Files.exists_of_bind_ok done

/-- While there is to be no local document, the contributions are merged into the template. -/
theorem flush_of_single (single : contributions.isDual = false) (templatePath localPath : Path)
    (tree : Tree) :
    contributions.flush templatePath localPath tree =
      match contributions.mergeEach templatePath tree with
      | (.ok _, after) => (.ok none, after)
      | (.error failure, after) => (.error failure, after) := by
  rw [Contributions.flush, single, if_neg Bool.false_ne_true, bind_apply]
  cases contributions.mergeEach templatePath tree with
  | mk result after => cases result <;> rfl

theorem mergeEach_of_flush (single : contributions.isDual = false) {templatePath localPath : Path}
    {answer : Option Pair}
    (done : contributions.flush templatePath localPath tree = (.ok answer, after)) :
    contributions.mergeEach templatePath tree = (.ok (), after) ∧ answer = none := by
  rw [flush_of_single single] at done
  revert done
  cases contributions.mergeEach templatePath tree with
  | mk result between =>
    cases result with
    | error failure => exact fun done => nomatch (Prod.mk.inj done).1
    | ok merged =>
      intro done
      obtain ⟨said, rfl⟩ := Prod.mk.inj done
      exact ⟨rfl, (Except.ok.inj said).symm⟩

/-- Once contributions have been merged in, the document with all their fragments is stored, up to
what compares equal. -/
theorem stores_of_mergeEach (readBack : ReadBack documents contributions.fragments)
    (proper : contributions.AreProper) (loaded : load path tree = (.ok document, tree))
    (among : documents document)
    (done : mergeEach path contributions tree = (.ok (), after)) :
    (contributions = [] ∧ after = tree) ∨ ∃ kept, Stores tree path kept after ∧ documents kept ∧
      kept.Alike (contributions.mergedInto document) := by
  induction contributions generalizing tree document with
  | nil =>
    rw [mergeEach] at done
    exact .inl ⟨rfl, (Prod.mk.inj done).2.symm⟩
  | cons contribution rest inductionHypothesis =>
    refine .inr ?_
    obtain ⟨changed, between, merged, remaining⟩ := exists_of_mergeEach_cons done
    obtain ⟨kept, stores, keptAmong, alike⟩ := readBack.stores_of_mergeInto List.mem_cons_self
      (proper _ List.mem_cons_self) loaded among merged
    have restProper := proper.mono (fragments_subset_cons contribution rest)
    rcases inductionHypothesis (readBack.mono (fragments_subset_cons contribution rest)) restProper
        stores.stored.load keptAmong remaining with
      ⟨rfl, rfl⟩ | ⟨final, storesRest, finalAmong, same⟩
    · exact ⟨kept, stores, keptAmong, alike⟩
    · exact ⟨final, stores.trans storesRest, finalAmong,
        same.trans (alike.foldl_merge restProper.keyed)⟩

/-- Where a document is stored or missing, contributions can be merged in. -/
theorem exists_mergeEach (readBack : ReadBack documents contributions.fragments)
    (proper : contributions.AreProper) {held : Option Mapping} (stored : IsStored tree path held)
    (among : documents (held.getD [])) :
    ∃ after, mergeEach path contributions tree = (.ok (), after) := by
  induction contributions generalizing tree held with
  | nil => exact ⟨tree, rfl⟩
  | cons contribution rest inductionHypothesis =>
    have next := readBack.merged _ among contribution.fragment List.mem_cons_self
    obtain ⟨changed, between, merged⟩ := exists_mergeInto stored (readBack.loads _ next).writable
    obtain ⟨kept, stores, keptAmong, -⟩ := readBack.stores_of_mergeInto List.mem_cons_self
      (proper _ List.mem_cons_self) stored.load among merged
    obtain ⟨after, remaining⟩ := inductionHypothesis
      (readBack.mono (fragments_subset_cons contribution rest))
      (proper.mono (fragments_subset_cons contribution rest)) stores.stored keptAmong
    refine ⟨after, ?_⟩
    rw [mergeEach, bind_apply, merged]
    exact remaining

/-! ### Leaves that are told apart -/

/-- Whether all leaves of the fragments are among the given ones. -/
def AreMadeOf (leaves : Value → Prop) (contributions : Contributions) : Prop :=
  ∀ fragment ∈ contributions.fragments, Mapping.MadeOf (fun _ => True) leaves fragment

theorem AreMadeOf.mono {leaves : Value → Prop} {fewer : Contributions}
    (parts : contributions.AreMadeOf leaves)
    (within : fewer.fragments ⊆ contributions.fragments) : fewer.AreMadeOf leaves :=
  fun fragment member => parts fragment (within member)

/-- If leaves are told apart, exactly the document with all fragments is stored, and the file is
either untouched or written with it. -/
theorem mergeEach_of_toldApart {leaves : Value → Prop} (toldApart : Value.AreToldApart leaves)
    (readBack : ReadBack documents contributions.fragments) (proper : contributions.AreProper)
    (parts : contributions.AreMadeOf leaves) (stored : IsStored tree path (some document))
    (documentParts : Mapping.MadeOf (fun _ => True) leaves document) (among : documents document)
    (done : mergeEach path contributions tree = (.ok (), after)) :
    IsStored after path (some (contributions.mergedInto document)) ∧
      (after = tree ∨ after = tree.put (spelled path)
          (.file (Utf8.encode (documentText (contributions.mergedInto document))))) := by
  induction contributions generalizing tree document with
  | nil =>
    rw [mergeEach] at done
    obtain rfl : tree = after := (Prod.mk.inj done).2
    exact ⟨stored, .inl rfl⟩
  | cons contribution rest inductionHypothesis =>
    obtain ⟨changed, between, merged, remaining⟩ := exists_of_mergeEach_cons done
    have next := readBack.merged document among contribution.fragment List.mem_cons_self
    have fragmentProper := proper _ List.mem_cons_self
    have fragmentParts := parts _ List.mem_cons_self
    have documentProper : Mapping.isProper document = true := stored.isProper
    have within := fragments_subset_cons contribution rest
    have continues {tree : Tree} {document : Mapping} := @inductionHypothesis tree document
      (readBack.mono within) (proper.mono within) (parts.mono within)
    obtain ⟨old, loaded, outcome⟩ := mergeInto_cases merged
    obtain rfl : document = old := by
      rw [stored.load] at loaded
      exact Except.ok.inj (Prod.mk.inj loaded).1
    rcases outcome with ⟨rfl, -, kept⟩ | written
    · have same := Mapping.merge_eq_of_alike toldApart documentProper fragmentProper documentParts
        fragmentParts ((Mapping.agrees_iff_alike
          (Value.isProper_merge documentProper fragmentProper) documentProper).mp kept)
      rw [mergedInto_cons, same]
      exact continues stored documentParts among remaining
    · have nextStored := isStored_written written (readBack.loads _ next).holds
      rw [Files.write_of_free stored.isFree] at written
      obtain rfl := (Prod.mk.inj written).2
      obtain ⟨finally', either⟩ := continues nextStored
        (Value.madeOf_merge documentParts fragmentParts) next remaining
      rw [mergedInto_cons]
      refine ⟨finally', .inr ?_⟩
      rcases either with rfl | rewritten
      · rw [Option.some.inj (finally'.eq nextStored)]
      · rw [rewritten, put_put]

/-- The same where the document may still be missing. -/
theorem mergeEach_of_toldApart_of_load {leaves : Value → Prop}
    (toldApart : Value.AreToldApart leaves)
    (readBack : ReadBack documents contributions.fragments) (proper : contributions.AreProper)
    (parts : contributions.AreMadeOf leaves) (loaded : load path tree = (.ok document, tree))
    (documentParts : Mapping.MadeOf (fun _ => True) leaves document) (among : documents document)
    (nonempty : contributions ≠ [])
    (done : mergeEach path contributions tree = (.ok (), after)) :
    IsStored after path (some (contributions.mergedInto document)) ∧
      (after = tree ∨ after.find? (spelled path) =
          some (.file (Utf8.encode (documentText (contributions.mergedInto document))))) := by
  cases contributions with
  | nil => exact absurd rfl nonempty
  | cons contribution rest =>
    obtain ⟨changed, between, merged, remaining⟩ := exists_of_mergeEach_cons done
    have next := readBack.merged document among contribution.fragment List.mem_cons_self
    obtain ⟨old, loaded', outcome⟩ := mergeInto_cases merged
    obtain rfl : document = old := by
      rw [loaded] at loaded'
      exact Except.ok.inj (Prod.mk.inj loaded').1
    rcases outcome with ⟨rfl, stored, -⟩ | written
    · obtain ⟨finally', either⟩ :=
        mergeEach_of_toldApart toldApart readBack proper parts stored documentParts among done
      exact ⟨finally', either.imp_right fun put => by rw [put, stored.find?_put]⟩
    · have nextStored := isStored_written written (readBack.loads _ next).holds
      have within := fragments_subset_cons contribution rest
      obtain ⟨finally', either⟩ := mergeEach_of_toldApart toldApart (readBack.mono within)
        (proper.mono within) (parts.mono within) nextStored
        (Value.madeOf_merge documentParts (parts _ List.mem_cons_self)) next remaining
      refine ⟨finally', .inr ?_⟩
      rcases either with rfl | put
      · have same := Option.some.inj (finally'.eq nextStored)
        have effect := Files.written_write path
          (documentText (document.merge contribution.fragment)) tree
        rw [written] at effect
        rw [mergedInto_cons, same]
        exact (effect.written rfl).2
      · rw [put, nextStored.find?_put]
        rfl

/-! ### Merging again -/

/-- Contributions that are merged in again leave a document that compares equal; if leaves are told
apart, they leave every file as it is. -/
theorem mergeEach_again (readBack : ReadBack documents contributions.fragments)
    (proper : contributions.AreProper) (loaded : load path tree = (.ok document, tree))
    (among : documents document)
    (done : mergeEach path contributions tree = (.ok (), after)) :
    ∃ again, mergeEach path contributions after = (.ok (), again) ∧
      (∃ held held', load path after = (.ok held, after) ∧ load path again = (.ok held', again) ∧
        Value.agrees (.map held') (.map held) = true) ∧
      ∀ leaves, Value.AreToldApart leaves → Mapping.MadeOf (fun _ => True) leaves document →
        contributions.AreMadeOf leaves → again = after := by
  have keyed := proper.keyed
  have documentKeyed := isKeyed_load (congrArg Prod.fst loaded)
  rcases stores_of_mergeEach readBack proper loaded among done with
    ⟨rfl, rfl⟩ | ⟨kept, stores, keptAmong, alike⟩
  · have documentProper := (readBack.loads document among).isProper
    exact ⟨after, rfl, ⟨document, document, loaded, loaded,
      (Mapping.agrees_iff_alike documentProper documentProper).mpr (.refl document)⟩,
      fun _ _ _ _ => rfl⟩
  · have nonempty : contributions = [] → after = tree := by
      rintro rfl
      rw [mergeEach] at done
      exact (Prod.mk.inj done).2.symm
    obtain ⟨again, redone⟩ := exists_mergeEach readBack proper stores.stored keptAmong
    have keptLoaded : load path after = (.ok kept, after) := stores.stored.load
    have replayed : (contributions.mergedInto kept).Alike kept := by
      have same := alike.foldl_merge keyed
      rw [mergedInto, Mapping.foldl_merge_idem keyed documentKeyed] at same
      exact same.trans alike.symm
    refine ⟨again, redone, ?_, fun leaves toldApart documentParts parts => ?_⟩
    · rcases stores_of_mergeEach readBack proper keptLoaded keptAmong redone with
        ⟨-, rfl⟩ | ⟨kept', stores', -, alike'⟩
      · exact ⟨kept, kept, keptLoaded, keptLoaded,
          (Mapping.agrees_iff_alike stores.stored.isProper stores.stored.isProper).mpr (.refl kept)⟩
      · exact ⟨kept, kept', keptLoaded, stores'.stored.load, (Mapping.agrees_iff_alike
          stores'.stored.isProper stores.stored.isProper).mpr (alike'.trans replayed)⟩
    · by_cases empty : contributions = []
      · subst empty
        rw [mergeEach] at redone
        exact (Prod.mk.inj redone).2.symm
      · obtain ⟨stored, either⟩ := mergeEach_of_toldApart_of_load toldApart readBack proper parts
          loaded documentParts among empty done
        rcases either with rfl | found
        · -- nothing was written the first time, so that the second time is the same run
          rw [done] at redone
          exact (Prod.mk.inj redone).2.symm
        · have exactly : kept = contributions.mergedInto document :=
            Option.some.inj (stores.stored.eq stored)
          have foldedParts : Mapping.MadeOf (fun _ => True) leaves
              (contributions.mergedInto document) :=
            Mapping.madeOf_foldl_merge id documentParts parts
          obtain ⟨-, same | put⟩ := mergeEach_of_toldApart toldApart readBack proper parts
            stored foldedParts (exactly ▸ keptAmong) redone
          · exact same
          · rw [put, mergedInto, mergedInto, Mapping.foldl_merge_idem keyed documentKeyed]
            exact put_of_find? found

/-- Merging in what all fragments come to, once they have been merged in, changes no file. -/
theorem mergeInto_templateFragment (readBack : ReadBack documents contributions.fragments)
    (proper : contributions.AreProper) (loaded : load path tree = (.ok document, tree))
    (among : documents document) (nonempty : contributions ≠ [])
    (done : mergeEach path contributions tree = (.ok (), after)) :
    mergeInto path contributions.templateFragment after = (.ok false, after) := by
  have keyed := proper.keyed
  have documentKeyed := isKeyed_load (congrArg Prod.fst loaded)
  have aloneKeyed : Mapping.isKeyed contributions.templateFragment = true := by
    rw [templateFragment_eq]
    exact Mapping.isKeyed_foldl rfl keyed
  have aloneProper := isProper_templateFragment proper
  have absorbed : (contributions.mergedInto document).merge contributions.templateFragment =
      contributions.mergedInto document := by
    rw [templateFragment_eq]
    exact Mapping.foldl_merge_absorbs keyed documentKeyed
  obtain ⟨kept, stores, -, alike⟩ :=
    (stores_of_mergeEach readBack proper loaded among done).resolve_left
      fun empty => nonempty empty.1
  have keptProper : Mapping.isProper kept = true := stores.stored.isProper
  have unchanged : (kept.merge contributions.templateFragment).Alike kept := by
    have same := alike.merge_left aloneKeyed
    rw [absorbed] at same
    exact same.trans alike.symm
  exact mergeInto_of_kept stores.stored ((Mapping.agrees_iff_alike
    (Value.isProper_merge keptProper aloneProper) keptProper).mpr unchanged)

end Contributions

end Config

end GuidedMigration
