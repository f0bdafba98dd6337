/-
This file asks when a merge changes nothing. A document absorbs a fragment if it already says
everything that the fragment says: the fragment's leaves, a mapping wherever the fragment has one,
and something wherever the fragment has the empty value. After some fragments have been merged in,
the document absorbs what they come to when they are merged on their own, whatever they say against
each other: where one of them has a leaf the last ones decide in both, and elsewhere both have
merged the same mappings. The document even stays as it is, in the order it has.

The second question is when a document stays as it is although something is put below it, which is
how the local document is made from its template.
-/
import GuidedMigration.Proofs.Value.Congruence
import GuidedMigration.Proofs.Value.KeyPath

namespace GuidedMigration

/-! ### Fragments that were merged in -/

namespace Mapping

/-- A keyed mapping merged over itself. -/
theorem merge_self {mapping : Mapping} (keyed : isKeyed mapping = true) :
    merge mapping mapping = mapping := by
  have replayed : [mapping].foldl merge ([mapping].foldl merge []) = [mapping].foldl merge [] :=
    foldl_merge_idem (by simpa using keyed) rfl
  simpa [nil_merge keyed] using replayed

end Mapping

namespace Value

theorem overlaid_self {held : Option Value} (keyed : held.all isKeyed = true) :
    overlaid held held = held := by
  match held with
  | none => rfl
  | some (.map entries) =>
    rw [overlaid_map, Mapping.merge_self (by simpa [isKeyed] using keyed)]
  | some (.list _) => simp [overlaid, mergeOver]
  | some (.set _) => simp [overlaid, mergeOver]
  | some (.scalar atom) => cases atom <;> simp [overlaid, mergeOver]

theorem isKeyed_foldl_overlaid {parts : List (Option Value)}
    (keyed : ∀ part ∈ parts, part.all isKeyed = true) {held : Option Value}
    (heldKeyed : held.all isKeyed = true) : (parts.foldl overlaid held).all isKeyed = true := by
  induction parts generalizing held with
  | nil => exact heldKeyed
  | cons part rest inductionHypothesis =>
    refine inductionHypothesis (fun other member => keyed other (List.mem_cons_of_mem _ member)) ?_
    cases part with
    | none => exact heldKeyed
    | some value => exact isKeyed_mergeOver heldKeyed (keyed _ List.mem_cons_self)

/-- What fragments come to at a key is absorbed by what they have made of it, if the mappings among
them are. -/
theorem foldl_overlaid_absorbs {parts : List (Option Value)}
    (keyed : ∀ part ∈ parts, part.all isKeyed = true) {held : Option Value}
    (heldKeyed : held.all isKeyed = true)
    (inner : ∀ base, held = some (.map base) →
      Mapping.merge ((mapsAmong parts).foldl Mapping.merge base)
          ((mapsAmong parts).foldl Mapping.merge []) =
        (mapsAmong parts).foldl Mapping.merge base) :
    overlaid (parts.foldl overlaid held) (parts.foldl overlaid none) =
      parts.foldl overlaid held := by
  have self := overlaid_self (isKeyed_foldl_overlaid keyed heldKeyed)
  by_cases leaf : ∃ part ∈ parts, isLeaf? part = true
  · rw [foldl_overlaid_of_isLeaf leaf none held, self]
  · have bare : ∀ part ∈ parts, isLeaf? part = false := fun part member =>
      Bool.eq_false_iff.mpr fun here => leaf ⟨part, member, here⟩
    by_cases none' : mapsAmong parts = []
    · obtain ⟨kept, open'⟩ := foldl_overlaid_of_no_map bare none'
      cases held with
      | none => exact self
      | some value => rcases open' with nothing | empty <;> simp [overlaid_null, *]
    · by_cases heldBare : ∀ base, held ≠ some (.map base)
      · rw [foldl_overlaid_bare bare keyed heldBare none'] at self ⊢
        rwa [foldl_overlaid_bare bare keyed (by simp) none']
      · obtain ⟨base, mapping⟩ := Classical.not_forall.mp heldBare
        obtain rfl := Classical.not_not.mp mapping
        rw [foldl_overlaid_map bare, foldl_overlaid_bare bare keyed (by simp) none', overlaid_map,
          inner base rfl]

end Value

namespace Mapping

theorem foldl_merge_absorbs_of_lt (bound : Nat) {fragments : List Mapping}
    (keyed : ∀ fragment ∈ fragments, isKeyed fragment = true)
    (small : ∀ fragment ∈ fragments, sizeOf fragment < bound) {base : Mapping}
    (baseKeyed : isKeyed base = true) :
    merge (fragments.foldl merge base) (fragments.foldl merge []) = fragments.foldl merge base := by
  induction bound generalizing fragments base with
  | zero =>
    cases fragments with
    | nil => simp [merge]
    | cons fragment rest => exact absurd (small fragment List.mem_cons_self) (Nat.not_lt_zero _)
  | succ bound inductionHypothesis =>
    have onceKeyed := isKeyed_foldl baseKeyed keyed
    have aloneKeyed : isKeyed (fragments.foldl merge []) = true := isKeyed_foldl rfl keyed
    refine eq_of_get? (Value.isKeyed_merge onceKeyed aloneKeyed) onceKeyed ?_ fun key => ?_
    · refine keys_merge_of_has fun key named => ?_
      have held := has_of_mem_keys named
      rw [has_foldl_merge keyed] at held ⊢
      rw [show has key [] = false from rfl, Bool.false_or] at held
      rw [held, Bool.or_true]
    · rw [get?_merge aloneKeyed, get?_foldl_merge keyed, get?_foldl_merge keyed]
      have heldKeyed : (get? key base).all Value.isKeyed = true := by
        cases found : get? key base with
        | none => rfl
        | some value => exact isKeyed_of_get? baseKeyed found
      -- the mappings at one key are smaller fragments, merged over what the key held
      refine Value.foldl_overlaid_absorbs (fun part => isKeyed_part keyed) heldKeyed
        fun inner held => ?_
      refine inductionHypothesis (fun _ => isKeyed_of_mem_mapsAmong keyed)
        (fun _ => sizeOf_lt_of_mem_mapsAmong small) ?_
      simpa [Value.isKeyed] using isKeyed_of_get? baseKeyed held

/-- Once fragments have been merged in, merging in what they come to on their own changes
nothing. -/
theorem foldl_merge_absorbs {fragments : List Mapping}
    (keyed : ∀ fragment ∈ fragments, isKeyed fragment = true) {base : Mapping}
    (baseKeyed : isKeyed base = true) :
    merge (fragments.foldl merge base) (fragments.foldl merge []) = fragments.foldl merge base :=
  foldl_merge_absorbs_of_lt (sizeOf fragments) keyed (fun _ => List.sizeOf_lt_of_mem) baseKeyed

/-! ### Absorbing -/

end Mapping

/-- Whether what is held at a place says what a fragment says there. -/
def Value.Says (held : Option Value) : Option Value → Prop
  | none => True
  | some (.map _) => ∃ entries, held = some (.map entries)
  | some (.scalar .null) => held.isSome = true
  | some leaf => Value.Alike? held (some leaf)

namespace Value

theorem says_of_isLeaf {held new : Option Value} (leaf : isLeaf? new = true) :
    Says held new ↔ Alike? held new := by
  match new with
  | none => simp [isLeaf?] at leaf
  | some (.map _) => simp [isLeaf?, isLeaf] at leaf
  | some (.list _) => rfl
  | some (.set _) => rfl
  | some (.scalar atom) => cases atom <;> first | rfl | simp [isLeaf?, isLeaf] at leaf

/-- What is held looks the same after a merge exactly if it says what is merged over it. -/
theorem alikeHere_overlaid_iff {held new : Option Value} :
    AlikeHere (overlaid held new) held ↔ Says held new := by
  rcases held_cases new with rfl | rfl | ⟨entries, rfl⟩ | leaf
  · exact ⟨fun _ => trivial, fun _ => .of_alike? (.refl held)⟩
  · rw [overlaid_null]
    constructor
    · rintro (⟨-, second, -, rfl⟩ | alike)
      · rfl
      · exact alike.isSome.symm
    · intro present
      obtain ⟨value, rfl⟩ := Option.isSome_iff_exists.mp present
      exact .of_alike? (.refl _)
  · obtain ⟨merged, mapping⟩ := exists_overlaid_map held entries
    rw [mapping]
    constructor
    · rintro (⟨-, second, -, atHeld⟩ | alike)
      · exact ⟨second, atHeld⟩
      · obtain ⟨second, atHeld, -⟩ := alike.eq_map
        exact ⟨second, atHeld⟩
    · rintro ⟨second, rfl⟩
      exact .inl ⟨merged, second, rfl, rfl⟩
  · rw [says_of_isLeaf leaf, overlaid_of_isLeaf leaf]
    constructor
    · rintro (⟨first, -, rfl, -⟩ | alike)
      · simp [isLeaf?, isLeaf] at leaf
      · exact alike.symm
    · exact fun alike => .of_alike? alike.symm

end Value

namespace Mapping

/-- Whether a document already says everything that a fragment says. -/
def Absorbs (document fragment : Mapping) : Prop :=
  ∀ trail, Value.Says (at? trail document) (at? trail fragment)

/-- Where a fragment puts a leaf on the way, a document that absorbs it has one too. -/
theorem Absorbs.blocks {document fragment : Mapping} (absorbs : Absorbs document fragment)
    {trail : Trail} (blocked : Mapping.blocks trail fragment = true) :
    Mapping.blocks trail document = true := by
  obtain ⟨start, rest, rfl, below, leaf⟩ := Value.blocks_iff.mp blocked
  have said := (Value.says_of_isLeaf leaf).mp (absorbs start)
  refine blocks_of_isLeaf ?_ below
  rw [said.isLeaf?]
  exact leaf

/-- A merge changes nothing but the order and the spelling exactly if the document absorbs the
fragment. -/
theorem alike_merge_iff {document fragment : Mapping} (keyed : isKeyed fragment = true) :
    Alike (merge document fragment) document ↔ Absorbs document fragment := by
  constructor
  · intro alike trail
    rw [← Value.alikeHere_overlaid_iff]
    have same := alike.at? trail
    rw [at?_merge keyed] at same
    split at same
    · rename_i blocked
      rw [at?_of_blocks blocked, Value.overlaid_none]
      exact .of_alike? (.refl _)
    · exact .of_alike? same
  · intro absorbs
    refine alike_of_here fun trail => ?_
    rw [at?_merge keyed]
    split
    · rename_i blocked
      rw [at?_of_blocks (absorbs.blocks blocked)]
      exact .of_alike? (.refl none)
    · exact Value.alikeHere_overlaid_iff.mpr (absorbs trail)

/-- A document absorbs what the fragments merged into it come to. -/
theorem absorbs_foldl {fragments : List Mapping}
    (keyed : ∀ fragment ∈ fragments, isKeyed fragment = true) {base : Mapping}
    (baseKeyed : isKeyed base = true) :
    Absorbs (fragments.foldl merge base) (fragments.foldl merge []) := by
  rw [← alike_merge_iff (isKeyed_foldl rfl keyed), foldl_merge_absorbs keyed baseKeyed]
  exact .refl _

/-- A document absorbs a fragment that was just merged into it. -/
theorem absorbs_merge {fragment : Mapping} (keyed : isKeyed fragment = true) {base : Mapping}
    (baseKeyed : isKeyed base = true) : Absorbs (merge base fragment) fragment := by
  have absorbs : Absorbs ([fragment].foldl merge base) ([fragment].foldl merge []) :=
    absorbs_foldl (by simpa using keyed) baseKeyed
  simpa [nil_merge keyed] using absorbs

end Mapping

/-! ### Leaves that are told apart -/

/-- Whether leaves that compare equal are equal, so that the test for a change finds every
change. -/
def Value.AreToldApart (leaves : Value → Prop) : Prop :=
  ∀ left right, leaves left → leaves right → Value.agrees left right = true → left = right

namespace Value

variable {leaves : Value → Prop}

theorem madeOf_of_isLeaf {value : Value} (leaf : value.isLeaf = true)
    (parts : value.MadeOf (fun _ => True) leaves) : leaves value := by
  match value with
  | .map _ => simp [isLeaf] at leaf
  | .list _ | .set _ | .scalar _ => simpa [MadeOf] using parts

/-- If what is held is alike after a merge whose leaves are told apart, it is the same. -/
theorem overlaid_eq_of_alike (apart : AreToldApart leaves) {held : Option Value} {new : Value}
    (heldProper : held.all isProper = true) (proper : new.isProper = true)
    (heldParts : ∀ value, held = some value → value.MadeOf (fun _ => True) leaves)
    (parts : new.MadeOf (fun _ => True) leaves) (alike : Alike? (overlaid held (some new)) held) :
    overlaid held (some new) = held := by
  rcases held_cases (some new) with missing | null | ⟨entries, mapping⟩ | leaf
  · simp at missing
  · rw [null, overlaid_null] at alike ⊢
    obtain ⟨value, rfl⟩ := Option.isSome_iff_exists.mp alike.isSome.symm
    rfl
  · obtain rfl : new = .map entries := Option.some.inj mapping
    obtain ⟨merged, overlaid⟩ := exists_overlaid_map held entries
    rw [overlaid] at alike
    obtain ⟨base, rfl, -⟩ := alike.eq_map
    rw [← overlaid, overlaid_map] at alike
    have baseProper : Mapping.isProper base = true := by simpa [isProper] using heldProper
    have entriesProper : Mapping.isProper entries = true := by simpa [isProper] using proper
    have entriesKeyed := Mapping.isKeyed_of_isProper entriesProper
    have baseKeyed := Mapping.isKeyed_of_isProper baseProper
    have baseParts : Mapping.MadeOf (fun _ => True) leaves base := by
      simpa [MadeOf] using heldParts _ rfl
    have entriesParts : Mapping.MadeOf (fun _ => True) leaves entries := by
      simpa [MadeOf] using parts
    have each := alike_map.mp alike
    rw [overlaid_map, Mapping.eq_of_get? (isKeyed_merge baseKeyed entriesKeyed) baseKeyed
      (Mapping.keys_merge_of_has fun key named => ?_) fun key => ?_]
    · have present := (each key).isSome
      rw [Mapping.get?_merge entriesKeyed, isSome_overlaid] at present
      have named' := Mapping.has_of_mem_keys named
      rw [Mapping.has] at named' ⊢
      simpa [named'] using present.symm
    · rw [Mapping.get?_merge entriesKeyed]
      match found : Mapping.get? key entries with
      | none => rfl
      | some value =>
        have here := each key
        rw [Mapping.get?_merge entriesKeyed, found] at here
        refine overlaid_eq_of_alike apart ?_ (Mapping.isProper_of_get? entriesProper found)
          (fun old atBase => Mapping.madeOf_of_get? baseParts atBase)
          (Mapping.madeOf_of_get? entriesParts found) here
        cases atBase : Mapping.get? key base with
        | none => rfl
        | some old => exact Mapping.isProper_of_get? baseProper atBase
  · rw [overlaid_of_isLeaf leaf] at alike ⊢
    obtain ⟨value, rfl⟩ := Option.isSome_iff_exists.mp alike.isSome.symm
    have leaf' : value.isLeaf = true := alike.isLeaf?.symm.trans leaf
    rw [apart new value (madeOf_of_isLeaf leaf parts) (madeOf_of_isLeaf leaf' (heldParts _ rfl))
      ((agrees_iff_alike proper heldProper).mpr alike)]
termination_by sizeOf new
decreasing_by
  have smaller := Mapping.sizeOf_lt_of_get? found
  rw [Option.some.inj ‹some new = some (.map entries)›, map.sizeOf_spec]
  omega

end Value

namespace Mapping

/-- If a merge of leaves that are told apart changes no more than order and spelling, it changes
nothing. -/
theorem merge_eq_of_alike {leaves : Value → Prop} (apart : Value.AreToldApart leaves)
    {document fragment : Mapping} (documentProper : isProper document = true)
    (proper : isProper fragment = true) (documentParts : MadeOf (fun _ => True) leaves document)
    (parts : MadeOf (fun _ => True) leaves fragment)
    (alike : Alike (merge document fragment) document) : merge document fragment = document := by
  have merged : Value.overlaid (some (.map document)) (some (.map fragment)) =
      some (.map document) :=
    Value.overlaid_eq_of_alike apart (by simpa [Value.isProper] using documentProper)
      (by rwa [Value.isProper]) (fun value held => by
        rw [← Option.some.inj held]
        simpa [Value.MadeOf] using documentParts) (by simpa [Value.MadeOf] using parts)
      (by rw [Value.overlaid_map]; exact alike)
  rw [Value.overlaid_map] at merged
  exact Value.map.inj (Option.some.inj merged)

end Mapping

theorem Value.isNull_fill (values : Placeholder.Values) (value : Value) :
    (value.fill values).isNull = value.isNull := by
  match value with
  | .scalar atom => cases atom <;> rfl
  | .map _ | .list _ | .set _ => rfl

namespace Mapping

/-! ### Covering -/

/-- Whether a document has everything that is to be put below it: each key of it except those
behind leaves, and more than the empty value unless that stands in both. -/
def Covers (document below : Mapping) : Prop :=
  ∀ trail, blocks trail document = false → (at? trail below).isSome = true →
    at? trail document ≠ none ∧
      (at? trail document = some Value.null → at? trail below = some Value.null)

/-- What a document is merged over shows through nowhere exactly if the document covers it. -/
theorem alike_merge_iff_covers {document below : Mapping} (keyed : isKeyed document = true) :
    Alike (merge below document) document ↔ Covers document below := by
  constructor
  · intro alike trail unblocked present
    have same := alike.at? trail
    rw [at?_merge keyed, if_neg (by simp [unblocked])] at same
    obtain ⟨value, held⟩ := Option.isSome_iff_exists.mp present
    refine ⟨fun missing => ?_, fun empty => ?_⟩
    · rw [missing, held, Value.overlaid_none] at same
      exact same.elim
    · rw [empty, Value.overlaid_null, held, Option.getD_some] at same
      rw [held, same.symm.eq_null]
  · intro covers
    refine alike_of_here fun trail => ?_
    rw [at?_merge keyed]
    split
    · rename_i blocked
      rw [at?_of_blocks blocked]
      exact .of_alike? (.refl none)
    · rename_i unblocked
      have covered := covers trail (by simpa using unblocked)
      rcases Value.held_cases (at? trail document) with missing | empty | ⟨entries, mapping⟩ | leaf
      · cases held : at? trail below with
        | none => simpa [missing] using Value.AlikeHere.of_alike? (.refl none)
        | some value => exact absurd missing (covered (by simp [held])).1
      · rw [empty, Value.overlaid_null]
        cases held : at? trail below with
        | none => exact .of_alike? (.refl _)
        | some value =>
          have null := (covered (by simp [held])).2 empty
          rw [held] at null
          rw [Option.getD_some, Option.some.inj null]
          exact .of_alike? (.refl _)
      · obtain ⟨merged, overlaid⟩ := Value.exists_overlaid_map (at? trail below) entries
        rw [mapping, overlaid]
        exact .inl ⟨merged, entries, rfl, rfl⟩
      · rw [Value.overlaid_of_isLeaf leaf]
        exact .of_alike? (.refl _)

/-- Covering can be computed. -/
theorem covers_iff_agrees {document below : Mapping} (proper : isProper document = true)
    (belowProper : isProper below = true) :
    Covers document below ↔ Value.agrees (.map (merge below document)) (.map document) = true := by
  rw [agrees_iff_alike (Value.isProper_merge belowProper proper) proper,
    alike_merge_iff_covers (isKeyed_of_isProper proper)]

/-- A fragment that the document absorbs makes no difference to that. -/
theorem alike_merge_merge_iff_covers {document below fragment : Mapping}
    (keyed : isKeyed document = true) (fragmentKeyed : isKeyed fragment = true)
    (absorbs : Absorbs document fragment) :
    Alike (merge (merge below document) fragment) document ↔ Covers document below := by
  constructor
  · intro alike trail unblocked present
    have same := alike.at? trail
    have fragmentOpen : blocks trail fragment = false := by
      rw [Bool.eq_false_iff]
      intro blocked
      rw [absorbs.blocks blocked] at unblocked
      simp at unblocked
    rw [at?_merge fragmentKeyed, if_neg (by simp [fragmentOpen]), at?_merge keyed,
      if_neg (by simp [unblocked])] at same
    refine ⟨fun missing => ?_, fun empty => ?_⟩
    · have both := same.isSome
      rw [Value.isSome_overlaid, Value.isSome_overlaid, present, missing] at both
      simp at both
    · obtain ⟨value, held⟩ := Option.isSome_iff_exists.mp present
      rw [empty, Value.overlaid_null, held, Option.getD_some] at same
      have merged := same.symm.eq_null
      rw [held]
      rcases Value.held_cases (at? trail fragment) with missing | null | ⟨entries, mapping⟩ | leaf
      · rwa [missing, Value.overlaid_none] at merged
      · rwa [null, Value.overlaid_null] at merged
      · obtain ⟨both, mapped⟩ := Value.exists_overlaid_map (some value) entries
        rw [mapping, mapped] at merged
        simp at merged
      · rw [Value.overlaid_of_isLeaf leaf] at merged
        rw [merged] at leaf
        simp [Value.isLeaf?, Value.isLeaf] at leaf
  · intro covers
    exact (((alike_merge_iff_covers keyed).mpr covers).merge_left fragmentKeyed).trans
      ((alike_merge_iff fragmentKeyed).mpr absorbs)

/-- Whether a document covers another one depends on nothing but what can be told of alike
documents, and on where the other one holds something and where the empty value. -/
theorem Covers.congr {document document' below below' : Mapping} (covers : Covers document below)
    (documents : Alike document document')
    (belows : ∀ trail, (at? trail below).map Value.isNull = (at? trail below').map Value.isNull) :
    Covers document' below' := by
  intro trail unblocked present
  have same := documents.at? trail
  have present' := congrArg Option.isSome (belows trail)
  rw [Option.isSome_map, Option.isSome_map, present] at present'
  rw [← documents.blocks] at unblocked
  obtain ⟨held, empty⟩ := covers trail unblocked present'
  refine ⟨fun missing => ?_, fun null => ?_⟩
  · rw [missing] at same
    exact held same.symm.eq_none
  · rw [null] at same
    have null' := belows trail
    rw [empty same.symm.eq_null, Option.map_some, eq_comm, Option.map_eq_some_iff] at null'
    obtain ⟨value, found, isNull⟩ := null'
    rw [found, Value.isNull_iff.mp (isNull.trans rfl)]

theorem isNull_at?_fill (values : Placeholder.Values) (mapping : Mapping) (trail : Trail) :
    (at? trail (mapping.fill values)).map Value.isNull = (at? trail mapping).map Value.isNull := by
  rw [at?_fill, Option.map_map]
  exact Option.map_congr fun value _ => Value.isNull_fill values value

theorem Alike.isNull_at? {left right : Mapping} (alike : Alike left right) (trail : Trail) :
    (Mapping.at? trail left).map Value.isNull = (Mapping.at? trail right).map Value.isNull := by
  have same := alike.at? trail
  cases first : Mapping.at? trail left with
  | none =>
    rw [first] at same
    rw [same.eq_none]
  | some value =>
    rw [first] at same
    cases second : Mapping.at? trail right with
    | none =>
      rw [second] at same
      exact same.elim
    | some other =>
      rw [second] at same
      exact congrArg some (Value.Alike.isNull same)

end Mapping

end GuidedMigration
