/-
This file replays fragments. When some fragments have been merged into a document one after the
other, merging them again in the same order gives the document back, entry by entry and in the same
order, although the fragments may contradict each other: what a key holds in the end is decided by
the last fragment that puts a leaf there and by those behind it, and before that nothing counts.
-/
import GuidedMigration.Proofs.Value.Keyed

namespace GuidedMigration

/-! ### Mappings with the same entries -/

namespace Mapping

/-- The keys of a mapping, as it spells them. -/
def keys (mapping : Mapping) : List Scalar := mapping.map Prod.fst

/-- Keyed mappings with the same keys in the same order and the same values are equal. -/
theorem eq_of_get? {left right : Mapping} (leftKeyed : isKeyed left = true)
    (rightKeyed : isKeyed right = true) (names : keys left = keys right)
    (values : ∀ key, get? key left = get? key right) : left = right := by
  induction left generalizing right with
  | nil => exact (List.map_eq_nil_iff.mp names.symm).symm
  | cons entry left inductionHypothesis =>
    obtain ⟨key, value⟩ := entry
    obtain ⟨⟨other, value'⟩, right, rfl, same, rest⟩ := List.map_eq_cons_iff.mp names.symm
    obtain rfl : other = key := same
    obtain ⟨fresh, -, leftKeyed⟩ := isKeyed_cons.mp leftKeyed
    obtain ⟨fresh', -, rightKeyed⟩ := isKeyed_cons.mp rightKeyed
    have first := values other
    simp only [get?, Scalar.same_refl, if_true, Option.some.injEq] at first
    rw [first, inductionHypothesis leftKeyed rightKeyed rest.symm]
    intro key
    by_cases same : other.same key = true
    · rw [← get?_of_same same, ← get?_of_same same, fresh, fresh']
    · have behind := values key
      simpa [get?, same] using behind

theorem keys_put (key : Scalar) (value : Value) (mapping : Mapping) :
    keys (put key value mapping) =
      if has key mapping then keys mapping else keys mapping ++ [key] := by
  induction mapping with
  | nil => simp [put, keys, has, get?]
  | cons entry rest inductionHypothesis =>
    obtain ⟨other, old⟩ := entry
    simp only [keys, has] at inductionHypothesis
    by_cases same : other.same key = true
    · simp [put, keys, has, get?, same]
    · simp only [put, keys, has, get?, if_neg same, List.map_cons, inductionHypothesis]
      by_cases held : (get? key rest).isSome = true <;> simp [held]

theorem put_of_get?_eq_none {key : Scalar} {mapping : Mapping} (missing : get? key mapping = none)
    (value : Value) : put key value mapping = mapping ++ [(key, value)] := by
  induction mapping with
  | nil => rfl
  | cons entry rest inductionHypothesis =>
    obtain ⟨other, old⟩ := entry
    by_cases same : other.same key = true
    · simp [get?, same] at missing
    · rw [get?, if_neg same] at missing
      rw [put, if_neg same, inductionHypothesis missing, List.cons_append]

theorem has_put (key target : Scalar) (value : Value) (mapping : Mapping) :
    has key (put target value mapping) = (target.same key || has key mapping) := by
  by_cases same : target.same key = true
  · rw [has, ← get?_of_same same, get?_put_same, same]
    rfl
  · rw [has, get?_put_of_not_same _ _ (by simpa using same)]
    simp [same, has]

/-- A merge adds no key that is there. -/
theorem keys_merge_of_has {base : Mapping} {fragment : List (Scalar × Value)}
    (held : ∀ key ∈ keys fragment, has key base = true) :
    keys (merge base fragment) = keys base := by
  induction fragment generalizing base with
  | nil => rw [merge]
  | cons entry rest inductionHypothesis =>
    obtain ⟨key, value⟩ := entry
    have present : has key base = true := held key List.mem_cons_self
    rw [merge, inductionHypothesis, keys_put, present, if_pos rfl]
    intro other member
    rw [has_put, held other (List.mem_cons_of_mem _ member), Bool.or_true]

theorem has_merge {fragment : Mapping} (keyed : isKeyed fragment = true) (key : Scalar)
    (base : Mapping) : has key (merge base fragment) = (has key base || has key fragment) := by
  rw [has, get?_merge keyed, Value.isSome_overlaid]
  rfl

theorem has_of_mem_keys {key : Scalar} {mapping : Mapping} (member : key ∈ keys mapping) :
    has key mapping = true := by
  induction mapping with
  | nil => simp [keys] at member
  | cons entry rest inductionHypothesis =>
    obtain ⟨other, value⟩ := entry
    rcases List.mem_cons.mp member with rfl | behind
    · simp [has, get?, Scalar.same_refl]
    · have held := inductionHypothesis behind
      simp only [has, get?] at held ⊢
      split
      · rfl
      · exact held

/-- A keyed mapping merged into the empty one stays as it is. -/
theorem nil_merge {fragment : Mapping} (keyed : isKeyed fragment = true) :
    merge [] fragment = fragment := by
  have appended (base : Mapping) (fresh : ∀ key ∈ keys fragment, get? key base = none) :
      merge base fragment = base ++ fragment := by
    induction fragment generalizing base with
    | nil => simp [merge]
    | cons entry rest inductionHypothesis =>
      obtain ⟨key, value⟩ := entry
      obtain ⟨freshKey, -, restKeyed⟩ := isKeyed_cons.mp keyed
      have missing : get? key base = none := fresh key List.mem_cons_self
      have written : put key value base = base ++ [(key, value)] :=
        put_of_get?_eq_none missing value
      have plain : Value.mergeOver none value = value := by
        simpa [Value.overlaid] using Value.none_overlaid (some value)
      rw [merge, missing, plain, written, inductionHypothesis restKeyed, List.append_assoc,
        List.singleton_append]
      intro other member
      have different : key.same other = false := by
        rw [Bool.eq_false_iff]
        intro same
        have held := has_of_mem_keys member
        rw [has, ← get?_of_same same, freshKey] at held
        simp at held
      rw [← written, get?_put_of_not_same _ _ different]
      exact fresh other (List.mem_cons_of_mem _ member)
  exact appended [] fun _ _ => rfl

end Mapping

/-! ### One key -/

namespace Value

/-- The mappings among what some fragments hold at a key. -/
def mapsAmong (parts : List (Option Value)) : List Mapping :=
  parts.filterMap fun
    | some (.map entries) => some entries
    | _ => none

/-- A leaf makes what was held before forgotten. -/
theorem foldl_overlaid_of_isLeaf {parts : List (Option Value)}
    (leaf : ∃ part ∈ parts, isLeaf? part = true) (first second : Option Value) :
    parts.foldl overlaid first = parts.foldl overlaid second := by
  induction parts generalizing first second with
  | nil => simp at leaf
  | cons part rest inductionHypothesis =>
    rw [List.foldl_cons, List.foldl_cons]
    by_cases here : isLeaf? part = true
    · rw [overlaid_of_isLeaf here, overlaid_of_isLeaf here]
    · obtain ⟨other, member, leaf⟩ := leaf
      rcases List.mem_cons.mp member with rfl | behind
      · exact absurd leaf here
      · exact inductionHypothesis ⟨other, behind, leaf⟩ _ _

/-- Over a mapping, the mappings are merged one after the other. -/
theorem foldl_overlaid_map {parts : List (Option Value)}
    (bare : ∀ part ∈ parts, isLeaf? part = false) (base : Mapping) :
    parts.foldl overlaid (some (.map base)) =
      some (.map ((mapsAmong parts).foldl Mapping.merge base)) := by
  induction parts generalizing base with
  | nil => rfl
  | cons part rest inductionHypothesis =>
    have restBare : ∀ part ∈ rest, isLeaf? part = false :=
      fun other member => bare other (List.mem_cons_of_mem _ member)
    have here := bare part List.mem_cons_self
    rw [List.foldl_cons]
    match part with
    | none => simpa [mapsAmong] using inductionHypothesis restBare base
    | some (.map entries) =>
      rw [overlaid_map, inductionHypothesis restBare]
      simp [mapsAmong]
    | some (.list _) => simp [isLeaf?, isLeaf] at here
    | some (.set _) => simp [isLeaf?, isLeaf] at here
    | some (.scalar atom) =>
      cases atom with
      | null =>
        rw [overlaid_null, Option.getD_some, inductionHypothesis restBare]
        simp [mapsAmong]
      | _ => simp [isLeaf?, isLeaf] at here

/-- Over what is no mapping, the first mapping takes its place. -/
theorem foldl_overlaid_bare {parts : List (Option Value)}
    (bare : ∀ part ∈ parts, isLeaf? part = false) (keyed : ∀ part ∈ parts, part.all isKeyed = true)
    {held : Option Value} (heldBare : ∀ base, held ≠ some (.map base))
    (some' : mapsAmong parts ≠ []) :
    parts.foldl overlaid held = some (.map ((mapsAmong parts).foldl Mapping.merge [])) := by
  induction parts generalizing held with
  | nil => simp [mapsAmong] at some'
  | cons part rest inductionHypothesis =>
    have restBare : ∀ part ∈ rest, isLeaf? part = false :=
      fun other member => bare other (List.mem_cons_of_mem _ member)
    have restKeyed : ∀ part ∈ rest, part.all isKeyed = true :=
      fun other member => keyed other (List.mem_cons_of_mem _ member)
    have here := bare part List.mem_cons_self
    rw [List.foldl_cons]
    cases part with
    | none =>
      have restSome : mapsAmong rest ≠ [] := by simpa [mapsAmong] using some'
      simpa [mapsAmong] using inductionHypothesis restBare restKeyed heldBare restSome
    | some value =>
      cases value with
      | map entries =>
        have entriesKeyed : Mapping.isKeyed entries = true := by
          simpa [isKeyed] using keyed _ List.mem_cons_self
        rw [overlaid_map_of_bare heldBare, foldl_overlaid_map restBare]
        simp [mapsAmong, Mapping.nil_merge entriesKeyed]
      | list _ => simp [isLeaf?, isLeaf] at here
      | set _ => simp [isLeaf?, isLeaf] at here
      | scalar atom =>
        cases atom with
        | null =>
          have restSome : mapsAmong rest ≠ [] := by simpa [mapsAmong] using some'
          have stillBare : ∀ base, some (held.getD null) ≠ some (.map base) := by
            intro base
            cases held with
            | none => simp
            | some value => exact heldBare base
          rw [overlaid_null, inductionHypothesis restBare restKeyed stillBare restSome]
          simp [mapsAmong]
        | _ => simp [isLeaf?, isLeaf] at here

/-- Without leaves and mappings, a value stays, and from nothing only the empty value can come. -/
theorem foldl_overlaid_of_no_map {parts : List (Option Value)}
    (bare : ∀ part ∈ parts, isLeaf? part = false) (none' : mapsAmong parts = []) :
    (∀ value, parts.foldl overlaid (some value) = some value) ∧
      (parts.foldl overlaid none = none ∨ parts.foldl overlaid none = some null) := by
  induction parts with
  | nil => simp
  | cons part rest inductionHypothesis =>
    have here := bare part List.mem_cons_self
    have restNone : mapsAmong rest = [] := by
      cases part with
      | none => simpa [mapsAmong] using none'
      | some value =>
        cases value with
        | map _ => simp [mapsAmong] at none'
        | _ => simpa [mapsAmong] using none'
    obtain ⟨kept, open'⟩ := inductionHypothesis
      (fun other member => bare other (List.mem_cons_of_mem _ member)) restNone
    cases part with
    | none => simpa using ⟨kept, open'⟩
    | some value =>
      cases value with
      | map _ => simp [mapsAmong] at none'
      | list _ => simp [isLeaf?, isLeaf] at here
      | set _ => simp [isLeaf?, isLeaf] at here
      | scalar atom =>
        cases atom with
        | null => simp [overlaid_null, kept]
        | _ => simp [isLeaf?, isLeaf] at here

/-- Replaying what fragments hold at a key changes nothing, if replaying their mappings there does
not. -/
theorem foldl_overlaid_idem {parts : List (Option Value)}
    (keyed : ∀ part ∈ parts, part.all isKeyed = true) {held : Option Value}
    (inner : ∀ base, held = some (.map base) ∨ base = [] →
      (mapsAmong parts).foldl Mapping.merge ((mapsAmong parts).foldl Mapping.merge base) =
        (mapsAmong parts).foldl Mapping.merge base) :
    parts.foldl overlaid (parts.foldl overlaid held) = parts.foldl overlaid held := by
  by_cases leaf : ∃ part ∈ parts, isLeaf? part = true
  · exact foldl_overlaid_of_isLeaf leaf _ _
  · have bare : ∀ part ∈ parts, isLeaf? part = false := fun part member =>
      Bool.eq_false_iff.mpr fun here => leaf ⟨part, member, here⟩
    by_cases none' : mapsAmong parts = []
    · obtain ⟨kept, open'⟩ := foldl_overlaid_of_no_map bare none'
      cases held with
      | some value => rw [kept, kept]
      | none => rcases open' with nothing | empty <;> simp [*]
    · by_cases heldBare : ∀ base, held ≠ some (.map base)
      · rw [foldl_overlaid_bare bare keyed heldBare none', foldl_overlaid_map bare,
          inner [] (Or.inr rfl)]
      · obtain ⟨base, mapping⟩ := Classical.not_forall.mp heldBare
        obtain rfl := Classical.not_not.mp mapping
        rw [foldl_overlaid_map bare, foldl_overlaid_map bare, inner base (Or.inl rfl)]

end Value

/-! ### Documents -/

namespace Mapping

/-- What a key holds after fragments have been merged in one after the other. -/
theorem get?_foldl_merge {fragments : List Mapping}
    (keyed : ∀ fragment ∈ fragments, isKeyed fragment = true) (key : Scalar) (base : Mapping) :
    get? key (fragments.foldl merge base) =
      (fragments.map (get? key)).foldl Value.overlaid (get? key base) := by
  induction fragments generalizing base with
  | nil => rfl
  | cons fragment rest inductionHypothesis =>
    rw [List.foldl_cons, inductionHypothesis
      fun other member => keyed other (List.mem_cons_of_mem _ member),
      get?_merge (keyed fragment List.mem_cons_self)]
    rfl

theorem isKeyed_foldl {fragments : List Mapping} {base : Mapping} (baseKeyed : isKeyed base = true)
    (keyed : ∀ fragment ∈ fragments, isKeyed fragment = true) :
    isKeyed (fragments.foldl merge base) = true :=
  isKeyed_foldl_merge id baseKeyed keyed

/-- Every key of the fragments is there once they have been merged in. -/
theorem has_foldl_merge {fragments : List Mapping}
    (keyed : ∀ fragment ∈ fragments, isKeyed fragment = true) (key : Scalar) (base : Mapping) :
    has key (fragments.foldl merge base) =
      (has key base || fragments.any fun fragment => has key fragment) := by
  induction fragments generalizing base with
  | nil => simp
  | cons fragment rest inductionHypothesis =>
    rw [List.foldl_cons, inductionHypothesis
      fun other member => keyed other (List.mem_cons_of_mem _ member),
      has_merge (keyed fragment List.mem_cons_self), List.any_cons, Bool.or_assoc]

theorem keys_foldl_merge_of_has {fragments : List Mapping} {base : Mapping}
    (keyed : ∀ fragment ∈ fragments, isKeyed fragment = true)
    (held : ∀ fragment ∈ fragments, ∀ key ∈ keys fragment, has key base = true) :
    keys (fragments.foldl merge base) = keys base := by
  induction fragments generalizing base with
  | nil => rfl
  | cons fragment rest inductionHypothesis =>
    rw [List.foldl_cons, inductionHypothesis
      (fun other member => keyed other (List.mem_cons_of_mem _ member)) ?_,
      keys_merge_of_has (held fragment List.mem_cons_self)]
    intro other member key named
    rw [has_merge (keyed fragment List.mem_cons_self),
      held other (List.mem_cons_of_mem _ member) key named, Bool.true_or]

theorem sizeOf_lt_of_get? {key : Scalar} {value : Value} {mapping : Mapping}
    (found : get? key mapping = some value) : sizeOf value < sizeOf mapping := by
  induction mapping with
  | nil => simp [get?] at found
  | cons entry rest inductionHypothesis =>
    obtain ⟨other, held⟩ := entry
    rw [get?] at found
    split at found
    · rw [Option.some.injEq] at found
      simp [found]
      omega
    · have smaller := inductionHypothesis found
      simp only [List.cons.sizeOf_spec]
      omega

/-- The mappings at a key of keyed fragments are keyed, and smaller than the fragments. -/
theorem mem_mapsAmong {fragments : List Mapping} {key : Scalar} {inner : Mapping}
    (member : inner ∈ Value.mapsAmong (fragments.map (get? key))) :
    ∃ fragment ∈ fragments, get? key fragment = some (.map inner) := by
  simp only [Value.mapsAmong, List.mem_filterMap, List.mem_map] at member
  obtain ⟨part, ⟨fragment, listed, rfl⟩, found⟩ := member
  refine ⟨fragment, listed, ?_⟩
  split at found
  · rename_i entries held
    rw [held, Option.some.inj found]
  · simp at found

theorem isKeyed_part {fragments : List Mapping}
    (keyed : ∀ fragment ∈ fragments, isKeyed fragment = true) {key : Scalar} {part : Option Value}
    (member : part ∈ fragments.map (get? key)) : part.all Value.isKeyed = true := by
  obtain ⟨fragment, listed, rfl⟩ := List.mem_map.mp member
  cases found : get? key fragment with
  | none => rfl
  | some value => exact isKeyed_of_get? (keyed fragment listed) found

theorem isKeyed_of_mem_mapsAmong {fragments : List Mapping}
    (keyed : ∀ fragment ∈ fragments, isKeyed fragment = true) {key : Scalar} {inner : Mapping}
    (member : inner ∈ Value.mapsAmong (fragments.map (get? key))) : isKeyed inner = true := by
  obtain ⟨fragment, listed, found⟩ := mem_mapsAmong member
  simpa [Value.isKeyed] using isKeyed_of_get? (keyed fragment listed) found

/-- The mappings at one key are smaller than the fragments that hold them. -/
theorem sizeOf_lt_of_mem_mapsAmong {bound : Nat} {fragments : List Mapping}
    (small : ∀ fragment ∈ fragments, sizeOf fragment < bound + 1) {key : Scalar} {inner : Mapping}
    (member : inner ∈ Value.mapsAmong (fragments.map (get? key))) : sizeOf inner < bound := by
  obtain ⟨fragment, listed, found⟩ := mem_mapsAmong member
  have smaller := sizeOf_lt_of_get? found
  have bounded := small fragment listed
  simp only [Value.map.sizeOf_spec] at smaller
  omega

theorem foldl_merge_idem_of_lt (bound : Nat) {fragments : List Mapping}
    (keyed : ∀ fragment ∈ fragments, isKeyed fragment = true)
    (small : ∀ fragment ∈ fragments, sizeOf fragment < bound) {base : Mapping}
    (baseKeyed : isKeyed base = true) :
    fragments.foldl merge (fragments.foldl merge base) = fragments.foldl merge base := by
  induction bound generalizing fragments base with
  | zero =>
    cases fragments with
    | nil => rfl
    | cons fragment rest => exact absurd (small fragment List.mem_cons_self) (Nat.not_lt_zero _)
  | succ bound inductionHypothesis =>
    have onceKeyed := isKeyed_foldl baseKeyed keyed
    refine eq_of_get? (isKeyed_foldl onceKeyed keyed) onceKeyed ?_ fun key => ?_
    · refine keys_foldl_merge_of_has keyed fun fragment member key named => ?_
      rw [has_foldl_merge keyed, Bool.or_eq_true, List.any_eq_true]
      exact Or.inr ⟨fragment, member, has_of_mem_keys named⟩
    · rw [get?_foldl_merge keyed, get?_foldl_merge keyed]
      -- the mappings at one key are smaller fragments, merged over what the key held
      refine Value.foldl_overlaid_idem (fun part => isKeyed_part keyed) fun inner held => ?_
      refine inductionHypothesis (fun _ => isKeyed_of_mem_mapsAmong keyed)
        (fun _ => sizeOf_lt_of_mem_mapsAmong small) ?_
      rcases held with held | rfl
      · simpa [Value.isKeyed] using isKeyed_of_get? baseKeyed held
      · rfl

/-- Merging fragments in once more changes nothing. -/
theorem foldl_merge_idem {fragments : List Mapping}
    (keyed : ∀ fragment ∈ fragments, isKeyed fragment = true) {base : Mapping}
    (baseKeyed : isKeyed base = true) :
    fragments.foldl merge (fragments.foldl merge base) = fragments.foldl merge base :=
  foldl_merge_idem_of_lt (sizeOf fragments) keyed (fun _ => List.sizeOf_lt_of_mem) baseKeyed

end Mapping

end GuidedMigration
