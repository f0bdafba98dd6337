/-
This file looks values up along trails. A trail is the list of keys that lead from a document to a
value inside it; at every key the value that stands there must be a mapping, or the trail leads
nowhere. A mapping is keyed when neither it nor a mapping inside it holds one key twice, which every
document that is read from a text and every fragment that a guide writes does.

What a merge leaves at the end of a trail is decided by what its two sides hold there: the merged
value is the one side over the other, unless the second side puts a leaf on the way. That is
`behind_overlaid`, and every later statement about merged documents is read off it.

So it can be said exactly what a merged document holds. A trail that the fragment binds stays bound,
and so does one that the base binds, unless the fragment puts a leaf on the way: a leaf replaces all
that stood below it. Where the fragment has a leaf, the leaf is held; where it has nothing, or the
empty value, the base keeps what it had.
-/
import GuidedMigration.Value.Basic
import GuidedMigration.Value.Placeholder

namespace GuidedMigration

/-- The keys on the way to a value. -/
abbrev Trail := List Scalar

/-! ### Keyed mappings -/

/-- A notion that a mapping has if its entries have it one by one: each value has it, and each key
fits in front of the entries behind it, also when another key is written to these. -/
structure IsEntrywise (fits : Scalar → Mapping → Prop) (holds : Value → Prop)
    (holdsMap : Mapping → Prop) : Prop where
  nil : holdsMap []
  cons {key : Scalar} {value : Value} {rest : Mapping} :
    holdsMap ((key, value) :: rest) ↔ fits key rest ∧ holds value ∧ holdsMap rest
  map {entries : Mapping} : holds (.map entries) ↔ holdsMap entries
  fits_nil {key : Scalar} {rest : Mapping} (own : fits key rest) : fits key []
  fits_put {key target : Scalar} {rest : Mapping} (value : Value) (own : fits key rest)
    (different : target.same key = false) : fits key (Mapping.put target value rest)

theorem IsEntrywise.of_get? {fits : Scalar → Mapping → Prop} {holds : Value → Prop}
    {holdsMap : Mapping → Prop} (each : IsEntrywise fits holds holdsMap) {key : Scalar}
    {value : Value} {mapping : Mapping} (whole : holdsMap mapping)
    (found : Mapping.get? key mapping = some value) : holds value := by
  induction mapping with
  | nil => simp [Mapping.get?] at found
  | cons entry rest inductionHypothesis =>
    obtain ⟨other, held⟩ := entry
    obtain ⟨-, own, others⟩ := each.cons.mp whole
    simp only [Mapping.get?] at found
    split at found
    · exact Option.some.inj found ▸ own
    · exact inductionHypothesis others found

mutual

/-- Whether no mapping in a value holds a key twice. What stands inside lists does not count. -/
def Value.isKeyed : Value → Bool
  | .map entries => Mapping.isKeyed entries
  | .scalar _ => true
  | .list _ => true
  | .set _ => true

/-- Whether neither the entries nor a mapping in their values hold a key twice. -/
def Mapping.isKeyed : List (Scalar × Value) → Bool
  | [] => true
  | (key, value) :: rest => !Mapping.has key rest && value.isKeyed && Mapping.isKeyed rest

end

namespace Mapping

theorem isKeyed_cons {key : Scalar} {value : Value} {rest : List (Scalar × Value)} :
    isKeyed ((key, value) :: rest) = true ↔
      get? key rest = none ∧ value.isKeyed = true ∧ isKeyed rest = true := by
  simp [isKeyed, has, and_assoc]

theorem same_eq_of_same {left right : Scalar} (same : left.same right = true) (other : Scalar) :
    other.same left = other.same right := by
  simp only [Scalar.same, decide_eq_true_eq] at same ⊢
  rw [same]

/-- A mapping does not tell two keys apart that are the same. -/
theorem get?_of_same {left right : Scalar} (same : left.same right = true) (mapping : Mapping) :
    get? left mapping = get? right mapping := by
  induction mapping with
  | nil => rfl
  | cons entry rest inductionHypothesis =>
    obtain ⟨other, value⟩ := entry
    simp only [get?, same_eq_of_same same other, inductionHypothesis]

theorem isEntrywise_isKeyed : IsEntrywise (fun key rest => get? key rest = none)
    (fun value => value.isKeyed = true) (fun mapping => isKeyed mapping = true) where
  nil := rfl
  cons := isKeyed_cons
  map := by simp [Value.isKeyed]
  fits_nil _ := rfl
  fits_put value own different := by rw [get?_put_of_not_same value _ different, own]

theorem isKeyed_of_get? {key : Scalar} {value : Value} {mapping : Mapping}
    (keyed : isKeyed mapping = true) (found : get? key mapping = some value) :
    value.isKeyed = true := isEntrywise_isKeyed.of_get? keyed found

end Mapping

/-! ### Trails -/

namespace Value

/-- Neither the empty value nor a mapping. -/
def isLeaf : Value → Bool
  | .map _ => false
  | .scalar .null => false
  | _ => true

/-- Whether a leaf is held. -/
def isLeaf? (held : Option Value) : Bool := held.any isLeaf

/-- What is held at a key of what is held. -/
def child (key : Scalar) : Option Value → Option Value
  | some (.map entries) => Mapping.get? key entries
  | _ => none

/-- What is held at the end of a trail that starts at what is held. -/
def behind : Trail → Option Value → Option Value
  | [], held => held
  | key :: trail, held => behind trail (child key held)

/-- Whether a leaf stands on a trail before its end. -/
def blocks : Trail → Option Value → Bool
  | [], _ => false
  | key :: trail, held => isLeaf? held || blocks trail (child key held)

@[simp] theorem child_none (key : Scalar) : child key none = none := rfl

@[simp] theorem child_map (key : Scalar) (entries : Mapping) :
    child key (some (.map entries)) = Mapping.get? key entries := rfl

theorem child_of_isLeaf {key : Scalar} {held : Option Value} (leaf : isLeaf? held = true) :
    child key held = none := by
  match held with
  | none => rfl
  | some (.map _) => simp [isLeaf?, isLeaf] at leaf
  | some (.scalar _) => rfl
  | some (.list _) => rfl
  | some (.set _) => rfl

@[simp] theorem behind_nil (held : Option Value) : behind [] held = held := rfl

@[simp] theorem behind_cons (key : Scalar) (trail : Trail) (held : Option Value) :
    behind (key :: trail) held = behind trail (child key held) := rfl

@[simp] theorem behind_none (trail : Trail) : behind trail none = none := by
  induction trail with
  | nil => rfl
  | cons key trail inductionHypothesis => exact inductionHypothesis

theorem behind_append (first second : Trail) (held : Option Value) :
    behind (first ++ second) held = behind second (behind first held) := by
  induction first generalizing held with
  | nil => rfl
  | cons key first inductionHypothesis => exact inductionHypothesis (child key held)

@[simp] theorem blocks_none (trail : Trail) : blocks trail none = false := by
  induction trail with
  | nil => rfl
  | cons key trail inductionHypothesis => simp [blocks, isLeaf?, inductionHypothesis]

/-- A trail is blocked when one of its beginnings ends at a leaf. -/
theorem blocks_iff {trail : Trail} {held : Option Value} :
    blocks trail held = true ↔
      ∃ first rest, trail = first ++ rest ∧ rest ≠ [] ∧ isLeaf? (behind first held) = true := by
  induction trail generalizing held with
  | nil =>
    simp only [blocks, Bool.false_eq_true, false_iff, not_exists]
    rintro first rest ⟨parts, nonempty, -⟩
    exact nonempty (List.append_eq_nil_iff.mp parts.symm).2
  | cons key trail inductionHypothesis =>
    simp only [blocks, Bool.or_eq_true, inductionHypothesis]
    constructor
    · rintro (leaf | ⟨first, rest, rfl, nonempty, leaf⟩)
      · exact ⟨[], key :: trail, rfl, by simp, leaf⟩
      · exact ⟨key :: first, rest, rfl, nonempty, leaf⟩
    · rintro ⟨first, rest, parts, nonempty, leaf⟩
      cases first with
      | nil => exact Or.inl leaf
      | cons other first =>
        obtain ⟨rfl, rfl⟩ := List.cons.inj parts
        exact Or.inr ⟨first, rest, rfl, nonempty, leaf⟩

/-- Nothing stands behind a leaf. -/
theorem behind_of_blocks {trail : Trail} {held : Option Value}
    (blocked : blocks trail held = true) :
    behind trail held = none := by
  obtain ⟨first, rest, rfl, nonempty, leaf⟩ := blocks_iff.mp blocked
  obtain ⟨key, rest, rfl⟩ := List.exists_cons_of_ne_nil nonempty
  rw [behind_append, behind_cons, child_of_isLeaf leaf, behind_none]

theorem blocks_append (first second : Trail) (held : Option Value) :
    blocks (first ++ second) held = (blocks first held || blocks second (behind first held)) := by
  induction first generalizing held with
  | nil => rfl
  | cons key first inductionHypothesis =>
    simp [blocks, inductionHypothesis, Bool.or_assoc]

/-! ### What a change of the texts leaves -/

theorem get?_mapTextsEntries (change : Text → Text) (key : Scalar) (entries : Mapping) :
    Mapping.get? key (mapTextsEntries change entries) =
      (Mapping.get? key entries).map (mapTexts change) := by
  induction entries with
  | nil => rfl
  | cons entry rest inductionHypothesis =>
    obtain ⟨other, value⟩ := entry
    simp only [mapTextsEntries, Mapping.get?, inductionHypothesis]
    split <;> rfl

theorem child_map_mapTexts (change : Text → Text) (key : Scalar) (held : Option Value) :
    child key (held.map (mapTexts change)) = (child key held).map (mapTexts change) := by
  match held with
  | none => rfl
  | some (.map entries) => exact get?_mapTextsEntries change key entries
  | some (.list _) => rfl
  | some (.set _) => rfl
  | some (.scalar leaf) => cases leaf <;> rfl

theorem behind_map_mapTexts (change : Text → Text) (trail : Trail) (held : Option Value) :
    behind trail (held.map (mapTexts change)) = (behind trail held).map (mapTexts change) := by
  induction trail generalizing held with
  | nil => rfl
  | cons key trail inductionHypothesis =>
    rw [behind_cons, behind_cons, child_map_mapTexts, inductionHypothesis]

end Value

namespace Mapping

/-- What a mapping holds at the end of a trail. -/
def at? (trail : Trail) (mapping : Mapping) :
    Option Value := Value.behind trail (some (.map mapping))

/-- Whether a mapping holds a leaf on a trail before its end. -/
def blocks (trail : Trail) (mapping : Mapping) : Bool := Value.blocks trail (some (.map mapping))

/-- What is held behind a trail that goes on from another one. -/
theorem at?_append (first second : Trail) (mapping : Mapping) :
    at? (first ++ second) mapping = Value.behind second (at? first mapping) :=
  Value.behind_append first second _

theorem at?_of_blocks {trail : Trail} {mapping : Mapping} (blocked : blocks trail mapping = true) :
    at? trail mapping = none :=
  Value.behind_of_blocks blocked

theorem blocks_of_isSome {trail : Trail} {mapping : Mapping}
    (held : (at? trail mapping).isSome = true) : blocks trail mapping = false := by
  rw [Bool.eq_false_iff]
  intro blocked
  simp [at?_of_blocks blocked] at held

/-- A leaf blocks every trail that goes on behind it. -/
theorem blocks_of_isLeaf {start rest : Trail} {mapping : Mapping}
    (leaf : Value.isLeaf? (at? start mapping) = true) (below : rest ≠ []) :
    blocks (start ++ rest) mapping = true :=
  Value.blocks_iff.mpr ⟨start, rest, rfl, below, leaf⟩

theorem at?_fill (values : Placeholder.Values) (trail : Trail) (mapping : Mapping) :
    at? trail (mapping.fill values) = (at? trail mapping).map (Value.fill values) :=
  Value.behind_map_mapTexts (Placeholder.fillText values) trail (some (.map mapping))

end Mapping

/-! ### Merging along a trail -/

namespace Value

/-- What is held after something, or nothing, is merged over what was held. -/
def overlaid (old new : Option Value) : Option Value :=
  match new with
  | none => old
  | some value => some (mergeOver old value)

@[simp] theorem overlaid_none (old : Option Value) : overlaid old none = old := rfl

@[simp] theorem isSome_overlaid (old new : Option Value) :
    (overlaid old new).isSome = (old.isSome || new.isSome) := by
  cases new <;> simp [overlaid]

theorem overlaid_of_isLeaf {old new : Option Value} (leaf : isLeaf? new = true) :
    overlaid old new = new := by
  match new with
  | none => simp [isLeaf?] at leaf
  | some (.map _) => simp [isLeaf?, isLeaf] at leaf
  | some (.list _) => simp [overlaid, mergeOver]
  | some (.set _) => simp [overlaid, mergeOver]
  | some (.scalar atom) => cases atom <;> simp_all [overlaid, mergeOver, isLeaf?, isLeaf]

@[simp] theorem none_overlaid (new : Option Value) : overlaid none new = new := by
  match new with
  | none => rfl
  | some (.map _) => simp [overlaid, mergeOver]
  | some (.list _) => simp [overlaid, mergeOver]
  | some (.set _) => simp [overlaid, mergeOver]
  | some (.scalar atom) => cases atom <;> simp [overlaid, mergeOver]

theorem overlaid_null (old : Option Value) : overlaid old (some null) = some (old.getD null) := by
  simp [overlaid, mergeOver]

theorem overlaid_map (base entries : Mapping) :
    overlaid (some (.map base)) (some (.map entries)) =
      some (.map (Mapping.merge base entries)) := by
  simp [overlaid, mergeOver]

/-- Over what is no mapping, a mapping is merged as it is. -/
theorem overlaid_map_of_bare {old : Option Value} (bare : ∀ base, old ≠ some (.map base))
    (entries : Mapping) : overlaid old (some (.map entries)) = some (.map entries) := by
  match old with
  | none => simp
  | some (.map base) => exact absurd rfl (bare base)
  | some (.list _) => simp [overlaid, mergeOver]
  | some (.set _) => simp [overlaid, mergeOver]
  | some (.scalar _) => simp [overlaid, mergeOver]

theorem child_of_bare {held : Option Value} (bare : ∀ entries, held ≠ some (.map entries))
    (key : Scalar) : child key held = none := by
  match held with
  | none => rfl
  | some (.map entries) => exact absurd rfl (bare entries)
  | some (.list _) => rfl
  | some (.set _) => rfl
  | some (.scalar _) => rfl

end Value

namespace Mapping

/-- What a merged mapping holds at a key. -/
theorem get?_merge {fragment : List (Scalar × Value)} (keyed : isKeyed fragment = true)
    (key : Scalar) (base : Mapping) :
    get? key (merge base fragment) = Value.overlaid (get? key base) (get? key fragment) := by
  induction fragment generalizing base with
  | nil => simp [merge, get?]
  | cons entry rest inductionHypothesis =>
    obtain ⟨other, value⟩ := entry
    obtain ⟨fresh, -, restKeyed⟩ := isKeyed_cons.mp keyed
    rw [merge, inductionHypothesis restKeyed]
    by_cases same : other.same key = true
    · have missing : get? key rest = none := by rw [← get?_of_same same, fresh]
      rw [← get?_of_same same (put other _ base), get?_put_same, missing, get?_of_same same base]
      simp [get?, same, Value.overlaid]
    · rw [get?_put_of_not_same _ _ (by simpa using same)]
      simp [get?, same]

end Mapping

namespace Value

theorem child_overlaid {old new : Option Value} (keyed : new.all isKeyed = true) (key : Scalar) :
    child key (overlaid old new) =
      if isLeaf? new then none else overlaid (child key old) (child key new) := by
  match new with
  | none => simp [isLeaf?]
  | some (.list _) => simp [overlaid, mergeOver, isLeaf?, isLeaf, child]
  | some (.set _) => simp [overlaid, mergeOver, isLeaf?, isLeaf, child]
  | some (.map entries) =>
    have entriesKeyed : Mapping.isKeyed entries = true := by simpa [isKeyed] using keyed
    by_cases bare : ∀ base, old ≠ some (.map base)
    · rw [overlaid_map_of_bare bare, child_of_bare bare, none_overlaid]
      rfl
    · obtain ⟨base, mapping⟩ := Classical.not_forall.mp bare
      obtain rfl := Classical.not_not.mp mapping
      rw [overlaid_map, child_map, Mapping.get?_merge entriesKeyed]
      rfl
  | some (.scalar atom) =>
    cases atom with
    | null => cases old <;> simp [overlaid_null, isLeaf?, isLeaf, child]
    | _ => simp [overlaid, mergeOver, isLeaf?, isLeaf, child]

theorem isKeyed_child {held : Option Value} (keyed : held.all isKeyed = true) (key : Scalar) :
    (child key held).all isKeyed = true := by
  match held with
  | none | some (.scalar _) | some (.list _) | some (.set _) => rfl
  | some (.map entries) =>
    cases found : Mapping.get? key entries with
    | none => simp [child, found]
    | some value =>
      have entriesKeyed : Mapping.isKeyed entries = true := by simpa [isKeyed] using keyed
      simpa [child, found] using Mapping.isKeyed_of_get? entriesKeyed found

theorem isLeaf?_overlaid (old new : Option Value) :
    isLeaf? (overlaid old new) = (isLeaf? new || (isLeaf? old && new.all isNull)) := by
  match new with
  | none => simp [isLeaf?]
  | some (.list _) => simp [overlaid, mergeOver, isLeaf?, isLeaf]
  | some (.set _) => simp [overlaid, mergeOver, isLeaf?, isLeaf]
  | some (.map entries) =>
    by_cases bare : ∀ base, old ≠ some (.map base)
    · simp [overlaid_map_of_bare bare, isLeaf?, isLeaf, isNull]
    · obtain ⟨base, mapping⟩ := Classical.not_forall.mp bare
      obtain rfl := Classical.not_not.mp mapping
      simp [overlaid_map, isLeaf?, isLeaf]
  | some (.scalar atom) =>
    cases atom with
    | null => cases old <;> simp [overlaid_null, isLeaf?, isLeaf, isNull]
    | _ => simp [overlaid, mergeOver, isLeaf?, isLeaf]

/-- What a merge leaves at the end of a trail: nothing if the second side puts a leaf on the way,
and otherwise what the second side holds there over what the first one does. -/
theorem behind_overlaid {new : Option Value} (keyed : new.all isKeyed = true) (trail : Trail)
    (old : Option Value) :
    behind trail (overlaid old new) =
      if blocks trail new then none else overlaid (behind trail old) (behind trail new) := by
  induction trail generalizing old new with
  | nil => rfl
  | cons key trail inductionHypothesis =>
    rw [behind_cons, child_overlaid keyed]
    by_cases leaf : isLeaf? new = true
    · simp [blocks, leaf]
    · simp only [Bool.not_eq_true] at leaf
      simp only [leaf, Bool.false_eq_true, if_false, inductionHypothesis (isKeyed_child keyed key),
        blocks, Bool.false_or, behind_cons]

end Value

namespace Mapping

/-- What a merged mapping holds at the end of a trail. -/
theorem at?_merge {fragment : Mapping} (keyed : isKeyed fragment = true) (trail : Trail)
    (base : Mapping) :
    at? trail (merge base fragment) =
      if blocks trail fragment then none
      else Value.overlaid (at? trail base) (at? trail fragment) := by
  rw [at?, ← Value.overlaid_map]
  exact Value.behind_overlaid (by simpa [Value.isKeyed] using keyed) trail _

/-- A merge puts no leaf on a trail on which neither side has one. -/
theorem blocks_merge {base fragment : Mapping} (keyed : isKeyed fragment = true) {trail : Trail}
    (baseOpen : blocks trail base = false) (fragmentOpen : blocks trail fragment = false) :
    blocks trail (merge base fragment) = false := by
  rw [Bool.eq_false_iff]
  intro blocked
  obtain ⟨start, rest, rfl, below, leaf⟩ := Value.blocks_iff.mp blocked
  have startOpen : blocks start fragment = false := by
    rw [blocks, Value.blocks_append, Bool.or_eq_false_iff] at fragmentOpen
    exact fragmentOpen.1
  rw [← at?, at?_merge keyed, startOpen, if_neg Bool.false_ne_true, Value.isLeaf?_overlaid,
    Bool.or_eq_true, Bool.and_eq_true] at leaf
  rcases leaf with new | ⟨old, -⟩
  · simp [blocks_of_isLeaf new below] at fragmentOpen
  · simp [blocks_of_isLeaf old below] at baseOpen

end Mapping

end GuidedMigration

/-! ### What a merged document holds -/

namespace GuidedMigration.Mapping

open Value

/-- Whether a mapping holds something at the end of a trail. -/
def Binds (mapping : Mapping) (trail : Trail) : Prop := (at? trail mapping).isSome = true

/-- Whether a mapping holds a leaf at a beginning of a trail that is neither empty nor all of it. -/
def CutsOff (mapping : Mapping) (trail : Trail) : Prop :=
  ∃ start rest, trail = start ++ rest ∧ start ≠ [] ∧ rest ≠ [] ∧
    isLeaf? (at? start mapping) = true

variable {base fragment : Mapping} {trail : Trail}

/-- The mapping itself is no leaf, so the empty beginning never cuts a trail off. -/
theorem blocks_iff_cutsOff : fragment.blocks trail = true ↔ fragment.CutsOff trail := by
  rw [blocks, Value.blocks_iff]
  constructor
  · rintro ⟨start, rest, parts, below, leaf⟩
    refine ⟨start, rest, parts, ?_, below, leaf⟩
    rintro rfl
    simp [isLeaf?, isLeaf] at leaf
  · rintro ⟨start, rest, parts, -, below, leaf⟩
    exact ⟨start, rest, parts, below, leaf⟩

theorem Binds.not_cutsOff (bound : fragment.Binds trail) : ¬ fragment.CutsOff trail := by
  rw [← blocks_iff_cutsOff, blocks_of_isSome bound]
  exact Bool.false_ne_true

theorem not_binds : ¬ fragment.Binds trail ↔ at? trail fragment = none := by
  rw [Binds, Option.isSome_iff_ne_none, Classical.not_not]

/-- On a trail that the fragment does not cut off, its side is held over that of the base. -/
theorem at?_merge_of_not_cutsOff (keyed : isKeyed fragment = true)
    (whole : ¬ fragment.CutsOff trail) :
    at? trail (merge base fragment) = overlaid (at? trail base) (at? trail fragment) := by
  rw [at?_merge keyed, if_neg (mt blocks_iff_cutsOff.mp whole)]

/-- Which trails a merged mapping binds. -/
theorem binds_merge_iff (keyed : isKeyed fragment = true) :
    (merge base fragment).Binds trail ↔
      fragment.Binds trail ∨ base.Binds trail ∧ ¬ fragment.CutsOff trail := by
  by_cases cut : fragment.CutsOff trail
  · have unbound : ¬ fragment.Binds trail := fun bound => bound.not_cutsOff cut
    rw [Binds, at?_merge keyed, if_pos (blocks_iff_cutsOff.mpr cut)]
    simp [cut, unbound]
  · rw [Binds, at?_merge_of_not_cutsOff keyed cut, isSome_overlaid, Bool.or_eq_true]
    simp [cut, Binds, or_comm]

/-- What a merged mapping holds at the end of a trail: it binds the trail if the fragment does, or
if the base does and the fragment does not cut it off. A leaf of the fragment is held as it is; what
the base binds is held as it was where the fragment has nothing or the empty value. -/
theorem merge_holds_exactly (keyed : isKeyed fragment = true) (base : Mapping) (trail : Trail) :
    ((merge base fragment).Binds trail ↔
      fragment.Binds trail ∨ base.Binds trail ∧ ¬ fragment.CutsOff trail) ∧
    (isLeaf? (at? trail fragment) = true →
      at? trail (merge base fragment) = at? trail fragment) ∧
    (base.Binds trail → ¬ fragment.Binds trail → (merge base fragment).Binds trail →
      at? trail (merge base fragment) = at? trail base) ∧
    (at? trail fragment = some null → base.Binds trail →
      at? trail (merge base fragment) = at? trail base) := by
  refine ⟨binds_merge_iff keyed, fun leaf => ?_, fun _ unbound survives => ?_,
    fun empty bound => ?_⟩
  · have held : fragment.Binds trail := Option.isSome_of_any leaf
    rw [at?_merge_of_not_cutsOff keyed held.not_cutsOff, overlaid_of_isLeaf leaf]
  · have whole : ¬ fragment.CutsOff trail :=
      (((binds_merge_iff keyed).mp survives).resolve_left unbound).2
    rw [at?_merge_of_not_cutsOff keyed whole, not_binds.mp unbound, overlaid_none]
  · have held : fragment.Binds trail := by rw [Binds, empty]; rfl
    obtain ⟨value, found⟩ := Option.isSome_iff_exists.mp bound
    rw [at?_merge_of_not_cutsOff keyed held.not_cutsOff, empty, overlaid_null, found]
    rfl

/-- A document with a port below a backend, providers, and the key of an integration. -/
def portalBase : Mapping :=
  [(.text "backend".toList, .record [("port", .int 7007), ("host", .text "a".toList)]),
    (.text "auth".toList, .record [("providers", .record [("github", .int 1)])]),
    (.text "token".toList, .int 5)]

/-- A fragment with another host, a leaf for the authentication, and the empty value for the key. -/
def portalFragment : Mapping :=
  [(.text "backend".toList, .record [("host", .text "b".toList)]),
    (.text "auth".toList, .text "off".toList), (.text "token".toList, .null)]

/-- The trail that leads along names. -/
def trailOf (names : List String) : Trail := names.map fun name => .text name.toList

/-- The port stays, the host is replaced, the providers are cut off, and the key is kept. -/
theorem merge_holds_exactly_in_small_document :
    isKeyed portalFragment = true ∧
      at? (trailOf ["backend", "port"]) (merge portalBase portalFragment) = some (.int 7007) ∧
      at? (trailOf ["backend", "host"]) (merge portalBase portalFragment) =
        some (.text "b".toList) ∧
      ¬ (merge portalBase portalFragment).Binds (trailOf ["auth", "providers"]) ∧
      at? (trailOf ["token"]) (merge portalBase portalFragment) = some (.int 5) := by
  have keyed : isKeyed portalFragment = true := rfl
  have whole {names : List String} (whole : portalFragment.blocks (trailOf names) = false) :
      ¬ portalFragment.CutsOff (trailOf names) := by
    rw [← blocks_iff_cutsOff, whole]
    exact Bool.false_ne_true
  obtain ⟨port, -, kept, -⟩ :=
    merge_holds_exactly keyed portalBase (trailOf ["backend", "port"])
  obtain ⟨-, replaced, -, -⟩ :=
    merge_holds_exactly keyed portalBase (trailOf ["backend", "host"])
  obtain ⟨providers, -, -, -⟩ :=
    merge_holds_exactly keyed portalBase (trailOf ["auth", "providers"])
  obtain ⟨-, -, -, token⟩ := merge_holds_exactly keyed portalBase (trailOf ["token"])
  refine ⟨keyed, ?_, replaced rfl, ?_, token rfl rfl⟩
  · exact kept rfl (not_binds.mpr rfl) (port.mpr (.inr ⟨rfl, whole rfl⟩))
  · rw [providers, not_or, not_binds]
    exact ⟨rfl, fun survives => survives.2 (blocks_iff_cutsOff.mp rfl)⟩

end GuidedMigration.Mapping
