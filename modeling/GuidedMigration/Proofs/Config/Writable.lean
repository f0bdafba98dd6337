/-
This file follows integers that are too long to be written through the documents. Whether a document
holds one does not depend on how it is spelled: no double is equal to such an integer, so that of
two alike documents both can be written or neither can. A merge makes none up, and it hides none
either: what a fragment holds is in the merged document, which therefore cannot be written if the
fragment cannot. Filling placeholders in changes texts and no integers, and what is carried back to
the template has nothing but placeholders for its leaves.
-/
import GuidedMigration.Proofs.Config.Parity
import GuidedMigration.Proofs.Value.Congruence
import Mathlib.Algebra.Group.Nat.Defs

namespace GuidedMigration

/-! ### Doubles -/

/-- An integer of few enough bits is not too long. -/
theorem LongInteger.isLong_eq_false {number : Int} {bits : Nat} (few : bits ≤ limit)
    (below : number.natAbs < 2 ^ bits) : isLong number = false := by
  have wider {digits : Nat} (few : bits ≤ digits) : 2 ^ bits ≤ Nat.pow 10 digits :=
    Nat.le_trans (Nat.pow_le_pow_left (by omega) bits) (Nat.pow_le_pow_right (by omega) few)
  rw [isLong, decide_eq_false_iff_not, Nat.not_le]
  exact Nat.lt_of_lt_of_le below (wider few)

namespace Double

theorem fractionField_lt (double : Double) : double.fractionField < 2 ^ 52 :=
  Nat.mod_lt _ (Nat.two_pow_pos 52)

theorem exponentField_lt (double : Double) : double.exponentField < 2048 :=
  Nat.mod_lt _ (by omega)

theorem parts_lt (double : Double) : double.parts.1 < 2 ^ 53 ∧ double.parts.2.toNat < 973 := by
  have fraction := double.fractionField_lt
  have exponent := double.exponentField_lt
  rw [parts]
  split
  · exact ⟨by omega, by simp⟩
  · have unit : exponentUnit = 2 ^ 52 := rfl
    exact ⟨by simp only [unit]; omega, by dsimp only; omega⟩

/-- No integer that a double is equal to is too long. -/
theorem isLong_of_toInt? {double : Double} {whole : Int} (found : double.toInt? = some whole) :
    LongInteger.isLong whole = false := by
  obtain ⟨significand, exponent⟩ := double.parts_lt
  rw [toInt?] at found
  split at found
  · simp at found
  · revert found significand exponent
    obtain ⟨digits, power⟩ := double.parts
    intro significand exponent found
    obtain ⟨_, taken, rfl⟩ := Option.map_eq_some_iff.mp found
    obtain ⟨magnitude, held, same⟩ := Option.bind_eq_some_iff.mp taken
    obtain rfl := Option.some.inj same
    have shifted : digits * 2 ^ power.toNat < 2 ^ (53 + power.toNat) := by
      rw [Nat.pow_add]
      exact Nat.mul_lt_mul_of_pos_right significand (Nat.two_pow_pos _)
    have bound : magnitude ≤ digits * 2 ^ power.toNat := by
      split at held
      · exact Nat.le_of_eq (Option.some.inj held).symm
      · obtain ⟨-, same⟩ := Option.ite_none_right_eq_some.mp held
        rw [← Option.some.inj same]
        exact Nat.le_trans (Nat.div_le_self _ _)
          (Nat.le_mul_of_pos_right _ (Nat.two_pow_pos _))
    refine @LongInteger.isLong_eq_false _ (53 + power.toNat) ?_ ?_
    · rw [LongInteger.limit]
      omega
    · refine Nat.lt_of_le_of_lt ?_ shifted
      split <;> simpa using bound

end Double

/-! ### Scalars -/

namespace Scalar

/-- Whether a scalar is a long integer can be told from what it stands for as a key. -/
theorem isLongInteger_identity (scalar : Scalar) :
    scalar.identity.isLongInteger = scalar.isLongInteger := by
  cases scalar with
  | bool truth =>
    have small : (if truth then 1 else 0 : Int).natAbs < 2 ^ 1 := by cases truth <;> decide
    exact LongInteger.isLong_eq_false (by decide) small
  | double number =>
    rw [identity]
    split
    · rename_i whole found
      exact Double.isLong_of_toInt? found
    · rfl
  | _ => rfl

theorem isLongInteger_of_same {left right : Scalar} (same : left.same right = true) :
    left.isLongInteger = right.isLongInteger := by
  rw [← isLongInteger_identity, ← isLongInteger_identity right, of_decide_eq_true same]

end Scalar

/-! ### Values -/

namespace Value

variable {left right : Value}

theorem holdsLongIntegerList_eq_false {items : List Value} :
    holdsLongIntegerList items = false ↔ ∀ item ∈ items, item.holdsLongInteger = false := by
  induction items with
  | nil => simp [holdsLongIntegerList]
  | cons item rest inductionHypothesis => simp [holdsLongIntegerList, inductionHypothesis]

theorem holdsLongIntegerMap_eq_false {entries : List (Scalar × Value)} :
    holdsLongIntegerMap entries = false ↔ ∀ key value, (key, value) ∈ entries →
      key.isLongInteger = false ∧ value.holdsLongInteger = false := by
  induction entries with
  | nil => simp [holdsLongIntegerMap]
  | cons entry rest inductionHypothesis =>
    simp only [holdsLongIntegerMap, Bool.or_eq_false_iff, inductionHypothesis, List.mem_cons]
    constructor
    · rintro ⟨here, behind⟩ key value (rfl | member)
      · exact here
      · exact behind key value member
    · exact fun each => ⟨each entry.1 entry.2 (.inl rfl), fun key value member =>
        each key value (.inr member)⟩

/-- A value that is alike to one without long integers has none. -/
theorem Alike.holdsLongInteger (alike : Alike left right) (proper : right.isProper = true)
    (short : left.holdsLongInteger = false) : right.holdsLongInteger = false := by
  induction alike with
  | scalar same => rwa [Value.holdsLongInteger, ← Scalar.isLongInteger_of_same same]
  | @set first second members =>
    rw [Value.holdsLongInteger, List.any_eq_false] at short ⊢
    intro member among
    have named : (second.any fun other => other.same member) = true :=
      List.any_eq_true.mpr ⟨member, among, Scalar.same_refl member⟩
    obtain ⟨other, listed, same⟩ := List.any_eq_true.mp ((members member).trans named)
    rw [← Scalar.isLongInteger_of_same same]
    exact short other listed
  | @list first second length _ inductionHypothesis =>
    rw [isProper, isProperList_eq_true] at proper
    rw [Value.holdsLongInteger, holdsLongIntegerList_eq_false] at short ⊢
    intro item member
    obtain ⟨place, within, found⟩ := List.mem_iff_getElem.mp member
    exact inductionHypothesis place first[place] item (List.getElem?_eq_getElem _)
      (List.getElem?_eq_some_iff.mpr ⟨within, found⟩) (proper item member)
      (short _ (List.getElem_mem _))
  | @map first second keys _ inductionHypothesis =>
    rw [isProper] at proper
    rw [Value.holdsLongInteger, holdsLongIntegerMap_eq_false] at short ⊢
    intro key value member
    have found := Mapping.get?_of_mem (Mapping.isKeyed_of_isProper proper) member
    have named := keys key
    rw [Mapping.has, Mapping.has, found, Option.isSome_some] at named
    obtain ⟨value', found'⟩ := Option.isSome_iff_exists.mp named
    obtain ⟨spelled, same, member'⟩ := Mapping.exists_mem_of_get? found'
    obtain ⟨keyShort, valueShort⟩ := short spelled value' member'
    exact ⟨by rw [← Scalar.isLongInteger_of_same same]; exact keyShort,
      inductionHypothesis key value' value found' found (Mapping.isProper_of_get? proper found)
        valueShort⟩

/-- What is merged over something keeps its long integers. -/
theorem holdsLongInteger_of_mergeOver {held : Option Value} {value : Value}
    (keyed : value.isKeyed = true) (short : (mergeOver held value).holdsLongInteger = false) :
    value.holdsLongInteger = false := by
  match value with
  | .list _ | .set _ => simpa [mergeOver] using short
  | .scalar atom =>
    cases atom with
    | null => rfl
    | _ => simpa [mergeOver] using short
  | .map entries =>
    by_cases bare : ∀ base, held ≠ some (.map base)
    · have merged : mergeOver held (.map entries) = .map entries :=
        Option.some.inj (overlaid_map_of_bare bare entries)
      rwa [merged] at short
    · obtain ⟨base, mapping⟩ := Classical.not_forall.mp bare
      obtain rfl := Classical.not_not.mp mapping
      rw [isKeyed] at keyed
      rw [mergeOver, holdsLongInteger, holdsLongIntegerMap_eq_false] at short
      rw [holdsLongInteger, holdsLongIntegerMap_eq_false]
      intro key value member
      have found := Mapping.get?_of_mem keyed member
      have merged : Mapping.get? key (Mapping.merge base entries) =
          some (mergeOver (Mapping.get? key base) value) := by
        rw [Mapping.get?_merge keyed, found]
        rfl
      obtain ⟨spelled, same, member'⟩ := Mapping.exists_mem_of_get? merged
      obtain ⟨keyShort, valueShort⟩ := short spelled _ member'
      exact ⟨by rw [← Scalar.isLongInteger_of_same same]; exact keyShort,
        holdsLongInteger_of_mergeOver (Mapping.isKeyed_of_get? keyed found) valueShort⟩
termination_by sizeOf value
decreasing_by
  have smaller := Mapping.sizeOf_lt_of_get? found
  simp only [map.sizeOf_spec]
  omega

mutual

theorem holdsLongInteger_mapTexts (change : Text → Text) (value : Value) :
    (mapTexts change value).holdsLongInteger = value.holdsLongInteger := by
  match value with
  | .map entries => exact holdsLongIntegerMap_mapTextsEntries change entries
  | .list items => exact holdsLongIntegerList_mapTextsList change items
  | .set _ => rfl
  | .scalar atom => cases atom <;> rfl

theorem holdsLongIntegerList_mapTextsList (change : Text → Text) (items : List Value) :
    holdsLongIntegerList (mapTextsList change items) = holdsLongIntegerList items := by
  match items with
  | [] => rfl
  | item :: rest =>
    rw [mapTextsList, holdsLongIntegerList, holdsLongIntegerList,
      holdsLongInteger_mapTexts change item, holdsLongIntegerList_mapTextsList change rest]

theorem holdsLongIntegerMap_mapTextsEntries (change : Text → Text)
    (entries : List (Scalar × Value)) :
    holdsLongIntegerMap (mapTextsEntries change entries) = holdsLongIntegerMap entries := by
  match entries with
  | [] => rfl
  | (key, value) :: rest =>
    rw [mapTextsEntries, holdsLongIntegerMap, holdsLongIntegerMap,
      holdsLongInteger_mapTexts change value, holdsLongIntegerMap_mapTextsEntries change rest]

end

end Value

/-! ### Documents -/

/-- Whether no key of a mapping and of the mappings in it is a long integer and no leaf at them
holds one. -/
abbrev Mapping.IsShort : Mapping → Prop :=
  Mapping.MadeOf (fun key => key.isLongInteger = false) fun leaf => leaf.holdsLongInteger = false

namespace Value

mutual

theorem madeOf_short_iff (value : Value) : value.MadeOf (fun key => key.isLongInteger = false)
    (fun leaf => leaf.holdsLongInteger = false) ↔ value.holdsLongInteger = false := by
  match value with
  | .map entries => simpa [MadeOf, holdsLongInteger] using isShort_iff entries
  | .list _ | .set _ | .scalar _ => rw [MadeOf]

theorem isShort_iff (entries : List (Scalar × Value)) :
    Mapping.IsShort entries ↔ holdsLongIntegerMap entries = false := by
  match entries with
  | [] => simp [holdsLongIntegerMap]
  | (key, value) :: rest =>
    simp [Mapping.madeOf_cons, holdsLongIntegerMap, madeOf_short_iff value, isShort_iff rest,
      and_assoc]

end

end Value

namespace Config

variable {document other base fragment : Mapping}

/-- A document can be written if its keys and its leaves can. -/
theorem isWritable_iff : isWritable document = true ↔ document.IsShort := by
  rw [isWritable, Bool.not_eq_true', Value.isShort_iff, Value.holdsLongInteger]

theorem isWritable_of_alike (alike : document.Alike other)
    (proper : Mapping.isProper other = true) (writable : isWritable document = true) :
    isWritable other = true := by
  rw [isWritable, Bool.not_eq_true'] at writable ⊢
  exact Value.Alike.holdsLongInteger alike (by rwa [Value.isProper]) writable

theorem isWritable_fill (values : Placeholder.Values) (document : Mapping) :
    isWritable (document.fill values) = isWritable document :=
  congrArg not (Value.holdsLongIntegerMap_mapTextsEntries (Placeholder.fillText values) document)

theorem isWritable_merge (baseWritable : isWritable base = true)
    (writable : isWritable fragment = true) : isWritable (base.merge fragment) = true :=
  isWritable_iff.mpr
    (Value.madeOf_merge (isWritable_iff.mp baseWritable) (isWritable_iff.mp writable))

/-- A fragment that cannot be written makes every document that it is merged into one that cannot be
written. -/
theorem isWritable_of_merge (keyed : Mapping.isKeyed fragment = true)
    (writable : isWritable (base.merge fragment) = true) : isWritable fragment = true := by
  rw [isWritable, Bool.not_eq_true'] at writable ⊢
  refine @Value.holdsLongInteger_of_mergeOver (some (.map base)) (.map fragment)
    (by rwa [Value.isKeyed]) ?_
  rwa [Value.mergeOver]

theorem isWritable_carried (writable : isWritable document = true) (template : Mapping) :
    isWritable (carried template document) = true :=
  isWritable_iff.mpr (madeOf_carriedEntries (fun _ => rfl) [] template (isWritable_iff.mp writable))

namespace Contributions

variable {contributions : Contributions} {template locals : Mapping}

theorem isWritable_foldl (fragmentOf : Contribution → Mapping)
    (baseWritable : isWritable base = true)
    (writable : ∀ part ∈ contributions, isWritable (fragmentOf part) = true) :
    isWritable (contributions.foldl (fun document part => document.merge (fragmentOf part)) base) =
      true :=
  isWritable_iff.mpr (Mapping.madeOf_foldl_merge fragmentOf (isWritable_iff.mp baseWritable)
    fun part member => isWritable_iff.mp (writable part member))

/-- Where everything that goes into a pair can be written, so can the pair. -/
theorem isWritable_pairFrom (templateWritable : isWritable template = true)
    (localsWritable : isWritable locals = true)
    (writable : ∀ part ∈ contributions, isWritable part.fragment = true) :
    isWritable (contributions.pairFrom template locals).template = true ∧
      isWritable (contributions.pairFrom template locals).locals = true := by
  have filled : isWritable (contributions.pairFrom template locals).locals = true := by
    refine isWritable_merge (isWritable_merge ?_ localsWritable) ?_
    · rw [isWritable_fill, templateWritable]
    · exact isWritable_foldl Contribution.localFragment rfl fun part member =>
        (isWritable_fill part.values part.fragment).trans (writable part member)
  refine ⟨isWritable_merge (isWritable_merge templateWritable ?_) (isWritable_carried filled _),
    filled⟩
  exact isWritable_foldl Contribution.fragment rfl writable

end Contributions

end Config

end GuidedMigration
