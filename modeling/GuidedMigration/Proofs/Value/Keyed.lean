/-
This file separates the shape of a document from its content, and shows that documents stay keyed.
The shape keeps the keys, the mappings and the empty values, and every leaf in it is the empty text.
A merge can be done on shapes: which keys a merged document has never depends on what the leaves
say. Writing to a key, merging and filling placeholders in never make a mapping hold one key twice.

Then it says which values a program can hold at all: no mapping holds a key twice and no set a
member, wherever they stand. Being keyed leaves out what stands inside lists, which is enough to
follow trails; to compare two values one has to look there as well. Merging proper values and
changing their texts gives proper values. Whether two values are equal is decided, so that what is
read from small documents can be computed and compared.
-/
import GuidedMigration.Proofs.Value.Trail
import GuidedMigration.Value.Basic

namespace GuidedMigration

mutual

/-- A value with every leaf in it replaced by the empty text. -/
def Value.shape : Value → Value
  | .map entries => .map (Mapping.shape entries)
  | .scalar .null => .null
  | .scalar _ => .text []
  | .list _ => .text []
  | .set _ => .text []

/-- The entries with every leaf in their values replaced by the empty text. -/
def Mapping.shape : List (Scalar × Value) → List (Scalar × Value)
  | [] => []
  | (key, value) :: rest => (key, value.shape) :: Mapping.shape rest

end

namespace Mapping

theorem get?_shape (key : Scalar) (entries : Mapping) :
    get? key (shape entries) = (get? key entries).map Value.shape := by
  induction entries with
  | nil => rfl
  | cons entry rest inductionHypothesis =>
    obtain ⟨other, value⟩ := entry
    simp only [shape, get?, inductionHypothesis]
    split <;> rfl

theorem shape_put (key : Scalar) (value : Value) (entries : Mapping) :
    shape (put key value entries) = put key value.shape (shape entries) := by
  induction entries with
  | nil => rfl
  | cons entry rest inductionHypothesis =>
    obtain ⟨other, old⟩ := entry
    simp only [put, shape]
    split <;> simp [shape, inductionHypothesis]

end Mapping

namespace Value

theorem isLeaf_shape (value : Value) : value.shape.isLeaf = value.isLeaf := by
  match value with
  | .map _ => rfl
  | .list _ => rfl
  | .set _ => rfl
  | .scalar atom => cases atom <;> rfl

theorem child_map_shape (key : Scalar) (held : Option Value) :
    child key (held.map shape) = (child key held).map shape := by
  match held with
  | none => rfl
  | some (.map entries) => exact Mapping.get?_shape key entries
  | some (.list _) => rfl
  | some (.set _) => rfl
  | some (.scalar atom) => cases atom <;> rfl

theorem behind_map_shape (trail : Trail) (held : Option Value) :
    behind trail (held.map shape) = (behind trail held).map shape := by
  induction trail generalizing held with
  | nil => rfl
  | cons key trail inductionHypothesis =>
    rw [behind_cons, behind_cons, child_map_shape, inductionHypothesis]

theorem isLeaf?_map_shape (held : Option Value) : isLeaf? (held.map shape) = isLeaf? held := by
  cases held with
  | none => rfl
  | some value => exact isLeaf_shape value

theorem blocks_map_shape (trail : Trail) (held : Option Value) :
    blocks trail (held.map shape) = blocks trail held := by
  induction trail generalizing held with
  | nil => rfl
  | cons key trail inductionHypothesis =>
    rw [blocks, blocks, isLeaf?_map_shape, child_map_shape, inductionHypothesis]

/-! ### Shapes of merged and of changed values -/

mutual

/-- The shape of a merged value is the merge of the shapes. -/
theorem shape_mergeOver (old : Option Value) (value : Value) :
    (mergeOver old value).shape = mergeOver (old.map shape) value.shape := by
  match value with
  | .map entries =>
    match old with
    | none => simp [mergeOver, shape]
    | some (.map base) => simp [mergeOver, shape, shape_merge base entries]
    | some (.list _) => simp [mergeOver, shape]
    | some (.set _) => simp [mergeOver, shape]
    | some (.scalar atom) => cases atom <;> simp [mergeOver, shape]
  | .list _ => simp [mergeOver, shape]
  | .set _ => simp [mergeOver, shape]
  | .scalar atom =>
    cases atom with
    | null => cases old <;> simp [mergeOver, shape]
    | _ => simp [mergeOver, shape]

/-- The shape of a merged mapping is the merge of the shapes. -/
theorem shape_merge (base : Mapping) (entries : List (Scalar × Value)) :
    Mapping.shape (Mapping.merge base entries) =
      Mapping.merge (Mapping.shape base) (Mapping.shape entries) := by
  match entries with
  | [] => simp [Mapping.merge, Mapping.shape]
  | (key, value) :: rest =>
    rw [Mapping.merge, shape_merge _ rest, Mapping.shape_put,
      shape_mergeOver (Mapping.get? key base) value, ← Mapping.get?_shape]
    simp [Mapping.shape, Mapping.merge]

end

mutual

/-- Changing texts leaves the shape as it is. -/
theorem shape_mapTexts (change : Text → Text) (value : Value) :
    (mapTexts change value).shape = value.shape := by
  match value with
  | .map entries => simp [mapTexts, shape, shape_mapTextsEntries change entries]
  | .list _ => rfl
  | .set _ => rfl
  | .scalar atom => cases atom <;> rfl

/-- Changing texts leaves the shape of a mapping as it is. -/
theorem shape_mapTextsEntries (change : Text → Text) (entries : List (Scalar × Value)) :
    Mapping.shape (mapTextsEntries change entries) = Mapping.shape entries := by
  match entries with
  | [] => rfl
  | (key, value) :: rest =>
    simp [mapTextsEntries, Mapping.shape, shape_mapTexts change value,
      shape_mapTextsEntries change rest]

end

end Value

namespace Mapping

/-- Filling placeholders in leaves the shape as it is. -/
theorem shape_fill (values : Placeholder.Values) (mapping : Mapping) :
    shape (mapping.fill values) = shape mapping :=
  Value.shape_mapTextsEntries (Placeholder.fillText values) mapping

/-- Two mappings of one shape hold something at the end of the same trails. -/
theorem isSome_at?_of_shape {left right : Mapping} (same : shape left = shape right)
    (trail : Trail) :
    (at? trail left).isSome = (at? trail right).isSome := by
  have shapes : (at? trail left).map Value.shape = (at? trail right).map Value.shape := by
    rw [at?, at?, ← Value.behind_map_shape, ← Value.behind_map_shape]
    simp only [Option.map_some, Value.shape, same]
  simpa using congrArg Option.isSome shapes

/-- Two mappings of one shape hold a leaf on the same trails. -/
theorem blocks_of_shape {left right : Mapping} (same : shape left = shape right) (trail : Trail) :
    blocks trail left = blocks trail right := by
  rw [blocks, blocks, ← Value.blocks_map_shape, ← Value.blocks_map_shape trail (some (.map right))]
  simp only [Option.map_some, Value.shape, same]

end Mapping

end GuidedMigration

/-! ### Documents stay keyed -/

namespace GuidedMigration

namespace IsEntrywise

variable {fits : Scalar → Mapping → Prop} {holds : Value → Prop} {holdsMap : Mapping → Prop}

theorem put (each : IsEntrywise fits holds holdsMap) {key : Scalar} {value : Value}
    {mapping : Mapping} (own : fits key []) (valueHolds : holds value)
    (whole : holdsMap mapping) : holdsMap (Mapping.put key value mapping) := by
  induction mapping with
  | nil => exact each.cons.mpr ⟨own, valueHolds, each.nil⟩
  | cons entry rest inductionHypothesis =>
    obtain ⟨other, old⟩ := entry
    obtain ⟨otherFits, oldHolds, others⟩ := each.cons.mp whole
    rw [Mapping.put]
    split
    · exact each.cons.mpr ⟨otherFits, valueHolds, others⟩
    · rename_i different
      rw [Scalar.same_comm, Bool.not_eq_true] at different
      exact each.cons.mpr
        ⟨each.fits_put value otherFits different, oldHolds, inductionHypothesis others⟩

mutual

theorem mergeOver (each : IsEntrywise fits holds holdsMap) {old : Option Value} {value : Value}
    (oldHolds : ∀ held, old = some held → holds held) (valueHolds : holds value) :
    holds (Value.mergeOver old value) := by
  match value with
  | .map entries =>
    match old with
    | some (.map base) =>
      simpa only [Value.mergeOver] using each.map.mpr
        (each.merge (each.map.mp (oldHolds _ rfl)) (each.map.mp valueHolds))
    | none => simpa [Value.mergeOver] using valueHolds
    | some (.list _) => simpa [Value.mergeOver] using valueHolds
    | some (.set _) => simpa [Value.mergeOver] using valueHolds
    | some (.scalar _) => simpa [Value.mergeOver] using valueHolds
  | .list _ => simpa [Value.mergeOver] using valueHolds
  | .set _ => simpa [Value.mergeOver] using valueHolds
  | .scalar atom =>
    cases atom with
    | null => cases old <;> simp_all [Value.mergeOver]
    | _ => simpa [Value.mergeOver] using valueHolds

theorem merge (each : IsEntrywise fits holds holdsMap) {base : Mapping}
    {entries : List (Scalar × Value)} (baseHolds : holdsMap base) (whole : holdsMap entries) :
    holdsMap (Mapping.merge base entries) := by
  match entries with
  | [] => simpa [Mapping.merge] using baseHolds
  | (key, value) :: rest =>
    obtain ⟨own, valueHolds, others⟩ := each.cons.mp whole
    rw [Mapping.merge]
    exact each.merge (each.put (each.fits_nil own)
      (each.mergeOver (fun _ found => each.of_get? baseHolds found) valueHolds) baseHolds) others

end

/-- Fragments merged one after the other. -/
theorem foldl_merge (each : IsEntrywise fits holds holdsMap) {Part : Type}
    (fragmentOf : Part → Mapping) {parts : List Part} {base : Mapping} (baseHolds : holdsMap base)
    (whole : ∀ part ∈ parts, holdsMap (fragmentOf part)) :
    holdsMap
      (parts.foldl (fun document part => Mapping.merge document (fragmentOf part)) base) := by
  induction parts generalizing base with
  | nil => exact baseHolds
  | cons part rest inductionHypothesis =>
    exact inductionHypothesis (each.merge baseHolds (whole part List.mem_cons_self))
      fun other member => whole other (List.mem_cons_of_mem part member)

end IsEntrywise

namespace Mapping

theorem isKeyed_put {value : Value} {mapping : Mapping} (valueKeyed : value.isKeyed = true)
    (keyed : isKeyed mapping = true) (key : Scalar) : isKeyed (put key value mapping) = true :=
  isEntrywise_isKeyed.put rfl valueKeyed keyed

end Mapping

namespace Value

theorem isKeyed_mergeOver {old : Option Value} {value : Value} (oldKeyed : old.all isKeyed = true)
    (keyed : value.isKeyed = true) : (mergeOver old value).isKeyed = true :=
  Mapping.isEntrywise_isKeyed.mergeOver ((Option.all_eq_true _ _).mp oldKeyed) keyed

/-- A keyed mapping merged over a keyed mapping is keyed. -/
theorem isKeyed_merge {base : Mapping} {entries : List (Scalar × Value)}
    (baseKeyed : Mapping.isKeyed base = true) (keyed : Mapping.isKeyed entries = true) :
    Mapping.isKeyed (Mapping.merge base entries) = true :=
  Mapping.isEntrywise_isKeyed.merge baseKeyed keyed

mutual

theorem isKeyed_shape (value : Value) : value.shape.isKeyed = value.isKeyed := by
  match value with
  | .map entries => simp [shape, isKeyed, isKeyed_shapeEntries entries]
  | .list _ => rfl
  | .set _ => rfl
  | .scalar atom => cases atom <;> rfl

theorem isKeyed_shapeEntries (entries : List (Scalar × Value)) :
    Mapping.isKeyed (Mapping.shape entries) = Mapping.isKeyed entries := by
  match entries with
  | [] => rfl
  | (key, value) :: rest =>
    simp [Mapping.shape, Mapping.isKeyed, Mapping.has, Mapping.get?_shape, isKeyed_shape value,
      isKeyed_shapeEntries rest]

end

end Value

namespace Mapping

/-- Filling placeholders in keeps a mapping keyed. -/
theorem isKeyed_fill (values : Placeholder.Values) (mapping : Mapping) :
    isKeyed (mapping.fill values) = isKeyed mapping := by
  rw [← Value.isKeyed_shapeEntries, shape_fill, Value.isKeyed_shapeEntries]

/-- Opening values keeps a mapping keyed. -/
theorem isKeyed_normalize (mapping : Mapping) : isKeyed mapping.normalize = isKeyed mapping := by
  rw [normalize, ← Value.isKeyed_shapeEntries, Value.shape_mapTextsEntries,
    Value.isKeyed_shapeEntries]

/-- Keyed fragments merged one after the other over a keyed mapping give a keyed mapping. -/
theorem isKeyed_foldl_merge {Part : Type} (fragmentOf : Part → Mapping) {parts : List Part}
    {base : Mapping} (baseKeyed : isKeyed base = true)
    (keyed : ∀ part ∈ parts, isKeyed (fragmentOf part) = true) :
    isKeyed (parts.foldl (fun document part => merge document (fragmentOf part)) base) = true :=
  isEntrywise_isKeyed.foldl_merge fragmentOf baseKeyed keyed

end Mapping

end GuidedMigration

namespace GuidedMigration

mutual

/-- Whether no mapping in a value holds a key twice, and no set a member. -/
def Value.isProper : Value → Bool
  | .scalar _ => true
  | .list items => Value.isProperList items
  | .set members => decide (members.map Scalar.identity).Nodup
  | .map entries => Mapping.isProper entries

/-- Whether all items are proper. -/
def Value.isProperList : List Value → Bool
  | [] => true
  | item :: rest => item.isProper && Value.isProperList rest

/-- Whether no key is held twice and all values are proper. -/
def Mapping.isProper : List (Scalar × Value) → Bool
  | [] => true
  | (key, value) :: rest => !Mapping.has key rest && value.isProper && Mapping.isProper rest

end

namespace Mapping

theorem isProper_cons {key : Scalar} {value : Value} {rest : List (Scalar × Value)} :
    isProper ((key, value) :: rest) = true ↔
      get? key rest = none ∧ value.isProper = true ∧ isProper rest = true := by
  simp [isProper, has, and_assoc]

theorem isEntrywise_isProper : IsEntrywise (fun key rest => get? key rest = none)
    (fun value => value.isProper = true) (fun mapping => isProper mapping = true) where
  nil := rfl
  cons := isProper_cons
  map := by simp [Value.isProper]
  fits_nil _ := rfl
  fits_put value own different := by rw [get?_put_of_not_same value _ different, own]

end Mapping

namespace Value

theorem isProperList_eq_true {items : List Value} :
    isProperList items = true ↔ ∀ item ∈ items, item.isProper = true := by
  induction items with
  | nil => simp [isProperList]
  | cons item rest inductionHypothesis => simp [isProperList, inductionHypothesis]

mutual

theorem isKeyed_of_isProper {value : Value} (proper : value.isProper = true) :
    value.isKeyed = true := by
  match value with
  | .map entries =>
    rw [isKeyed]
    exact isKeyed_of_isProper_entries (by rwa [isProper] at proper)
  | .scalar _ | .list _ | .set _ => rfl

theorem isKeyed_of_isProper_entries {entries : List (Scalar × Value)}
    (proper : Mapping.isProper entries = true) : Mapping.isKeyed entries = true := by
  match entries with
  | [] => rfl
  | (key, value) :: rest =>
    obtain ⟨fresh, valueProper, restProper⟩ := Mapping.isProper_cons.mp proper
    exact Mapping.isKeyed_cons.mpr
      ⟨fresh, isKeyed_of_isProper valueProper, isKeyed_of_isProper_entries restProper⟩

end

end Value

namespace Mapping

/-- A proper mapping is keyed. -/
theorem isKeyed_of_isProper {mapping : Mapping} (proper : isProper mapping = true) :
    isKeyed mapping = true := Value.isKeyed_of_isProper_entries proper

theorem isProper_of_get? {key : Scalar} {value : Value} {mapping : Mapping}
    (proper : isProper mapping = true) (found : get? key mapping = some value) :
    value.isProper = true := isEntrywise_isProper.of_get? proper found

theorem isProper_put {value : Value} {mapping : Mapping} (valueProper : value.isProper = true)
    (proper : isProper mapping = true) (key : Scalar) :
    isProper (put key value mapping) = true := isEntrywise_isProper.put rfl valueProper proper

end Mapping

namespace Value

/-- A proper mapping merged over a proper mapping is proper. -/
theorem isProper_merge {base : Mapping} {entries : List (Scalar × Value)}
    (baseProper : Mapping.isProper base = true) (proper : Mapping.isProper entries = true) :
    Mapping.isProper (Mapping.merge base entries) = true :=
  Mapping.isEntrywise_isProper.merge baseProper proper

/-! ### Changing texts -/

mutual

theorem isProper_mapTexts (change : Text → Text) (value : Value) :
    (mapTexts change value).isProper = value.isProper := by
  match value with
  | .map entries => simp [mapTexts, isProper, isProper_mapTextsEntries change entries]
  | .list items => simp [mapTexts, isProper, isProper_mapTextsList change items]
  | .set _ => rfl
  | .scalar atom => cases atom <;> rfl

theorem isProper_mapTextsList (change : Text → Text) (items : List Value) :
    isProperList (mapTextsList change items) = isProperList items := by
  match items with
  | [] => rfl
  | item :: rest =>
    simp [mapTextsList, isProperList, isProper_mapTexts change item,
      isProper_mapTextsList change rest]

theorem isProper_mapTextsEntries (change : Text → Text) (entries : List (Scalar × Value)) :
    Mapping.isProper (mapTextsEntries change entries) = Mapping.isProper entries := by
  match entries with
  | [] => rfl
  | (key, value) :: rest =>
    simp [mapTextsEntries, Mapping.isProper, Mapping.has, get?_mapTextsEntries,
      isProper_mapTexts change value, isProper_mapTextsEntries change rest]

end

end Value

namespace Mapping

/-- Filling placeholders in keeps a mapping proper. -/
theorem isProper_fill (values : Placeholder.Values) (mapping : Mapping) :
    isProper (mapping.fill values) = isProper mapping :=
  Value.isProper_mapTextsEntries (Placeholder.fillText values) mapping

/-- Proper fragments merged one after the other over a proper mapping give a proper mapping. -/
theorem isProper_foldl_merge {Part : Type} (fragmentOf : Part → Mapping) {parts : List Part}
    {base : Mapping} (baseProper : isProper base = true)
    (proper : ∀ part ∈ parts, isProper (fragmentOf part) = true) :
    isProper (parts.foldl (fun document part => merge document (fragmentOf part)) base) = true :=
  isEntrywise_isProper.foldl_merge fragmentOf baseProper proper

end Mapping

end GuidedMigration

namespace GuidedMigration

namespace Value

mutual

/-- Whether two values are equal. -/
def decideEq : (left right : Value) → Decidable (left = right)
  | .scalar left, .scalar right => decidable_of_iff (left = right) (by rw [scalar.injEq])
  | .list left, .list right =>
    @decidable_of_iff _ (left = right) (by rw [list.injEq]) (decideEqItems left right)
  | .set left, .set right => decidable_of_iff (left = right) (by rw [set.injEq])
  | .map left, .map right =>
    @decidable_of_iff _ (left = right) (by rw [map.injEq]) (decideEqEntries left right)
  | .scalar _, .list _ | .scalar _, .set _ | .scalar _, .map _ => isFalse nofun
  | .list _, .scalar _ | .list _, .set _ | .list _, .map _ => isFalse nofun
  | .set _, .scalar _ | .set _, .list _ | .set _, .map _ => isFalse nofun
  | .map _, .scalar _ | .map _, .list _ | .map _, .set _ => isFalse nofun

/-- Whether two lists of values are equal. -/
def decideEqItems : (left right : List Value) → Decidable (left = right)
  | [], [] => isTrue rfl
  | [], _ :: _ | _ :: _, [] => isFalse nofun
  | left :: lefts, right :: rights =>
    match decideEq left right, decideEqItems lefts rights with
    | isTrue first, isTrue rest => isTrue (by rw [first, rest])
    | isFalse different, _ => isFalse fun same => different (List.cons.inj same).1
    | _, isFalse different => isFalse fun same => different (List.cons.inj same).2

/-- Whether two lists of entries are equal. -/
def decideEqEntries : (left right : List (Scalar × Value)) → Decidable (left = right)
  | [], [] => isTrue rfl
  | [], _ :: _ | _ :: _, [] => isFalse nofun
  | (key, left) :: lefts, (other, right) :: rights =>
    match decEq key other, decideEq left right, decideEqEntries lefts rights with
    | isTrue keys, isTrue first, isTrue rest => isTrue (by rw [keys, first, rest])
    | isFalse different, _, _ =>
      isFalse fun same => different (Prod.mk.inj (List.cons.inj same).1).1
    | _, isFalse different, _ =>
      isFalse fun same => different (Prod.mk.inj (List.cons.inj same).1).2
    | _, _, isFalse different => isFalse fun same => different (List.cons.inj same).2

end

instance : DecidableEq Value := decideEq

end Value

/-- A result is what can be read from it. -/
theorem eq_ok_of_toOption {Answer Fault : Type} {result : Except Fault Answer} {answer : Answer}
    (read : result.toOption = some answer) : result = .ok answer := by
  cases result with
  | ok found => rw [Option.some.inj read]
  | error fault => simp [Except.toOption] at read

/-- What an action leaves, if it is known what it answers. -/
theorem eq_mk_of_toOption {Answer Fault State : Type} {outcome : Except Fault Answer × State}
    {answer : Answer} (read : outcome.1.toOption = some answer) :
    outcome = (.ok answer, outcome.2) := Prod.ext (eq_ok_of_toOption read) rfl

end GuidedMigration
