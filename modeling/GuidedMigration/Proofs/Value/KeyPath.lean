/-
This file follows the keys and the leaves of documents. A merge makes up neither: each key and each
leaf of the merged document is one of its two sides, spelled as it is there. Filling placeholders in
changes leaves and no keys.

It also ties key paths, which are texts, to trails, which are lists of keys. The key paths of a
document are its trails written with dots. Two trails can be written alike, if a key holds a dot, is
the empty text, or is no text; where all keys are plain, a key path names one trail.
-/
import GuidedMigration.Proofs.Text.Rows
import GuidedMigration.Proofs.Value.Keyed
import GuidedMigration.Value.Display

namespace GuidedMigration

mutual

/-- Whether all keys of the mappings in a value and all leaves at them are allowed. -/
def Value.MadeOf (key : Scalar → Prop) (leaf : Value → Prop) : Value → Prop
  | .map entries => Mapping.MadeOf key leaf entries
  | .scalar atom => leaf (.scalar atom)
  | .list items => leaf (.list items)
  | .set members => leaf (.set members)

/-- Whether all keys and leaves of the entries and of the mappings in their values are allowed. -/
def Mapping.MadeOf (key : Scalar → Prop) (leaf : Value → Prop) : List (Scalar × Value) → Prop
  | [] => True
  | (name, value) :: rest => key name ∧ value.MadeOf key leaf ∧ Mapping.MadeOf key leaf rest

end

/-- Whether all keys of the mappings in a value are allowed. -/
abbrev Value.KeysIn (allowed : Scalar → Prop) : Value → Prop := Value.MadeOf allowed fun _ => True

/-- Whether all keys of a mapping and of the mappings in it are allowed. -/
abbrev Mapping.KeysIn (allowed : Scalar → Prop) : Mapping → Prop :=
  Mapping.MadeOf allowed fun _ => True

variable {allowed : Scalar → Prop} {leafAllowed : Value → Prop}

namespace Mapping

@[simp] theorem madeOf_nil : MadeOf allowed leafAllowed [] := trivial

theorem madeOf_cons {key : Scalar} {value : Value} {rest : List (Scalar × Value)} :
    MadeOf allowed leafAllowed ((key, value) :: rest) ↔
      allowed key ∧ value.MadeOf allowed leafAllowed ∧ MadeOf allowed leafAllowed rest := by
  rw [MadeOf]

theorem isEntrywise_madeOf : IsEntrywise (fun key _ => allowed key)
    (Value.MadeOf allowed leafAllowed) (MadeOf allowed leafAllowed) where
  nil := trivial
  cons := madeOf_cons
  map := by simp [Value.MadeOf]
  fits_nil own := own
  fits_put _ own _ := own

theorem madeOf_of_get? {key : Scalar} {value : Value} {mapping : Mapping}
    (keys : MadeOf allowed leafAllowed mapping) (found : get? key mapping = some value) :
    value.MadeOf allowed leafAllowed := isEntrywise_madeOf.of_get? keys found

end Mapping

namespace Value

/-- A merged mapping has the keys of its two sides. -/
theorem madeOf_merge {base : Mapping} {entries : List (Scalar × Value)}
    (baseKeys : Mapping.MadeOf allowed leafAllowed base)
    (keys : Mapping.MadeOf allowed leafAllowed entries) :
    Mapping.MadeOf allowed leafAllowed (Mapping.merge base entries) :=
  Mapping.isEntrywise_madeOf.merge baseKeys keys

mutual

theorem keysIn_mapTexts {value : Value} (change : Text → Text) (keys : value.KeysIn allowed) :
    (mapTexts change value).KeysIn allowed := by
  match value with
  | .map entries =>
    have entriesKeys : Mapping.KeysIn allowed entries := by simpa [MadeOf] using keys
    simpa [mapTexts, MadeOf] using keysIn_mapTextsEntries change entriesKeys
  | .list _ => simp [mapTexts, MadeOf]
  | .set _ => simp [mapTexts, MadeOf]
  | .scalar atom => cases atom <;> simp [mapTexts, MadeOf]

theorem keysIn_mapTextsEntries {entries : List (Scalar × Value)} (change : Text → Text)
    (keys : Mapping.KeysIn allowed entries) :
    Mapping.KeysIn allowed (mapTextsEntries change entries) := by
  match entries with
  | [] => trivial
  | (key, value) :: rest =>
    obtain ⟨keyAllowed, valueKeys, restKeys⟩ := Mapping.madeOf_cons.mp keys
    exact Mapping.madeOf_cons.mpr
      ⟨keyAllowed, keysIn_mapTexts change valueKeys, keysIn_mapTextsEntries change restKeys⟩

end

end Value

namespace Mapping

theorem keysIn_fill (values : Placeholder.Values) {mapping : Mapping}
    (keys : KeysIn allowed mapping) : KeysIn allowed (mapping.fill values) :=
  Value.keysIn_mapTextsEntries (Placeholder.fillText values) keys

theorem madeOf_foldl_merge {Part : Type} (fragmentOf : Part → Mapping) {parts : List Part}
    {base : Mapping} (baseKeys : MadeOf allowed leafAllowed base)
    (keys : ∀ part ∈ parts, MadeOf allowed leafAllowed (fragmentOf part)) :
    MadeOf allowed leafAllowed
      (parts.foldl (fun document part => merge document (fragmentOf part)) base) :=
  isEntrywise_madeOf.foldl_merge fragmentOf baseKeys keys

end Mapping

end GuidedMigration

/-! ### Key paths -/

namespace GuidedMigration

mutual

/-- The trails to the values inside a value, with its keys as they are written. -/
def Value.trails : Value → List Trail
  | .map entries => Mapping.trails entries
  | .scalar _ => []
  | .list _ => []
  | .set _ => []

/-- The trails to the values of the entries and to those inside them. -/
def Mapping.trails : List (Scalar × Value) → List Trail
  | [] => []
  | (key, value) :: rest => [key] :: (value.trails.map (key :: ·) ++ Mapping.trails rest)

end

/-- Whether a key is a text that holds no dot. -/
def Scalar.IsDotless (key : Scalar) : Prop := ∃ word, key = .text word ∧ '.' ∉ word

/-- Whether a key is a text that is not empty and holds no dot. -/
def Scalar.IsPlain (key : Scalar) : Prop := ∃ word, key = .text word ∧ word ≠ [] ∧ '.' ∉ word

theorem Scalar.IsPlain.isDotless {key : Scalar} (plain : key.IsPlain) : key.IsDotless :=
  plain.imp fun _ ⟨same, _, dotless⟩ => ⟨same, dotless⟩

/-- Two keys that are the same and plain are equal. -/
theorem Scalar.IsPlain.eq_of_same {left right : Scalar} (leftPlain : left.IsPlain)
    (rightPlain : right.IsPlain) (same : left.same right = true) : left = right := by
  obtain ⟨word, rfl, -⟩ := leftPlain
  obtain ⟨other, rfl, -⟩ := rightPlain
  simpa [Scalar.same, Scalar.identity] using same

mutual

/-- The trails of a value are made of its keys. -/
theorem Value.allowed_of_mem_trails {allowed : Scalar → Prop} {value : Value}
    (keys : value.KeysIn allowed) {trail : Trail} (member : trail ∈ value.trails) :
    ∀ key ∈ trail, allowed key := by
  match value with
  | .map entries =>
    exact Mapping.allowed_of_mem_trails (by simpa [Value.MadeOf] using keys)
      (by simpa [Value.trails] using member)
  | .list _ => simp [Value.trails] at member
  | .set _ => simp [Value.trails] at member
  | .scalar _ => simp [Value.trails] at member

theorem Mapping.allowed_of_mem_trails {allowed : Scalar → Prop} {entries : List (Scalar × Value)}
    (keys : Mapping.KeysIn allowed entries) {trail : Trail}
    (member : trail ∈ Mapping.trails entries) : ∀ key ∈ trail, allowed key := by
  match entries with
  | [] => simp [Mapping.trails] at member
  | (key, value) :: rest =>
    obtain ⟨keyAllowed, valueKeys, restKeys⟩ := Mapping.madeOf_cons.mp keys
    rw [Mapping.trails, List.mem_cons, List.mem_append, List.mem_map] at member
    rcases member with rfl | ⟨inner, innerMember, rfl⟩ | member
    · simpa using keyAllowed
    · have innerAllowed := Value.allowed_of_mem_trails valueKeys innerMember
      simpa using ⟨keyAllowed, innerAllowed⟩
    · exact Mapping.allowed_of_mem_trails restKeys member

end

/-- The trails of a mapping have a key. -/
theorem Mapping.ne_nil_of_mem_trails {entries : List (Scalar × Value)} {trail : Trail}
    (member : trail ∈ Mapping.trails entries) : trail ≠ [] := by
  match entries with
  | [] => simp [Mapping.trails] at member
  | (key, value) :: rest =>
    rw [Mapping.trails, List.mem_cons, List.mem_append, List.mem_map] at member
    rcases member with rfl | ⟨inner, -, rfl⟩ | member
    · simp
    · simp
    · exact Mapping.ne_nil_of_mem_trails member

/-! ### Trails and what stands at their ends -/

namespace Value

theorem child_of_same {left right : Scalar} (same : left.same right = true) (held : Option Value) :
    child left held = child right held := by
  cases held with
  | none => rfl
  | some value =>
    cases value with
    | map entries => exact Mapping.get?_of_same same entries
    | list _ => rfl
    | set _ => rfl
    | scalar _ => rfl

/-- Trails whose keys are the same lead to the same value. -/
theorem behind_of_identity {left right : Trail}
    (same : left.map Scalar.identity = right.map Scalar.identity) (held : Option Value) :
    behind left held = behind right held := by
  induction left generalizing right held with
  | nil =>
    obtain rfl := List.map_eq_nil_iff.mp same.symm
    rfl
  | cons key left inductionHypothesis =>
    obtain ⟨other, right, rfl, equal, rest⟩ := List.map_eq_cons_iff.mp same.symm
    rw [behind_cons, behind_cons,
      child_of_same (by simp [Scalar.same, equal] : key.same other = true),
      inductionHypothesis rest.symm]

end Value

namespace Mapping

theorem at?_cons_of_same {key other : Scalar} (same : other.same key = true) (value : Value)
    (rest : Mapping) (trail : Trail) :
    at? (key :: trail) ((other, value) :: rest) = Value.behind trail (some value) := by
  simp [at?, get?, same]

theorem at?_cons_of_not_same {key other : Scalar} (different : other.same key = false)
    (value : Value) (rest : Mapping) (trail : Trail) :
    at? (key :: trail) ((other, value) :: rest) = at? (key :: trail) rest := by
  simp [at?, get?, different]

/-- A mapping that holds something behind a key holds the key. -/
theorem get?_ne_none_of_at? {key : Scalar} {trail : Trail} {mapping : Mapping}
    (held : (at? (key :: trail) mapping).isSome = true) : get? key mapping ≠ none := by
  intro missing
  simp [at?, missing] at held

end Mapping

namespace Value

mutual

/-- At the end of each of its trails, a keyed value holds something. -/
theorem isSome_behind_of_mem_trails {value : Value} (keyed : value.isKeyed = true) {trail : Trail}
    (member : trail ∈ value.trails) : (behind trail (some value)).isSome = true := by
  match value with
  | .map entries =>
    exact isSome_at?_of_mem_trails (by simpa [isKeyed] using keyed) (by simpa [trails] using member)
  | .list _ => simp [trails] at member
  | .set _ => simp [trails] at member
  | .scalar _ => simp [trails] at member

theorem isSome_at?_of_mem_trails {entries : List (Scalar × Value)}
    (keyed : Mapping.isKeyed entries = true) {trail : Trail}
    (member : trail ∈ Mapping.trails entries) : (Mapping.at? trail entries).isSome = true := by
  match entries with
  | [] => simp [Mapping.trails] at member
  | (key, value) :: rest =>
    obtain ⟨fresh, valueKeyed, restKeyed⟩ := Mapping.isKeyed_cons.mp keyed
    rw [Mapping.trails, List.mem_cons, List.mem_append, List.mem_map] at member
    rcases member with rfl | ⟨inner, innerMember, rfl⟩ | member
    · rw [Mapping.at?_cons_of_same (Scalar.same_refl key)]
      rfl
    · rw [Mapping.at?_cons_of_same (Scalar.same_refl key)]
      exact isSome_behind_of_mem_trails valueKeyed innerMember
    · have held := isSome_at?_of_mem_trails restKeyed member
      cases trail with
      | nil => rfl
      | cons other trail =>
        rw [Mapping.at?_cons_of_not_same ?_, held]
        rw [Bool.eq_false_iff]
        intro same
        exact Mapping.get?_ne_none_of_at? held (by rw [← Mapping.get?_of_same same, fresh])

end

mutual

/-- A trail at whose end a value holds something is, up to the spelling of its keys, one of the
trails of the value. -/
theorem mem_trails_of_isSome_behind {value : Value} {trail : Trail} (nonempty : trail ≠ [])
    (held : (behind trail (some value)).isSome = true) :
    ∃ written ∈ value.trails, written.map Scalar.identity = trail.map Scalar.identity := by
  obtain ⟨key, trail, rfl⟩ := List.exists_cons_of_ne_nil nonempty
  match value with
  | .map entries => simpa [trails] using mem_trails_of_isSome_at? held
  | .list _ => simp [child] at held
  | .set _ => simp [child] at held
  | .scalar _ => simp [child] at held

theorem mem_trails_of_isSome_at? {entries : List (Scalar × Value)} {key : Scalar} {trail : Trail}
    (held : (Mapping.at? (key :: trail) entries).isSome = true) :
    ∃ written ∈ Mapping.trails entries,
      written.map Scalar.identity = (key :: trail).map Scalar.identity := by
  match entries with
  | [] => simp [Mapping.at?, Mapping.get?] at held
  | (other, value) :: rest =>
    by_cases same : other.same key = true
    · have equal : other.identity = key.identity := by simpa [Scalar.same] using same
      rw [Mapping.at?_cons_of_same same] at held
      by_cases last : trail = []
      · subst last
        exact ⟨[other], by simp [Mapping.trails], by simp [equal]⟩
      · obtain ⟨written, member, names⟩ := mem_trails_of_isSome_behind last held
        refine ⟨other :: written, ?_, by simp [equal, names]⟩
        simp [Mapping.trails, member]
    · rw [Mapping.at?_cons_of_not_same (by simpa using same)] at held
      obtain ⟨written, member, names⟩ := mem_trails_of_isSome_at? held
      exact ⟨written, by simp [Mapping.trails, member], names⟩

end

end Value

/-! ### Trails as texts -/

/-- A trail below `base`, written with dots. -/
def Trail.dotted (base : Text) : Trail → Text
  | [] => base
  | key :: trail =>
    dotted (if base.isEmpty then key.display else base ++ '.' :: key.display) trail

mutual

/-- The key paths of a value are its trails. -/
theorem Value.keyPathsFrom_eq (base : Text) (value : Value) :
    value.keyPathsFrom base = value.trails.map (Trail.dotted base) := by
  match value with
  | .map entries =>
    simpa [Value.keyPathsFrom, Value.trails] using Mapping.keyPathsFrom_eq base entries
  | .list _ => simp [Value.keyPathsFrom, Value.trails]
  | .set _ => simp [Value.keyPathsFrom, Value.trails]
  | .scalar _ => simp [Value.keyPathsFrom, Value.trails]

/-- The key paths of a mapping are its trails. -/
theorem Mapping.keyPathsFrom_eq (base : Text) (entries : List (Scalar × Value)) :
    Mapping.keyPathsFrom base entries = (Mapping.trails entries).map (Trail.dotted base) := by
  match entries with
  | [] => rfl
  | (key, value) :: rest =>
    rw [Mapping.keyPathsFrom, Value.keyPathsFrom_eq _ value, Mapping.keyPathsFrom_eq base rest,
      Mapping.trails, List.map_cons, List.map_append, List.map_map]
    rfl

end

theorem Value.mem_keyPaths {path : Text} {value : Value} :
    path ∈ value.keyPaths ↔ ∃ trail ∈ value.trails, Trail.dotted [] trail = path := by
  simp [keyPaths, Text.sortedUnique, keyPathsFrom_eq]

namespace Trail

/-- A trail of keys without dots can be read off what is written below a text. -/
theorem splitOn_dotted {trail : Trail} (clean : ∀ key ∈ trail, key.IsDotless) {base : Text}
    (nonempty : base ≠ []) :
    Text.splitOn '.' (dotted base trail) = Text.splitOn '.' base ++ trail.map Scalar.display := by
  induction trail generalizing base with
  | nil => simp [dotted]
  | cons key trail inductionHypothesis =>
    obtain ⟨word, rfl, dotless⟩ := clean key List.mem_cons_self
    have filled : base.isEmpty = false := by simpa using nonempty
    rw [dotted, filled, if_neg Bool.false_ne_true, inductionHypothesis
      (fun other member => clean other (List.mem_cons_of_mem _ member)) (by simp),
      Text.splitOn_append]
    simp [Scalar.display, Text.splitOn_of_not_mem dotless]

/-- A key path of plain keys is cut into its keys at the dots. -/
theorem splitOn_dotted_nil {trail : Trail} (plain : ∀ key ∈ trail, key.IsPlain)
    (nonempty : trail ≠ []) :
    Text.splitOn '.' (dotted [] trail) = trail.map Scalar.display := by
  obtain ⟨key, trail, rfl⟩ := List.exists_cons_of_ne_nil nonempty
  obtain ⟨word, rfl, filled, dotless⟩ := plain key List.mem_cons_self
  rw [dotted, List.isEmpty_nil, if_pos rfl, Scalar.display, splitOn_dotted
    (fun other member => (plain other (List.mem_cons_of_mem _ member)).isDotless) filled]
  simp [Text.splitOn_of_not_mem dotless, Scalar.display]

/-- Trails of plain keys that are written alike are equal. -/
theorem eq_of_dotted {left right : Trail} (leftPlain : ∀ key ∈ left, key.IsPlain)
    (rightPlain : ∀ key ∈ right, key.IsPlain) (leftNonempty : left ≠ [])
    (rightNonempty : right ≠ [])
    (alike : dotted [] left = dotted [] right) : left = right := by
  have words : left.map Scalar.display = right.map Scalar.display := by
    rw [← splitOn_dotted_nil leftPlain leftNonempty, alike,
      splitOn_dotted_nil rightPlain rightNonempty]
  clear alike leftNonempty rightNonempty
  induction left generalizing right with
  | nil => exact (List.map_eq_nil_iff.mp words.symm).symm
  | cons key left inductionHypothesis =>
    obtain ⟨other, right, rfl, equal, rest⟩ := List.map_eq_cons_iff.mp words.symm
    obtain ⟨word, rfl, -⟩ := leftPlain key List.mem_cons_self
    obtain ⟨word', rfl, -⟩ := rightPlain other List.mem_cons_self
    obtain rfl : word' = word := equal
    rw [inductionHypothesis (fun key member => leftPlain key (List.mem_cons_of_mem _ member))
      (fun key member => rightPlain key (List.mem_cons_of_mem _ member)) rest.symm]

end Trail

end GuidedMigration
