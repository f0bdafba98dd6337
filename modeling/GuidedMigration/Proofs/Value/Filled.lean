/-
This file fills placeholders in before and after a merge. Filling in changes leaves and nothing
else, and a merge moves leaves about without reading them, so that it does not matter which is done
first. What is filled in depends on the values of those names alone that are asked for, and the
values of several sources written over each other give a name the value that the last source has for
it.
-/
import GuidedMigration.Proofs.Value.Keyed

namespace GuidedMigration

/-! ### Before and after a merge -/

theorem Mapping.mapTextsEntries_put (change : Text → Text) (key : Scalar) (value : Value)
    (mapping : Mapping) :
    Value.mapTextsEntries change (Mapping.put key value mapping) =
      Mapping.put key (value.mapTexts change) (Value.mapTextsEntries change mapping) := by
  induction mapping with
  | nil => rfl
  | cons entry rest inductionHypothesis =>
    obtain ⟨other, old⟩ := entry
    simp only [Mapping.put, Value.mapTextsEntries]
    split <;> simp [Value.mapTextsEntries, inductionHypothesis]

namespace Value

mutual

/-- Changing texts after a merge is changing them before it. -/
theorem mapTexts_mergeOver (change : Text → Text) (old : Option Value) (value : Value) :
    (mergeOver old value).mapTexts change =
      mergeOver (old.map (mapTexts change)) (value.mapTexts change) := by
  match value with
  | .map entries =>
    match old with
    | none => simp [mergeOver, mapTexts]
    | some (.map base) => simp [mergeOver, mapTexts, mapTextsEntries_merge change base entries]
    | some (.list _) => simp [mergeOver, mapTexts]
    | some (.set _) => simp [mergeOver, mapTexts]
    | some (.scalar atom) => cases atom <;> simp [mergeOver, mapTexts]
  | .list _ => simp [mergeOver, mapTexts]
  | .set _ => simp [mergeOver, mapTexts]
  | .scalar atom =>
    cases atom with
    | null => cases old <;> simp [mergeOver, mapTexts]
    | _ => simp [mergeOver, mapTexts]

/-- Changing the texts of a merged mapping is merging the changed mappings. -/
theorem mapTextsEntries_merge (change : Text → Text) (base : Mapping)
    (entries : List (Scalar × Value)) :
    mapTextsEntries change (Mapping.merge base entries) =
      Mapping.merge (mapTextsEntries change base) (mapTextsEntries change entries) := by
  match entries with
  | [] => simp [Mapping.merge, mapTextsEntries]
  | (key, value) :: rest =>
    rw [Mapping.merge, mapTextsEntries_merge change _ rest, Mapping.mapTextsEntries_put,
      mapTexts_mergeOver change (Mapping.get? key base) value, ← get?_mapTextsEntries]
    simp [mapTextsEntries, Mapping.merge]

end

/-! ### The names that are asked for -/

mutual

/-- Changes that agree on the texts of a value make the same of it. -/
theorem mapTexts_congr {first second : Text → Text} {value : Value}
    (agree : ∀ word ∈ value.texts, first word = second word) :
    value.mapTexts first = value.mapTexts second := by
  match value with
  | .map entries => simp [mapTexts, mapTextsEntries_congr (by simpa [texts] using agree)]
  | .list items => simp [mapTexts, mapTextsList_congr (by simpa [texts] using agree)]
  | .set _ => rfl
  | .scalar (.text word) => simp [mapTexts, agree word (by simp [texts])]
  | .scalar .null | .scalar (.bool _) | .scalar (.int _) | .scalar (.double _) | .scalar (.date _)
  | .scalar (.moment _) | .scalar (.bytes _) => rfl

theorem mapTextsList_congr {first second : Text → Text} {items : List Value}
    (agree : ∀ word ∈ textsList items, first word = second word) :
    mapTextsList first items = mapTextsList second items := by
  match items with
  | [] => rfl
  | item :: rest =>
    simp only [textsList, List.mem_append] at agree
    rw [mapTextsList, mapTextsList, mapTexts_congr fun word member => agree word (.inl member),
      mapTextsList_congr fun word member => agree word (.inr member)]

theorem mapTextsEntries_congr {first second : Text → Text} {entries : List (Scalar × Value)}
    (agree : ∀ word ∈ textsEntries entries, first word = second word) :
    mapTextsEntries first entries = mapTextsEntries second entries := by
  match entries with
  | [] => rfl
  | (key, value) :: rest =>
    simp only [textsEntries, List.mem_append] at agree
    rw [mapTextsEntries, mapTextsEntries,
      mapTexts_congr fun word member => agree word (.inl member),
      mapTextsEntries_congr fun word member => agree word (.inr member)]

end

end Value

theorem Text.replaceFound_congr {Found : Type} {recognise : Text.Recogniser Found}
    {first second : Found → Text} {text : Text}
    (agree : ∀ occurrence ∈ Text.findAll recognise text, first occurrence = second occurrence) :
    Text.replaceFound recognise first text = Text.replaceFound recognise second text := by
  rw [Text.replaceFound, Text.replaceFound, List.flatMap_def, List.flatMap_def]
  refine congrArg List.flatten (List.map_congr_left fun piece member => ?_)
  cases piece with
  | plain char => rfl
  | found occurrence => exact agree occurrence (List.mem_filterMap.mpr ⟨_, member, rfl⟩)

namespace Placeholder

/-- What a text is filled with depends on the values of its names. -/
theorem fillText_congr {first second : Values} {text : Text}
    (agree : ∀ name ∈ namesInText text, first.get? name = second.get? name) :
    fillText first text = fillText second text :=
  Text.replaceFound_congr fun name member => by rw [agree name member]

/-! ### Values from several sources -/

namespace Values

variable {name other value : Text} {values others : Values}

theorem get?_cons {first held : Text} :
    get? name ((first, held) :: values) = if name = first then some held else get? name values := by
  by_cases here : name = first
  · simp [get?, here]
  · rw [get?, List.lookup_cons, beq_eq_false_iff_ne.mpr here, if_neg here, get?]

theorem get?_put : (values.put other value).get? name =
    if name = other then some value else values.get? name := by
  induction values with
  | nil => exact get?_cons
  | cons entry rest inductionHypothesis =>
    obtain ⟨first, held⟩ := entry
    by_cases here : first = other
    · subst here
      rw [put, if_pos rfl, get?_cons, get?_cons]
      split <;> rfl
    · rw [put, if_neg here, get?_cons, get?_cons, inductionHypothesis]
      by_cases found : name = first
      · rw [if_pos found, if_pos found, if_neg fun same => here (found.symm.trans same)]
      · rw [if_neg found, if_neg found]

theorem get?_eq_none (missing : name ∉ values.map Prod.fst) : values.get? name = none := by
  induction values with
  | nil => rfl
  | cons entry rest inductionHypothesis =>
    obtain ⟨first, held⟩ := entry
    rw [List.map_cons, List.mem_cons, not_or] at missing
    rw [get?_cons, if_neg missing.1, inductionHypothesis missing.2]

/-- Among values with distinct names, each name has the value that is written for it. -/
theorem get?_update (distinct : (others.map Prod.fst).Nodup) :
    (values.update others).get? name = (others.get? name).or (values.get? name) := by
  induction others generalizing values with
  | nil => rfl
  | cons entry rest inductionHypothesis =>
    obtain ⟨first, held⟩ := entry
    obtain ⟨fresh, distinct⟩ := List.nodup_cons.mp distinct
    rw [update, List.foldl_cons, ← update, inductionHypothesis distinct, get?_put, get?_cons]
    by_cases same : name = first
    · subst same
      rw [get?_eq_none fresh, if_pos rfl, if_pos rfl]
      rfl
    · rw [if_neg same, if_neg same]

/-- The values of some of the names. -/
theorem get?_filter (among : Text → Bool) :
    get? name (values.filter fun entry => among entry.1) =
      if among name then values.get? name else none := by
  induction values with
  | nil => simp [get?]
  | cons entry rest inductionHypothesis =>
    obtain ⟨first, held⟩ := entry
    rw [List.filter_cons, get?_cons]
    by_cases same : name = first
    · subst same
      cases kept : among name with
      | true => rw [if_pos rfl, get?_cons, if_pos rfl, if_pos rfl, if_pos rfl]
      | false =>
        rw [if_neg Bool.false_ne_true, inductionHypothesis, kept, if_neg Bool.false_ne_true,
          if_neg Bool.false_ne_true]
    · rw [if_neg same]
      cases among first with
      | true => rw [if_pos rfl, get?_cons, if_neg same, inductionHypothesis]
      | false => rw [if_neg Bool.false_ne_true, inductionHypothesis]

end Values

end Placeholder

namespace Mapping

variable {first second : Placeholder.Values} {mapping : Mapping}

/-- Placeholders can be filled in before a merge or after it. -/
theorem fill_merge (values : Placeholder.Values) (base fragment : Mapping) :
    (base.merge fragment).fill values = (base.fill values).merge (fragment.fill values) :=
  Value.mapTextsEntries_merge (Placeholder.fillText values) base fragment

theorem fill_foldl_merge (values : Placeholder.Values) (base : Mapping) (fragments : List Mapping) :
    (fragments.foldl merge base).fill values =
      (fragments.map (fill values)).foldl merge (base.fill values) := by
  induction fragments generalizing base with
  | nil => rfl
  | cons fragment rest inductionHypothesis =>
    rw [List.foldl_cons, inductionHypothesis, fill_merge, List.map_cons, List.foldl_cons]

theorem mem_placeholders {name : Text} : name ∈ mapping.placeholders ↔
    ∃ word ∈ Value.textsEntries mapping, name ∈ Placeholder.namesInText word := by
  rw [placeholders, List.mem_eraseDups, List.mem_flatMap]

/-- What a mapping is filled with depends on the values of its placeholders. -/
theorem fill_congr (agree : ∀ name ∈ mapping.placeholders, first.get? name = second.get? name) :
    mapping.fill first = mapping.fill second :=
  Value.mapTextsEntries_congr fun word member => Placeholder.fillText_congr fun name named =>
    agree name (mem_placeholders.mpr ⟨word, member, named⟩)

end Mapping

end GuidedMigration
