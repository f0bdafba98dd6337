/-
This file compares values up to the order of the entries in their mappings. Two values are
rearranged when they have the same keys at every depth, spelled alike, and equal values wherever
there is no mapping. What a merge makes of rearranged values is rearranged: the order of the entries
decides where a merge puts them and nothing else.

Then it says what is carried from a local document back to its template. At the end of a trail it
is what the local document holds there, with placeholders for its leaves, if the template holds
nothing; the template's leaves let nothing through. What is carried depends on the shape of the
local document alone, so that no leaf of it can reach the template.
-/
import GuidedMigration.Config.Accumulator
import GuidedMigration.Proofs.Value.Keyed

namespace GuidedMigration

namespace Mapping

/-- A key as a mapping that holds it spells it. -/
def stored? (key : Scalar) : Mapping → Option Scalar
  | [] => none
  | (other, _) :: rest => if other.same key then some other else stored? key rest

theorem isSome_stored? (key : Scalar) (mapping : Mapping) :
    (stored? key mapping).isSome = (get? key mapping).isSome := by
  induction mapping with
  | nil => rfl
  | cons entry rest inductionHypothesis =>
    simp only [stored?, get?]
    split
    · rfl
    · exact inductionHypothesis

/-- A key is spelled the way it was written first. -/
theorem stored?_put (key target : Scalar) (value : Value) (mapping : Mapping) :
    stored? key (put target value mapping) =
      (stored? key mapping).or (if target.same key then some target else none) := by
  induction mapping with
  | nil => simp [put, stored?]
  | cons entry rest inductionHypothesis =>
    obtain ⟨other, old⟩ := entry
    by_cases held : other.same target = true
    · have agree : other.same key = target.same key := by
        simp only [Scalar.same, decide_eq_true_eq] at held ⊢
        rw [held]
      by_cases same : target.same key = true
      · simp [put, held, stored?, agree, same]
      · simp [put, held, stored?, agree, same]
    · by_cases same : other.same key = true
      · simp [put, held, stored?, same]
      · simp [put, held, stored?, same, inductionHypothesis]

/-- A merged mapping spells a key the way its first side does, if that holds the key. -/
theorem stored?_merge (key : Scalar) (base : Mapping) (fragment : List (Scalar × Value)) :
    stored? key (merge base fragment) = (stored? key base).or (stored? key fragment) := by
  induction fragment generalizing base with
  | nil => simp [merge, stored?]
  | cons entry rest inductionHypothesis =>
    obtain ⟨other, value⟩ := entry
    rw [merge, inductionHypothesis, stored?_put, Option.or_assoc, stored?]
    split <;> simp

end Mapping

/-- Whether two values are equal but for the order of the entries in their mappings. -/
inductive Value.Rearranged : Value → Value → Prop where
  | leaf (value : Value) (bare : ∀ entries, value ≠ .map entries) : Rearranged value value
  | map (left right : Mapping)
      (keys : ∀ key, Mapping.stored? key left = Mapping.stored? key right)
      (values : ∀ key first second, Mapping.get? key left = some first →
        Mapping.get? key right = some second → Rearranged first second) :
      Rearranged (.map left) (.map right)

namespace Value

/-- Whether nothing is held twice, or rearranged values are. -/
def Rearranged? : Option Value → Option Value → Prop
  | none, none => True
  | some left, some right => Rearranged left right
  | _, _ => False

mutual

theorem Rearranged.refl (value : Value) : Rearranged value value := by
  match value with
  | .map entries =>
    refine .map entries entries (fun _ => rfl) fun key first second left right => ?_
    obtain rfl := Option.some.inj (left.symm.trans right)
    exact Rearranged.refl_of_get? left
  | .list items => exact .leaf _ (by simp)
  | .set members => exact .leaf _ (by simp)
  | .scalar atom => exact .leaf _ (by simp)

theorem Rearranged.refl_of_get? {key : Scalar} {value : Value} {entries : List (Scalar × Value)}
    (found : Mapping.get? key entries = some value) : Rearranged value value := by
  match entries with
  | [] => simp [Mapping.get?] at found
  | (other, held) :: rest =>
    rw [Mapping.get?] at found
    split at found
    · exact Option.some.inj found ▸ Rearranged.refl held
    · exact Rearranged.refl_of_get? found

end

theorem Rearranged?.refl (held : Option Value) : Rearranged? held held := by
  cases held with
  | none => trivial
  | some value => exact Rearranged.refl value

theorem Rearranged?.isSome {left right : Option Value} (related : Rearranged? left right) :
    left.isSome = right.isSome := by
  match left, right with
  | none, none => rfl
  | some _, some _ => rfl
  | none, some _ => exact related.elim
  | some _, none => exact related.elim

/-- What is made of rearranged values in a way that leaves them rearranged. -/
theorem Rearranged?.bind {left right : Option Value} (related : Rearranged? left right)
    {make make' : Value → Option Value}
    (made : ∀ first second, left = some first → right = some second → Rearranged first second →
      Rearranged? (make first) (make' second)) :
    Rearranged? (left.bind make) (right.bind make') := by
  match left, right with
  | none, none => trivial
  | some first, some second => exact made first second rfl rfl related
  | none, some _ => exact related.elim
  | some _, none => exact related.elim

/-- Mappings are rearranged when they spell their keys alike and hold rearranged values at them. -/
theorem rearranged_map {left right : Mapping} :
    Rearranged (.map left) (.map right) ↔
      (∀ key, Mapping.stored? key left = Mapping.stored? key right) ∧
        ∀ key, Rearranged? (Mapping.get? key left) (Mapping.get? key right) := by
  constructor
  · intro related
    cases related with
    | leaf _ bare => exact absurd rfl (bare left)
    | map _ _ keys values =>
      refine ⟨keys, fun key => ?_⟩
      have present := Mapping.isSome_stored? key left
      rw [keys, Mapping.isSome_stored?] at present
      cases first : Mapping.get? key left with
      | none => cases second : Mapping.get? key right <;> simp_all [Rearranged?]
      | some value =>
        cases second : Mapping.get? key right with
        | none => simp_all
        | some other => exact values key value other first second
  · rintro ⟨keys, values⟩
    refine .map left right keys fun key first second atLeft atRight => ?_
    simpa [atLeft, atRight, Rearranged?] using values key

/-- What is rearranged into a mapping is a mapping. -/
theorem Rearranged?.bare {left right : Option Value} (related : Rearranged? left right)
    (bare : ∀ entries, left ≠ some (.map entries)) (entries : Mapping) :
    right ≠ some (.map entries) := by
  rintro rfl
  match left with
  | none => exact related
  | some value =>
    cases related with
    | leaf => exact bare entries rfl
    | map left => exact bare left rfl

theorem Rearranged?.eq_map {base : Mapping} {right : Option Value}
    (related : Rearranged? (some (.map base)) right) :
    ∃ entries, right = some (.map entries) ∧ Rearranged (.map base) (.map entries) := by
  match right with
  | none => exact related.elim
  | some value =>
    cases related with
    | leaf _ bare => exact absurd rfl (bare base)
    | map _ entries keys values => exact ⟨entries, rfl, .map base entries keys values⟩

/-- Values merged over rearranged ones are rearranged if they are themselves. -/
theorem Rearranged.mergeOver {first second : Value} (related : Rearranged first second)
    {left right : Option Value} (bases : Rearranged? left right)
    (firstKeyed : first.isKeyed = true) (secondKeyed : second.isKeyed = true) :
    Rearranged (mergeOver left first) (mergeOver right second) := by
  induction related generalizing left right with
  | leaf value bare =>
    match value with
    | .map entries => exact absurd rfl (bare entries)
    | .list _ => simpa [Value.mergeOver] using Rearranged.refl _
    | .set _ => simpa [Value.mergeOver] using Rearranged.refl _
    | .scalar atom =>
      cases atom with
      | null =>
        match left, right with
        | none, none => simpa [Value.mergeOver] using Rearranged.refl null
        | some _, some _ =>
          simp only [Value.mergeOver, Option.getD_some]
          exact bases
        | none, some _ => exact bases.elim
        | some _, none => exact bases.elim
      | _ => simpa [Value.mergeOver] using Rearranged.refl _
  | map first second keys values inductionHypothesis =>
    have entries : Rearranged (.map first) (.map second) := .map first second keys values
    have firstKeyed : Mapping.isKeyed first = true := by simpa [isKeyed] using firstKeyed
    have secondKeyed : Mapping.isKeyed second = true := by simpa [isKeyed] using secondKeyed
    by_cases bare : ∀ base, left ≠ some (.map base)
    · have merged : Value.mergeOver left (.map first) = .map first :=
        Option.some.inj (overlaid_map_of_bare bare first)
      have merged' : Value.mergeOver right (.map second) = .map second :=
        Option.some.inj (overlaid_map_of_bare (bases.bare bare) second)
      rwa [merged, merged']
    · obtain ⟨base, mapping⟩ := Classical.not_forall.mp bare
      obtain rfl := Classical.not_not.mp mapping
      obtain ⟨base', rfl, related⟩ := bases.eq_map
      obtain ⟨baseKeys, baseValues⟩ := rearranged_map.mp related
      simp only [Value.mergeOver]
      refine rearranged_map.mpr ⟨fun key => ?_, fun key => ?_⟩
      · rw [Mapping.stored?_merge, Mapping.stored?_merge, baseKeys, keys]
      · rw [Mapping.get?_merge firstKeyed, Mapping.get?_merge secondKeyed]
        have held := (rearranged_map.mp entries).2 key
        match atFirst : Mapping.get? key first, atSecond : Mapping.get? key second with
        | none, none => exact baseValues key
        | some value, some value' =>
          exact inductionHypothesis key value value' atFirst atSecond (baseValues key)
            (Mapping.isKeyed_of_get? firstKeyed atFirst)
            (Mapping.isKeyed_of_get? secondKeyed atSecond)
        | none, some _ => simp [atFirst, atSecond, Rearranged?] at held
        | some _, none => simp [atFirst, atSecond, Rearranged?] at held

end Value

namespace Mapping

/-- Whether two mappings are equal but for the order of entries. -/
def Rearranged (left right : Mapping) : Prop := Value.Rearranged (.map left) (.map right)

theorem Rearranged.refl (mapping : Mapping) : Rearranged mapping mapping := Value.Rearranged.refl _

/-- A merge of rearranged mappings is rearranged. -/
theorem Rearranged.merge {base base' fragment fragment' : Mapping} (bases : Rearranged base base')
    (fragments : Rearranged fragment fragment') (keyed : isKeyed fragment = true)
    (keyed' : isKeyed fragment' = true) :
    Rearranged (Mapping.merge base fragment) (Mapping.merge base' fragment') := by
  have held : Value.Rearranged? (some (.map base)) (some (.map base')) := bases
  have merged := Value.Rearranged.mergeOver fragments held (by simpa [Value.isKeyed] using keyed)
    (by simpa [Value.isKeyed] using keyed')
  simp only [Value.mergeOver] at merged
  exact merged

end Mapping

/-! ### Outlines -/

mutual

/-- A value with all in it that is no mapping replaced by the empty value. -/
def Value.outline : Value → Value
  | .map entries => .map (Mapping.outline entries)
  | .scalar _ => .null
  | .list _ => .null
  | .set _ => .null

/-- The entries with all in their values that is no mapping replaced by the empty value. -/
def Mapping.outline : List (Scalar × Value) → List (Scalar × Value)
  | [] => []
  | (key, value) :: rest => (key, value.outline) :: Mapping.outline rest

end

mutual

theorem Value.outline_shape (value : Value) : value.shape.outline = value.outline := by
  match value with
  | .map entries => simp [Value.shape, Value.outline, Mapping.outline_shape entries]
  | .list _ | .set _ => rfl
  | .scalar atom => cases atom <;> rfl

theorem Mapping.outline_shape (entries : List (Scalar × Value)) :
    Mapping.outline (Mapping.shape entries) = Mapping.outline entries := by
  match entries with
  | [] => rfl
  | (key, value) :: rest =>
    simp [Mapping.shape, Mapping.outline, Value.outline_shape value, Mapping.outline_shape rest]

end

mutual

theorem Value.shape_outline (value : Value) : value.outline.shape = value.outline := by
  match value with
  | .map entries => simp [Value.outline, Value.shape, Mapping.shape_outline entries]
  | .list _ | .set _ | .scalar _ => rfl

theorem Mapping.shape_outline (entries : List (Scalar × Value)) :
    Mapping.shape (Mapping.outline entries) = Mapping.outline entries := by
  match entries with
  | [] => rfl
  | (key, value) :: rest =>
    simp [Mapping.outline, Mapping.shape, Value.shape_outline value, Mapping.shape_outline rest]

end

theorem Mapping.get?_outline (key : Scalar) (entries : Mapping) :
    get? key (outline entries) = (get? key entries).map Value.outline := by
  induction entries with
  | nil => rfl
  | cons entry rest inductionHypothesis =>
    obtain ⟨other, value⟩ := entry
    simp only [outline, get?, inductionHypothesis]
    split <;> rfl

mutual

/-- A value is keyed if its outline is. -/
theorem Value.isKeyed_outline (value : Value) : value.outline.isKeyed = value.isKeyed := by
  match value with
  | .map entries => simpa [Value.outline, Value.isKeyed] using Mapping.isKeyed_outline entries
  | .list _ | .set _ | .scalar _ => rfl

theorem Mapping.isKeyed_outline (entries : List (Scalar × Value)) :
    Mapping.isKeyed (Mapping.outline entries) = Mapping.isKeyed entries := by
  match entries with
  | [] => rfl
  | (key, value) :: rest =>
    simp [Mapping.outline, Mapping.isKeyed, Mapping.has, Mapping.get?_outline,
      Value.isKeyed_outline value, Mapping.isKeyed_outline rest]

end

end GuidedMigration

namespace GuidedMigration.Config

open Value

/-! ### Outlines and shapes -/

mutual

/-- The placeholders of a value are those of its outline. -/
theorem asPlaceholders_outline (path : List Text) (value : Value) :
    asPlaceholders path value.outline = asPlaceholders path value := by
  match value with
  | .map [] => rfl
  | .map (entry :: rest) =>
    obtain ⟨key, value⟩ := entry
    have same := entriesAsPlaceholders_outline path ((key, value) :: rest)
    simpa [outline, Mapping.outline, asPlaceholders] using same
  | .list _ | .set _ | .scalar _ => rfl

theorem entriesAsPlaceholders_outline (path : List Text) (entries : List (Scalar × Value)) :
    entriesAsPlaceholders path (Mapping.outline entries) = entriesAsPlaceholders path entries := by
  match entries with
  | [] => rfl
  | (key, value) :: rest =>
    simp [Mapping.outline, entriesAsPlaceholders, asPlaceholders_outline _ value,
      entriesAsPlaceholders_outline path rest]

end

mutual

/-- What a value has beyond a template is what its outline has. -/
theorem carriedValue_outline (path : List Text) (held : Option Value) (value : Value) :
    carriedValue path held value.outline = carriedValue path held value := by
  match value with
  | .map entries =>
    have placeholders := asPlaceholders_outline path (.map entries)
    rw [outline] at placeholders
    match held with
    | none => simp [outline, carriedValue, placeholders]
    | some (.map template) =>
      simp [outline, carriedValue, carriedEntries_outline path template entries]
    | some (.list _) => simp [outline, carriedValue]
    | some (.set _) => simp [outline, carriedValue]
    | some (.scalar atom) => cases atom <;> simp [outline, carriedValue, placeholders]
  | .list _ | .set _ | .scalar _ => simp [outline, carriedValue, asPlaceholders]

theorem carriedEntries_outline (path : List Text) (template : Mapping)
    (entries : List (Scalar × Value)) :
    carriedEntries path template (Mapping.outline entries) =
      carriedEntries path template entries := by
  match entries with
  | [] => rfl
  | (key, value) :: rest =>
    simp [Mapping.outline, carriedEntries, carriedValue_outline _ _ value,
      carriedEntries_outline path template rest]

end

/-- The outline of a shape is that of the document, so what is carried depends on the shape. -/
theorem carriedEntries_shape (path : List Text) (template entries : Mapping) :
    carriedEntries path template (Mapping.shape entries) =
      carriedEntries path template entries := by
  rw [← carriedEntries_outline, Mapping.outline_shape, carriedEntries_outline]

/-- What a local document has beyond its template depends on its shape alone. -/
theorem carried_of_shape {first second : Mapping}
    (same : Mapping.shape first = Mapping.shape second)
    (template : Mapping) : carried template first = carried template second := by
  rw [carried, carried, ← carriedEntries_shape, same, carriedEntries_shape]

/-! ### Keys -/

/-- The keys on the way to a key of a mapping that stands at `path`. -/
def below (path : List Text) (key : Scalar) (entries : Mapping) : List Text :=
  path ++ ((Mapping.stored? key entries).map Scalar.display).toList

theorem get?_entriesAsPlaceholders (path : List Text) (key : Scalar) (entries : Mapping) :
    Mapping.get? key (entriesAsPlaceholders path entries) =
      (Mapping.get? key entries).map (asPlaceholders (below path key entries)) := by
  induction entries with
  | nil => rfl
  | cons entry rest inductionHypothesis =>
    obtain ⟨other, value⟩ := entry
    simp only [entriesAsPlaceholders, Mapping.get?, below, Mapping.stored?]
    split
    · simp
    · exact inductionHypothesis

theorem stored?_entriesAsPlaceholders (path : List Text) (key : Scalar) (entries : Mapping) :
    Mapping.stored? key (entriesAsPlaceholders path entries) = Mapping.stored? key entries := by
  induction entries with
  | nil => rfl
  | cons entry rest inductionHypothesis =>
    simp only [entriesAsPlaceholders, Mapping.stored?, inductionHypothesis]

theorem get?_carriedEntries {entries : Mapping} (keyed : Mapping.isKeyed entries = true)
    (path : List Text) (template : Mapping) (key : Scalar) :
    Mapping.get? key (carriedEntries path template entries) =
      (Mapping.get? key entries).bind
        (carriedValue (below path key entries) (Mapping.get? key template)) := by
  induction entries with
  | nil => rfl
  | cons entry rest inductionHypothesis =>
    obtain ⟨other, value⟩ := entry
    obtain ⟨fresh, -, restKeyed⟩ := Mapping.isKeyed_cons.mp keyed
    have found := inductionHypothesis restKeyed
    by_cases same : other.same key = true
    · have missing : Mapping.get? key rest = none := by rw [← Mapping.get?_of_same same, fresh]
      rw [missing, Option.bind_none] at found
      rw [← Mapping.get?_of_same same template]
      cases extra : carriedValue (path ++ [other.display]) (Mapping.get? other template) value with
      | none => simp [carriedEntries, below, Mapping.get?, Mapping.stored?, same, extra, found]
      | some carried => simp [carriedEntries, below, Mapping.get?, Mapping.stored?, same, extra]
    · have apart : below path key ((other, value) :: rest) = below path key rest := by
        simp [below, Mapping.stored?, same]
      rw [apart]
      cases extra : carriedValue (path ++ [other.display]) (Mapping.get? other template) value with
      | none => simp [carriedEntries, Mapping.get?, same, extra, found]
      | some carried => simp [carriedEntries, Mapping.get?, same, extra, found]

/-- What is carried is spelled as the local document spells it. -/
theorem stored?_carriedEntries {entries : Mapping} (keyed : Mapping.isKeyed entries = true)
    (path : List Text) (template : Mapping) (key : Scalar) :
    Mapping.stored? key (carriedEntries path template entries) = none ∨
      Mapping.stored? key (carriedEntries path template entries) = Mapping.stored? key entries := by
  induction entries with
  | nil => exact Or.inl rfl
  | cons entry rest inductionHypothesis =>
    obtain ⟨other, value⟩ := entry
    obtain ⟨fresh, -, restKeyed⟩ := Mapping.isKeyed_cons.mp keyed
    have found := inductionHypothesis restKeyed
    cases extra : carriedValue (path ++ [other.display]) (Mapping.get? other template) value with
    | none =>
      by_cases same : other.same key = true
      · have missing : Mapping.stored? key rest = none := by
          rw [← Option.isNone_iff_eq_none, ← Option.not_isSome, Mapping.isSome_stored?,
            ← Mapping.get?_of_same same, fresh]
          rfl
        rw [missing, or_self] at found
        exact Or.inl (by simpa [carriedEntries, extra] using found)
      · simpa [carriedEntries, extra, Mapping.stored?, same] using found
    | some carried =>
      by_cases same : other.same key = true
      · simp [carriedEntries, extra, Mapping.stored?, same]
      · simpa [carriedEntries, extra, Mapping.stored?, same] using found

/-! ### Carrying keeps mappings keyed -/

mutual

theorem isKeyed_asPlaceholders {value : Value} (path : List Text) (keyed : value.isKeyed = true) :
    (asPlaceholders path value).isKeyed = true := by
  match value with
  | .map [] => rfl
  | .map (entry :: rest) =>
    have entriesKeyed : Mapping.isKeyed (entry :: rest) = true := by simpa [isKeyed] using keyed
    simpa [asPlaceholders, isKeyed] using isKeyed_entriesAsPlaceholders path entriesKeyed
  | .list _ => rfl
  | .set _ => rfl
  | .scalar _ => rfl

theorem isKeyed_entriesAsPlaceholders {entries : List (Scalar × Value)} (path : List Text)
    (keyed : Mapping.isKeyed entries = true) :
    Mapping.isKeyed (entriesAsPlaceholders path entries) = true := by
  match entries with
  | [] => rfl
  | (key, value) :: rest =>
    obtain ⟨fresh, valueKeyed, restKeyed⟩ := Mapping.isKeyed_cons.mp keyed
    rw [entriesAsPlaceholders, Mapping.isKeyed_cons, get?_entriesAsPlaceholders, fresh]
    exact ⟨rfl, isKeyed_asPlaceholders _ valueKeyed, isKeyed_entriesAsPlaceholders path restKeyed⟩

end

mutual

theorem isKeyed_carriedValue {value : Value} (path : List Text) (held : Option Value)
    (keyed : value.isKeyed = true) : (carriedValue path held value).all isKeyed = true := by
  match value with
  | .map entries =>
    have entriesKeyed : Mapping.isKeyed entries = true := by simpa [isKeyed] using keyed
    have placeholders := isKeyed_asPlaceholders path keyed
    match held with
    | none => simpa [carriedValue] using placeholders
    | some (.map template) =>
      have extraKeyed := isKeyed_carriedEntries path template entriesKeyed
      cases extra : carriedEntries path template entries with
      | nil => simp [carriedValue, extra]
      | cons entry rest => simpa [carriedValue, extra, isKeyed] using extra ▸ extraKeyed
    | some (.list _) => simp [carriedValue]
    | some (.set _) => simp [carriedValue]
    | some (.scalar atom) => cases atom <;> simp [carriedValue, placeholders]
  | .list _ => cases held <;> simp [carriedValue, asPlaceholders, leafPlaceholder, isKeyed]
  | .set _ => cases held <;> simp [carriedValue, asPlaceholders, leafPlaceholder, isKeyed]
  | .scalar _ => cases held <;> simp [carriedValue, asPlaceholders, leafPlaceholder, isKeyed]

theorem isKeyed_carriedEntries {entries : List (Scalar × Value)} (path : List Text)
    (template : Mapping) (keyed : Mapping.isKeyed entries = true) :
    Mapping.isKeyed (carriedEntries path template entries) = true := by
  match entries with
  | [] => rfl
  | (key, value) :: rest =>
    obtain ⟨fresh, valueKeyed, restKeyed⟩ := Mapping.isKeyed_cons.mp keyed
    have found := get?_carriedEntries restKeyed path template key
    have restCarried := isKeyed_carriedEntries path template restKeyed
    have valueCarried :=
      isKeyed_carriedValue (path ++ [key.display]) (Mapping.get? key template) valueKeyed
    cases extra : carriedValue (path ++ [key.display]) (Mapping.get? key template) value with
    | none => simpa [carriedEntries, extra] using restCarried
    | some carried =>
      have carriedKeyed : carried.isKeyed = true := by simpa [extra] using valueCarried
      simp [carriedEntries, extra, Mapping.isKeyed_cons, found, fresh, restCarried, carriedKeyed]

end

/-- What is carried back from a keyed document is keyed. -/
theorem isKeyed_carried {locals : Mapping} (keyed : Mapping.isKeyed locals = true)
    (template : Mapping) : Mapping.isKeyed (carried template locals) = true :=
  isKeyed_carriedEntries [] template keyed

/-! ### Trails -/

/-- What is carried to what the template holds, if there is anything to carry. -/
def carriedTo (path : List Text) (held new : Option Value) : Option Value :=
  new.bind (carriedValue path held)

theorem child_asPlaceholders (path : List Text) (key : Scalar) (value : Value) :
    ∃ inner, child key (some (asPlaceholders path value)) =
      (child key (some value)).map (asPlaceholders inner) := by
  match value with
  | .map [] => exact ⟨path, rfl⟩
  | .map (entry :: rest) =>
    have found := get?_entriesAsPlaceholders path key (entry :: rest)
    exact ⟨below path key (entry :: rest), by simpa [asPlaceholders] using found⟩
  | .list _ => exact ⟨path, rfl⟩
  | .set _ => exact ⟨path, rfl⟩
  | .scalar _ => exact ⟨path, rfl⟩

theorem carriedValue_none (path : List Text) (value : Value) :
    carriedValue path none value = some (asPlaceholders path value) := by
  match value with
  | .map _ => simp [carriedValue]
  | .list _ => simp [carriedValue]
  | .set _ => simp [carriedValue]
  | .scalar _ => simp [carriedValue]

theorem child_carriedTo {new : Option Value} (keyed : new.all isKeyed = true) (path : List Text)
    (key : Scalar) (held : Option Value) :
    ∃ inner, child key (carriedTo path held new) =
      if isLeaf? held then none else carriedTo inner (child key held) (child key new) := by
  match new, held with
  | none, held => exact ⟨path, by simp [carriedTo]⟩
  | some value, none =>
    obtain ⟨inner, found⟩ := child_asPlaceholders path key value
    refine ⟨inner, ?_⟩
    rw [carriedTo, Option.bind_some, carriedValue_none, found]
    cases child key (some value) <;> simp [carriedTo, carriedValue_none, isLeaf?]
  | some (.map entries), some (.map template) =>
    have found := get?_carriedEntries (by simpa [isKeyed] using keyed) path template key
    refine ⟨below path key entries, ?_⟩
    cases extra : carriedEntries path template entries with
    | nil => simpa [carriedTo, carriedValue, extra, isLeaf?, isLeaf, Mapping.get?] using found
    | cons entry rest => simpa [carriedTo, carriedValue, extra, isLeaf?, isLeaf] using found
  | some (.map entries), some (.list _) =>
    exact ⟨path, by simp [carriedTo, carriedValue, isLeaf?, isLeaf]⟩
  | some (.map entries), some (.set _) =>
    exact ⟨path, by simp [carriedTo, carriedValue, isLeaf?, isLeaf]⟩
  | some (.map entries), some (.scalar atom) =>
    cases atom with
    | null =>
      obtain ⟨inner, found⟩ := child_asPlaceholders path key (.map entries)
      refine ⟨inner, ?_⟩
      rw [carriedTo, Option.bind_some, carriedValue, found]
      cases child key (some (.map entries)) <;>
        simp [carriedTo, carriedValue_none, isLeaf?, isLeaf, child]
    | _ => exact ⟨path, by simp [carriedTo, carriedValue, isLeaf?, isLeaf]⟩
  | some (.list _), some held =>
    exact ⟨path, by simp [carriedTo, carriedValue, child]⟩
  | some (.set _), some held =>
    exact ⟨path, by simp [carriedTo, carriedValue, child]⟩
  | some (.scalar _), some held =>
    exact ⟨path, by simp [carriedTo, carriedValue, child]⟩

/-- What is carried along a trail: nothing if the template puts a leaf on the way, and otherwise
what the local document has at its end beyond what the template holds there. -/
theorem behind_carriedTo {new : Option Value} (keyed : new.all isKeyed = true) (trail : Trail)
    (path : List Text) (held : Option Value) :
    ∃ inner, behind trail (carriedTo path held new) =
      if Value.blocks trail held then none
      else carriedTo inner (behind trail held) (behind trail new) := by
  induction trail generalizing path held new with
  | nil => exact ⟨path, rfl⟩
  | cons key trail inductionHypothesis =>
    obtain ⟨step, found⟩ := child_carriedTo keyed path key held
    rw [behind_cons, found]
    by_cases leaf : isLeaf? held = true
    · exact ⟨path, by simp [Value.blocks, leaf]⟩
    · obtain ⟨inner, rest⟩ :=
        inductionHypothesis (isKeyed_child keyed key) step (child key held)
      simp only [Bool.not_eq_true] at leaf
      exact ⟨inner, by simp [Value.blocks, leaf, rest]⟩

/-- Everything is carried to where the template holds nothing. -/
theorem isSome_carriedTo_none (path : List Text) (new : Option Value) :
    (carriedTo path none new).isSome = new.isSome := by
  cases new <;> simp [carriedTo, carriedValue_none]

/-- Below a carried leaf, neither the template nor the local document holds anything. -/
theorem child_of_isLeaf_carriedTo {path : List Text} {held new : Option Value}
    (leaf : isLeaf? (carriedTo path held new) = true) (key : Scalar) :
    child key held = none ∧ child key new = none := by
  match new, held with
  | none, held => simp [carriedTo, isLeaf?] at leaf
  | some (.map []), none => exact ⟨rfl, rfl⟩
  | some (.map (entry :: rest)), none =>
    simp [carriedTo, carriedValue, asPlaceholders, isLeaf?, isLeaf] at leaf
  | some (.map entries), some (.map template) =>
    cases extra : carriedEntries path template entries with
    | nil => simp [carriedTo, carriedValue, extra, isLeaf?] at leaf
    | cons entry rest => simp [carriedTo, carriedValue, extra, isLeaf?, isLeaf] at leaf
  | some (.map entries), some (.list _) => simp [carriedTo, carriedValue, isLeaf?] at leaf
  | some (.map entries), some (.set _) => simp [carriedTo, carriedValue, isLeaf?] at leaf
  | some (.map []), some (.scalar _) => exact ⟨rfl, rfl⟩
  | some (.map (entry :: rest)), some (.scalar atom) =>
    cases atom <;> simp [carriedTo, carriedValue, asPlaceholders, isLeaf?, isLeaf] at leaf
  | some (.list _), held => cases held <;> simp_all [carriedTo, carriedValue, isLeaf?, child]
  | some (.set _), held => cases held <;> simp_all [carriedTo, carriedValue, isLeaf?, child]
  | some (.scalar _), held => cases held <;> simp_all [carriedTo, carriedValue, isLeaf?, child]

/-- What a document that is carried back holds at the end of a trail. -/
theorem at?_carried {locals : Mapping} (keyed : Mapping.isKeyed locals = true) (template : Mapping)
    {trail : Trail} (nonempty : trail ≠ []) :
    ∃ inner, Mapping.at? trail (carried template locals) =
      if Mapping.blocks trail template then none
      else carriedTo inner (Mapping.at? trail template) (Mapping.at? trail locals) := by
  have localsKeyed : (some (Value.map locals)).all isKeyed = true := by simpa [isKeyed] using keyed
  obtain ⟨inner, found⟩ := behind_carriedTo localsKeyed trail [] (some (.map template))
  refine ⟨inner, Eq.trans ?_ found⟩
  obtain ⟨key, trail, rfl⟩ := List.exists_cons_of_ne_nil nonempty
  rw [Mapping.at?, behind_cons, behind_cons]
  refine congrArg (behind trail) ?_
  cases extra : carriedEntries [] template locals with
  | nil => simp [carried, carriedTo, carriedValue, extra, Mapping.get?]
  | cons entry rest => simp [carried, carriedTo, carriedValue, extra]

/-- Where a leaf that was carried back is on the way, neither document holds anything. -/
theorem at?_of_blocks_carried {locals : Mapping} (keyed : Mapping.isKeyed locals = true)
    {template : Mapping} {trail : Trail}
    (blocked : Mapping.blocks trail (carried template locals) = true) :
    Mapping.at? trail template = none ∧ Mapping.at? trail locals = none := by
  obtain ⟨first, rest, rfl, below, leaf⟩ := blocks_iff.mp blocked
  obtain ⟨key, rest, rfl⟩ := List.exists_cons_of_ne_nil below
  have nonempty : first ≠ [] := by
    rintro rfl
    simp [isLeaf?, isLeaf] at leaf
  obtain ⟨inner, found⟩ := at?_carried keyed template nonempty
  rw [← Mapping.at?, found] at leaf
  split at leaf
  · simp [isLeaf?] at leaf
  · obtain ⟨template', locals'⟩ := child_of_isLeaf_carriedTo leaf key
    rw [Mapping.at?] at template' locals'
    simp [Mapping.at?, behind_append, template', locals']

/-- Nothing is carried to a leaf. -/
theorem carriedTo_of_isLeaf {held : Option Value} (leaf : isLeaf? held = true) (path : List Text)
    (new : Option Value) : carriedTo path held new = none := by
  match new, held with
  | none, _ => rfl
  | some _, none => simp [isLeaf?] at leaf
  | some (.map _), some (.map _) => simp [isLeaf?, isLeaf] at leaf
  | some (.map _), some (.scalar atom) =>
    cases atom <;> first | rfl | simp [isLeaf?, isLeaf] at leaf
  | some (.map _), some (.list _) | some (.map _), some (.set _) => rfl
  | some (.list _), some _ | some (.set _), some _ | some (.scalar _), some _ => rfl

/-- What a template holds at the end of a trail once a local document was carried back to it. -/
theorem at?_merge_carried {template locals : Mapping} (keyed : Mapping.isKeyed locals = true)
    {trail : Trail} (nonempty : trail ≠ []) (unblocked : Mapping.blocks trail template = false) :
    ∃ inner, Mapping.at? trail (template.merge (carried template locals)) =
      overlaid (Mapping.at? trail template)
        (carriedTo inner (Mapping.at? trail template) (Mapping.at? trail locals)) := by
  obtain ⟨inner, found⟩ := at?_carried keyed template nonempty
  rw [if_neg (by simp [unblocked])] at found
  refine ⟨inner, ?_⟩
  rw [Mapping.at?_merge (isKeyed_carried keyed template), found]
  split
  · rename_i blocked
    obtain ⟨atTemplate, atLocals⟩ := at?_of_blocks_carried keyed blocked
    rw [atTemplate, atLocals]
    rfl
  · rfl

/-- The leaves of a template stay when something is carried back to it. -/
theorem at?_merge_carried_of_isLeaf {template locals : Mapping}
    (keyed : Mapping.isKeyed locals = true) {trail : Trail}
    (leaf : isLeaf? (Mapping.at? trail template) = true) :
    Mapping.at? trail (template.merge (carried template locals)) = Mapping.at? trail template := by
  have nonempty : trail ≠ [] := by
    rintro rfl
    simp [Mapping.at?, isLeaf?, isLeaf] at leaf
  have present : (Mapping.at? trail template).isSome = true := by
    cases held : Mapping.at? trail template <;> simp_all [isLeaf?]
  obtain ⟨inner, merged⟩ :=
    at?_merge_carried keyed nonempty (Mapping.blocks_of_isSome present)
  rw [merged, carriedTo_of_isLeaf leaf, overlaid_none]

end GuidedMigration.Config
