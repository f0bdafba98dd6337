/-
This file shows that no literal reaches the template. Two migrations that differ in what the local
document and the captured values say, and not in which keys there are, write the same template: the
values go through the merges into the local document, but what is carried back from that document
depends on its shape alone. A local document may also have its entries in another order; then so
does the template, and in nothing else it differs.
-/
import GuidedMigration.Proofs.Config.Built
import GuidedMigration.Proofs.Config.Carried

namespace GuidedMigration.Config

open Value

/-! ### What is carried from rearranged documents -/

theorem isEmpty_of_stored? {left right : Mapping}
    (keys : ∀ key, Mapping.stored? key left = Mapping.stored? key right) (empty : left = []) :
    right = [] := by
  cases right with
  | nil => rfl
  | cons entry rest =>
    have held := keys entry.1
    simp [empty, Mapping.stored?, Scalar.same_refl] at held

theorem below_of_stored? {left right : Mapping}
    (keys : ∀ key, Mapping.stored? key left = Mapping.stored? key right) (path : List Text)
    (key : Scalar) : below path key left = below path key right := by
  rw [below, below, keys]

theorem asPlaceholders_of_ne_nil {path : List Text} {entries : Mapping} (filled : entries ≠ []) :
    asPlaceholders path (.map entries) = .map (entriesAsPlaceholders path entries) := by
  obtain ⟨entry, rest, rfl⟩ := List.exists_cons_of_ne_nil filled
  rw [asPlaceholders]

/-- The placeholders of rearranged values are rearranged. -/
theorem Rearranged.asPlaceholders {first second : Value} (related : Value.Rearranged first second)
    (path : List Text) :
    Value.Rearranged (asPlaceholders path first) (asPlaceholders path second) := by
  induction related generalizing path with
  | leaf value _ => exact Value.Rearranged.refl _
  | map left right keys values inductionHypothesis =>
    have entries : Value.Rearranged (.map left) (.map right) := .map left right keys values
    by_cases empty : left = []
    · rw [empty, isEmpty_of_stored? keys empty]
      exact Value.Rearranged.refl _
    · have empty' : right ≠ [] := fun none => empty
        (isEmpty_of_stored? (fun key => (keys key).symm) none)
      rw [asPlaceholders_of_ne_nil empty, asPlaceholders_of_ne_nil empty', rearranged_map]
      refine ⟨fun key => ?_, fun key => ?_⟩
      · rw [stored?_entriesAsPlaceholders, stored?_entriesAsPlaceholders, keys]
      · rw [get?_entriesAsPlaceholders, get?_entriesAsPlaceholders, below_of_stored? keys,
          Option.map_eq_bind, Option.map_eq_bind]
        refine ((rearranged_map.mp entries).2 key).bind fun value value' atLeft atRight _ => ?_
        exact inductionHypothesis key value value' atLeft atRight _

/-- Entries of which rearranged ones are carried key by key are carried rearranged. -/
theorem rearranged_carriedEntries {left right template : Mapping} {path : List Text}
    (leftKeyed : Mapping.isKeyed left = true) (rightKeyed : Mapping.isKeyed right = true)
    (keys : ∀ key, Mapping.stored? key left = Mapping.stored? key right)
    (values : ∀ key, Rearranged? (Mapping.get? key (carriedEntries path template left))
      (Mapping.get? key (carriedEntries path template right))) :
    Mapping.Rearranged (carriedEntries path template left)
      (carriedEntries path template right) := by
  refine rearranged_map.mpr ⟨fun key => ?_, values⟩
  have present := (values key).isSome
  rw [← Mapping.isSome_stored?, ← Mapping.isSome_stored?] at present
  rcases stored?_carriedEntries leftKeyed path template key with missing | spelled
  · simp_all
  · rcases stored?_carriedEntries rightKeyed path template key with missing | spelled'
    · simp_all
    · rw [spelled, spelled', keys]

/-- What rearranged values have beyond a template is rearranged. -/
theorem Rearranged.carriedValue {first second : Value} (related : Value.Rearranged first second)
    (path : List Text) (held : Option Value) (firstKeyed : first.isKeyed = true)
    (secondKeyed : second.isKeyed = true) :
    Rearranged? (carriedValue path held first) (carriedValue path held second) := by
  induction related generalizing path held with
  | leaf value _ => exact Rearranged?.refl _
  | map left right keys values inductionHypothesis =>
    have entries : Value.Rearranged (.map left) (.map right) := .map left right keys values
    have leftKeyed : Mapping.isKeyed left = true := by simpa [isKeyed] using firstKeyed
    have rightKeyed : Mapping.isKeyed right = true := by simpa [isKeyed] using secondKeyed
    have placeholders := Rearranged.asPlaceholders entries path
    match held with
    | none => simpa [Config.carriedValue, Rearranged?] using placeholders
    | some (.list _) => simp [Config.carriedValue, Rearranged?]
    | some (.set _) => simp [Config.carriedValue, Rearranged?]
    | some (.scalar atom) =>
      cases atom with
      | null => simpa [Config.carriedValue, Rearranged?] using placeholders
      | _ => simp [Config.carriedValue, Rearranged?]
    | some (.map template) =>
      have extra : Mapping.Rearranged (carriedEntries path template left)
          (carriedEntries path template right) := by
        refine rearranged_carriedEntries leftKeyed rightKeyed keys fun key => ?_
        rw [get?_carriedEntries leftKeyed, get?_carriedEntries rightKeyed, below_of_stored? keys]
        refine ((rearranged_map.mp entries).2 key).bind fun value value' atLeft atRight _ => ?_
        exact inductionHypothesis key value value' atLeft atRight _ _
          (Mapping.isKeyed_of_get? leftKeyed atLeft) (Mapping.isKeyed_of_get? rightKeyed atRight)
      have extraKeys := (rearranged_map.mp extra).1
      simp only [Config.carriedValue]
      cases atLeft : carriedEntries path template left with
      | nil =>
        rw [isEmpty_of_stored? extraKeys atLeft]
        trivial
      | cons entry rest =>
        cases atRight : carriedEntries path template right with
        | nil =>
          have empty := isEmpty_of_stored? (fun key => (extraKeys key).symm) atRight
          simp [atLeft] at empty
        | cons entry' rest' =>
          rw [Mapping.Rearranged, atLeft, atRight] at extra
          exact extra

/-- What is carried from documents whose shapes are rearranged is rearranged. -/
theorem rearranged_carried {first second : Mapping}
    (same : Mapping.Rearranged (Mapping.shape first) (Mapping.shape second))
    (firstKeyed : Mapping.isKeyed first = true) (secondKeyed : Mapping.isKeyed second = true)
    (template : Mapping) :
    Mapping.Rearranged (carried template first) (carried template second) := by
  rw [carried, carried, ← carriedEntries_shape, ← carriedEntries_shape [] template second]
  rw [← isKeyed_shapeEntries] at firstKeyed secondKeyed
  obtain ⟨keys, values⟩ := rearranged_map.mp same
  refine rearranged_carriedEntries firstKeyed secondKeyed keys fun key => ?_
  rw [get?_carriedEntries firstKeyed, get?_carriedEntries secondKeyed, below_of_stored? keys]
  refine (values key).bind fun value value' atFirst atSecond related => ?_
  exact Rearranged.carriedValue related _ _ (Mapping.isKeyed_of_get? firstKeyed atFirst)
    (Mapping.isKeyed_of_get? secondKeyed atSecond)

/-! ### Two migrations -/

/-- Whether two lists of contributions have the same fragments in the same order, and each two of
them know values for the same names. -/
inductive SameButLiterals : Contributions → Contributions → Prop where
  | nil : SameButLiterals [] []
  | cons {left right : Contribution} {lefts rights : Contributions}
      (fragment : left.fragment = right.fragment)
      (names : ∀ name, (left.values.get? name).isSome = (right.values.get? name).isSome)
      (rest : SameButLiterals lefts rights) : SameButLiterals (left :: lefts) (right :: rights)

namespace SameButLiterals

variable {first second : Contributions}

theorem fragments (same : SameButLiterals first second) :
    first.map Contribution.fragment = second.map Contribution.fragment := by
  induction same with
  | nil => rfl
  | cons fragment names rest inductionHypothesis => simp [fragment, inductionHypothesis]

theorem templateFragment (same : SameButLiterals first second) :
    first.templateFragment = second.templateFragment := by
  have folded (contributions : Contributions) : contributions.templateFragment =
      (contributions.map Contribution.fragment).foldl Mapping.merge [] := by
    rw [List.foldl_map]
    rfl
  rw [folded, folded, same.fragments]

/-- Whether a local document is written does not depend on the literals. -/
theorem isDual (same : SameButLiterals first second) : first.isDual = second.isDual := by
  induction same with
  | nil => rfl
  | cons fragment names rest inductionHypothesis =>
    simp only [Contributions.isDual, List.any_cons] at inductionHypothesis ⊢
    rw [inductionHypothesis, Contribution.hasLiterals, Contribution.hasLiterals, fragment]
    simp only [names]

theorem isKeyed (same : SameButLiterals first second)
    (keyed : ∀ part ∈ first, Mapping.isKeyed part.fragment = true) :
    ∀ part ∈ second, Mapping.isKeyed part.fragment = true := by
  intro part member
  have listed : part.fragment ∈ first.map Contribution.fragment := by
    rw [same.fragments]
    exact List.mem_map_of_mem member
  obtain ⟨other, otherMember, equal⟩ := List.mem_map.mp listed
  exact equal ▸ keyed other otherMember

end SameButLiterals

namespace Contributions

/-- The shape of the local document that is written: what is merged, merged as shapes. -/
theorem shape_locals (contributions : Contributions) (template locals : Mapping) :
    Mapping.shape (contributions.pairFrom template locals).locals =
      Mapping.merge (Mapping.merge (Mapping.shape template) (Mapping.shape locals))
        (Mapping.shape contributions.templateFragment) := by
  rw [pairFrom, shape_merge, shape_merge, Mapping.shape_fill, shape_localFragment]

/-- Two migrations that start from one template, from local documents of one shape and from
contributions that differ in their literals alone agree on whether they write a local document, and
write the same template: key by key in the same order if the local documents have their keys in the
same order, and up to that order otherwise. -/
theorem template_of_same_shape {first second : Contributions} (same : SameButLiterals first second)
    (keyed : ∀ part ∈ first, Mapping.isKeyed part.fragment = true) :
    first.isDual = second.isDual ∧
      ∀ {templatePath localPath : Path} {tree tree' : Tree} {template locals locals' : Mapping}
        {pair pair' : Pair}, Builds first templatePath localPath tree template locals pair →
        Builds second templatePath localPath tree' template locals' pair' →
        Mapping.Rearranged (Mapping.shape locals) (Mapping.shape locals') →
        Mapping.Rearranged pair.template pair'.template ∧
          (Mapping.shape locals = Mapping.shape locals' → pair.template = pair'.template) := by
  refine ⟨same.isDual, fun {_ _ _ _ template locals locals'} _ _ builds builds' shapes => ?_⟩
  have templateKeyed := builds.templateKeyed
  have localsKeyed := builds.localsKeyed
  have localsKeyed' := builds'.localsKeyed
  obtain rfl := builds.pair_eq
  obtain rfl := builds'.pair_eq
  refine ⟨?_, fun ordered => ?_⟩
  · have written : Mapping.Rearranged (Mapping.shape (first.pairFrom template locals).locals)
        (Mapping.shape (second.pairFrom template locals').locals) := by
      have fragmentKeyed := isKeyed_templateFragment (same.isKeyed keyed)
      rw [← isKeyed_shapeEntries] at localsKeyed localsKeyed' fragmentKeyed
      rw [shape_locals, shape_locals, same.templateFragment]
      exact ((Mapping.Rearranged.refl _).merge shapes localsKeyed localsKeyed').merge
        (Mapping.Rearranged.refl _) fragmentKeyed fragmentKeyed
    have localsWritten := isKeyed_locals templateKeyed localsKeyed keyed
    have localsWritten' := isKeyed_locals templateKeyed localsKeyed' (same.isKeyed keyed)
    have extra := rearranged_carried written localsWritten localsWritten'
      (template.merge first.templateFragment)
    have merged := (Mapping.Rearranged.refl (template.merge first.templateFragment)).merge extra
      (isKeyed_carried localsWritten _) (isKeyed_carried localsWritten' _)
    rw [same.templateFragment] at merged
    simpa only [pairFrom, same.templateFragment] using merged
  · have written : Mapping.shape (first.pairFrom template locals).locals =
        Mapping.shape (second.pairFrom template locals').locals := by
      rw [shape_locals, shape_locals, ordered, same.templateFragment]
    have extra := carried_of_shape written (template.merge second.templateFragment)
    simp only [pairFrom] at extra ⊢
    rw [same.templateFragment, extra]

/-- A stored secret and a captured one, each replaced by another one, leave the template as it
is. -/
theorem template_of_two_secrets :
    let contribution (secret : String) : Contribution :=
      ⟨"x".toList, [(.text "x".toList, text (Placeholder.ofName "N".toList))],
        [("N".toList, secret.toList)]⟩
    let template : Mapping := [(.text "a".toList, .int 1)]
    let locals (secret : String) : Mapping := [(.text "token".toList, text secret.toList)]
    let pair (secret token : String) := pairFrom [contribution secret] template (locals token)
    let builds (secret token : String) : Prop :=
      Builds [contribution secret] (.ofText "app-config.yaml".toList)
        (.ofText "app-config.local.yaml".toList)
        (smallTree "a: 1\n".toList ("token: ".toList ++ token.toList)) template (locals token)
        (pair secret token)
    builds "first" "one" ∧ builds "second" "two" ∧
      (pair "first" "one").template = (pair "second" "two").template := by
  intro contribution template locals pair builds
  have same : SameButLiterals [contribution "first"] [contribution "second"] :=
    .cons rfl
      (fun name => by simp [contribution, Placeholder.Values.get?, List.lookup_cons]; split <;> rfl)
      .nil
  have one : builds "first" "one" :=
    builds_smallTree (by decide +kernel) (by decide +kernel) (by decide +kernel)
  have two : builds "second" "two" :=
    builds_smallTree (by decide +kernel) (by decide +kernel) (by decide +kernel)
  exact ⟨one, two, ((template_of_same_shape same (by decide)).2 one two
    (Mapping.Rearranged.refl _)).2 rfl⟩

end Contributions

end GuidedMigration.Config
