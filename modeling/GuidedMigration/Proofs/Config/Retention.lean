/-
This file follows a literal that the local document holds. The contributions are merged over it
last, so a literal is lost where one of them says something else; that the placeholder it says was
never captured does not matter. What stands in the local document in the end is what the last
contribution says that does not leave the place alone, and where all of them do the literal stays.
-/
import GuidedMigration.Proofs.Config.Built

namespace GuidedMigration.Config

open Value

/-! ### Texts and merges -/

/-- A merged document holds a text where the second side does, or where the first side does and the
second one leaves it alone. -/
theorem at?_merge_eq_text {fragment : Mapping} (keyed : Mapping.isKeyed fragment = true)
    (trail : Trail) (base : Mapping) (word : Text) :
    Mapping.at? trail (base.merge fragment) = some (text word) ↔
      Mapping.at? trail fragment = some (text word) ∨
        (passesOver trail fragment = true ∧ Mapping.at? trail base = some (text word)) := by
  rw [Mapping.at?_merge keyed, passesOver]
  by_cases blocked : Mapping.blocks trail fragment = true
  · simp [blocked, Mapping.at?_of_blocks blocked]
  · rw [if_neg blocked]
    simp only [Bool.not_eq_true] at blocked
    match Mapping.at? trail fragment with
    | none => simp [blocked]
    | some (.list _) => simp [overlaid, mergeOver, isNull]
    | some (.set _) => simp [overlaid, mergeOver, isNull]
    | some (.map entries) =>
      simp only [overlaid, mergeOver]
      split <;> simp [isNull]
    | some (.scalar atom) =>
      cases atom with
      | null => cases Mapping.at? trail base <;> simp [overlaid_null, isNull, blocked]
      | _ => simp [overlaid, mergeOver, isNull]

/-- A merged document leaves alone what its two sides leave alone. -/
theorem passesOver_merge {base fragment : Mapping} (keyed : Mapping.isKeyed fragment = true)
    {trail : Trail} (left : passesOver trail base = true)
    (right : passesOver trail fragment = true) : passesOver trail (base.merge fragment) = true := by
  simp only [passesOver, Bool.and_eq_true, Bool.not_eq_true'] at left right ⊢
  obtain ⟨leftOpen, leftSilent⟩ := left
  obtain ⟨rightOpen, rightSilent⟩ := right
  constructor
  · exact Mapping.blocks_merge keyed leftOpen rightOpen
  · rw [Mapping.at?_merge keyed, if_neg (by simp [rightOpen])]
    match atRight : Mapping.at? trail fragment with
    | none => simpa using leftSilent
    | some (.map _) => simp [atRight, isNull] at rightSilent
    | some (.list _) => simp [atRight, isNull] at rightSilent
    | some (.set _) => simp [atRight, isNull] at rightSilent
    | some (.scalar atom) =>
      cases atom with
      | null => cases atLeft : Mapping.at? trail base <;> simp_all [overlaid_null, isNull]
      | _ => simp [atRight, isNull] at rightSilent

/-- Filling placeholders in a fragment does not change what it leaves alone. -/
theorem passesOver_fill (values : Placeholder.Values) (trail : Trail) (fragment : Mapping) :
    passesOver trail (fragment.fill values) = passesOver trail fragment := by
  rw [passesOver, passesOver, Mapping.blocks_of_shape (Mapping.shape_fill values fragment),
    Mapping.at?_fill]
  cases Mapping.at? trail fragment with
  | none => rfl
  | some value =>
    cases value with
    | map _ => rfl
    | list _ => rfl
    | set _ => rfl
    | scalar atom => cases atom <;> rfl

/-- Filling placeholders in turns texts into texts. -/
theorem at?_fill_eq_text {values : Placeholder.Values} {trail : Trail} {fragment : Mapping}
    {word : Text} : Mapping.at? trail (fragment.fill values) = some (text word) ↔
      ∃ written, Mapping.at? trail fragment = some (text written) ∧
        Placeholder.fillText values written = word := by
  rw [Mapping.at?_fill]
  cases Mapping.at? trail fragment with
  | none => simp
  | some value =>
    cases value with
    | map _ => simp [fill, mapTexts]
    | list _ => simp [fill, mapTexts]
    | set _ => simp [fill, mapTexts]
    | scalar atom => cases atom <;> simp [fill, mapTexts]

/-! ### The last contribution that says something -/

namespace Contributions

variable {contributions : Contributions} {template locals : Mapping} {trail : Trail}

/-- What merging the filled fragments one after the other over a document makes of a place: the text
of the last one that says something, or the text that was there. -/
theorem at?_foldl_eq_text (keyed : ∀ part ∈ contributions, Mapping.isKeyed part.fragment = true)
    (trail : Trail) (base : Mapping) (word : Text) :
    Mapping.at? trail (contributions.foldl
        (fun document part => Mapping.merge document part.localFragment) base) =
        some (text word) ↔
      (∃ before part after written, contributions = before ++ part :: after ∧
        Mapping.at? trail part.fragment = some (text written) ∧
        Placeholder.fillText part.values written = word ∧
        ∀ later ∈ after, passesOver trail later.fragment = true) ∨
      ((∀ part ∈ contributions, passesOver trail part.fragment = true) ∧
        Mapping.at? trail base = some (text word)) := by
  induction contributions generalizing base with
  | nil => simp
  | cons first rest inductionHypothesis =>
    have firstKeyed : Mapping.isKeyed first.localFragment = true := by
      rw [Contribution.localFragment, Mapping.isKeyed_fill, keyed first List.mem_cons_self]
    rw [List.foldl_cons, inductionHypothesis
        fun part member => keyed part (List.mem_cons_of_mem _ member),
      at?_merge_eq_text firstKeyed, Contribution.localFragment, passesOver_fill, at?_fill_eq_text]
    constructor
    · rintro (⟨before, part, after, written, rfl, found, filled, silent⟩ |
        ⟨silent, ⟨written, found, filled⟩ | ⟨untouched, held⟩⟩)
      · exact Or.inl ⟨first :: before, part, after, written, rfl, found, filled, silent⟩
      · exact Or.inl ⟨[], first, rest, written, rfl, found, filled, silent⟩
      · exact Or.inr ⟨by simpa using ⟨untouched, silent⟩, held⟩
    · rintro (⟨before, part, after, written, parts, found, filled, silent⟩ | ⟨silent, held⟩)
      · cases before with
        | nil =>
          obtain ⟨rfl, rfl⟩ := List.cons.inj parts
          exact Or.inr ⟨silent, Or.inl ⟨written, found, filled⟩⟩
        | cons other before =>
          obtain ⟨rfl, rfl⟩ := List.cons.inj parts
          exact Or.inl ⟨before, part, after, written, rfl, found, filled, silent⟩
      · simp only [List.mem_cons, forall_eq_or_imp] at silent
        exact Or.inr ⟨silent.2, Or.inr ⟨silent.1, held⟩⟩

/-- Where no contribution says anything, neither do all of them together. -/
theorem passesOver_localFragment
    (keyed : ∀ part ∈ contributions, Mapping.isKeyed part.fragment = true) (nonempty : trail ≠ [])
    (silent : ∀ part ∈ contributions, passesOver trail part.fragment = true) :
    passesOver trail contributions.localFragment = true := by
  have folded (base : Mapping) (untouched : passesOver trail base = true) :
      passesOver trail (contributions.foldl
        (fun document part => Mapping.merge document part.localFragment) base) = true := by
    induction contributions generalizing base with
    | nil => exact untouched
    | cons first rest inductionHypothesis =>
      have firstKeyed : Mapping.isKeyed first.localFragment = true := by
        rw [Contribution.localFragment, Mapping.isKeyed_fill, keyed first List.mem_cons_self]
      refine inductionHypothesis (fun part member => keyed part (List.mem_cons_of_mem _ member))
        (fun part member => silent part (List.mem_cons_of_mem _ member)) _
        (passesOver_merge firstKeyed untouched ?_)
      rw [Contribution.localFragment, passesOver_fill, silent first List.mem_cons_self]
  refine folded [] ?_
  obtain ⟨key, trail, rfl⟩ := List.exists_cons_of_ne_nil nonempty
  simp [passesOver, Mapping.blocks, Value.blocks, Mapping.at?, isLeaf?, isLeaf, Mapping.get?]

/-- Whether a text holds a placeholder for which none of the values is. -/
def IsUnresolved (values : Placeholder.Values) (word : Text) : Prop :=
  ∃ name ∈ Placeholder.namesInText word, values.get? name = none

/-- A literal that the local document holds gives way to an unresolved placeholder exactly where the
last contribution that says something there says one; where none says anything, it stays. -/
theorem isUnresolved_iff {templatePath localPath : Path} {tree : Tree} {pair : Pair}
    (builds : contributions.Builds templatePath localPath tree template locals pair)
    (keyed : ∀ part ∈ contributions, Mapping.isKeyed part.fragment = true) {stored : Text}
    (held : Mapping.at? trail locals = some (text stored))
    (literal : Placeholder.namesInText stored = []) :
    let written := Mapping.at? trail pair.locals
    ((∃ word, written = some (text word) ∧ IsUnresolved contributions.values word) ↔
      ∃ before part after said, contributions = before ++ part :: after ∧
        Mapping.at? trail part.fragment = some (text said) ∧
        IsUnresolved contributions.values (Placeholder.fillText part.values said) ∧
        ∀ later ∈ after, passesOver trail later.fragment = true) ∧
    ((∀ part ∈ contributions, passesOver trail part.fragment = true) →
      written = some (text stored)) := by
  have localsKeyed := builds.localsKeyed
  obtain rfl := builds.pair_eq
  intro written
  have nonempty : trail ≠ [] := by
    rintro rfl
    simp [Mapping.at?] at held
  have seeded : Mapping.at? trail ((template.fill contributions.values).merge locals) =
      some (text stored) := (at?_merge_eq_text localsKeyed trail _ stored).mpr (Or.inl held)
  have merged (word : Text) := at?_merge_eq_text (isKeyed_localFragment keyed) trail
    ((template.fill contributions.values).merge locals) word
  have said (word : Text) := at?_foldl_eq_text keyed trail [] word
  refine ⟨⟨?_, ?_⟩, fun silent => ?_⟩
  · rintro ⟨word, found, name, member, missing⟩
    rcases (merged word).mp found with added | ⟨-, kept⟩
    · rcases (said word).mp added with
        ⟨before, part, after, text, parts, at?_, rfl, silent⟩ | ⟨-, empty⟩
      · exact ⟨before, part, after, text, parts, at?_, ⟨name, member, missing⟩, silent⟩
      · obtain ⟨key, trail, rfl⟩ := List.exists_cons_of_ne_nil nonempty
        simp [Mapping.at?, Mapping.get?] at empty
    · obtain rfl : stored = word := by simpa [seeded] using kept
      simp [literal] at member
  · rintro ⟨before, part, after, text, parts, found, unresolved, silent⟩
    refine ⟨_, (merged _).mpr (Or.inl ((said _).mpr (Or.inl ?_))), unresolved⟩
    exact ⟨before, part, after, text, parts, found, rfl, silent⟩
  · exact (merged stored).mpr (Or.inr ⟨passesOver_localFragment keyed nonempty silent, seeded⟩)

/-- A contribution that says nothing at a literal leaves it. -/
theorem literal_kept_beside_contribution :
    let pair := pairFrom [smallContribution] [] [(.text "a".toList, text "real".toList)]
    Builds [smallContribution] (.ofText "app-config.yaml".toList)
      (.ofText "app-config.local.yaml".toList) (smallTree [] "a: real\n".toList) []
      [(.text "a".toList, text "real".toList)] pair ∧
      Mapping.at? [.text "a".toList] pair.locals = some (text "real".toList) := by
  intro pair
  have builds : Builds [smallContribution] (.ofText "app-config.yaml".toList)
      (.ofText "app-config.local.yaml".toList) (smallTree [] "a: real\n".toList) []
      [(.text "a".toList, text "real".toList)] pair :=
    builds_smallTree (by decide +kernel) (by decide +kernel) (by decide +kernel)
  have held : Mapping.at? [.text "a".toList] [(.text "a".toList, text "real".toList)] =
      some (text "real".toList) := rfl
  exact ⟨builds, (isUnresolved_iff builds (by decide) held (by decide)).2 (by decide)⟩

/-- A contribution that says an unresolved placeholder at a literal puts it there. -/
theorem literal_lost_to_contribution :
    let contributions : Contributions :=
      [⟨"x".toList, [(.text "a".toList, text (Placeholder.ofName "UNKNOWN".toList)),
        (.text "b".toList, text (Placeholder.ofName "KNOWN".toList))],
        [("KNOWN".toList, "v".toList)]⟩]
    let locals : Mapping := [(.text "a".toList, text "real".toList)]
    let pair := contributions.pairFrom [] locals
    Builds contributions (.ofText "app-config.yaml".toList)
      (.ofText "app-config.local.yaml".toList) (smallTree [] "a: real\n".toList) [] locals pair ∧
      Placeholder.namesInText "real".toList = [] ∧
      Mapping.at? [.text "a".toList] locals = some (text "real".toList) ∧
      Mapping.at? [.text "a".toList] pair.locals =
        some (text (Placeholder.ofName "UNKNOWN".toList)) ∧
      IsUnresolved contributions.values (Placeholder.ofName "UNKNOWN".toList) :=
  ⟨builds_smallTree (by decide +kernel) (by decide +kernel) (by decide +kernel), by decide, rfl,
    rfl, "UNKNOWN".toList, by decide, by decide⟩

end Contributions

end GuidedMigration.Config
