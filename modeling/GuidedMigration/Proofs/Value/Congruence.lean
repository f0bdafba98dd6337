/-
This file shows that alike values cannot be told apart: along a trail they hold alike values, merges
of alike values are alike, and so are alike values with placeholders filled in. In the other
direction a document can be compared trail by trail. At the end of each trail only the leaves have
to be compared, because the entries of a mapping stand at the end of longer trails.
-/
import GuidedMigration.Proofs.Value.Alike

namespace GuidedMigration

theorem Scalar.identity_eq_null {scalar : Scalar} : scalar.identity = .null ↔ scalar = .null := by
  cases scalar with
  | double number =>
    simp only [identity]
    split <;> simp
  | _ => simp [identity]

theorem Scalar.identity_eq_text {scalar : Scalar} {word : Text} :
    scalar.identity = .text word ↔ scalar = .text word := by
  cases scalar with
  | double number =>
    simp only [identity]
    split <;> simp
  | _ => simp [identity]

namespace Value

variable {left right : Value}

theorem isNull_iff {value : Value} : value.isNull = true ↔ value = null := by
  match value with
  | .scalar atom => cases atom <;> simp [isNull]
  | .list _ | .set _ | .map _ => simp [isNull]

/-- Nothing, the empty value, a mapping or a leaf is held. -/
theorem held_cases (held : Option Value) : held = none ∨ held = some null ∨
    (∃ entries, held = some (.map entries)) ∨ isLeaf? held = true := by
  cases held with
  | none => exact .inl rfl
  | some value =>
    cases value with
    | map entries => exact .inr (.inr (.inl ⟨entries, rfl⟩))
    | list _ => exact .inr (.inr (.inr rfl))
    | set _ => exact .inr (.inr (.inr rfl))
    | scalar atom =>
      cases atom with
      | null => exact .inr (.inl rfl)
      | _ => exact .inr (.inr (.inr rfl))

/-- A mapping merged over anything is a mapping. -/
theorem exists_overlaid_map (held : Option Value) (entries : Mapping) :
    ∃ merged, overlaid held (some (.map entries)) = some (.map merged) := by
  by_cases bare : ∀ base, held ≠ some (.map base)
  · exact ⟨entries, overlaid_map_of_bare bare entries⟩
  · obtain ⟨base, mapping⟩ := Classical.not_forall.mp bare
    obtain rfl := Classical.not_not.mp mapping
    exact ⟨_, overlaid_map base entries⟩

/-! ### What alike values have in common -/

theorem Alike.isNull (alike : Alike left right) : left.isNull = right.isNull := by
  cases alike with
  | @scalar first second same =>
    have null : first = .null ↔ second = .null := by
      simp only [Scalar.same, decide_eq_true_eq] at same
      rw [← Scalar.identity_eq_null, same, Scalar.identity_eq_null]
    cases first <;> cases second <;> simp_all [Value.isNull]
  | _ => rfl

theorem Alike.isLeaf (alike : Alike left right) : left.isLeaf = right.isLeaf := by
  have null := alike.isNull
  cases alike with
  | @scalar first second same =>
    cases first <;> cases second <;> simp_all [Value.isNull, Value.isLeaf]
  | _ => rfl

theorem Alike?.isSome {left right : Option Value} (alike : Alike? left right) :
    left.isSome = right.isSome := by
  cases left <;> cases right <;> simp_all [Alike?]

theorem Alike?.isLeaf? {left right : Option Value} (alike : Alike? left right) :
    isLeaf? left = isLeaf? right := by
  match left, right with
  | none, none => rfl
  | some _, some _ => exact Alike.isLeaf alike
  | none, some _ => exact alike.elim
  | some _, none => exact alike.elim

theorem Alike?.eq_none {right : Option Value} (alike : Alike? none right) : right = none := by
  cases right with
  | none => rfl
  | some value => exact alike.elim

theorem Alike?.eq_null {right : Option Value} (alike : Alike? (some null) right) :
    right = some null := by
  rcases held_cases right with rfl | null | ⟨entries, rfl⟩ | leaf
  · exact alike.elim
  · exact null
  · simpa [Value.isNull] using Alike.isNull alike
  · rw [← alike.isLeaf?] at leaf
    simp [Value.isLeaf?, Value.isLeaf] at leaf

theorem Alike?.eq_map {base : Mapping} {right : Option Value}
    (alike : Alike? (some (.map base)) right) :
    ∃ entries, right = some (.map entries) ∧ Alike (.map base) (.map entries) := by
  match right with
  | none => exact alike.elim
  | some value =>
    cases alike with
    | @map _ entries keys values => exact ⟨entries, rfl, .map keys values⟩

/-- What is alike to something that is no mapping is no mapping. -/
theorem Alike?.bare {left right : Option Value} (alike : Alike? left right)
    (bare : ∀ entries, left ≠ some (.map entries)) (entries : Mapping) :
    right ≠ some (.map entries) := by
  rintro rfl
  obtain ⟨base, rfl, -⟩ := alike.symm.eq_map
  exact bare base rfl

/-! ### Along trails -/

theorem Alike?.child {left right : Option Value} (alike : Alike? left right) (key : Scalar) :
    Alike? (child key left) (child key right) := by
  by_cases bare : ∀ entries, left ≠ some (.map entries)
  · rw [child_of_bare bare, child_of_bare (alike.bare bare)]
    trivial
  · obtain ⟨base, mapping⟩ := Classical.not_forall.mp bare
    obtain rfl := Classical.not_not.mp mapping
    obtain ⟨entries, rfl, inner⟩ := alike.eq_map
    exact alike_map.mp inner key

theorem Alike?.behind {left right : Option Value} (alike : Alike? left right) (trail : Trail) :
    Alike? (behind trail left) (behind trail right) := by
  induction trail generalizing left right with
  | nil => exact alike
  | cons key trail inductionHypothesis => exact inductionHypothesis (alike.child key)

theorem Alike?.blocks {left right : Option Value} (alike : Alike? left right) (trail : Trail) :
    blocks trail left = blocks trail right := by
  induction trail generalizing left right with
  | nil => rfl
  | cons key trail inductionHypothesis =>
    rw [Value.blocks, Value.blocks, alike.isLeaf?, inductionHypothesis (alike.child key)]

/-- Whether what is held at two places is alike as far as can be seen without a key: both are
mappings, or they are alike. -/
def AlikeHere (left right : Option Value) : Prop :=
  (∃ first second, left = some (.map first) ∧ right = some (.map second)) ∨ Alike? left right

/-- What looks alike along every trail is alike. -/
theorem alike?_of_here {left right : Option Value}
    (here : ∀ trail, AlikeHere (behind trail left) (behind trail right)) : Alike? left right := by
  rcases here [] with ⟨first, second, atLeft, atRight⟩ | alike
  · rw [behind_nil] at atLeft atRight
    have inner (key : Scalar) (trail : Trail) : AlikeHere (behind trail (Mapping.get? key first))
        (behind trail (Mapping.get? key second)) := by
      have longer := here (key :: trail)
      rwa [behind_cons, behind_cons, atLeft, atRight] at longer
    rw [atLeft, atRight]
    refine alike_map.mpr fun key => ?_
    match found : Mapping.get? key first with
    | none =>
      rcases inner key [] with ⟨entries, -, missing, -⟩ | alike
      · simp [found] at missing
      · rwa [behind_nil, behind_nil, found] at alike
    | some value => exact alike?_of_here (found ▸ inner key)
  · exact alike
termination_by sizeOf left
decreasing_by
  have smaller := Mapping.sizeOf_lt_of_get? found
  obtain rfl : left = some (.map first) := atLeft
  rw [Option.some.sizeOf_spec, Option.some.sizeOf_spec, map.sizeOf_spec]
  omega

theorem AlikeHere.of_alike? {left right : Option Value} (alike : Alike? left right) :
    AlikeHere left right := Or.inr alike

/-! ### Merging -/

/-- Values merged over alike ones are alike if they are themselves. -/
theorem Alike.mergeOver {first second : Value} (alike : Alike first second)
    {left right : Option Value} (bases : Alike? left right)
    (firstKeyed : first.isKeyed = true) (secondKeyed : second.isKeyed = true) :
    Alike (mergeOver left first) (mergeOver right second) := by
  induction alike generalizing left right with
  | list length places _ => simpa [Value.mergeOver] using Alike.list length places
  | set members => simpa [Value.mergeOver] using Alike.set members
  | @scalar first second same =>
    have empty : first = .null ↔ second = .null := by
      simp only [Scalar.same, decide_eq_true_eq] at same
      rw [← Scalar.identity_eq_null, same, Scalar.identity_eq_null]
    by_cases null : first = .null
    · obtain rfl := null
      obtain rfl := empty.mp rfl
      match left, right with
      | none, none => simpa [Value.mergeOver] using Alike.refl null
      | some _, some _ =>
        simp only [Value.mergeOver, Option.getD_some]
        exact bases
      | none, some _ => exact bases.elim
      | some _, none => exact bases.elim
    · have kept (old : Option Value) {atom : Scalar} (other : atom ≠ .null) :
          Value.mergeOver old (.scalar atom) = .scalar atom := by
        cases atom <;> simp_all [Value.mergeOver]
      rw [kept left null, kept right fun same => null (empty.mpr same)]
      exact .scalar same
  | @map first second keys values inductionHypothesis =>
    have entries : Alike (.map first) (.map second) := .map keys values
    have firstKeyed : Mapping.isKeyed first = true := by simpa [isKeyed] using firstKeyed
    have secondKeyed : Mapping.isKeyed second = true := by simpa [isKeyed] using secondKeyed
    by_cases bare : ∀ base, left ≠ some (.map base)
    · have merged : Value.mergeOver left (.map first) = .map first :=
        Option.some.inj (overlaid_map_of_bare bare first)
      have merged' : Value.mergeOver right (.map second) = .map second :=
        Option.some.inj (overlaid_map_of_bare (bases.bare bare) second)
      rwa [merged, merged']
    · obtain ⟨base, mapping⟩ := Classical.not_forall.mp bare
      obtain rfl := Classical.not_not.mp mapping
      obtain ⟨base', rfl, related⟩ := bases.eq_map
      simp only [Value.mergeOver]
      refine alike_map.mpr fun key => ?_
      rw [Mapping.get?_merge firstKeyed, Mapping.get?_merge secondKeyed]
      have held := alike_map.mp entries key
      have under := alike_map.mp related key
      match atFirst : Mapping.get? key first, atSecond : Mapping.get? key second with
      | none, none => exact under
      | some value, some value' =>
        exact inductionHypothesis key value value' atFirst atSecond under
          (Mapping.isKeyed_of_get? firstKeyed atFirst)
          (Mapping.isKeyed_of_get? secondKeyed atSecond)
      | none, some _ => simp [atFirst, atSecond, Alike?] at held
      | some _, none => simp [atFirst, atSecond, Alike?] at held

theorem Alike?.overlaid {old old' new new' : Option Value} (bases : Alike? old old')
    (alike : Alike? new new') (keyed : new.all isKeyed = true) (keyed' : new'.all isKeyed = true) :
    Alike? (overlaid old new) (overlaid old' new') := by
  match new, new' with
  | none, none => exact bases
  | some _, some _ => exact Alike.mergeOver alike bases keyed keyed'
  | none, some _ => exact alike.elim
  | some _, none => exact alike.elim

/-! ### Changing texts -/

theorem mapTextsList_eq_map (change : Text → Text) (items : List Value) :
    mapTextsList change items = items.map (mapTexts change) := by
  induction items with
  | nil => rfl
  | cons item rest inductionHypothesis => simp [mapTextsList, inductionHypothesis]

/-- Alike values stay alike when the same change is made to their texts. -/
theorem Alike.mapTexts {first second : Value} (alike : Alike first second)
    (change : Text → Text) : Alike (mapTexts change first) (mapTexts change second) := by
  induction alike with
  | @scalar first second same =>
    have text (word : Text) : first = .text word ↔ second = .text word := by
      simp only [Scalar.same, decide_eq_true_eq] at same
      rw [← Scalar.identity_eq_text, same, Scalar.identity_eq_text]
    cases first with
    | text word =>
      obtain rfl := (text word).mp rfl
      exact Alike.refl _
    | _ =>
      cases second with
      | text word => exact absurd ((text word).mpr rfl) (by simp)
      | _ => exact .scalar same
  | set members => exact .set members
  | @list first second length _ inductionHypothesis =>
    rw [Value.mapTexts, Value.mapTexts, mapTextsList_eq_map, mapTextsList_eq_map]
    refine .list (by simp [length]) fun place value other left right => ?_
    rw [List.getElem?_map, Option.map_eq_some_iff] at left right
    obtain ⟨value, left, rfl⟩ := left
    obtain ⟨other, right, rfl⟩ := right
    exact inductionHypothesis place value other left right
  | @map first second keys _ inductionHypothesis =>
    rw [Value.mapTexts, Value.mapTexts]
    refine .map (fun key => ?_) fun key value other left right => ?_
    · simpa [Mapping.has, get?_mapTextsEntries] using keys key
    · rw [get?_mapTextsEntries, Option.map_eq_some_iff] at left right
      obtain ⟨value, left, rfl⟩ := left
      obtain ⟨other, right, rfl⟩ := right
      exact inductionHypothesis key value other left right

theorem Alike?.mapTexts {left right : Option Value} (alike : Alike? left right)
    (change : Text → Text) :
    Alike? (left.map (mapTexts change)) (right.map (mapTexts change)) := by
  match left, right with
  | none, none => trivial
  | some _, some _ => exact Alike.mapTexts alike change
  | none, some _ => exact alike.elim
  | some _, none => exact alike.elim

end Value

/-! ### Documents -/

namespace Mapping

/-- Whether two documents are equal but for order and for the spelling of equal scalars. -/
def Alike (left right : Mapping) : Prop := Value.Alike (.map left) (.map right)

theorem Alike.refl (mapping : Mapping) : Alike mapping mapping := Value.Alike.refl _

theorem Alike.symm {left right : Mapping} (alike : Alike left right) : Alike right left :=
  Value.Alike.symm alike

theorem Alike.trans {left middle right : Mapping} (first : Alike left middle)
    (second : Alike middle right) : Alike left right := Value.Alike.trans first second

/-- On proper documents the test decides whether they are alike. -/
theorem agrees_iff_alike {left right : Mapping} (leftProper : isProper left = true)
    (rightProper : isProper right = true) :
    Value.agrees (.map left) (.map right) = true ↔ Alike left right :=
  Value.agrees_iff_alike (by rwa [Value.isProper]) (by rwa [Value.isProper])

theorem Alike.at? {left right : Mapping} (alike : Alike left right) (trail : Trail) :
    Value.Alike? (at? trail left) (at? trail right) := by
  have same : Value.Alike? (some (.map left)) (some (.map right)) := alike
  exact same.behind trail

theorem Alike.blocks {left right : Mapping} (alike : Alike left right) (trail : Trail) :
    blocks trail left = blocks trail right := by
  have same : Value.Alike? (some (.map left)) (some (.map right)) := alike
  exact same.blocks trail

/-- Documents that look alike along every trail are alike. -/
theorem alike_of_here {left right : Mapping}
    (here : ∀ trail, Value.AlikeHere (Mapping.at? trail left) (Mapping.at? trail right)) :
    Alike left right := by
  have same : Value.Alike? (some (.map left)) (some (.map right)) := Value.alike?_of_here here
  exact same

/-- Merges of alike documents are alike. -/
theorem Alike.merge {base base' fragment fragment' : Mapping} (bases : Alike base base')
    (fragments : Alike fragment fragment') (keyed : isKeyed fragment = true)
    (keyed' : isKeyed fragment' = true) :
    Alike (Mapping.merge base fragment) (Mapping.merge base' fragment') := by
  have held : Value.Alike? (some (.map base)) (some (.map base')) := bases
  have merged := Value.Alike.mergeOver fragments held (by simpa [Value.isKeyed] using keyed)
    (by simpa [Value.isKeyed] using keyed')
  simp only [Value.mergeOver] at merged
  exact merged

/-- The same fragment merged over alike documents. -/
theorem Alike.merge_left {base base' : Mapping} (bases : Alike base base') {fragment : Mapping}
    (keyed : isKeyed fragment = true) :
    Alike (Mapping.merge base fragment) (Mapping.merge base' fragment) :=
  bases.merge (.refl fragment) keyed keyed

/-- Alike documents stay alike when the same placeholders are filled in. -/
theorem Alike.fill {left right : Mapping} (alike : Alike left right)
    (values : Placeholder.Values) : Alike (left.fill values) (right.fill values) := by
  have changed := Value.Alike.mapTexts alike (Placeholder.fillText values)
  simp only [Value.mapTexts] at changed
  exact changed

/-- The same fragments merged one after the other over alike documents. -/
theorem Alike.foldl_merge {base base' : Mapping} (bases : Alike base base')
    {fragments : List Mapping} (keyed : ∀ fragment ∈ fragments, isKeyed fragment = true) :
    Alike (fragments.foldl Mapping.merge base) (fragments.foldl Mapping.merge base') := by
  induction fragments generalizing base base' with
  | nil => exact bases
  | cons fragment rest inductionHypothesis =>
    exact inductionHypothesis (bases.merge_left (keyed fragment List.mem_cons_self))
      fun other member => keyed other (List.mem_cons_of_mem _ member)

end Mapping

end GuidedMigration
