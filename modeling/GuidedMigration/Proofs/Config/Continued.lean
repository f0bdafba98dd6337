/-
This file compares a local document that was written early and was merged with what came later with
one that is made in the end, all at once. The early one is the template of that time, filled in with
the values of that time. They differ in two cases. What the early template held may be gone from the
later one, where a fragment put a leaf in place of a mapping and another one a mapping in place of
the leaf; in the local document it is still there. And a leaf of the template that no fragment says
anything about may ask for a value that only a later contribution knows; in the local document it
was left open, and it stays so. `Continues` leaves both cases out, and is all that is needed.
-/
import GuidedMigration.Proofs.Config.Filled
import GuidedMigration.Proofs.Config.Parity
import Mathlib.Data.List.Induction

namespace GuidedMigration

open Value

/-! ### Filling in and absorbing -/

theorem Value.isLeaf?_map_fill (values : Placeholder.Values) (held : Option Value) :
    isLeaf? (held.map (Value.fill values)) = isLeaf? held := by
  cases held with
  | none => rfl
  | some value =>
    show (mapTexts (Placeholder.fillText values) value).isLeaf = value.isLeaf
    rw [← isLeaf_shape, shape_mapTexts, isLeaf_shape]

theorem Value.fill_map (values : Placeholder.Values) (entries : Mapping) :
    Value.fill values (.map entries) = .map (Mapping.fill values entries) := by
  rw [Value.fill, mapTexts, Mapping.fill]

theorem Mapping.Absorbs.fill {document fragment : Mapping} (absorbs : document.Absorbs fragment)
    (values : Placeholder.Values) : Absorbs (document.fill values) (fragment.fill values) := by
  intro trail
  have said := absorbs trail
  rw [at?_fill, at?_fill]
  rcases held_cases (Mapping.at? trail fragment) with missing | empty | ⟨entries, mapping⟩ | leaf
  · rw [missing]
    trivial
  · rw [empty] at said ⊢
    show ((Mapping.at? trail document).map (Value.fill values)).isSome = true
    rw [Option.isSome_map]
    exact said
  · rw [mapping] at said ⊢
    obtain ⟨base, held⟩ := said
    rw [held, Option.map_some, Option.map_some, Value.fill_map, Value.fill_map]
    exact ⟨_, rfl⟩
  · rw [says_of_isLeaf leaf] at said
    rw [says_of_isLeaf (by rwa [Value.isLeaf?_map_fill])]
    exact said.mapTexts (Placeholder.fillText values)

namespace Config

theorem passesOver_iff {trail : Trail} {fragment : Mapping} : passesOver trail fragment = true ↔
    Mapping.blocks trail fragment = false ∧
      (Mapping.at? trail fragment = none ∨ Mapping.at? trail fragment = some null) := by
  rw [passesOver, Bool.and_eq_true, Bool.not_eq_true']
  refine and_congr_right fun _ => ?_
  cases held : Mapping.at? trail fragment with
  | none => simp
  | some value => simp [isNull_iff]

/-- A fragment leaves alone what stands at the end of a trail, or puts a leaf there or on the way,
or has a mapping there. -/
theorem passesOver_cases (trail : Trail) (fragment : Mapping) :
    passesOver trail fragment = true ∨ Mapping.blocks trail fragment = true ∨
      Mapping.blocks trail fragment = false ∧
        ((∃ entries, Mapping.at? trail fragment = some (.map entries)) ∨
          isLeaf? (Mapping.at? trail fragment) = true) := by
  rw [passesOver_iff]
  cases Mapping.blocks trail fragment with
  | true => exact .inr (.inl rfl)
  | false =>
    rcases held_cases (Mapping.at? trail fragment) with missing | empty | mapping | leaf
    · exact .inl ⟨rfl, .inl missing⟩
    · exact .inl ⟨rfl, .inr empty⟩
    · exact .inr (.inr ⟨rfl, .inl mapping⟩)
    · exact .inr (.inr ⟨rfl, .inr leaf⟩)

/-- What is silent after a merge was so before, on both sides. -/
theorem silent_of_overlaid {old new : Option Value}
    (silent : overlaid old new = none ∨ overlaid old new = some null) :
    (old = none ∨ old = some null) ∧ (new = none ∨ new = some null) := by
  rcases held_cases new with rfl | rfl | ⟨entries, rfl⟩ | leaf
  · exact ⟨by simpa using silent, .inl rfl⟩
  · rw [overlaid_null] at silent
    cases old with
    | none => exact ⟨.inl rfl, .inr rfl⟩
    | some value => exact ⟨by simpa using silent, .inr rfl⟩
  · obtain ⟨merged, mapped⟩ := exists_overlaid_map old entries
    simp [mapped] at silent
  · rw [overlaid_of_isLeaf leaf] at silent
    rcases silent with rfl | rfl <;> simp [isLeaf?, isLeaf] at leaf

/-- Over what is there, what is silent changes nothing. -/
theorem overlaid_of_silent {value : Value} {new : Option Value}
    (silent : new = none ∨ new = some null) : overlaid (some value) new = some value := by
  rcases silent with rfl | rfl
  · rfl
  · rw [overlaid_null, Option.getD_some]

/-! ### What becomes of a template -/

/-- What has become of an early template once fragments were merged into it: where the fragments
leave alone what stands at the end of a trail, that is what the early template held, or what they
say themselves. -/
structure Grew (early late fragment : Mapping) : Prop where
  absorbs : late.Absorbs fragment
  kept : ∀ trail, passesOver trail fragment = true →
    Mapping.at? trail late = Mapping.at? trail early ∨
      Mapping.at? trail late = Mapping.at? trail fragment

/-- Where the late template holds just what the fragments say, which is next to nothing, that is the
empty value. -/
theorem null_of_silent {late fragment : Mapping} {trail : Trail} {value : Value}
    (untouched : passesOver trail fragment = true) (held : Mapping.at? trail late = some value)
    (silent : Mapping.at? trail late = Mapping.at? trail fragment) :
    Mapping.at? trail fragment = some null := by
  refine (passesOver_iff.mp untouched).2.resolve_left fun missing => ?_
  rw [held, missing] at silent
  simp at silent

namespace Grew

variable {early late fragment next : Mapping}

/-- Where the late template holds nothing, the fragments are silent altogether. -/
theorem missing (grew : Grew early late fragment) {trail : Trail}
    (untouched : passesOver trail fragment = true) (missing : Mapping.at? trail late = none) :
    Mapping.at? trail fragment = none := by
  have said := grew.absorbs trail
  rw [missing] at said
  refine (passesOver_iff.mp untouched).2.resolve_right fun empty => ?_
  rw [empty] at said
  exact Bool.false_ne_true said

/-- One more fragment. -/
theorem merge (grew : Grew early late fragment) (keyed : Mapping.isKeyed next = true)
    (fragmentKeyed : Mapping.isKeyed fragment = true)
    (absorbs : (late.merge next).Absorbs (fragment.merge next)) :
    Grew early (late.merge next) (fragment.merge next) := by
  refine ⟨absorbs, fun trail untouched => ?_⟩
  obtain ⟨mergedOpen, silent⟩ := passesOver_iff.mp untouched
  have nextOpen : Mapping.blocks trail next = false := by
    rw [Bool.eq_false_iff]
    intro blocked
    rw [(Mapping.absorbs_merge keyed fragmentKeyed).blocks blocked] at mergedOpen
    simp at mergedOpen
  have merged (base : Mapping) : Mapping.at? trail (base.merge next) =
      overlaid (Mapping.at? trail base) (Mapping.at? trail next) := by
    rw [Mapping.at?_merge keyed, if_neg (by simp [nextOpen])]
  rw [merged] at silent
  obtain ⟨silent, nextSilent⟩ := silent_of_overlaid silent
  rw [merged, merged]
  cases blocked : Mapping.blocks trail fragment with
  | true =>
    -- a leaf of the fragments that was on the way was a leaf of the template, too
    rw [Mapping.at?_of_blocks blocked, Mapping.at?_of_blocks (grew.absorbs.blocks blocked)]
    exact .inr rfl
  | false =>
    have before : passesOver trail fragment = true := passesOver_iff.mpr ⟨blocked, silent⟩
    rcases grew.kept trail before with same | same
    · cases held : Mapping.at? trail late with
      | none => exact .inr (by rw [grew.missing before held])
      | some value =>
        rw [overlaid_of_silent nextSilent]
        exact .inl (by rw [← same, held])
    · exact .inr (by rw [same])

/-- A leaf of the late template that is on a way which the fragments leave open was there before. -/
theorem blocks (grew : Grew early late fragment) {trail : Trail}
    (untouched : passesOver trail fragment = true)
    (blocked : Mapping.blocks trail late = true) : Mapping.blocks trail early = true := by
  obtain ⟨start, rest, rfl, below, leaf⟩ := blocks_iff.mp blocked
  rw [← Mapping.at?] at leaf
  obtain ⟨open', -⟩ := passesOver_iff.mp untouched
  have startOpen : Mapping.blocks start fragment = false := by
    rw [Mapping.blocks, blocks_append, Bool.or_eq_false_iff] at open'
    exact open'.1
  refine Mapping.blocks_of_isLeaf ?_ below
  have said := grew.absorbs start
  rcases held_cases (Mapping.at? start fragment) with missing | empty | ⟨entries, mapping⟩ | leaf'
  · rcases grew.kept start (passesOver_iff.mpr ⟨startOpen, .inl missing⟩) with same | same
    · rwa [← same]
    · rw [same, missing] at leaf
      simp [isLeaf?] at leaf
  · rcases grew.kept start (passesOver_iff.mpr ⟨startOpen, .inr empty⟩) with same | same
    · rwa [← same]
    · rw [same, empty] at leaf
      simp [isLeaf?, isLeaf] at leaf
  · rw [mapping] at said
    obtain ⟨base, held⟩ := said
    rw [held] at leaf
    simp [isLeaf?, isLeaf] at leaf
  · rw [Mapping.blocks_of_isLeaf leaf' below] at open'
    simp at open'

/-- What a late template that covers the early one does not hold, that did not hold either. -/
theorem missing_of_covers (grew : Grew early late fragment) (covers : late.Covers early)
    {trail : Trail} (untouched : passesOver trail fragment = true)
    (missing : Mapping.at? trail late = none) : Mapping.at? trail early = none := by
  cases before : Mapping.at? trail early with
  | none => rfl
  | some value =>
    have open' : Mapping.blocks trail late = false := by
      rw [Bool.eq_false_iff]
      intro blocked
      have gone := Mapping.at?_of_blocks (grew.blocks untouched blocked)
      simp [before] at gone
    exact absurd missing (covers trail open' (by rw [before]; rfl)).1

end Grew

/-! ### What becomes of the local document -/

/-- The late template filled in, with the early one, filled in as it was then, merged over it and
the fragments over both. -/
def refilled (early late fragment : Mapping) (known values : Placeholder.Values) : Mapping :=
  ((late.fill values).merge (early.fill known)).merge (fragment.fill values)

section

variable {early late fragment : Mapping} {known values : Placeholder.Values}

theorem at?_refilled_of_passesOver (earlyKeyed : Mapping.isKeyed early = true)
    (keyed : Mapping.isKeyed fragment = true) {trail : Trail}
    (untouched : passesOver trail fragment = true) :
    Mapping.at? trail (refilled early late fragment known values) =
      overlaid (if Mapping.blocks trail early then none else
        overlaid ((Mapping.at? trail late).map (Value.fill values))
          ((Mapping.at? trail early).map (Value.fill known))) (Mapping.at? trail fragment) := by
  obtain ⟨open', silent⟩ := passesOver_iff.mp untouched
  have same : (Mapping.at? trail fragment).map (Value.fill values) =
      Mapping.at? trail fragment := by
    rcases silent with missing | empty
    · rw [missing]
      rfl
    · rw [empty]
      rfl
  rw [refilled, Mapping.at?_merge (by rw [Mapping.isKeyed_fill, keyed]),
    Mapping.blocks_of_shape (Mapping.shape_fill values fragment), if_neg (by simp [open']),
    Mapping.at?_merge (by rw [Mapping.isKeyed_fill, earlyKeyed]),
    Mapping.blocks_of_shape (Mapping.shape_fill known early), Mapping.at?_fill, Mapping.at?_fill,
    Mapping.at?_fill, same]

/-- What the early template held that the late one does not hold shows through. -/
theorem at?_refilled_of_missing (earlyKeyed : Mapping.isKeyed early = true)
    (keyed : Mapping.isKeyed fragment = true) (grew : Grew early late fragment) {trail : Trail}
    (untouched : passesOver trail fragment = true) (missing : Mapping.at? trail late = none) :
    Mapping.at? trail (refilled early late fragment known values) =
      (Mapping.at? trail early).map (Value.fill known) := by
  rw [at?_refilled_of_passesOver earlyKeyed keyed untouched, grew.missing untouched missing,
    missing, overlaid_none, Option.map_none, none_overlaid]
  split
  · rename_i blocked
    rw [Mapping.at?_of_blocks blocked]
    rfl
  · rfl

/-- What the early template held and the late one still holds is filled in as it was early. -/
theorem at?_refilled_of_kept (earlyKeyed : Mapping.isKeyed early = true)
    (keyed : Mapping.isKeyed fragment = true) {trail : Trail} {value : Value}
    (untouched : passesOver trail fragment = true)
    (held : Mapping.at? trail late = some value) (before : Mapping.at? trail early = some value) :
    Mapping.at? trail (refilled early late fragment known values) =
      overlaid (some (value.fill values)) (some (value.fill known)) := by
  have open' : Mapping.blocks trail early = false := Mapping.blocks_of_isSome (by simp [before])
  rw [at?_refilled_of_passesOver earlyKeyed keyed untouched, if_neg (by simp [open']), held, before,
    Option.map_some, Option.map_some]
  exact overlaid_of_silent (passesOver_iff.mp untouched).2

/-- Where only the empty value is left, what the early template held shows through. -/
theorem at?_refilled_of_null (earlyKeyed : Mapping.isKeyed early = true)
    (keyed : Mapping.isKeyed fragment = true) {trail : Trail}
    (untouched : passesOver trail fragment = true) (held : Mapping.at? trail late = some null)
    (empty : Mapping.at? trail fragment = some null) :
    Mapping.at? trail (refilled early late fragment known values) =
      some (((Mapping.at? trail early).map (Value.fill known)).getD null) := by
  rw [at?_refilled_of_passesOver earlyKeyed keyed untouched, held, empty, overlaid_null]
  refine congrArg some ?_
  split
  · rename_i blocked
    rw [Mapping.at?_of_blocks blocked]
    rfl
  · rcases held_cases ((Mapping.at? trail early).map (Value.fill known)) with
      missing | empty | ⟨entries, mapping⟩ | leaf
    · rw [missing]
      rfl
    · rw [empty]
      rfl
    · rw [mapping, Option.map_some, overlaid_map_of_bare (by rintro base ⟨⟩)]
    · rw [overlaid_of_isLeaf leaf]

/-- What the late template holds where the fragments do not leave it alone, the local document holds
as well. -/
theorem alikeHere_refilled (keyed : Mapping.isKeyed fragment = true)
    (absorbs : late.Absorbs fragment) {trail : Trail}
    (touched : passesOver trail fragment = false) :
    AlikeHere (Mapping.at? trail (refilled early late fragment known values))
      (Mapping.at? trail (late.fill values)) := by
  have said := absorbs trail
  rw [refilled, Mapping.at?_merge (by rw [Mapping.isKeyed_fill, keyed]),
    Mapping.blocks_of_shape (Mapping.shape_fill values fragment), Mapping.at?_fill,
    Mapping.at?_fill]
  rcases passesOver_cases trail fragment with untouched | blocked |
    ⟨open', ⟨entries, mapping⟩ | leaf⟩
  · rw [untouched] at touched
    simp at touched
  · rw [if_pos blocked, Mapping.at?_of_blocks (absorbs.blocks blocked)]
    exact .of_alike? (.refl none)
  · rw [mapping] at said ⊢
    obtain ⟨base, held⟩ := said
    rw [if_neg (by simp [open']), held, Option.map_some, Option.map_some, Value.fill_map,
      Value.fill_map]
    obtain ⟨merged, mapped⟩ := exists_overlaid_map
      (Mapping.at? trail ((late.fill values).merge (early.fill known)))
      (Mapping.fill values entries)
    exact .inl ⟨merged, _, mapped, rfl⟩
  · rw [says_of_isLeaf leaf] at said
    rw [if_neg (by simp [open']), overlaid_of_isLeaf (by rwa [Value.isLeaf?_map_fill])]
    exact .of_alike? (said.symm.mapTexts (Placeholder.fillText values))

/-- Where the fragments do not leave the late template alone, it holds what they put there. -/
theorem holds_of_not_passesOver (absorbs : late.Absorbs fragment) {trail : Trail}
    (touched : passesOver trail fragment = false) (open' : Mapping.blocks trail late = false) :
    Mapping.at? trail late ≠ none ∧ Mapping.at? trail late ≠ some null := by
  have said := absorbs trail
  rcases passesOver_cases trail fragment with untouched | blocked |
    ⟨-, ⟨entries, mapping⟩ | leaf⟩
  · rw [untouched] at touched
    simp at touched
  · rw [absorbs.blocks blocked] at open'
    simp at open'
  · rw [mapping] at said
    obtain ⟨base, held⟩ := said
    simp [held]
  · rw [says_of_isLeaf leaf] at said
    rw [← said.isLeaf?] at leaf
    refine ⟨fun missing => ?_, fun empty => ?_⟩
    · simp [missing, isLeaf?] at leaf
    · simp [empty, isLeaf?, Value.isLeaf] at leaf

end

/-- Whether a leaf of the early template that no fragment says anything about is filled in late as
it was early. -/
def FillsAlike (early fragment : Mapping) (known values : Placeholder.Values) : Prop :=
  ∀ trail leaf, Mapping.at? trail early = some leaf → leaf.isLeaf = true →
    passesOver trail fragment = true → Alike (leaf.fill known) (leaf.fill values)

section

variable {early late fragment : Mapping} {known values : Placeholder.Values}
  (earlyKeyed : Mapping.isKeyed early = true) (keyed : Mapping.isKeyed fragment = true)
  (grew : Grew early late fragment)

include earlyKeyed keyed grew

theorem covers_of_refilled
    (alike : (refilled early late fragment known values).Alike (late.fill values)) :
    late.Covers early := by
  intro trail open' present
  cases untouched : passesOver trail fragment with
  | false =>
    obtain ⟨held, full⟩ := holds_of_not_passesOver grew.absorbs untouched open'
    exact ⟨held, fun empty => absurd empty full⟩
  | true =>
    have seen := alike.at? trail
    rw [Mapping.at?_fill] at seen
    obtain ⟨old, before⟩ := Option.isSome_iff_exists.mp present
    cases held : Mapping.at? trail late with
    | none =>
      rw [at?_refilled_of_missing earlyKeyed keyed grew untouched held, held, before] at seen
      exact seen.elim
    | some value =>
      refine ⟨by simp, fun empty => ?_⟩
      obtain rfl := Option.some.inj empty
      rcases grew.kept trail untouched with kept | silent
      · rw [← kept, held]
      · rw [at?_refilled_of_null earlyKeyed keyed untouched held (by rw [← silent, held]), held,
          before, Option.map_some, Option.getD_some] at seen
        have filled := Option.some.inj seen.symm.eq_null
        rw [before, ← isNull_iff.mp ((isNull_fill known old).symm.trans (isNull_iff.mpr filled))]

theorem fillsAlike_of_refilled
    (alike : (refilled early late fragment known values).Alike (late.fill values)) :
    FillsAlike early fragment known values := by
  intro trail leaf before isLeaf untouched
  have seen := alike.at? trail
  rw [Mapping.at?_fill] at seen
  have leaf' : isLeaf? (some (leaf.fill known)) = true :=
    (isLeaf?_map_fill known (some leaf)).trans isLeaf
  cases held : Mapping.at? trail late with
  | none =>
    rw [at?_refilled_of_missing earlyKeyed keyed grew untouched held, held, before] at seen
    exact seen.elim
  | some value =>
    rcases grew.kept trail untouched with kept | silent
    · obtain rfl : value = leaf := Option.some.inj (by rw [← held, kept, before])
      rwa [at?_refilled_of_kept earlyKeyed keyed untouched held before, held,
        overlaid_of_isLeaf leaf'] at seen
    · have empty := null_of_silent untouched held silent
      rw [held] at silent
      rw [at?_refilled_of_null earlyKeyed keyed untouched (held.trans (silent.trans empty))
        empty, before, Option.map_some, Option.getD_some, held, silent.trans empty] at seen
      rw [seen.isLeaf?] at leaf'
      exact absurd leaf' Bool.false_ne_true

theorem alikeHere_refilled_of_passesOver (covers : late.Covers early)
    (fills : FillsAlike early fragment known values) {trail : Trail}
    (untouched : passesOver trail fragment = true) :
    AlikeHere (Mapping.at? trail (refilled early late fragment known values))
      (Mapping.at? trail (late.fill values)) := by
  rw [Mapping.at?_fill]
  cases held : Mapping.at? trail late with
  | none =>
    rw [at?_refilled_of_missing earlyKeyed keyed grew untouched held,
      grew.missing_of_covers covers untouched held]
    exact .of_alike? (.refl none)
  | some value =>
    rcases grew.kept trail untouched with kept | silent
    · rw [held] at kept
      rw [at?_refilled_of_kept earlyKeyed keyed untouched held kept.symm, Option.map_some]
      rcases held_cases (some value) with missing | empty | ⟨entries, mapping⟩ | leaf
      · simp at missing
      · obtain rfl := Option.some.inj empty
        exact .of_alike? (.refl _)
      · obtain rfl := Option.some.inj mapping
        rw [Value.fill_map, Value.fill_map, overlaid_map]
        exact .inl ⟨_, _, rfl, rfl⟩
      · rw [overlaid_of_isLeaf (show isLeaf? (some (value.fill known)) = true from
          (isLeaf?_map_fill known (some value)).trans leaf)]
        exact .of_alike? (fills trail value kept.symm leaf untouched)
    · have empty := null_of_silent untouched held silent
      rw [← silent, held] at empty
      obtain rfl := Option.some.inj empty
      rw [at?_refilled_of_null earlyKeyed keyed untouched held (by rw [← silent, held])]
      have nothing : ((Mapping.at? trail early).map (Value.fill known)).getD null = null := by
        cases old : Mapping.at? trail early with
        | none => rfl
        | some value =>
          have open' : Mapping.blocks trail late = false :=
            Mapping.blocks_of_isSome (by rw [held]; rfl)
          have before := (covers trail open' (by rw [old]; rfl)).2 held
          rw [old] at before
          rw [Option.some.inj before]
          rfl
      rw [nothing]
      exact .of_alike? (.refl _)

/-- A local document that was written early comes to the same as one that is made late exactly if
the late template covers the early one and its leaves are filled in alike. -/
theorem refilled_alike_iff (known values : Placeholder.Values) :
    (refilled early late fragment known values).Alike (late.fill values) ↔
      late.Covers early ∧ FillsAlike early fragment known values := by
  refine ⟨fun alike => ⟨covers_of_refilled earlyKeyed keyed grew alike,
    fillsAlike_of_refilled earlyKeyed keyed grew alike⟩, fun ⟨covers, fills⟩ => ?_⟩
  refine Mapping.alike_of_here fun trail => ?_
  cases untouched : passesOver trail fragment with
  | false => exact alikeHere_refilled keyed grew.absorbs untouched
  | true => exact alikeHere_refilled_of_passesOver earlyKeyed keyed grew covers fills untouched

end

/-! ### Contributions that have come in since -/

namespace Contributions

variable {base template locals : Mapping} {done next : Contributions} {values : Placeholder.Values}

theorem absorbs_templateFragment {contributions : Contributions}
    (keyed : ∀ fragment ∈ contributions.fragments, Mapping.isKeyed fragment = true)
    (baseKeyed : Mapping.isKeyed base = true) :
    (contributions.mergedInto base).Absorbs contributions.templateFragment := by
  rw [templateFragment_eq]
  exact Mapping.absorbs_foldl keyed baseKeyed

/-- What becomes of a template when more is contributed. -/
theorem grew_mergedInto (baseKeyed : Mapping.isKeyed base = true) (new : Contributions)
    (keyed : ∀ fragment ∈ fragments (done ++ new), Mapping.isKeyed fragment = true) :
    Grew (done.mergedInto base) (mergedInto base (done ++ new))
      (templateFragment (done ++ new)) := by
  induction new using List.reverseRecOn with
  | nil =>
    rw [List.append_nil] at keyed ⊢
    exact ⟨absorbs_templateFragment keyed baseKeyed, fun _ _ => .inl rfl⟩
  | append_singleton new part inductionHypothesis =>
    have absorbs := absorbs_templateFragment keyed baseKeyed
    rw [← List.append_assoc] at keyed absorbs ⊢
    have earlier : ∀ fragment ∈ fragments (done ++ new), Mapping.isKeyed fragment = true :=
      fun fragment member => keyed fragment (by
        rw [fragments, List.map_append]
        exact List.mem_append_left _ member)
    have partKeyed : Mapping.isKeyed part.fragment = true :=
      keyed _ (List.mem_map_of_mem (List.mem_append_right _ List.mem_cons_self))
    have fragmentKeyed : Mapping.isKeyed (templateFragment (done ++ new)) = true :=
      isKeyed_templateFragment fun part member => earlier _ (List.mem_map_of_mem member)
    have grownTemplate : mergedInto base (done ++ new ++ [part]) =
        (mergedInto base (done ++ new)).merge part.fragment := by
      rw [mergedInto_append]
      rfl
    have grownFragment : templateFragment (done ++ new ++ [part]) =
        (templateFragment (done ++ new)).merge part.fragment := by
      rw [templateFragment_eq, templateFragment_eq, mergedInto_append]
      rfl
    rw [grownTemplate, grownFragment] at absorbs ⊢
    exact (inductionHypothesis earlier).merge partKeyed fragmentKeyed absorbs

/-- Whether a local document that was written for some contributions can be continued with more:
what was in the template then is in it still, and its leaves that no fragment says anything about
are filled in as they were. -/
structure Continues (base : Mapping) (done next : Contributions) : Prop where
  covers : (next.mergedInto base).Covers (done.mergedInto base)
  fills : FillsAlike (done.mergedInto base) next.templateFragment done.values next.values

/-- Whether a pair is what contributions make of a template where there was no local document. -/
structure IsFilled (base : Mapping) (contributions : Contributions) (pair : Pair) : Prop where
  template : pair.template.Alike (contributions.mergedInto base)
  locals : pair.locals.Alike ((contributions.mergedInto base).fill contributions.values)

section

variable {contributions : Contributions} (distinct : (values.map Prod.fst).Nodup)
  (drawn : contributions.AreDrawnFrom values)
  (keyed : ∀ fragment ∈ contributions.fragments, Mapping.isKeyed fragment = true)
  (baseKeyed : Mapping.isKeyed base = true) (templateKeyed : Mapping.isKeyed template = true)
  (templateAlike : template.Alike (contributions.mergedInto base))

include keyed baseKeyed templateAlike

/-- A template into which the fragments were merged stays when they are merged in at once. -/
theorem merge_templateFragment_alike :
    (template.merge contributions.templateFragment).Alike (contributions.mergedInto base) := by
  have fragmentKeyed : Mapping.isKeyed contributions.templateFragment = true :=
    isKeyed_templateFragment fun part member => keyed _ (List.mem_map_of_mem member)
  exact (templateAlike.merge_left fragmentKeyed).trans
    ((Mapping.alike_merge_iff fragmentKeyed).mpr (absorbs_templateFragment keyed baseKeyed))

include templateKeyed

/-- With a local document that is as it is to be, so is the template. -/
theorem isFilled_of_locals (localsKeyed : Mapping.isKeyed locals = true)
    (localsAlike : (contributions.pairFrom template locals).locals.Alike
      ((contributions.mergedInto base).fill contributions.values)) :
    IsFilled base contributions (contributions.pairFrom template locals) := by
  have alike := merge_templateFragment_alike keyed baseKeyed templateAlike
  have nothing : carried (template.merge contributions.templateFragment)
      (contributions.pairFrom template locals).locals = [] :=
    carried_of_alike_fill (isKeyed_locals templateKeyed localsKeyed fun part member =>
      keyed _ (List.mem_map_of_mem member))
      (localsAlike.trans (alike.symm.fill contributions.values))
  refine ⟨?_, localsAlike⟩
  show ((template.merge contributions.templateFragment).merge (carried _
    (contributions.pairFrom template locals).locals)).Alike _
  rwa [nothing, Mapping.merge]

include distinct drawn

/-- Without a local document the pair is what it is to be. -/
theorem isFilled_of_nil : IsFilled base contributions (contributions.pairFrom template []) := by
  have alike := merge_templateFragment_alike keyed baseKeyed templateAlike
  rw [pairFrom_nil distinct drawn (fun part member => keyed _ (List.mem_map_of_mem member))
    templateKeyed]
  exact ⟨alike, alike.fill contributions.values⟩

end

/-- An earlier local document comes to what it is to be exactly if it can be continued. -/
theorem locals_iff_continues (distinct : (values.map Prod.fst).Nodup)
    (drawn : next.AreDrawnFrom values) (earlier : done <+: next)
    (keyed : ∀ fragment ∈ next.fragments, Mapping.isKeyed fragment = true)
    (baseKeyed : Mapping.isKeyed base = true)
    (templateAlike : template.Alike (next.mergedInto base))
    (localsKeyed : Mapping.isKeyed locals = true)
    (localsAlike : locals.Alike ((done.mergedInto base).fill done.values)) :
    (next.pairFrom template locals).locals.Alike ((next.mergedInto base).fill next.values) ↔
      Continues base done next := by
  obtain ⟨new, rfl⟩ := earlier
  have earlyKeyed : Mapping.isKeyed (done.mergedInto base) = true :=
    Mapping.isKeyed_foldl baseKeyed fun fragment member => keyed fragment (by
      rw [fragments, List.map_append]
      exact List.mem_append_left _ member)
  have fragmentKeyed : Mapping.isKeyed (templateFragment (done ++ new)) = true :=
    isKeyed_templateFragment fun part member => keyed _ (List.mem_map_of_mem member)
  have filledKeyed : Mapping.isKeyed (localFragment (done ++ new)) = true :=
    isKeyed_localFragment fun part member => keyed _ (List.mem_map_of_mem member)
  have same : (pairFrom (done ++ new) template locals).locals.Alike
      (refilled (done.mergedInto base) (mergedInto base (done ++ new))
        (templateFragment (done ++ new)) done.values (Contributions.values (done ++ new))) := by
    rw [refilled, ← localFragment_eq_fill distinct drawn]
    exact ((templateAlike.fill _).merge localsAlike localsKeyed
      (by rw [Mapping.isKeyed_fill, earlyKeyed])).merge_left filledKeyed
  have refilledIff := refilled_alike_iff earlyKeyed fragmentKeyed
    (grew_mergedInto baseKeyed new keyed) done.values (Contributions.values (done ++ new))
  exact ⟨fun alike => have both := refilledIff.mp (same.symm.trans alike); ⟨both.1, both.2⟩,
    fun continued => same.trans (refilledIff.mpr ⟨continued.covers, continued.fills⟩)⟩

/-- Whether a local document can be continued is seen by continuing it. -/
theorem continues_iff_agrees (distinct : (values.map Prod.fst).Nodup)
    (drawn : next.AreDrawnFrom values) (earlier : done <+: next) (proper : next.AreProper)
    (baseProper : Mapping.isProper base = true) :
    Continues base done next ↔
      Value.agrees (.map (next.pairFrom (next.mergedInto base)
          ((done.mergedInto base).fill done.values)).locals)
        (.map ((next.mergedInto base).fill next.values)) = true := by
  have doneProper := proper.mono (fragments_subset_of_isPrefix earlier)
  have earlyProper : Mapping.isProper ((done.mergedInto base).fill done.values) = true := by
    rw [Mapping.isProper_fill]
    exact Mapping.isProper_foldl_merge id baseProper doneProper
  have lateProper : Mapping.isProper (next.mergedInto base) = true :=
    Mapping.isProper_foldl_merge id baseProper proper
  rw [Mapping.agrees_iff_alike (isProper_locals proper lateProper earlyProper)
    (by rwa [Mapping.isProper_fill])]
  exact (locals_iff_continues distinct drawn earlier proper.keyed
    (Mapping.isKeyed_of_isProper baseProper) (.refl _) (Mapping.isKeyed_of_isProper earlyProper)
    (.refl _)).symm

end Contributions

end Config

end GuidedMigration
