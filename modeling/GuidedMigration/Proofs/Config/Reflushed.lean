/-
This file writes the contributions a second time, directly after the first. What the second time
adds to the first can only come from the template: it has the keys that were carried back to it, and
it is filled in and merged below the local document anew. So nothing changes exactly if the local
document covers the template, which it does unless a key is hidden below a leaf of the local
document that the fragments then replace, or the local document holds the empty value where the
template does not; carrying a key back without its value is one way to come to the latter.
-/
import GuidedMigration.Proofs.Config.Filled
import GuidedMigration.Proofs.Config.Parity

namespace GuidedMigration.Config

open Value GuidedMigration.Tree

/-! ### A template to which everything was carried -/

/-- Whether a template holds something wherever a local document does, but for what lies behind its
own leaves, and not the empty value where that holds a mapping. -/
def Encloses (template locals : Mapping) : Prop :=
  ∀ trail, Mapping.blocks trail template = false → (Mapping.at? trail locals).isSome = true →
    Mapping.at? trail template ≠ none ∧
      ∀ entries, Mapping.at? trail locals = some (.map entries) →
        Mapping.at? trail template ≠ some null

theorem Encloses.congr {template template' locals locals' : Mapping}
    (encloses : Encloses template locals) (templates : template.Alike template')
    (documents : locals.Alike locals') : Encloses template' locals' := by
  intro trail unblocked present
  have same := templates.at? trail
  have sameLocals := documents.at? trail
  rw [← templates.blocks] at unblocked
  rw [← sameLocals.isSome] at present
  obtain ⟨held, full⟩ := encloses trail unblocked present
  refine ⟨fun missing => ?_, fun entries mapping null => ?_⟩
  · rw [missing] at same
    exact held same.symm.eq_none
  · rw [mapping] at sameLocals
    rw [null] at same
    obtain ⟨entries', mapping', -⟩ := sameLocals.symm.eq_map
    exact full entries' mapping' same.symm.eq_null

theorem asPlaceholders_ne_null (path : List Text) (value : Value) :
    asPlaceholders path value ≠ null := by
  match value with
  | .map [] | .list _ | .set _ | .scalar _ => simp [asPlaceholders, leafPlaceholder]
  | .map (entry :: rest) => simp [asPlaceholders]

/-- The empty value is never carried. -/
theorem carriedTo_ne_null (path : List Text) (held new : Option Value) :
    carriedTo path held new ≠ some null := by
  match new, held with
  | none, _ => simp [carriedTo]
  | some value, none =>
    rw [carriedTo, Option.bind_some, carriedValue_none]
    exact fun empty => asPlaceholders_ne_null path value (Option.some.inj empty)
  | some (.map entries), some (.map template) =>
    rw [carriedTo, Option.bind_some, carriedValue]
    split <;> simp
  | some (.map entries), some (.scalar .null) =>
    rw [carriedTo, Option.bind_some, carriedValue]
    exact fun empty => asPlaceholders_ne_null path _ (Option.some.inj empty)
  | some (.map _), some (.scalar (.text _)) | some (.map _), some (.scalar (.bool _))
  | some (.map _), some (.scalar (.int _)) | some (.map _), some (.scalar (.double _))
  | some (.map _), some (.scalar (.date _)) | some (.map _), some (.scalar (.moment _))
  | some (.map _), some (.scalar (.bytes _)) | some (.map _), some (.list _)
  | some (.map _), some (.set _) | some (.list _), some _ | some (.set _), some _
  | some (.scalar _), some _ => simp [carriedTo, carriedValue]

/-- Nothing but a mapping is carried to a mapping. -/
theorem carriedTo_map (path : List Text) (template : Mapping) (new : Option Value) :
    carriedTo path (some (.map template)) new = none ∨
      ∃ extra, carriedTo path (some (.map template)) new = some (.map extra) := by
  match new with
  | none | some (.list _) | some (.set _) | some (.scalar _) => exact .inl rfl
  | some (.map entries) =>
    rw [carriedTo, Option.bind_some, carriedValue]
    split
    · exact .inl rfl
    · exact .inr ⟨_, rfl⟩

/-- A template to which a local document was carried back encloses it. -/
theorem encloses_merge_carried {template locals : Mapping}
    (keyed : Mapping.isKeyed locals = true) :
    Encloses (template.merge (carried template locals)) locals := by
  intro trail unblocked present
  have before : Mapping.blocks trail template = false := by
    rw [Bool.eq_false_iff]
    intro blocked
    obtain ⟨start, rest, rfl, below, leaf⟩ := blocks_iff.mp blocked
    have kept := at?_merge_carried_of_isLeaf keyed leaf
    rw [Mapping.blocks_of_isLeaf (by rw [kept]; exact leaf) below] at unblocked
    simp at unblocked
  constructor
  · rw [← Option.isSome_iff_ne_none, isSome_at?_merge_carried keyed, before, present]
    simp
  · intro entries mapping null
    by_cases root : trail = []
    · subst root
      simp [Mapping.at?] at null
    · obtain ⟨inner, merged⟩ := at?_merge_carried keyed root before
      rw [null, mapping] at merged
      rcases held_cases (carriedTo inner (Mapping.at? trail template) (some (.map entries))) with
        nothing | empty | ⟨extra, carried⟩ | leaf
      · -- only the empty value could be left, and over that a mapping is carried
        rw [nothing, overlaid_none] at merged
        rw [← merged, carriedTo, Option.bind_some, carriedValue] at nothing
        simp at nothing
      · exact carriedTo_ne_null _ _ _ empty
      · obtain ⟨both, mapped⟩ := exists_overlaid_map (Mapping.at? trail template) extra
        rw [carried, mapped] at merged
        simp at merged
      · rw [overlaid_of_isLeaf leaf] at merged
        rw [← merged] at leaf
        simp [isLeaf?, isLeaf] at leaf

/-- What a template says it still says when something was carried back to it. -/
theorem absorbs_merge_carried {template locals fragment : Mapping}
    (keyed : Mapping.isKeyed locals = true) (absorbs : template.Absorbs fragment) :
    (template.merge (carried template locals)).Absorbs fragment := by
  intro trail
  have said := absorbs trail
  rcases held_cases (Mapping.at? trail fragment) with missing | empty | ⟨entries, mapping⟩ | leaf
  · rw [missing]
    trivial
  · rw [empty] at said ⊢
    show (Mapping.at? trail (template.merge (carried template locals))).isSome = true
    rw [isSome_at?_merge_carried keyed, show (Mapping.at? trail template).isSome = true from said]
    rfl
  · rw [mapping] at said ⊢
    obtain ⟨base, held⟩ := said
    by_cases root : trail = []
    · subst root
      exact ⟨_, rfl⟩
    · obtain ⟨inner, merged⟩ := at?_merge_carried keyed root
        (Mapping.blocks_of_isSome (by rw [held]; rfl))
      rw [merged, held]
      rcases carriedTo_map inner base (Mapping.at? trail locals) with nothing | ⟨extra, carried⟩
      · exact ⟨base, by rw [nothing, overlaid_none]⟩
      · obtain ⟨both, mapped⟩ := exists_overlaid_map (some (.map base)) extra
        exact ⟨both, by rw [carried, mapped]⟩
  · rw [says_of_isLeaf leaf] at said ⊢
    rw [at?_merge_carried_of_isLeaf keyed (by rw [said.isLeaf?]; exact leaf)]
    exact said

/-! ### The pair that is written the second time -/

namespace Contributions

variable {contributions : Contributions} {template template' locals locals' : Mapping}

/-- What is known of the documents before the first and before the second time: the second time they
are alike to the pair that was written. -/
structure FollowsOn (contributions : Contributions) (template locals template' locals' : Mapping) :
    Prop where
  keyed : ∀ part ∈ contributions, Mapping.isKeyed part.fragment = true
  templateKeyed : Mapping.isKeyed template = true
  localsKeyed : Mapping.isKeyed locals = true
  templateKeyed' : Mapping.isKeyed template' = true
  localsKeyed' : Mapping.isKeyed locals' = true
  templateAlike : template'.Alike (contributions.pairFrom template locals).template
  localsAlike : locals'.Alike (contributions.pairFrom template locals).locals

namespace FollowsOn

variable (follows : contributions.FollowsOn template locals template' locals')

include follows

theorem absorbs_template : template'.Absorbs contributions.templateFragment := by
  have fragmentKeyed := isKeyed_templateFragment follows.keyed
  have absorbed := absorbs_merge_carried
    (isKeyed_locals follows.templateKeyed follows.localsKeyed follows.keyed)
    (Mapping.absorbs_merge fragmentKeyed follows.templateKeyed)
  have same := (follows.templateAlike.merge_left fragmentKeyed).trans
    ((Mapping.alike_merge_iff fragmentKeyed).mpr absorbed)
  exact (Mapping.alike_merge_iff fragmentKeyed).mp (same.trans follows.templateAlike.symm)

theorem absorbs_locals : locals'.Absorbs contributions.localFragment := by
  have fragmentKeyed := isKeyed_localFragment follows.keyed
  have seedKeyed : Mapping.isKeyed ((template.fill contributions.values).merge locals) = true :=
    isKeyed_merge (by rw [Mapping.isKeyed_fill, follows.templateKeyed]) follows.localsKeyed
  have absorbed : (contributions.pairFrom template locals).locals.Absorbs
      contributions.localFragment := Mapping.absorbs_merge fragmentKeyed seedKeyed
  have same := (follows.localsAlike.merge_left fragmentKeyed).trans
    ((Mapping.alike_merge_iff fragmentKeyed).mpr absorbed)
  exact (Mapping.alike_merge_iff fragmentKeyed).mp (same.trans follows.localsAlike.symm)

/-- The local document is the same again exactly if it covers the template. -/
theorem locals_iff_covers :
    (contributions.pairFrom template' locals').locals.Alike
        (contributions.pairFrom template locals).locals ↔
      (contributions.pairFrom template locals).locals.Covers
        (contributions.pairFrom template locals).template := by
  have again : (contributions.pairFrom template' locals').locals.Alike locals' ↔
      locals'.Covers (template'.fill contributions.values) :=
    Mapping.alike_merge_merge_iff_covers follows.localsKeyed' (isKeyed_localFragment follows.keyed)
      follows.absorbs_locals
  constructor
  · intro alike
    refine (again.mp (alike.trans follows.localsAlike.symm)).congr follows.localsAlike
      fun trail => ?_
    rw [Mapping.isNull_at?_fill, follows.templateAlike.isNull_at?]
  · intro covers
    refine (again.mpr (covers.congr follows.localsAlike.symm fun trail => ?_)).trans
      follows.localsAlike
    rw [Mapping.isNull_at?_fill, follows.templateAlike.isNull_at?]

/-- If the local document is the same again, nothing is carried back to the template. -/
theorem template_eq
    (alike : (contributions.pairFrom template' locals').locals.Alike
      (contributions.pairFrom template locals).locals) :
    (contributions.pairFrom template' locals').template =
      template'.merge contributions.templateFragment := by
  have merged := ((Mapping.alike_merge_iff (isKeyed_templateFragment follows.keyed)).mpr
    follows.absorbs_template).trans follows.templateAlike
  have enclosed : Encloses (contributions.pairFrom template locals).template
      (contributions.pairFrom template locals).locals := encloses_merge_carried
    (isKeyed_locals follows.templateKeyed follows.localsKeyed follows.keyed)
  have nothing := carried_eq_nil
    (isKeyed_locals follows.templateKeyed' follows.localsKeyed' follows.keyed)
    (enclosed.congr merged.symm alike.symm)
  show (template'.merge contributions.templateFragment).merge
    (carried _ (contributions.pairFrom template' locals').locals) = _
  rw [nothing, Mapping.merge]

/-- The template is the same again, too. -/
theorem template_alike
    (alike : (contributions.pairFrom template' locals').locals.Alike
      (contributions.pairFrom template locals).locals) :
    (contributions.pairFrom template' locals').template.Alike
      (contributions.pairFrom template locals).template := by
  rw [follows.template_eq alike]
  exact ((Mapping.alike_merge_iff (isKeyed_templateFragment follows.keyed)).mpr
    follows.absorbs_template).trans follows.templateAlike

end FollowsOn

/-! ### The files -/

variable {tree after : Tree} {templatePath localPath : Path} {held heldLocals : Option Mapping}
  {answer : Option Pair}

/-- A document is not written if it is alike to the one that was. -/
theorem isKept_of_alike {held fresh document : Mapping} (heldProper : Mapping.isProper held = true)
    (freshProper : Mapping.isProper fresh = true) (heldAlike : held.Alike document)
    (freshAlike : fresh.Alike document) : isKept held fresh = true :=
  (Mapping.agrees_iff_alike heldProper freshProper).mpr (heldAlike.trans freshAlike.symm)

/-- Building both documents a second time succeeds. It changes no file if the local document covers
the template; if it does not, then the local document changes. -/
theorem build_again (proper : contributions.AreProper) (dual : contributions.isDual = true)
    (writable : ∀ part ∈ contributions, isWritable part.fragment = true)
    (apart : spelled localPath ≠ spelled templatePath)
    (stored : IsStored tree templatePath held) (storedLocals : IsStored tree localPath heldLocals)
    (loads : LoadsBack (contributions.pairFrom (held.getD []) (heldLocals.getD [])).template)
    (loadsLocals : LoadsBack (contributions.pairFrom (held.getD []) (heldLocals.getD [])).locals)
    (done : contributions.build templatePath localPath tree = (.ok answer, after)) :
    let pair := contributions.pairFrom (held.getD []) (heldLocals.getD [])
    answer = some pair ∧ ∃ pair' again,
      contributions.build templatePath localPath after = (.ok (some pair'), again) ∧
      (pair.locals.Covers pair.template → again = after) ∧
      (again.find? (spelled localPath) = after.find? (spelled localPath) →
        LoadsBack pair'.locals → pair.locals.Covers pair.template) := by
  intro pair
  obtain ⟨said, kept, keptLocals, left, leftLocals⟩ :=
    isLeft_of_build dual apart stored storedLocals loads loadsLocals done
  have keptProper : Mapping.isProper kept = true := left.stored.isProper
  have keptLocalsProper : Mapping.isProper keptLocals = true := leftLocals.stored.isProper
  have follows : contributions.FollowsOn (held.getD []) (heldLocals.getD []) kept keptLocals :=
    ⟨fun part member => Mapping.isKeyed_of_isProper (proper.part member), stored.isKeyed,
      storedLocals.isKeyed, left.stored.isKeyed, leftLocals.stored.isKeyed, left.alike,
      leftLocals.alike⟩
  have localsProper := isProper_locals proper keptProper keptLocalsProper
  obtain ⟨written, writtenLocals⟩ := isWritable_pairFrom
    (isWritable_of_alike left.alike.symm keptProper loads.writable)
    (isWritable_of_alike leftLocals.alike.symm keptLocalsProper loadsLocals.writable) writable
  obtain ⟨again, redone⟩ :=
    exists_build dual apart left.stored leftLocals.stored written writtenLocals
  refine ⟨said, _, again, redone, fun covers => ?_, fun same readBack => ?_⟩
  · have localsAlike := follows.locals_iff_covers.mpr covers
    have templateProper : Mapping.isProper (contributions.pairFrom kept keptLocals).template =
        true := by
      rw [follows.template_eq localsAlike]
      exact Value.isProper_merge keptProper (isProper_templateFragment proper)
    have untouched := build_of_writes dual left.stored.load leftLocals.stored.load
      (write_of_kept left.stored (isKept_of_alike keptProper templateProper left.alike
        (follows.template_alike localsAlike)))
      (write_of_kept leftLocals.stored (isKept_of_alike keptLocalsProper localsProper
        leftLocals.alike localsAlike))
    change contributions.build templatePath localPath after = _ at redone
    rw [untouched] at redone
    exact (Prod.mk.inj redone).2.symm
  · refine follows.locals_iff_covers.mp (Mapping.Alike.trans ?_ leftLocals.alike)
    obtain ⟨-, changed, changed', between, first, second⟩ :=
      exists_writes_of_build dual left.stored.load leftLocals.stored.load redone
    have beside := isStored_of_write first apart (by simp) leftLocals.stored
    rcases write_cases_of_stored beside second with ⟨-, agreeing⟩ | written
    · exact ((Mapping.agrees_iff_alike keptLocalsProper localsProper).mp agreeing).symm
    · -- what was written is what was there, so it is read back as what was there
      rw [written, beside.find?_put] at same
      cases leftLocals.stored with
      | held bytes stands found holds =>
        rw [found] at same
        have rewritten := Node.file.inj (Option.some.inj same)
        rw [← rewritten] at holds
        have back : (contributions.pairFrom kept keptLocals).locals = keptLocals :=
          readBack.holds.eq holds
        rw [back]
        exact .refl _

/-- Contributions that were written can be written once more. In the template alone this leaves a
document that compares equal, and every byte if leaves that compare equal are equal. With a local
document it changes no file if that covers the template; if it does not, then the local document is
changed. -/
theorem flush_again {documents : Mapping → Prop}
    (readBack : ReadBack documents contributions.fragments) (proper : contributions.AreProper)
    (apart : spelled localPath ≠ spelled templatePath)
    (stored : IsStored tree templatePath held) (storedLocals : IsStored tree localPath heldLocals)
    (among : documents (held.getD []))
    (amongPair : ∀ pair, answer = some pair → documents pair.template ∧ documents pair.locals)
    (done : contributions.flush templatePath localPath tree = (.ok answer, after)) :
    ∃ answer' again, contributions.flush templatePath localPath after = (.ok answer', again) ∧
      (answer = none →
        (∃ document document', load templatePath after = (.ok document, after) ∧
          load templatePath again = (.ok document', again) ∧
          Value.agrees (.map document') (.map document) = true) ∧
        ∀ leaves, Value.AreToldApart leaves →
          Mapping.MadeOf (fun _ => True) leaves (held.getD []) →
          contributions.AreMadeOf leaves → again = after) ∧
      ∀ pair, answer = some pair →
        (pair.locals.Covers pair.template → again = after) ∧
        ∀ pair', answer' = some pair' → documents pair'.locals →
          again.find? (spelled localPath) = after.find? (spelled localPath) →
          pair.locals.Covers pair.template := by
  cases dual : contributions.isDual with
  | false =>
    obtain ⟨merged, rfl⟩ := mergeEach_of_flush dual done
    obtain ⟨again, redone, equal, toldApart⟩ :=
      mergeEach_again readBack proper stored.load among merged
    exact ⟨none, again, by rw [flush_of_single dual, redone], fun _ => ⟨equal, toldApart⟩, by simp⟩
  | true =>
    rw [flush_of_dual dual] at done
    obtain ⟨said, -⟩ := exists_writes_of_build dual stored.load storedLocals.load done
    obtain ⟨loads, loadsLocals⟩ := amongPair _ said
    have writable : ∀ part ∈ contributions, isWritable part.fragment = true := by
      intro part member
      have next := readBack.merged _ among part.fragment (List.mem_map_of_mem member)
      exact isWritable_of_merge (Mapping.isKeyed_of_isProper (proper.part member))
        (readBack.loads _ next).writable
    obtain ⟨-, pair', again, redone, kept, changed⟩ := build_again proper dual writable apart stored
      storedLocals (readBack.loads _ loads) (readBack.loads _ loadsLocals) done
    refine ⟨some pair', again, by rw [flush_of_dual dual, redone], by simp [said], ?_⟩
    rintro pair rfl
    obtain rfl := Option.some.inj said
    refine ⟨kept, ?_⟩
    rintro other found amongLocals same
    obtain rfl := Option.some.inj found
    exact changed same (readBack.loads _ amongLocals)

/-- Writes a contribution with a known value to a template and a local document. -/
def flushSmall : Files (Option Pair) := flush [smallContribution] (.ofText "app-config.yaml".toList)
  (.ofText "app-config.local.yaml".toList)

/-- A template and a local document with a key of its own that are written twice. -/
theorem flush_again_keeps_small_pair :
    let after := (flushSmall (smallTree "a: b\n".toList "z: w\n".toList)).2
    ∃ answer, flushSmall after = (.ok answer, after) := by
  intro after
  let text (key word : String) : Scalar × Value := (.text key.toList, .text word.toList)
  let opened (key name : String) : Scalar × Value :=
    (.text key.toList, .text (Placeholder.ofName name.toList))
  let pair : Pair := ⟨[text "a" "b", opened "x" "N", opened "z" "Z"],
    [text "a" "b", text "z" "w", text "x" "v"]⟩
  have done : flushSmall (smallTree "a: b\n".toList "z: w\n".toList) = (.ok (some pair), after) :=
    eq_mk_of_toOption (by decide +kernel)
  have stored : IsStored (smallTree "a: b\n".toList "z: w\n".toList)
      (.ofText "app-config.yaml".toList) (some [text "a" "b"]) :=
    isStored_of_load (eq_ok_of_toOption (by decide +kernel)) (eq_ok_of_toOption (by decide +kernel))
  have storedLocals : IsStored (smallTree "a: b\n".toList "z: w\n".toList)
      (.ofText "app-config.local.yaml".toList) (some [text "z" "w"]) :=
    isStored_of_load (eq_ok_of_toOption (by decide +kernel)) (eq_ok_of_toOption (by decide +kernel))
  have readBack : ReadBack (· ∈ [[text "a" "b"], [text "a" "b", opened "x" "N"], pair.template,
      pair.locals, [text "a" "b", text "z" "w", opened "x" "N"]])
      (fragments [smallContribution]) :=
    readBack_of_list (by decide +kernel) (by decide +kernel) (by decide +kernel)
  have covers : pair.locals.Covers pair.template :=
    (Mapping.covers_iff_agrees (by decide) (by decide)).mpr (by decide +kernel)
  obtain ⟨answer, again, redone, -, kept⟩ := flush_again readBack
    (by unfold AreProper; decide +kernel) (by decide) stored storedLocals (by decide +kernel)
    (fun _ found => by
      obtain rfl := Option.some.inj found
      exact ⟨by decide +kernel, by decide +kernel⟩) done
  have same : again = after := (kept pair rfl).1 covers
  exact ⟨answer, by rw [← same] at redone ⊢; exact redone⟩

/-- The empty value of a key that only the local document has is replaced by the placeholder that
was carried back for it. -/
theorem flush_again_replaces_empty_value :
    let first := (flushSmall (smallTree "a: b\n".toList "k:\n".toList)).2
    let second := (flushSmall first).2
    let localPath := Path.ofText "app-config.local.yaml".toList
    (flushSmall (smallTree "a: b\n".toList "k:\n".toList)).1.toOption.isSome = true ∧
      (flushSmall first).1.toOption.isSome = true ∧
      (first.read localPath).toOption = some "a: b\nk: null\nx: v\n".toList ∧
      (second.read localPath).toOption = some "a: b\nx: v\nk: $\x7bK\x7d\n".toList := by
  decide +kernel

end Contributions

end GuidedMigration.Config
