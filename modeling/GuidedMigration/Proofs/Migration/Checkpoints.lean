/-
This file follows the template and the local document while fragments are merged in and what has
been contributed is written now and then. All the time the template holds what all fragments
together make of it. The local document is the template of the last time that it was written, filled
in as it was then, as long as each time it could be continued; and whether it can be decides what is
written.

Then it compares two runs over the same fragments: one with checkpoints between them, and one with
the checkpoint in the end alone. A checkpoint before any value was asked for makes no difference.
From the first one on that writes a local document, that document goes along: at each checkpoint it
is continued or not. If it is continued every time, then the documents are the same in the end; and
if it is continued up to the last but one, then they are the same only if it is continued the last
time, too.
-/
import GuidedMigration.Proofs.Config.Continued
import GuidedMigration.Proofs.Migration.Contributed
import Mathlib.Data.List.Chain
import Mathlib.Data.List.Infix

namespace GuidedMigration.Config

open GuidedMigration.Tree

/-- Whether the documents that come of contributions can be written and are read back as they are
written: the templates into which fragments are merged, and the pairs that are written for those who
came first. -/
structure RoundTrips (base : Mapping) (all : Contributions) (templates locals : Mapping → Prop) :
    Prop where
  readBack : ReadBack templates all.fragments
  localsLoad : ∀ document, locals document → LoadsBack document
  first : templates base
  nothing : locals []
  pairs : ∀ done : Contributions, done <+: all → done.isDual = true →
    ∀ template, templates template →
    Value.agrees (.map template) (.map (done.mergedInto base)) = true →
    ∀ document, locals document → templates (done.pairFrom template document).template ∧
      locals (done.pairFrom template document).locals

namespace Contributions

/-- How the two documents stand once some contributions were made, and the local document was last
written for those that are named. The first template may have been missing. -/
structure Stands (templatePath localPath : Path) (first : Option Mapping)
    (templates locals : Mapping → Prop) (last : Option Contributions) (done : Contributions)
    (tree : Tree) : Prop where
  template : ∃ held, IsStored tree templatePath held ∧ templates (held.getD []) ∧
    Mapping.Alike (held.getD []) (done.mergedInto (first.getD [])) ∧
    held.isSome = (first.isSome || !done.isEmpty)
  locals : ∃ held, IsStored tree localPath held ∧ locals (held.getD []) ∧
    Option.Rel (fun document written => Mapping.Alike document
      ((mergedInto (first.getD []) written).fill (Contributions.values written))) held last
  earlier : ∀ written ∈ last, isDual written = true ∧ written <+: done

section

variable {templatePath localPath : Path} {first : Option Mapping} {all done : Contributions}
  {templates locals : Mapping → Prop} {last : Option Contributions} {tree : Tree}
  (apart : spelled localPath ≠ spelled templatePath) (proper : all.AreProper)
  (trips : RoundTrips (first.getD []) all templates locals)
  (stands : Stands templatePath localPath first templates locals last done tree)

include apart proper trips stands

/-- A fragment that is merged in. -/
theorem stands_mergeInto {part : Contribution} (among : done ++ [part] <+: all) :
    ∃ changed after, mergeInto templatePath part.fragment tree = (.ok changed, after) ∧
      Stands templatePath localPath first templates locals last (done ++ [part]) after := by
  obtain ⟨held, stored, template, alike, there⟩ := stands.template
  obtain ⟨heldLocals, storedLocals, localsAmong, related⟩ := stands.locals
  have member : part.fragment ∈ all.fragments :=
    List.mem_map_of_mem (among.subset (List.mem_append_right _ List.mem_cons_self))
  obtain ⟨changed, after, merged⟩ := exists_mergeInto stored
    (trips.readBack.loads _ (trips.readBack.merged _ template _ member)).writable
  obtain ⟨kept, stores, keptAmong, keptAlike⟩ :=
    trips.readBack.stores_of_mergeInto member (proper _ member) stored.load template merged
  refine ⟨changed, after, merged, ⟨some kept, stores.stored, keptAmong, ?_, by simp⟩, ⟨heldLocals,
    ?_, localsAmong, related⟩, fun written named => ?_⟩
  · rw [mergedInto_append]
    exact keptAlike.trans (alike.merge_left (Mapping.isKeyed_of_isProper (proper _ member)))
  · exact stores.others localPath heldLocals apart
      (fun _ => standing_ne_lost_of_stored stored) storedLocals
  · exact ⟨(stands.earlier written named).1,
      (stands.earlier written named).2.trans (List.prefix_append done _)⟩

/-- Contributions that are written to the template alone. -/
theorem stands_flush_single (among : done <+: all) (single : done.isDual = false) :
    ∃ after, done.flush templatePath localPath tree = (.ok none, after) ∧
      Stands templatePath localPath first templates locals last done after := by
  obtain ⟨held, stored, template, alike, there⟩ := stands.template
  obtain ⟨heldLocals, storedLocals, localsAmong, related⟩ := stands.locals
  have readBack := trips.readBack.mono (fragments_subset_of_isPrefix among)
  have doneProper := proper.mono (fragments_subset_of_isPrefix among)
  obtain ⟨after, merged⟩ := exists_mergeEach readBack doneProper stored template
  refine ⟨after, by rw [flush_of_single single, merged], ?_⟩
  by_cases empty : done = []
  · subst empty
    rw [mergeEach] at merged
    obtain rfl : tree = after := (Prod.mk.inj merged).2
    exact stands
  · obtain ⟨kept, stores, keptAmong, keptAlike⟩ := (stores_of_mergeEach readBack doneProper
      stored.load template merged).resolve_left fun nothing => empty nothing.1
    refine ⟨⟨some kept, stores.stored, keptAmong, keptAlike.trans ?_, by simp [empty]⟩,
      ⟨heldLocals, ?_, localsAmong, related⟩, stands.earlier⟩
    · have same := alike.foldl_merge doneProper.keyed
      rw [mergedInto, Mapping.foldl_merge_idem doneProper.keyed
        (Mapping.isKeyed_of_isProper (trips.readBack.loads _ trips.first).isProper)] at same
      exact same
    · exact stores.others localPath heldLocals apart
        (fun _ => standing_ne_lost_of_stored stored) storedLocals

/-- Contributions that are written to both documents. The local document is what it is to be exactly
if the last one can be continued, and then the template is, too. -/
theorem stands_flush_dual {values : Placeholder.Values} (distinct : (values.map Prod.fst).Nodup)
    (drawn : all.AreDrawnFrom values) (among : done <+: all) (dual : done.isDual = true) :
    ∃ pair kept after, done.flush templatePath localPath tree = (.ok (some pair), after) ∧
      IsStored after localPath (some kept) ∧
      (kept.Alike ((done.mergedInto (first.getD [])).fill done.values) ↔
        ∀ written ∈ last, Continues (first.getD []) written done) ∧
      ((∀ written ∈ last, Continues (first.getD []) written done) →
        Stands templatePath localPath first templates locals (some done) done after) := by
  obtain ⟨held, stored, template, alike, there⟩ := stands.template
  obtain ⟨heldLocals, storedLocals, localsAmong, related⟩ := stands.locals
  have doneProper := proper.mono (fragments_subset_of_isPrefix among)
  have doneDrawn : done.AreDrawnFrom values := fun part member => drawn part (among.subset member)
  have baseProper := (trips.readBack.loads _ trips.first).isProper
  have mergedProper : Mapping.isProper (done.mergedInto (first.getD [])) = true :=
    Mapping.isProper_foldl_merge id baseProper doneProper
  obtain ⟨templates', locals'⟩ := trips.pairs done among dual _ template
    ((Mapping.agrees_iff_alike stored.isProper mergedProper).mpr alike) _ localsAmong
  obtain ⟨after, built⟩ := exists_build dual apart stored storedLocals
    (trips.readBack.loads _ templates').writable (trips.localsLoad _ locals').writable
  obtain ⟨-, kept, keptLocals, left, leftLocals⟩ := isLeft_of_build dual apart stored storedLocals
    (trips.readBack.loads _ templates') (trips.localsLoad _ locals') built
  have baseKeyed := Mapping.isKeyed_of_isProper baseProper
  have localsIff : (done.pairFrom (held.getD []) (heldLocals.getD [])).locals.Alike
      ((done.mergedInto (first.getD [])).fill done.values) ↔
        ∀ written ∈ last, Continues (first.getD []) written done := by
    cases related with
    | none =>
      exact ⟨fun _ written named => by simp at named, fun _ =>
        (isFilled_of_nil distinct doneDrawn doneProper.keyed baseKeyed stored.isKeyed alike).locals⟩
    | @some document written localsAlike =>
      rw [Option.getD_some]
      have continues : (done.pairFrom (held.getD []) document).locals.Alike
          ((done.mergedInto (first.getD [])).fill done.values) ↔
            Continues (first.getD []) written done :=
        locals_iff_continues distinct doneDrawn (stands.earlier written rfl).2 doneProper.keyed
          baseKeyed alike storedLocals.isKeyed localsAlike
      simpa using continues
  refine ⟨_, keptLocals, after, by rw [flush_of_dual dual, built], leftLocals.stored,
    ⟨fun same => localsIff.mp (leftLocals.alike.symm.trans same), fun continued =>
      leftLocals.alike.trans (localsIff.mpr continued)⟩, fun continued => ?_⟩
  have filled := isFilled_of_locals doneProper.keyed baseKeyed stored.isKeyed alike
    storedLocals.isKeyed (localsIff.mpr continued)
  refine ⟨⟨some kept, left.stored, ?_, left.alike.trans filled.template, ?_⟩, ⟨some keptLocals,
    leftLocals.stored, ?_, .some (leftLocals.alike.trans filled.locals)⟩, fun written named => ?_⟩
  · rcases left.either with rfl | rfl
    · exact templates'
    · exact template
  · have nonempty : done ≠ [] := by
      rintro rfl
      simp [isDual] at dual
    simp [nonempty]
  · rcases leftLocals.either with rfl | rfl
    · exact locals'
    · exact localsAmong
  · obtain rfl := Option.some.inj named
    exact ⟨dual, List.prefix_rfl⟩

end

end Contributions

end GuidedMigration.Config

namespace GuidedMigration

open Config Contributions GuidedMigration.Tree

/-- Whether two trees have the same document at a path, or neither has one. -/
def SameDocument (path : Path) (left right : Tree) : Prop :=
  left.exists? path = right.exists? path ∧
    ∃ document document', load path left = (.ok document, left) ∧
      load path right = (.ok document', right) ∧
      Value.agrees (.map document) (.map document') = true

/-- Stored documents are the same if they are there or missing both and alike. -/
theorem sameDocument_iff {path : Path} {left right : Tree} {held held' : Option Mapping}
    (stored : IsStored left path held) (stored' : IsStored right path held') :
    SameDocument path left right ↔
      held.isSome = held'.isSome ∧ Mapping.Alike (held.getD []) (held'.getD []) := by
  rw [SameDocument, stored.exists?, stored'.exists?, stored.load, stored'.load]
  simp only [Except.ok.injEq]
  refine and_congr_right fun _ => ?_
  rw [← Mapping.agrees_iff_alike stored.isProper stored'.isProper]
  constructor
  · rintro ⟨document, document', loaded, loaded', agreeing⟩
    obtain rfl := Except.ok.inj (Prod.mk.inj loaded).1
    obtain rfl := Except.ok.inj (Prod.mk.inj loaded').1
    exact agreeing
  · exact fun agreeing => ⟨_, _, rfl, rfl, agreeing⟩

namespace Config.Contributions

variable {left right tree : Tree} {templatePath localPath : Path} {first : Option Mapping}
  {templates locals : Mapping → Prop} {done all : Contributions} {last last' : Option Contributions}

/-- The template does not depend on when the local document was written. -/
theorem Stands.sameTemplate (stands : Stands templatePath localPath first templates locals last done
    left) (stands' : Stands templatePath localPath first templates locals last' done right) :
    SameDocument templatePath left right := by
  obtain ⟨held, stored, -, alike, there⟩ := stands.template
  obtain ⟨held', stored', -, alike', there'⟩ := stands'.template
  exact (sameDocument_iff stored stored').mpr ⟨there.trans there'.symm, alike.trans alike'.symm⟩

/-- There is no local document as long as none was written. -/
theorem Stands.isStored_none
    (stands : Stands templatePath localPath first templates locals none done tree) :
    IsStored tree localPath none := by
  obtain ⟨held, stored, -, related⟩ := stands.locals
  cases related
  exact stored

theorem isDual_of_within (within : done <+: all) (dual : done.isDual = true) :
    all.isDual = true := by
  rw [isDual, List.any_eq_true] at dual ⊢
  obtain ⟨part, member, asked⟩ := dual
  exact ⟨part, within.subset member, asked⟩

/-- Before any value was asked for, no local document was written. -/
theorem Stands.last_eq_none (stands : Stands templatePath localPath first templates locals last done
    tree) (single : done.isDual = false) : last = none := by
  cases last with
  | none => rfl
  | some written =>
    obtain ⟨dual, within⟩ := stands.earlier written rfl
    rw [isDual_of_within within dual] at single
    exact absurd single.symm Bool.false_ne_true

end Config.Contributions

namespace ConfigStep

variable {start session after : Session} {steps : List ConfigStep} {done all : Contributions}
  {last : Option Contributions} {first : Option Mapping} {templates locals : Mapping → Prop}

/-- What has been contributed at each checkpoint at which a local document is written. -/
def stages (session : Session) : Contributions → List ConfigStep → List Contributions
  | _, [] => []
  | done, .apply fragment label _ :: rest =>
    stages session (done ++ [Executor.contributionOf session.values label
      (session.setup.openFragment fragment)]) rest
  | done, .checkpoint :: rest =>
    if done.isDual then done :: stages session done rest else stages session done rest

theorem stages_cons_of_single (single : done.isDual = false) (session : Session)
    (steps : List ConfigStep) :
    stages session done (.checkpoint :: steps) = stages session done steps := by
  rw [stages, single, if_neg Bool.false_ne_true]

theorem stages_cons_of_dual (dual : done.isDual = true) (session : Session)
    (steps : List ConfigStep) :
    stages session done (.checkpoint :: steps) = done :: stages session done steps := by
  rw [stages, dual, if_pos rfl]

/-! ### Steps without checkpoints -/

theorem contributions_cons_apply (session : Session) (fragment : Mapping) (label : Text)
    (target : Option Text) (steps : List ConfigStep) :
    contributions session (.apply fragment label target :: steps) =
      Executor.contributionOf session.values label (session.setup.openFragment fragment) ::
        contributions session steps := rfl

theorem contributions_cons_checkpoint (session : Session) (steps : List ConfigStep) :
    contributions session (.checkpoint :: steps) = contributions session steps := rfl

theorem contributions_filter (session : Session) (steps : List ConfigStep) :
    contributions session (steps.filter applies) = contributions session steps := by
  induction steps with
  | nil => rfl
  | cons step rest inductionHypothesis =>
    cases step with
    | apply fragment label target =>
      rw [List.filter_cons_of_pos rfl, contributions_cons_apply, contributions_cons_apply,
        inductionHypothesis]
    | checkpoint =>
      rw [List.filter_cons_of_neg Bool.false_ne_true, inductionHypothesis,
        contributions_cons_checkpoint]

theorem stages_filter (session : Session) (done : Contributions) (steps : List ConfigStep) :
    stages session done (steps.filter applies) = [] := by
  induction steps generalizing done with
  | nil => rfl
  | cons step rest inductionHypothesis =>
    cases step with
    | apply fragment label target =>
      rw [List.filter_cons_of_pos rfl, stages, inductionHypothesis]
    | checkpoint => rw [List.filter_cons_of_neg Bool.false_ne_true, inductionHypothesis]

theorem areDrawnFrom_contributions (session : Session) (steps : List ConfigStep) :
    (contributions session steps).AreDrawnFrom session.values := by
  intro part member
  obtain ⟨step, -, contributed⟩ := List.mem_filterMap.mp member
  cases step with
  | apply fragment label target =>
    obtain rfl := Option.some.inj contributed
    rfl
  | checkpoint => simp [contribution?] at contributed

/-! ### Runs -/

theorem performAll_cons {step : ConfigStep} {between : Session}
    (done : step.perform session = (.ok (), between)) :
    performAll (step :: steps) session = performAll steps between := by
  rw [performAll, bind_apply, done]

theorem performAll_append {more : List ConfigStep} {between : Session}
    (done : performAll steps session = (.ok (), between)) :
    performAll (steps ++ more) session = performAll more between := by
  induction steps generalizing session with
  | nil =>
    obtain rfl : session = between := (Prod.mk.inj done).2
    rfl
  | cons step rest inductionHypothesis =>
    obtain ⟨next, performed, remaining⟩ := exists_of_performAll_cons done
    rw [List.cons_append, performAll_cons performed, inductionHypothesis remaining]

/-- A checkpoint at which the contributions can be written. -/
theorem perform_checkpoint_of_flush {answer : Option Pair} {tree : Tree}
    (flushed : session.contributions.flush session.templatePath session.localPath session.tree =
      (.ok answer, tree)) :
    perform .checkpoint session = (.ok (), { session with tree := tree }) := by
  rw [perform_checkpoint, flushed]

/-- What is known of a run from its start: nothing was contributed before, and all that will be can
be stored and read back. -/
structure Begins (start : Session) (first : Option Mapping) (all : Contributions)
    (templates locals : Mapping → Prop) : Prop where
  distinct : (start.values.map Prod.fst).Nodup
  fresh : start.contributions = []
  apart : spelled start.localPath ≠ spelled start.templatePath
  proper : all.AreProper
  drawn : all.AreDrawnFrom start.values
  trips : RoundTrips (first.getD []) all templates locals

namespace Begins

variable (begins : Begins start first all templates locals)

include begins

theorem contributions_eq (contributes : start.Contributes done session) :
    session.contributions = done := by
  rw [contributes.contributions, begins.fresh, List.nil_append]

/-- A step that applies a fragment. -/
theorem exists_perform_apply {fragment : Mapping} {label : Text} {target : Option Text}
    (contributes : start.Contributes done session)
    (onTemplate : isOnTemplate start.settings (.apply fragment label target) = true)
    (among : done ++ [Executor.contributionOf start.values label
      (start.setup.openFragment fragment)] <+: all)
    (stands : Stands start.templatePath start.localPath first templates locals last done
      session.tree) :
    ∃ between, perform (.apply fragment label target) session = (.ok (), between) ∧
      start.Contributes (done ++ [Executor.contributionOf start.values label
        (start.setup.openFragment fragment)]) between ∧
      Stands start.templatePath start.localPath first templates locals last
        (done ++ [Executor.contributionOf start.values label
          (start.setup.openFragment fragment)]) between.tree := by
  obtain ⟨changed, tree, merged, standsNext⟩ :=
    stands_mergeInto begins.apart begins.proper begins.trips stands among
  rw [← contributes.templatePath, ← contributes.setup] at merged
  rw [← contributes.settings] at onTemplate
  obtain ⟨between, performed, rfl, contributesNext⟩ :=
    ConfigStep.exists_perform_apply onTemplate merged
  rw [contributes.values, contributes.setup] at contributesNext
  exact ⟨between, performed, contributes.trans contributesNext, standsNext⟩

/-- A checkpoint before any value was asked for. -/
theorem exists_perform_single (contributes : start.Contributes done session)
    (among : done <+: all) (single : done.isDual = false)
    (stands : Stands start.templatePath start.localPath first templates locals last done
      session.tree) :
    ∃ between, perform .checkpoint session = (.ok (), between) ∧
      start.Contributes done between ∧
      Stands start.templatePath start.localPath first templates locals last done between.tree := by
  obtain ⟨tree, flushed, standsNext⟩ :=
    stands_flush_single begins.apart begins.proper begins.trips stands among single
  rw [← begins.contributions_eq contributes, ← contributes.templatePath, ← contributes.localPath]
    at flushed
  exact ⟨{ session with tree := tree }, perform_checkpoint_of_flush flushed,
    contributes.with_tree tree, standsNext⟩

/-- A checkpoint at which a local document is written. -/
theorem exists_perform_dual (contributes : start.Contributes done session)
    (among : done <+: all) (dual : done.isDual = true)
    (stands : Stands start.templatePath start.localPath first templates locals last done
      session.tree) :
    ∃ kept between, perform .checkpoint session = (.ok (), between) ∧
      start.Contributes done between ∧ IsStored between.tree start.localPath (some kept) ∧
      (kept.Alike ((done.mergedInto (first.getD [])).fill done.values) ↔
        ∀ written ∈ last, Continues (first.getD []) written done) ∧
      ((∀ written ∈ last, Continues (first.getD []) written done) →
        Stands start.templatePath start.localPath first templates locals (some done) done
          between.tree) := by
  obtain ⟨pair, kept, tree, flushed, stored, alike, standsNext⟩ := stands_flush_dual begins.apart
    begins.proper begins.trips stands begins.distinct begins.drawn among dual
  rw [← begins.contributions_eq contributes, ← contributes.templatePath, ← contributes.localPath]
    at flushed
  exact ⟨kept, { session with tree := tree }, perform_checkpoint_of_flush flushed,
    contributes.with_tree tree, stored, alike, standsNext⟩

/-- The documents stand as they are to be after steps in which every local document could be
continued. -/
theorem exists_performAll (contributes : start.Contributes done session)
    (onTemplate : ∀ step ∈ steps, step.isOnTemplate start.settings = true)
    (among : done ++ contributions start steps <+: all)
    (stands : Stands start.templatePath start.localPath first templates locals last done
      session.tree)
    (continued : (last.toList ++ stages start done steps).IsChain (Continues (first.getD []))) :
    ∃ after, performAll steps session = (.ok (), after) ∧
      start.Contributes (done ++ contributions start steps) after ∧
      Stands start.templatePath start.localPath first templates locals
        (last.toList ++ stages start done steps).getLast? (done ++ contributions start steps)
        after.tree := by
  induction steps generalizing session done last with
  | nil =>
    refine ⟨session, rfl, by simpa [contributions] using contributes, ?_⟩
    have same : (last.toList ++ stages start done []).getLast? = last := by
      cases last <;> rfl
    rw [same]
    simpa [contributions] using stands
  | cons step rest inductionHypothesis =>
    have behind : ∀ other ∈ rest, other.isOnTemplate start.settings = true :=
      fun other member => onTemplate other (List.mem_cons_of_mem _ member)
    cases step with
    | apply fragment label target =>
      have shifted : done ++ contributions start (.apply fragment label target :: rest) =
          (done ++ [Executor.contributionOf start.values label
            (start.setup.openFragment fragment)]) ++ contributions start rest := by
        rw [contributions_cons_apply, List.append_assoc, List.singleton_append]
      rw [shifted] at among ⊢
      obtain ⟨between, performed, contributesNext, standsNext⟩ := begins.exists_perform_apply
        contributes (onTemplate _ List.mem_cons_self) ((List.prefix_append _ _).trans among) stands
      rw [performAll_cons performed]
      exact inductionHypothesis contributesNext behind among standsNext continued
    | checkpoint =>
      rw [contributions_cons_checkpoint] at among ⊢
      have within : done <+: all := (List.prefix_append _ _).trans among
      cases dual : done.isDual with
      | false =>
        rw [stages_cons_of_single dual] at continued ⊢
        obtain ⟨between, performed, contributesNext, standsNext⟩ :=
          begins.exists_perform_single contributes within dual stands
        rw [performAll_cons performed]
        exact inductionHypothesis contributesNext behind among standsNext continued
      | true =>
        rw [stages_cons_of_dual dual] at continued ⊢
        obtain ⟨kept, between, performed, contributesNext, -, -, standsNext⟩ :=
          begins.exists_perform_dual contributes within dual stands
        have inOrder : ∀ written ∈ last, Continues (first.getD []) written done := by
          rintro written rfl
          exact (List.isChain_cons_cons.mp continued).1
        have same : (last.toList ++ done :: stages start done rest).getLast? =
            ((some done).toList ++ stages start done rest).getLast? := by
          cases last with
          | none => rfl
          | some written => exact List.getLast?_cons_cons
        rw [performAll_cons performed, same]
        exact inductionHypothesis contributesNext behind among (standsNext inOrder)
          continued.right_of_append

end Begins

/-- Checkpoints between the fragments change nothing in the end as long as the local document can be
continued from each of them to the next. Where that is so up to the last one between them, the
documents are the same as without these checkpoints exactly if it can be continued to the end. -/
theorem checkpoints_change_nothing_iff (distinct : (session.values.map Prod.fst).Nodup)
    (fresh : session.contributions = [])
    (onTemplate : ∀ step ∈ steps, step.isOnTemplate session.settings = true)
    (apart : spelled session.localPath ≠ spelled session.templatePath)
    (template : IsStored session.tree session.templatePath first)
    (noLocals : session.tree.standing session.localPath = .vacant)
    (proper : (contributions session steps).AreProper)
    (trips : RoundTrips (first.getD []) (contributions session steps) templates locals)
    (continued : (stages session [] steps).IsChain (Continues (first.getD []))) :
    ∃ after plain, performAll (steps ++ [.checkpoint]) session = (.ok (), after) ∧
      performAll (steps.filter applies ++ [.checkpoint]) session = (.ok (), plain) ∧
      (SameDocument session.templatePath after.tree plain.tree ∧
        SameDocument session.localPath after.tree plain.tree ↔
        ∀ last ∈ (stages session [] steps).getLast?,
          Continues (first.getD []) last (contributions session steps)) := by
  have begins : Begins session first (contributions session steps) templates locals :=
    ⟨distinct, fresh, apart, proper, areDrawnFrom_contributions session steps, trips⟩
  have contributes : session.Contributes [] session := ⟨rfl, rfl, rfl, (List.append_nil _).symm⟩
  have stands : Stands session.templatePath session.localPath first templates locals none []
      session.tree :=
    ⟨⟨first, template, trips.first, .refl _, by simp⟩,
      ⟨none, .missing noLocals, trips.nothing, .none⟩, by simp⟩
  have applied : ∀ step ∈ steps.filter applies, step.isOnTemplate session.settings = true :=
    fun step member => onTemplate step (List.mem_of_mem_filter member)
  obtain ⟨between, performed, contributesAll, standsAll⟩ := begins.exists_performAll contributes
    onTemplate List.prefix_rfl stands continued
  obtain ⟨between', performed', contributesAll', standsAll'⟩ :=
    begins.exists_performAll contributes applied
      (by rw [contributions_filter]; exact List.prefix_rfl) stands
      (by rw [stages_filter]; exact List.isChain_nil)
  rw [contributions_filter, List.nil_append] at contributesAll'
  rw [contributions_filter, stages_filter] at standsAll'
  cases dual : (contributions session steps).isDual with
  | false =>
    obtain ⟨after, checkpoint, -, standsEnd⟩ :=
      begins.exists_perform_single contributesAll List.prefix_rfl dual standsAll
    obtain ⟨plain, checkpoint', -, standsEnd'⟩ :=
      begins.exists_perform_single contributesAll' List.prefix_rfl dual standsAll'
    refine ⟨after, plain, (performAll_append performed).trans (performAll_cons checkpoint),
      (performAll_append performed').trans (performAll_cons checkpoint'), ?_⟩
    have noStage := standsEnd.last_eq_none dual
    rw [noStage] at standsEnd
    have sameLocals : SameDocument session.localPath after.tree plain.tree :=
      (sameDocument_iff standsEnd.isStored_none standsEnd'.isStored_none).mpr ⟨rfl, .refl []⟩
    simpa [show (stages session [] steps).getLast? = none from noStage] using
      And.intro (standsEnd.sameTemplate standsEnd') sameLocals
  | true =>
    obtain ⟨kept, after, checkpoint, -, stored, alikeIff, standsEnd⟩ :=
      begins.exists_perform_dual contributesAll List.prefix_rfl dual standsAll
    obtain ⟨kept', plain, checkpoint', -, stored', alikeIff', standsEnd'⟩ :=
      begins.exists_perform_dual contributesAll' List.prefix_rfl dual standsAll'
    refine ⟨after, plain, (performAll_append performed).trans (performAll_cons checkpoint),
      (performAll_append performed').trans (performAll_cons checkpoint'), ?_⟩
    have nothingBefore : ∀ written ∈ (none : Option Contributions),
        Continues (first.getD []) written (contributions session steps) := by simp
    have plainAlike := alikeIff'.mpr nothingBefore
    constructor
    · rintro ⟨-, same⟩
      exact alikeIff.mp (((sameDocument_iff stored stored').mp same).2.trans plainAlike)
    · intro continuedLast
      exact ⟨(standsEnd continuedLast).sameTemplate (standsEnd' nothingBefore),
        (sameDocument_iff stored stored').mpr
          ⟨rfl, (alikeIff.mpr continuedLast).trans plainAlike.symm⟩⟩

set_option maxRecDepth 100000

/-- A session with a template and a known value. -/
def knowingSession : Session := templateSession "a: b\n".toList [("N".toList, "v".toList)]

/-- A checkpoint after the known value was asked for. -/
def stagedSteps : List ConfigStep :=
  [apply (textFragment "x" "$\x7bN\x7d") "x".toList none, checkpoint,
    apply (textFragment "y" "c") "y".toList none]

/-- The documents are the same with the checkpoint as without it. -/
theorem checkpoint_changes_nothing_between_two_fragments :
    ∃ after plain, performAll (stagedSteps ++ [.checkpoint]) knowingSession = (.ok (), after) ∧
      performAll (stagedSteps.filter applies ++ [.checkpoint]) knowingSession = (.ok (), plain) ∧
      SameDocument knowingSession.templatePath after.tree plain.tree ∧
      SameDocument knowingSession.localPath after.tree plain.tree := by
  let text (key word : String) : Scalar × Value := (.text key.toList, .text word.toList)
  let base : Mapping := [text "a" "b"]
  let asked := text "x" "$\x7bN\x7d"
  let known := text "x" "v"
  let added := text "y" "c"
  let templates : List Mapping := [base, base ++ [asked], base ++ [added], base ++ [asked, added],
    base ++ [added, asked], base ++ [asked, text "y" "$\x7bY\x7d"]]
  let locals : List Mapping := [[], base ++ [known], base ++ [known, added], base ++ [added, known]]
  have template : IsStored knowingSession.tree knowingSession.templatePath (some base) :=
    isStored_of_load (eq_ok_of_toOption (by decide +kernel)) (eq_ok_of_toOption (by decide +kernel))
  have trips : RoundTrips base (contributions knowingSession stagedSteps) (· ∈ templates)
      (· ∈ locals) := by
    refine ⟨readBack_of_list (by decide +kernel) (by decide +kernel) (by decide +kernel), ?_,
      by decide +kernel, by decide +kernel, ?_⟩
    · have writable : ∀ document ∈ locals, isWritable document = true := by decide +kernel
      have read : ∀ document ∈ locals, (mappingOf ⟨[], []⟩
          (Text.unifyNewlines (documentText document))).toOption = some document := by
        decide +kernel
      exact fun document among => loadsBack_of_read (writable document among) (read document among)
    · have pairs : ∀ done ∈ (contributions knowingSession stagedSteps).inits, isDual done = true →
          ∀ template ∈ templates,
          Value.agrees (.map template) (.map (mergedInto base done)) = true → ∀ document ∈ locals,
          (pairFrom done template document).template ∈ templates ∧
            (pairFrom done template document).locals ∈ locals := by
        decide +kernel
      exact fun done earlier => pairs done ((List.mem_inits _ _).mpr earlier)
  have staged : stages knowingSession [] stagedSteps =
      [(contributions knowingSession stagedSteps).take 1] :=
    stages_cons_of_dual (by decide +kernel) _ _
  have proper : (contributions knowingSession stagedSteps).AreProper := by
    unfold AreProper
    decide +kernel
  obtain ⟨after, plain, done, done', same⟩ := checkpoints_change_nothing_iff (by decide) rfl
    (by decide) (by decide) template (by decide +kernel) proper trips
    (by rw [staged]; exact List.isChain_singleton _)
  refine ⟨after, plain, done, done', same.mpr fun last => ?_⟩
  rw [staged]
  rintro ⟨rfl⟩
  exact (continues_iff_agrees (by decide) (areDrawnFrom_contributions _ _) (List.take_prefix _ _)
    proper (by decide)).mpr (by decide +kernel)

/-- Where the local document is. -/
def localPlace : Path.Place := ["", "dst", "app-config.local.yaml"].map String.toList

/-- A placeholder of the template whose value is asked for only after the checkpoint stays open in
the local document. -/
theorem checkpoint_leaves_placeholder_open :
    let session := templateSession "a: $\x7bLATE\x7d\n".toList
      [("N".toList, "v".toList), ("LATE".toList, "w".toList)]
    let steps := [apply (textFragment "x" "$\x7bN\x7d") "x".toList none, checkpoint,
      apply (textFragment "y" "$\x7bLATE\x7d") "y".toList none]
    let after := (performAll (steps ++ [.checkpoint]) session).2
    let plain := (performAll (steps.filter applies ++ [.checkpoint]) session).2
    (performAll (steps ++ [.checkpoint]) session).1.toOption = some () ∧
      (performAll (steps.filter applies ++ [.checkpoint]) session).1.toOption = some () ∧
      after.tree.fileAt? localPlace =
        some (Utf8.encode "a: $\x7bLATE\x7d\nx: v\ny: w\n".toList) ∧
      plain.tree.fileAt? localPlace = some (Utf8.encode "a: w\nx: v\ny: w\n".toList) := by
  decide +kernel

end ConfigStep

end GuidedMigration
