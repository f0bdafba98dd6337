/-
This file shows what adding dependencies to a manifest does. What the manifest names stays named,
and what was asked for is named afterwards, so that asking again adds nothing. A section that is no
object is never changed; a request that fails on it fails on it after every other request too.
-/
import GuidedMigration.Proofs.Json.Named
import GuidedMigration.Target.Manifest

namespace GuidedMigration.Target

open Json (Datum Members Word)

/-- Whether a section names a dependency. -/
def names (section' : Datum) (name : Word) : Bool :=
  match section' with
  | .object members => Members.has name members
  | other => holds? name other = some true

/-- Whether a value is an object. -/
def isObject : Datum → Bool
  | .object _ => true
  | _ => false

theorem names_put (name other version : Word) (members : Members) :
    names (.object (Members.put other (.string version) members)) name =
      (decide (other = name) || names (.object members) name) :=
  Members.has_put name other (.string version) members

/-! ### One section -/

variable {section' : Datum} {name version : Word} {dependencies : Dependencies}

theorem addAll_of_not_object (rigid : isObject section' = false) :
    addAll section' ((name, version) :: dependencies) =
      if names section' name then addAll section' dependencies
      else .error (.mismatch .section) := by
  cases section' with
  | object members => simp [isObject] at rigid
  | _ => simp [addAll, names]

theorem addAll_of_names (named : names section' name = true) :
    addAll section' ((name, version) :: dependencies) = addAll section' dependencies := by
  cases kind : isObject section' with
  | false => rw [addAll_of_not_object kind, if_pos named]
  | true =>
    match section', kind with
    | .object members, _ =>
      have held : Members.has name members = true := named
      rw [addAll, if_pos held]

theorem addAll_of_object {members : Members} (missing : names (.object members) name = false) :
    addAll (.object members) ((name, version) :: dependencies) =
      match addAll (.object (Members.put name (.string version) members)) dependencies with
      | .ok (after, added) => .ok (after, name :: added)
      | .error failure => .error failure := by
  have absent : ¬ Members.has name members = true := by
    rw [Bool.not_eq_true]
    exact missing
  rw [addAll, if_neg absent]
  cases addAll (.object (Members.put name (.string version) members)) dependencies <;> rfl

/-- What a section says after dependencies have been added. -/
structure Extended (before : Datum) (dependencies : Dependencies) (after : Datum)
    (added : List Word) : Prop where
  keeps : ∀ name, names before name = true → names after name = true
  done : ∀ dependency ∈ dependencies, names after dependency.1 = true
  needless : added = [] ↔ ∀ dependency ∈ dependencies, names before dependency.1 = true
  same : added = [] → after = before
  object : isObject after = isObject before
  rigid : isObject before = false → after = before

theorem extended_of_addAll {after : Datum} {added : List Word}
    (ok : addAll section' dependencies = .ok (after, added)) :
    Extended section' dependencies after added := by
  induction dependencies generalizing section' after added with
  | nil =>
    rw [addAll] at ok
    obtain ⟨rfl, rfl⟩ := Prod.mk.inj (Except.ok.inj ok)
    exact ⟨fun _ => id, by simp, by simp, fun _ => rfl, rfl, fun _ => rfl⟩
  | cons dependency rest inductionHypothesis =>
    obtain ⟨name, version⟩ := dependency
    cases named : names section' name with
    | true =>
      rw [addAll_of_names named] at ok
      obtain ⟨keeps, done, needless, same, object, rigid⟩ := inductionHypothesis ok
      refine ⟨keeps, List.forall_mem_cons.mpr ⟨keeps name named, done⟩, ?_, same, object, rigid⟩
      rw [needless, List.forall_mem_cons]
      simp [named]
    | false =>
      cases kind : isObject section' with
      | false =>
        rw [addAll_of_not_object kind, named, if_neg Bool.false_ne_true] at ok
        simp at ok
      | true =>
        match section', kind with
        | .object members, _ =>
          rw [addAll_of_object named] at ok
          split at ok
          · rename_i further found extended
            obtain ⟨rfl, rfl⟩ := Prod.mk.inj (Except.ok.inj ok)
            obtain ⟨keeps, done, needless, -, object, rigid⟩ := inductionHypothesis extended
            have now : names (.object (Members.put name (.string version) members)) name =
                true := by
              rw [names_put]
              simp
            refine ⟨fun other held => keeps other ?_,
              List.forall_mem_cons.mpr ⟨keeps name now, done⟩, ?_, by simp, object,
              by simp [isObject]⟩
            · rw [names_put, held, Bool.or_true]
            · simp [named]
          · simp at ok

/-- An object takes every dependency. -/
theorem exists_addAll_of_object (object : isObject section' = true) :
    ∃ outcome, addAll section' dependencies = .ok outcome := by
  induction dependencies generalizing section' with
  | nil => exact ⟨_, by rw [addAll]⟩
  | cons dependency rest inductionHypothesis =>
    obtain ⟨name, version⟩ := dependency
    cases named : names section' name with
    | true =>
      rw [addAll_of_names named]
      exact inductionHypothesis object
    | false =>
      match section', object with
      | .object members, _ =>
        obtain ⟨⟨after, added⟩, ok⟩ := @inductionHypothesis
          (.object (Members.put name (.string version) members)) rfl
        rw [addAll_of_object named, ok]
        exact ⟨_, rfl⟩

/-! ### The sections of a manifest -/

/-- The section of a manifest with a name; one that is not there is an empty object. -/
def sectionOf (name : Word) (manifest : Members) : Datum :=
  (manifest.lookup name).getD (.object [])

theorem sectionOf_put (name other : Word) (section' : Datum) (manifest : Members) :
    sectionOf name (Members.put other section' manifest) =
      if other = name then section' else sectionOf name manifest := by
  rw [sectionOf, Members.lookup_put, sectionOf]
  split <;> rfl

/-- Whether a manifest names all that is asked for. -/
def NamesAll (manifest : Members) (sections : Sections) : Prop :=
  ∀ part ∈ sections, ∀ dependency ∈ part.2, names (sectionOf part.1 manifest) dependency.1 = true

theorem namesAll_cons {manifest : Members} {rest : Sections} :
    NamesAll manifest ((name, dependencies) :: rest) ↔
      (∀ dependency ∈ dependencies, names (sectionOf name manifest) dependency.1 = true) ∧
        NamesAll manifest rest := List.forall_mem_cons

/-- Manifests with the same sections that are objects, and with the same other sections. -/
structure Alike (left right : Members) : Prop where
  object : ∀ name, isObject (sectionOf name right) = isObject (sectionOf name left)
  rigid : ∀ name, isObject (sectionOf name left) = false →
    sectionOf name right = sectionOf name left

/-- A manifest in which every name of another one stays, and every section that is no object. -/
structure Includes (before after : Members) : Prop extends Alike before after where
  keeps : ∀ name dependency, names (sectionOf name before) dependency = true →
    names (sectionOf name after) dependency = true

theorem Includes.refl (manifest : Members) : Includes manifest manifest where
  object _ := rfl
  rigid _ _ := rfl
  keeps _ _ := id

theorem Includes.trans {first second third : Members} (left : Includes first second)
    (right : Includes second third) : Includes first third where
  object name := (right.object name).trans (left.object name)
  rigid name kind := by
    have same := left.rigid name kind
    rw [right.rigid name (by rw [same, kind]), same]
  keeps name dependency named := right.keeps name dependency (left.keeps name dependency named)

theorem Includes.namesAll {before after : Members} (includes : Includes before after)
    {sections : Sections} (all : NamesAll before sections) : NamesAll after sections :=
  fun part member dependency listed =>
    includes.keeps part.1 dependency.1 (all part member dependency listed)

variable {manifest : Members} {after : Datum} {added : List Word} {sections rest : Sections}

/-- Writing a section back with dependencies added. -/
theorem includes_put (extended : Extended (sectionOf name manifest) dependencies after added) :
    Includes manifest (Members.put name after manifest) := by
  refine ⟨⟨fun other => ?_, fun other kind => ?_⟩, fun other dependency named => ?_⟩ <;>
    rw [sectionOf_put] <;> split
  · rename_i same
    rw [extended.object, same]
  · rfl
  · rename_i same
    subst same
    exact extended.rigid kind
  · rfl
  · rename_i same
    subst same
    exact extended.keeps dependency named
  · exact named

/-- Writing back the section that is there. -/
theorem sectionOf_put_self (name other : Word) (manifest : Members) :
    sectionOf name (Members.put other (sectionOf other manifest) manifest) =
      sectionOf name manifest := by
  rw [sectionOf_put]
  split
  · rename_i same
    rw [same]
  · rfl

theorem Alike.put {left right : Members} (alike : Alike left right) {leftAfter rightAfter : Datum}
    {leftAdded rightAdded : List Word}
    (leftExtended : Extended (sectionOf name left) dependencies leftAfter leftAdded)
    (rightExtended : Extended (sectionOf name right) dependencies rightAfter rightAdded) :
    Alike (Members.put name leftAfter left)
      (Members.put name rightAfter right) := by
  refine ⟨fun other => ?_, fun other kind => ?_⟩
  · rw [sectionOf_put, sectionOf_put]
    split
    · rw [leftExtended.object, rightExtended.object, alike.object]
    · exact alike.object other
  · rw [sectionOf_put] at kind
    rw [sectionOf_put, sectionOf_put]
    split
    · rename_i same
      rw [if_pos same, leftExtended.object] at kind
      rw [leftExtended.rigid kind, rightExtended.rigid (by rw [alike.object, kind])]
      exact alike.rigid name kind
    · rename_i different
      rw [if_neg different] at kind
      exact alike.rigid other kind

/-! ### Adding sections -/

theorem addSections_cons : addSections (.object manifest) ((name, dependencies) :: rest) =
    match addAll (sectionOf name manifest) dependencies with
    | .error failure => .error failure
    | .ok (merged, added) =>
      match addSections (.object (Members.put name merged manifest)) rest with
      | .error failure => .error failure
      | .ok (final, more) => .ok (final, added ++ more) := by
  rw [addSections]
  change Except.bind (addAll (sectionOf name manifest) dependencies) _ = _
  cases addAll (sectionOf name manifest) dependencies with
  | error failure => rfl
  | ok outcome =>
    obtain ⟨merged, added⟩ := outcome
    dsimp only
    change Except.bind (addSections (.object (Members.put name merged manifest)) rest) _ = _
    cases addSections (.object (Members.put name merged manifest)) rest <;> rfl

/-- The first of the sections that are added, and the others. -/
theorem exists_of_addSections_cons
    (ok : addSections (.object manifest) ((name, dependencies) :: rest) = .ok (after, added)) :
    ∃ merged first more, Extended (sectionOf name manifest) dependencies merged first ∧
      addSections (.object (Members.put name merged manifest)) rest = .ok (after, more) ∧
      added = first ++ more := by
  rw [addSections_cons] at ok
  split at ok
  · simp at ok
  · rename_i merged first extended
    split at ok
    · simp at ok
    · rename_i final more further
      obtain ⟨rfl, rfl⟩ := Prod.mk.inj (Except.ok.inj ok)
      exact ⟨merged, first, more, extended_of_addAll extended, further, rfl⟩

/-- What a manifest says after sections have been added: what it said and all that was asked for.
Nothing was added exactly if nothing was missing. -/
theorem includes_of_addSections
    (ok : addSections (.object manifest) sections = .ok (after, added)) :
    ∃ final, after = .object final ∧ Includes manifest final ∧ NamesAll final sections ∧
      (added = [] ↔ NamesAll manifest sections) := by
  induction sections generalizing manifest added with
  | nil =>
    rw [addSections] at ok
    obtain ⟨rfl, rfl⟩ := Prod.mk.inj (Except.ok.inj ok)
    exact ⟨manifest, rfl, .refl manifest, by simp [NamesAll], by simp [NamesAll]⟩
  | cons part rest inductionHypothesis =>
    obtain ⟨name, dependencies⟩ := part
    obtain ⟨merged, first, more, extended, further, rfl⟩ := exists_of_addSections_cons ok
    obtain ⟨final, rfl, includes, all, needless⟩ := inductionHypothesis further
    have wider := includes_put extended
    refine ⟨final, rfl, wider.trans includes, ?_, ?_⟩
    · refine namesAll_cons.mpr ⟨fun dependency listed => ?_, all⟩
      refine includes.keeps name dependency.1 ?_
      rw [sectionOf_put, if_pos rfl]
      exact extended.done dependency listed
    · rw [namesAll_cons, List.append_eq_nil_iff, needless, extended.needless]
      refine and_congr_right fun named => ⟨fun others => ?_, wider.namesAll⟩
      rw [extended.same (extended.needless.mpr named)] at others
      intro part member dependency listed
      have found := others part member dependency listed
      rwa [sectionOf_put_self] at found

/-- What can be added to a manifest can be added to every manifest like it. -/
theorem exists_addSections_of_alike {left right : Members} (alike : Alike left right)
    (ok : addSections (.object right) sections = .ok (after, added)) :
    ∃ outcome, addSections (.object left) sections = .ok outcome := by
  induction sections generalizing left right added with
  | nil => exact ⟨_, by rw [addSections]⟩
  | cons part rest inductionHypothesis =>
    obtain ⟨name, dependencies⟩ := part
    have taken : ∃ outcome, addAll (sectionOf name left) dependencies = .ok outcome := by
      cases kind : isObject (sectionOf name left) with
      | true => exact exists_addAll_of_object kind
      | false =>
        rw [← alike.rigid name kind]
        rw [addSections_cons] at ok
        split at ok
        · simp at ok
        · rename_i extended
          exact ⟨_, extended⟩
    obtain ⟨⟨merged, first⟩, took⟩ := taken
    obtain ⟨_, _, _, extended, further, -⟩ := exists_of_addSections_cons ok
    obtain ⟨⟨final, more⟩, added'⟩ :=
      inductionHypothesis (alike.put (extended_of_addAll took) extended) further
    rw [addSections_cons, took]
    dsimp only
    rw [added']
    exact ⟨_, rfl⟩

/-! ### Adding once more -/

/-- Whether adding sections to a manifest, if they can be added, adds nothing. -/
def IsIdle (sections : Sections) (manifest : Datum) : Prop :=
  ∀ after added, addSections manifest sections = .ok (after, added) → added = []

/-- A value that is no object takes no sections. -/
theorem eq_of_addSections_of_not_object {manifest : Datum} (rigid : isObject manifest = false)
    (ok : addSections manifest sections = .ok (after, added)) : after = manifest ∧ added = [] := by
  cases sections with
  | nil =>
    rw [addSections] at ok
    obtain ⟨rfl, rfl⟩ := Prod.mk.inj (Except.ok.inj ok)
    exact ⟨rfl, rfl⟩
  | cons part rest =>
    cases manifest with
    | object members => simp [isObject] at rigid
    | _ => simp [addSections] at ok

/-- What has been added is not added again. -/
theorem isIdle_of_addSections {manifest : Datum}
    (ok : addSections manifest sections = .ok (after, added)) : IsIdle sections after := by
  intro again more once
  cases kind : isObject manifest with
  | false =>
    obtain ⟨rfl, -⟩ := eq_of_addSections_of_not_object kind ok
    exact (eq_of_addSections_of_not_object kind once).2
  | true =>
    match manifest, kind with
    | .object members, _ =>
      obtain ⟨final, rfl, -, all, -⟩ := includes_of_addSections ok
      obtain ⟨-, -, -, -, needless⟩ := includes_of_addSections once
      exact needless.mpr all

/-- What need not be added, or cannot be, need not or cannot be after others have been added. -/
theorem IsIdle.addSections {manifest : Datum} (idle : IsIdle sections manifest) {others : Sections}
    (ok : Target.addSections manifest others = .ok (after, added)) : IsIdle sections after := by
  cases kind : isObject manifest with
  | false =>
    obtain ⟨rfl, -⟩ := eq_of_addSections_of_not_object kind ok
    exact idle
  | true =>
    match manifest, kind with
    | .object members, _ =>
      obtain ⟨final, rfl, includes, -⟩ := includes_of_addSections ok
      intro again more once
      -- If they can be added now, then they could be before, and nothing was missing.
      obtain ⟨⟨before, missing⟩, taken⟩ := exists_addSections_of_alike includes.toAlike once
      obtain ⟨-, -, -, -, needed⟩ := includes_of_addSections taken
      obtain ⟨-, -, -, -, needless⟩ := includes_of_addSections once
      exact needless.mpr (includes.namesAll (needed.mp (idle before missing taken)))

end GuidedMigration.Target
