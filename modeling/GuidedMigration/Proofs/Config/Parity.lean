/-
This file decides when the template and the local document have the same keys. Both are made from
the document of their kind that is there and from the fragments contributed, and what only the local
document has is carried back to the template, so one expects the same keys always. They are the same
unless one of the documents that are there holds a leaf where the other one holds a mapping: below
its own leaf a document has no keys, and neither the merge nor what is carried back puts the keys of
the other one there. `Clash` is that case, together with what the fragments must not say for it to
matter.

The main statement is about trails, which tell all keys apart. Key paths write a trail as one text;
they are equal as soon as the trails are, and where no key holds a dot they are equal only then.

Then it turns the statement about trails into one about key paths. The documents that are written
spell their keys as the documents and the fragments do that go into them. Where equal keys are
spelled alike there, equal trails are equal key paths; and where no key holds a dot, equal key paths
are equal trails, so that a clash always shows.
-/
import GuidedMigration.Proofs.Config.Built
import GuidedMigration.Proofs.Config.Carried
import GuidedMigration.Proofs.Value.KeyPath

namespace GuidedMigration.Config

open Value

/-! ### Equal keys -/

/-- Whether two documents hold something at the end of the same trails. -/
def SameTrails (left right : Mapping) : Prop :=
  ∀ trail, (Mapping.at? trail left).isSome = (Mapping.at? trail right).isSome

/-- One of the documents has a key below a leaf of the other, and the fragment does not make up for
it. -/
inductive Clash (template locals fragment : Mapping) : Prop where
  /-- A key of the template lies below a leaf of the local document, and the fragment neither has
  that key nor ends the trail to it in a leaf. -/
  | belowLocalLeaf (trail : Trail) (leaf : Mapping.blocks trail locals = true)
      (held : (Mapping.at? trail template).isSome = true)
      (unblocked : Mapping.blocks trail fragment = false)
      (missing : Mapping.at? trail fragment = none)
  /-- A key of the local document lies below a leaf of the template, and the fragment leaves that
  leaf alone. -/
  | belowTemplateLeaf (start rest : Trail) (below : rest ≠ [])
      (leaf : isLeaf? (Mapping.at? start template) = true)
      (held : (Mapping.at? (start ++ rest) locals).isSome = true)
      (untouched : passesOver start fragment = true)

/-- Documents of one shape hold something at the end of the same trails. -/
theorem sameTrails_of_shape {left right : Mapping}
    (same : Mapping.shape left = Mapping.shape right) : SameTrails left right := by
  have seen (document : Mapping) (trail : Trail) :
      (Mapping.at? trail document).isSome =
        (behind trail (some (Value.map document).shape)).isSome := by
    rw [← Option.map_some, behind_map_shape, Option.isSome_map, Mapping.at?]
  intro trail
  rw [seen, seen, Value.shape, Value.shape, same]

/-- Documents that hold something at the end of the same trails never clash. -/
theorem not_clash_of_sameTrails {template locals : Mapping} (same : SameTrails template locals)
    (fragment : Mapping) : ¬ Clash template locals fragment := by
  rintro (⟨trail, leaf, held, -, -⟩ | ⟨start, rest, below, leaf, held, -⟩)
  · rw [same, Mapping.at?_of_blocks leaf] at held
    simp at held
  · rw [← same, Mapping.at?_of_blocks (Mapping.blocks_of_isLeaf leaf below)] at held
    simp at held

/-! ### What the two documents hold -/

/-- A template with what is carried to it holds what it held, and what the local document holds
where no leaf of the template is on the way. -/
theorem isSome_at?_merge_carried {locals : Mapping} (keyed : Mapping.isKeyed locals = true)
    (template : Mapping) (trail : Trail) :
    (Mapping.at? trail (template.merge (carried template locals))).isSome =
      ((Mapping.at? trail template).isSome ||
        (!Mapping.blocks trail template && (Mapping.at? trail locals).isSome)) := by
  rw [Mapping.at?_merge (isKeyed_carried keyed template)]
  by_cases root : trail = []
  · subst root
    simp [Mapping.blocks, Value.blocks, Mapping.at?]
  · obtain ⟨inner, found⟩ := at?_carried keyed template root
    by_cases blocked : Mapping.blocks trail (carried template locals) = true
    · obtain ⟨left, right⟩ := at?_of_blocks_carried keyed blocked
      simp [blocked, left, right]
    · rw [if_neg blocked, isSome_overlaid, found]
      by_cases leaf : Mapping.blocks trail template = true
      · simp [leaf]
      · cases held : Mapping.at? trail template with
        | none => simp [leaf, isSome_carriedTo_none]
        | some value => simp

/-- A merged document holds what either side holds, where the second has no leaf on the way. -/
theorem isSome_at?_merge {fragment : Mapping} (keyed : Mapping.isKeyed fragment = true)
    (trail : Trail) (base : Mapping) :
    (Mapping.at? trail (base.merge fragment)).isSome =
      (!Mapping.blocks trail fragment &&
        ((Mapping.at? trail base).isSome || (Mapping.at? trail fragment).isSome)) := by
  rw [Mapping.at?_merge keyed]
  cases Mapping.blocks trail fragment <;> simp

/-- Below what a fragment leaves alone, it says nothing. -/
theorem below_of_passesOver {start rest : Trail} {fragment : Mapping}
    (untouched : passesOver start fragment = true) (below : rest ≠ []) :
    Mapping.at? (start ++ rest) fragment = none ∧
      Mapping.blocks (start ++ rest) fragment = false := by
  obtain ⟨key, rest, rfl⟩ := List.exists_cons_of_ne_nil below
  simp only [passesOver, Bool.and_eq_true, Bool.not_eq_true'] at untouched
  obtain ⟨unblocked, silent⟩ := untouched
  rw [Mapping.blocks] at unblocked
  rw [Mapping.at?_append, Mapping.blocks, blocks_append, unblocked, ← Mapping.at?]
  cases held : Mapping.at? start fragment with
  | none => simp
  | some value =>
    cases value with
    | map _ => simp [held, isNull] at silent
    | list _ => simp [held, isNull] at silent
    | set _ => simp [held, isNull] at silent
    | scalar atom => cases atom <;> simp_all [isNull, child, Value.blocks, isLeaf?, isLeaf]

/-! ### The two documents that are written -/

namespace Contributions

variable {contributions : Contributions} {template locals : Mapping}

/-- The local document holds what a fragment holds, and where no leaf of a fragment is on the way
what the local document held, and where none of that one's is either what the template held. -/
theorem isSome_at?_locals (localsKeyed : Mapping.isKeyed locals = true)
    (keyed : ∀ part ∈ contributions, Mapping.isKeyed part.fragment = true) (trail : Trail) :
    (Mapping.at? trail (contributions.pairFrom template locals).locals).isSome =
      (!Mapping.blocks trail contributions.templateFragment &&
        ((!Mapping.blocks trail locals &&
            ((Mapping.at? trail template).isSome || (Mapping.at? trail locals).isSome)) ||
          (Mapping.at? trail contributions.templateFragment).isSome)) := by
  have same := shape_localFragment contributions
  rw [pairFrom, isSome_at?_merge (isKeyed_localFragment keyed), isSome_at?_merge localsKeyed,
    Mapping.at?_fill, Mapping.blocks_of_shape same, Mapping.isSome_at?_of_shape same]
  simp

/-- The template loses no key of its own and of the fragments. -/
theorem isSome_at?_template (localsKeyed : Mapping.isKeyed locals = true)
    (templateKeyed : Mapping.isKeyed template = true)
    (keyed : ∀ part ∈ contributions, Mapping.isKeyed part.fragment = true) (trail : Trail) :
    let merged := template.merge contributions.templateFragment
    (Mapping.at? trail (contributions.pairFrom template locals).template).isSome =
      ((Mapping.at? trail merged).isSome || (!Mapping.blocks trail merged &&
        (Mapping.at? trail (contributions.pairFrom template locals).locals).isSome)) := by
  refine isSome_at?_merge_carried ?_ _ trail
  refine isKeyed_merge (isKeyed_merge ?_ localsKeyed) (isKeyed_localFragment keyed)
  rw [Mapping.isKeyed_fill, templateKeyed]

/-- Where the template that is written holds a key that the local document lacks. -/
theorem clash_of_missing_locally (localsKeyed : Mapping.isKeyed locals = true)
    (keyed : ∀ part ∈ contributions, Mapping.isKeyed part.fragment = true) {trail : Trail}
    (held : (Mapping.at? trail (template.merge contributions.templateFragment)).isSome = true)
    (lost : (Mapping.at? trail (contributions.pairFrom template locals).locals).isSome = false) :
    Clash template locals contributions.templateFragment := by
  rw [isSome_at?_merge (isKeyed_templateFragment keyed)] at held
  rw [isSome_at?_locals localsKeyed keyed] at lost
  simp only [Bool.and_eq_true, Bool.not_eq_true'] at held
  obtain ⟨unblocked, either⟩ := held
  simp only [unblocked, Bool.not_false, Bool.true_and, Bool.or_eq_false_iff] at lost
  obtain ⟨notLocally, notAdded⟩ := lost
  rw [notAdded, Bool.or_false] at either
  refine .belowLocalLeaf trail ?_ either unblocked (by simpa using notAdded)
  simpa [either] using notLocally

/-- Where the local document that is written holds a key that is not carried back. -/
theorem clash_of_missing_in_template (localsKeyed : Mapping.isKeyed locals = true)
    (keyed : ∀ part ∈ contributions, Mapping.isKeyed part.fragment = true) {trail : Trail}
    (held : (Mapping.at? trail (contributions.pairFrom template locals).locals).isSome = true)
    (blocked : Mapping.blocks trail (template.merge contributions.templateFragment) = true) :
    Clash template locals contributions.templateFragment := by
  obtain ⟨start, rest, rfl, below, leaf⟩ := blocks_iff.mp blocked
  have fragmentKeyed := isKeyed_templateFragment keyed
  rw [isSome_at?_locals localsKeyed keyed] at held
  simp only [Bool.and_eq_true, Bool.not_eq_true'] at held
  obtain ⟨unblocked, either⟩ := held
  have startUnblocked : Mapping.blocks start contributions.templateFragment = false := by
    rw [Mapping.blocks, blocks_append, Bool.or_eq_false_iff] at unblocked
    exact unblocked.1
  rw [← Mapping.at?, Mapping.at?_merge fragmentKeyed, startUnblocked, if_neg Bool.false_ne_true,
    isLeaf?_overlaid, Bool.or_eq_true, Bool.and_eq_true] at leaf
  rcases leaf with added | ⟨own, silent⟩
  · rw [Mapping.blocks_of_isLeaf added below] at unblocked
    exact absurd unblocked (by simp)
  · have untouched : passesOver start contributions.templateFragment = true := by
      simp [passesOver, startUnblocked, silent]
    have gone := Mapping.at?_of_blocks (Mapping.blocks_of_isLeaf own below)
    rw [gone, (below_of_passesOver untouched below).1] at either
    simp only [Option.isSome_none, Bool.or_false, Bool.false_or, Bool.and_eq_true] at either
    exact .belowTemplateLeaf start rest below own either.2 untouched

/-- The documents that are written have the same keys unless the documents that are there clash. -/
theorem sameTrails_iff (templateKeyed : Mapping.isKeyed template = true)
    (localsKeyed : Mapping.isKeyed locals = true)
    (keyed : ∀ part ∈ contributions, Mapping.isKeyed part.fragment = true) :
    SameTrails (contributions.pairFrom template locals).template
        (contributions.pairFrom template locals).locals ↔
      ¬ Clash template locals contributions.templateFragment := by
  have fragmentKeyed := isKeyed_templateFragment keyed
  constructor
  · intro same clash
    cases clash with
    | belowLocalLeaf trail leaf held unblocked missing =>
      have equal := same trail
      rw [isSome_at?_template localsKeyed templateKeyed keyed,
        isSome_at?_locals localsKeyed keyed, isSome_at?_merge fragmentKeyed] at equal
      simp [leaf, held, unblocked, missing] at equal
    | belowTemplateLeaf start rest below leaf held untouched =>
      have equal := same (start ++ rest)
      obtain ⟨silent, unblocked⟩ := below_of_passesOver untouched below
      have clear := Mapping.blocks_of_isSome held
      have gone := Mapping.at?_of_blocks (Mapping.blocks_of_isLeaf leaf below)
      have merged : isLeaf? (Mapping.at? start
          (template.merge contributions.templateFragment)) = true := by
        simp only [passesOver, Bool.and_eq_true, Bool.not_eq_true'] at untouched
        rw [Mapping.at?_merge fragmentKeyed, untouched.1, if_neg Bool.false_ne_true,
          isLeaf?_overlaid,
          leaf, untouched.2]
        simp
      rw [isSome_at?_template localsKeyed templateKeyed keyed,
        isSome_at?_locals localsKeyed keyed, isSome_at?_merge fragmentKeyed,
        Mapping.blocks_of_isLeaf merged below] at equal
      simp [silent, unblocked, clear, gone, held] at equal
  · intro agree trail
    rw [isSome_at?_template localsKeyed templateKeyed keyed]
    cases held : (Mapping.at? trail (template.merge contributions.templateFragment)).isSome with
    | true =>
      cases found : (Mapping.at? trail (contributions.pairFrom template locals).locals).isSome with
      | true => rfl
      | false => exact absurd (clash_of_missing_locally localsKeyed keyed held found) agree
    | false =>
      cases blocked : Mapping.blocks trail (template.merge contributions.templateFragment) with
      | false => simp
      | true =>
        cases found :
          (Mapping.at? trail (contributions.pairFrom template locals).locals).isSome with
        | false => simp
        | true => exact absurd (clash_of_missing_in_template localsKeyed keyed found blocked) agree

end Contributions

end GuidedMigration.Config

namespace GuidedMigration.Config

open Value

variable {allowed : Scalar → Prop} {leafAllowed : Value → Prop}

/-! ### The keys of what is carried -/

mutual

theorem madeOf_asPlaceholders (texts : ∀ word, leafAllowed (.text word)) {value : Value}
    (path : List Text) (parts : value.MadeOf allowed leafAllowed) :
    (asPlaceholders path value).MadeOf allowed leafAllowed := by
  match value with
  | .map [] | .list _ | .set _ | .scalar _ =>
    rw [asPlaceholders, leafPlaceholder, MadeOf]
    exact texts _
  | .map (entry :: rest) =>
    have entriesParts : Mapping.MadeOf allowed leafAllowed (entry :: rest) := by
      simpa [MadeOf] using parts
    simpa [asPlaceholders, MadeOf] using madeOf_entriesAsPlaceholders texts path entriesParts

theorem madeOf_entriesAsPlaceholders (texts : ∀ word, leafAllowed (.text word))
    {entries : List (Scalar × Value)} (path : List Text)
    (parts : Mapping.MadeOf allowed leafAllowed entries) :
    Mapping.MadeOf allowed leafAllowed (entriesAsPlaceholders path entries) := by
  match entries with
  | [] => trivial
  | (key, value) :: rest =>
    obtain ⟨keyAllowed, valueParts, restParts⟩ := Mapping.madeOf_cons.mp parts
    exact Mapping.madeOf_cons.mpr ⟨keyAllowed, madeOf_asPlaceholders texts _ valueParts,
      madeOf_entriesAsPlaceholders texts path restParts⟩

end

mutual

theorem madeOf_carriedValue (texts : ∀ word, leafAllowed (.text word)) {value extra : Value}
    {path : List Text} {held : Option Value} (parts : value.MadeOf allowed leafAllowed)
    (found : carriedValue path held value = some extra) : extra.MadeOf allowed leafAllowed := by
  have placeholders := madeOf_asPlaceholders texts path parts
  match value with
  | .map entries =>
    have entriesParts : Mapping.MadeOf allowed leafAllowed entries := by
      simpa [MadeOf] using parts
    match held with
    | none => simp_all [carriedValue]
    | some (.map template) =>
      have extraParts := madeOf_carriedEntries texts path template entriesParts
      rw [carriedValue] at found
      split at found
      · simp at found
      · rw [← Option.some.inj found]
        simpa [MadeOf] using extraParts
    | some (.list _) => simp [carriedValue] at found
    | some (.set _) => simp [carriedValue] at found
    | some (.scalar atom) => cases atom <;> simp_all [carriedValue]
  | .list _ | .set _ | .scalar _ =>
    rw [carriedValue] at found
    split at found
    · exact Option.some.inj found ▸ placeholders
    · simp at found

/-- What is carried has keys of the local document and texts for its leaves. -/
theorem madeOf_carriedEntries (texts : ∀ word, leafAllowed (.text word))
    {entries : List (Scalar × Value)} (path : List Text) (template : Mapping)
    (parts : Mapping.MadeOf allowed leafAllowed entries) :
    Mapping.MadeOf allowed leafAllowed (carriedEntries path template entries) := by
  match entries with
  | [] => trivial
  | (key, value) :: rest =>
    obtain ⟨keyAllowed, valueParts, restParts⟩ := Mapping.madeOf_cons.mp parts
    have restCarried := madeOf_carriedEntries texts path template restParts
    rw [carriedEntries]
    split
    · rename_i extra found
      exact Mapping.madeOf_cons.mpr
        ⟨keyAllowed, madeOf_carriedValue texts valueParts found, restCarried⟩
    · exact restCarried

end

/-! ### Key paths -/

/-- Whether two documents have the same key paths. -/
def SameKeyPaths (left right : Mapping) : Prop :=
  ∀ path, path ∈ (Value.map left).keyPaths ↔ path ∈ (Value.map right).keyPaths

/-- A trail is one of a keyed document, up to the spelling of its keys, if the document holds
something at its end. -/
theorem trails_of_sameTrails {left right : Mapping} (leftKeyed : Mapping.isKeyed left = true)
    (same : SameTrails left right) {trail : Trail} (member : trail ∈ Mapping.trails left) :
    ∃ written ∈ Mapping.trails right,
      written.map Scalar.identity = trail.map Scalar.identity := by
  have held := isSome_at?_of_mem_trails leftKeyed member
  rw [same] at held
  cases trail with
  | nil => exact absurd rfl (Mapping.ne_nil_of_mem_trails member)
  | cons key trail => exact mem_trails_of_isSome_at? held

/-- Where keys that are the same are spelled alike, so are trails. -/
theorem eq_of_identity (alike : ∀ left right, allowed left → allowed right →
      left.same right = true → left = right) {first second : Trail}
    (firstAllowed : ∀ key ∈ first, allowed key) (secondAllowed : ∀ key ∈ second, allowed key)
    (same : first.map Scalar.identity = second.map Scalar.identity) : first = second := by
  induction first generalizing second with
  | nil => exact (List.map_eq_nil_iff.mp same.symm).symm
  | cons key first inductionHypothesis =>
    obtain ⟨other, second, rfl, equal, rest⟩ := List.map_eq_cons_iff.mp same.symm
    rw [alike key other (firstAllowed key List.mem_cons_self)
      (secondAllowed other List.mem_cons_self)
        (by simp [Scalar.same, equal]),
      inductionHypothesis (fun key member => firstAllowed key (List.mem_cons_of_mem _ member))
        (fun key member => secondAllowed key (List.mem_cons_of_mem _ member)) rest.symm]

/-- Where keys that are the same are spelled alike, a document has the key paths of every keyed one
with the same trails. -/
theorem mem_keyPaths_of_sameTrails (alike : ∀ left right, allowed left → allowed right →
      left.same right = true → left = right) {left right : Mapping}
    (leftKeyed : Mapping.isKeyed left = true) (leftKeys : Mapping.KeysIn allowed left)
    (rightKeys : Mapping.KeysIn allowed right) (same : SameTrails left right) {path : Text}
    (member : path ∈ (Value.map left).keyPaths) : path ∈ (Value.map right).keyPaths := by
  obtain ⟨trail, trailMember, rfl⟩ := mem_keyPaths.mp member
  obtain ⟨written, writtenMember, names⟩ := trails_of_sameTrails leftKeyed same trailMember
  have equal := eq_of_identity alike (Mapping.allowed_of_mem_trails rightKeys writtenMember)
    (Mapping.allowed_of_mem_trails leftKeys trailMember) names
  exact mem_keyPaths.mpr ⟨written, writtenMember, by rw [equal]⟩

/-- A document that has the key paths of another one, with plain keys, holds something wherever that
one does. -/
theorem isSome_at?_of_sameKeyPaths {left right : Mapping}
    (rightKeyed : Mapping.isKeyed right = true)
    (leftKeys : Mapping.KeysIn Scalar.IsPlain left)
    (rightKeys : Mapping.KeysIn Scalar.IsPlain right)
    (same : SameKeyPaths left right) {trail : Trail}
    (held : (Mapping.at? trail left).isSome = true) : (Mapping.at? trail right).isSome = true := by
  cases trail with
  | nil => rfl
  | cons key trail =>
    obtain ⟨written, writtenMember, names⟩ := mem_trails_of_isSome_at? held
    obtain ⟨other, otherMember, alike⟩ :=
      mem_keyPaths.mp ((same _).mp (mem_keyPaths.mpr ⟨written, writtenMember, rfl⟩))
    have equal := Trail.eq_of_dotted (Mapping.allowed_of_mem_trails rightKeys otherMember)
      (Mapping.allowed_of_mem_trails leftKeys writtenMember)
      (Mapping.ne_nil_of_mem_trails otherMember) (Mapping.ne_nil_of_mem_trails writtenMember) alike
    have found := isSome_at?_of_mem_trails rightKeyed otherMember
    rwa [Mapping.at?, equal, behind_of_identity names] at found

/-! ### The two documents that are written -/

namespace Contributions

variable {contributions : Contributions} {template locals : Mapping}

theorem isKeyed_template (templateKeyed : Mapping.isKeyed template = true)
    (localsKeyed : Mapping.isKeyed locals = true)
    (keyed : ∀ part ∈ contributions, Mapping.isKeyed part.fragment = true) :
    Mapping.isKeyed (contributions.pairFrom template locals).template = true :=
  isKeyed_merge (isKeyed_merge templateKeyed (isKeyed_templateFragment keyed))
    (isKeyed_carried (isKeyed_locals templateKeyed localsKeyed keyed) _)

theorem keysIn_locals (templateKeys : Mapping.KeysIn allowed template)
    (localsKeys : Mapping.KeysIn allowed locals)
    (keys : ∀ part ∈ contributions, Mapping.KeysIn allowed part.fragment) :
    Mapping.KeysIn allowed (contributions.pairFrom template locals).locals :=
  madeOf_merge (madeOf_merge (Mapping.keysIn_fill _ templateKeys) localsKeys)
    (Mapping.madeOf_foldl_merge Contribution.localFragment trivial
      fun part member => Mapping.keysIn_fill _ (keys part member))

theorem keysIn_template (templateKeys : Mapping.KeysIn allowed template)
    (localsKeys : Mapping.KeysIn allowed locals)
    (keys : ∀ part ∈ contributions, Mapping.KeysIn allowed part.fragment) :
    Mapping.KeysIn allowed (contributions.pairFrom template locals).template :=
  madeOf_merge
    (madeOf_merge templateKeys (Mapping.madeOf_foldl_merge Contribution.fragment trivial keys))
    (madeOf_carriedEntries (fun _ => trivial) [] _ (keysIn_locals templateKeys localsKeys keys))

/-- The documents that are written have the same keys unless the documents that are there clash.
Without a clash they have the same key paths, where equal keys are spelled alike in all that goes
into them; and where all keys are plain, they have the same key paths only without a clash. -/
theorem sameKeyPaths_iff {templatePath localPath : Path} {tree : Tree} {pair : Pair}
    (builds : contributions.Builds templatePath localPath tree template locals pair)
    (keyed : ∀ part ∈ contributions, Mapping.isKeyed part.fragment = true) :
    let clash := Clash template locals contributions.templateFragment
    (SameTrails pair.template pair.locals ↔ ¬ clash) ∧
    (∀ allowed : Scalar → Prop,
      (∀ left right, allowed left → allowed right → left.same right = true → left = right) →
      Mapping.KeysIn allowed template → Mapping.KeysIn allowed locals →
      (∀ part ∈ contributions, Mapping.KeysIn allowed part.fragment) →
      ¬ clash → SameKeyPaths pair.template pair.locals) ∧
    (Mapping.KeysIn Scalar.IsPlain template → Mapping.KeysIn Scalar.IsPlain locals →
      (∀ part ∈ contributions, Mapping.KeysIn Scalar.IsPlain part.fragment) →
      (SameKeyPaths pair.template pair.locals ↔ ¬ clash)) := by
  intro clash
  have templateKeyed := builds.templateKeyed
  have localsKeyed := builds.localsKeyed
  obtain rfl := builds.pair_eq
  have sameTrails : SameTrails (contributions.pairFrom template locals).template
      (contributions.pairFrom template locals).locals ↔ ¬ clash :=
    sameTrails_iff templateKeyed localsKeyed keyed
  have localsWritten := isKeyed_locals templateKeyed localsKeyed keyed
  have templateWritten := isKeyed_template templateKeyed localsKeyed keyed
  have sameKeyPaths (allowed : Scalar → Prop)
      (alike : ∀ left right, allowed left → allowed right → left.same right = true → left = right)
      (templateKeys : Mapping.KeysIn allowed template) (localsKeys : Mapping.KeysIn allowed locals)
      (keys : ∀ part ∈ contributions, Mapping.KeysIn allowed part.fragment) (agree : ¬ clash) :
      SameKeyPaths (contributions.pairFrom template locals).template
        (contributions.pairFrom template locals).locals := by
    have inTemplate := keysIn_template templateKeys localsKeys keys
    have inLocals := keysIn_locals templateKeys localsKeys keys
    have same := sameTrails.mpr agree
    exact fun path =>
      ⟨mem_keyPaths_of_sameTrails alike templateWritten inTemplate inLocals same,
        mem_keyPaths_of_sameTrails alike localsWritten inLocals inTemplate fun trail =>
          (same trail).symm⟩
  refine ⟨sameTrails, sameKeyPaths, fun templateKeys localsKeys keys => ⟨fun same => ?_, ?_⟩⟩
  · refine sameTrails.mp fun trail => Bool.eq_iff_iff.mpr ⟨?_, ?_⟩
    · exact isSome_at?_of_sameKeyPaths localsWritten
        (keysIn_template templateKeys localsKeys keys) (keysIn_locals templateKeys localsKeys keys)
        same
    · exact isSome_at?_of_sameKeyPaths templateWritten
        (keysIn_locals templateKeys localsKeys keys) (keysIn_template templateKeys localsKeys keys)
        fun path => (same path).symm
  · exact sameKeyPaths Scalar.IsPlain (fun _ _ => Scalar.IsPlain.eq_of_same) templateKeys localsKeys
      keys

/-- Where both documents hold the key of a contribution, both hold what becomes of it, under the
same key path. -/
theorem sameKeyPaths_of_shared_key :
    let entry (key word : String) : Scalar × Value := (.text key.toList, text word.toList)
    let template := [entry "a" "b", entry "x" "y"]
    let locals := [entry "a" "c", entry "x" "z"]
    let pair : Pair := ⟨[entry "a" "b", (.text "x".toList, text (Placeholder.ofName "N".toList))],
      [entry "a" "c", entry "x" "v"]⟩
    Builds [smallContribution] (.ofText "app-config.yaml".toList)
      (.ofText "app-config.local.yaml".toList)
      (smallTree "a: b\nx: y\n".toList "a: c\nx: z\n".toList) template locals pair ∧
      SameTrails pair.template pair.locals ∧ SameKeyPaths pair.template pair.locals := by
  intro entry template locals pair
  have builds : Builds [smallContribution] (.ofText "app-config.yaml".toList)
      (.ofText "app-config.local.yaml".toList)
      (smallTree "a: b\nx: y\n".toList "a: c\nx: z\n".toList) template locals pair :=
    builds_smallTree (by decide +kernel) (by decide +kernel) (by decide +kernel)
  have plainKey (key : String) (written : key.toList ≠ []) (dotless : '.' ∉ key.toList) :
      Scalar.IsPlain (.text key.toList) := ⟨key.toList, rfl, written, dotless⟩
  have plainA := plainKey "a" (by decide) (by decide)
  have plainX := plainKey "x" (by decide) (by decide)
  have plain : ∀ part ∈ [smallContribution], Mapping.KeysIn Scalar.IsPlain part.fragment := by
    rintro part member
    obtain rfl := List.mem_singleton.mp member
    exact ⟨plainX, trivial, trivial⟩
  have agree : ¬ Clash template locals (templateFragment [smallContribution]) :=
    not_clash_of_sameTrails (sameTrails_of_shape (by rfl)) _
  obtain ⟨trails, -, plainPaths⟩ := sameKeyPaths_iff builds (by decide)
  exact ⟨builds, trails.mpr agree, (plainPaths ⟨plainA, trivial, plainX, trivial, trivial⟩
    ⟨plainA, trivial, plainX, trivial, trivial⟩ plain).mpr agree⟩

/-- A template that holds a mapping where the local document holds a leaf keeps a key path that the
local document lacks. -/
theorem not_sameKeyPaths_of_leaf_over_mapping :
    ∃ pair, Builds [smallContribution] (.ofText "app-config.yaml".toList)
      (.ofText "app-config.local.yaml".toList)
      (smallTree "a:\n  b: 1\n".toList "a: 5\n".toList)
      [(.text "a".toList, .map [(.text "b".toList, .int 1)])] [(.text "a".toList, .int 5)] pair ∧
      (∀ part ∈ [smallContribution], Mapping.isKeyed part.fragment = true) ∧
      ¬ SameKeyPaths pair.template pair.locals := by
  refine ⟨pairFrom [smallContribution] [(.text "a".toList, .map [(.text "b".toList, .int 1)])]
      [(.text "a".toList, .int 5)],
    builds_smallTree (by decide +kernel) (by decide +kernel) (by decide +kernel), by decide,
    fun same => ?_⟩
  have written := (same "a.b".toList).mp (mem_keyPaths.mpr
    ⟨[.text "a".toList, .text "b".toList], by decide, by decide⟩)
  obtain ⟨trail, member, path⟩ := mem_keyPaths.mp written
  revert trail
  decide

end Contributions

end GuidedMigration.Config
