/-
This file says how what is carried from a local document completes its template. With it, the
template holds all that either document holds, unless one of its leaves stands where the local
document has a mapping; and no leaf of it is touched.

A mapping does not tell a key from one that it is equal to but written otherwise, as the truth value
and the number one are, and it writes it as it did at first. So the keys of the local document
are written in the completed template as the template writes them, where it holds them. A spelled
trail is one whose keys are written as they are held, and the key paths are the spelled trails.
-/
import GuidedMigration.Proofs.Config.Parity
import GuidedMigration.Proofs.Config.Secrecy

namespace GuidedMigration

/-! ### How keys are written -/

namespace Mapping

theorem stored?_eq_none {key : Scalar} {mapping : Mapping} :
    stored? key mapping = none ↔ get? key mapping = none := by
  rw [← Option.isNone_iff_eq_none, ← Option.isNone_iff_eq_none, ← Option.not_isSome,
    ← Option.not_isSome, isSome_stored?]

theorem stored?_of_same {left right : Scalar} (same : left.same right = true) (mapping : Mapping) :
    stored? left mapping = stored? right mapping := by
  induction mapping with
  | nil => rfl
  | cons entry rest inductionHypothesis =>
    obtain ⟨other, value⟩ := entry
    simp only [stored?, same_eq_of_same same other, inductionHypothesis]

theorem same_of_stored? {key written : Scalar} {mapping : Mapping}
    (found : stored? key mapping = some written) : written.same key = true := by
  induction mapping with
  | nil => simp [stored?] at found
  | cons entry rest inductionHypothesis =>
    rw [stored?] at found
    split at found
    · next same => exact Option.some.inj found ▸ same
    · exact inductionHypothesis found

theorem allowed_of_stored? {allowed : Scalar → Prop} {key written : Scalar} {mapping : Mapping}
    (keys : KeysIn allowed mapping) (found : stored? key mapping = some written) :
    allowed written := by
  induction mapping with
  | nil => simp [stored?] at found
  | cons entry rest inductionHypothesis =>
    obtain ⟨keyAllowed, -, restKeys⟩ := madeOf_cons.mp keys
    rw [stored?] at found
    split at found
    · exact Option.some.inj found ▸ keyAllowed
    · exact inductionHypothesis restKeys found

end Mapping

namespace Value

variable {key written : Scalar} {held : Option Value} {trail : Trail}

/-- A key of what is held, as it is written there. -/
def keyOf? (key : Scalar) : Option Value → Option Scalar
  | some (.map entries) => Mapping.stored? key entries
  | _ => none

/-- Whether a trail leads along keys that are written as they are held. -/
def IsSpelled : Trail → Option Value → Prop
  | [], _ => True
  | key :: trail, held => keyOf? key held = some key ∧ IsSpelled trail (child key held)

/-- A trail with each key written as it is held, as far as keys are held. -/
def spell : Trail → Option Value → Trail
  | [], _ => []
  | key :: trail, held => (keyOf? key held).getD key :: spell trail (child key held)

theorem keyOf?_eq_none : keyOf? key held = none ↔ child key held = none := by
  match held with
  | some (.map entries) => exact Mapping.stored?_eq_none
  | none | some (.scalar _) | some (.list _) | some (.set _) => simp [keyOf?, child]

theorem keyOf?_of_same {left right : Scalar} (same : left.same right = true)
    (held : Option Value) : keyOf? left held = keyOf? right held := by
  match held with
  | some (.map entries) => exact Mapping.stored?_of_same same entries
  | none | some (.scalar _) | some (.list _) | some (.set _) => rfl

theorem same_of_keyOf? (found : keyOf? key held = some written) : written.same key = true := by
  match held with
  | some (.map entries) => exact Mapping.same_of_stored? found
  | none | some (.scalar _) | some (.list _) | some (.set _) => simp [keyOf?] at found

/-- Behind nothing there is only the empty trail. -/
theorem IsSpelled.eq_nil (spelled : IsSpelled trail none) : trail = [] := by
  cases trail with
  | nil => rfl
  | cons key trail => exact nomatch spelled.1

theorem isSpelled_of_keyOf? (found : keyOf? key held = some written) :
    IsSpelled (written :: trail) held ↔ IsSpelled trail (child key held) := by
  have same := same_of_keyOf? found
  rw [IsSpelled, keyOf?_of_same same, child_of_same same]
  exact and_iff_right found

theorem spell_cons_of_same (same : written.same key = true) (trail : Trail) :
    spell (written :: trail) held =
      (keyOf? key held).getD written :: spell trail (child key held) := by
  rw [spell, keyOf?_of_same same, child_of_same same]

mutual

/-- The trails of a value are the spelled ones. -/
theorem mem_trails {value : Value} (keyed : value.isKeyed = true) (trail : Trail) :
    trail ∈ value.trails ↔ trail ≠ [] ∧ IsSpelled trail (some value) := by
  match value with
  | .map entries =>
    rw [trails]
    exact mem_trails_map (by simpa [isKeyed] using keyed) trail
  | .list _ | .set _ | .scalar _ => cases trail <;> simp [trails, IsSpelled, keyOf?]

theorem mem_trails_map {entries : List (Scalar × Value)} (keyed : Mapping.isKeyed entries = true)
    (trail : Trail) :
    trail ∈ Mapping.trails entries ↔ trail ≠ [] ∧ IsSpelled trail (some (.map entries)) := by
  match entries with
  | [] => cases trail <;> simp [Mapping.trails, IsSpelled, keyOf?, Mapping.stored?]
  | (key, value) :: rest =>
    obtain ⟨fresh, valueKeyed, restKeyed⟩ := Mapping.isKeyed_cons.mp keyed
    cases trail with
    | nil => simpa using fun member => Mapping.ne_nil_of_mem_trails member rfl
    | cons first trail =>
      have inRest := mem_trails_map restKeyed (first :: trail)
      rw [Mapping.trails, List.mem_cons, List.mem_append, List.mem_map, inRest, IsSpelled,
        IsSpelled, keyOf?, keyOf?, child_map, child_map, Mapping.stored?, Mapping.get?]
      by_cases same : key.same first = true
      · have missing : Mapping.stored? first rest = none := by
          rw [Mapping.stored?_eq_none, ← Mapping.get?_of_same same, fresh]
        rw [if_pos same, if_pos same, missing]
        constructor
        · rintro (equal | ⟨inner, member, equal⟩ | ⟨-, found, -⟩)
          · obtain ⟨rfl, rfl⟩ := List.cons.inj equal
            exact ⟨List.cons_ne_nil _ _, rfl, trivial⟩
          · obtain ⟨rfl, rfl⟩ := List.cons.inj equal
            exact ⟨List.cons_ne_nil _ _, rfl, ((mem_trails valueKeyed inner).mp member).2⟩
          · exact nomatch found
        · rintro ⟨-, equal, spelled⟩
          obtain rfl := Option.some.inj equal
          cases trail with
          | nil => exact .inl rfl
          | cons next trail =>
            exact .inr (.inl ⟨next :: trail,
              (mem_trails valueKeyed _).mpr ⟨List.cons_ne_nil _ _, spelled⟩, rfl⟩)
      · have different : key ≠ first := fun equal => same (equal ▸ Scalar.same_refl key)
        rw [if_neg same, if_neg same]
        simp [different, Ne.symm different]

end

/-! ### What holds the keys of two others -/

/-- Whether a value holds the keys of two others at every depth, each written as the first one
writes it if that holds it. -/
def Unites (whole first second : Option Value) : Prop :=
  ∀ trail key, keyOf? key (behind trail whole) =
    (keyOf? key (behind trail first)).or (keyOf? key (behind trail second))

variable {whole first second : Option Value}

theorem Unites.child (unites : Unites whole first second) (key : Scalar) :
    Unites (child key whole) (child key first) (child key second) :=
  fun trail => unites (key :: trail)

/-- The spelled trails of the whole are those of the first and, respelled, those of the second. -/
theorem Unites.isSpelled_iff (unites : Unites whole first second) :
    IsSpelled trail whole ↔
      IsSpelled trail first ∨ ∃ other, IsSpelled other second ∧ spell other first = trail := by
  induction trail generalizing whole first second with
  | nil => simp [IsSpelled]
  | cons key trail inductionHypothesis =>
    have here : keyOf? key whole = (keyOf? key first).or (keyOf? key second) := unites [] key
    have below := inductionHypothesis (unites.child key)
    constructor
    · rintro ⟨found, spelled⟩
      rw [found] at here
      rw [below] at spelled
      rcases spelled with spelled | ⟨other, spelled, rfl⟩
      · cases inFirst : keyOf? key first with
        | some written =>
          rw [inFirst, Option.some_or] at here
          exact .inl ⟨inFirst.trans here.symm, spelled⟩
        | none =>
          -- Nothing of the first is behind a key it does not hold, so the trail ends here.
          rw [inFirst, Option.none_or] at here
          rw [keyOf?_eq_none.mp inFirst] at spelled
          obtain rfl := spelled.eq_nil
          exact .inr ⟨[key], ⟨here.symm, trivial⟩, by rw [spell, inFirst]; rfl⟩
      · cases inSecond : keyOf? key second with
        | some written =>
          rw [inSecond, Option.or_some, Option.some.injEq] at here
          refine .inr ⟨written :: other, (isSpelled_of_keyOf? inSecond).mpr spelled, ?_⟩
          rw [spell_cons_of_same (same_of_keyOf? inSecond), ← here]
        | none =>
          rw [inSecond, Option.or_none] at here
          rw [keyOf?_eq_none.mp inSecond] at spelled
          obtain rfl := spelled.eq_nil
          exact .inl ⟨here.symm, trivial⟩
    · rintro (⟨found, spelled⟩ | ⟨other, spelled, respelled⟩)
      · exact ⟨by rw [here, found]; rfl, below.mpr (.inl spelled)⟩
      · cases other with
        | nil => exact nomatch respelled
        | cons written other =>
          obtain ⟨found, spelled⟩ := spelled
          rw [spell, List.cons.injEq] at respelled
          obtain ⟨chosen, rfl⟩ := respelled
          have same : written.same key = true := by
            cases inFirst : keyOf? written first with
            | none => rw [← chosen, inFirst]; exact Scalar.same_refl written
            | some other =>
              rw [← chosen, inFirst, Scalar.same_comm]
              exact same_of_keyOf? inFirst
          refine ⟨?_, below.mpr (.inr ⟨other, ?_, ?_⟩)⟩
          · rw [here, ← keyOf?_of_same same, ← keyOf?_of_same same, found, Option.or_some, chosen]
          · rwa [← child_of_same same]
          · rw [child_of_same same]

/-- Whether each two keys that are equal and held at the same place of two values read alike. -/
def ReadAlike (first second : Option Value) : Prop :=
  ∀ trail key left right, keyOf? key (behind trail first) = some left →
    keyOf? key (behind trail second) = some right → left.display = right.display

/-- Respelling keys that read alike leaves a key path as it is. -/
theorem ReadAlike.dotted_spell (alike : ReadAlike first second) (spelled : IsSpelled trail second)
    (base : Text) : Trail.dotted base (spell trail first) = Trail.dotted base trail := by
  induction trail generalizing first second base with
  | nil => rfl
  | cons key trail inductionHypothesis =>
    obtain ⟨found, spelled⟩ := spelled
    have reads : ((keyOf? key first).getD key).display = key.display := by
      cases inFirst : keyOf? key first with
      | none => rfl
      | some written => exact alike [] key written key inFirst found
    rw [spell, Trail.dotted, Trail.dotted, reads,
      inductionHypothesis (fun trail => alike (key :: trail)) spelled]

theorem keysIn_behind {allowed : Scalar → Prop} (keys : ∀ value, held = some value →
    value.KeysIn allowed) (trail : Trail) :
    ∀ value, behind trail held = some value → value.KeysIn allowed := by
  induction trail generalizing held with
  | nil => exact keys
  | cons key trail inductionHypothesis =>
    refine inductionHypothesis fun value found => ?_
    match held with
    | none | some (.scalar _) | some (.list _) | some (.set _) => simp [child] at found
    | some (.map entries) =>
      have entriesKeys : Mapping.KeysIn allowed entries := by
        simpa [MadeOf] using keys (.map entries) rfl
      exact Mapping.madeOf_of_get? entriesKeys found

theorem allowed_of_keyOf? {allowed : Scalar → Prop} (keys : ∀ value, held = some value →
    value.KeysIn allowed) (found : keyOf? key held = some written) : allowed written := by
  match held with
  | none | some (.scalar _) | some (.list _) | some (.set _) => simp [keyOf?] at found
  | some (.map entries) =>
    have entriesKeys : Mapping.KeysIn allowed entries := by
      simpa [MadeOf] using keys (.map entries) rfl
    exact Mapping.allowed_of_stored? entriesKeys found

/-- Keys that are equal only if they are written alike read alike. -/
theorem readAlike_of_keysIn {allowed : Scalar → Prop}
    (alike : ∀ left right, allowed left → allowed right → left.same right = true → left = right)
    {left right : Mapping} (leftKeys : Mapping.KeysIn allowed left)
    (rightKeys : Mapping.KeysIn allowed right) :
    ReadAlike (some (.map left)) (some (.map right)) := by
  have inMap {entries : Mapping} (keys : Mapping.KeysIn allowed entries) (value : Value)
      (same : some (.map entries) = some value) : value.KeysIn allowed := by
    obtain rfl := Option.some.inj same
    simpa [MadeOf] using keys
  intro trail key first second inFirst inSecond
  have firstAllowed := allowed_of_keyOf? (keysIn_behind (inMap leftKeys) trail) inFirst
  have secondAllowed := allowed_of_keyOf? (keysIn_behind (inMap rightKeys) trail) inSecond
  have same : first.same second = true :=
    Scalar.same_trans (same_of_keyOf? inFirst)
      (by rw [Scalar.same_comm]; exact same_of_keyOf? inSecond)
  rw [alike first second firstAllowed secondAllowed same]

theorem isKeyed_behind (keyed : held.all isKeyed = true) (trail : Trail) :
    (behind trail held).all isKeyed = true := by
  induction trail generalizing held with
  | nil => exact keyed
  | cons key trail inductionHypothesis => exact inductionHypothesis (isKeyed_child keyed key)

theorem keyOf?_overlaid (key : Scalar) {old new : Option Value}
    (free : isLeaf? new = true → keyOf? key old = none) :
    keyOf? key (overlaid old new) = (keyOf? key old).or (keyOf? key new) := by
  match new with
  | none => rw [overlaid_none]; exact (Option.or_none).symm
  | some (.map entries) =>
    by_cases bare : ∀ base, old ≠ some (.map base)
    · rw [overlaid_map_of_bare bare, keyOf?_eq_none.mpr (child_of_bare bare key), Option.none_or]
    · obtain ⟨base, mapping⟩ := Classical.not_forall.mp bare
      obtain rfl := Classical.not_not.mp mapping
      rw [overlaid_map]
      exact Mapping.stored?_merge key base entries
  | some (.list items) =>
    rw [free rfl, overlaid_of_isLeaf rfl, Option.none_or]
  | some (.set members) =>
    rw [free rfl, overlaid_of_isLeaf rfl, Option.none_or]
  | some (.scalar atom) =>
    cases atom with
    | null =>
      rw [overlaid_null]
      cases old <;> simp [keyOf?]
    | _ => rw [free rfl, overlaid_of_isLeaf rfl, Option.none_or]

end Value

namespace Config

open Value

variable {template locals : Mapping} {held new : Option Value}

/-! ### What is carried -/

/-- Whether no leaf of the first document stands where the second one has a mapping. -/
def MakesRoom (first second : Mapping) : Prop :=
  ∀ trail entries, isLeaf? (Mapping.at? trail first) = true →
    Mapping.at? trail second ≠ some (.map entries)

/-- Below a leaf of a document that leaves room, the other one holds nothing. -/
theorem MakesRoom.at?_eq_none (room : MakesRoom template locals) {trail : Trail}
    (blocked : Mapping.blocks trail template = true) : Mapping.at? trail locals = none := by
  obtain ⟨start, rest, rfl, below, leaf⟩ := Value.blocks_iff.mp blocked
  obtain ⟨key, rest, rfl⟩ := List.exists_cons_of_ne_nil below
  rw [Mapping.at?_append, behind_cons, child_of_bare (fun entries => room start entries leaf),
    behind_none]

theorem keyOf?_asPlaceholders (path : List Text) (key : Scalar) (value : Value) :
    keyOf? key (some (asPlaceholders path value)) = keyOf? key (some value) := by
  cases value with
  | map entries =>
    cases entries with
    | nil => rfl
    | cons entry rest =>
      rw [asPlaceholders]
      exact stored?_entriesAsPlaceholders path key (entry :: rest)
  | list _ | set _ | scalar _ => rfl

/-- What is carried to a mapping brings it the keys that the local mapping has beyond it. -/
theorem or_stored?_carriedEntries {entries : Mapping} (keyed : Mapping.isKeyed entries = true)
    (path : List Text) (template : Mapping) (key : Scalar) :
    (Mapping.stored? key template).or (Mapping.stored? key (carriedEntries path template entries)) =
      (Mapping.stored? key template).or (Mapping.stored? key entries) := by
  rcases stored?_carriedEntries keyed path template key with missing | spelled
  · cases inTemplate : Mapping.stored? key template with
    | some written => rw [Option.some_or, Option.some_or]
    | none =>
      -- What the template does not hold is carried whenever it is there.
      rw [Mapping.stored?_eq_none, get?_carriedEntries keyed,
        Mapping.stored?_eq_none.mp inTemplate] at missing
      have absent : Mapping.get? key entries = none := by
        cases found : Mapping.get? key entries with
        | none => rfl
        | some value => simp [found, carriedValue_none] at missing
      rw [Mapping.stored?_eq_none.mpr absent, Option.none_or, Option.none_or,
        Mapping.stored?_eq_none,
        get?_carriedEntries keyed, absent]
      rfl
  · rw [spelled]

/-- What is carried to what the template holds brings it the keys it lacks. -/
theorem or_keyOf?_carriedTo (keyed : new.all isKeyed = true) (path : List Text) (key : Scalar)
    (room : ∀ entries, isLeaf? held = true → new ≠ some (.map entries)) :
    (keyOf? key held).or (keyOf? key (carriedTo path held new)) =
      (keyOf? key held).or (keyOf? key new) := by
  match held, new with
  | held, none => rfl
  | none, some value =>
    rw [carriedTo, Option.bind_some, carriedValue_none, keyOf?_asPlaceholders]
  | some (.map template), some (.map entries) =>
    have keys := or_stored?_carriedEntries (by simpa [isKeyed] using keyed) path template key
    rw [carriedTo, Option.bind_some, carriedValue]
    refine Eq.trans ?_ keys
    cases carriedEntries path template entries <;> rfl
  | some (.scalar atom), some (.map entries) =>
    cases atom with
    | null => rw [carriedTo, Option.bind_some, carriedValue, keyOf?_asPlaceholders]
    | _ => exact absurd rfl (room entries rfl)
  | some (.list _), some (.map entries) | some (.set _), some (.map entries) =>
    exact absurd rfl (room entries rfl)
  | some held, some (.scalar _) | some held, some (.list _) | some held, some (.set _) =>
    simp [carriedTo, carriedValue, keyOf?]

/-- A template that leaves room holds, with what is carried to it, the keys of both documents. -/
theorem unites_merge_carried (keyed : Mapping.isKeyed locals = true)
    (room : MakesRoom template locals) :
    Unites (some (.map (template.merge (carried template locals)))) (some (.map template))
      (some (.map locals)) := by
  intro trail key
  by_cases root : trail = []
  · rw [root]
    exact (Mapping.stored?_merge key template _).trans
      (or_stored?_carriedEntries keyed [] template key)
  show keyOf? key (Mapping.at? trail (template.merge (carried template locals))) =
    (keyOf? key (Mapping.at? trail template)).or (keyOf? key (Mapping.at? trail locals))
  by_cases blocked : Mapping.blocks trail template = true
  · have absent := isSome_at?_merge_carried keyed template trail
    rw [Mapping.at?_of_blocks blocked, blocked] at absent
    rw [Option.isSome_eq_false_iff.mp absent |> Option.isNone_iff_eq_none.mp,
      Mapping.at?_of_blocks blocked, room.at?_eq_none blocked]
    rfl
  · obtain ⟨inner, merged⟩ := at?_merge_carried keyed root (by simpa using blocked)
    have localsKeyed : (Mapping.at? trail locals).all isKeyed = true :=
      isKeyed_behind (by simpa [isKeyed] using keyed) trail
    have free (leaf : isLeaf? (carriedTo inner (Mapping.at? trail template)
        (Mapping.at? trail locals)) = true) : keyOf? key (Mapping.at? trail template) = none :=
      keyOf?_eq_none.mpr (child_of_isLeaf_carriedTo leaf key).1
    rw [merged, keyOf?_overlaid key free]
    exact or_keyOf?_carriedTo localsKeyed inner key (room trail)

/-! ### The completed template -/

/-- What is carried from documents whose outlines are rearranged is rearranged. -/
theorem rearranged_carried_of_outline {other : Mapping} (keyed : Mapping.isKeyed locals = true)
    (otherKeyed : Mapping.isKeyed other = true)
    (same : Mapping.Rearranged (Mapping.outline locals) (Mapping.outline other))
    (template : Mapping) :
    Mapping.Rearranged (carried template locals) (carried template other) := by
  rw [← Mapping.isKeyed_outline] at keyed otherKeyed
  rw [← Mapping.shape_outline locals, ← Mapping.shape_outline other] at same
  have carriedSame := rearranged_carried same keyed otherKeyed template
  rwa [carried, carried, carriedEntries_outline, carriedEntries_outline] at carriedSame

/-- The trails of the completed template are its own and, respelled, those of the local document. -/
theorem mem_trails_merge_carried (templateKeyed : Mapping.isKeyed template = true)
    (localsKeyed : Mapping.isKeyed locals = true) (room : MakesRoom template locals)
    (trail : Trail) :
    trail ∈ Mapping.trails (template.merge (carried template locals)) ↔
      trail ∈ Mapping.trails template ∨
        ∃ other ∈ Mapping.trails locals, spell other (some (.map template)) = trail := by
  have completedKeyed := isKeyed_merge templateKeyed (isKeyed_carried localsKeyed template)
  have unites := unites_merge_carried localsKeyed room
  rw [mem_trails_map completedKeyed, mem_trails_map templateKeyed, unites.isSpelled_iff,
    and_or_left]
  refine or_congr_right ⟨?_, ?_⟩
  · rintro ⟨nonempty, other, spelled, rfl⟩
    refine ⟨other, (mem_trails_map localsKeyed other).mpr ⟨?_, spelled⟩, rfl⟩
    rintro rfl
    exact nonempty rfl
  · rintro ⟨other, member, rfl⟩
    obtain ⟨nonempty, spelled⟩ := (mem_trails_map localsKeyed other).mp member
    refine ⟨?_, other, spelled, rfl⟩
    obtain ⟨key, other, rfl⟩ := List.exists_cons_of_ne_nil nonempty
    exact List.cons_ne_nil _ _

/-- The completed template has the key paths of the template and those of the local document, with
each key written as the template writes it where it holds that key. These are the key paths of both
where equal keys read alike. Every leaf of the template is untouched, and what is carried does not
depend on what the leaves of the local document are. -/
theorem carried_completes_template (templateKeyed : Mapping.isKeyed template = true)
    (localsKeyed : Mapping.isKeyed locals = true) (room : MakesRoom template locals) :
    let completed := template.merge (carried template locals)
    (∀ path, path ∈ (Value.map completed).keyPaths ↔
      path ∈ (Value.map template).keyPaths ∨
        ∃ trail ∈ Mapping.trails locals,
          Trail.dotted [] (spell trail (some (.map template))) = path) ∧
    (ReadAlike (some (.map template)) (some (.map locals)) →
      ∀ path, path ∈ (Value.map completed).keyPaths ↔
        path ∈ (Value.map template).keyPaths ∨ path ∈ (Value.map locals).keyPaths) ∧
    (∀ trail, isLeaf? (Mapping.at? trail template) = true →
      Mapping.at? trail completed = Mapping.at? trail template) ∧
    (∀ other, Mapping.isKeyed other = true →
      (Mapping.outline locals = Mapping.outline other →
        carried template locals = carried template other) ∧
      (Mapping.Rearranged (Mapping.outline locals) (Mapping.outline other) →
        Mapping.Rearranged (carried template locals) (carried template other))) := by
  intro completed
  have paths (path : Text) : path ∈ (Value.map completed).keyPaths ↔
      path ∈ (Value.map template).keyPaths ∨ ∃ trail ∈ Mapping.trails locals,
        Trail.dotted [] (spell trail (some (.map template))) = path := by
    rw [mem_keyPaths, mem_keyPaths, trails, trails]
    simp only [completed, mem_trails_merge_carried templateKeyed localsKeyed room, or_and_right,
      exists_or]
    refine or_congr_right ⟨?_, ?_⟩
    · rintro ⟨-, ⟨other, member, rfl⟩, path⟩
      exact ⟨other, member, path⟩
    · rintro ⟨other, member, path⟩
      exact ⟨_, ⟨other, member, rfl⟩, path⟩
  refine ⟨paths, fun alike path => ?_, fun trail => at?_merge_carried_of_isLeaf localsKeyed,
    fun other otherKeyed => ⟨fun same => ?_, fun same =>
      rearranged_carried_of_outline localsKeyed otherKeyed same template⟩⟩
  · rw [paths, @mem_keyPaths path (.map locals), trails]
    refine or_congr_right (exists_congr fun trail => and_congr_right fun member => ?_)
    rw [alike.dotted_spell ((mem_trails_map localsKeyed trail).mp member).2]
  · rw [carried, carried, ← carriedEntries_outline, same, carriedEntries_outline]

/-- Only the places of the first document's keys have to be looked at. -/
theorem makesRoom_iff :
    MakesRoom template locals ↔ ∀ trail ∈ Mapping.trails template,
      isLeaf? (Mapping.at? trail template) = true →
        (Mapping.at? trail locals).all (fun value => value.isLeaf || value.isNull) = true := by
  constructor
  · intro room trail _ leaf
    cases held : Mapping.at? trail locals with
    | none => rfl
    | some value =>
      cases value with
      | map entries => exact absurd held (room trail entries leaf)
      | list _ | set _ => rfl
      | scalar atom => cases atom <;> rfl
  · intro check trail entries leaf found
    cases trail with
    | nil => exact absurd leaf Bool.false_ne_true
    | cons key trail =>
      obtain ⟨written, member, names⟩ := mem_trails_of_isSome_at? (Option.isSome_of_any leaf)
      have sameLeaf := behind_of_identity names (some (.map template))
      have sameHeld := behind_of_identity names (some (.map locals))
      have free := check written member (by rwa [Mapping.at?, sameLeaf])
      rw [Mapping.at?, sameHeld, ← Mapping.at?, found] at free
      exact absurd free Bool.false_ne_true

/-- A template with a port, the empty value and an empty mapping. -/
def sparseTemplate : Mapping :=
  [(.text "backend".toList, .record [("port", .int 7007), ("auth", .null), ("cache", .map [])]),
    (.text "title".toList, .text "T".toList)]

/-- A local document with more below the empty value and the empty mapping, and no port. -/
def fullLocals : Mapping :=
  [(.text "app".toList, .map []), (.text "backend".toList,
    .record [("port", .null), ("auth", .record [("github", .int 1)]),
      ("cache", .record [("ttl", .list [])])])]

theorem carried_completes_sparse_template :
    let completed := sparseTemplate.merge (carried sparseTemplate fullLocals)
    MakesRoom sparseTemplate fullLocals ∧
      (∀ path, path ∈ (Value.map completed).keyPaths ↔
        path ∈ (Value.map sparseTemplate).keyPaths ∨ path ∈ (Value.map fullLocals).keyPaths) ∧
      Mapping.at? (Mapping.trailOf ["backend", "port"]) completed = some (.int 7007) := by
  have room : MakesRoom sparseTemplate fullLocals := makesRoom_iff.mpr (by decide)
  obtain ⟨-, alike, leaves, -⟩ := carried_completes_template (by decide) (by decide) room
  have texts (left right : Scalar) (leftText : ∃ word, left = .text word)
      (rightText : ∃ word, right = .text word) (same : left.same right = true) : left = right := by
    obtain ⟨word, rfl⟩ := leftText
    obtain ⟨other, rfl⟩ := rightText
    simpa [Scalar.same, Scalar.identity] using same
  refine ⟨room, alike (readAlike_of_keysIn texts ?_ ?_),
    leaves (Mapping.trailOf ["backend", "port"]) rfl⟩
  · simp [sparseTemplate, record, MadeOf, Mapping.MadeOf]
  · simp [fullLocals, record, MadeOf, Mapping.MadeOf]

/-- The number one and the truth value are one key. The completed template writes it as the template
does, and so lacks a key path of the local document. -/
theorem completed_template_respells_key :
    let template : Mapping := [(.int 1, .record [("a", .text "x".toList)])]
    let locals : Mapping := [(.bool true, .record [("b", .text "y".toList)])]
    let completed := template.merge (carried template locals)
    Mapping.isKeyed template = true ∧ Mapping.isKeyed locals = true ∧
      MakesRoom template locals ∧ MakesRoom locals template ∧
      ¬ ∀ path, path ∈ (Value.map completed).keyPaths ↔
        path ∈ (Value.map template).keyPaths ∨ path ∈ (Value.map locals).keyPaths := by
  intro template locals completed
  refine ⟨by decide, by decide, makesRoom_iff.mpr (by decide), makesRoom_iff.mpr (by decide),
    fun same => ?_⟩
  have written := (same "True".toList).mpr (.inr (mem_keyPaths.mpr
    ⟨[.bool true], by decide, by decide⟩))
  obtain ⟨trail, member, path⟩ := mem_keyPaths.mp written
  revert trail
  decide

end Config

end GuidedMigration
