/-
This file says which placeholders stand in a template for the leaves that a local document has
beyond it. The placeholder of a leaf is made of the words of the keys on the way to it. Words are
runs of ASCII letters and digits, so that neither the case nor the marks between them, nor where one
key ends and the next one begins, can be told from the name. A leaf can be supplied exactly if the
first of its words begins with a letter, and alone exactly if no other leaf has the same words.
-/
import GuidedMigration.Config.Accumulator
import GuidedMigration.Proofs.Value.PlaceholderName
import GuidedMigration.Proofs.Value.Trail

namespace GuidedMigration

/-! ### Leaves -/

mutual

/-- The leaves of a value at the end of a trail, each with the trail to it. A mapping without
entries is a leaf. -/
def Value.leavesFrom (trail : Trail) : Value → List (Trail × Value)
  | .map [] => [(trail, .map [])]
  | .map (entry :: rest) => Mapping.leavesFrom trail (entry :: rest)
  | .scalar atom => [(trail, .scalar atom)]
  | .list items => [(trail, .list items)]
  | .set members => [(trail, .set members)]

/-- The leaves of the entries of a mapping at the end of a trail. -/
def Mapping.leavesFrom (trail : Trail) : List (Scalar × Value) → List (Trail × Value)
  | [] => []
  | (key, value) :: rest => value.leavesFrom (trail ++ [key]) ++ Mapping.leavesFrom trail rest

end

/-- The leaves of a mapping, each with the trail to it. -/
def Mapping.leaves (mapping : Mapping) : List (Trail × Value) := Mapping.leavesFrom [] mapping

namespace Config

open Text Placeholder

variable {entry first second : Trail × Value}

/-- The words of the keys of a trail. -/
def trailWords (trail : Trail) : List Text := trail.flatMap fun key => phraseWords key.display

/-- The placeholder of the leaf at the end of a trail. -/
def placeholderOf (trail : Trail) : Text :=
  ofName (joinWith ['_'] ((trailWords trail).map capital))

/-- Whether a value is one placeholder, and the only one that is found in it. -/
def IsPlaceholder (leaf : Value) : Prop :=
  ∃ name, leaf = .text (ofName name) ∧ leaf.placeholders = [name]

/-- Whether supplying a value for a name changes a leaf. -/
def Sets (name word : Text) (leaf : Value) : Prop := leaf.fill [(name, word)] ≠ leaf

/-! ### The placeholder of a leaf -/

/-- The name of a trail. -/
theorem nameOf_trail (trail : Trail) :
    nameOf (joinWith ['_'] (trail.map Scalar.display)) =
      joinWith ['_'] ((trailWords trail).map capital) := by
  rw [nameOf_eq, phraseWords_joinWith (by decide), List.flatMap_map]
  rfl

theorem leafPlaceholder_eq (trail : Trail) :
    leafPlaceholder (trail.map Scalar.display) = .text (placeholderOf trail) := by
  rw [leafPlaceholder, nameOf_trail, placeholderOf]

theorem map_display_append (trail : Trail) (key : Scalar) :
    trail.map Scalar.display ++ [key.display] = (trail ++ [key]).map Scalar.display := by
  rw [List.map_append, List.map_singleton]

mutual

theorem leaf_of_mem_asPlaceholders {trail : Trail} {value : Value}
    (member : entry ∈ (asPlaceholders (trail.map Scalar.display) value).leavesFrom trail) :
    entry.2 = .text (placeholderOf entry.1) := by
  have leaf (member : entry ∈
      (leafPlaceholder (trail.map Scalar.display)).leavesFrom trail) :
      entry.2 = .text (placeholderOf entry.1) := by
    rw [leafPlaceholder_eq, Value.leavesFrom, List.mem_singleton] at member
    rw [member]
  match value with
  | .map [] => exact leaf member
  | .map ((key, value) :: rest) =>
    rw [asPlaceholders, entriesAsPlaceholders, Value.leavesFrom] at member
    rw [← entriesAsPlaceholders] at member
    exact leaf_of_mem_entriesAsPlaceholders member
  | .scalar _ => exact leaf member
  | .list _ => exact leaf member
  | .set _ => exact leaf member

theorem leaf_of_mem_entriesAsPlaceholders {trail : Trail} {entries : List (Scalar × Value)}
    (member : entry ∈ Mapping.leavesFrom trail
      (entriesAsPlaceholders (trail.map Scalar.display) entries)) :
    entry.2 = .text (placeholderOf entry.1) := by
  match entries with
  | [] => cases member
  | (key, value) :: rest =>
    rw [entriesAsPlaceholders, Mapping.leavesFrom, List.mem_append, map_display_append] at member
    exact member.elim leaf_of_mem_asPlaceholders leaf_of_mem_entriesAsPlaceholders

end

mutual

theorem leaf_of_mem_carriedValue {trail : Trail} {held : Option Value} {value extra : Value}
    (carried : carriedValue (trail.map Scalar.display) held value = some extra)
    (member : entry ∈ extra.leavesFrom trail) : entry.2 = .text (placeholderOf entry.1) := by
  have whole (given : some (asPlaceholders (trail.map Scalar.display) value) = some extra) :
      entry.2 = .text (placeholderOf entry.1) := by
    obtain rfl := Option.some.inj given
    exact leaf_of_mem_asPlaceholders member
  match value, held with
  | .map entries, none => exact whole (by simpa [carriedValue] using carried)
  | .map entries, some (.map template) =>
    cases extras : carriedEntries (trail.map Scalar.display) template entries with
    | nil => simp [carriedValue, extras] at carried
    | cons first rest =>
      simp only [carriedValue, extras] at carried
      obtain rfl := Option.some.inj carried
      rw [Value.leavesFrom, ← extras] at member
      exact leaf_of_mem_carriedEntries member
  | .map _, some (.list _) => simp [carriedValue] at carried
  | .map _, some (.set _) => simp [carriedValue] at carried
  | .map _, some (.scalar atom) =>
    cases atom with
    | null => exact whole (by simpa [carriedValue] using carried)
    | _ => simp [carriedValue] at carried
  | .scalar _, none => exact whole (by simpa [carriedValue] using carried)
  | .list _, none => exact whole (by simpa [carriedValue] using carried)
  | .set _, none => exact whole (by simpa [carriedValue] using carried)
  | .scalar _, some _ => simp [carriedValue] at carried
  | .list _, some _ => simp [carriedValue] at carried
  | .set _, some _ => simp [carriedValue] at carried

theorem leaf_of_mem_carriedEntries {trail : Trail} {template : Mapping}
    {entries : List (Scalar × Value)}
    (member : entry ∈ Mapping.leavesFrom trail
      (carriedEntries (trail.map Scalar.display) template entries)) :
    entry.2 = .text (placeholderOf entry.1) := by
  match entries with
  | [] => cases member
  | (key, value) :: rest =>
    rw [carriedEntries, map_display_append] at member
    split at member
    · rename_i extra carried
      rw [Mapping.leavesFrom, List.mem_append] at member
      exact member.elim (leaf_of_mem_carriedValue carried) leaf_of_mem_carriedEntries
    · exact leaf_of_mem_carriedEntries member

end

/-- The leaves of what is carried back are the placeholders of their trails. -/
theorem leaf_of_mem_carried {template locals : Mapping}
    (member : entry ∈ (carried template locals).leaves) :
    entry.2 = .text (placeholderOf entry.1) :=
  @leaf_of_mem_carriedEntries entry [] template locals member

/-! ### Usable placeholders -/

theorem all_isNameChar_trail (trail : Trail) :
    (joinWith ['_'] ((trailWords trail).map capital)).all isNameChar = true := by
  rw [← nameOf_trail]
  exact all_isNameChar_nameOf _

theorem isName_trail (trail : Trail) :
    isName (joinWith ['_'] ((trailWords trail).map capital)) =
      beginsWithLetter (trailWords trail) := by
  rw [← nameOf_trail, isName_nameOf, phraseWords_joinWith (by decide), List.flatMap_map]
  rfl

/-- Two trails have the same placeholder if they have the same words in capitals, and only then. -/
theorem placeholderOf_eq_placeholderOf {left right : Trail} :
    placeholderOf left = placeholderOf right ↔
      (trailWords left).map capital = (trailWords right).map capital := by
  refine ⟨fun same => ?_, fun same => by rw [placeholderOf, placeholderOf, same]⟩
  have names := ofName_injective same
  rw [← nameOf_trail, ← nameOf_trail, nameOf_eq_nameOf, phraseWords_joinWith (by decide),
    phraseWords_joinWith (by decide), List.flatMap_map, List.flatMap_map] at names
  exact names

/-- The placeholder of a trail is found if its first word begins with a letter, and only then. -/
theorem isPlaceholder_placeholderOf {trail : Trail} :
    IsPlaceholder (.text (placeholderOf trail)) ↔ beginsWithLetter (trailWords trail) = true := by
  have names : Value.placeholders (.text (placeholderOf trail)) =
      if beginsWithLetter (trailWords trail)
      then [joinWith ['_'] ((trailWords trail).map capital)] else [] := by
    rw [Value.placeholders, Value.texts, List.flatMap_singleton, placeholderOf,
      namesInText_ofName (all_isNameChar_trail trail), isName_trail]
    split <;> rfl
  rw [IsPlaceholder, names]
  split
  · rename_i begins
    exact ⟨fun _ => begins, fun _ => ⟨_, rfl, rfl⟩⟩
  · rename_i others
    refine iff_of_false ?_ others
    rintro ⟨name, -, found⟩
    cases found

/-- A placeholder is replaced by the value for its name, if it is found at all. -/
theorem sets_placeholderOf {name word : Text} {trail : Trail} :
    Sets name word (.text (placeholderOf trail)) ↔
      beginsWithLetter (trailWords trail) = true ∧
        name = joinWith ['_'] ((trailWords trail).map capital) ∧ word ≠ ofName name := by
  have filled : Value.fill [(name, word)] (.text (placeholderOf trail)) =
      .text (if beginsWithLetter (trailWords trail) then
        (Values.get? (joinWith ['_'] ((trailWords trail).map capital)) [(name, word)]).getD
          (placeholderOf trail)
        else placeholderOf trail) := by
    rw [Value.fill, Value.mapTexts, placeholderOf,
      fillText_ofName _ (all_isNameChar_trail trail), isName_trail]
  rw [Sets, filled]
  cases begins : beginsWithLetter (trailWords trail) with
  | false => simp
  | true =>
    by_cases same : name = joinWith ['_'] ((trailWords trail).map capital)
    · subst same
      simp [Values.get?, placeholderOf]
    · have missing : List.lookup (joinWith ['_'] ((trailWords trail).map capital)) [(name, word)] =
          none := by simp [Ne.symm same]
      simp [Values.get?, missing, same]

/-- The placeholders that are carried back, for any template and local document: each leaf is found
as a placeholder exactly if the first word on its trail begins with a letter; leaves on different
trails have different placeholders exactly if their words in capitals differ; and supplying one
value never sets leaves on two trails exactly if this holds of the leaves that can be supplied. -/
theorem carried_leaves_usable_iff (template locals : Mapping) :
    ((∀ entry ∈ (carried template locals).leaves, IsPlaceholder entry.2) ↔
      ∀ entry ∈ (carried template locals).leaves,
        beginsWithLetter (trailWords entry.1) = true) ∧
    ((∀ first ∈ (carried template locals).leaves, ∀ second ∈ (carried template locals).leaves,
        first.1 ≠ second.1 → first.2 ≠ second.2) ↔
      ∀ first ∈ (carried template locals).leaves, ∀ second ∈ (carried template locals).leaves,
        first.1 ≠ second.1 →
          (trailWords first.1).map capital ≠ (trailWords second.1).map capital) ∧
    ((∀ name word, ∀ first ∈ (carried template locals).leaves,
        ∀ second ∈ (carried template locals).leaves,
          Sets name word first.2 → Sets name word second.2 → first.1 = second.1) ↔
      ∀ first ∈ (carried template locals).leaves, ∀ second ∈ (carried template locals).leaves,
        beginsWithLetter (trailWords first.1) = true → first.1 ≠ second.1 →
          (trailWords first.1).map capital ≠ (trailWords second.1).map capital) := by
  refine ⟨?usable, ?different, ?alone⟩
  case usable =>
    refine forall₂_congr fun entry member => ?_
    rw [leaf_of_mem_carried member, isPlaceholder_placeholderOf]
  case different =>
    refine forall₄_congr fun first firstMember second secondMember => imp_congr_right fun _ => ?_
    rw [leaf_of_mem_carried firstMember, leaf_of_mem_carried secondMember]
    refine not_congr ⟨fun same => ?_, fun same => ?_⟩
    · exact placeholderOf_eq_placeholderOf.mp (Scalar.text.inj (Value.scalar.inj same))
    · rw [placeholderOf_eq_placeholderOf.mpr same]
  case alone =>
    constructor
    · intro alone first firstMember second secondMember begins different same
      have otherBegins : beginsWithLetter (trailWords second.1) = true := by
        rw [← isName_trail, ← same, isName_trail, begins]
      refine different (alone (joinWith ['_'] ((trailWords first.1).map capital)) [] first
        firstMember second secondMember ?_ ?_)
      · rw [leaf_of_mem_carried firstMember, sets_placeholderOf]
        exact ⟨begins, rfl, Ne.symm (List.cons_ne_nil _ _)⟩
      · rw [leaf_of_mem_carried secondMember, sets_placeholderOf, same]
        exact ⟨otherBegins, rfl, Ne.symm (List.cons_ne_nil _ _)⟩
    · intro apart name word first firstMember second secondMember firstSet secondSet
      rw [leaf_of_mem_carried firstMember, sets_placeholderOf] at firstSet
      rw [leaf_of_mem_carried secondMember, sets_placeholderOf] at secondSet
      have sameName : placeholderOf first.1 = placeholderOf second.1 := by
        rw [placeholderOf, ← firstSet.2.1, placeholderOf, ← secondSet.2.1]
      exact Decidable.byContradiction fun different =>
        apart first firstMember second secondMember firstSet.1 different
          (placeholderOf_eq_placeholderOf.mp sameName)

/-- The session secret of a local document can be supplied, and alone. -/
theorem carried_leaves_of_session :
    let locals : Mapping := [(.text "auth".toList, .map [(.text "session".toList,
      .map [(.text "secret".toList, .text "s".toList), (.text "id".toList, .int 1)])])]
    (∀ entry ∈ (carried [] locals).leaves, IsPlaceholder entry.2) ∧
      ((carried [] locals).leaves.map fun entry => placeholderOf entry.1) =
        ["$\x7bAUTH_SESSION_SECRET\x7d".toList, "$\x7bAUTH_SESSION_ID\x7d".toList] :=
  ⟨(carried_leaves_usable_iff [] _).1.mpr (by decide), by decide⟩

/-- The leaf at a key that begins with a digit, such as `2fa`, is not found as a placeholder, so
that no value can be supplied for it. -/
theorem carried_leaf_not_found :
    (carried [] [(.text "2fa".toList, .text "x".toList)]).leaves =
        [([.text "2fa".toList], .text "$\x7b2FA\x7d".toList)] ∧
      Mapping.placeholders (carried [] [(.text "2fa".toList, .text "x".toList)]) = [] ∧
      ¬IsPlaceholder (.text "$\x7b2FA\x7d".toList) := by
  refine ⟨rfl, by decide, fun ⟨name, _, found⟩ => ?_⟩
  have missing : Value.placeholders (.text "$\x7b2FA\x7d".toList) = [] := by decide
  rw [missing] at found
  cases found

/-- The leaves at `a-b` and `a_b` have the same placeholder, so that one value sets both. -/
theorem carried_leaves_alike :
    let extra := carried [] [(.text "a-b".toList, .text "x".toList),
      (.text "a_b".toList, .text "y".toList)]
    extra.leaves = [([.text "a-b".toList], .text "$\x7bA_B\x7d".toList),
        ([.text "a_b".toList], .text "$\x7bA_B\x7d".toList)] ∧
      (extra.fill [("A_B".toList, "v".toList)]).leaves = [([.text "a-b".toList], .text "v".toList),
        ([.text "a_b".toList], .text "v".toList)] :=
  ⟨rfl, rfl⟩

end Config

end GuidedMigration
