/-
This file compares values as a program compares them: scalars that are the same key are alike, lists
are compared place by place, and neither the order of a mapping's entries nor that of a set's
members counts. The test that decides whether a document has to be written, `agrees`, only looks at
one side; on proper values it is this relation all the same, because two lists of distinct keys that
are equally long and one inside the other have the same keys.

Alike documents cannot be told apart by looking along trails, by merging or by filling placeholders
in, and documents that look alike along every trail are alike.
-/
import GuidedMigration.Proofs.Value.Keyed
import GuidedMigration.Proofs.Value.Replay
import Mathlib.Data.List.Perm.Subperm

namespace GuidedMigration

/-- Whether two values are equal but for the order of entries and members and for the spelling of
scalars that are the same key. -/
inductive Value.Alike : Value → Value → Prop where
  | scalar {left right : Scalar} (same : left.same right = true) :
      Alike (.scalar left) (.scalar right)
  | list {left right : List Value} (length : left.length = right.length)
      (places : ∀ (place : Nat) first second, left[place]? = some first →
        right[place]? = some second → Alike first second) :
      Alike (.list left) (.list right)
  | set {left right : List Scalar}
      (members : ∀ member, (left.any (·.same member)) = right.any (·.same member)) :
      Alike (.set left) (.set right)
  | map {left right : Mapping} (keys : ∀ key, Mapping.has key left = Mapping.has key right)
      (values : ∀ key first second, Mapping.get? key left = some first →
        Mapping.get? key right = some second → Alike first second) :
      Alike (.map left) (.map right)

/-- Whether nothing is held twice, or alike values are. -/
def Value.Alike? : Option Value → Option Value → Prop
  | none, none => True
  | some left, some right => Value.Alike left right
  | _, _ => False

namespace Value

/-! ### An equivalence -/

theorem Alike.refl (value : Value) : Alike value value := by
  match value with
  | .scalar atom => exact .scalar (Scalar.same_refl atom)
  | .set members => exact .set fun _ => rfl
  | .list items =>
    refine .list rfl fun place first second left right => ?_
    obtain rfl := Option.some.inj (left.symm.trans right)
    exact Alike.refl first
  | .map entries =>
    refine .map (fun _ => rfl) fun key first second left right => ?_
    obtain rfl := Option.some.inj (left.symm.trans right)
    exact Alike.refl first
termination_by sizeOf value
decreasing_by
  · have smaller := List.sizeOf_lt_of_mem (List.mem_of_getElem? left)
    simp only [list.sizeOf_spec]
    omega
  · have smaller := Mapping.sizeOf_lt_of_get? left
    simp only [map.sizeOf_spec]
    omega

theorem Alike.symm {left right : Value} (alike : Alike left right) : Alike right left := by
  induction alike with
  | scalar same => exact .scalar (by rwa [Scalar.same_comm])
  | set members => exact .set fun member => (members member).symm
  | list length _ inductionHypothesis =>
    exact .list length.symm fun place first second left right =>
      inductionHypothesis place second first right left
  | map keys _ inductionHypothesis =>
    exact .map (fun key => (keys key).symm) fun key first second left right =>
      inductionHypothesis key second first right left

theorem Alike.trans {left middle right : Value} (first : Alike left middle)
    (second : Alike middle right) : Alike left right := by
  induction first generalizing right with
  | scalar same =>
    cases second with
    | scalar same' => exact .scalar (Scalar.same_trans same same')
  | set members =>
    cases second with
    | set members' => exact .set fun member => (members member).trans (members' member)
  | list length _ inductionHypothesis =>
    cases second with
    | list length' places' =>
      refine .list (length.trans length') fun place first second left right => ?_
      have bound := (List.getElem?_eq_some_iff.mp left).1
      have between := List.getElem?_eq_getElem (length ▸ bound)
      exact inductionHypothesis place first _ left between (places' place _ second between right)
  | map keys _ inductionHypothesis =>
    cases second with
    | map keys' values' =>
      refine .map (fun key => (keys key).trans (keys' key)) fun key first second left right => ?_
      have held := keys key
      rw [Mapping.has, left, Option.isSome_some, Mapping.has, eq_comm, Option.isSome_iff_exists]
        at held
      obtain ⟨between, found⟩ := held
      exact inductionHypothesis key first between left found
        (values' key between second found right)

theorem Alike?.refl (held : Option Value) : Alike? held held := by
  cases held with
  | none => trivial
  | some value => exact Alike.refl value

theorem Alike?.symm {left right : Option Value} (alike : Alike? left right) :
    Alike? right left := by
  match left, right with
  | none, none => trivial
  | some _, some _ => exact Alike.symm alike
  | none, some _ => exact alike.elim
  | some _, none => exact alike.elim

theorem Alike?.trans {left middle right : Option Value} (first : Alike? left middle)
    (second : Alike? middle right) : Alike? left right := by
  match left, middle, right with
  | none, none, none => trivial
  | some _, some _, some _ => exact Alike.trans first second
  | none, some _, _ => exact first.elim
  | some _, none, _ => exact first.elim
  | none, none, some _ => exact second.elim
  | some _, some _, none => exact second.elim

/-- Mappings are alike when they hold alike values at every key. -/
theorem alike_map {left right : Mapping} : Alike (.map left) (.map right) ↔
    ∀ key, Alike? (Mapping.get? key left) (Mapping.get? key right) := by
  constructor
  · intro alike key
    cases alike with
    | map keys values =>
      have present := keys key
      simp only [Mapping.has] at present
      cases first : Mapping.get? key left with
      | none => cases second : Mapping.get? key right <;> simp_all [Alike?]
      | some value =>
        cases second : Mapping.get? key right with
        | none => simp_all
        | some other => exact values key value other first second
  · intro alike
    refine .map (fun key => ?_) fun key first second left right => ?_
    · have held := alike key
      simp only [Mapping.has]
      cases first : Mapping.get? key left <;> cases second : Mapping.get? key right <;>
        simp_all [Alike?]
    · simpa [left, right, Alike?] using alike key

end Value

/-! ### The test -/

namespace Mapping

/-- The scalars that the keys of a mapping stand for. -/
def identities (mapping : Mapping) : List Scalar := mapping.map fun entry => entry.1.identity

theorem has_eq_true {key : Scalar} {mapping : Mapping} :
    has key mapping = true ↔ key.identity ∈ identities mapping := by
  induction mapping with
  | nil => simp [has, get?, identities]
  | cons entry rest inductionHypothesis =>
    obtain ⟨other, value⟩ := entry
    simp only [has, identities] at inductionHypothesis
    simp only [has, get?, identities, List.map_cons, List.mem_cons, ← inductionHypothesis]
    by_cases same : other.same key = true
    · have equal : key.identity = other.identity := by
        simpa [Scalar.same, eq_comm] using same
      simp [same, equal]
    · have different : key.identity ≠ other.identity := by
        simpa [Scalar.same, eq_comm] using same
      simp [same, different]

/-- A keyed mapping has distinct keys. -/
theorem nodup_identities {mapping : Mapping} (keyed : isKeyed mapping = true) :
    (identities mapping).Nodup := by
  induction mapping with
  | nil => exact List.nodup_nil
  | cons entry rest inductionHypothesis =>
    obtain ⟨key, value⟩ := entry
    obtain ⟨fresh, -, restKeyed⟩ := isKeyed_cons.mp keyed
    refine List.nodup_cons.mpr ⟨fun member => ?_, inductionHypothesis restKeyed⟩
    have held := has_eq_true.mpr member
    simp [has, fresh] at held

theorem get?_of_mem {key : Scalar} {value : Value} {mapping : Mapping}
    (keyed : isKeyed mapping = true) (member : (key, value) ∈ mapping) :
    get? key mapping = some value := by
  induction mapping with
  | nil => simp at member
  | cons entry rest inductionHypothesis =>
    obtain ⟨other, held⟩ := entry
    obtain ⟨fresh, -, restKeyed⟩ := isKeyed_cons.mp keyed
    rcases List.mem_cons.mp member with first | behind
    · obtain ⟨rfl, rfl⟩ := Prod.mk.inj first
      simp [get?, Scalar.same_refl]
    · have found := inductionHypothesis restKeyed behind
      have different : other.same key = false := by
        rw [Bool.eq_false_iff]
        intro same
        rw [get?_of_same same, found] at fresh
        simp at fresh
      simp [get?, different, found]

theorem exists_mem_of_get? {key : Scalar} {value : Value} {mapping : Mapping}
    (found : get? key mapping = some value) :
    ∃ spelled, spelled.same key = true ∧ (spelled, value) ∈ mapping := by
  induction mapping with
  | nil => simp [get?] at found
  | cons entry rest inductionHypothesis =>
    obtain ⟨other, held⟩ := entry
    by_cases same : other.same key = true
    · rw [get?, if_pos same] at found
      exact ⟨other, same, by rw [Option.some.inj found]; exact List.mem_cons_self⟩
    · rw [get?, if_neg same] at found
      obtain ⟨spelled, match', member⟩ := inductionHypothesis found
      exact ⟨spelled, match', List.mem_cons_of_mem _ member⟩

end Mapping

namespace Value

/-- Of two lists of distinct members that are equally long, one is inside the other exactly when
they have the same members. -/
theorem same_members_iff {left right : List Scalar} (leftNodup : left.Nodup)
    (rightNodup : right.Nodup) :
    (left.length = right.length ∧ left ⊆ right) ↔ ∀ member, member ∈ left ↔ member ∈ right := by
  constructor
  · rintro ⟨length, inside⟩ member
    exact ((List.subperm_of_subset leftNodup inside).perm_of_length_le
      (Nat.le_of_eq length.symm)).mem_iff
  · intro same
    have permuted := (List.perm_ext_iff_of_nodup leftNodup rightNodup).mpr same
    exact ⟨permuted.length_eq, permuted.subset⟩

theorem any_same_iff {members : List Scalar} {member : Scalar} :
    members.any (·.same member) = true ↔ member.identity ∈ members.map Scalar.identity := by
  simp [Scalar.same]

theorem agreesList_iff {left right : List Value} : agreesList left right = true ↔
    left.length = right.length ∧ ∀ (place : Nat) first second, left[place]? = some first →
      right[place]? = some second → agrees first second = true := by
  induction left generalizing right with
  | nil => cases right <;> simp [agreesList]
  | cons first left inductionHypothesis =>
    cases right with
    | nil => simp [agreesList]
    | cons second right =>
      rw [agreesList, Bool.and_eq_true, inductionHypothesis]
      constructor
      · rintro ⟨here, length, rest⟩
        refine ⟨by simp [length], fun place => ?_⟩
        cases place with
        | zero => simpa using here
        | succ place => simpa using rest place
      · rintro ⟨length, places⟩
        exact ⟨places 0 first second rfl rfl, by simpa using length,
          fun place => by simpa using places (place + 1)⟩

theorem agreesMap_iff {left : List (Scalar × Value)} {right : Mapping} :
    agreesMap left right = true ↔ ∀ key value, (key, value) ∈ left →
      ∃ other, Mapping.get? key right = some other ∧ agrees value other = true := by
  induction left with
  | nil => simp [agreesMap]
  | cons entry left inductionHypothesis =>
    obtain ⟨key, value⟩ := entry
    have here : agreesMap [(key, value)] right = true ↔
        ∃ other, Mapping.get? key right = some other ∧ agrees value other = true := by
      rw [agreesMap]
      cases Mapping.get? key right <;> simp [agreesMap]
    rw [agreesMap, agreesMap, Bool.and_true] at here
    rw [agreesMap, Bool.and_eq_true, inductionHypothesis]
    refine (and_congr here Iff.rfl).trans ?_
    constructor
    · rintro ⟨first, rest⟩ other held member
      rcases List.mem_cons.mp member with same | behind
      · obtain ⟨rfl, rfl⟩ := Prod.mk.inj same
        exact first
      · exact rest other held behind
    · intro each
      exact ⟨each key value List.mem_cons_self,
        fun other held member => each other held (List.mem_cons_of_mem _ member)⟩

/-- For keyed mappings the test of equal length and of every entry is a test of every key. -/
theorem agrees_map_iff {left right : Mapping} (leftKeyed : Mapping.isKeyed left = true)
    (rightKeyed : Mapping.isKeyed right = true) :
    agrees (.map left) (.map right) = true ↔
      (∀ key, Mapping.has key left = Mapping.has key right) ∧
        ∀ key first second, Mapping.get? key left = some first →
          Mapping.get? key right = some second → agrees first second = true := by
  have members := same_members_iff (Mapping.nodup_identities leftKeyed)
    (Mapping.nodup_identities rightKeyed)
  simp only [Mapping.identities, List.length_map] at members
  rw [agrees, Bool.and_eq_true, decide_eq_true_eq, agreesMap_iff]
  constructor
  · rintro ⟨length, each⟩
    have inside : Mapping.identities left ⊆ Mapping.identities right := by
      intro identity listed
      obtain ⟨⟨key, value⟩, member, rfl⟩ := List.mem_map.mp listed
      obtain ⟨other, found, -⟩ := each key value member
      exact Mapping.has_eq_true.mp (by simp [Mapping.has, found])
    have same := members.mp ⟨length, inside⟩
    refine ⟨fun key => ?_, fun key first second atLeft atRight => ?_⟩
    · rw [Bool.eq_iff_iff, Mapping.has_eq_true, Mapping.has_eq_true]
      exact same key.identity
    · obtain ⟨spelled, spelling, member⟩ := Mapping.exists_mem_of_get? atLeft
      obtain ⟨other, found, agreeing⟩ := each spelled first member
      rw [Mapping.get?_of_same spelling, atRight] at found
      rwa [Option.some.inj found]
  · rintro ⟨keys, values⟩
    have same (identity : Scalar) : identity ∈ Mapping.identities left ↔
        identity ∈ Mapping.identities right := by
      constructor <;> intro listed <;>
        obtain ⟨⟨key, value⟩, member, rfl⟩ := List.mem_map.mp listed <;>
        have held := keys key <;>
        rw [Bool.eq_iff_iff, Mapping.has_eq_true, Mapping.has_eq_true] at held <;>
        simpa [held] using listed
    refine ⟨(members.mpr same).1, fun key value member => ?_⟩
    have atLeft := Mapping.get?_of_mem leftKeyed member
    have held := keys key
    rw [Mapping.has, atLeft, Option.isSome_some, Mapping.has, eq_comm, Option.isSome_iff_exists]
      at held
    obtain ⟨other, found⟩ := held
    exact ⟨other, found, values key value other atLeft found⟩

/-- Sets without repetitions agree exactly if they have the same members. -/
theorem agrees_set_iff {first second : List Scalar} (firstNodup : (first.map Scalar.identity).Nodup)
    (secondNodup : (second.map Scalar.identity).Nodup) :
    agrees (.set first) (.set second) = true ↔ Alike (.set first) (.set second) := by
  have members := same_members_iff firstNodup secondNodup
  simp only [List.length_map] at members
  have inside : (first.all fun member => second.any (·.same member)) = true ↔
      first.map Scalar.identity ⊆ second.map Scalar.identity := by
    simp only [List.all_eq_true, any_same_iff]
    exact ⟨fun each identity listed => by
      obtain ⟨member, among, rfl⟩ := List.mem_map.mp listed
      exact each member among, fun inside member among => inside (List.mem_map_of_mem among)⟩
  rw [agrees, Bool.and_eq_true, decide_eq_true_eq, inside, members]
  constructor
  · intro same
    refine .set fun member => ?_
    rw [Bool.eq_iff_iff, any_same_iff, any_same_iff, same]
  · rintro (_ | _ | ⟨same⟩ | _) identity
    constructor <;> intro listed <;> obtain ⟨member, among, rfl⟩ := List.mem_map.mp listed <;>
      have held := same member <;>
      rw [Bool.eq_iff_iff, any_same_iff, any_same_iff] at held <;>
      simpa [held] using listed

/-- On proper values the test decides whether they are alike. -/
theorem agrees_iff_alike {left right : Value} (leftProper : left.isProper = true)
    (rightProper : right.isProper = true) : agrees left right = true ↔ Alike left right := by
  match left, right with
  | .scalar first, .scalar second =>
    rw [agrees]
    exact ⟨.scalar, fun alike => by cases alike with | scalar same => exact same⟩
  | .set first, .set second =>
    simp only [isProper, decide_eq_true_eq] at leftProper rightProper
    exact agrees_set_iff leftProper rightProper
  | .list first, .list second =>
    simp only [isProper, isProperList_eq_true] at leftProper rightProper
    have places (place : Nat) (value other : Value) (atLeft : first[place]? = some value)
        (atRight : second[place]? = some other) : agrees value other = true ↔ Alike value other :=
      agrees_iff_alike (leftProper value (List.mem_of_getElem? atLeft))
        (rightProper other (List.mem_of_getElem? atRight))
    rw [agrees, agreesList_iff]
    constructor
    · rintro ⟨length, each⟩
      exact .list length fun place value other atLeft atRight =>
        (places place value other atLeft atRight).mp (each place value other atLeft atRight)
    · rintro (_ | ⟨length, each⟩ | _ | _)
      exact ⟨length, fun place value other atLeft atRight =>
        (places place value other atLeft atRight).mpr (each place value other atLeft atRight)⟩
  | .map first, .map second =>
    simp only [isProper] at leftProper rightProper
    have values (key : Scalar) (value other : Value) (atLeft : Mapping.get? key first = some value)
        (atRight : Mapping.get? key second = some other) :
        agrees value other = true ↔ Alike value other :=
      agrees_iff_alike (Mapping.isProper_of_get? leftProper atLeft)
        (Mapping.isProper_of_get? rightProper atRight)
    rw [agrees_map_iff (Mapping.isKeyed_of_isProper leftProper)
      (Mapping.isKeyed_of_isProper rightProper)]
    constructor
    · rintro ⟨keys, each⟩
      exact .map keys fun key value other atLeft atRight =>
        (values key value other atLeft atRight).mp (each key value other atLeft atRight)
    · rintro (_ | _ | _ | ⟨keys, each⟩)
      exact ⟨keys, fun key value other atLeft atRight =>
        (values key value other atLeft atRight).mpr (each key value other atLeft atRight)⟩
  | .scalar _, .list _ | .scalar _, .set _ | .scalar _, .map _ => simp [agrees]; nofun
  | .list _, .scalar _ | .list _, .set _ | .list _, .map _ => simp [agrees]; nofun
  | .set _, .scalar _ | .set _, .list _ | .set _, .map _ => simp [agrees]; nofun
  | .map _, .scalar _ | .map _, .list _ | .map _, .set _ => simp [agrees]; nofun
termination_by sizeOf left
decreasing_by
  · have smaller := List.sizeOf_lt_of_mem (List.mem_of_getElem? atLeft)
    simp only [list.sizeOf_spec]
    omega
  · have smaller := Mapping.sizeOf_lt_of_get? atLeft
    simp only [map.sizeOf_spec]
    omega

end Value

end GuidedMigration
