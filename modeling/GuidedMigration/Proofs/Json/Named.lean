/-
This file shows that what is read from JSON is named: the members of every object in it, at any
depth, have distinct names. It says what writing to a name does to the members of an object, and
makes the equality of data decidable.
-/
import GuidedMigration.Json.Reader
import GuidedMigration.Proofs.Yaml.Keyed

namespace GuidedMigration.Json

/-! ### The members of an object -/

namespace Members

variable {members : Members} {name : Word} {datum : Datum}

/-- The names of the members of an object. -/
def names (members : Members) : List Word := members.map Prod.fst

theorem mem_names {member : Word × Datum} (among : member ∈ members) :
    member.1 ∈ names members := List.mem_map_of_mem among

theorem nodup_names_cons {rest : Members} : (names ((name, datum) :: rest)).Nodup ↔
    name ∉ names rest ∧ (names rest).Nodup := List.nodup_cons

theorem lookup_cons (name other : Word) (datum : Datum) (rest : Members) :
    List.lookup name ((other, datum) :: rest) =
      if other = name then some datum else rest.lookup name := by
  rw [List.lookup_cons]
  by_cases same : other = name
  · rw [same, beq_self_eq_true, if_pos rfl]
  · rw [beq_false_of_ne (Ne.symm same), if_neg same]

theorem has_iff : has name members = true ↔ name ∈ names members := by
  induction members with
  | nil => exact ⟨nofun, nofun⟩
  | cons member rest inductionHypothesis =>
    obtain ⟨other, old⟩ := member
    rw [has, lookup_cons, names, List.map_cons, List.mem_cons, ← names, ← inductionHypothesis, has]
    by_cases same : other = name
    · simp [same]
    · simp [same, Ne.symm same]

theorem lookup_put (name other : Word) (datum : Datum) (members : Members) :
    (put other datum members).lookup name =
      if other = name then some datum else members.lookup name := by
  induction members with
  | nil => rw [put, lookup_cons]
  | cons member rest inductionHypothesis =>
    obtain ⟨first, old⟩ := member
    rw [put, lookup_cons]
    by_cases here : first = other
    · rw [if_pos here, lookup_cons, here]
      split <;> rfl
    · rw [if_neg here, lookup_cons, inductionHypothesis]
      by_cases same : first = name
      · rw [if_pos same, if_pos same, if_neg fun other => here (same.trans other.symm)]
      · rw [if_neg same, if_neg same]

theorem has_put (name other : Word) (datum : Datum) (members : Members) :
    has name (put other datum members) = (decide (other = name) || has name members) := by
  rw [has, lookup_put, has]
  split <;> simp [*]

theorem put_of_not_mem (absent : name ∉ names members) :
    put name datum members = members ++ [(name, datum)] := by
  induction members with
  | nil => rfl
  | cons member rest inductionHypothesis =>
    obtain ⟨first, old⟩ := member
    obtain ⟨different, absent⟩ := not_or.mp (mt List.mem_cons.mpr absent)
    rw [put, if_neg (Ne.symm different), inductionHypothesis absent]
    rfl

/-- Writing to a name that is there, member by member. -/
theorem put_of_mem (distinct : (names members).Nodup) (held : name ∈ names members) :
    put name datum members =
      members.map fun member => if member.1 = name then (member.1, datum) else member := by
  induction members with
  | nil => cases held
  | cons member rest inductionHypothesis =>
    obtain ⟨first, old⟩ := member
    obtain ⟨fresh, distinct⟩ := nodup_names_cons.mp distinct
    rw [put, List.map_cons]
    by_cases same : first = name
    · subst same
      have others : ∀ member ∈ rest,
          (if member.1 = first then (member.1, datum) else member) = member := by
        intro member among
        refine if_neg fun same => fresh ?_
        rw [← same]
        exact mem_names among
      rw [if_pos rfl, if_pos rfl, List.map_congr_left others, List.map_id']
    · have behind : name ∈ names rest := (List.mem_cons.mp held).resolve_left (Ne.symm same)
      rw [if_neg same, if_neg same, inductionHypothesis distinct behind]

theorem names_put (distinct : (names members).Nodup) :
    names (put name datum members) =
      if name ∈ names members then names members else names members ++ [name] := by
  split
  · rename_i held
    rw [put_of_mem distinct held, names, List.map_map, names]
    refine List.map_congr_left fun member _ => ?_
    rw [Function.comp]
    split <;> rfl
  · rename_i absent
    rw [put_of_not_mem absent, names, List.map_append]
    rfl

theorem nodup_names_put (distinct : (names members).Nodup) :
    (names (put name datum members)).Nodup := by
  rw [names_put distinct]
  split
  · exact distinct
  · rename_i absent
    rw [List.nodup_append]
    refine ⟨distinct, by simp, fun other among last member same => absent ?_⟩
    rwa [← List.mem_singleton.mp member, ← same]

/-- An object holds each of its members at the member's name. -/
theorem lookup_of_mem (distinct : (names members).Nodup) (member : (name, datum) ∈ members) :
    members.lookup name = some datum := by
  induction members with
  | nil => cases member
  | cons first rest inductionHypothesis =>
    obtain ⟨other, old⟩ := first
    obtain ⟨fresh, distinct⟩ := nodup_names_cons.mp distinct
    rcases List.mem_cons.mp member with here | behind
    · obtain ⟨rfl, rfl⟩ := Prod.mk.inj here
      rw [lookup_cons, if_pos rfl]
    · have different : name ≠ other := by
        rintro rfl
        exact fresh (List.mem_map_of_mem behind)
      rw [List.lookup_cons, beq_false_of_ne different]
      exact inductionHypothesis distinct behind

theorem mem_put {member : Word × Datum} (among : member ∈ put name datum members) :
    member ∈ members ∨ member.2 = datum := by
  induction members with
  | nil =>
    rw [put, List.mem_singleton] at among
    exact .inr (congrArg Prod.snd among)
  | cons first rest inductionHypothesis =>
    obtain ⟨other, old⟩ := first
    rw [put] at among
    split at among
    · rcases List.mem_cons.mp among with rfl | behind
      · exact .inr rfl
      · exact .inl (List.mem_cons_of_mem _ behind)
    · rcases List.mem_cons.mp among with rfl | behind
      · exact .inl List.mem_cons_self
      · exact (inductionHypothesis behind).imp_left (List.mem_cons_of_mem _)

theorem exists_mem_of_lookup (found : members.lookup name = some datum) :
    (name, datum) ∈ members := by
  obtain ⟨before, behind, rfl, -⟩ := List.lookup_eq_some_iff.mp found
  exact List.mem_append_right _ List.mem_cons_self

end Members

/-! ### What is read -/

/-- Whether a datum is neither an array nor an object. -/
def Datum.isSimple : Datum → Bool
  | .array _ | .object _ => false
  | _ => true

/-- Whether the members of every object in a datum have distinct names. -/
inductive IsNamed : Datum → Prop
  | simple {datum : Datum} (simple : datum.isSimple = true) : IsNamed datum
  | array {items : List Datum} (each : ∀ item ∈ items, IsNamed item) : IsNamed (.array items)
  | object {members : Members} (distinct : members.names.Nodup)
      (each : ∀ member ∈ members, IsNamed member.2) : IsNamed (.object members)

theorem IsNamed.nil : IsNamed (.object []) := .object List.nodup_nil (by simp)

theorem IsNamed.of_object {members : Members} (named : IsNamed (.object members)) :
    (Members.names members).Nodup ∧ ∀ member ∈ members, IsNamed member.2 := by
  cases named with
  | simple simple => cases simple
  | object distinct each => exact ⟨distinct, each⟩

theorem IsNamed.put {members : Members} {datum : Datum} (named : IsNamed (.object members))
    (datumNamed : IsNamed datum) (name : Word) :
    IsNamed (.object (Members.put name datum members)) := by
  obtain ⟨distinct, each⟩ := named.of_object
  refine .object (Members.nodup_names_put distinct) fun member among => ?_
  rcases Members.mem_put among with before | same
  · exact each member before
  · rw [same]
    exact datumNamed

theorem isNamed_number? {negative : Bool} {text rest : Text} {datum : Datum}
    (read : number? negative text = some (.ok (datum, rest))) : IsNamed datum := by
  rw [number?] at read
  obtain ⟨whole, -, read⟩ := Option.bind_eq_some_iff.mp read
  dsimp only at read
  split at read
  · split at read
    · cases Option.some.inj read
    · cases Option.some.inj read
      exact .simple rfl
  · cases Option.some.inj read
    exact .simple rfl

theorem isNamed_simpleDatum {text rest : Text} {datum : Datum}
    (read : simpleDatum text = .ok (datum, rest)) : IsNamed datum := by
  unfold simpleDatum at read
  split at read
  · rename_i found word
    obtain ⟨entry, listed, read'⟩ := List.exists_of_findSome?_eq_some word
    obtain ⟨_, -, same⟩ := Option.map_eq_some_iff.mp read'
    have same' : datum = entry.2 := by
      rw [Except.ok.inj read] at same
      exact (congrArg Prod.fst same).symm
    rw [same']
    simp only [literals, List.mem_cons, List.not_mem_nil, or_false] at listed
    rcases listed with rfl | rfl | rfl | rfl | rfl | rfl <;> exact .simple rfl
  · have digits {negative : Bool} {text : Text} {fault : Fault}
        (read : (number? negative text).getD (.error fault) = .ok (datum, rest)) :
        IsNamed datum := by
      cases found : number? negative text with
      | none =>
        rw [found] at read
        cases read
      | some result =>
        rw [found] at read
        obtain rfl : result = .ok (datum, rest) := read
        exact isNamed_number? found
    dsimp only at read
    split at read
    · exact digits read
    · exact digits read

/-- What is read with some fuel is named. -/
structure ReadsNamed (fuel : Nat) : Prop where
  datum : ∀ {text rest datum}, readDatum fuel text = .ok (datum, rest) → IsNamed datum
  members : ∀ {done text rest datum}, IsNamed (.object done) →
    readMembers fuel done text = .ok (datum, rest) → IsNamed datum
  items : ∀ {done text rest datum}, (∀ item ∈ done, IsNamed item) →
    readItems fuel done text = .ok (datum, rest) → IsNamed datum

theorem readsNamed (fuel : Nat) : ReadsNamed fuel := by
  induction fuel with
  | zero =>
    constructor
    · intro text rest datum read
      cases read
    · intro done text rest datum named read
      cases read
    · intro done text rest datum named read
      cases read
  | succ fuel inductionHypothesis =>
    constructor
    · intro text rest datum read
      unfold readDatum at read
      split at read
      · obtain ⟨⟨body, more⟩, -, read⟩ := exists_of_bind_ok read
        cases read
        exact .simple rfl
      · split at read
        · cases read
          exact IsNamed.nil
        · exact inductionHypothesis.members (IsNamed.nil) read
      · split at read
        · cases read
          exact .array (by simp)
        · exact inductionHypothesis.items (by simp) read
      · exact isNamed_simpleDatum read
    · intro done text rest datum named read
      unfold readMembers at read
      split at read
      · obtain ⟨⟨name, more⟩, -, read⟩ := exists_of_bind_ok read
        dsimp only at read
        split at read
        · obtain ⟨⟨member, further⟩, found, read⟩ := exists_of_bind_ok read
          have wider := named.put (inductionHypothesis.datum found) name
          dsimp only at read
          split at read
          · cases read
            exact wider
          · exact inductionHypothesis.members wider read
          · cases read
        · cases read
      · cases read
    · intro done text rest datum named read
      unfold readItems at read
      obtain ⟨⟨item, further⟩, found, read⟩ := exists_of_bind_ok read
      have wider : ∀ other ∈ item :: done, IsNamed other :=
        List.forall_mem_cons.mpr ⟨inductionHypothesis.datum found, named⟩
      dsimp only at read
      split at read
      · cases read
        exact .array fun other member => wider other (List.mem_reverse.mp member)
      · exact inductionHypothesis.items wider read
      · cases read

theorem isNamed_read {text : Text} {datum : Datum} (done : read text = .ok datum) :
    IsNamed datum := by
  rw [read] at done
  split at done
  · cases done
  · obtain ⟨⟨found, rest⟩, readFirst, ended⟩ := exists_of_bind_ok done
    dsimp only at ended
    split at ended
    · cases ended
      exact (readsNamed _).datum readFirst
    · cases ended

/-! ### Equality -/

namespace Datum

mutual

/-- Whether two data are equal. -/
def decideEq (left right : Datum) : Decidable (left = right) :=
  if kind : left.ctorIdx = right.ctorIdx then
    match left, right, kind with
    | .null, .null, _ => isTrue rfl
    | .bool left, .bool right, _ => decidable_of_iff (left = right) (by rw [bool.injEq])
    | .int left, .int right, _ => decidable_of_iff (left = right) (by rw [int.injEq])
    | .double left, .double right, _ => decidable_of_iff (left = right) (by rw [double.injEq])
    | .string left, .string right, _ => decidable_of_iff (left = right) (by rw [string.injEq])
    | .array left, .array right, _ =>
      @decidable_of_iff _ (left = right) (by rw [array.injEq]) (decideEqItems left right)
    | .object left, .object right, _ =>
      @decidable_of_iff _ (left = right) (by rw [object.injEq]) (decideEqMembers left right)
  else isFalse fun same => kind (congrArg Datum.ctorIdx same)

/-- Whether two lists of data are equal. -/
def decideEqItems : (left right : List Datum) → Decidable (left = right)
  | [], [] => isTrue rfl
  | [], _ :: _ | _ :: _, [] => isFalse nofun
  | left :: lefts, right :: rights =>
    match decideEq left right, decideEqItems lefts rights with
    | isTrue first, isTrue rest => isTrue (by rw [first, rest])
    | isFalse different, _ => isFalse fun same => different (List.cons.inj same).1
    | _, isFalse different => isFalse fun same => different (List.cons.inj same).2

/-- Whether two lists of members are equal. -/
def decideEqMembers : (left right : List (Word × Datum)) → Decidable (left = right)
  | [], [] => isTrue rfl
  | [], _ :: _ | _ :: _, [] => isFalse nofun
  | (name, left) :: lefts, (other, right) :: rights =>
    match decEq name other, decideEq left right, decideEqMembers lefts rights with
    | isTrue names, isTrue first, isTrue rest => isTrue (by rw [names, first, rest])
    | isFalse different, _, _ =>
      isFalse fun same => different (Prod.mk.inj (List.cons.inj same).1).1
    | _, isFalse different, _ =>
      isFalse fun same => different (Prod.mk.inj (List.cons.inj same).1).2
    | _, _, isFalse different => isFalse fun same => different (List.cons.inj same).2

end

instance : DecidableEq Datum := decideEq

end Datum

end GuidedMigration.Json
