/-
This file shows that what is read from a YAML text is proper: a list holds what was read for its
items, a set holds each member once, and a mapping each key. So it is keyed, and so is what a block
of configuration writes.
-/
import GuidedMigration.Config.Document
import GuidedMigration.Migration.Executor
import GuidedMigration.Proofs.Value.Keyed
import Mathlib.Data.List.Forall2

namespace GuidedMigration

/-- Two steps succeed exactly if both do, one after the other. -/
theorem bind_ok_iff {First Second Fault : Type} {first : Except Fault First}
    {next : First → Except Fault Second} {answer : Second} : (first >>= next) = .ok answer ↔
      ∃ between, first = .ok between ∧ next between = .ok answer := by
  cases first with
  | error fault => exact ⟨nofun, fun ⟨_, failed, _⟩ => nomatch failed⟩
  | ok between =>
    refine ⟨fun done => ⟨between, rfl, done⟩, fun ⟨other, same, done⟩ => ?_⟩
    rwa [Except.ok.inj same]

/-- A step that succeeds has a step before it that does. -/
theorem exists_of_bind_ok {First Second Fault : Type} {first : Except Fault First}
    {next : First → Except Fault Second} {answer : Second} (done : (first >>= next) = .ok answer) :
    ∃ between, first = .ok between ∧ next between = .ok answer := bind_ok_iff.mp done

section

variable {Item Answer Fault : Type} {step : Item → Except Fault Answer} {items : List Item}
  {answers : List Answer}

/-- A list is mapped exactly if each of its items is. -/
theorem mapM_eq_ok : items.mapM step = .ok answers ↔
    List.Forall₂ (fun item answer => step item = .ok answer) items answers := by
  induction items generalizing answers with
  | nil =>
    rw [List.mapM_nil, List.forall₂_nil_left_iff]
    exact ⟨fun same => (Except.ok.inj same).symm, fun none' => none' ▸ rfl⟩
  | cons item items inductionHypothesis =>
    rw [List.mapM_cons, List.forall₂_cons_left_iff]
    constructor
    · intro mapped
      obtain ⟨first, own, mapped⟩ := exists_of_bind_ok mapped
      obtain ⟨rest, others, mapped⟩ := exists_of_bind_ok mapped
      exact ⟨first, rest, own, inductionHypothesis.mp others, (Except.ok.inj mapped).symm⟩
    · rintro ⟨first, rest, own, others, rfl⟩
      rw [own, inductionHypothesis.mpr others]
      rfl

theorem exists_mapM_eq_ok : (∃ answers, items.mapM step = .ok answers) ↔
    ∀ item ∈ items, ∃ answer, step item = .ok answer := by
  simp only [mapM_eq_ok]
  induction items with
  | nil => exact iff_of_true ⟨[], .nil⟩ nofun
  | cons item items inductionHypothesis =>
    rw [List.forall_mem_cons, ← inductionHypothesis]
    constructor
    · rintro ⟨_, _ | ⟨own, others⟩⟩
      exact ⟨⟨_, own⟩, _, others⟩
    · rintro ⟨⟨answer, own⟩, answers, others⟩
      exact ⟨answer :: answers, .cons own others⟩

/-- What a mapped list holds comes from the list. -/
theorem exists_of_mem_mapM (mapped : items.mapM step = .ok answers) {answer : Answer}
    (member : answer ∈ answers) : ∃ item ∈ items, step item = .ok answer := by
  have pairs := mapM_eq_ok.mp mapped
  clear mapped
  induction pairs with
  | nil => cases member
  | @cons item _ items _ own _ inductionHypothesis =>
    rcases List.mem_cons.mp member with rfl | behind
    · exact ⟨item, List.mem_cons_self, own⟩
    · obtain ⟨other, among, same⟩ := inductionHypothesis behind
      exact ⟨other, List.mem_cons_of_mem item among, same⟩

end

/-! ### What is read is proper -/

theorem Mapping.isProper_ofEntries {entries : List (Scalar × Value)}
    (proper : ∀ entry ∈ entries, entry.2.isProper = true) :
    Mapping.isProper (Mapping.ofEntries entries) = true := by
  have onto (entries : List (Scalar × Value)) (proper : ∀ entry ∈ entries, entry.2.isProper = true)
      (base : Mapping) (baseProper : Mapping.isProper base = true) :
      Mapping.isProper (entries.foldl (fun mapping entry => Mapping.put entry.1 entry.2 mapping)
        base) = true := by
    induction entries generalizing base with
    | nil => exact baseProper
    | cons entry rest inductionHypothesis =>
      exact inductionHypothesis
        (fun other member => proper other (List.mem_cons_of_mem entry member)) _
        (Mapping.isProper_put (proper entry List.mem_cons_self) baseProper entry.1)
  exact onto entries proper [] rfl

namespace Yaml

/-- The members of a set are distinct. -/
theorem nodup_members (scalars : List Scalar) :
    ((Node.members scalars).map Scalar.identity).Nodup := by
  have onto (scalars found : List Scalar) (distinct : (found.map Scalar.identity).Nodup) :
      ((scalars.foldl (fun found scalar =>
        if found.any (·.same scalar) then found else found ++ [scalar]) found).map
          Scalar.identity).Nodup := by
    induction scalars generalizing found with
    | nil => exact distinct
    | cons scalar rest inductionHypothesis =>
      refine inductionHypothesis _ ?_
      dsimp only
      split
      · exact distinct
      · rename_i fresh
        simp only [Bool.not_eq_true, List.any_eq_false] at fresh
        rw [List.map_append, List.nodup_append]
        refine ⟨distinct, by simp, fun identity listed other single same => ?_⟩
        obtain ⟨member, among, rfl⟩ := List.mem_map.mp listed
        obtain rfl : other = scalar.identity := by simpa using single
        simpa [Scalar.same, same] using fresh member among
  exact onto scalars [] List.nodup_nil

/-- Lists of two are proper if what is read for both is. -/
theorem isProper_pairs {depth : Nat} (inner : ∀ {node : Node} {value : Value},
    node.value depth = .ok value → value.isProper = true) {items : List Node} {values : List Value}
    (mapped : items.mapM (fun item => do
      let parts ← Node.pair item
      let key ← Node.value depth parts.1
      let content ← Node.value depth parts.2
      .ok (Value.list [key, content])) = .ok values) : (Value.list values).isProper = true := by
  rw [Value.isProper, Value.isProperList_eq_true]
  intro pair member
  obtain ⟨item, -, made⟩ := exists_of_mem_mapM mapped member
  obtain ⟨parts, -, made⟩ := exists_of_bind_ok made
  obtain ⟨key, keyRead, made⟩ := exists_of_bind_ok made
  obtain ⟨content, contentRead, made⟩ := exists_of_bind_ok made
  rw [← Except.ok.inj made]
  simp [Value.isProper, Value.isProperList, inner keyRead, inner contentRead]

/-- The value of a node is proper. -/
theorem isProper_value {depth : Nat} {node : Node} {value : Value}
    (read : node.value depth = .ok value) : value.isProper = true := by
  induction depth generalizing node value with
  | zero => simp [Node.value] at read
  | succ depth inductionHypothesis =>
    rw [Node.value] at read
    obtain ⟨leaf, -, read⟩ := exists_of_bind_ok read
    split at read
    · rw [← Except.ok.inj read]
      rfl
    · split at read
      · obtain ⟨items, -, read⟩ := exists_of_bind_ok read
        obtain ⟨values, mapped, read⟩ := exists_of_bind_ok read
        rw [← Except.ok.inj read, Value.isProper, Value.isProperList_eq_true]
        intro item member
        obtain ⟨inner, -, made⟩ := exists_of_mem_mapM mapped member
        exact inductionHypothesis made
      · obtain ⟨items, -, read⟩ := exists_of_bind_ok read
        obtain ⟨values, mapped, read⟩ := exists_of_bind_ok read
        rw [← Except.ok.inj read]
        exact isProper_pairs inductionHypothesis mapped
      · obtain ⟨items, -, read⟩ := exists_of_bind_ok read
        obtain ⟨values, mapped, read⟩ := exists_of_bind_ok read
        rw [← Except.ok.inj read]
        exact isProper_pairs inductionHypothesis mapped
      · obtain ⟨entries, -, read⟩ := exists_of_bind_ok read
        obtain ⟨keys, -, read⟩ := exists_of_bind_ok read
        rw [← Except.ok.inj read, Value.isProper, decide_eq_true_eq]
        exact nodup_members keys
      · obtain ⟨entries, -, read⟩ := exists_of_bind_ok read
        obtain ⟨values, mapped, read⟩ := exists_of_bind_ok read
        rw [← Except.ok.inj read, Value.isProper]
        refine Mapping.isProper_ofEntries fun entry member => ?_
        obtain ⟨item, -, made⟩ := exists_of_mem_mapM mapped member
        obtain ⟨name, -, made⟩ := exists_of_bind_ok made
        obtain ⟨content, inner, made⟩ := exists_of_bind_ok made
        rw [← Except.ok.inj made]
        exact inductionHypothesis inner

/-- A value that is read from a text is proper. -/
theorem isProper_read {text : Text} {value : Value} (done : read text = .ok value) :
    value.isProper = true := by
  rw [read] at done
  obtain ⟨node, -, done⟩ := exists_of_bind_ok done
  split at done
  · rw [← Except.ok.inj done]
    rfl
  · obtain ⟨later, -, done⟩ := exists_of_bind_ok done
    obtain ⟨checked, -, done⟩ := exists_of_bind_ok done
    exact isProper_value done

end Yaml

namespace Config

/-- A document that is read is proper. -/
theorem isProper_mappingOf {path : Path} {text : Text} {document : Mapping}
    (read : mappingOf path text = .ok document) : Mapping.isProper document = true := by
  rw [mappingOf] at read
  split at read
  · simp at read
  · simp at read
  · rename_i entries done
    rw [← Except.ok.inj read]
    exact Yaml.isProper_read done
  · split at read
    · simp at read
    · rw [← Except.ok.inj read]
      rfl

/-- A document that is read is keyed. -/
theorem isKeyed_mappingOf {path : Path} {text : Text} {document : Mapping}
    (read : mappingOf path text = .ok document) : Mapping.isKeyed document = true :=
  Mapping.isKeyed_of_isProper (isProper_mappingOf read)

/-! ### Blocks of configuration -/

namespace Block

/-- Whether the mapping that an open collection may be is keyed. -/
def Open.isKeyed : Open → Bool
  | .mapping entries => Mapping.isKeyed entries
  | .list _ => true

/-- Whether all open collections are keyed. -/
def Stack.isKeyed (stack : Stack) : Bool :=
  stack.top.isKeyed && stack.frames.all fun frame => frame.outer.isKeyed

theorem isKeyed_close (collection : Open) : collection.close.isKeyed = collection.isKeyed := by
  cases collection <;> rfl

theorem isKeyed_write {collection : Open} (keyed : collection.isKeyed = true) {value : Value}
    (valueKeyed : value.isKeyed = true) (slot : Slot) :
    (collection.write slot value).isKeyed = true := by
  cases collection with
  | mapping entries =>
    cases slot with
    | key key => exact Mapping.isKeyed_put valueKeyed keyed (.text key)
    | item => exact keyed
  | list items => cases slot <;> rfl

theorem isKeyed_pop? {stack outer : Stack} (keyed : stack.isKeyed = true)
    (popped : stack.pop? = some outer) : outer.isKeyed = true := by
  obtain ⟨level, top, frames⟩ := stack
  rw [Stack.isKeyed, Bool.and_eq_true] at keyed
  cases frames with
  | nil => simp [Stack.pop?] at popped
  | cons frame frames =>
    obtain ⟨topKeyed, framesKeyed⟩ := keyed
    rw [List.all_cons, Bool.and_eq_true] at framesKeyed
    rw [← Option.some.inj popped, Stack.isKeyed, Bool.and_eq_true]
    exact ⟨isKeyed_write framesKeyed.1 (by rw [isKeyed_close, topKeyed]) _, framesKeyed.2⟩

theorem isKeyed_unwind {stack : Stack} (keyed : stack.isKeyed = true) (indent : Nat) (item : Bool)
    (fuel : Nat) : (stack.unwind indent item fuel).isKeyed = true := by
  induction fuel generalizing stack with
  | zero => exact keyed
  | succ fuel inductionHypothesis =>
    rw [Stack.unwind]
    split
    · split
      · rename_i outer popped
        exact inductionHypothesis (isKeyed_pop? keyed popped)
      · exact keyed
    · exact keyed

theorem isKeyed_push {stack : Stack} (keyed : stack.isKeyed = true) {inner : Open}
    (innerKeyed : inner.isKeyed = true) (slot : Slot) (level : Nat) :
    (stack.push slot level inner).isKeyed = true := by
  rw [Stack.isKeyed, Bool.and_eq_true] at keyed
  cases slot with
  | key key =>
    simp [Stack.push, Stack.isKeyed, innerKeyed, keyed.2, @isKeyed_write _ keyed.1 .null rfl]
  | item => simp [Stack.push, Stack.isKeyed, innerKeyed, keyed.1, keyed.2]

theorem isKeyed_writeTop {stack : Stack} (keyed : stack.isKeyed = true) {value : Value}
    (valueKeyed : value.isKeyed = true) (slot : Slot) :
    Stack.isKeyed { stack with top := stack.top.write slot value } = true := by
  rw [Stack.isKeyed, Bool.and_eq_true] at keyed ⊢
  exact ⟨isKeyed_write keyed.1 valueKeyed slot, keyed.2⟩

theorem isKeyed_scalar {written : Text} {value : Value} (read : scalar written = .ok value) :
    value.isKeyed = true := by
  simp only [scalar] at read
  repeat' split at read
  all_goals first
    | (rw [← Except.ok.inj read]; rfl)
    | simp at read

theorem isKeyed_assign {stack after : Stack} (keyed : stack.isKeyed = true) {key : Text}
    {value : Option Text} {next : Option Line} {indent : Nat}
    (assigned : stack.assign key value next indent = .ok after) : after.isKeyed = true := by
  simp only [Stack.assign] at assigned
  split at assigned
  · obtain ⟨found, read, assigned⟩ := exists_of_bind_ok assigned
    rw [← Except.ok.inj assigned]
    exact isKeyed_writeTop keyed (isKeyed_scalar read) _
  · split at assigned
    · split at assigned
      · rw [← Except.ok.inj assigned]
        refine isKeyed_push keyed ?_ _ _
        split <;> rfl
      · rw [← Except.ok.inj assigned]
        exact isKeyed_writeTop keyed rfl _
    · rw [← Except.ok.inj assigned]
      exact isKeyed_writeTop keyed rfl _

theorem isKeyed_readItem {stack after : Stack} (keyed : stack.isKeyed = true) {line : Line}
    {next : Option Line} (read : stack.readItem line next = .ok after) : after.isKeyed = true := by
  rw [Stack.readItem] at read
  split at read
  · simp at read
  · dsimp only at read
    split at read
    · simp at read
    · split at read
      · exact isKeyed_assign (isKeyed_push keyed rfl _ _) read
      · obtain ⟨value, found, read⟩ := exists_of_bind_ok read
        rw [← Except.ok.inj read]
        exact isKeyed_writeTop keyed (isKeyed_scalar found) _

theorem isKeyed_step {stack after : Stack} (keyed : stack.isKeyed = true) {line : Line}
    {next : Option Line} (stepped : stack.step line next = .ok after) : after.isKeyed = true := by
  have unwound := isKeyed_unwind keyed line.indent (isItem line.text) stack.frames.length
  simp only [Stack.step] at stepped
  split at stepped
  · simp at stepped
  · split at stepped
    · exact isKeyed_readItem unwound stepped
    · rw [Stack.readEntry] at stepped
      split at stepped
      · simp at stepped
      · split at stepped
        · simp at stepped
        · exact isKeyed_assign unwound stepped

theorem isKeyed_run {lines : List Line} {stack after : Stack} (keyed : stack.isKeyed = true)
    (run : Stack.run lines stack = .ok after) : after.isKeyed = true := by
  induction lines generalizing stack with
  | nil =>
    rw [← Except.ok.inj run]
    exact keyed
  | cons line rest inductionHypothesis =>
    rw [Stack.run] at run
    obtain ⟨between, stepped, run⟩ := exists_of_bind_ok run
    exact inductionHypothesis (isKeyed_step keyed stepped) run

theorem isKeyed_finish {stack : Stack} (keyed : stack.isKeyed = true) :
    stack.finish.isKeyed = true := by
  rw [Stack.isKeyed, Bool.and_eq_true] at keyed
  have closed (frames : List Frame)
      (framesKeyed : (frames.all fun frame => frame.outer.isKeyed) = true)
      (value : Value) (valueKeyed : value.isKeyed = true) :
      (frames.foldl (fun value frame => (frame.outer.write frame.slot value).close)
        value).isKeyed = true := by
    induction frames generalizing value with
    | nil => exact valueKeyed
    | cons frame frames inductionHypothesis =>
      rw [List.all_cons, Bool.and_eq_true] at framesKeyed
      refine inductionHypothesis framesKeyed.2 _ ?_
      rw [isKeyed_close]
      exact isKeyed_write framesKeyed.1 valueKeyed frame.slot
  exact closed stack.frames keyed.2 stack.top.close (by rw [isKeyed_close, keyed.1])

end Block

/-- A fragment that a block writes is keyed. -/
theorem isKeyed_readBlock {text : Text} {fragment : Mapping}
    (read : readBlock text = .ok fragment) : Mapping.isKeyed fragment = true := by
  rw [readBlock] at read
  obtain ⟨lines, -, read⟩ := exists_of_bind_ok read
  obtain ⟨stack, run, read⟩ := exists_of_bind_ok read
  have keyed := Block.isKeyed_finish (Block.isKeyed_run rfl run)
  split at read
  · rename_i entries finished
    rw [← Except.ok.inj read]
    rw [finished] at keyed
    exact keyed
  · rw [← Except.ok.inj read]
    rfl

theorem isKeyed_blockMapping {text : Text} {fragment : Mapping}
    (read : Executor.blockMapping text = .ok fragment) : Mapping.isKeyed fragment = true := by
  rw [Executor.blockMapping] at read
  cases found : readBlock text with
  | error fault =>
    rw [found] at read
    cases read
  | ok entries =>
    rw [found] at read
    rw [← Except.ok.inj read]
    exact isKeyed_readBlock found

end Config

end GuidedMigration
