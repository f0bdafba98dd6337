/-
This file shows what comes of a list of checks. A file that is no text, and a document with a value
that cannot be used, end the whole list at the first expectation that has it read. Everything else
that goes wrong is a check that fails: every expectation is looked at, its entry stands in one of
the three lists, in the order of the expectations, and which list that is depends on nothing but
whether the tree meets the expectation and whether it is a soft one.
-/
import GuidedMigration.Check.Expectation
import GuidedMigration.Proofs.Migration.Obstacle
import GuidedMigration.Proofs.Yaml.Keyed

namespace GuidedMigration

open GuidedMigration.Tree Text

/-! ### Reading a path -/

/-- What the three looks at a path that a check takes have to do with each other. -/
inductive Tree.Reading (tree : Tree) (path : Path) : Prop
  /-- There is no telling what stands there. -/
  | hidden (fault : FileFault) (found : tree.exists? path = .error fault)
      (isSystem : fault.isSystem = true) (unread : ∃ fault, tree.read path = .error (.file fault))
  /-- Nothing stands there. -/
  | free (found : tree.exists? path = .ok false) (outside : tree.isDirectory? path = .ok false)
      (unread : ∃ fault, tree.read path = .error (.file fault))
  | directory (found : tree.exists? path = .ok true) (inside : tree.isDirectory? path = .ok true)
      (unread : tree.read path = .error (.file (.system .isDirectory path.toText)))
  | file (found : tree.exists? path = .ok true) (outside : tree.isDirectory? path = .ok false)
      (bytes : Utf8.Bytes) (read : tree.read path = textOf bytes)
      (loaded : Config.load path tree = (textOf bytes >>= Config.mappingOf path, tree))

theorem Tree.isDirectory?_of_file {tree : Tree} {path : Path}
    (stands : tree.standing path = .file) : tree.isDirectory? path = .ok false := by
  obtain ⟨reached, bytes, held⟩ := standing_eq_file.mp stands
  rw [isDirectory?, look_of_place reached, held]
  rfl

theorem Tree.isDirectory?_of_free {tree : Tree} {path : Path}
    (free : tree.exists? path = .ok false) : tree.isDirectory? path = .ok false := by
  rw [exists?] at free
  rw [isDirectory?]
  cases found : tree.look path with
  | error fault => simp [found, Except.map] at free
  | ok node =>
    cases node with
    | none => rfl
    | some node => simp [found, Except.map] at free

theorem Tree.reading (tree : Tree) (path : Path) : tree.Reading path := by
  by_cases stands : tree.standing path = .file
  · obtain ⟨-, bytes, held⟩ := standing_eq_file.mp stands
    exact .file (exists?_of_file stands) (isDirectory?_of_file stands) bytes
      (read_of_file stands held) (Config.load_of_file stands held)
  · have unread := fault_of_not_file stands
    cases found : tree.exists? path with
    | error fault => exact .hidden fault found (isSystem_of_map_look found) unread
    | ok there =>
      cases there with
      | false => exact .free found (isDirectory?_of_free found) unread
      | true =>
        have directory := directory_of_exists? found stands
        exact .directory found (isDirectory?_iff.mpr directory) (read_of_directory directory)

namespace Check

/-! ### Single checks -/

/-- Whether the check of an expectation reads a file that cannot be made sense of: one that is no
text, or a document with a value that cannot be used. -/
def isUnreadable (tree : Tree) (root : Path) (expectation : Expectation) : Bool :=
  let path := root.child expectation.path
  match expectation.kind with
  | .exists => false
  | .absent => expectation.needle.isSome && tree.isGarbledAt path
  | .contains => tree.isGarbledAt path
  | .key => tree.isUnloadableAt path

/-- Whether a tree is as an expectation has it. What cannot be told or read is not. -/
def isMet (tree : Tree) (root : Path) (expectation : Expectation) : Bool :=
  let path := root.child expectation.path
  match expectation.kind, expectation.needle with
  | .exists, _ => (tree.exists? path).toOption = some true
  | .contains, needle => (tree.read path).toOption.any (occursIn (needle.getD []) ·)
  | .key, needle => (tree.read path >>= Config.mappingOf path).toOption.any fun document =>
      ((Value.map document).lookUp? (needle.getD [])).isSome
  | .absent, none => (tree.exists? path).toOption = some false
  | .absent, some needle => (tree.exists? path).toOption = some false ||
      (tree.read path).toOption.any (!occursIn needle ·)

/-- The name of an expectation among the findings, with the reason if it could not be checked. -/
def entry (tree : Tree) (root : Path) (expectation : Expectation) : Text :=
  match holds tree root expectation with
  | .ok _ => expectation.describe
  | .error failure => expectation.describe ++ [' ', '('] ++ failure.message ++ [')']

variable {tree : Tree} {root path : Path} {expectation : Expectation}
  {expectations : List Expectation} {findings : Findings} {failure : Failure}

/-- What a check comes to: an answer, or a failure from which it recovers exactly if what it reads
can be made sense of. -/
inductive Judged (met unreadable : Bool) : Except Failure Bool → Prop
  | answered (readable : unreadable = false) : Judged met unreadable (.ok met)
  | failed (failure : Failure) (unmet : met = false) (ends : failure.endsPhase = !unreadable) :
      Judged met unreadable (.error failure)

theorem Judged.of_system {met : Bool} {fault : FileFault} (unmet : met = false)
    (isSystem : fault.isSystem = true) : Judged met false (.error (.file fault)) :=
  .failed _ unmet isSystem

/-- A look at the text of a file. -/
theorem judged_text {bytes : Utf8.Bytes} (read : tree.read path = textOf bytes)
    (test : Text → Bool) :
    Judged ((tree.read path).toOption.any test) (tree.isGarbledAt path)
      (tree.read path >>= fun text => .ok (test text)) := by
  rw [isGarbledAt, read, textOf]
  cases Utf8.decode bytes with
  | error fault => exact .failed _ rfl rfl
  | ok text => exact .answered rfl

theorem kinds_of_mappingOf {text : Text} (failed : Config.mappingOf path text = .error failure) :
    (∃ what, failure = .malformed what) ∨ ∃ fault, failure = .yaml fault := by
  rw [Config.mappingOf] at failed
  split at failed
  · exact .inl ⟨_, (Except.error.inj failed).symm⟩
  · exact .inr ⟨_, (Except.error.inj failed).symm⟩
  · simp at failed
  · split at failed
    · exact .inl ⟨_, (Except.error.inj failed).symm⟩
    · simp at failed

/-- A look at the document that a file holds. -/
theorem judged_document {bytes : Utf8.Bytes} (read : tree.read path = textOf bytes)
    (loaded : Config.load path tree = (textOf bytes >>= Config.mappingOf path, tree))
    (test : Mapping → Bool) :
    Judged ((tree.read path >>= Config.mappingOf path).toOption.any test)
      (tree.isUnloadableAt path) (document tree path >>= fun held => .ok (test held)) := by
  rw [isUnloadableAt, document, loaded, read, textOf]
  cases Utf8.decode bytes with
  | error fault => exact .failed _ rfl rfl
  | ok text =>
    dsimp only [bind, Except.bind]
    cases found : Config.mappingOf path (unifyNewlines text) with
    | ok held => exact .answered rfl
    | error failure =>
      rcases kinds_of_mappingOf found with ⟨what, rfl⟩ | ⟨fault, rfl⟩
      · exact .failed _ rfl rfl
      · cases fault <;> exact .failed _ rfl rfl

theorem isUnreadable_of_fault {fault : FileFault}
    (unread : tree.read (root.child expectation.path) = .error (.file fault)) :
    isUnreadable tree root expectation = false := by
  rw [isUnreadable]
  cases expectation.kind <;> simp [isGarbledAt, isUnloadableAt, unread]

theorem judged (tree : Tree) (root : Path) (expectation : Expectation) :
    Judged (isMet tree root expectation) (isUnreadable tree root expectation)
      (holds tree root expectation) := by
  rcases tree.reading (root.child expectation.path) with
    ⟨fault, found, isSystem, other, unread⟩ | ⟨found, outside, other, unread⟩ |
      ⟨found, inside, unread⟩ | ⟨found, outside, bytes, read, loaded⟩
  · have unmet : isMet tree root expectation = false := by
      cases kind : expectation.kind <;> cases needle : expectation.needle <;>
        simp [isMet, kind, needle, found, unread, Except.toOption, bind, Except.bind]
    rw [isUnreadable_of_fault unread, holds, stands, found]
    exact .of_system unmet isSystem
  · rw [isUnreadable_of_fault unread]
    cases kind : expectation.kind <;> cases needle : expectation.needle <;>
      simp only [isMet, holds, stands, isDirectory, kind, needle, found, outside, unread] <;>
      exact .answered rfl
  · rw [isUnreadable_of_fault unread]
    cases kind : expectation.kind <;> cases needle : expectation.needle <;>
      simp only [isMet, holds, stands, isDirectory, kind, needle, found, inside, unread] <;>
      first | exact .answered rfl | exact .of_system rfl rfl
  · cases kind : expectation.kind with
    | «exists» =>
      simp only [isMet, isUnreadable, holds, stands, kind, found]
      exact .answered rfl
    | contains =>
      simp only [isMet, isUnreadable, holds, stands, isDirectory, kind, found, outside]
      exact judged_text read _
    | key =>
      simp only [isMet, isUnreadable, holds, stands, isDirectory, kind, found, outside]
      exact judged_document read loaded _
    | absent =>
      cases needle : expectation.needle with
      | none =>
        simp only [isMet, isUnreadable, holds, stands, kind, needle, found]
        exact .answered rfl
      | some needle =>
        simp only [isMet, isUnreadable, holds, stands, kind, needle, found]
        exact judged_text read _

theorem check_of_readable (readable : isUnreadable tree root expectation = false) :
    check tree root expectation =
      .ok (judge (entry tree root expectation) (isMet tree root expectation) expectation) := by
  have judged := judged tree root expectation
  rw [readable] at judged
  rw [check, entry]
  generalize isMet tree root expectation = met at judged
  generalize holds tree root expectation = answer at judged
  cases judged with
  | answered _ => rfl
  | failed failure unmet ends =>
    rw [unmet]
    exact if_pos ends

theorem check_of_unreadable (unreadable : isUnreadable tree root expectation = true) :
    ∃ failure, holds tree root expectation = .error failure ∧ failure.endsPhase = false ∧
      check tree root expectation = .error failure := by
  have judged := judged tree root expectation
  rw [unreadable] at judged
  rw [check]
  generalize isMet tree root expectation = met at judged
  generalize holds tree root expectation = answer at judged
  cases judged with
  | answered readable => cases readable
  | failed failure _ ends => exact ⟨failure, rfl, ends, by simp [ends]⟩

/-! ### All checks -/

/-- The findings of a list of expectations, sorted by what they come to. -/
def sorted (tree : Tree) (root : Path) (expectations : List Expectation) : Findings where
  passed := (expectations.filter (isMet tree root)).map (entry tree root)
  failed := (expectations.filter fun expectation =>
    !isMet tree root expectation && !expectation.isSoft).map (entry tree root)
  warnings := (expectations.filter fun expectation =>
    !isMet tree root expectation && expectation.isSoft).map (entry tree root)

theorem judge_append_sorted (tree : Tree) (root : Path) (first : Expectation)
    (rest : List Expectation) :
    (judge (entry tree root first) (isMet tree root first) first).append (sorted tree root rest) =
      sorted tree root (first :: rest) := by
  rw [judge]
  cases met : isMet tree root first <;> cases soft : first.isSoft <;>
    simp [sorted, Findings.append, met, soft]

theorem length_sorted (tree : Tree) (root : Path) (expectations : List Expectation) :
    (sorted tree root expectations).passed.length +
        (sorted tree root expectations).warnings.length +
        (sorted tree root expectations).failed.length = expectations.length := by
  induction expectations with
  | nil => rfl
  | cons first rest inductionHypothesis =>
    rw [← judge_append_sorted, List.length_cons, ← inductionHypothesis, judge]
    cases isMet tree root first <;> cases first.isSoft <;>
      simp [Findings.append] <;> omega

theorem checkAll_of_readable
    (readable : ∀ expectation ∈ expectations, isUnreadable tree root expectation = false) :
    checkAll tree root expectations = .ok (sorted tree root expectations) := by
  induction expectations with
  | nil => rfl
  | cons first rest inductionHypothesis =>
    rw [checkAll, check_of_readable (readable first List.mem_cons_self),
      inductionHypothesis fun expectation member =>
        readable expectation (List.mem_cons_of_mem first member), ← judge_append_sorted]
    rfl

/-- The first expectation that has something read that cannot be made sense of ends the list. -/
theorem checkAll_of_unreadable
    (unreadable : ∃ expectation ∈ expectations, isUnreadable tree root expectation = true) :
    ∃ before expectation behind failure, expectations = before ++ expectation :: behind ∧
      (∀ other ∈ before, isUnreadable tree root other = false) ∧
      isUnreadable tree root expectation = true ∧
      holds tree root expectation = .error failure ∧ failure.endsPhase = false ∧
      checkAll tree root expectations = .error failure := by
  induction expectations with
  | nil => simp at unreadable
  | cons first rest inductionHypothesis =>
    rw [checkAll]
    cases own : isUnreadable tree root first with
    | true =>
      obtain ⟨failure, held, escapes, checked⟩ := check_of_unreadable own
      exact ⟨[], first, rest, failure, rfl, by simp, own, held, escapes, by rw [checked]; rfl⟩
    | false =>
      obtain ⟨other, member, later⟩ := unreadable
      have inside := (List.mem_cons.mp member).resolve_left fun same => by simp [same, own] at later
      obtain ⟨before, expectation, behind, failure, rfl, readable, ended⟩ :=
        inductionHypothesis ⟨other, inside, later⟩
      refine ⟨first :: before, expectation, behind, failure, rfl, ?_, ended.1, ended.2.1,
        ended.2.2.1, ?_⟩
      · rintro other (_ | ⟨_, member⟩)
        · exact own
        · exact readable other member
      · rw [check_of_readable own, ended.2.2.2]
        rfl

/-- A list of expectations is checked to its end exactly if none of them has something read that
cannot be made sense of. Then each has its entry in one of the three lists, in order: among the
passed if the tree meets it, and else among the warnings or the failed, as it is soft or not. If
not, the first such expectation ends the list. Checking changes nothing. -/
theorem checkAll_sorts (tree : Tree) (root : Path) (expectations : List Expectation) :
    ((∃ findings, checkAll tree root expectations = .ok findings) ↔
        ∀ expectation ∈ expectations, isUnreadable tree root expectation = false) ∧
      (∀ findings, checkAll tree root expectations = .ok findings →
        findings = sorted tree root expectations ∧
          findings.passed.length + findings.warnings.length + findings.failed.length =
            expectations.length) ∧
      (∀ failure, checkAll tree root expectations = .error failure →
        ∃ before expectation behind, expectations = before ++ expectation :: behind ∧
          (∀ other ∈ before, isUnreadable tree root other = false) ∧
          isUnreadable tree root expectation = true ∧
          holds tree root expectation = .error failure ∧ failure.endsPhase = false) ∧
      ∀ path, (Config.load path tree).2 = tree := by
  have unchanged (path : Path) : (Config.load path tree).2 = tree := by
    rcases Config.load_cases path tree with ⟨held, loaded, -⟩ | ⟨failure, failed, -⟩
    · rw [loaded]
    · rw [failed]
  by_cases readable : ∀ expectation ∈ expectations, isUnreadable tree root expectation = false
  · rw [checkAll_of_readable readable]
    refine ⟨iff_of_true ⟨_, rfl⟩ readable, fun findings same => ?_, fun _ other => ?_, unchanged⟩
    · obtain rfl := Except.ok.inj same
      exact ⟨rfl, length_sorted tree root expectations⟩
    · cases other
  · have unreadable : ∃ expectation ∈ expectations, isUnreadable tree root expectation = true := by
      simpa using readable
    obtain ⟨before, expectation, behind, failure, split, earlier, own, held, escapes, ended⟩ :=
      checkAll_of_unreadable unreadable
    rw [ended]
    refine ⟨iff_of_false (by simp) readable, fun _ other => ?_, fun other same => ?_, unchanged⟩
    · cases other
    · obtain rfl := Except.error.inj same
      exact ⟨before, expectation, behind, split, earlier, own, held, escapes⟩

/-- A tree with one file below a directory. -/
def treeWith (bytes : Utf8.Bytes) : Tree :=
  ⟨[(here ++ ["dst".toList], .directory), (here ++ ["dst".toList, "a".toList], .file bytes)]⟩

/-- Expectations about a file: that it holds a text, that it is a document with a key, and that it
is there. -/
def expectationsAt (path needle : Text) : List Expectation :=
  [{ path := path, kind := .contains, needle := some needle, isSoft := true },
    { path := path, kind := .key, needle := some needle }, { path := path }]

theorem checkAll_sorts_around_text :
    ∃ findings, checkAll (treeWith (Utf8.encode "b".toList)) (.ofText "dst".toList)
        (expectationsAt "a".toList "c".toList) = .ok findings ∧
      findings.passed.length + findings.warnings.length + findings.failed.length = 3 := by
  have result := checkAll_sorts (treeWith (Utf8.encode "b".toList)) (.ofText "dst".toList)
    (expectationsAt "a".toList "c".toList)
  obtain ⟨findings, checked⟩ := result.1.mpr (by decide +kernel)
  exact ⟨findings, checked, (result.2.1 findings checked).2⟩

/-- A file that is no text keeps the expectations from being checked, among them one that the tree
meets. -/
theorem checkAll_ends_at_garbled_file :
    (∀ findings, checkAll (treeWith [0xff]) (.ofText "dst".toList)
        (expectationsAt "a".toList "b".toList) ≠ .ok findings) ∧
      holds (treeWith [0xff]) (.ofText "dst".toList) { path := "a".toList } = .ok true := by
  constructor
  · intro findings checked
    have ended : (checkAll (treeWith [0xff]) (.ofText "dst".toList)
        (expectationsAt "a".toList "b".toList)).toOption.isSome = false := by decide +kernel
    rw [checked] at ended
    cases ended
  · rfl

end Check

end GuidedMigration
