/-
This file shows that the outcomes of changes account for them. What writes a file answers that it
was applied, and names a path at or above that file; what answers anything else, or fails, has
written no file. Only the report on the copy of a directory leaves copies without an outcome, and a
manifest that is no text leaves its file empty without one.

The path in an outcome is a text. What a text is read as is written as a text that is read as the
same path again, and so is every path that is reached from such a path by a text.
-/
import GuidedMigration.Config.Document
import GuidedMigration.Proofs.Text.Rows
import GuidedMigration.Proofs.Tree.Reported
import GuidedMigration.Target.Manifest
import GuidedMigration.Tree.Path

namespace GuidedMigration

open Text

namespace Path

/-- Whether something between two slashes is a part of a path. -/
def isPart (part : Text) : Bool := !part.isEmpty && part != ['.']

/-- A path that a text is read as: it starts with no slash, with one or with two, and its parts are
parts and have no slash. -/
structure IsWritten (path : Path) : Prop where
  root : path.root = [] ∨ path.root = ['/'] ∨ path.root = ['/', '/']
  isPart : ∀ part ∈ path.parts, isPart part = true
  clean : ∀ part ∈ path.parts, '/' ∉ part

variable {path base : Path}

theorem isWritten_ofText (text : Text) : (ofText text).IsWritten where
  root := by
    rw [ofText, rootOf]
    split
    · exact .inl rfl
    · exact .inr (.inr rfl)
    · exact .inr (.inl rfl)
  isPart part member := (List.mem_filter.mp member).2
  clean part member := not_mem_of_mem_splitOn (List.mem_filter.mp member).1

/-- What a text names, seen from a written path, is a written path. -/
theorem IsWritten.child (written : base.IsWritten) (text : Text) : (base.child text).IsWritten := by
  have named := isWritten_ofText text
  rw [Path.child, join]
  split
  · exact named
  · refine ⟨written.root, fun part member => ?_, fun part member => ?_⟩
    · exact (List.mem_append.mp member).elim (written.isPart part) (named.isPart part)
    · exact (List.mem_append.mp member).elim (written.clean part) (named.clean part)

/-! ### Reading what is written -/

theorem filter_splitOn (written : path.IsWritten) :
    (splitOn '/' (joinWith ['/'] path.parts)).filter Path.isPart = path.parts := by
  by_cases none' : path.parts = []
  · rw [none']
    rfl
  · rw [splitOn_joinWith none' written.clean, List.filter_eq_self.mpr written.isPart]

/-- The parts of a written path do not start with a slash. -/
theorem takeWhile_joinWith (written : path.IsWritten) :
    (joinWith ['/'] path.parts).takeWhile (· = '/') = [] := by
  cases parts : path.parts with
  | nil => rfl
  | cons part parts' =>
    have isPart := written.isPart part (by simp [parts])
    have clean := written.clean part (by simp [parts])
    cases part with
    | nil => simp [Path.isPart] at isPart
    | cons char part =>
      have other : char ≠ '/' := fun same => clean (by simp [same])
      cases parts' <;> simp [joinWith, other]

theorem takeWhile_append_joinWith (written : path.IsWritten) :
    (path.root ++ joinWith ['/'] path.parts).takeWhile (· = '/') = path.root := by
  have slashes : ∀ char ∈ path.root, decide (char = '/') = true := by
    rcases written.root with root | root | root <;> simp [root]
  rw [List.takeWhile_append_of_pos slashes, takeWhile_joinWith written, List.append_nil]

theorem ofText_append_joinWith (written : path.IsWritten) :
    ofText (path.root ++ joinWith ['/'] path.parts) = path := by
  have root : rootOf (path.root ++ joinWith ['/'] path.parts) = path.root := by
    rw [rootOf, takeWhile_append_joinWith written]
    rcases written.root with root | root | root <;> rw [root] <;> rfl
  have parts : (splitOn '/' (path.root ++ joinWith ['/'] path.parts)).filter Path.isPart =
      path.parts := by
    have found := filter_splitOn written
    rcases written.root with root | root | root <;> rw [root]
    · exact found
    · rwa [List.singleton_append, splitOn, if_pos rfl, List.filter_cons_of_neg (by decide)]
    · rwa [List.cons_append, splitOn, if_pos rfl, List.filter_cons_of_neg (by decide),
        List.singleton_append, splitOn, if_pos rfl, List.filter_cons_of_neg (by decide)]
  calc ofText (path.root ++ joinWith ['/'] path.parts)
      = ⟨rootOf (path.root ++ joinWith ['/'] path.parts),
          (splitOn '/' (path.root ++ joinWith ['/'] path.parts)).filter Path.isPart⟩ := rfl
    _ = path := by rw [root, parts]

/-- A written path is told by its text. -/
theorem ofText_toText (written : path.IsWritten) : ofText path.toText = path := by
  rw [toText]
  split
  · rename_i empty
    rw [Bool.and_eq_true, List.isEmpty_iff, List.isEmpty_iff] at empty
    obtain ⟨root, parts⟩ := path
    obtain ⟨rfl, rfl⟩ := empty
    rfl
  · exact ofText_append_joinWith written

end Path

end GuidedMigration

namespace GuidedMigration

open GuidedMigration.Tree Files

/-- Whether an outcome says that something was applied at or above a place. -/
def Outcome.Covers (outcome : Outcome) (place : Path.Place) : Prop :=
  outcome.status = .applied ∧ IsAtOrBelow (spelled (.ofText outcome.path)) place

theorem Outcome.covers_spelled {outcome : Outcome} {path : Path} (written : path.IsWritten)
    (applied : outcome.status = .applied) (named : outcome.path = path.toText) :
    outcome.Covers (spelled path) :=
  ⟨applied, by rw [named, Path.ofText_toText written]; exact List.prefix_rfl⟩

namespace Files

variable {First Answer : Type} {path : Path}

/-- Whether an action leaves the tree as it is. -/
def IsQuiet (action : Files Answer) : Prop := ∀ tree, (action tree).2 = tree

theorem IsQuiet.bind {action : Files First} {next : First → Files Answer} (quiet : IsQuiet action)
    (further : ∀ answer, IsQuiet (next answer)) : IsQuiet (action >>= next) :=
  leads_bind (fun before after => after = before) (fun once again => again.trans once)
    quiet further

theorem isQuiet_ask (question : Tree → Except FileFault Answer) : IsQuiet (ask question) := by
  intro tree
  rw [ask]
  split <;> rfl

theorem isQuiet_pure (answer : Answer) : IsQuiet (pure answer) := fun _ => rfl

theorem isQuiet_mk (result : Except Failure Answer) :
    IsQuiet (ExceptT.mk (pure result) : Files Answer) := fun _ => rfl

theorem isQuiet_existing (path : Path) (missing : Refusal) :
    IsQuiet (Target.existing path missing) := by
  refine (isQuiet_ask _).bind fun there => ?_
  split
  · exact fun _ => rfl
  · exact fun _ => rfl

theorem isQuiet_load (path : Path) : IsQuiet (Config.load path) := by
  refine (isQuiet_ask _).bind fun there => ?_
  split
  · exact IsQuiet.bind (fun _ => rfl) fun text => isQuiet_mk _
  · exact isQuiet_pure _

/-! ### Actions that account for what they write -/

/-- What is left by an action that accounts for what it writes: no new file, or files that its
outcome covers, or else a failure that excuses it. -/
def Accounted (excused : Failure → Prop) (before : Tree) (result : Except Failure Outcome)
    (after : Tree) : Prop :=
  Evolves (fun _ => False) before after ∨
    (∃ outcome, result = .ok outcome ∧ Evolves outcome.Covers before after) ∨
    ∃ failure, result = .error failure ∧ excused failure

/-- Whether an action accounts for what it writes, but for failures that excuse it. -/
def Accounts (excused : Failure → Prop) (action : Files Outcome) : Prop :=
  ∀ tree, tree.IsSound → Accounted excused tree (action tree).1 (action tree).2

variable {excused : Failure → Prop}

namespace Accounts

theorem ofQuiet {action : Files Outcome} (quiet : IsQuiet action) : Accounts excused action :=
  fun tree _ => .inl ((quiet tree).symm ▸ .refl)

/-- An action that follows one which leaves the tree as it is, and may rely on its answer. -/
theorem bindWith {action : Files First} {next : First → Files Outcome} (quiet : IsQuiet action)
    (further : ∀ tree answer, (action tree).1 = .ok answer → Accounts excused (next answer)) :
    Accounts excused (action >>= next) := by
  intro tree sound
  have same := quiet tree
  rw [bind_apply]
  cases outcome : action tree with
  | mk result after =>
    obtain rfl : after = tree := by rw [← same, outcome]
    cases result with
    | ok answer => exact further after answer (by rw [outcome]) after sound
    | error failure => exact .inl .refl

theorem bind {action : Files First} {next : First → Files Outcome} (quiet : IsQuiet action)
    (further : ∀ answer, Accounts excused (next answer)) : Accounts excused (action >>= next) :=
  bindWith quiet fun _ answer _ => further answer

/-- Something is written where an outcome says that it was applied; what fails has written nothing
or is excused. -/
theorem answering {action : Files First} {outcome : Outcome}
    (evolves : ∀ tree, tree.IsSound → Evolves outcome.Covers tree (action tree).2)
    (failed : ∀ tree failure, tree.IsSound → (action tree).1 = .error failure →
      ¬ excused failure → Evolves (fun _ => False) tree (action tree).2) :
    Accounts excused (do let _ ← action; pure outcome) := by
  intro tree sound
  have evolves := evolves tree sound
  have failed := failed tree
  rw [bind_apply]
  cases ran : action tree with
  | mk result after =>
    rw [ran] at evolves failed
    cases result with
    | ok answer => exact .inr (.inl ⟨outcome, rfl, evolves⟩)
    | error failure =>
      by_cases excuse : excused failure
      · exact .inr (.inr ⟨failure, rfl, excuse⟩)
      · exact .inl (failed failure sound rfl excuse)

/-- A file is written, and the outcome says so. -/
theorem write {outcome : Outcome} (written : path.IsWritten)
    (applied : outcome.status = .applied) (named : outcome.path = path.toText) (content : Text) :
    Accounts excused (do write path content; pure outcome) :=
  answering
    (fun tree _ => evolves_write (Outcome.covers_spelled written applied named) content tree)
    fun _ _ _ failed _ => evolves_of_failed_write failed

end Accounts

end Files

namespace Target

variable {excused : Failure → Prop} {path : Path}

theorem accounts_insert (written : path.IsWritten) (fragment : Text) (primitive : Code.Primitive) :
    Accounts excused (insert path fragment primitive) := by
  unfold insert insertAs
  refine .bind (isQuiet_existing _ _) fun old => ?_
  split
  · exact .ofQuiet (isQuiet_pure _)
  · exact .bind (isQuiet_mk _) fun kind => .bind (isQuiet_mk _) fun insertion =>
      .write written rfl rfl _

theorem accounts_delete (written : path.IsWritten) (patterns : List Code.Pattern)
    (primitive : Text) : Accounts excused (delete path patterns primitive) := by
  unfold delete
  refine .bind (isQuiet_existing _ _) fun old => ?_
  dsimp only
  split
  · exact .ofQuiet (isQuiet_pure _)
  · exact .write written rfl rfl _

/-- Whether a failure is that what was to be written is no text. -/
def IsUnencodable (failure : Failure) : Prop := ∃ fault, failure = .unencodable fault

/-- A word accounts for its file, unless it is no text. -/
theorem accounts_writeWord {outcome : Text → Outcome} (written : path.IsWritten)
    (applied : ∀ text, (outcome text).status = .applied)
    (named : ∀ text, (outcome text).path = path.toText) (word : Json.Word) :
    Accounts IsUnencodable (do let text ← writeWord path word; pure (outcome text)) := by
  unfold writeWord
  split
  · rename_i text encoded
    rw [bind_assoc]
    exact .write written (applied text) (named text) text
  · rename_i fault refused
    rw [bind_assoc]
    intro tree sound
    rw [bind_apply]
    cases emptied : Files.write path [] tree with
    | mk result after =>
      cases result with
      | ok answer => exact .inr (.inr ⟨.unencodable fault, rfl, fault, rfl⟩)
      | error failure =>
        have kept := evolves_of_failed_write (congrArg Prod.fst emptied)
        rw [emptied] at kept
        exact .inl kept

theorem accounts_mergeDependencies (written : path.IsWritten) (sections : Sections) :
    Accounts IsUnencodable (mergeDependencies path sections) := by
  unfold mergeDependencies
  refine .bind (isQuiet_existing _ _) fun old => .bind (isQuiet_mk _) fun manifest =>
    .bind (isQuiet_mk _) fun outcome => ?_
  split
  split
  · exact .ofQuiet (isQuiet_pure _)
  · exact accounts_writeWord written (fun _ => rfl) (fun _ => rfl) _

/-- A merge accounts for the document with an outcome that says whether it was changed. -/
theorem accounts_mergeInto {outcome : Bool → Outcome} (written : path.IsWritten)
    (applied : (outcome true).status = .applied) (named : (outcome true).path = path.toText)
    (fragment : Mapping) :
    Accounts excused (do
      let changed ← Config.mergeInto path fragment
      pure (outcome changed)) := by
  unfold Config.mergeInto
  simp only [bind_assoc]
  refine .bind (isQuiet_load _) fun held => .bind (isQuiet_ask _) fun there => ?_
  have writes : Accounts excused ((do
      Config.writeDocument path (Mapping.merge held fragment)
      pure true) >>= fun changed => pure (outcome changed)) := by
    rw [bind_assoc, Config.writeDocument]
    split
    · exact .write written applied named _
    · exact .ofQuiet fun _ => rfl
  split
  · split
    · exact .ofQuiet (isQuiet_pure _)
    · exact writes
  · exact writes

/-- Whether a failure reports what could not be copied of a directory. -/
def IsReport (failure : Failure) : Prop := ∃ failed, failure = .file (.copies failed)

theorem isQuiet_isSameFile (source destination : Path) :
    IsQuiet (isSameFile source destination) := by
  have digests (path : Path) : IsQuiet (digest path) :=
    (isQuiet_ask _).bind fun _ => isQuiet_pure _
  refine (isQuiet_ask _).bind fun there => ?_
  split
  · exact (digests source).bind fun left => (digests destination).bind fun right => isQuiet_pure _
  · exact isQuiet_pure _

/-- A copy accounts for what it writes, unless it ends with a report on what it has not copied. -/
theorem accounts_copyPath {source destination : Path} (written : destination.IsWritten)
    (rules : CopyRules) (origin target : Text) :
    Accounts IsReport (copyPath source destination rules origin target) := by
  unfold copyPath
  dsimp only
  cases stays : staysInside destination (destination.child target) with
  | false => exact .ofQuiet fun _ => rfl
  | true =>
    obtain ⟨targetFree, -⟩ := isAtOrBelow_of_staysInside stays
    rw [Bool.not_true, if_neg Bool.false_ne_true]
    refine .bindWith (isQuiet_ask _) fun tree there answered => ?_
    cases there with
    | false =>
      rw [Bool.not_false, if_pos rfl]
      split
      · exact .ofQuiet (isQuiet_pure _)
      · exact .ofQuiet fun _ => rfl
    | true =>
      have sourceFree := isNullFree_of_exists? (exists?_of_answer answered)
      rw [Bool.not_true, if_neg Bool.false_ne_true]
      refine .bind (isQuiet_ask _) fun isDirectory => ?_
      have copies {outcome : Outcome} (applied : outcome.status = .applied)
          (named : outcome.path = (destination.child target).toText) :
          Accounts IsReport (do
            copy rules.excluded (source.child origin) (destination.child target)
            pure outcome) := by
        refine .answering (fun tree sound => ?_) fun tree failure sound failed unreported =>
          evolves_of_failed_copy sourceFree targetFree sound failed
            fun report same => unreported ⟨report, same⟩
        have behaved := behaves_copy rules.excluded sourceFree targetFree List.prefix_rfl tree sound
        refine behaved.evolves.mono fun place below => ⟨applied, ?_⟩
        rwa [named, Path.ofText_toText (written.child target)]
      split
      · refine .bind (isQuiet_isSameFile _ _) fun same => ?_
        split
        · exact .ofQuiet (isQuiet_pure _)
        · exact copies rfl rfl
      · exact copies rfl rfl

end Target

end GuidedMigration
