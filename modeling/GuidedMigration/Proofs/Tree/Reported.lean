/-
This file shows what a failed copy leaves. The copies in a directory go on when one of them fails,
and what failed is reported together at the end, when others have been made. A copy that fails in
any other way, one of a single file among them, has written no file.
-/
import GuidedMigration.Proofs.Tree.Copying

namespace GuidedMigration.Files

open GuidedMigration.Tree

variable {First Answer : Type} {allowed : Path.Place → Prop} {tree : Tree} {failure : Failure}
  {path source destination : Path} {root : Path.Place} {excluded : List Text}

/-! ### Failures of the file system -/

/-- Whether an action fails for nothing but what the file system says. -/
def FailsByFault (action : Files Answer) : Prop :=
  ∀ tree failure, (action tree).1 = .error failure → ∃ fault, failure = .file fault

namespace FailsByFault

theorem pure (answer : Answer) : FailsByFault (Pure.pure answer) :=
  fun _ _ failed => by cases failed

theorem throw (fault : FileFault) : FailsByFault (throw (.file fault) : Files Answer) :=
  fun _ _ failed => ⟨fault, (Except.error.inj failed).symm⟩

theorem bind {action : Files First} {next : First → Files Answer} (first : FailsByFault action)
    (further : ∀ answer, FailsByFault (next answer)) : FailsByFault (action >>= next) := by
  intro tree failure failed
  rcases failed_of_bind failed with failed | ⟨answer, between, -, failed⟩
  · exact first tree failure failed
  · exact further answer between failure failed

theorem ask (question : Tree → Except FileFault Answer) : FailsByFault (Files.ask question) := by
  intro tree failure failed
  rw [Files.ask] at failed
  split at failed
  · cases failed
  · exact ⟨_, (Except.error.inj failed).symm⟩

theorem change (attempt : Tree → Except FileFault Tree) : FailsByFault (Files.change attempt) := by
  intro tree failure failed
  rw [Files.change] at failed
  split at failed
  · cases failed
  · exact ⟨_, (Except.error.inj failed).symm⟩

theorem tryCatch {action : Files Answer} {handler : Failure → Files Answer}
    (first : FailsByFault action) (handled : ∀ fault, FailsByFault (handler (.file fault))) :
    FailsByFault (tryCatch action handler) := by
  intro tree failure failed
  rw [tryCatch_apply] at failed
  have known := first tree
  cases outcome : action tree with
  | mk result after =>
    rw [outcome] at failed known
    cases result with
    | ok answer => cases failed
    | error other =>
      obtain ⟨fault, rfl⟩ := known other rfl
      exact handled fault after failure failed

theorem ensureOne (path : Path) : FailsByFault (ensureOne path) := by
  intro tree failure failed
  unfold Files.ensureOne at failed
  split at failed
  · cases failed
  · split at failed
    · cases failed
    · exact ⟨_, (Except.error.inj failed).symm⟩

theorem ensureFrom (root : Text) (parts : List Text) : FailsByFault (ensureFrom root parts) := by
  induction parts with
  | nil => exact .ensureOne _
  | cons last above inductionHypothesis =>
    intro tree failure failed
    unfold Files.ensureFrom at failed
    dsimp only at failed
    split at failed
    · exact inductionHypothesis.bind (fun _ => .ensureOne _) tree failure failed
    · exact FailsByFault.ensureOne _ tree failure failed

theorem write (path : Path) (content : Text) : FailsByFault (write path content) :=
  (FailsByFault.ensureFrom _ _).bind fun _ => .change _

theorem makeAllFrom (root : Text) (parts : List Text) : FailsByFault (makeAllFrom root parts) := by
  induction parts with
  | nil => exact .ensureOne _
  | cons last above inductionHypothesis =>
    unfold Files.makeAllFrom
    dsimp only
    split
    · refine FailsByFault.bind (fun _ _ failed => by cases failed) fun there => ?_
      split
      · refine FailsByFault.bind (inductionHypothesis.tryCatch fun fault => ?_)
          fun _ => .ensureOne _
        split
        · exact .pure ()
        · exact .throw fault
      · exact .ensureOne _
    · exact .ensureOne _

theorem copyOnto (label : Path → Path → Text × Text) (source target : Path) :
    FailsByFault (copyOnto label source target) := by
  have copies : FailsByFault (bytes source >>= fun content =>
      Files.change (·.writeBytes target content)) :=
    (FailsByFault.ask _).bind fun content => .change _
  refine FailsByFault.bind (fun _ _ failed => by cases failed) fun same => ?_
  split
  · exact (FailsByFault.throw _).bind fun _ => copies
  · exact copies

theorem copyFile (label : Path → Path → Text × Text) (source destination : Path) :
    FailsByFault (copyFile label source destination) := by
  have split : Files.copyFile label source destination =
      copyTarget source destination >>= Files.copyOnto label source := rfl
  rw [split]
  refine FailsByFault.bind ((FailsByFault.ask _).bind fun there => ?_) fun _ => .copyOnto _ _ _
  split <;> exact .pure _

theorem attempt {copy : Files Unit} (fails : FailsByFault copy) (source destination : Path) :
    FailsByFault (attempt source destination copy) := by
  refine (fails.bind fun _ => .pure []).tryCatch fun fault => ?_
  split
  · exact .pure _
  · exact .pure _
  · exact .pure _
  · exact .throw fault

theorem namesIn (path : Path) : FailsByFault (namesIn path) := by
  intro tree failure failed
  rw [Files.namesIn] at failed
  split at failed
  · exact ⟨_, (Except.error.inj failed).symm⟩
  · split at failed
    · cases failed
    · exact ⟨_, (Except.error.inj failed).symm⟩
    · exact ⟨_, (Except.error.inj failed).symm⟩

theorem copyEntry {copyInner : Path → Path → Files Unit}
    (inner : ∀ source destination, FailsByFault (copyInner source destination))
    (source destination : Path) : FailsByFault (copyEntry copyInner source destination) := by
  refine (FailsByFault.ask _).bind fun directory => ?_
  split
  · exact inner _ _
  · exact .copyFile _ _ _

theorem copyEntries {copyInner : Path → Path → Files Unit}
    (inner : ∀ source destination, FailsByFault (copyInner source destination))
    (source destination : Path) (names : List Text) :
    FailsByFault (copyEntries copyInner source destination names) := by
  induction names with
  | nil => exact .pure []
  | cons name names inductionHypothesis =>
    rw [Files.copyEntries]
    exact FailsByFault.bind (.attempt (.copyEntry inner _ _) _ _)
      fun failed => inductionHypothesis.bind fun others => .pure _

theorem copyDirectory (excluded : List Text) (depth : Nat) (source destination : Path) :
    FailsByFault (copyDirectory excluded depth source destination) := by
  induction depth generalizing source destination with
  | zero => exact .pure ()
  | succ depth inductionHypothesis =>
    rw [Files.copyDirectory]
    refine (FailsByFault.namesIn source).bind fun names => (FailsByFault.makeAllFrom _ _).bind
      fun _ => (FailsByFault.copyEntries (fun _ _ => inductionHypothesis _ _) _ _ _).bind
        fun failed => ?_
    split
    · exact .throw _
    · exact .pure ()

theorem copy (excluded : List Text) (source destination : Path) :
    FailsByFault (copy excluded source destination) := by
  unfold Files.copy
  refine (FailsByFault.ask _).bind fun directory => ?_
  split
  · exact (FailsByFault.ask _).bind fun depth => .copyDirectory _ _ _ _
  · exact (FailsByFault.ensureFrom _ _).bind fun _ => .copyFile _ _ _

end FailsByFault

/-! ### Copies that are reported -/

/-- The copy of one entry does not fail: what goes wrong is reported. -/
theorem exists_attempt {copy : Files Unit} (fails : FailsByFault copy)
    (behaves : Behaves allowed copy) (sound : tree.IsSound) (source destination : Path) :
    ∃ failed after, attempt source destination copy tree = (.ok failed, after) ∧
      after.IsSound := by
  have behaved := behaves tree sound
  have after := behaved.evolves.sound sound
  have known := fails tree
  rw [attempt, tryCatch_apply, bind_apply]
  cases outcome : copy tree with
  | mk result between =>
    rw [outcome] at behaved after known
    cases result with
    | ok answer => exact ⟨_, _, rfl, after⟩
    | error failure =>
      obtain ⟨fault, rfl⟩ := known failure rfl
      cases fault with
      | nullCharacter => cases behaved.recovers
      | _ => exact ⟨_, _, rfl, after⟩

/-- The copies in a directory do not fail: what goes wrong is reported. -/
theorem exists_copyEntries {copyInner : Path → Path → Files Unit}
    (inner : ∀ source destination, isNullFree source = true → isNullFree destination = true →
      IsAtOrBelow root (spelled destination) → Behaves (IsAtOrBelow root)
        (copyInner source destination))
    (fails : ∀ source destination, FailsByFault (copyInner source destination))
    (sourceFree : isNullFree source = true) (targetFree : isNullFree destination = true)
    (inside : IsAtOrBelow root (spelled destination)) {names : List Text}
    (named : ∀ name ∈ names, isName name = true) (sound : tree.IsSound) :
    ∃ failed after, copyEntries copyInner source destination names tree = (.ok failed, after) := by
  induction names generalizing tree with
  | nil => exact ⟨[], tree, rfl⟩
  | cons name names inductionHypothesis =>
    have copies := behaves_copyEntry inner sourceFree targetFree inside
      (named name List.mem_cons_self)
    obtain ⟨failed, between, first, between'⟩ := exists_attempt (.copyEntry fails _ _) copies sound
      { source with parts := source.parts ++ [name] }
      { destination with parts := destination.parts ++ [name] }
    obtain ⟨others, after, later⟩ := inductionHypothesis
      (fun other member => named other (List.mem_cons_of_mem _ member)) between'
    refine ⟨failed ++ others, after, ?_⟩
    rw [copyEntries_cons, bind_apply, first]
    dsimp only
    rw [bind_apply, later]
    rfl

/-- No file is written on the way to what fails first, if what comes behind it does not fail. -/
theorem evolves_of_bind {action : Files First} {next : First → Files Answer}
    (quiet : Evolves (fun _ => False) tree (action tree).2)
    (further : ∀ answer between, action tree = (.ok answer, between) →
      (next answer between).1 = .error failure →
      Evolves (fun _ => False) between (next answer between).2)
    (failed : ((action >>= next) tree).1 = .error failure) :
    Evolves (fun _ => False) tree ((action >>= next) tree).2 := by
  rw [bind_apply] at failed ⊢
  cases outcome : action tree with
  | mk result between =>
    rw [outcome] at quiet failed
    cases result with
    | error other => exact quiet
    | ok answer => exact quiet.trans (further answer between outcome failed)

/-- A directory whose copy fails without a report has not been started on. -/
theorem evolves_of_failed_copyDirectory {depth : Nat} (sourceFree : isNullFree source = true)
    (targetFree : isNullFree destination = true) (sound : tree.IsSound)
    (failed : (copyDirectory excluded depth source destination tree).1 = .error failure)
    (unreported : ∀ failed, failure ≠ .file (.copies failed)) :
    Evolves (fun _ => False) tree (copyDirectory excluded depth source destination tree).2 := by
  cases depth with
  | zero => cases failed
  | succ depth =>
    rw [copyDirectory] at failed ⊢
    have listed : Behaved (fun _ => False) tree (namesIn source tree).1 (namesIn source tree).2 :=
      behaves_namesIn sourceFree tree sound
    refine evolves_of_bind listed.evolves (fun names between read failed => ?_) failed
    rw [read] at listed
    have between' := listed.evolves.sound sound
    have made : Behaved (fun _ => False) between (makeAll destination between).1
        (makeAll destination between).2 :=
      behaves_makeAllFrom (by rwa [List.reverse_reverse]) between between'
    refine evolves_of_bind made.evolves (fun _ further makes failed => ?_) failed
    rw [makes] at made
    have named : ∀ name ∈ names.filter (!isExcluded excluded ·), isName name = true :=
      fun name member => isName_of_namesIn sound (congrArg Prod.fst read) name
        (List.mem_filter.mp member).1
    obtain ⟨report, after, copied⟩ := exists_copyEntries
      (fun _ _ => behaves_copyDirectory excluded depth) (.copyDirectory excluded depth)
      sourceFree targetFree (List.prefix_rfl) named (made.evolves.sound between')
    -- What is left fails with the report alone.
    rw [bind_apply, copied] at failed
    dsimp only at failed
    split at failed
    · exact absurd (Except.error.inj failed).symm (unreported report)
    · cases failed

/-- A change that fails is none. -/
theorem eq_of_failed_change {attempt : Tree → Except FileFault Tree}
    (failed : (change attempt tree).1 = .error failure) : (change attempt tree).2 = tree := by
  rw [change] at failed ⊢
  split
  · rename_i made
    simp [made] at failed
  · rfl

/-- A file that is not written in the end is not written at all. -/
theorem evolves_of_failed_write {content : Text}
    (failed : (write path content tree).1 = .error failure) :
    Evolves (fun _ => False) tree (write path content tree).2 := by
  refine evolves_of_bind (evolves_ensureFrom _ _ _) (fun _ made _ failed => ?_) failed
  rw [eq_of_failed_change failed]
  exact .refl

theorem evolves_ask (question : Tree → Except FileFault Answer) (tree : Tree) :
    Evolves allowed tree (ask question tree).2 := by
  rw [ask]
  split <;> exact .refl

/-- A file whose copy fails has not been written. -/
theorem evolves_of_failed_copyOnto {label : Path → Path → Text × Text}
    (failed : (copyOnto label source destination tree).1 = .error failure) :
    Evolves (fun _ => False) tree (copyOnto label source destination tree).2 := by
  refine evolves_of_bind .refl (fun same between _ failed => ?_) failed
  have copies (failed : ((bytes source >>= fun content =>
      change (·.writeBytes destination content)) between).1 = .error failure) :
      Evolves (fun _ => False) between ((bytes source >>= fun content =>
        change (·.writeBytes destination content)) between).2 := by
    refine evolves_of_bind (evolves_ask _ _) (fun content between _ failed => ?_) failed
    rw [eq_of_failed_change failed]
    exact .refl
  cases same with
  | true => exact .refl
  | false => exact copies failed

theorem evolves_copyTarget (source destination : Path) (tree : Tree) :
    Evolves allowed tree (copyTarget source destination tree).2 := by
  have looked : Evolves allowed tree (isDirectory? destination tree).2 := evolves_ask _ tree
  rw [copyTarget, bind_apply]
  cases outcome : isDirectory? destination tree with
  | mk result after =>
    rw [outcome] at looked
    cases result with
    | error failure => exact looked
    | ok there => cases there <;> exact looked

theorem evolves_of_failed_copyFile {label : Path → Path → Text × Text}
    (failed : (copyFile label source destination tree).1 = .error failure) :
    Evolves (fun _ => False) tree (copyFile label source destination tree).2 := by
  have split : copyFile label source destination =
      copyTarget source destination >>= copyOnto label source := rfl
  rw [split] at failed ⊢
  exact evolves_of_bind (evolves_copyTarget _ _ _)
    (fun target between _ => evolves_of_failed_copyOnto) failed

/-- A copy that fails without a report has written no file. -/
theorem evolves_of_failed_copy (sourceFree : isNullFree source = true)
    (targetFree : isNullFree destination = true) (sound : tree.IsSound)
    (failed : (copy excluded source destination tree).1 = .error failure)
    (unreported : ∀ failed, failure ≠ .file (.copies failed)) :
    Evolves (fun _ => False) tree (copy excluded source destination tree).2 := by
  rw [copy] at failed ⊢
  refine evolves_of_bind (evolves_ask _ _) (fun directory between looked failed => ?_) failed
  have between' : between.IsSound := by
    have evolves : Evolves (fun _ => False) tree (isDirectory? source tree).2 := evolves_ask _ tree
    rw [looked] at evolves
    exact evolves.sound sound
  split at failed
  · rename_i isDirectory
    rw [if_pos isDirectory]
    refine evolves_of_bind .refl (fun depth after asked failed => ?_) failed
    obtain rfl : between = after := congrArg Prod.snd asked
    exact evolves_of_failed_copyDirectory sourceFree targetFree between' failed unreported
  · rename_i isDirectory
    rw [if_neg isDirectory]
    exact evolves_of_bind (evolves_ensureFrom _ _ _)
      (fun _ after _ => evolves_of_failed_copyFile) failed

end GuidedMigration.Files
