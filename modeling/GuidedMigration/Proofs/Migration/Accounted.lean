/-
This file follows the journal through an instruction or a block. Each change of a file is followed
by the entry that says so before anything else can fail, so that the entries that a call adds cover
all the files that it changes. A call that adds nothing but skipped and failed entries changes no
file. The one change that comes before a failure is that of a manifest that is no text: its file is
emptied, and the failure ends the call.
-/
import GuidedMigration.Proofs.Migration.Containment
import GuidedMigration.Proofs.Migration.Noted
import GuidedMigration.Proofs.Target.Accounted

namespace GuidedMigration

open GuidedMigration.Tree Files

namespace Session

variable {first second third : Session} {left right : List JournalEntry}

/-- Whether entries of a journal say that something was applied at or above a place. -/
def IsCovered (entries : List JournalEntry) (place : Path.Place) : Prop :=
  ∃ entry ∈ entries, entry.outcome.Covers place

/-- A session that has gone on with entries in its journal that cover the files it has written. -/
structure Accounts (before : Session) (entries : List JournalEntry) (after : Session) : Prop where
  destination : after.destination = before.destination
  journal : after.journal = before.journal ++ entries
  evolves : Evolves (IsCovered entries) before.tree after.tree

namespace Accounts

/-- A session that has neither another tree nor more entries. -/
theorem ofSame (destination : second.destination = first.destination)
    (journal : second.journal = first.journal) (tree : second.tree = first.tree) :
    first.Accounts [] second :=
  ⟨destination, journal.trans (List.append_nil _).symm, tree ▸ .refl⟩

theorem refl (session : Session) : session.Accounts [] session := ofSame rfl rfl rfl

theorem trans (accounts : first.Accounts left second) (further : second.Accounts right third) :
    first.Accounts (left ++ right) third where
  destination := further.destination.trans accounts.destination
  journal := by rw [further.journal, accounts.journal, List.append_assoc]
  evolves :=
    (accounts.evolves.mono fun _ ⟨entry, member, covers⟩ =>
      ⟨entry, List.mem_append_left _ member, covers⟩).trans
    (further.evolves.mono fun _ ⟨entry, member, covers⟩ =>
      ⟨entry, List.mem_append_right _ member, covers⟩)

/-- An entry that is added for nothing. -/
theorem record (outcome : Outcome) (session : Session) :
    session.Accounts [⟨session.phase, outcome⟩] (session.record outcome) :=
  ⟨rfl, rfl, .refl⟩

theorem noteFailure (what : Text) (failure : Failure) (session : Session) :
    session.Accounts [⟨session.phase, failedOutcome what failure⟩]
      (session.noteFailure what failure) :=
  ⟨rfl, rfl, .refl⟩

end Accounts

end Session

namespace Migration

variable {First Answer : Type} {session : Session} {what : Text}

/-- Whether an action ends because what was to be written is no text. -/
def IsTorn (session : Session) (action : Migration Answer) : Prop :=
  ∃ failure, (action session).1 = .error failure ∧ Target.IsUnencodable failure

/-- Whether an action covers the files that it writes by the entries that it adds to the journal,
unless it is torn. -/
def AccountsIn (session : Session) (action : Migration Answer) : Prop :=
  IsTorn session action ∨ ∃ entries, session.Accounts entries (action session).2

/-- Whether an action covers the files that it writes in every session. -/
def Accounts (action : Migration Answer) : Prop :=
  ∀ session : Session, session.tree.IsSound → session.destination.IsWritten →
    AccountsIn session action

/-- A failure that is noted leaves one more entry. One that tears an action is not noted. -/
theorem AccountsIn.recovering {action : Migration Unit} (accounts : AccountsIn session action) :
    AccountsIn session (recovering what action) := by
  rcases recovering_cases what action session with same | ⟨failure, after, failed, noticed, noted⟩
  · rwa [AccountsIn, IsTorn, same]
  · rcases accounts with ⟨torn, ended, fault, rfl⟩ | ⟨entries, kept⟩
    · rw [failed] at ended
      rw [Except.error.inj ended] at noticed
      simp [Failure.isRecoverable] at noticed
    · rw [failed] at kept
      rw [AccountsIn, noted]
      exact .inr ⟨_, kept.trans (.noteFailure what failure after)⟩

/-- What accounts for itself is recorded, but for a failure that is excused. -/
theorem exists_accounts_recorded {excused : Failure → Prop} {action : Files Outcome}
    (accounts : Files.Accounts excused action) (sound : session.tree.IsSound)
    (unexcused : ∀ failure, (action session.tree).1 = .error failure → ¬ excused failure) :
    ∃ entries, session.Accounts entries ((do let _ ← recorded action) session).2 := by
  have accounted := accounts session.tree sound
  rw [bind_apply, recorded_apply]
  cases ran : action session.tree with
  | mk result tree =>
    rw [ran] at accounted unexcused
    rcases accounted with quiet | ⟨outcome, rfl, evolves⟩ | ⟨failure, rfl, excuse⟩
    · have moved (covered : Path.Place → Prop) : Evolves covered session.tree tree :=
        quiet.mono fun _ => False.elim
      cases result with
      | ok outcome => exact ⟨[⟨session.phase, outcome⟩], rfl, rfl, moved _⟩
      | error failure => exact ⟨[], rfl, (List.append_nil _).symm, moved _⟩
    · exact ⟨[⟨session.phase, outcome⟩], rfl, rfl,
        evolves.mono fun place covers => ⟨_, List.mem_singleton_self _, covers⟩⟩
    · exact absurd excuse (unexcused failure rfl)

namespace Accounts

/-- An action that neither changes the tree nor adds to the journal. -/
theorem ofQuiet {action : Migration Answer}
    (quiet : ∀ session : Session, session.Accounts [] (action session).2) : Accounts action :=
  fun session _ _ => .inr ⟨[], quiet session⟩

theorem bind {action : Migration First} {next : First → Migration Answer}
    (accounts : Accounts action) (further : ∀ answer, Accounts (next answer)) :
    Accounts (action >>= next) := by
  intro session sound written
  have once := accounts session sound written
  rw [AccountsIn, IsTorn] at once ⊢
  rw [bind_apply]
  cases ran : action session with
  | mk result between =>
    rw [ran] at once
    cases result with
    | error failure =>
      exact once.imp_left fun ⟨torn, ended, unencodable⟩ =>
        ⟨torn, congrArg Except.error (Except.error.inj ended), unencodable⟩
    | ok answer =>
      rcases once with ⟨torn, ended, -⟩ | ⟨entries, kept⟩
      · cases ended
      · have again := further answer between (kept.evolves.sound sound)
          (kept.destination ▸ written)
        exact again.imp_right fun ⟨more, kept'⟩ => ⟨entries ++ more, kept.trans kept'⟩

theorem recorded {action : Files Outcome} (accounts : Files.Accounts Target.IsUnencodable action) :
    Accounts (do let _ ← recorded action) := by
  intro session sound _
  by_cases torn : IsTorn session (do let _ ← Migration.recorded action)
  · exact .inl torn
  · refine .inr (exists_accounts_recorded accounts sound fun failure failed unencodable => torn ?_)
    refine ⟨failure, ?_, unencodable⟩
    rw [bind_apply, recorded_apply]
    revert failed
    obtain ⟨result, tree⟩ := action session.tree
    rintro rfl
    rfl

end Accounts

end Migration

namespace Executor

open Migration

variable {session : Session}

/-- A merge is recorded as what it answers. -/
theorem merge_eq_recorded (path : Path) (primitive label : Text) (fragment : Mapping) :
    merge path primitive label fragment = (do
      let _ ← recorded (do
        let changed ← Config.mergeInto path fragment
        pure (mergeOutcome path primitive label changed))) := by
  funext session
  rw [merge, bind_apply, bind_apply, recorded_apply, bind_apply, onFiles]
  obtain ⟨result, tree⟩ := Config.mergeInto path fragment session.tree
  cases result <;> rfl

/-- What instructions and blocks are made of accounts for itself, and so do they. -/
theorem inherits_accounts : Inherits Path.IsWritten Accounts where
  child _ text written := written.child text
  pure := .ofQuiet fun session => .refl session
  refuse _ := .ofQuiet fun session => .refl session
  andThen _ _ first second := first.bind fun _ => second
  recovering _ _ accounts session sound written := (accounts session sound written).recovering
  ask question next further session sound written := by
    rw [AccountsIn, IsTorn, bind_ask_apply]
    exact further session written session sound written
  ofResult result next _ further := by
    have quiet : Accounts (Migration.ofResult result) := .ofQuiet fun session => .refl session
    exact quiet.bind further
  ifThere path first second holds other := by
    refine Accounts.bind (fun session _ _ => .inr ⟨[], .ofSame rfl rfl ?_⟩) fun there => ?_
    · exact isQuiet_ask (·.exists? path) session.tree
    · split
      · exact holds
      · exact other
  queue _ := .ofQuiet fun _ => .ofSame rfl rfl rfl
  contribute _ := .ofQuiet fun _ => .ofSame rfl rfl rfl
  insert _ fragment primitive written :=
    .recorded (Target.accounts_insert written fragment primitive)
  delete _ patterns primitive written :=
    .recorded (Target.accounts_delete written patterns primitive)
  merge path primitive label fragment written := by
    rw [merge_eq_recorded]
    exact .recorded (Target.accounts_mergeInto written rfl rfl fragment)
  depend _ sections written := .recorded (Target.accounts_mergeDependencies written sections)

/-- Whether an action reports what it could not copy of a directory. -/
def Reports (action : Migration Unit) (session : Session) : Prop :=
  ∃ failed, (action session).1 = .error (.file (.copies failed))

theorem accountsIn_copyNamed {step : Step} {source destination : Option Text}
    (sound : session.tree.IsSound) (written : session.destination.IsWritten)
    (whole : ¬ Reports (copyNamed step source destination) session) :
    AccountsIn session (copyNamed step source destination) := by
  refine .inr ?_
  match source with
  | none => exact ⟨[], .refl session⟩
  | some [] => exact ⟨[], .refl session⟩
  | some (first :: rest) =>
    have asked : copyNamed step (some (first :: rest)) destination session = (do
        let _ ← recorded (Target.copyPath session.source session.destination
          ⟨session.settings.excluded, session.settings.optionalAssets, false⟩ (first :: rest)
          ((destination.filter fun name : Text => !name.isEmpty).getD (first :: rest)))) session :=
      rfl
    rw [asked]
    refine exists_accounts_recorded (Target.accounts_copyPath written _ _ _) sound ?_
    rintro _ failed ⟨report, rfl⟩
    refine whole ⟨report, ?_⟩
    rw [asked, bind_apply, recorded_apply]
    revert failed
    generalize Target.copyPath _ _ _ _ _ session.tree = outcome
    obtain ⟨result, tree⟩ := outcome
    rintro rfl
    rfl

end Executor

/-- Whether the entries that are new in the journal account for the files that have changed: each of
them lies at or below the path of an entry that says that something was applied, and without such an
entry no file has changed. -/
def Session.IsAccountedFor (before after : Session) : Prop :=
  ∃ entries, after.journal = before.journal ++ entries ∧
    (∀ place, after.tree.fileAt? place ≠ before.tree.fileAt? place →
      ∃ entry ∈ entries, entry.outcome.status = .applied ∧
        IsAtOrBelow (spelled (.ofText entry.outcome.path)) place) ∧
    ((∀ entry ∈ entries, entry.outcome.status ≠ .applied) →
      ∀ place, after.tree.fileAt? place = before.tree.fileAt? place)

/-- Where no file is written, none changes. -/
theorem Tree.Evolves.fileAt?_eq {allowed : Path.Place → Prop} {before after : Tree}
    (evolves : Evolves allowed before after) {place : Path.Place} (outside : ¬ allowed place) :
    after.fileAt? place = before.fileAt? place := by
  rcases evolves.frame outside with same | ⟨free, made⟩
  · exact fileAt?_congr same
  · rw [fileAt?, fileAt?, made, free]

theorem Migration.AccountsIn.isAccountedFor {session : Session} {action : Migration Unit}
    (accounts : AccountsIn session action)
    (whole : ∀ fault, (action session).1 ≠ .error (.unencodable fault)) :
    session.IsAccountedFor (action session).2 := by
  obtain ⟨entries, kept⟩ := accounts.resolve_left fun ⟨_, ended, fault, same⟩ =>
    whole fault (same ▸ ended)
  refine ⟨entries, kept.journal, fun place changed => ?_, fun none' place => ?_⟩
  · exact Classical.byContradiction fun uncovered => changed (kept.evolves.fileAt?_eq uncovered)
  · refine kept.evolves.fileAt?_eq fun covered => ?_
    obtain ⟨entry, member, covers⟩ := covered
    exact none' entry member covers.1

namespace Executor

open Migration

variable {session : Session}

/-- The journal accounts for every file that an instruction or a block changes, whatever becomes of
it, unless it is a copy of a directory that ends with a report on what was not copied, or raises
that a manifest is no text. -/
theorem journal_accounts_for_files (sound : session.tree.IsSound)
    (written : session.destination.IsWritten) :
    (∀ hint instruction,
      (∀ source destination, instruction.action = .copyPath source destination →
        ∀ failed, (perform hint instruction session).1 ≠ .error (.file (.copies failed))) →
      (∀ fault, (execute hint instruction session).1 ≠ .error (.unencodable fault)) →
      session.IsAccountedFor (execute hint instruction session).2) ∧
    ∀ executorHint block label hint,
      (∀ fault, (applyBlock executorHint block label hint session).1 ≠
        .error (.unencodable fault)) →
      session.IsAccountedFor (applyBlock executorHint block label hint session).2 := by
  refine ⟨fun hint instruction whole untorn => ?_,
    fun executorHint block label hint untorn => ?_⟩
  · refine AccountsIn.isAccountedFor (AccountsIn.recovering ?_) untorn
    cases copies : instruction.action with
    | copyPath source destination =>
      have same : perform hint instruction = copyNamed instruction.step source destination := by
        rw [perform, copies]
      have whole := whole source destination copies
      rw [same] at whole ⊢
      refine accountsIn_copyNamed sound written fun partial' => ?_
      obtain ⟨failed, reported⟩ := partial'
      exact whole failed reported
    | _ =>
      refine inherits_accounts.perform hint (fun source destination other => ?_)
        (fun _ _ => .ofQuiet fun _ => .ofSame rfl rfl rfl) session sound written
      simp [copies] at other
  · exact (inherits_accounts.performBlock executorHint block label hint session sound
      written).recovering.isAccountedFor untorn

/-- The copy of a guide. -/
def guideCopy : Instruction :=
  ⟨⟨some 1, "Copy from `g.md` to `h.md`".toList, none, none⟩,
    .copyPath (some "g.md".toList) (some "h.md".toList)⟩

/-- The place of the copy. -/
def copyPlace : Path.Place := ["", "dst", "h.md"].map String.toList

/-- A copy that is made is in the journal. -/
theorem journal_accounts_for_copy :
    (smallSession [] []).IsAccountedFor (execute [] guideCopy (smallSession [] [])).2 ∧
      (execute [] guideCopy (smallSession [] [])).2.tree.fileAt? copyPlace ≠
        (smallSession [] []).tree.fileAt? copyPlace := by
  have done : (perform [] guideCopy (smallSession [] [])).1 = .ok () :=
    eq_ok_of_toOption (by decide +kernel)
  refine ⟨?_, by decide +kernel⟩
  refine (journal_accounts_for_files (isSound_of_entries (by decide) (by decide))
    (Path.isWritten_ofText _)).1 [] guideCopy (fun source destination _ failed reported => ?_)
      fun fault torn => ?_
  · rw [done] at reported
    cases reported
  · have executed : (execute [] guideCopy (smallSession [] [])).1 = .ok () :=
      eq_ok_of_toOption (by decide +kernel)
    rw [executed] at torn
    cases torn

end Executor

end GuidedMigration
