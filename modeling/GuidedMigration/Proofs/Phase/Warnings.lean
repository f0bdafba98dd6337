/-
This file accounts for the warnings of the phases. The report of a phase has the warnings that were
added while the phase ran, so the reports of phases that run one after the other have all of them,
and each once. A phase that runs another one first is the exception: the warnings of the first one
are added while the second one runs, and both reports have them.
-/
import GuidedMigration.Proofs.Phase.Scaffold
import GuidedMigration.Proofs.Plugin.Warned

namespace GuidedMigration

open Migration

/-! ### Parts that go on -/

/-- A phase that has gone on: the warnings are kept, and so is what the report says of a phase that
ran first. -/
structure Progress.GoesOn (before after : Progress) : Prop where
  warnings : before.session.warnings <+: after.session.warnings
  first : after.report.prerequisite = before.report.prerequisite

theorem Progress.GoesOn.refl (progress : Progress) : progress.GoesOn progress :=
  ⟨List.prefix_rfl, rfl⟩

theorem Progress.GoesOn.trans {before between after : Progress} (left : before.GoesOn between)
    (right : between.GoesOn after) : before.GoesOn after :=
  ⟨left.warnings.trans right.warnings, right.first.trans left.first⟩

namespace PhasePart

variable {First Answer : Type}

/-- Whether a phase goes on in a part, and no other phase runs in it. -/
def GoesOn (part : PhasePart Answer) : Prop :=
  ∀ progress : Progress, progress.GoesOn (part progress).2

theorem check_apply (question : Session → Except Failure Answer) (progress : Progress) :
    check question progress = (question progress.session, progress) := rfl

theorem ask_apply (question : Session → Answer) (progress : Progress) :
    ask question progress = (.ok (question progress.session), progress) := rfl

/-- A step leaves what its part leaves once it is counted; only the report may say more. -/
theorem step_leaves (name : Text) (part : PhasePart Answer) (progress : Progress) :
    ∃ counted : Progress, counted.session = progress.session ∧
      counted.report.prerequisite = progress.report.prerequisite ∧
      (step name part progress).2.session = (part counted).2.session ∧
      (step name part progress).2.report.prerequisite =
        (part counted).2.report.prerequisite := by
  refine ⟨(advance progress).2, rfl, rfl, ?_⟩
  have counts : advance progress = (.ok (), (advance progress).2) := rfl
  rw [step, bind_apply, counts]
  dsimp only
  cases part (advance progress).2 with
  | mk result after =>
    cases result with
    | ok answer => exact ⟨rfl, rfl⟩
    | error failure =>
      dsimp only
      split <;> exact ⟨rfl, rfl⟩

namespace GoesOn

theorem bind {part : PhasePart First} {next : First → PhasePart Answer} (goes : GoesOn part)
    (further : ∀ answer, GoesOn (next answer)) : GoesOn (part >>= next) :=
  leads_bind Progress.GoesOn .trans goes further

theorem throw (failure : Failure) : GoesOn (throw failure : PhasePart Answer) :=
  fun progress => .refl progress

theorem pure (answer : Answer) : GoesOn (Pure.pure answer) := fun progress => .refl progress

theorem note {update : PhaseReport → PhaseReport}
    (same : ∀ report, (update report).prerequisite = report.prerequisite) :
    GoesOn (note update) :=
  fun progress => ⟨List.prefix_rfl, same progress.report⟩

theorem advance : GoesOn advance := note fun _ => rfl

theorem conclude (findings : Findings) : GoesOn (conclude findings) := note fun _ => rfl

theorem onSession {action : Migration Answer} (keeps : KeepsWarnings action) :
    GoesOn (onSession action) :=
  fun progress => ⟨keeps progress.session, rfl⟩

theorem ask (question : Session → Answer) : GoesOn (ask question) := onSession (.ask question)

theorem check (question : Session → Except Failure Answer) : GoesOn (check question) :=
  fun progress => .refl progress

theorem step {part : PhasePart Answer} (goes : GoesOn part) (name : Text) :
    GoesOn (step name part) := by
  intro progress
  obtain ⟨counted, session, first, left, kept⟩ := step_leaves name part progress
  have gone := goes counted
  exact ⟨by rw [left, ← session]; exact gone.warnings, by rw [kept, gone.first, first]⟩

/-- A step that is an action on the session. -/
theorem act {action : Migration Answer} (keeps : KeepsWarnings action) (name : Text) :
    GoesOn (PhasePart.step name (PhasePart.onSession action)) :=
  (onSession keeps).step name

end GoesOn

end PhasePart

namespace Phase

open PhasePart

variable {session after : Session} {orchestrator : Option Orchestrator} {report : PhaseReport}
  {reports : List PhaseReport}

/-! ### The first phase -/

namespace Scaffold

theorem keepsWarnings_checkSources : KeepsWarnings checkSources := by
  refine (KeepsWarnings.ask id).bind fun session => (KeepsWarnings.onFiles _).bind fun missing => ?_
  split
  · exact .throw _
  · refine (KeepsWarnings.onFiles _).bind fun there => ?_
    split
    · exact .throw _
    · exact .pure ()

theorem keepsWarnings_copyBaseFiles (source destination : Path) (names : List Text) :
    KeepsWarnings (copyBaseFiles source destination names) := by
  induction names with
  | nil => exact .pure ()
  | cons name rest inductionHypothesis =>
    refine (KeepsWarnings.onFiles _).bind fun there => ?_
    split
    · exact (KeepsWarnings.guarded _ _).bind fun _ => inductionHypothesis
    · exact inductionHypothesis

theorem keepsWarnings_applyBaseConfiguration : KeepsWarnings applyBaseConfiguration := by
  refine (KeepsWarnings.ask id).bind fun session =>
    (keepsWarnings_copyBaseFiles _ _ _).bind fun _ => (KeepsWarnings.onFiles _).bind fun there => ?_
  split
  · exact .guarded _ _
  · exact .pure ()

theorem keepsWarnings_updateManifests : KeepsWarnings updateManifests := by
  refine (KeepsWarnings.ask id).bind fun session => ?_
  dsimp only
  split
  · refine (KeepsWarnings.onFiles _).bind fun there => ?_
    split
    · exact .guarded _ _
    · exact .pure ()
  · exact .pure ()

theorem keepsWarnings_applyInterfaceChanges : KeepsWarnings applyInterfaceChanges := by
  refine (KeepsWarnings.ask _).bind fun guides => (KeepsWarnings.onFiles _).bind fun there => ?_
  split
  · exact (keepsWarnings_runGuide _ _ _).bind fun _ => .pure ()
  · exact .pure ()

theorem keepsWarnings_copyParts (source destination : Path) (settings : Settings)
    (parts : List (Text × Bool)) :
    KeepsWarnings (copyParts source destination settings parts) := by
  induction parts with
  | nil => exact .pure ()
  | cons part rest inductionHypothesis =>
    exact (KeepsWarnings.recorded _).bind fun _ => inductionHypothesis

theorem keepsWarnings_configureCorePackages : KeepsWarnings configureCorePackages :=
  (KeepsWarnings.ask id).bind fun _ => (keepsWarnings_copyParts _ _ _ _).bind fun _ =>
    (keepsWarnings_copyParts _ _ _ _).bind fun _ => (KeepsWarnings.onFiles _).bind fun _ => .pure ()

theorem goesOn_body : GoesOn body := by
  have loads : KeepsWarnings loadReadme := (KeepsWarnings.ask _).bind fun _ =>
    (keepsWarnings_guideAt _).bind fun _ => .pure ()
  exact (GoesOn.act keepsWarnings_checkSources _).bind fun _ => (GoesOn.act loads _).bind fun _ =>
    (GoesOn.act keepsWarnings_applyBaseConfiguration _).bind fun _ =>
    (GoesOn.act keepsWarnings_updateManifests _).bind fun _ =>
    (GoesOn.act keepsWarnings_applyInterfaceChanges _).bind fun _ =>
    (GoesOn.act keepsWarnings_configureCorePackages _).bind fun _ =>
    GoesOn.advance.bind fun _ => (GoesOn.check _).bind fun findings => .conclude findings

end Scaffold

/-! ### Reports -/

/-- What a phase reports and leaves is what its body leaves. -/
theorem exists_of_runWith {phase : Phase} {body : PhasePart Unit}
    (ran : phase.runWith body session = (.ok report, after)) :
    ∃ start : Progress, start.session = { session with phase := phase.number } ∧
      start.report.prerequisite = none ∧
      after.warnings = (body start).2.session.warnings ∧
      report.warnings = (body start).2.session.warnings.drop session.warnings.length ∧
      report.prerequisite = (body start).2.report.prerequisite := by
  rw [runWith] at ran
  dsimp only at ran
  generalize begun : Progress.mk _ _ = start at ran
  refine ⟨start, by rw [← begun], by rw [← begun], ?_⟩
  cases outcome : body start with
  | mk result last =>
    rw [outcome] at ran
    cases result with
    | ok done =>
      obtain ⟨reported, rfl⟩ := Prod.mk.inj ran
      obtain rfl := Except.ok.inj reported
      exact ⟨rfl, rfl, rfl⟩
    | error failure =>
      dsimp only at ran
      split at ran
      · obtain ⟨reported, rfl⟩ := Prod.mk.inj ran
        obtain rfl := Except.ok.inj reported
        unfold Progress.fail
        split <;> exact ⟨rfl, rfl, rfl⟩
      · cases congrArg Prod.fst ran

theorem keepsWarnings_runWith {body : PhasePart Unit} (goes : GoesOn body) (phase : Phase) :
    KeepsWarnings (phase.runWith body) := by
  intro session
  rw [runWith]
  dsimp only
  generalize begun : Progress.mk _ _ = start
  have kept := (goes start).warnings
  cases outcome : body start with
  | mk result last =>
    rw [outcome] at kept
    have same : session.warnings = start.session.warnings := by rw [← begun]
    rw [same]
    cases result with
    | ok done => exact kept
    | error failure =>
      dsimp only
      split
      · unfold Progress.fail
        split <;> exact kept
      · exact kept

theorem Scaffold.keepsWarnings_run : KeepsWarnings Scaffold.run :=
  keepsWarnings_runWith Scaffold.goesOn_body .scaffold

/-- A report has what a session has added to the warnings from before. -/
theorem eq_append_of_prefix {before after added : List Text} (kept : before <+: after)
    (same : added = after.drop before.length) : after = before ++ added := by
  rw [same]
  exact List.prefix_iff_eq_append.mp kept |>.symm

/-- A phase in which no other one runs reports what it added. -/
theorem warnings_of_goesOn {phase : Phase} {body : PhasePart Unit} (goes : GoesOn body)
    (ran : phase.runWith body session = (.ok report, after)) :
    after.warnings = session.warnings ++ report.warnings ∧ report.prerequisite = none := by
  obtain ⟨start, begun, bare, left, added, first⟩ := exists_of_runWith ran
  have gone := goes start
  have kept : session.warnings <+: (body start).2.session.warnings := by
    simpa [begun] using gone.warnings
  exact ⟨left ▸ eq_append_of_prefix kept added, by rw [first, gone.first, bare]⟩

theorem Scaffold.warnings_of_run (ran : Scaffold.run session = (.ok report, after)) :
    after.warnings = session.warnings ++ report.warnings ∧ report.prerequisite = none :=
  warnings_of_goesOn goesOn_body ran

/-! ### The second phase -/

/-- A phase that has gone on from a list of warnings: they are kept, and what a phase that ran first
has added stands behind them. -/
structure Accounts (start : List Text) (progress : Progress) : Prop where
  warnings : start <+: progress.session.warnings
  first : ∀ first, progress.report.prerequisite = some first →
    first.prerequisite = none ∧ start ++ first.warnings <+: progress.session.warnings

theorem Accounts.goesOn {start : List Text} {before last : Progress}
    (accounts : Accounts start before) (goes : before.GoesOn last) : Accounts start last where
  warnings := accounts.warnings.trans goes.warnings
  first first ran := by
    obtain ⟨bare, added⟩ := accounts.first first (goes.first ▸ ran)
    exact ⟨bare, added.trans goes.warnings⟩

theorem Accounts.ofBare {progress : Progress} (bare : progress.report.prerequisite = none) :
    Accounts progress.session.warnings progress where
  warnings := List.prefix_rfl
  first first ran := by rw [bare] at ran; cases ran

namespace Auth

/-- Runs the first phase and goes on if it succeeds. -/
def runScaffold : PhasePart Unit := do
  let report ← PhasePart.onSession Scaffold.run
  PhasePart.note fun own => { own with prerequisite := some report }
  PhasePart.onSession (Migration.change fun session =>
    { session with phase := Phase.auth.number })
  if !report.success then throw (.prerequisite .scaffoldFailed)

/-- The first phase is run only where something is found to be missing, or else nothing happens. -/
theorem ensureScaffold_cases (progress : Progress) :
    (ensureScaffold progress).2 = progress ∨
      (∃ findings, Phase.auth.prerequisites progress.session = .ok findings ∧
        findings.isOk = false) ∧
      (ensureScaffold progress).2 = (runScaffold progress).2 := by
  rw [ensureScaffold, bind_apply, PhasePart.check_apply]
  cases Phase.auth.prerequisites progress.session with
  | error failure => exact .inl rfl
  | ok findings =>
    dsimp only
    cases missing : findings.isOk with
    | true => exact .inl rfl
    | false =>
      simp only [Bool.not_false, if_true]
      rw [bind_apply, PhasePart.ask_apply]
      dsimp only
      cases progress.session.settings.autoPrerequisites with
      | false => exact .inl rfl
      | true => exact .inr ⟨⟨findings, rfl, missing⟩, rfl⟩

theorem accounts_runScaffold {progress : Progress} (bare : progress.report.prerequisite = none) :
    Accounts progress.session.warnings (runScaffold progress).2 := by
  have kept := Scaffold.keepsWarnings_run progress.session
  have unfolded : PhasePart.onSession Scaffold.run progress =
      ((Scaffold.run progress.session).1,
        { progress with session := (Scaffold.run progress.session).2 }) := rfl
  rw [runScaffold, bind_apply, unfolded]
  cases ran : Scaffold.run progress.session with
  | mk result between =>
    rw [ran] at kept
    cases result with
    | error failure => exact ⟨kept, fun first noted => by simp [bare] at noted⟩
    | ok report =>
      obtain ⟨warnings, alone⟩ := Scaffold.warnings_of_run ran
      have noted : Accounts progress.session.warnings
          ⟨between, { progress.report with prerequisite := some report }⟩ :=
        ⟨kept, fun first same => Option.some.inj same ▸ ⟨alone, warnings ▸ List.prefix_rfl⟩⟩
      have again : GoesOn (PhasePart.onSession (Migration.change fun session =>
          { session with phase := Phase.auth.number })) := .onSession (.ofSame fun _ => rfl)
      dsimp only
      split
      · exact noted.goesOn (again.bind (fun _ => .throw _) _)
      · exact noted.goesOn (again.bind (fun _ => .pure ()) _)

/-- What happens before the second phase begins accounts for its warnings. -/
theorem accounts_ensureScaffold {progress : Progress}
    (bare : progress.report.prerequisite = none) :
    Accounts progress.session.warnings (ensureScaffold progress).2 := by
  rcases ensureScaffold_cases progress with same | ⟨-, same⟩
  · rw [same]
    exact .ofBare bare
  · rw [same]
    exact accounts_runScaffold bare

theorem keepsWarnings_configureProviders (guides : Path) (references : List ProviderReference) :
    KeepsWarnings (configureProviders guides references) := by
  induction references with
  | nil => exact .pure ()
  | cons reference rest inductionHypothesis =>
    refine (KeepsWarnings.onFiles _).bind fun there => ?_
    split
    · exact (keepsWarnings_runGuide _ _ _).bind fun _ => inductionHypothesis
    · exact (KeepsWarnings.warn _).bind fun _ => inductionHypothesis

theorem keepsWarnings_copyEach (session : Session) (files : List (Text × Text)) :
    KeepsWarnings (copyEach session files) := by
  induction files with
  | nil => exact .pure ()
  | cons file rest inductionHypothesis =>
    exact (KeepsWarnings.recorded _).bind fun _ => inductionHypothesis

theorem keepsWarnings_configure (guide : Path) : KeepsWarnings (configure guide) :=
  (keepsWarnings_runGuide _ _ _).bind fun document => (KeepsWarnings.ask id).bind fun session =>
    (keepsWarnings_copyEach session _).bind fun _ => .pure document.providers

theorem keepsWarnings_flush : KeepsWarnings flush :=
  (KeepsWarnings.ask id).bind fun _ => (KeepsWarnings.onFiles _).bind fun _ => .pure ()

theorem keepsWarnings_applyPolicy : KeepsWarnings applyPolicy := by
  refine (KeepsWarnings.ask id).bind fun session => (KeepsWarnings.onFiles _).bind fun there => ?_
  split
  · exact (KeepsWarnings.guarded _ _).bind fun _ => keepsWarnings_flush
  · exact keepsWarnings_flush

theorem keepsWarnings_findGuide : KeepsWarnings findGuide :=
  (KeepsWarnings.ask _).bind fun _ => (keepsWarnings_guideAt _).bind fun _ => .pure _

theorem goesOn_follow (guide : Path) : GoesOn (follow guide) :=
  (GoesOn.act (keepsWarnings_configure guide) _).bind fun providers =>
    (GoesOn.ask _).bind fun guides =>
    (GoesOn.act (keepsWarnings_configureProviders guides providers) _).bind fun _ =>
    (GoesOn.act keepsWarnings_applyPolicy _).bind fun _ => GoesOn.advance.bind fun _ =>
    (GoesOn.check _).bind fun findings => (GoesOn.conclude findings).bind fun _ =>
    .note fun _ => rfl

/-- Behind the check of the first phase, no other phase runs in the second one. -/
theorem exists_body_eq : ∃ rest : PhasePart Unit, GoesOn rest ∧
    body = PhasePart.step "Checking scaffold markers".toList ensureScaffold >>= fun _ => rest := by
  refine ⟨_, ?_, rfl⟩
  refine (GoesOn.act keepsWarnings_findGuide _).bind fun guide => ?_
  split
  · exact goesOn_follow _
  · refine GoesOn.bind (.note fun _ => rfl) fun _ => ?_
    exact GoesOn.advance.bind fun _ => (GoesOn.check _).bind fun findings => .conclude findings

/-- What there is when the first phase has been checked, and run where it was missing. -/
def ensured (start : Progress) : Progress :=
  (PhasePart.step "Checking scaffold markers".toList ensureScaffold start).2

theorem ensured_goesOn (start : Progress) : (ensured start).GoesOn (body start).2 := by
  obtain ⟨rest, goes, same⟩ := exists_body_eq
  rw [same, bind_apply, ensured]
  generalize PhasePart.step "Checking scaffold markers".toList ensureScaffold start = outcome
  obtain ⟨result, between⟩ := outcome
  cases result with
  | ok answer => exact goes between
  | error failure => exact .refl between

theorem accounts_body {start : Progress} (bare : start.report.prerequisite = none) :
    Accounts start.session.warnings (body start).2 := by
  obtain ⟨counted, session, first, left, kept⟩ := PhasePart.step_leaves
    "Checking scaffold markers".toList ensureScaffold start
  have inner := accounts_ensureScaffold (first.trans bare)
  have accounts : Accounts start.session.warnings (ensured start) :=
    ⟨by rw [ensured, left, ← session]; exact inner.warnings,
      by rw [ensured, left, kept, ← session]; exact inner.first⟩
  exact accounts.goesOn (ensured_goesOn start)

/-- Where the first phase is complete, it does not run again in the second one. -/
theorem alone_of_complete (complete : scaffold.IsComplete session)
    (ran : Auth.run session = (.ok report, after)) : report.prerequisite = none := by
  obtain ⟨start, begun, bare, -, -, first⟩ := exists_of_runWith ran
  obtain ⟨counted, counts, uncounted, -, kept⟩ := PhasePart.step_leaves
    "Checking scaffold markers".toList ensureScaffold start
  have alone : (ensured start).report.prerequisite = none := by
    rw [ensured, kept]
    rcases ensureScaffold_cases counted with still | ⟨⟨findings, found, missing⟩, -⟩
    · rw [still, uncounted, bare]
    · obtain ⟨complete, checked, isOk⟩ := complete.next .auth rfl
      rw [counts, begun] at found
      obtain rfl : complete = findings := Except.ok.inj (checked.symm.trans found)
      simp [Findings.isOk, isOk] at missing
  exact first.trans ((ensured_goesOn start).first.trans alone)

end Auth

/-! ### The third phase -/

namespace Plugins

theorem goesOn_refuse (error : Text) (what : Prerequisite) :
    GoesOn (refuse error what : PhasePart Unit) := by
  refine GoesOn.bind (.note fun _ => rfl) fun _ => ?_
  exact .throw _

theorem goesOn_integrate {orchestrator : Orchestrator}
    (keeps : KeepsWarnings orchestrator.execute) : GoesOn (integrate orchestrator) := by
  refine (GoesOn.act (.ofResult _) _).bind fun _ => (GoesOn.act keeps _).bind fun integration => ?_
  refine GoesOn.bind (.note fun _ => rfl) fun _ => ?_
  have ends : GoesOn (PhasePart.advance >>= fun _ => PhasePart.onSession Auth.flush >>= fun _ =>
      PhasePart.check (findings integration.expectations) >>= fun checked =>
        PhasePart.conclude checked >>= fun _ =>
          PhasePart.check (Auth.withParity · checked) >>= PhasePart.conclude) :=
    GoesOn.advance.bind fun _ => (GoesOn.onSession Auth.keepsWarnings_flush).bind fun _ =>
      (GoesOn.check _).bind fun checked => (GoesOn.conclude checked).bind fun _ =>
      (GoesOn.check _).bind fun all => .conclude all
  dsimp only
  split
  · exact GoesOn.bind (.note fun _ => rfl) fun _ => ends
  · exact ends

theorem goesOn_body (keeps : ∀ chosen ∈ orchestrator, KeepsWarnings chosen.execute) :
    GoesOn (body orchestrator) := by
  refine GoesOn.advance.bind fun _ => (GoesOn.check _).bind fun markers => ?_
  cases orchestrator with
  | none =>
    dsimp only
    split
    · exact (goesOn_refuse _ _).bind fun _ => goesOn_refuse _ _
    · exact goesOn_refuse _ _
  | some chosen =>
    have goes := goesOn_integrate (keeps chosen rfl)
    dsimp only
    split
    · exact (goesOn_refuse _ _).bind fun _ => goes
    · exact goes

end Plugins

/-! ### Runs -/

/-- A report that accounts for the warnings that were added: it has them, and those of a phase that
ran first are the first of them. -/
structure Tells (before : Session) (report : PhaseReport) (after : Session) : Prop where
  warnings : after.warnings = before.warnings ++ report.warnings
  first : ∀ first, report.prerequisite = some first →
    first.prerequisite = none ∧ first.warnings <+: report.warnings

theorem tells_of_alone {phase : Phase} {body : PhasePart Unit} (goes : GoesOn body)
    (ran : phase.runWith body session = (.ok report, after)) : Tells session report after := by
  obtain ⟨warnings, alone⟩ := warnings_of_goesOn goes ran
  exact ⟨warnings, fun first same => by simp [alone] at same⟩

theorem tells_of_run {phase : Phase} (keeps : ∀ chosen ∈ orchestrator, KeepsWarnings chosen.execute)
    (ran : phase.run orchestrator session = (.ok report, after)) : Tells session report after := by
  cases phase with
  | scaffold => exact tells_of_alone Scaffold.goesOn_body ran
  | plugins => exact tells_of_alone (Plugins.goesOn_body keeps) ran
  | auth =>
    obtain ⟨start, begun, bare, left, added, first⟩ := exists_of_runWith ran
    have accounts := Auth.accounts_body bare
    rw [show start.session.warnings = session.warnings by rw [begun]] at accounts
    have warnings := eq_append_of_prefix (left ▸ accounts.warnings) (left ▸ added)
    refine ⟨warnings, fun earlier ran => ?_⟩
    obtain ⟨alone, inside⟩ := accounts.first earlier (first ▸ ran)
    rw [← left, warnings] at inside
    exact ⟨alone, (List.prefix_append_right_inj _).mp inside⟩

/-- The first phase of some is run, and the others behind it if it succeeds. -/
theorem exists_of_runEach {phase : Phase} {rest : List Phase}
    (ran : runEach orchestrator (phase :: rest) session = (.ok reports, after)) :
    ∃ report between others, phase.run orchestrator session = (.ok report, between) ∧
      reports = report :: others ∧
      (report.success = true ∧ runEach orchestrator rest between = (.ok others, after) ∨
        others = [] ∧ after = between) := by
  rw [runEach, bind_apply] at ran
  cases outcome : phase.run orchestrator session with
  | mk result between =>
    rw [outcome] at ran
    cases result with
    | error failure => cases congrArg Prod.fst ran
    | ok report =>
      dsimp only at ran
      split at ran
      · rename_i success
        rw [bind_apply] at ran
        cases later : runEach orchestrator rest between with
        | mk others last =>
          rw [later] at ran
          cases others with
          | error failure => cases congrArg Prod.fst ran
          | ok others =>
            obtain ⟨all, rfl⟩ := Prod.mk.inj ran
            obtain rfl := Except.ok.inj all
            exact ⟨report, between, others, rfl, rfl, .inl ⟨success, later⟩⟩
      · obtain ⟨all, rfl⟩ := Prod.mk.inj ran
        obtain rfl := Except.ok.inj all
        exact ⟨report, between, [], rfl, rfl, .inr ⟨rfl, rfl⟩⟩

/-- Reports that account, one after the other, for the warnings that were added. -/
theorem tells_of_runEach {phases : List Phase}
    (keeps : ∀ chosen ∈ orchestrator, KeepsWarnings chosen.execute)
    (ran : runEach orchestrator phases session = (.ok reports, after)) :
    after.warnings = session.warnings ++ reports.flatMap (·.warnings) ∧
      ∀ report ∈ reports, ∀ first, report.prerequisite = some first →
        first.prerequisite = none ∧ first.warnings <+: report.warnings := by
  induction phases generalizing session reports with
  | nil =>
    obtain ⟨none', rfl⟩ := Prod.mk.inj ran
    obtain rfl := Except.ok.inj none'
    simp
  | cons phase rest inductionHypothesis =>
    obtain ⟨report, between, others, own, rfl, further⟩ := exists_of_runEach ran
    have tells := tells_of_run keeps own
    rcases further with ⟨-, later⟩ | ⟨rfl, rfl⟩
    · obtain ⟨added, each⟩ := inductionHypothesis later
      exact ⟨by rw [added, tells.warnings]; simp, List.forall_mem_cons.mpr ⟨tells.first, each⟩⟩
    · exact ⟨by simpa using tells.warnings, by simpa using tells.first⟩

/-- Other phases than the second one run alone. -/
theorem alone_of_run {phase : Phase} (other : phase ≠ .auth)
    (keeps : ∀ chosen ∈ orchestrator, KeepsWarnings chosen.execute)
    (ran : phase.run orchestrator session = (.ok report, after)) :
    report.prerequisite = none := by
  cases phase with
  | scaffold => exact (warnings_of_goesOn Scaffold.goesOn_body ran).2
  | auth => exact absurd rfl other
  | plugins => exact (warnings_of_goesOn (Plugins.goesOn_body keeps) ran).2

theorem alone_of_runEach {phases : List Phase} (others : .auth ∉ phases)
    (keeps : ∀ chosen ∈ orchestrator, KeepsWarnings chosen.execute)
    (ran : runEach orchestrator phases session = (.ok reports, after)) :
    ∀ report ∈ reports, report.prerequisite = none := by
  induction phases generalizing session reports with
  | nil =>
    obtain rfl := Except.ok.inj (Prod.mk.inj ran).1
    simp
  | cons phase rest inductionHypothesis =>
    obtain ⟨report, between, behind, own, rfl, further⟩ := exists_of_runEach ran
    rw [List.mem_cons, not_or] at others
    refine List.forall_mem_cons.mpr ⟨alone_of_run (Ne.symm others.1) keeps own, ?_⟩
    rcases further with ⟨-, later⟩ | ⟨rfl, -⟩
    · exact inductionHypothesis others.2 later
    · simp

/-- Behind the first phase, the second one runs alone. -/
theorem alone_behind_scaffold {rest : List Phase} (others : .auth ∉ rest)
    (keeps : ∀ chosen ∈ orchestrator, KeepsWarnings chosen.execute)
    (ran : runEach orchestrator (.scaffold :: .auth :: rest) session = (.ok reports, after)) :
    ∀ report ∈ reports, report.prerequisite = none := by
  obtain ⟨first, between, behind, scaffolded, rfl, further⟩ := exists_of_runEach ran
  have alone := alone_of_run (show scaffold ≠ .auth by decide) keeps scaffolded
  rcases further with ⟨success, later⟩ | ⟨rfl, -⟩
  · obtain ⟨start, last, errors, came, isOk, -, left⟩ := exists_of_success scaffolded success
    have complete : scaffold.IsComplete between := by
      rw [left]
      exact isComplete_of_checked (findings_of_scaffold came) isOk
    obtain ⟨second, between', behind', authorised, rfl, further'⟩ := exists_of_runEach later
    have alone' := Auth.alone_of_complete complete authorised
    rcases further' with ⟨-, last⟩ | ⟨rfl, -⟩
    · exact List.forall_mem_cons.mpr
        ⟨alone, List.forall_mem_cons.mpr ⟨alone', alone_of_runEach others keeps last⟩⟩
    · simpa using ⟨alone, alone'⟩
  · simpa using alone

end Phase

/-! ### Told one behind the other -/

/-- The warnings of a report behind those of the phase that ran first. -/
def PhaseReport.told : PhaseReport → List Text
  | ⟨_, _, _, _, _, warnings, _, none⟩ => warnings
  | ⟨_, _, _, _, _, warnings, _, some first⟩ => first.told ++ warnings

/-- Whether a phase ran first whose own report has warnings. -/
def PhaseReport.Repeats (report : PhaseReport) : Prop :=
  ∃ first, report.prerequisite = some first ∧ first.warnings ≠ []

namespace PhaseReport

variable {report : PhaseReport} {reports : List PhaseReport}

theorem told_of_alone (alone : report.prerequisite = none) : report.told = report.warnings := by
  obtain ⟨_, _, _, _, _, _, _, first⟩ := report
  obtain rfl : first = none := alone
  rfl

theorem told_of_first {first : PhaseReport} (ran : report.prerequisite = some first) :
    report.told = first.told ++ report.warnings := by
  obtain ⟨_, _, _, _, _, _, _, other⟩ := report
  obtain rfl : other = some first := ran
  rfl

theorem length_warnings_le (report : PhaseReport) :
    report.warnings.length ≤ report.told.length := by
  cases ran : report.prerequisite with
  | none => exact Nat.le_of_eq (congrArg List.length (told_of_alone ran)).symm
  | some first => rw [told_of_first ran, List.length_append]; omega

theorem length_flatMap_warnings_le (reports : List PhaseReport) :
    (reports.flatMap (·.warnings)).length ≤ (reports.flatMap (·.told)).length := by
  induction reports with
  | nil => exact Nat.le_refl _
  | cons report rest inductionHypothesis =>
    have own := report.length_warnings_le
    simp only [List.flatMap_cons, List.length_append]
    omega

/-- A report tells more than its warnings exactly if it repeats some. -/
theorem told_eq_iff
    (alone : ∀ first, report.prerequisite = some first → first.prerequisite = none) :
    report.told = report.warnings ↔ ¬ report.Repeats := by
  cases ran : report.prerequisite with
  | none => simp [told_of_alone ran, Repeats, ran]
  | some first =>
    simp [told_of_first ran, told_of_alone (alone first ran), Repeats, ran]

theorem flatMap_told_eq_iff (alone : ∀ report ∈ reports, ∀ first,
      report.prerequisite = some first → first.prerequisite = none) :
    reports.flatMap (·.told) = reports.flatMap (·.warnings) ↔
      ∀ report ∈ reports, ¬ report.Repeats := by
  induction reports with
  | nil => simp
  | cons report rest inductionHypothesis =>
    have own := report.told_eq_iff (alone report List.mem_cons_self)
    have others := inductionHypothesis fun other member =>
      alone other (List.mem_cons_of_mem _ member)
    rw [List.forall_mem_cons, ← own, ← others, List.flatMap_cons, List.flatMap_cons]
    constructor
    · intro same
      -- neither part can be longer than what it is compared with
      have long := congrArg List.length same
      have first := report.length_warnings_le
      have behind := length_flatMap_warnings_le rest
      simp only [List.length_append] at long
      have cut (shape : report.told.length = report.warnings.length) :=
        List.append_inj same shape
      exact cut (by omega)
    · rintro ⟨own, others⟩
      rw [own, others]

end PhaseReport

namespace Phase

variable {session after : Session} {orchestrator : Option Orchestrator}
  {reports : List PhaseReport} {last : Phase} {only : Bool}

/-- Where the phases run in order, none runs first in another one. -/
theorem alone_of_runThrough (inOrder : only = false ∨ last ≠ .auth)
    (keeps : ∀ chosen ∈ orchestrator, KeepsWarnings chosen.execute)
    (ran : runThrough last only orchestrator session = (.ok reports, after)) :
    ∀ report ∈ reports, report.prerequisite = none := by
  rw [runThrough] at ran
  cases only with
  | true =>
    refine alone_of_runEach ?_ keeps ran
    simpa [through, eq_comm] using inOrder
  | false =>
    cases last with
    | scaffold => exact alone_of_runEach (by decide) keeps ran
    | auth => exact alone_behind_scaffold List.not_mem_nil keeps ran
    | plugins => exact alone_behind_scaffold (by decide) keeps ran

/-- The reports of phases have the warnings that were added while they ran, in order and each once;
those of a phase that ran first in another one are repeated by it. So reports that are told one
behind the other, each behind the one that ran first, tell exactly what was added if no phase that
ran first had a warning, as is always so where the phases run in order. -/
theorem warnings_told_once_iff (keeps : ∀ chosen ∈ orchestrator, KeepsWarnings chosen.execute)
    (ran : runThrough last only orchestrator session = (.ok reports, after)) :
    after.warnings = session.warnings ++ reports.flatMap (·.warnings) ∧
    (∀ report ∈ reports, ∀ first, report.prerequisite = some first →
      first.warnings <+: report.warnings) ∧
    (after.warnings = session.warnings ++ reports.flatMap (·.told) ↔
      ∀ report ∈ reports, ¬ report.Repeats) ∧
    (only = false ∨ last ≠ .auth → ∀ report ∈ reports, ¬ report.Repeats) := by
  obtain ⟨added, each⟩ := tells_of_runEach keeps ran
  refine ⟨added, fun report member first earlier => (each report member first earlier).2, ?_, ?_⟩
  · rw [added, List.append_cancel_left_eq, eq_comm]
    exact PhaseReport.flatMap_told_eq_iff fun report member first earlier =>
      (each report member first earlier).1
  · rintro inOrder report member ⟨first, earlier, -⟩
    rw [alone_of_runThrough inOrder keeps ran report member] at earlier
    cases earlier

/-! ### A warning that is told twice -/

set_option maxRecDepth 100000

/-- A session over a scaffold that the first phase is still to be run on, with a guide whose only
change cannot be made. -/
def warningSession : Session :=
  Scaffold.interfaceSession "```tsx\n<Route path=\"/b\" />\n```\n"
    (Scaffold.componentsIn ["src", "packages-core", "app"] ++ ["Root", "Root.tsx"], "b();\n")
    (Scaffold.componentsIn ["dst", "packages", "app"] ++ ["Root", "Root.tsx"], "a();\n")

theorem warning_told_once_in_order :
    ∃ reports after, runThrough .auth false (some (Plugin.orchestrator {})) warningSession =
        (.ok reports, after) ∧ after.warnings.length = 1 ∧
      after.warnings = warningSession.warnings ++ reports.flatMap (·.told) := by
  obtain ⟨answers, warned⟩ :
      (runThrough .auth false (some (Plugin.orchestrator {})) warningSession).1.toOption.any
          (fun _ => true) = true ∧
        (runThrough .auth false (some (Plugin.orchestrator {}))
          warningSession).2.warnings.length = 1 := by
    decide +kernel
  obtain ⟨reports, ran, -⟩ := exists_of_any _ _ answers
  obtain ⟨-, -, told, inOrder⟩ := warnings_told_once_iff
    (fun chosen same => Option.some.inj same ▸ Plugin.keepsWarnings_execute {}) ran
  exact ⟨reports, _, ran, warned, told.mpr (inOrder (.inl rfl))⟩

/-- The second phase alone runs the first one, and both have its warning. -/
theorem warning_told_twice :
    ∃ reports after, runThrough .auth true none warningSession = (.ok reports, after) ∧
      after.warnings.length = 1 ∧ (reports.flatMap (·.told)).length = 2 := by
  obtain ⟨answers, warned⟩ :
      (runThrough .auth true none warningSession).1.toOption.any
          (fun reports => (reports.flatMap (·.told)).length == 2) = true ∧
        (runThrough .auth true none warningSession).2.warnings.length = 1 := by
    decide +kernel
  obtain ⟨reports, ran, twice⟩ := exists_of_any _ _ answers
  exact ⟨reports, _, ran, warned, eq_of_beq twice⟩

end Phase

end GuidedMigration
