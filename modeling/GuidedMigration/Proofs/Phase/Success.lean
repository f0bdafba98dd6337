/-
This file shows what the success of a phase says about the tree that it leaves. Whatever a phase
does to the tree on its way, it checks the tree afterwards, and a failure on the way is an error in
its report. So if the report says success, the markers of the phase hold, and the next phase may
begin. Only the second phase may succeed without its own markers: where the first guide speaks of no
authentication there is nothing to do, and those of the first phase hold.
-/
import GuidedMigration.Phase.Plugins
import GuidedMigration.Proofs.Migration.Planned
import GuidedMigration.Proofs.Yaml.Keyed

namespace GuidedMigration

/-! ### Checks -/

theorem Findings.isOk_append (first second : Findings) :
    (first.append second).isOk = (first.isOk && second.isOk) := by
  rw [Bool.eq_iff_iff]
  simp [Findings.isOk, Findings.append]

namespace Check

variable {tree : Tree} {root : Path} {expectation : Expectation} {expectations : List Expectation}
  {findings : Findings}

/-- An expectation that is checked without a failure holds, unless it is soft. -/
theorem holds_of_check (checked : check tree root expectation = .ok findings)
    (isOk : findings.isOk = true) (hard : expectation.isSoft = false) :
    holds tree root expectation = .ok true := by
  have judged {name : Text} {held : Bool} (same : judge name held expectation = findings) :
      held = true := by
    cases held with
    | true => rfl
    | false => simp [← same, judge, hard, Findings.isOk] at isOk
  rw [check] at checked
  cases answer : holds tree root expectation with
  | ok held =>
    rw [answer] at checked
    rw [judged (Except.ok.inj checked)]
  | error failure =>
    simp only [answer] at checked
    split at checked
    · exact absurd (judged (Except.ok.inj checked)) Bool.false_ne_true
    · simp at checked

/-- Where all expectations are checked without a failure, those that are not soft hold. -/
theorem holds_of_checkAll (checked : checkAll tree root expectations = .ok findings)
    (isOk : findings.isOk = true) :
    ∀ expectation ∈ expectations, expectation.isSoft = false →
      holds tree root expectation = .ok true := by
  induction expectations generalizing findings with
  | nil => simp
  | cons first rest inductionHypothesis =>
    rw [checkAll] at checked
    obtain ⟨own, firstChecked, checked⟩ := exists_of_bind_ok checked
    obtain ⟨later, restChecked, checked⟩ := exists_of_bind_ok checked
    rw [← Except.ok.inj checked, Findings.isOk_append, Bool.and_eq_true] at isOk
    intro expectation member hard
    rcases List.mem_cons.mp member with rfl | inside
    · exact holds_of_check firstChecked isOk.1 hard
    · exact inductionHypothesis restChecked isOk.2 expectation inside hard

end Check

/-! ### Parts of a phase -/

namespace PhasePart

variable {First Second Answer : Type} {before after : Progress}

/-- A part that goes through has a part before it that does. -/
theorem exists_of_bind {part : PhasePart First} {next : First → PhasePart Second} {answer : Second}
    (ran : (part >>= next) before = (.ok answer, after)) :
    ∃ first between, part before = (.ok first, between) ∧
      next first between = (.ok answer, after) := by
  have unfolded : (match part before with
      | (result, between) => ExceptT.bindCont next result between) = (.ok answer, after) := ran
  cases outcome : part before with
  | mk result between =>
    rw [outcome] at unfolded
    cases result with
    | ok first => exact ⟨first, between, rfl, unfolded⟩
    | error failure => cases congrArg Prod.fst unfolded

/-- A step that goes through does its part once it is counted. -/
theorem exists_of_step {name : Text} {part : PhasePart Answer} {answer : Answer}
    (ran : step name part before = (.ok answer, after)) :
    ∃ counted, counted.session = before.session ∧ part counted = (.ok answer, after) := by
  obtain ⟨_, counted, advanced, ran⟩ := exists_of_bind ran
  refine ⟨counted, (congrArg (·.2.session) advanced).symm, ?_⟩
  cases outcome : part counted with
  | mk result reached =>
    rw [outcome] at ran
    cases result with
    | ok done => exact ran
    | error failure =>
      dsimp only at ran
      split at ran <;> cases ran

/-- A step on the session that goes through goes through there. -/
theorem session_of_step {name : Text} {action : Migration Answer} {answer : Answer}
    (ran : step name (onSession action) before = (.ok answer, after)) :
    action before.session = (.ok answer, after.session) := by
  obtain ⟨counted, same, ran⟩ := exists_of_step ran
  have unfolded : ((action counted.session).1,
      { counted with session := (action counted.session).2 }) = (Except.ok answer, after) := ran
  rw [← same]
  exact Prod.ext (congrArg (·.1) unfolded) (congrArg (·.2.session) unfolded)

theorem session_of_check {question : Session → Except Failure Answer} {answer : Answer}
    (ran : check question before = (.ok answer, after)) :
    after = before ∧ question before.session = .ok answer := by
  have unfolded : (question before.session, before) = (.ok answer, after) := ran
  exact ⟨(congrArg Prod.snd unfolded).symm, congrArg Prod.fst unfolded⟩

/-- A change of the report leaves the rest of the part to a session that is as before. -/
theorem of_note {update : PhaseReport → PhaseReport} {next : Unit → PhasePart Answer}
    {answer : Answer} (ran : (note update >>= next) before = (.ok answer, after)) :
    next () { before with report := update before.report } = (.ok answer, after) := ran

theorem eq_of_note {update : PhaseReport → PhaseReport}
    (ran : note update before = (.ok (), after)) :
    after = { before with report := update before.report } := (congrArg Prod.snd ran).symm

/-- Findings that are noted last are those on the session as it is left. -/
theorem findings_of_conclude {question : Session → Except Failure Findings}
    (ran : (check question >>= conclude) before = (.ok (), after)) :
    ∃ findings, question before.session = .ok findings ∧
      after = { before with report.findings := findings } := by
  obtain ⟨findings, checked, answered, concluded⟩ := exists_of_bind ran
  obtain ⟨same, holds⟩ := session_of_check answered
  exact ⟨findings, holds, same ▸ eq_of_note concluded⟩

end PhasePart

namespace Phase

variable {session : Session} {orchestrator : Option Orchestrator} {report : PhaseReport}

/-! ### What the bodies check last -/

/-- A phase that succeeds has come from the session that it is begun with to the end of its body,
without an error and with findings that hold, and nothing but the list of errors is changed behind
it. -/
theorem exists_of_begun {phase : Phase} {body : PhasePart Unit} {after : Session}
    (ran : phase.runWith body session = (.ok report, after)) (success : report.success = true) :
    ∃ start last errors, start.session = { session with phase := phase.number } ∧
      body start = (.ok (), last) ∧ last.report.findings.isOk = true ∧
      report.summary = last.report.summary ∧ after = { last.session with errors := errors } := by
  rw [runWith] at ran
  dsimp only at ran
  generalize begun : Progress.mk _ _ = start at ran
  have opened : start.session = { session with phase := phase.number } := by rw [← begun]
  cases outcome : body start with
  | mk result last =>
    rw [outcome] at ran
    cases result with
    | ok done =>
      obtain ⟨reported, left⟩ := Prod.mk.inj ran
      have finished : (last.finish session.warnings.length).1 = report := Except.ok.inj reported
      rw [← finished, Progress.finish, Bool.and_eq_true] at success
      exact ⟨start, last, _, opened, outcome, success.2, by rw [← finished, Progress.finish],
        left.symm⟩
    | error failure =>
      dsimp only at ran
      split at ran
      · have finished : ((last.fail failure).finish session.warnings.length).1 = report :=
          Except.ok.inj (Prod.mk.inj ran).1
        rw [← finished, Progress.finish, Bool.and_eq_true] at success
        -- a failure that ends a phase leaves an error in the report
        have erred : (last.fail failure).report.errors.isEmpty = false := by
          rw [Progress.fail]
          split
          · simp [PhasePart.addError]
          · rename_i erred
            exact eq_false_of_ne_true erred
        rw [erred] at success
        exact absurd success.1 Bool.false_ne_true
      · cases congrArg Prod.fst ran

/-- A phase that succeeds has come to the end of its body. -/
theorem exists_of_success {phase : Phase} {body : PhasePart Unit} {after : Session}
    (ran : phase.runWith body session = (.ok report, after)) (success : report.success = true) :
    ∃ start last errors, body start = (.ok (), last) ∧ last.report.findings.isOk = true ∧
      report.summary = last.report.summary ∧ after = { last.session with errors := errors } := by
  obtain ⟨start, last, errors, -, came, rest⟩ := exists_of_begun ran success
  exact ⟨start, last, errors, came, rest⟩

theorem findings_of_scaffold {before after : Progress}
    (ran : Scaffold.body before = (.ok (), after)) :
    Scaffold.findings after.session = .ok after.report.findings := by
  rw [Scaffold.body] at ran
  iterate 7 obtain ⟨_, _, -, ran⟩ := PhasePart.exists_of_bind ran
  obtain ⟨findings, holds, rfl⟩ := PhasePart.findings_of_conclude ran
  exact holds

theorem findings_of_follow {guide : Path} {before after : Progress}
    (ran : Auth.follow guide before = (.ok (), after)) :
    Auth.findings after.session = .ok after.report.findings := by
  rw [Auth.follow] at ran
  iterate 5 obtain ⟨_, _, -, ran⟩ := PhasePart.exists_of_bind ran
  obtain ⟨findings, checked, answered, ended⟩ := PhasePart.exists_of_bind ran
  obtain ⟨same, holds⟩ := PhasePart.session_of_check answered
  rw [same] at ended
  rw [PhasePart.eq_of_note (PhasePart.of_note ended)]
  exact holds

/-- What the report of the second phase says where the first guide speaks of no authentication. -/
def withoutAuthentication : Text := "no authentication referenced in Readme".toList

theorem findGuide_apply (session : Session) :
    Auth.findGuide session =
      ((Migration.readGuide session.tree session.settings (session.guides.child readme)).map
        (Auth.referenceIn session.guides), session) := by
  rw [Auth.findGuide, Migration.bind_ask_apply, bind_apply, Migration.guideAt]
  cases Migration.readGuide session.tree session.settings (session.guides.child readme) <;> rfl

theorem findings_of_auth {before after : Progress} (ran : Auth.body before = (.ok (), after)) :
    Auth.findings after.session = .ok after.report.findings ∨
      after.report.summary = withoutAuthentication ∧
        Auth.findGuide after.session = (.ok none, after.session) ∧
        Scaffold.findings after.session = .ok after.report.findings := by
  rw [Auth.body] at ran
  obtain ⟨_, _, -, ran⟩ := PhasePart.exists_of_bind ran
  obtain ⟨guide, parsed, found, followed⟩ := PhasePart.exists_of_bind ran
  cases guide with
  | some guide => exact .inl (findings_of_follow followed)
  | none =>
    obtain ⟨counted, -, found⟩ := PhasePart.exists_of_step found
    rw [PhasePart.onSession, findGuide_apply, Prod.mk.injEq] at found
    have again : Auth.findGuide parsed.session = (.ok none, parsed.session) := by
      rw [← found.2, findGuide_apply, found.1]
    obtain ⟨findings, holds, rfl⟩ :=
      PhasePart.findings_of_conclude (PhasePart.of_note (PhasePart.of_note followed))
    exact .inr ⟨rfl, again, holds⟩

/-- What the third phase checks: its markers, what the orchestrator promised, and the two
configuration documents. -/
def Plugins.IsChecked (progress : Progress) : Prop :=
  ∃ expectations checked, Plugins.findings expectations progress.session = .ok checked ∧
    Auth.withParity progress.session checked = .ok progress.report.findings

theorem isChecked_of_integrate {orchestrator : Orchestrator} {before after : Progress}
    (ran : Plugins.integrate orchestrator before = (.ok (), after)) : Plugins.IsChecked after := by
  rw [Plugins.integrate] at ran
  obtain ⟨_, _, -, ran⟩ := PhasePart.exists_of_bind ran
  obtain ⟨integration, integrated, -, ran⟩ := PhasePart.exists_of_bind ran
  replace ran := PhasePart.of_note ran
  have checks {progress : Progress} (ran : (PhasePart.advance >>= fun _ =>
      PhasePart.onSession Auth.flush >>= fun _ =>
        PhasePart.check (Plugins.findings integration.expectations) >>= fun checked =>
          PhasePart.conclude checked >>= fun _ =>
            PhasePart.check (Auth.withParity · checked) >>= PhasePart.conclude) progress =
      (.ok (), after)) : Plugins.IsChecked after := by
    obtain ⟨_, flushed, -, ran⟩ := PhasePart.exists_of_bind (PhasePart.of_note ran)
    obtain ⟨checked, here, answered, ran⟩ := PhasePart.exists_of_bind ran
    obtain ⟨same, markers⟩ := PhasePart.session_of_check answered
    rw [same] at ran
    obtain ⟨findings, parity, rfl⟩ := PhasePart.findings_of_conclude (PhasePart.of_note ran)
    exact ⟨integration.expectations, checked, markers, parity⟩
  dsimp only at ran
  split at ran
  · exact checks (PhasePart.of_note ran)
  · exact checks ran

theorem isChecked_of_plugins {before after : Progress}
    (ran : Plugins.body orchestrator before = (.ok (), after)) : Plugins.IsChecked after := by
  unfold Plugins.body at ran
  replace ran := PhasePart.of_note ran
  obtain ⟨markers, _, -, ran⟩ := PhasePart.exists_of_bind ran
  dsimp only at ran
  split at ran
  · cases congrArg Prod.fst ran
  · cases orchestrator with
    | none => cases congrArg Prod.fst ran
    | some orchestrator => exact isChecked_of_integrate ran

/-! ### Success -/

/-- What is left behind by a phase that is complete: its markers hold, and the next phase lacks
nothing. -/
structure IsComplete (phase : Phase) (session : Session) : Prop where
  markers : ∀ expectation ∈ phase.markers session.settings, expectation.isSoft = false →
    Check.holds session.tree session.destination expectation = .ok true
  next : ∀ next : Phase, next.number = phase.number + 1 →
    ∃ findings, next.prerequisites session = .ok findings ∧ findings.failed = []

theorem isComplete_of_checked {phase : Phase} {findings : Findings}
    (checked : Check.checkAll session.tree session.destination (phase.markers session.settings) =
      .ok findings) (isOk : findings.isOk = true) : phase.IsComplete session where
  markers := Check.holds_of_checkAll checked isOk
  next next follows := by
    refine ⟨findings, ?_, List.isEmpty_iff.mp isOk⟩
    rw [← checked]
    cases phase <;> cases next <;> first | rfl | simp [number] at follows

/-- Findings that hold with those on the two documents hold without them. -/
theorem isOk_of_withParity {findings all : Findings}
    (checked : Auth.withParity session findings = .ok all) (isOk : all.isOk = true) :
    findings.isOk = true := by
  rw [Auth.withParity] at checked
  split at checked
  · obtain ⟨parity, -, checked⟩ := exists_of_bind_ok checked
    rw [← Except.ok.inj checked, Findings.isOk_append, Bool.and_eq_true] at isOk
    exact isOk.1
  · rwa [Except.ok.inj checked]

/-- A phase that succeeds is complete. Only the second one may succeed with no more than the first
one complete, where the first guide speaks of no authentication. -/
theorem isComplete_of_success {phase : Phase} {after : Session}
    (ran : phase.run orchestrator session = (.ok report, after)) (success : report.success = true) :
    phase.IsComplete after ∨
      phase = .auth ∧ report.summary = withoutAuthentication ∧
        Auth.findGuide after = (.ok none, after) ∧ scaffold.IsComplete after := by
  cases phase with
  | scaffold =>
    obtain ⟨start, last, errors, came, isOk, -, rfl⟩ := exists_of_success ran success
    exact .inl (isComplete_of_checked (findings_of_scaffold came) isOk)
  | auth =>
    obtain ⟨start, last, errors, came, isOk, summary, rfl⟩ := exists_of_success ran success
    rcases findings_of_auth came with checked | ⟨without, found, checked⟩
    · obtain ⟨findings, markers, parity⟩ := exists_of_bind_ok checked
      exact .inl (isComplete_of_checked markers (isOk_of_withParity parity isOk))
    · rw [findGuide_apply, Prod.mk.injEq] at found
      refine .inr ⟨rfl, summary.trans without, ?_, isComplete_of_checked checked isOk⟩
      rw [findGuide_apply]
      exact Prod.ext found.1 rfl
  | plugins =>
    obtain ⟨start, last, errors, came, isOk, -, rfl⟩ := exists_of_success ran success
    obtain ⟨expectations, checked, markers, parity⟩ := isChecked_of_plugins came
    have holds := Check.holds_of_checkAll markers (isOk_of_withParity parity isOk)
    refine .inl ⟨fun expectation member => ?_, fun next follows => ?_⟩
    · exact holds expectation (List.mem_append_left _ member)
    · cases next <;> simp [number] at follows

/-! ### Two second phases -/

/-- A place below the working directory. -/
def placeOf (path : String) : Path.Place := [] :: Text.splitOn '/' path.toList

/-- A session over an application that the first phase is done with, and two guides. -/
def scaffoldedSession (first auth : String) : Session :=
  let directories := ["src", "src/docs", "dst", "dst/packages", "dst/packages/app",
    "dst/packages/app/src", "dst/packages/app/src/assets", "dst/packages/app/src/components",
    "dst/packages/app/src/components/Root", "dst/packages/app/src/components/theme",
    "dst/packages/backend", "dst/packages/backend/src"]
  let files := [("src/docs/Readme.md", first), ("src/docs/Auth.md", auth),
    ("dst/app-config.yaml", "a: b\n"), ("dst/packages/backend/src/index.ts", "start();\n")]
  .start { source := "src".toList, destination := "dst".toList } []
    ⟨directories.map (fun path => (placeOf path, .directory)) ++
      files.map fun (path, text) => (placeOf path, .file (Utf8.encode text.toList))⟩

set_option maxRecDepth 100000

/-- A first guide that speaks of no authentication. -/
def silentSession : Session := scaffoldedSession "# G\n" ""

/-- The marker that the template names providers. -/
def providersMarker (settings : Settings) : Expectation :=
  { path := settings.template, kind := .key, needle := some "auth.providers".toList }

theorem providersMarker_mem (settings : Settings) :
    providersMarker settings ∈ auth.markers settings := by
  rw [markers, if_neg (by decide)]
  exact List.mem_append_right _ List.mem_cons_self

theorem exists_ok_of_any {Answer : Type} {result : Except Failure Answer} {test : Answer → Bool}
    (any : result.toOption.any test = true) :
    ∃ answer, result = .ok answer ∧ test answer = true := by
  cases result with
  | ok answer => exact ⟨answer, rfl, any⟩
  | error failure => simp [Except.toOption] at any

theorem exists_of_any {Answer : Type} (ran : Except Failure Answer × Session)
    (test : Answer → Bool) (any : ran.1.toOption.any test = true) :
    ∃ answer, ran = (.ok answer, ran.2) ∧ test answer = true := by
  obtain ⟨answer, answered, held⟩ := exists_ok_of_any any
  exact ⟨answer, Prod.ext answered rfl, held⟩

/-- The second phase succeeds over a silent guide, and there are no providers. -/
theorem not_isComplete_of_silent_guide :
    ∃ report after, Phase.auth.run none silentSession = (.ok report, after) ∧
      report.success = true ∧ ¬ auth.IsComplete after := by
  obtain ⟨report, ran, success⟩ := exists_of_any (Phase.auth.run none silentSession) (·.success)
    (by decide +kernel)
  refine ⟨report, _, ran, success, fun complete => ?_⟩
  have holds := complete.markers _ (providersMarker_mem _) rfl
  exact absurd (congrArg Except.toOption holds) (by decide +kernel)

/-- A first guide that points to a guide to authentication, which names a provider. -/
def speakingSession : Session :=
  scaffoldedSession "## G\nauthentication\n" "```yaml\nauth:\n  providers: a\n```\n"

theorem isComplete_of_speaking_guide :
    ∃ report after, Phase.auth.run none speakingSession = (.ok report, after) ∧
      report.success = true ∧ auth.IsComplete after := by
  obtain ⟨report, ran, told⟩ := exists_of_any (Phase.auth.run none speakingSession)
    (fun report => report.success && report.summary != withoutAuthentication) (by decide +kernel)
  rw [Bool.and_eq_true, bne_iff_ne] at told
  refine ⟨report, _, ran, told.1, ?_⟩
  exact (isComplete_of_success ran told.1).resolve_right fun silent => told.2 silent.2.1

end Phase

end GuidedMigration
