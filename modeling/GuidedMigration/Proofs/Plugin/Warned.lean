/-
This file shows that the warnings of a session only grow. What an action says is put behind what was
said before, whether the action goes through or fails, and nothing is taken back. So what was said
between two moments is what the later list has behind the earlier one. The integration of templates
and plugins keeps the warnings from before, too: one that fails adds a warning, and so does a plugin
that nothing is known of.
-/
import GuidedMigration.Phase.Progress
import GuidedMigration.Plugin.Orchestrator
import GuidedMigration.Proofs.Migration.Noted

namespace GuidedMigration.Migration

variable {First Answer : Type}

/-- Whether an action keeps the warnings that there are; it may add others at the end. -/
def KeepsWarnings (action : Migration Answer) : Prop :=
  ∀ session : Session, session.warnings <+: (action session).2.warnings

namespace KeepsWarnings

theorem ofSame {action : Migration Answer}
    (same : ∀ session : Session, (action session).2.warnings = session.warnings) :
    KeepsWarnings action :=
  fun session => same session ▸ List.prefix_rfl

theorem pure (answer : Answer) : KeepsWarnings (Pure.pure answer) := ofSame fun _ => rfl

theorem throw (failure : Failure) : KeepsWarnings (throw failure : Migration Answer) :=
  ofSame fun _ => rfl

theorem ask (question : Session → Answer) : KeepsWarnings (ask question) := ofSame fun _ => rfl

theorem ofResult (result : Except Failure Answer) : KeepsWarnings (ofResult result) :=
  ofSame fun _ => rfl

theorem onFiles (action : Files Answer) : KeepsWarnings (onFiles action) := ofSame fun _ => rfl

theorem warn (message : Text) : KeepsWarnings (change (·.warn message)) :=
  fun _ => List.prefix_append _ _

theorem bind {action : Migration First} {next : First → Migration Answer}
    (keeps : KeepsWarnings action) (further : ∀ answer, KeepsWarnings (next answer)) :
    KeepsWarnings (action >>= next) :=
  leads_bind (fun before after : Session => before.warnings <+: after.warnings)
    (fun once again => once.trans again) keeps further

theorem recorded (action : Files Outcome) : KeepsWarnings (recorded action) :=
  (onFiles action).bind fun outcome => bind (ofSame fun _ => rfl) fun _ => pure outcome

theorem guarded (what : Text) (action : Files Outcome) : KeepsWarnings (guarded what action) := by
  intro session
  have kept := recorded action session
  rw [Migration.guarded]
  cases outcome : Migration.recorded action session with
  | mk result after =>
    rw [outcome] at kept
    cases result with
    | ok answer => exact kept
    | error failure =>
      dsimp only
      split
      · exact kept.trans (List.prefix_append _ _)
      · exact kept

theorem normalizing {action : Migration Answer} (keeps : KeepsWarnings action)
    (normalizes : Bool) : KeepsWarnings (normalizing normalizes action) :=
  fun session => keeps { session with normalizes := normalizes }

end KeepsWarnings

/-- Where each failure leaves its note, no warning is taken back. -/
theorem KeepsBooks.keepsWarnings {action : Migration Answer} (keeps : KeepsBooks action) :
    KeepsWarnings action := by
  intro session
  obtain ⟨notes, kept⟩ := keeps session
  rw [kept.warnings]
  exact List.prefix_append _ _

theorem keepsWarnings_runTasks (hint : Text) (path : Path) (sections : List Section)
    (tasks : List Task) : KeepsWarnings (runTasks hint path sections tasks) := by
  induction tasks with
  | nil => exact .pure ()
  | cons task rest inductionHypothesis =>
    refine KeepsWarnings.bind ?_ fun _ => inductionHypothesis
    rw [runTask_eq]
    exact ((keepsBooks_carryOut hint path sections task).recovering task.name).keepsWarnings

theorem keepsWarnings_guideAt (path : Path) : KeepsWarnings (guideAt path) := .ofSame fun _ => rfl

/-- The run of a guide keeps the warnings from before, however it ends. -/
theorem keepsWarnings_runGuide (path : Path) (normalizes : Bool) (hint : Text) :
    KeepsWarnings (runGuide path normalizes hint) :=
  (keepsWarnings_guideAt path).bind fun document =>
    ((keepsWarnings_runTasks hint path document.sections _).normalizing normalizes).bind fun _ =>
      .pure document

end GuidedMigration.Migration

namespace GuidedMigration.Plugin

open Migration

variable {Answer : Type}

theorem keepsWarnings_attempt {action : Migration Answer} (keeps : KeepsWarnings action)
    (what : Text) : KeepsWarnings (attempt what action) := by
  intro session
  have kept := keeps session
  rw [attempt]
  cases outcome : action session with
  | mk result after =>
    rw [outcome] at kept
    cases result with
    | ok answer => exact kept
    | error failure =>
      dsimp only
      split
      · exact kept.trans (List.prefix_append _ _)
      · exact kept

/-! ### Plugins -/

theorem keepsWarnings_copyDirectories (guides : List Text) :
    KeepsWarnings (copyDirectories guides) := by
  induction guides with
  | nil => exact .pure []
  | cons guide rest inductionHypothesis =>
    rw [copyDirectories]
    split
    · exact inductionHypothesis
    · exact (KeepsWarnings.ask id).bind fun session =>
        (KeepsWarnings.recorded _).bind fun outcome => inductionHypothesis.bind fun _ => .pure _

theorem keepsWarnings_runPart (plugin : PluginMetadata) (guide : Option Text) (hint : Text) :
    KeepsWarnings (runPart plugin guide hint) := by
  unfold runPart
  split
  · exact .pure ()
  · exact .pure ()
  · exact (KeepsWarnings.ask _).bind fun guides =>
      (keepsWarnings_runGuide _ _ _).bind fun _ => .pure ()

theorem keepsWarnings_integrate (plugin : PluginMetadata) : KeepsWarnings (integrate plugin) :=
  (keepsWarnings_copyDirectories _).bind fun _ =>
    (keepsWarnings_runPart _ _ _).bind fun _ => (keepsWarnings_runPart _ _ _).bind fun _ =>
      .pure _

theorem keepsWarnings_integrateEach (plugins : List PluginMetadata) :
    KeepsWarnings (integrateEach plugins) := by
  induction plugins with
  | nil => exact .pure []
  | cons plugin rest inductionHypothesis =>
    refine (keepsWarnings_attempt (keepsWarnings_integrate plugin) _).bind fun tried => ?_
    have others (result : PluginResult) :=
      inductionHypothesis.bind fun results => .pure (result :: results)
    cases tried with
    | ok result => exact others result
    | error failure => exact others _

theorem keepsWarnings_warnMissing (names : List Text) : KeepsWarnings (warnMissing names) := by
  induction names with
  | nil => exact .pure ()
  | cons name rest inductionHypothesis =>
    exact (KeepsWarnings.warn _).bind fun _ => inductionHypothesis

theorem keepsWarnings_resolve (plan : PluginPlan) : KeepsWarnings (resolve plan) := by
  unfold resolve
  split
  · exact (KeepsWarnings.pure _).bind fun found => .pure _
  · have listed : KeepsWarnings listed := .ofSame fun _ => rfl
    exact listed.bind fun plugins => (KeepsWarnings.pure _).bind fun (_, _) => .pure _

theorem keepsWarnings_integratePlugins (plan : PluginPlan) :
    KeepsWarnings (integratePlugins plan) :=
  (keepsWarnings_resolve plan).bind fun _ => (keepsWarnings_warnMissing _).bind fun _ =>
    (keepsWarnings_integrateEach _).bind fun _ => .pure _

/-! ### Templates -/

theorem keepsWarnings_copyTemplates (names : List Text) :
    KeepsWarnings (copyTemplates names) := by
  induction names with
  | nil => exact .pure []
  | cons name rest inductionHypothesis =>
    exact (KeepsWarnings.ask id).bind fun session =>
      (keepsWarnings_attempt (.recorded _) _).bind fun result =>
        inductionHypothesis.bind fun others => .pure _

theorem keepsWarnings_availableTemplates : KeepsWarnings availableTemplates := by
  refine (KeepsWarnings.ask _).bind fun source => (KeepsWarnings.onFiles _).bind fun there => ?_
  split
  · exact (KeepsWarnings.onFiles _).bind fun names => .onFiles _
  · exact .pure []

theorem keepsWarnings_integrateTemplates (plan : PluginPlan) :
    KeepsWarnings (integrateTemplates plan) := by
  unfold integrateTemplates
  split
  · exact keepsWarnings_availableTemplates.bind fun names => keepsWarnings_copyTemplates names
  · exact (KeepsWarnings.pure _).bind fun names => keepsWarnings_copyTemplates names

/-! ### Everything -/

theorem keepsWarnings_applyCatalog (plan : PluginPlan) (templates : List Text) :
    KeepsWarnings (applyCatalog plan templates) := by
  unfold applyCatalog
  dsimp only
  split
  · exact .pure []
  · refine KeepsWarnings.bind (.ofSame fun _ => rfl) fun _ => ?_
    exact (Executor.inherits_keepsBooks.applyConfig _ _ _).keepsWarnings.bind fun _ =>
      (KeepsWarnings.ask _).bind fun settings => .pure _

/-- Whatever is integrated, the warnings from before are kept. -/
theorem keepsWarnings_execute (plan : PluginPlan) : KeepsWarnings (execute plan) := by
  have ifWanted {First : Type} (wanted : Bool) (none : First) {action : Migration First}
      {next : First → Migration Integration} (keeps : KeepsWarnings action)
      (further : ∀ answer, KeepsWarnings (next answer)) :
      KeepsWarnings (if wanted = true then action >>= next else Pure.pure none >>= next) := by
    split
    · exact keeps.bind further
    · exact (KeepsWarnings.pure none).bind further
  unfold execute
  refine ifWanted _ [] (keepsWarnings_integrateTemplates plan) fun templates => ?_
  refine ifWanted _ [] (keepsWarnings_integratePlugins plan) fun results => ?_
  exact (keepsWarnings_applyCatalog plan templates).bind fun catalog => .pure _

end GuidedMigration.Plugin
