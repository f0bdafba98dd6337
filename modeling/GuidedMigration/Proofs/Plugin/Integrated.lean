/-
This file shows how far the failure of one template or plugin is kept from the others. The
integration comes to its end exactly if what is asked for can be listed, no template meets a fault
of files when it has its turn, no plugin stops everything when it has its turn, and the catalog can
be told. Then all templates and plugins have had their turns, in order; those that could be
processed are integrated, and each of the others has left a warning. Nothing is said of integrations
that meet a document that holds itself.
-/
import GuidedMigration.Proofs.Plugin.Processed

namespace GuidedMigration

/-- Whether a plan asks for one kind of things. -/
def PluginPlan.wants (plan : PluginPlan) (kind : Text) : Bool :=
  plan.integrationType = kind || plan.integrationType = "both".toList

namespace Plugin

open Migration GuidedMigration.Tree

variable {plan : PluginPlan} {before after : Session}

/-! ### What is asked for -/

/-- The templates that a plan asks for. -/
def requestedTemplates (plan : PluginPlan) (session : Session) : Except Failure (List Text) :=
  if plan.wants "templates".toList then
    if plan.templates.isEmpty then (availableTemplates session).1 else .ok plan.templates
  else .ok []

/-- Names of plugins, and the lists in which their metadata is looked up. -/
structure Request where
  producers : List (List PluginMetadata)
  names : List Text

/-- The plugins that a plan asks for. -/
def requestedPlugins (plan : PluginPlan) (session : Session) : Except Failure Request :=
  if plan.wants "plugins".toList then
    match plan.producers with
    | some producers => .ok ⟨producers, plan.plugins⟩
    | none => (listed session).1.map fun plugins =>
        ⟨[plugins], if plan.plugins.isEmpty then plugins.map (·.name) else plan.plugins⟩
  else .ok ⟨[], []⟩

namespace Request

variable (request : Request)

/-- The plugins that are known. -/
def found : List PluginMetadata := request.names.filterMap (lookUp? request.producers)

/-- The names that nothing is known of. -/
def missing : List Text := request.names.filter fun name => (lookUp? request.producers name).isNone

/-- The warning about a name that nothing is known of. -/
def missingWarning (name : Text) : Text :=
  "plugin ".toList ++ name ++ " not found in available plugins".toList

/-- A session with warnings about the names that nothing is known of. -/
def warned (session : Session) : Session :=
  { session with warnings := session.warnings ++ request.missing.map missingWarning }

end Request

/-! ### Actions that only look -/

/-- Whether an action leaves everything as it is. -/
def OnlyLooks {State Answer : Type} (action : ExceptT Failure (StateM State) Answer) : Prop :=
  ∀ state, (action state).2 = state

namespace OnlyLooks

variable {State First Answer : Type}

theorem pure (answer : Answer) :
    OnlyLooks (Pure.pure answer : ExceptT Failure (StateM State) Answer) := fun _ => rfl

theorem bind {action : ExceptT Failure (StateM State) First}
    {next : First → ExceptT Failure (StateM State) Answer} (looks : OnlyLooks action)
    (further : ∀ answer, OnlyLooks (next answer)) : OnlyLooks (action >>= next) :=
  leads_bind (fun before after => after = before) (fun once again => again.trans once)
    looks further

theorem ofFiles (question : Tree → Except FileFault Answer) : OnlyLooks (Files.ask question) := by
  intro tree
  rw [Files.ask]
  split <;> rfl

theorem onFiles {action : Files Answer} (looks : OnlyLooks action) :
    OnlyLooks (onFiles action) := by
  intro session
  show { session with tree := (action session.tree).2 } = session
  rw [looks session.tree]

end OnlyLooks

theorem onlyLooks_templatesAmong (root : Path) (names : List Text) :
    OnlyLooks (templatesAmong root names) := by
  induction names with
  | nil => exact .pure []
  | cons name rest inductionHypothesis =>
    exact (OnlyLooks.ofFiles _).bind fun found => inductionHypothesis.bind fun others => .pure _

theorem onlyLooks_availableTemplates : OnlyLooks availableTemplates := by
  have names (path : Path) : OnlyLooks (Files.namesIn path) := by
    intro tree
    rw [Files.namesIn]
    split
    · rfl
    · split <;> rfl
  refine OnlyLooks.bind (fun _ => rfl) fun source => ?_
  refine (OnlyLooks.onFiles (.ofFiles _)).bind fun there => ?_
  split
  · exact (OnlyLooks.onFiles (names _)).bind fun names =>
      .onFiles (onlyLooks_templatesAmong _ _)
  · exact .pure []

/-! ### The stages -/

/-- What a plugin is called in warnings. -/
def pluginWords (plugin : PluginMetadata) : Text := "plugin ".toList ++ plugin.name

/-- The result that the turn of a plugin has. -/
def resultOf (turn : Turn PluginMetadata PluginResult) : PluginResult :=
  match turn.result with
  | .ok result => result
  | .error failure => failedResult turn.item.name failure.message

/-- Integrating plugins is giving each of them its turn. -/
theorem integrateEach_eq (plugins : List PluginMetadata) (session : Session) :
    integrateEach plugins session =
      ((attemptEach pluginWords integrate plugins session).1.map (·.map resultOf),
        (attemptEach pluginWords integrate plugins session).2) := by
  induction plugins generalizing session with
  | nil => rfl
  | cons plugin rest inductionHypothesis =>
    rw [integrateEach, bind_apply]
    have same : attempt ("plugin ".toList ++ plugin.name) (integrate plugin) session =
      attempt (pluginWords plugin) (integrate plugin) session := rfl
    rw [same]
    cases attempted : attempt (pluginWords plugin) (integrate plugin) session with
    | mk result between =>
      cases result with
      | error failure =>
        rw [attemptEach, bind_ask_apply, bind_apply, id_eq, attempted]
        rfl
      | ok result =>
        rw [attemptEach_cons attempted]
        cases result with
        | ok own =>
          dsimp only
          rw [pure_bind, bind_apply, inductionHypothesis]
          obtain ⟨turns, last⟩ := attemptEach pluginWords integrate rest between
          cases turns <;> rfl
        | error failure =>
          dsimp only
          rw [pure_bind, bind_apply, inductionHypothesis]
          obtain ⟨turns, last⟩ := attemptEach pluginWords integrate rest between
          cases turns <;> rfl

theorem warnMissing_apply (names : List Text) (session : Session) : warnMissing names session =
    (.ok (), { session with
      warnings := session.warnings ++ names.map Request.missingWarning }) := by
  induction names generalizing session with
  | nil => rw [List.map_nil, List.append_nil]; rfl
  | cons name rest inductionHypothesis =>
    rw [warnMissing, bind_apply, change]
    dsimp only
    rw [inductionHypothesis, Session.warn, List.map_cons]
    simp only [List.append_assoc, List.singleton_append]
    rfl

/-- The names of templates that were copied. -/
def copiedAmong (turns : List (Turn Text Outcome)) : List Text :=
  (turns.filter (·.result.isOk)).map Turn.item

/-- Copies the templates that a plan asks for. -/
def templatesOf (plan : PluginPlan) : Migration (List Text) :=
  if plan.wants "templates".toList then integrateTemplates plan else pure []

/-- Integrates the plugins that a plan asks for. -/
def pluginsOf (plan : PluginPlan) : Migration (List PluginResult) :=
  if plan.wants "plugins".toList then integratePlugins plan else pure []

theorem templatesOf_eq (plan : PluginPlan) (session : Session) : templatesOf plan session =
    match requestedTemplates plan session with
    | .error failure => (.error failure, session)
    | .ok names => ((attemptEach templateWords copyTemplate names session).1.map copiedAmong,
        (attemptEach templateWords copyTemplate names session).2) := by
  rw [templatesOf, requestedTemplates]
  split
  · rw [integrateTemplates]
    split
    · rw [bind_apply]
      have same := onlyLooks_availableTemplates session
      cases outcome : availableTemplates session with
      | mk result after =>
        rw [outcome] at same
        cases result with
        | error failure => rw [← same]
        | ok names => rw [← same]; exact copyTemplates_eq names after
    · exact copyTemplates_eq plan.templates session
  · rfl

/-- What is known of plugins is found without a change. -/
theorem resolve_eq (plan : PluginPlan) (wanted : plan.wants "plugins".toList = true)
    (session : Session) : resolve plan session =
      ((requestedPlugins plan session).map fun request => (request.found, request.missing),
        session) := by
  rw [requestedPlugins, if_pos wanted, resolve]
  cases plan.producers with
  | some producers => rfl
  | none =>
    dsimp only
    rw [bind_apply]
    have same : (listed session).2 = session := rfl
    cases outcome : listed session with
    | mk result after =>
      rw [outcome] at same
      cases result with
      | error failure => rw [← same]; rfl
      | ok plugins => rw [← same]; rfl

theorem pluginsOf_eq (plan : PluginPlan) (session : Session) : pluginsOf plan session =
    match requestedPlugins plan session with
    | .error failure => (.error failure, session)
    | .ok request =>
      ((attemptEach pluginWords integrate request.found (request.warned session)).1.map
          fun turns => request.missing.map (failedResult · "plugin not found".toList) ++
            turns.map resultOf,
        (attemptEach pluginWords integrate request.found (request.warned session)).2) := by
  rw [pluginsOf]
  split
  · rename_i wanted
    rw [integratePlugins, bind_apply, resolve_eq plan wanted]
    cases requestedPlugins plan session with
    | error failure => rfl
    | ok request =>
      show (warnMissing request.missing >>= _) session = _
      rw [bind_apply, warnMissing_apply]
      show (integrateEach request.found >>= _) (request.warned session) = _
      rw [bind_apply, integrateEach_eq]
      dsimp only
      obtain ⟨turns, last⟩ := attemptEach pluginWords integrate request.found
        (request.warned session)
      cases turns <;> rfl
  · rename_i unwanted
    have same : (⟨[], []⟩ : Request).warned session = session := by
      show { session with warnings := session.warnings ++ [] } = session
      rw [List.append_nil]
    rw [requestedPlugins, if_neg unwanted]
    dsimp only
    rw [same]
    rfl

/-- What is integrated, as the phase is told. -/
def integrationOf (templates : List Text) (results : List PluginResult)
    (catalog : List Expectation) : Integration where
  success := results.all (·.success)
  summary := summaryOf templates results
  expectations := templates.map templateExpectation ++ results.flatMap pluginExpectations ++ catalog

/-- Templates come first, then plugins, and the catalog last. -/
theorem execute_eq (plan : PluginPlan) : execute plan =
    templatesOf plan >>= fun templates => pluginsOf plan >>= fun results =>
      applyCatalog plan templates >>= fun catalog =>
        pure (integrationOf templates results catalog) := by
  unfold execute templatesOf pluginsOf PluginPlan.wants
  dsimp only
  split
  · refine congrArg _ (funext fun templates => ?_)
    split
    · rfl
    · rw [pure_bind]
      rfl
  · rw [pure_bind, pure_bind]
    split
    · rfl
    · rw [pure_bind]
      rfl

/-! ### Whole integrations -/

/-- The templates that a plan asks for have had their turns. -/
structure Templated (plan : PluginPlan) (before : Session) (copies : List (Turn Text Outcome))
    (templated : Session) : Prop where
  requested : requestedTemplates plan before = .ok (copies.map Turn.item)
  turns : Turns templateWords copyTemplate copies before templated

/-- The known plugins among those that a plan asks for have had their turns, behind the warnings
about the others. -/
structure Plugged (plan : PluginPlan) (templated : Session) (request : Request)
    (turns : List (Turn PluginMetadata PluginResult)) (integrated : Session) : Prop where
  requested : requestedPlugins plan templated = .ok request
  found : request.found = turns.map Turn.item
  turns : Turns pluginWords integrate turns (request.warned templated) integrated

/-- An integration that comes to its end: the turns of the templates and the session behind them,
the plugins that are asked for, their turns and the session behind them, and what must hold of the
catalog. -/
structure Course where
  copies : List (Turn Text Outcome)
  templated : Session
  request : Request
  turns : List (Turn PluginMetadata PluginResult)
  integrated : Session
  catalog : List Expectation

namespace Course

/-- The results of plugins: those that nothing is known of have failed. -/
def results (course : Course) : List PluginResult :=
  course.request.missing.map (failedResult · "plugin not found".toList) ++
    course.turns.map resultOf

/-- What was integrated, as the phase is told. -/
def integration (course : Course) : Integration :=
  integrationOf (copiedAmong course.copies) course.results course.catalog

/-- An integration runs as a plan says. -/
structure Runs (course : Course) (plan : PluginPlan) (before after : Session) : Prop where
  templates : Templated plan before course.copies course.templated
  plugins : Plugged plan course.templated course.request course.turns course.integrated
  catalog : applyCatalog plan (copiedAmong course.copies) course.integrated =
    (.ok course.catalog, after)

end Course

/-- An integration does not come to its end: what is asked for cannot be listed, a template meets a
fault of files or a plugin stops everything when it has its turn, or the catalog cannot be told. -/
inductive IsDisrupted (plan : PluginPlan) (before : Session) : Prop
  | unlisted {failure : Failure} (unlisted : requestedTemplates plan before = .error failure) :
      IsDisrupted plan before
  | template {copies : List (Turn Text Outcome)} {name : Text} {rest : List Text}
      {reached : Session} {fault : FileFault}
      (requested : requestedTemplates plan before = .ok (copies.map Turn.item ++ name :: rest))
      (turns : Turns templateWords copyTemplate copies before reached)
      (faulty : (copyTemplate name reached).1 = .error (.file fault)) : IsDisrupted plan before
  | unresolved {copies : List (Turn Text Outcome)} {templated : Session} {failure : Failure}
      (templates : Templated plan before copies templated)
      (unresolved : requestedPlugins plan templated = .error failure) : IsDisrupted plan before
  | plugin {copies : List (Turn Text Outcome)} {templated : Session} {request : Request}
      {turns : List (Turn PluginMetadata PluginResult)} {plugin : PluginMetadata}
      {rest : List PluginMetadata} {reached : Session}
      (templates : Templated plan before copies templated)
      (requested : requestedPlugins plan templated = .ok request)
      (found : request.found = turns.map Turn.item ++ plugin :: rest)
      (turns : Turns pluginWords integrate turns (request.warned templated) reached)
      (disturbs : Disturbs plugin reached) : IsDisrupted plan before
  | catalog {copies : List (Turn Text Outcome)} {templated : Session} {request : Request}
      {turns : List (Turn PluginMetadata PluginResult)} {integrated : Session} {failure : Failure}
      (templates : Templated plan before copies templated)
      (plugins : Plugged plan templated request turns integrated)
      (failed : (applyCatalog plan (copiedAmong copies) integrated).1 = .error failure) :
      IsDisrupted plan before

section

variable {copies : List (Turn Text Outcome)} {templated integrated : Session} {request : Request}
  {turns : List (Turn PluginMetadata PluginResult)} {course : Course}

theorem Templated.templatesOf (templates : Templated plan before copies templated) :
    templatesOf plan before = (.ok (copiedAmong copies), templated) := by
  rw [templatesOf_eq, templates.requested]
  dsimp only
  rw [templates.turns.attemptEach_eq]
  rfl

theorem Templated.sound (templates : Templated plan before copies templated)
    (sound : before.tree.IsSound) : templated.tree.IsSound :=
  (templates.turns.sound writesWithin_copyTemplate sound).1

theorem Plugged.pluginsOf (plugins : Plugged plan templated request turns integrated) :
    pluginsOf plan templated =
      (.ok (request.missing.map (failedResult · "plugin not found".toList) ++
        turns.map resultOf), integrated) := by
  rw [pluginsOf_eq, plugins.requested]
  dsimp only
  rw [plugins.found, plugins.turns.attemptEach_eq]
  rfl

/-- An integration that runs as a plan says is what comes of the plan. -/
theorem Course.Runs.execute (runs : course.Runs plan before after) :
    execute plan before = (.ok course.integration, after) := by
  rw [execute_eq, bind_apply, runs.templates.templatesOf]
  dsimp only
  rw [bind_apply, runs.plugins.pluginsOf]
  dsimp only
  rw [bind_apply, runs.catalog]
  rfl

/-- Where a plugin fails so that it is not caught, the integration fails like it. -/
theorem Templated.execute_of_failed {plugin : PluginMetadata} {rest : List PluginMetadata}
    {reached : Session} {failure : Failure} (templates : Templated plan before copies templated)
    (requested : requestedPlugins plan templated = .ok request)
    (found : request.found = turns.map Turn.item ++ plugin :: rest)
    (had : Turns pluginWords integrate turns (request.warned templated) reached)
    (failed : (integrate plugin reached).1 = .error failure) (other : failure.isOwn = false) :
    (execute plan before).1 = .error failure := by
  rw [execute_eq, bind_apply, templates.templatesOf]
  dsimp only
  rw [bind_apply, pluginsOf_eq, requested]
  dsimp only
  rw [found, had.attemptEach_of_failed failed other]
  rfl

/-- What disrupts an integration keeps it from coming to its end. -/
theorem IsDisrupted.execute (sound : before.tree.IsSound) (disrupted : IsDisrupted plan before) :
    (execute plan before).1.isOk = false := by
  cases disrupted with
  | unlisted unlisted =>
    rw [execute_eq, bind_apply, templatesOf_eq, unlisted]
    rfl
  | template requested had faulty =>
    rw [execute_eq, bind_apply, templatesOf_eq, requested]
    dsimp only
    rw [had.attemptEach_of_failed faulty rfl]
    rfl
  | unresolved templates unresolved =>
    rw [execute_eq, bind_apply, templates.templatesOf]
    dsimp only
    rw [bind_apply, pluginsOf_eq, unresolved]
    rfl
  | @plugin copies templated request turns plugin rest reached templates requested found had
      disturbs =>
    have warned : (request.warned templated).tree.IsSound := templates.sound sound
    have reached' := (had.sound writesWithin_integrate warned).1
    obtain ⟨failure, failed, other⟩ :=
      exists_of_disrupts ((disrupts_integrate reached').mpr (.inl disturbs))
    rw [templates.execute_of_failed requested found had failed other]
    rfl
  | @catalog copies templated request turns integrated failure templates plugins failed =>
    rw [execute_eq, bind_apply, templates.templatesOf]
    dsimp only
    rw [bind_apply, plugins.pluginsOf]
    dsimp only
    rw [bind_apply]
    cases told : applyCatalog plan (copiedAmong copies) integrated with
    | mk result after =>
      rw [told] at failed
      obtain rfl : result = .error failure := failed
      rfl

end

/-! ### What is accounted for -/

namespace Course

end Course

set_option maxRecDepth 100000

end Plugin

end GuidedMigration
