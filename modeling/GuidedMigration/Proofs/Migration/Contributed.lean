/-
This file follows a session through the fragments that are applied to its template. Each fragment is
merged into the template at once and also kept as a contribution, so that what a run of fragments
does to the files is what merging its contributions one by one does. While no value is known for a
placeholder, writing the configuration out merges the same contributions once more. This leaves the
template as it is, up to what compares equal, and in every byte if leaves are told apart.
-/
import GuidedMigration.Phase.Auth
import GuidedMigration.Proofs.Config.Replayed
import GuidedMigration.Proofs.Migration.Planned

namespace GuidedMigration

open Config

/-! ### Steps -/

/-- What is done to the configuration of a session: a fragment is applied, or what has been
contributed is written. -/
inductive ConfigStep where
  | apply (fragment : Mapping) (label : Text) (target : Option Text)
  | checkpoint

namespace ConfigStep

/-- Does a step. -/
def perform : ConfigStep → Migration Unit
  | .apply fragment label target => Executor.applyConfig fragment label target
  | .checkpoint => Phase.Auth.flush

/-- Does one step after the other. -/
def performAll : List ConfigStep → Migration Unit
  | [] => pure ()
  | step :: rest => do
    step.perform
    performAll rest

/-- Whether a step applies a fragment. -/
def applies : ConfigStep → Bool
  | .apply .. => true
  | .checkpoint => false

/-- Whether a step applies no fragment to another document than the template. -/
def isOnTemplate (settings : Settings) : ConfigStep → Bool
  | .apply _ _ target => target.all fun name => name.isEmpty || name = settings.template
  | .checkpoint => true

/-- What a step contributes. -/
def contribution? (session : Session) : ConfigStep → Option Contribution
  | .apply fragment label _ =>
    some (Executor.contributionOf session.values label (session.setup.openFragment fragment))
  | .checkpoint => none

/-- What steps contribute, in order. -/
def contributions (session : Session) (steps : List ConfigStep) : Contributions :=
  steps.filterMap (contribution? session)

end ConfigStep

/-- What a session keeps while steps are done, and what has come to its contributions. -/
structure Session.Contributes (before : Session) (new : Contributions) (after : Session) :
    Prop where
  setup : after.setup = before.setup
  settings : after.settings = before.settings
  values : after.values = before.values
  contributions : after.contributions = before.contributions ++ new

namespace Session.Contributes

variable {before between after : Session} {left right : Contributions}

theorem trans (first : before.Contributes left between) (second : between.Contributes right after) :
    before.Contributes (left ++ right) after where
  setup := second.setup.trans first.setup
  settings := second.settings.trans first.settings
  values := second.values.trans first.values
  contributions := by rw [second.contributions, first.contributions, List.append_assoc]

theorem with_tree (contributes : before.Contributes left after) (tree : Tree) :
    before.Contributes left { after with tree := tree } :=
  ⟨contributes.setup, contributes.settings, contributes.values, contributes.contributions⟩

theorem templatePath (contributes : before.Contributes left after) :
    after.templatePath = before.templatePath := by
  have same := congrArg (Setup.documentPath · none) contributes.setup
  exact same

theorem localPath (contributes : before.Contributes left after) :
    after.localPath = before.localPath := by
  rw [Session.localPath, Session.localPath, contributes.settings,
    show after.destination = before.destination from congrArg Setup.destination contributes.setup]

theorem contribution? (contributes : before.Contributes left after) (step : ConfigStep) :
    step.contribution? after = step.contribution? before := by
  cases step with
  | checkpoint => rfl
  | apply fragment label target =>
    rw [ConfigStep.contribution?, ConfigStep.contribution?, contributes.values, contributes.setup]

theorem contributionsOf (contributes : before.Contributes left after) (steps : List ConfigStep) :
    ConfigStep.contributions after steps = ConfigStep.contributions before steps := by
  rw [ConfigStep.contributions, ConfigStep.contributions, funext contributes.contribution?]

end Session.Contributes

theorem Executor.fragment_contributionOf (values : Placeholder.Values) (label : Text)
    (fragment : Mapping) :
    (Executor.contributionOf values label fragment).fragment = fragment := rfl

namespace ConfigStep

variable {session after : Session} {fragment : Mapping} {label : Text} {target : Option Text}
  {steps : List ConfigStep}

/-! ### One fragment -/

/-- A fragment that is applied to the template is merged into it and contributed. -/
theorem perform_apply (onTemplate : isOnTemplate session.settings (.apply fragment label target)) :
    perform (.apply fragment label target) session =
      Executor.merge session.templatePath "config-merge".toList label
        (session.setup.openFragment fragment)
        { session with contributions := session.contributions ++
          [Executor.contributionOf session.values label
            (session.setup.openFragment fragment)] } := by
  have toTemplate : (target.filter fun name =>
      !name.isEmpty && name != session.settings.template) = none := by
    cases target with
    | none => rfl
    | some name =>
      simp only [isOnTemplate, Option.all_some, Bool.or_eq_true, decide_eq_true_eq] at onTemplate
      rw [Option.filter_some, if_neg]
      rcases onTemplate with empty | same
      · simp [empty]
      · simp [same]
  rw [perform, Executor.applyConfig, Migration.bind_ask_apply]
  dsimp only [id_eq]
  rw [toTemplate]
  rfl

theorem exists_of_perform_apply
    (onTemplate : isOnTemplate session.settings (.apply fragment label target))
    (done : perform (.apply fragment label target) session = (.ok (), after)) :
    ∃ changed, mergeInto session.templatePath (session.setup.openFragment fragment) session.tree =
        (.ok changed, after.tree) ∧
      session.Contributes [Executor.contributionOf session.values label
        (session.setup.openFragment fragment)] after := by
  rw [perform_apply onTemplate, Executor.merge, bind_apply, Migration.onFiles] at done
  dsimp only at done
  revert done
  cases mergeInto session.templatePath (session.setup.openFragment fragment) session.tree with
  | mk result tree =>
    cases result with
    | error failure =>
      intro done
      cases (Prod.mk.inj done).1
    | ok changed =>
      intro done
      rw [← (Prod.mk.inj done).2]
      exact ⟨changed, rfl, rfl, rfl, rfl, rfl⟩

theorem exists_perform_apply
    (onTemplate : isOnTemplate session.settings (.apply fragment label target)) {changed : Bool}
    {tree : Tree} (merged : mergeInto session.templatePath (session.setup.openFragment fragment)
      session.tree = (.ok changed, tree)) :
    ∃ after, perform (.apply fragment label target) session = (.ok (), after) ∧
      after.tree = tree ∧
      session.Contributes [Executor.contributionOf session.values label
        (session.setup.openFragment fragment)] after := by
  rw [perform_apply onTemplate, Executor.merge, bind_apply, Migration.onFiles]
  dsimp only
  rw [merged]
  exact ⟨_, rfl, rfl, rfl, rfl, rfl, rfl⟩

/-! ### Writing -/

/-- A checkpoint writes the contributions and changes nothing in a session but the tree. -/
theorem perform_checkpoint (session : Session) :
    perform .checkpoint session =
      match session.contributions.flush session.templatePath session.localPath session.tree with
      | (.ok _, tree) => (.ok (), { session with tree := tree })
      | (.error failure, tree) => (.error failure, { session with tree := tree }) := by
  rw [perform, Phase.Auth.flush, Migration.bind_ask_apply, bind_apply, Migration.onFiles]
  dsimp only [id_eq]
  cases session.contributions.flush session.templatePath session.localPath session.tree with
  | mk result tree => cases result <;> rfl

/-! ### Runs -/

theorem exists_of_performAll_cons {step : ConfigStep}
    (done : performAll (step :: steps) session = (.ok (), after)) :
    ∃ between, step.perform session = (.ok (), between) ∧
      performAll steps between = (.ok (), after) := by
  rw [performAll, bind_apply] at done
  revert done
  cases step.perform session with
  | mk result between =>
    cases result with
    | error failure => exact fun done => nomatch (Prod.mk.inj done).1
    | ok answer => exact fun done => ⟨between, rfl, done⟩

/-- Fragments that are applied one after the other are merged into the template as contributions
are. -/
theorem mergeEach_of_performAll (applied : ∀ step ∈ steps, step.applies = true)
    (onTemplate : ∀ step ∈ steps, step.isOnTemplate session.settings = true)
    (done : performAll steps session = (.ok (), after)) :
    (contributions session steps).mergeEach session.templatePath session.tree =
        (.ok (), after.tree) ∧
      session.Contributes (contributions session steps) after := by
  induction steps generalizing session with
  | nil =>
    obtain rfl : session = after := (Prod.mk.inj done).2
    exact ⟨rfl, rfl, rfl, rfl, (List.append_nil _).symm⟩
  | cons step rest inductionHypothesis =>
    obtain ⟨between, first, remaining⟩ := exists_of_performAll_cons done
    cases step with
    | checkpoint => simp [applies] at applied
    | apply fragment label target =>
      obtain ⟨changed, merged, contributes⟩ :=
        exists_of_perform_apply (onTemplate _ List.mem_cons_self) first
      obtain ⟨continued, contributesRest⟩ := inductionHypothesis
        (fun other member => applied other (List.mem_cons_of_mem _ member))
        (fun other member => by
          rw [contributes.settings]
          exact onTemplate other (List.mem_cons_of_mem _ member)) remaining
      rw [contributes.contributionsOf] at continued contributesRest
      refine ⟨?_, contributes.trans contributesRest⟩
      rw [contributes.templatePath] at continued
      show (Contributions.mergeEach session.templatePath (_ :: contributions session rest))
        session.tree = _
      rw [Contributions.mergeEach, bind_apply, Executor.fragment_contributionOf, merged]
      exact continued

theorem contributions_ne_nil (applied : ∀ step ∈ steps, step.applies = true)
    (nonempty : steps ≠ []) (session : Session) : contributions session steps ≠ [] := by
  cases steps with
  | nil => exact absurd rfl nonempty
  | cons step rest =>
    cases step with
    | checkpoint => simp [applies] at applied
    | apply fragment label target => simp [contributions, contribution?]

/-! ### Replaying -/

/-- Replaying contributions changes nothing. Fragments that are merged in again give the document
back entry by entry, and so does what they come to together. In a session, writing the configuration
out after fragments were applied to the template succeeds and leaves a template that compares equal
to the one that was there; if leaves that compare equal are equal, no file changes. What the
fragments come to together changes no file either. -/
theorem replay_changes_nothing {documents : Mapping → Prop} {document : Mapping}
    (applied : ∀ step ∈ steps, step.applies = true)
    (onTemplate : ∀ step ∈ steps, step.isOnTemplate session.settings = true)
    (fresh : session.contributions = [])
    (done : performAll steps session = (.ok (), after))
    (single : after.contributions.isDual = false)
    (loaded : (load session.templatePath session.tree).1 = .ok document)
    (proper : after.contributions.AreProper)
    (readBack : ReadBack documents after.contributions.fragments) (among : documents document) :
    (∀ (fragments : List Mapping) (base : Mapping),
      (∀ fragment ∈ fragments, Mapping.isKeyed fragment = true) → Mapping.isKeyed base = true →
      let merged := fragments.foldl Mapping.merge base
      fragments.foldl Mapping.merge merged = merged ∧
        merged.merge (fragments.foldl Mapping.merge []) = merged) ∧
    (∃ again, perform .checkpoint after = (.ok (), again) ∧
      (∃ held held', (load after.templatePath after.tree).1 = .ok held ∧
        (load after.templatePath again.tree).1 = .ok held' ∧
        Value.agrees (.map held') (.map held) = true) ∧
      ∀ leaves, Value.AreToldApart leaves → Mapping.MadeOf (fun _ => True) leaves document →
        after.contributions.AreMadeOf leaves → again = after) ∧
    (steps ≠ [] → mergeInto after.templatePath after.contributions.templateFragment after.tree =
      (.ok false, after.tree)) := by
  obtain ⟨merged, contributes⟩ := mergeEach_of_performAll applied onTemplate done
  have same : after.contributions = contributions session steps := by
    rw [contributes.contributions, fresh, List.nil_append]
  rw [← same, ← contributes.templatePath] at merged
  rw [← contributes.templatePath] at loaded
  refine ⟨fun fragments base keyed baseKeyed => ⟨Mapping.foldl_merge_idem keyed baseKeyed,
    Mapping.foldl_merge_absorbs keyed baseKeyed⟩, ?_, fun nonempty => ?_⟩
  · obtain ⟨tree, redone, ⟨held, held', before, now, agreeing⟩, toldApart⟩ :=
      Contributions.mergeEach_again readBack proper (load_eq loaded) among merged
    refine ⟨{ after with tree := tree }, ?_, ⟨held, held', ?_, ?_, agreeing⟩,
      fun leaves apart documentParts parts => ?_⟩
    · rw [perform_checkpoint, Contributions.flush_of_single single, redone]
    · rw [before]
    · rw [now]
    · rw [toldApart leaves apart documentParts parts]
  · exact Contributions.mergeInto_templateFragment readBack proper (load_eq loaded) among
      (same ▸ contributions_ne_nil applied nonempty session) merged

/-! ### Two small templates -/

/-- A session with a template, some known values and nothing else. -/
def templateSession (template : Text) (values : Placeholder.Values) : Session :=
  .start { source := "src".toList, destination := "dst".toList } values
    ⟨[(["", "dst"].map String.toList, .directory),
      (["", "dst", "app-config.yaml"].map String.toList, .file (Utf8.encode template))]⟩

/-- Where its template is. -/
def templatePlace : Path.Place := ["", "dst", "app-config.yaml"].map String.toList

/-- A fragment with one text. -/
def textFragment (key word : String) : Mapping :=
  [(.text key.toList, .scalar (.text word.toList))]

theorem madeOf_textFragment {leaves : Value → Prop} {word : String} (key : String)
    (leaf : leaves (.text word.toList)) :
    Mapping.MadeOf (fun _ => True) leaves (textFragment key word) :=
  Mapping.madeOf_cons.mpr ⟨trivial, by simpa [Value.MadeOf] using leaf, trivial⟩

set_option maxRecDepth 100000

/-- A session with a template. -/
def contradictedSession : Session := templateSession "a: b\n".toList []

/-- Two fragments that contradict each other and the template. -/
def contradictingSteps : List ConfigStep :=
  [apply (textFragment "a" "c") "x".toList none, apply (textFragment "a" "d") "x".toList none]

/-- The session after they were applied. -/
def contradictions : Session := (performAll contradictingSteps contradictedSession).2

/-- Writing the configuration out changes nothing, although the first fragment was overruled. -/
theorem replay_of_contradiction :
    perform .checkpoint contradictions = (.ok (), contradictions) := by
  have done : performAll contradictingSteps contradictedSession = (.ok (), contradictions) :=
    eq_mk_of_toOption (by decide +kernel)
  have loaded : (load contradictedSession.templatePath contradictedSession.tree).1 =
      .ok (textFragment "a" "b") := eq_ok_of_toOption (by decide +kernel)
  have fragments : contradictions.contributions.fragments =
      [textFragment "a" "c", textFragment "a" "d"] := by decide +kernel
  have proper : contradictions.contributions.AreProper := by
    rw [Contributions.AreProper, fragments]
    decide
  have readBack : ReadBack (· ∈ [textFragment "a" "b", textFragment "a" "c", textFragment "a" "d"])
      contradictions.contributions.fragments := by
    rw [fragments]
    exact readBack_of_list (by decide +kernel) (by decide +kernel) (by decide)
  have apart : Value.AreToldApart
      (· ∈ ["b", "c", "d"].map fun word => Value.text word.toList) := by
    have each : ∀ left ∈ ["b", "c", "d"].map fun word => Value.text word.toList,
        ∀ right ∈ ["b", "c", "d"].map fun word => Value.text word.toList,
        Value.agrees left right = true → left = right := by decide
    exact fun left right member member' => each left member right member'
  obtain ⟨-, ⟨again, written, -, same⟩, -⟩ := replay_changes_nothing (by decide) (by decide) rfl
    done (by decide +kernel) loaded proper readBack (by decide)
  have unchanged : again = contradictions := by
    refine same _ apart (madeOf_textFragment "a" (by decide)) ?_
    rw [Contributions.AreMadeOf, fragments]
    simp only [List.mem_cons, List.not_mem_nil, or_false, forall_eq_or_imp, forall_eq]
    exact ⟨madeOf_textFragment "a" (by decide), madeOf_textFragment "a" (by decide)⟩
  rw [written, unchanged]

/-- A leaf that compares equal to another one is not written when it is applied, but when the
template is written out. -/
theorem checkpoint_writes_equal_leaf :
    let session := templateSession "a: true\nb: 1\n".toList []
    let steps := [apply [(.text "a".toList, .int 1), (.text "b".toList, .int 1)] "x".toList none,
      apply [(.text "b".toList, .int 2)] "x".toList none]
    let after := (performAll steps session).2
    (performAll steps session).1.toOption = some () ∧ after.contributions.isDual = false ∧
      (perform .checkpoint after).1.toOption = some () ∧
      after.tree.fileAt? templatePlace = some (Utf8.encode "a: true\nb: 2\n".toList) ∧
      (perform .checkpoint after).2.tree.fileAt? templatePlace =
        some (Utf8.encode "a: 1\nb: 2\n".toList) := by
  decide +kernel

end ConfigStep

end GuidedMigration
