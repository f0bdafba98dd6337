/-
This file follows what the first phase inserts to the end of the phase. Its guide comes after the
base configuration and before the core packages. So what the guide puts into a file may be lost in
two ways: the copy of a core package comes over the file, or a later edit of the guide comes between
the rows of the fragment. Everything else stands in its file when the phase is done.
-/
import GuidedMigration.Proofs.Migration.Accounted
import GuidedMigration.Proofs.Migration.Containment
import GuidedMigration.Proofs.Migration.EditedFile
import GuidedMigration.Proofs.Phase.Success

namespace GuidedMigration

open GuidedMigration.Tree Files

/-! ### What is removed -/

theorem Tree.find?_cut {tree : Tree} {place other : Path.Place}
    (outside : ¬ IsAtOrBelow place other) : (tree.cut place).find? other = tree.find? other := by
  have kept (entries : List (Path.Place × Node)) :
      (entries.filter fun entry => !place.isPrefixOf entry.1).lookup other =
        entries.lookup other := by
    induction entries with
    | nil => rfl
    | cons entry rest inductionHypothesis =>
      obtain ⟨here, node⟩ := entry
      by_cases same : other = here
      · subst same
        have apart : place.isPrefixOf other = false :=
          eq_false_of_ne_true fun below => outside (List.isPrefixOf_iff_prefix.mp below)
        simp [apart]
      · have apart : (other == here) = false := beq_eq_false_iff_ne.mpr same
        rw [List.lookup_cons, apart, ← inductionHypothesis]
        cases below : place.isPrefixOf here <;> simp [below, List.lookup_cons, apart]
  have found : (tree.cut place).entries.lookup other = tree.entries.lookup other :=
    kept tree.entries
  rw [find?, find?, found]

theorem Files.fileAt?_remove {tree : Tree} {path : Path} {place : Path.Place}
    (outside : ¬ IsAtOrBelow (spelled path) place) :
    (remove path tree).2.fileAt? place = tree.fileAt? place := by
  rw [remove]
  split
  · rfl
  · rfl
  · rename_i found
    rw [(standing_of_look found).1]
    exact fileAt?_congr (find?_cut outside)

/-! ### Actions that write within -/

namespace Migration.WritesWithin

variable {First Answer : Type} {allowed : Path.Place → Prop}

theorem guarded {what : Text} {action : Files Outcome}
    (evolves : ∀ tree, tree.IsSound → Evolves allowed tree (action tree).2) :
    WritesWithin allowed (Migration.guarded what action) := by
  intro session sound
  have stays := recorded evolves session sound
  rw [Migration.guarded]
  revert stays
  generalize Migration.recorded action session = outcome
  obtain ⟨result, after⟩ := outcome
  cases result with
  | ok answer => exact id
  | error failure =>
    dsimp only
    split <;> exact fun stays => ⟨stays.setup, stays.evolves⟩

/-- Behind an action that does not write a file, the file is as what comes then leaves it. -/
theorem fileAt?_bind {action : Migration First} {next : First → Migration Answer}
    {session : Session} {place : Path.Place} (writes : WritesWithin allowed action)
    (sound : session.tree.IsSound) (outside : ¬ allowed place)
    (further : ∀ answer between, between.tree.IsSound →
      (next answer between).2.tree.fileAt? place = between.tree.fileAt? place) :
    ((action >>= next) session).2.tree.fileAt? place = session.tree.fileAt? place := by
  have stays := writes session sound
  rw [bind_apply]
  cases outcome : action session with
  | mk result between =>
    rw [outcome] at stays
    rw [← stays.evolves.fileAt?_eq outside]
    cases result with
    | ok answer => exact further answer between (stays.evolves.sound sound)
    | error failure => rfl

end Migration.WritesWithin

namespace Phase.Scaffold

open Migration

variable {allowed : Path.Place → Prop} {session : Session}

/-! ### Before the guide -/

/-- What comes before the guide to changes of the user interface. -/
def prepare : Migration Unit := do
  checkSources
  loadReadme
  applyBaseConfiguration
  updateManifests

/-- The session that the guide to changes of the user interface begins with. -/
def opened (session : Session) : Session :=
  (prepare { session with phase := Phase.scaffold.number }).2

theorem writesWithin_firstMissing (paths : List Path) :
    WritesWithin allowed (onFiles (firstMissing paths)) := by
  refine .onFiles ?_
  induction paths with
  | nil => exact .pure none
  | cons path rest inductionHypothesis =>
    refine (Files.behaves_look path _).bind fun there => ?_
    split
    · exact inductionHypothesis
    · exact .pure (some path)

theorem writesWithin_checkSources : WritesWithin allowed checkSources := by
  refine (WritesWithin.ask id).bind fun session => ?_
  refine (writesWithin_firstMissing _).bind fun missing => ?_
  split
  · exact .ofSame fun _ => ⟨rfl, rfl⟩
  · refine (WritesWithin.onFiles (Files.behaves_look session.destination _)).bind fun there => ?_
    split
    · exact .ofSame fun _ => ⟨rfl, rfl⟩
    · exact .pure ()

theorem writesWithin_loadReadme : WritesWithin allowed loadReadme :=
  (WritesWithin.ask _).bind fun _ => WritesWithin.bind (.ofSame fun _ => ⟨rfl, rfl⟩) fun _ =>
    .pure ()

theorem writesWithin_copyBaseFiles (source destination : Path) (names : List Text) :
    WritesWithin (fun _ => True) (copyBaseFiles source destination names) := by
  induction names with
  | nil => exact .pure ()
  | cons name rest inductionHypothesis =>
    refine (WritesWithin.exists? _).bind fun there => ?_
    split
    · refine WritesWithin.bind (.guarded fun tree sound => ?_) fun _ => inductionHypothesis
      exact (Target.behaves_copyPath source destination _ name name tree sound).evolves.mono
        fun _ _ => trivial
    · exact inductionHypothesis

theorem writesWithin_applyBaseConfiguration :
    WritesWithin (fun _ => True) applyBaseConfiguration := by
  refine (WritesWithin.ask id).bind fun session => ?_
  refine (writesWithin_copyBaseFiles _ _ _).bind fun _ => ?_
  refine (WritesWithin.exists? _).bind fun there => ?_
  split
  · exact .guarded fun tree _ => Executor.evolves_delete trivial
  · exact .pure ()

theorem writesWithin_updateManifests : WritesWithin (fun _ => True) updateManifests := by
  refine (WritesWithin.ask id).bind fun session => ?_
  dsimp only
  split
  · refine (WritesWithin.exists? _).bind fun there => ?_
    split
    · exact .guarded fun tree _ => @Edit.evolves_apply _ (.depend _ _) trivial tree
    · exact .pure ()
  · exact .pure ()

theorem writesWithin_prepare : WritesWithin (fun _ => True) prepare :=
  writesWithin_checkSources.bind fun _ => writesWithin_loadReadme.bind fun _ =>
    writesWithin_applyBaseConfiguration.bind fun _ => writesWithin_updateManifests

theorem stays_opened (sound : session.tree.IsSound) :
    session.Stays (fun _ => True) (opened session) := by
  have stays := writesWithin_prepare { session with phase := Phase.scaffold.number } sound
  exact ⟨stays.setup, stays.evolves⟩

/-! ### Behind the guide -/

/-- The places that are taken by the core packages: at or below what is copied from them, and the
description of the backend's container, which is removed. -/
def IsCore (destination : Path) (place : Path.Place) : Prop :=
  (∃ part ∈ appFiles,
    IsAtOrBelow (spelled ((destination.child appDirectory).child part.1)) place) ∨
  (∃ part ∈ backendFiles,
    IsAtOrBelow (spelled ((destination.child backendDirectory).child part.1)) place) ∨
  IsAtOrBelow (spelled ((destination.child backendDirectory).child "Dockerfile".toList)) place

instance (destination : Path) (place : Path.Place) : Decidable (IsCore destination place) :=
  inferInstanceAs (Decidable (_ ∨ _ ∨ _))

theorem writesWithin_copyParts (source destination : Path) (settings : Settings)
    {parts : List (Text × Bool)} (within : ∀ part ∈ parts, ∀ place,
      IsAtOrBelow (spelled (destination.child part.1)) place → allowed place) :
    WritesWithin allowed (copyParts source destination settings parts) := by
  induction parts with
  | nil => exact .pure ()
  | cons part rest inductionHypothesis =>
    refine WritesWithin.bind (.recorded fun tree sound => ?_) fun _ =>
      inductionHypothesis fun other member => within other (List.mem_cons_of_mem _ member)
    exact (Target.behaves_copyPath_at source destination _ part.1 part.1 tree sound).evolves.mono
      (within part List.mem_cons_self)

/-- The core packages leave the files of others as they are. -/
theorem fileAt?_configureCorePackages {place : Path.Place} (sound : session.tree.IsSound)
    (other : ¬ IsCore session.destination place) :
    (configureCorePackages session).2.tree.fileAt? place = session.tree.fileAt? place := by
  have app := @writesWithin_copyParts (IsCore session.destination) (session.source.child coreApp)
    (session.destination.child appDirectory) session.settings appFiles
    fun part member place below => .inl ⟨part, member, below⟩
  have backend := @writesWithin_copyParts (IsCore session.destination)
    (session.source.child coreBackend) (session.destination.child backendDirectory)
    session.settings backendFiles fun part member place below => .inr (.inl ⟨part, member, below⟩)
  rw [configureCorePackages, bind_ask_apply]
  dsimp only [id_eq]
  refine app.fileAt?_bind sound other fun _ between sound => ?_
  refine backend.fileAt?_bind sound other fun _ between _ => ?_
  rw [bind_apply, onFiles]
  have removed := @fileAt?_remove between.tree _ place fun below => other (.inr (.inr below))
  revert removed
  generalize Files.remove _ between.tree = outcome
  obtain ⟨result, tree⟩ := outcome
  cases result <;> exact id

/-! ### The phase -/

theorem exists_of_body {start last : Progress} (ran : body start = (.ok (), last)) :
    ∃ prepared changed, prepare start.session = (.ok (), prepared) ∧
      applyInterfaceChanges prepared = (.ok (), changed) ∧
      configureCorePackages changed = (.ok (), last.session) := by
  rw [body] at ran
  obtain ⟨_, _, checked, ran⟩ := PhasePart.exists_of_bind ran
  obtain ⟨_, _, loaded, ran⟩ := PhasePart.exists_of_bind ran
  obtain ⟨_, _, based, ran⟩ := PhasePart.exists_of_bind ran
  obtain ⟨_, prepared, updated, ran⟩ := PhasePart.exists_of_bind ran
  obtain ⟨_, changed, applied, ran⟩ := PhasePart.exists_of_bind ran
  obtain ⟨_, configured, copied, ran⟩ := PhasePart.exists_of_bind ran
  obtain ⟨findings, -, rfl⟩ := PhasePart.findings_of_conclude (PhasePart.of_note ran)
  have copied := PhasePart.session_of_step copied
  refine ⟨prepared.session, changed.session, ?_, PhasePart.session_of_step applied, copied⟩
  rw [prepare, bind_apply, PhasePart.session_of_step checked]
  dsimp only
  rw [bind_apply, PhasePart.session_of_step loaded]
  dsimp only
  rw [bind_apply, PhasePart.session_of_step based]
  exact PhasePart.session_of_step updated

/-- A guide that can be read is run. -/
theorem follows_applyInterfaceChanges {changed : Session} {document : Document}
    (read : readGuide session.tree session.settings (session.guides.child interfaceGuide) =
      .ok document)
    (adds : addsOnly document = true)
    (ran : applyInterfaceChanges session = (.ok (), changed)) :
    session.Follows
      ((setupFor false session).guideEdits [] (session.guides.child interfaceGuide) document)
      changed := by
  have there : session.tree.exists? (session.guides.child interfaceGuide) = .ok true :=
    exists?_of_file (standing_of_readGuide read)
  rw [applyInterfaceChanges, bind_ask_apply, bind_apply, onFiles, Files.exists?,
    Files.ask, there] at ran
  dsimp only at ran
  rw [if_pos rfl, bind_apply] at ran
  cases outcome : runGuide (session.guides.child interfaceGuide) false [] session with
  | mk result after =>
    rw [outcome] at ran
    cases result with
    | error failure => cases congrArg Prod.fst ran
    | ok found =>
      obtain rfl : after = changed := congrArg Prod.snd ran
      have answered : (runGuide (session.guides.child interfaceGuide) false [] session).1 =
          .ok found := by rw [outcome]
      obtain ⟨same, -⟩ := exists_of_runGuide answered
      obtain rfl : document = found := Except.ok.inj (read.symm.trans same)
      have follows := follows_runGuide answered adds
      rwa [outcome] at follows

/-- An insertion that the guide to changes of the user interface asks for, behind other edits and
before others, in a guide that neither copies nor deletes. It is applied when it has its turn. -/
structure Applies (session : Session) (document : Document) (before : List Edit) (path : Path)
    (fragment : Text) (primitive : Code.Primitive) (behind : List Edit) : Prop where
  read : readGuide session.tree session.settings (session.guides.child interfaceGuide) =
    .ok document
  adds : addsOnly document = true
  asked : (setupFor false session).guideEdits [] (session.guides.child interfaceGuide) document =
    before ++ .insert path fragment primitive :: behind
  applied : ∃ outcome,
    (Target.insert path fragment primitive (Edit.applyAll before session.tree)).1 = .ok outcome ∧
      outcome.status = .applied

/-- What has been inserted stands in its file when the guide is done, unless it has been cut. -/
theorem Applies.holdsAt {document : Document} {before behind : List Edit} {path : Path}
    {fragment : Text} {primitive : Code.Primitive}
    (applies : Applies session document before path fragment primitive behind)
    (whole : Edit.AllSpare fragment (spelled path) behind
      (Edit.applyAll (before ++ [.insert path fragment primitive]) session.tree)) :
    (Edit.applyAll
      ((setupFor false session).guideEdits [] (session.guides.child interfaceGuide) document)
      session.tree).HoldsAt (spelled path) fragment := by
  obtain ⟨outcome, inserted, applied⟩ := applies.applied
  have holds := Edit.holdsAt_of_insert inserted applied
  rw [applies.asked, ← List.singleton_append, ← List.append_assoc, Edit.applyAll_append]
  refine Edit.holdsAt_applyAll ?_ whole
  rw [Edit.applyAll_append]
  exact holds

variable {orchestrator : Option Orchestrator} {report : PhaseReport} {after : Session}

/-- When the first phase succeeds, each fragment that it has inserted is in its file, if the file is
none of those that the core packages take and no later insertion cuts the fragment. -/
theorem keeps_applied_insertion {document : Document} {before behind : List Edit} {path : Path}
    {fragment : Text} {primitive : Code.Primitive}
    (ran : Phase.scaffold.run orchestrator session = (.ok report, after))
    (success : report.success = true) (sound : session.tree.IsSound)
    (applies : Applies (opened session) document before path fragment primitive behind)
    (other : ¬ IsCore session.destination (spelled path))
    (whole : Edit.AllSpare fragment (spelled path) behind
      (Edit.applyAll (before ++ [.insert path fragment primitive]) (opened session).tree)) :
    ∃ bytes text, after.tree.fileAt? (spelled path) = some bytes ∧ textOf bytes = .ok text ∧
      Code.contains text fragment = true := by
  obtain ⟨start, last, errors, begun, came, -, -, rfl⟩ := Phase.exists_of_begun ran success
  obtain ⟨prepared, changed, prepares, runs, configures⟩ := exists_of_body came
  obtain rfl : prepared = opened session := by rw [opened, ← begun, prepares]
  have stays := stays_opened sound
  have follows := follows_applyInterfaceChanges applies.read applies.adds runs
  have holds := applies.holdsAt whole
  rw [← follows.tree] at holds
  have destination : changed.destination = session.destination :=
    congrArg Setup.destination (follows.setup.trans stays.setup)
  have sound : changed.tree.IsSound := by
    rw [follows.tree]
    exact (@Edit.evolves_applyAll (fun _ => True) _ (fun _ _ => trivial) _).sound
      (stays.evolves.sound sound)
  have kept := fileAt?_configureCorePackages sound (destination ▸ other)
  rw [configures] at kept
  obtain ⟨bytes, text, held, decoded, stands⟩ := holds
  exact ⟨bytes, text, kept.trans held, decoded, stands.contains⟩

/-! ### A guide that is kept and one that is not -/

set_option maxRecDepth 100000

/-- Where the components of an application are. -/
def componentsIn (app : List String) : List String := app ++ ["src", "components"]

/-- A session over a source with a guide to changes of the user interface and a scaffold, and one
more file in each. -/
def interfaceSession (guide : String) (core scaffold : List String × String) : Session :=
  let source := ["src", "packages-core", "app"]
  let destination := ["dst", "packages", "app"]
  let directories := [["src"], ["src", "docs"], ["src", "configuration"], ["src", "packages-core"],
    ["src", "packages-core", "backend"], source, source ++ ["src"], source ++ ["src", "assets"],
    componentsIn source, componentsIn source ++ ["theme"], componentsIn source ++ ["Root"],
    ["dst"], ["dst", "packages"], ["dst", "packages", "backend"],
    ["dst", "packages", "backend", "src"], destination, destination ++ ["src"],
    componentsIn destination, componentsIn destination ++ ["Root"]]
  let files := [(["src", "docs", "Readme.md"], ""), (["src", "docs", "UI-Changes.md"], guide),
    (["dst", "app-config.yaml"], "a: b\n"),
    (["dst", "packages", "backend", "src", "index.ts"], ""), core, scaffold]
  .start { source := "src".toList, destination := "dst".toList } []
    ⟨directories.map (fun parts => ([] :: parts.map String.toList, .directory)) ++
      files.map fun (parts, text) =>
        ([] :: parts.map String.toList, .file (Utf8.encode text.toList))⟩

/-- Whether a session comes to an insertion, as far as this can be evaluated. -/
def reaches (session : Session) (before : List Edit) (path : Path) (fragment : Text)
    (primitive : Code.Primitive) (behind : List Edit) : Bool :=
  let guide := session.guides.child interfaceGuide
  ((readGuide session.tree session.settings guide).toOption.any fun document =>
    addsOnly document && (setupFor false session).guideEdits [] guide document ==
      before ++ .insert path fragment primitive :: behind) &&
  (Target.insert path fragment primitive (Edit.applyAll before session.tree)).1.toOption.any
    (·.status == .applied)

theorem exists_applies {before behind : List Edit} {path : Path} {fragment : Text}
    {primitive : Code.Primitive}
    (reached : reaches session before path fragment primitive behind = true) :
    ∃ document, Applies session document before path fragment primitive behind := by
  obtain ⟨asks, inserts⟩ := Bool.and_eq_true_iff.mp reached
  obtain ⟨document, read, asked⟩ := exists_ok_of_any asks
  obtain ⟨outcome, inserted, applied⟩ := exists_ok_of_any inserts
  rw [Bool.and_eq_true, beq_iff_eq] at asked
  exact ⟨document, read, asked.1, asked.2, outcome, inserted, eq_of_beq applied⟩

/-- A guide that adds a route and an import to the source of the application. -/
def importingSession : Session :=
  interfaceSession
    "```tsx\n<Route path=\"/b\" />\n```\n1. Add the import: `import x from 'x';`\n"
    (componentsIn ["src", "packages-core", "app"] ++ ["Root", "Root.tsx"], "b();\n")
    (["dst", "packages", "app", "src", "App.tsx"], "import y from 'y';\n")

/-- The source of the application. -/
def applicationPath : Path := .ofText "dst/packages/app/src/App.tsx".toList

/-- The route that the guide adds. -/
def routeFragment : Text := "<Route path=\"/b\" />".toList

/-- The import that the guide adds. -/
def importFragment : Text := "import x from 'x';".toList

theorem exists_applies_importingSession :
    ∃ document, Applies (opened importingSession) document [] applicationPath routeFragment .route
      [.insert applicationPath importFragment .importStatement] :=
  exists_applies (by decide +kernel)

/-- The route is kept beside the import. -/
theorem keeps_route_beside_import :
    ∃ report after, Phase.scaffold.run none importingSession = (.ok report, after) ∧
      report.success = true ∧ ∃ bytes text,
        after.tree.fileAt? (spelled applicationPath) = some bytes ∧ textOf bytes = .ok text ∧
          Code.contains text routeFragment = true := by
  obtain ⟨report, ran, success⟩ := exists_of_any (Phase.scaffold.run none importingSession)
    (·.success) (by decide +kernel)
  obtain ⟨document, applies⟩ := exists_applies_importingSession
  obtain ⟨outcome, inserted, applied⟩ := applies.applied
  refine ⟨report, _, ran, success, keeps_applied_insertion ran success
    (isSound_of_entries (by decide) (by decide)) applies (by decide) ?_⟩
  exact Edit.allSpare_of_single (by decide) (Edit.holdsAt_of_insert inserted applied)
    (by decide)

/-- A guide that adds an import to a component of the core. -/
def overwrittenSession : Session :=
  interfaceSession
    ("1. Add the import to `packages/app/src/components/Root/Root.tsx`: " ++
      "`import x from 'x';`\n")
    (componentsIn ["src", "packages-core", "app"] ++ ["Root", "Root.tsx"], "b();\n")
    (componentsIn ["dst", "packages", "app"] ++ ["Root", "Root.tsx"], "a();\n")

/-- The component that both the guide and the core are about. -/
def componentPath : Path := .ofText "dst/packages/app/src/components/Root/Root.tsx".toList

/-- The import is added, then the component of the core is copied over it, and the phase
succeeds. -/
theorem core_overwrites_import :
    ∃ report after, Phase.scaffold.run none overwrittenSession = (.ok report, after) ∧
      report.success = true ∧
      (∃ document, Applies (opened overwrittenSession) document [] componentPath importFragment
        .importStatement []) ∧
      ∃ bytes text, after.tree.fileAt? (spelled componentPath) = some bytes ∧
        textOf bytes = .ok text ∧ Code.contains text importFragment = false := by
  obtain ⟨succeeds, left⟩ :
      (Phase.scaffold.run none overwrittenSession).1.toOption.any (·.success) = true ∧
        (Phase.scaffold.run none overwrittenSession).2.tree.fileAt? (spelled componentPath) =
          some (Utf8.encode "b();\n".toList) := by
    decide +kernel
  obtain ⟨report, ran, success⟩ := exists_of_any (Phase.scaffold.run none overwrittenSession)
    (·.success) succeeds
  exact ⟨report, _, ran, success, exists_applies (by decide +kernel), Utf8.encode "b();\n".toList,
    "b();\n".toList, left, eq_ok_of_toOption (by decide +kernel), by decide⟩

end Phase.Scaffold

end GuidedMigration
