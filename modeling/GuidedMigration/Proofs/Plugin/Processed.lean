/-
This file says what one plugin needs in order to be integrated, and when its failure is not caught.
Its directories must be copied, and its guides must run to their end; a guide that is missing or no
text is a failure that is caught. A plugin stops everything exactly if the copy of a directory meets
a fault of files, a guide cannot be looked for, its text is none of the dialect, or something gets
in the way of one of its tasks.
-/
import GuidedMigration.Proofs.Migration.Isolation
import GuidedMigration.Proofs.Plugin.Turn

namespace GuidedMigration.Plugin

open Migration GuidedMigration.Tree

variable {First Answer : Type} {session before after : Session}

/-! ### Guides of plugins -/

section

variable {tree : Tree} {settings : Settings} {path : Path} {text : Text} {failure : Failure}

/-- A text that is no guide fails as none of the migration's own. -/
theorem isOwn_of_documentOf (failed : documentOf settings path text = .error failure) :
    failure.isOwn = false := by
  rw [documentOf] at failed
  split at failed
  · rw [← Except.error.inj failed]; rfl
  · split at failed
    · cases failed
    · rw [← Except.error.inj failed]; rfl

/-- A guide cannot be looked for; or it is not there, or is no text; or it is what its text is. -/
theorem readGuide_cases (tree : Tree) (settings : Settings) (path : Path) :
    (∃ fault, tree.isFile? path = .error fault ∧
        readGuide tree settings path = .error (.file fault)) ∨
      (∃ failure, readGuide tree settings path = .error failure ∧ failure.isOwn = true ∧
        (∀ fault, tree.isFile? path ≠ .error fault) ∧ ∀ text, tree.read path ≠ .ok text) ∨
      ∃ text, tree.read path = .ok text ∧
        readGuide tree settings path = documentOf settings path text := by
  cases read : tree.read path with
  | ok text => exact .inr (.inr ⟨text, rfl, readGuide_of_read read⟩)
  | error failure =>
    cases found : tree.isFile? path with
    | error fault => exact .inl ⟨fault, rfl, by rw [readGuide, found]⟩
    | ok there =>
      refine .inr (.inl ?_)
      cases there with
      | false =>
        refine ⟨.absent .document path, by rw [readGuide, found], rfl, fun fault same => ?_,
          fun text same => ?_⟩
        · cases same
        · cases same
      | true =>
        obtain ⟨-, bytes, held⟩ := standing_eq_file.mp (standing_of_isFile? found)
        rw [readGuide, found, read]
        rw [read_of_file (standing_of_isFile? found) held, textOf] at read
        split at read
        · refine ⟨_, by rw [← Except.error.inj read], rfl, fun fault same => ?_,
            fun text same => ?_⟩
          · cases same
          · cases same
        · cases read

end

/-- The guides whose directories are those of a plugin. -/
def guidesOf (plugin : PluginMetadata) : List Text :=
  (plugin.frontend.toList ++ plugin.backend.toList).filter (!·.isEmpty)

variable {plugin : PluginMetadata} {guide : Option Text} {hint : Text}

/-- The guide of a part of a plugin runs to its end, if there is one: it is a text and one of the
dialect, and all its tasks have their turn. -/
inductive GuideRuns (plugin : PluginMetadata) (guide : Option Text) (hint : Text)
    (before : Session) : Session → Prop
  | none (unnamed : guide.filter (!·.isEmpty) = none) : GuideRuns plugin guide hint before before
  | through {name text : Text} {document : Document} {reached : Session}
      (named : guide.filter (!·.isEmpty) = some name)
      (read : before.tree.read (before.guides.child name) = .ok text)
      (parsed : documentOf before.settings (before.guides.child name) text = .ok document)
      (runs : RunsThrough hint (before.guides.child name) document
        (opened (normalizes plugin.name) before) reached) :
      GuideRuns plugin guide hint before (closed before reached)

/-- The guide of a part of a plugin stops everything: it cannot be looked for, its text is none of
the dialect, or something gets in the way of one of its tasks. -/
inductive GuideDisturbs (plugin : PluginMetadata) (guide : Option Text) (hint : Text)
    (before : Session) : Prop
  | unseen {name : Text} {fault : FileFault} (named : guide.filter (!·.isEmpty) = some name)
      (unseen : before.tree.isFile? (before.guides.child name) = .error fault) :
      GuideDisturbs plugin guide hint before
  | stopped {name text : Text} (named : guide.filter (!·.isEmpty) = some name)
      (read : before.tree.read (before.guides.child name) = .ok text)
      (stopped : ∀ document,
        documentOf before.settings (before.guides.child name) text = .ok document →
          ¬ IsUnobstructed hint (before.guides.child name) document
            (opened (normalizes plugin.name) before)) :
      GuideDisturbs plugin guide hint before

theorem runPart_of_unnamed (unnamed : guide.filter (!·.isEmpty) = none) :
    runPart plugin guide hint session = (.ok (), session) := by
  match guide with
  | none => rfl
  | some [] => rfl
  | some (first :: rest) => cases unnamed

theorem runPart_of_named {name : Text} (named : guide.filter (!·.isEmpty) = some name) :
    runPart plugin guide hint session =
      ((runGuide (session.guides.child name) (normalizes plugin.name) hint session).1.map
          fun _ => (),
        (runGuide (session.guides.child name) (normalizes plugin.name) hint session).2) := by
  match guide with
  | none => cases named
  | some [] => cases named
  | some (first :: rest) =>
    obtain rfl : first :: rest = name := Option.some.inj named
    show (ask _ >>= _) session = _
    rw [bind_ask_apply, bind_apply]
    obtain ⟨result, after⟩ := runGuide (session.guides.child (first :: rest))
      (normalizes plugin.name) hint session
    cases result <;> rfl

theorem runPart_eq_ok :
    runPart plugin guide hint before = (.ok (), after) ↔
      GuideRuns plugin guide hint before after := by
  constructor
  · intro ok
    cases named : guide.filter (!·.isEmpty) with
    | none =>
      rw [runPart_of_unnamed named] at ok
      cases ok
      exact .none named
    | some name =>
      rw [runPart_of_named named] at ok
      cases ran : (runGuide (before.guides.child name) (normalizes plugin.name) hint before).1 with
      | error failure =>
        rw [ran] at ok
        cases ok
      | ok document =>
        obtain ⟨text, read, parsed⟩ := exists_of_readGuide (exists_of_runGuide ran).1
        obtain ⟨reached, runs, last⟩ := exists_runsThrough ran
        obtain rfl : closed before reached = after := last.symm.trans (congrArg Prod.snd ok)
        exact .through named read parsed runs
  · rintro (unnamed | ⟨named, read, parsed, runs⟩)
    · exact runPart_of_unnamed unnamed
    · rw [runPart_of_named named, runGuide_of_read ((readGuide_of_read read).trans parsed),
        runs.performs.runTasks]
      rfl

theorem disrupts_map (result : Except Failure First) (update : First → Answer) :
    disrupts (result.map update) = disrupts result := by
  cases result <;> rfl

/-- A guide that stops everything fails so that it is not caught. -/
theorem GuideDisturbs.disrupts (sound : before.tree.IsSound)
    (disturbs : GuideDisturbs plugin guide hint before) :
    disrupts (runPart plugin guide hint before).1 = true := by
  cases disturbs with
  | unseen named unseen =>
    rw [runPart_of_named named, disrupts_map, runGuide_of_unread (by rw [readGuide, unseen])]
    rfl
  | @stopped name text named read stopped =>
    rw [runPart_of_named named, disrupts_map]
    cases parsed : documentOf before.settings (before.guides.child name) text with
    | error failure =>
      rw [runGuide_of_unread ((readGuide_of_read read).trans parsed), Plugin.disrupts,
        isOwn_of_documentOf parsed]
      rfl
    | ok document =>
      rw [runGuide_of_read ((readGuide_of_read read).trans parsed)]
      rcases performs_or_stops hint (before.guides.child name) document.sections
          (tasksOf document) (opened (normalizes plugin.name) before) with
        ⟨after, performs, ran⟩ | ⟨failure, after, stops, ran⟩
      · have runs : RunsThrough hint _ document _ after := ⟨performs, performs.notes⟩
        have sound' : (opened (normalizes plugin.name) before).tree.IsSound := sound
        exact absurd (runs.isUnobstructed sound') (stopped document parsed)
      · rw [ran, Plugin.disrupts, stops.isOwn]
        rfl

/-- The failure of a guide is not caught exactly if the guide stops everything or meets a document
that holds itself. -/
theorem disrupts_runPart (sound : before.tree.IsSound) :
    disrupts (runPart plugin guide hint before).1 = true ↔
      GuideDisturbs plugin guide hint before ∨
        (runPart plugin guide hint before).1 = .error (.yaml .endless) := by
  refine ⟨fun disrupted => ?_, ?_⟩
  · cases named : guide.filter (!·.isEmpty) with
    | none =>
      rw [runPart_of_unnamed named] at disrupted
      cases disrupted
    | some name =>
      rw [runPart_of_named named, disrupts_map] at disrupted
      rw [runPart_of_named named]
      rcases readGuide_cases before.tree before.settings (before.guides.child name) with
        ⟨fault, unseen, -⟩ | ⟨failure, unread, own, -⟩ | ⟨text, read, parsed⟩
      · exact .inl (.unseen named unseen)
      · rw [runGuide_of_unread unread, disrupts, own] at disrupted
        cases disrupted
      · cases ofText : documentOf before.settings (before.guides.child name) text with
        | error failure =>
          refine .inl (.stopped named read fun other ok => ?_)
          cases ofText.symm.trans ok
        | ok document =>
          rw [runGuide_of_read (parsed.trans ofText)] at disrupted ⊢
          rcases performs_or_stops hint (before.guides.child name) document.sections
              (tasksOf document) (opened (normalizes plugin.name) before) with
            ⟨after, performs, ran⟩ | ⟨failure, after, stops, ran⟩
          · rw [ran] at disrupted
            cases disrupted
          · by_cases endless : failure = .yaml .endless
            · rw [ran, endless]
              exact .inr rfl
            · refine .inl (.stopped named read fun other ok => ?_)
              cases ofText.symm.trans ok
              have sound' : (opened (normalizes plugin.name) before).tree.IsSound := sound
              exact stops.not_isUnobstructed sound' (Failure.isEndless_eq_false endless)
  · rintro (disturbs | endless)
    · exact disturbs.disrupts sound
    · rw [endless]
      rfl

/-! ### Plugins -/

/-- The directories of a plugin are copied, or one would leave the destination, or there is a fault
of files. -/
theorem failsAs_copyDirectories (guides : List Text) :
    FailsAs (fun failure => failure.isOwn = true ∨ failure.IsFault) (copyDirectories guides) := by
  induction guides with
  | nil => exact .pure []
  | cons guide rest inductionHypothesis =>
    rw [copyDirectories]
    split
    · exact inductionHypothesis
    · refine (Migration.failsAs_ask _).bind fun session => ?_
      refine (failsAs_recorded fun tree failure failed => ?_).bind fun outcome =>
        inductionHypothesis.bind fun copied => .pure _
      cases inside : Target.staysInside session.destination
          (session.destination.child (below pluginsDirectory _)) with
      | false =>
        rw [Target.copyPath_of_outside inside] at failed
        exact .inl (Except.error.inj failed ▸ rfl)
      | true => exact .inr (Target.isFault_of_copyPath inside (fun _ => rfl) failed)

/-- A plugin stops everything: the copy of its directories meets a fault of files, or one of its
guides stops everything when its turn comes. -/
inductive Disturbs (plugin : PluginMetadata) (session : Session) : Prop
  | directory {fault : FileFault}
      (faulty : (copyDirectories (guidesOf plugin) session).1 = .error (.file fault)) :
      Disturbs plugin session
  | frontend {copied : List Text} {first : Session}
      (copies : copyDirectories (guidesOf plugin) session = (.ok copied, first))
      (disturbs : GuideDisturbs plugin plugin.frontend "frontend".toList first) :
      Disturbs plugin session
  | backend {copied : List Text} {first second : Session}
      (copies : copyDirectories (guidesOf plugin) session = (.ok copied, first))
      (runs : GuideRuns plugin plugin.frontend "frontend".toList first second)
      (disturbs : GuideDisturbs plugin plugin.backend "backend".toList second) :
      Disturbs plugin session

theorem writesWithin_copyDirectories (guides : List Text) :
    WritesWithin (fun _ => True) (copyDirectories guides) := by
  induction guides with
  | nil => exact .pure []
  | cons guide rest inductionHypothesis =>
    rw [copyDirectories]
    split
    · exact inductionHypothesis
    · refine (WritesWithin.ask id).bind fun session => ?_
      refine (WritesWithin.recorded fun tree sound => ?_).bind fun outcome =>
        inductionHypothesis.bind fun _ => .pure _
      exact (Target.behaves_copyPath _ _ _ _ _ tree sound).evolves.mono fun _ _ => trivial

theorem writesWithin_runPart (plugin : PluginMetadata) (guide : Option Text) (hint : Text) :
    WritesWithin (fun _ => True) (runPart plugin guide hint) := by
  unfold runPart
  split
  · exact .pure ()
  · exact .pure ()
  · exact (WritesWithin.ask _).bind fun guides =>
      (writesWithin_runGuide _ _ _).bind fun _ => .pure ()

theorem writesWithin_integrate (plugin : PluginMetadata) :
    WritesWithin (fun _ => True) (integrate plugin) :=
  (writesWithin_copyDirectories _).bind fun _ => (writesWithin_runPart _ _ _).bind fun _ =>
    (writesWithin_runPart _ _ _).bind fun _ => .pure _

/-- The failure of a plugin is not caught exactly if the plugin stops everything or a guide of it
meets a document that holds itself. -/
theorem disrupts_integrate (sound : session.tree.IsSound) :
    disrupts (integrate plugin session).1 = true ↔
      Disturbs plugin session ∨ (integrate plugin session).1 = .error (.yaml .endless) := by
  have first {copied : List Text} {first : Session}
      (copies : copyDirectories (guidesOf plugin) session = (.ok copied, first)) :
      first.tree.IsSound := sound_of_writesWithin (writesWithin_copyDirectories _) copies sound
  unfold integrate
  constructor
  · intro other
    rcases disrupts_bind.mp other with faulty | ⟨copied, between, copies, other⟩
    · obtain ⟨fault, faulty⟩ :=
        (disrupts_of_fault (failsAs_copyDirectories _ session)).mp faulty
      exact .inl (.directory faulty)
    · rcases disrupts_bind.mp other with other | ⟨⟨⟩, second, front, other⟩
      · exact ((disrupts_runPart (first copies)).mp other).imp (.frontend copies) fun endless =>
          bind_eq_error.mpr (.inr ⟨_, _, copies, bind_eq_error.mpr (.inl endless)⟩)
      · have second' := sound_of_writesWithin (writesWithin_runPart _ _ _) front (first copies)
        rcases disrupts_bind.mp other with other | ⟨⟨⟩, third, -, other⟩
        · refine ((disrupts_runPart second').mp other).imp
            (.backend copies (runPart_eq_ok.mp front)) fun endless =>
              bind_eq_error.mpr (.inr ⟨_, _, copies, ?_⟩)
          exact bind_eq_error.mpr (.inr ⟨_, _, front, bind_eq_error.mpr (.inl endless)⟩)
        · cases other
  · rintro ((faulty | ⟨copies, disturbs⟩ | ⟨copies, runs, disturbs⟩) | endless)
    · exact disrupts_bind.mpr (.inl ((disrupts_of_fault (failsAs_copyDirectories _ session)).mpr
        ⟨_, faulty⟩))
    · have other := disturbs.disrupts (first copies)
      exact disrupts_bind.mpr (.inr ⟨_, _, copies, disrupts_bind.mpr (.inl other)⟩)
    · have front := runPart_eq_ok.mpr runs
      have second' := sound_of_writesWithin (writesWithin_runPart _ _ _) front (first copies)
      have other := disturbs.disrupts second'
      refine disrupts_bind.mpr (.inr ⟨_, _, copies, disrupts_bind.mpr (.inr ⟨_, _, front, ?_⟩)⟩)
      exact disrupts_bind.mpr (.inl other)
    · rw [endless]
      rfl

end GuidedMigration.Plugin
