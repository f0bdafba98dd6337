/-
This file follows the queue of packages. Whatever is done on a session only adds to the end of the
queue, and adds no package that is in it already. A block of commands compares each package with the
queue as it has grown so far; an instruction compares all its packages with the queue as it was
before, and would add one twice that it names twice, but a step names each of its packages once.
What a command asks for is in the queue from then on, and a run of a guide does to the queue what
its instructions and blocks do one by one.
-/
import GuidedMigration.Proofs.Migration.Noted
import GuidedMigration.Proofs.Migration.Schedule

namespace GuidedMigration

open Text

variable {queued packages : List Text} {package : Text}

/-! ### The queue -/

/-- Whether a queue is prolonged to another one: packages are added at its end, and none of them
twice. -/
structure IsProlonged (before after : List Text) : Prop where
  kept : before <+: after
  distinct : before.Nodup → after.Nodup

namespace IsProlonged

variable {first second third : List Text}

theorem refl (queued : List Text) : IsProlonged queued queued := ⟨List.prefix_refl queued, id⟩

theorem trans (once : IsProlonged first second) (again : IsProlonged second third) :
    IsProlonged first third :=
  ⟨once.kept.trans again.kept, again.distinct ∘ once.distinct⟩

theorem enqueue (queued : List Text) (package : Text) :
    IsProlonged queued (Session.enqueue queued package) := by
  rw [Session.enqueue]
  split
  · exact refl queued
  · rename_i fresh
    rw [List.contains_iff_mem] at fresh
    refine ⟨List.prefix_append queued [package], fun distinct => List.nodup_append.mpr
      ⟨distinct, List.pairwise_singleton _ package, fun other member last inside same => ?_⟩⟩
    rw [same, List.mem_singleton.mp inside] at member
    exact fresh member

/-- Packages that are queued one by one are compared with the queue as it grows. -/
theorem queue (packages : List Text) (session : Session) :
    IsProlonged session.packages (session.queue packages).packages := by
  rw [Session.queue]
  generalize session.packages = queued
  induction packages generalizing queued with
  | nil => exact refl queued
  | cons package packages inductionHypothesis =>
    exact (enqueue queued package).trans (inductionHypothesis _)

/-- Packages that are queued together must be named once each. -/
theorem install (distinct : packages.Nodup) (session : Session) :
    IsProlonged session.packages (session.install packages).packages := by
  rw [Session.install_eq_queue distinct]
  exact queue packages session

end IsProlonged

theorem mem_install {session : Session} : package ∈ (session.install packages).packages ↔
    package ∈ session.packages ∨ package ∈ packages := by
  simp only [Session.install, List.mem_append, List.mem_filter, Bool.not_eq_true',
    List.contains_eq_mem, decide_eq_false_iff_not]
  tauto

/-! ### Instructions and blocks -/

namespace Migration

variable {First Answer : Type}

/-- Whether an action only prolongs the queue. -/
def KeepsQueue (action : Migration Answer) : Prop :=
  ∀ session : Session, IsProlonged session.packages (action session).2.packages

namespace KeepsQueue

/-- An action that leaves the queue alone. -/
theorem ofQuiet {action : Migration Answer}
    (quiet : ∀ session, (action session).2.packages = session.packages) : KeepsQueue action :=
  fun session => (quiet session).symm ▸ .refl session.packages

theorem bind {action : Migration First} {next : First → Migration Answer}
    (keeps : KeepsQueue action) (further : ∀ answer, KeepsQueue (next answer)) :
    KeepsQueue (action >>= next) :=
  leads_bind (fun before after : Session => IsProlonged before.packages after.packages)
    (fun once again => once.trans again) keeps further

/-- What is noted of a failure leaves the queue alone. -/
theorem recovering {action : Migration Unit} (keeps : KeepsQueue action) (what : Text) :
    KeepsQueue (recovering what action) := by
  intro session
  have prolonged := keeps session
  rcases recovering_cases what action session with same | ⟨failure, after, failed, -, noted⟩
  · rwa [same]
  · rw [failed] at prolonged
    rw [noted]
    exact prolonged

theorem onFiles (action : Files Answer) : KeepsQueue (onFiles action) := .ofQuiet fun _ => rfl

theorem recorded (action : Files Outcome) : KeepsQueue (do let _ ← recorded action) :=
  ((onFiles action).bind fun _ => .bind (.ofQuiet fun _ => rfl) fun _ => .ofQuiet fun _ => rfl).bind
    fun _ => .ofQuiet fun _ => rfl

end KeepsQueue

end Migration

namespace Executor

open Migration

/-- What instructions and blocks are made of keeps the queue, and so do they. -/
theorem inherits_keepsQueue : Inherits (fun _ => True) KeepsQueue where
  child _ _ _ := trivial
  pure := .ofQuiet fun _ => rfl
  refuse _ := .ofQuiet fun _ => rfl
  andThen _ _ first second := first.bind fun _ => second
  recovering what _ keeps := keeps.recovering what
  ask question next further := by
    intro session
    exact further session trivial session
  ofResult result _ _ further := by
    have quiet : KeepsQueue (ofResult result) := .ofQuiet fun _ => rfl
    exact quiet.bind further
  ifThere _ _ _ first second := by
    refine (KeepsQueue.onFiles _).bind fun there => ?_
    split
    · exact first
    · exact second
  queue := IsProlonged.queue
  contribute _ := .ofQuiet fun _ => rfl
  insert _ _ _ _ := .recorded _
  delete _ _ _ _ := .recorded _
  merge _ _ _ _ _ := (KeepsQueue.onFiles _).bind fun _ => .ofQuiet fun _ => rfl
  depend _ _ _ := .recorded _

theorem keepsQueue_copyNamed (step : Step) (source destination : Option Text) :
    KeepsQueue (copyNamed step source destination) := by
  have refuses : KeepsQueue (throw (.refused (.noPath step.text)) : Migration Unit) :=
    .ofQuiet fun _ => rfl
  match source with
  | none => exact refuses
  | some [] => exact refuses
  | some (first :: rest) =>
    have asks : KeepsQueue (ask id) := .ofQuiet fun _ => rfl
    exact asks.bind fun session => .recorded _

end Executor

namespace Instruction

variable {step : Step} {word : Text}

/-- A step that installs packages is read as one that does. -/
theorem installationOf_of_action
    (installing : (ofStep step).action = .installPackage packages) :
    installationOf step = .installPackage packages := by
  obtain ⟨build, among, built⟩ := exists_build step.text
  rw [built step rfl] at installing
  simp only [List.mem_cons, List.not_mem_nil, or_false] at among
  rcases among with rfl | rfl | rfl | rfl | rfl | rfl | rfl
  · obtain ⟨source, destination, copied, -⟩ := exists_copyOf step
    rw [copied] at installing
    cases installing
  · cases installing
  · cases installing
  · cases installing
  · cases installing
  · exact installing
  · cases installing

theorem mem_installedPackages {script : Text} : word ∈ installedPackages script ↔
    ∃ command ∈ findAll installCommand script, word ∈ Text.words command ∧
      word.head? ≠ some '-' := by
  simp only [installedPackages, List.mem_filter, List.mem_flatMap, bne_iff_ne, ← exists_and_right,
    and_assoc]

end Instruction

/-! ### Errands -/

/-- Something that is done on a session: the instruction that a step gives, or a block of code that
no step uses. `hint` and `executorHint` are words about the guide. -/
inductive Errand where
  | instruction (hint : Text) (step : Step)
  | block (executorHint : Text) (block : CodeBlock) (label hint : Text)

namespace Errand

/-- Runs an errand. -/
def run : Errand → Migration Unit
  | .instruction hint step => Executor.execute hint (Instruction.ofStep step)
  | .block executorHint own label hint => Executor.applyBlock executorHint own label hint

/-- The script whose commands an errand asks for: what is attached to a step that installs packages,
in whatever language, or a block of commands. -/
def script? : Errand → Option Text
  | .instruction _ step => match (Instruction.ofStep step).action with
    | .installPackage _ => step.snippet.map (·.content)
    | _ => none
  | .block _ own _ _ =>
    if Instruction.shellLanguages.contains own.language then some own.content else none

/-- Whether a word is an argument, and no option, of a command for which an errand asks. -/
def Asks (errand : Errand) (word : Text) : Prop :=
  ∃ script ∈ errand.script?, ∃ command ∈ findAll Instruction.installCommand script,
    word ∈ Text.words command ∧ word.head? ≠ some '-'

variable {errand : Errand} {word : Text}

/-- An errand only prolongs the queue. -/
theorem keepsQueue (errand : Errand) : Migration.KeepsQueue errand.run := by
  cases errand with
  | instruction hint step =>
    have performs : Migration.KeepsQueue (Executor.perform hint (Instruction.ofStep step)) :=
      Executor.inherits_keepsQueue.perform hint
        (fun source destination _ => Executor.keepsQueue_copyNamed step source destination)
        fun packages installing => IsProlonged.install (Instruction.nodup_of_installationOf
          (Instruction.installationOf_of_action installing))
    exact performs.recovering _
  | block executorHint own label hint =>
    exact (Executor.inherits_keepsQueue.performBlock executorHint own label hint).recovering _

/-- A block in one of the languages of commands is in none of those that are told apart before. -/
theorem run_of_shell {own : CodeBlock}
    (shell : Instruction.shellLanguages.contains own.language = true)
    (executorHint label hint : Text) (session : Session) :
    (Errand.block executorHint own label hint).run session =
      (.ok (), session.queue (Instruction.installedPackages own.content)) := by
  have other : ∀ language ∈ Instruction.shellLanguages,
      Instruction.configLanguages.contains language = false ∧
        Instruction.codeLanguages.contains language = false ∧
        Executor.isManifestLanguage language = false := by decide
  obtain ⟨noConfig, noCode, noManifest⟩ := other _ (List.contains_iff_mem.mp shell)
  rw [run, Executor.applyBlock, Executor.performBlock, noConfig, noCode, noManifest, shell]
  rfl

/-- What an errand asks for is in the queue behind it. -/
theorem mem_of_asks (asks : errand.Asks word) (session : Session) :
    word ∈ (errand.run session).2.packages := by
  obtain ⟨script, given, asked⟩ := asks
  have listed := Instruction.mem_installedPackages.mpr asked
  cases errand with
  | instruction hint step =>
    rw [script?] at given
    split at given
    · rename_i packages installing
      have shown : Instruction.snippetCode step = script := by
        rw [Instruction.snippetCode, Option.mem_def.mp given, Option.getD_some]
      have named := Instruction.installationOf_of_action installing
      rw [Instruction.installationOf, shown] at named
      rw [run, Executor.execute_of_installation installing, mem_install,
        ← Action.installPackage.inj named, List.mem_eraseDups, List.mem_append]
      exact .inr (.inr listed)
    · cases given
  | block executorHint own label hint =>
    rw [script?] at given
    split at given
    · rename_i shell
      obtain rfl := Option.mem_some_iff.mp given
      rw [run_of_shell shell]
      exact Session.mem_foldl_enqueue.mpr (.inr listed)
    · cases given

/-! ### One errand after another -/

/-- The session that errands leave, each of them run on what the one before it has left. -/
def runAll (errands : List Errand) (session : Session) : Session :=
  errands.foldl (fun between errand => (errand.run between).2) session

theorem runAll_append (earlier later : List Errand) (session : Session) :
    runAll (earlier ++ later) session = runAll later (runAll earlier session) :=
  List.foldl_append

theorem isProlonged_runAll (errands : List Errand) (session : Session) :
    IsProlonged session.packages (runAll errands session).packages := by
  induction errands generalizing session with
  | nil => exact .refl session.packages
  | cons errand rest inductionHypothesis =>
    exact (errand.keepsQueue session).trans (inductionHypothesis _)

/-- Whatever errands are run, and whether or not they fail, the queue holds no package twice, stays
at the beginning of what it becomes later on, and has all that was asked for until then. -/
theorem queue_of_errands {session : Session} (distinct : session.packages.Nodup)
    (earlier later : List Errand) :
    (runAll earlier session).packages.Nodup ∧
      (runAll earlier session).packages <+: (runAll (earlier ++ later) session).packages ∧
      ∀ errand ∈ earlier, ∀ word, errand.Asks word → word ∈ (runAll earlier session).packages := by
  refine ⟨(isProlonged_runAll earlier session).distinct distinct, ?_, ?_⟩
  · rw [runAll_append]
    exact (isProlonged_runAll later _).kept
  · intro errand member word asks
    obtain ⟨before, behind, rfl⟩ := List.append_of_mem member
    rw [runAll_append]
    exact (isProlonged_runAll behind _).kept.subset (mem_of_asks asks (runAll before session))

/-- A step that names a package which the commands attached to it, in another language, name too. -/
def attachedErrand : Errand :=
  .instruction [] (Executor.installingStep "yaml".toList
    "run: npm install right-pad left-pad\n".toList)

/-- Commands that name a package twice, and one that is queued by then. -/
def repeatingErrand : Errand :=
  .block [] ⟨"bash".toList, "yarn add other other --dev\nnpm i left-pad\n".toList, some 2⟩ [] []

theorem queue_of_repeating_errands :
    let session := Executor.freshSession
    let earlier := [attachedErrand, repeatingErrand]
    session.packages.Nodup ∧ (runAll earlier session).packages.Nodup ∧
      (runAll earlier session).packages <+:
        (runAll (earlier ++ [attachedErrand]) session).packages ∧
      attachedErrand.Asks "right-pad".toList ∧
      "right-pad".toList ∈ (runAll earlier session).packages := by
  intro session earlier
  have empty : session.packages.Nodup := List.nodup_nil
  have asks : attachedErrand.Asks "right-pad".toList :=
    ⟨"run: npm install right-pad left-pad\n".toList, (by decide +kernel : script? _ = some _),
      "right-pad left-pad".toList, by decide +kernel, by decide +kernel, by decide⟩
  have whole := queue_of_errands empty earlier [attachedErrand]
  exact ⟨empty, whole.1, whole.2.1, asks, whole.2.2 attachedErrand List.mem_cons_self _ asks⟩

example : (runAll [attachedErrand, repeatingErrand] Executor.freshSession).packages =
    ["left-pad", "right-pad", "other"].map String.toList := by decide +kernel

/-! ### Runs of guides -/

/-- The errand that a task of a guide is. -/
def ofTask (hint : Text) (path : Path) (sections : List Section) : Migration.Task → Errand
  | .instruction asked => .instruction hint asked.step
  | .block own => .block hint own (Migration.blockLabel path own)
      (Migration.blockHint hint path sections own)

variable {hint : Text} {path : Path} {sections : List Section} {tasks : List Migration.Task}

/-- Tasks whose instructions were read from steps are run as errands, one after the other, up to one
that fails in a way that nothing recovers from. -/
theorem exists_of_runTasks
    (ofSteps : ∀ asked, .instruction asked ∈ tasks → asked = Instruction.ofStep asked.step)
    (session : Session) : ∃ errands, errands <+: tasks.map (ofTask hint path sections) ∧
      (Migration.runTasks hint path sections tasks session).2 = runAll errands session ∧
      ((Migration.runTasks hint path sections tasks session).1 = .ok () →
        errands = tasks.map (ofTask hint path sections)) := by
  induction tasks generalizing session with
  | nil => exact ⟨[], List.prefix_rfl, rfl, fun _ => rfl⟩
  | cons task rest inductionHypothesis =>
    have same : (ofTask hint path sections task).run =
        Migration.runTask hint path sections task := by
      cases task with
      | block own => rfl
      | instruction asked =>
        rw [ofTask, run, ← ofSteps asked List.mem_cons_self]
        rfl
    have first := congrFun same session
    rw [Migration.runTasks_cons, ← first, List.map_cons]
    cases outcome : (ofTask hint path sections task).run session with
    | mk result between =>
      cases result with
      | error failure =>
        refine ⟨[ofTask hint path sections task], ⟨_, rfl⟩, ?_, nofun⟩
        rw [runAll, List.foldl_cons, outcome]
        rfl
      | ok answer =>
        obtain ⟨errands, started, left, whole⟩ := inductionHypothesis
          (fun asked member => ofSteps asked (List.mem_cons_of_mem _ member)) between
        refine ⟨ofTask hint path sections task :: errands, ?_, ?_, ?_⟩
        · exact List.prefix_cons_inj _ |>.mpr started
        · rw [left, runAll, runAll, List.foldl_cons, outcome]
        · exact fun done => congrArg _ (whole done)

theorem ofStep_of_mem_tasksOf {document : Document} {asked : Instruction}
    (member : .instruction asked ∈ Migration.tasksOf document) :
    asked = Instruction.ofStep asked.step := by
  obtain ⟨step, -, rfl⟩ :=
    List.mem_map.mp (Migration.mem_of_instruction_mem_schedule member)
  rfl

/-- A run of a guide does to the queue what its instructions and blocks do one by one, all of them
if it comes to its end. -/
theorem exists_of_runGuide {document : Document} {session : Session}
    (read : Migration.readGuide session.tree session.settings path = .ok document)
    (normalizes : Bool) (hint : Text) :
    let errands := (Migration.tasksOf document).map (ofTask hint path document.sections)
    ∃ done, done <+: errands ∧
      (Migration.runGuide path normalizes hint session).2.packages =
        (runAll done (Migration.opened normalizes session)).packages ∧
      ((Migration.runGuide path normalizes hint session).1 = .ok document → done = errands) := by
  obtain ⟨done, started, left, whole⟩ := @exists_of_runTasks hint path document.sections
    (Migration.tasksOf document) (fun _ => ofStep_of_mem_tasksOf)
    (Migration.opened normalizes session)
  refine ⟨done, started, ?_⟩
  rw [Migration.runGuide_of_read read, ← left]
  cases ran : Migration.runTasks hint path document.sections (Migration.tasksOf document)
      (Migration.opened normalizes session) with
  | mk result after =>
    rw [ran] at whole
    cases result with
    | ok answer => exact ⟨rfl, fun _ => whole rfl⟩
    | error failure => exact ⟨rfl, nofun⟩

end Errand

end GuidedMigration
