/-
This file shows that the schedule of a guide has every instruction once and in the order of the
steps, every block that no instruction uses once and in the order of the blocks, and nothing else.
Where steps and blocks stand in the order of their lines, a block comes before an instruction
exactly if its line does. What is scheduled is what runs, up to the first failure that nothing
recovers from.

Then it compares a step with the same step without its snippet. Which instruction a step gives is
told by its text alone; the snippet is read by those instructions that say that they use it, and by
one more: a step that installs packages takes the commands of a snippet in any language. So a
snippet that is not used does nothing through its step, unless such a step queues packages that
neither its own text names nor the queue holds.
-/
import GuidedMigration.Migration.Executor
import GuidedMigration.Proofs.Migration.Performed
import GuidedMigration.Proofs.Migration.Rerun

namespace GuidedMigration.Migration

/-- The instruction that a task is. -/
def Task.instruction? : Task → Option Instruction
  | .instruction asked => some asked
  | .block _ => none

/-- The block that a task is. -/
def Task.block? : Task → Option CodeBlock
  | .instruction _ => none
  | .block own => some own

/-! ### What is scheduled -/

theorem filterMap_instruction?_map_block (blocks : List CodeBlock) :
    (blocks.map Task.block).filterMap Task.instruction? = [] := by
  rw [List.filterMap_map]
  exact List.filterMap_eq_nil_iff.mpr fun _ _ => rfl

theorem filterMap_block?_map_block (blocks : List CodeBlock) :
    (blocks.map Task.block).filterMap Task.block? = blocks := by
  rw [List.filterMap_map]
  exact List.filterMap_some

theorem filterMap_instruction?_cons (instruction : Instruction) (tasks : List Task) :
    (Task.instruction instruction :: tasks).filterMap Task.instruction? =
      instruction :: tasks.filterMap Task.instruction? :=
  List.filterMap_cons_some rfl

theorem instructions_schedule (pending : List CodeBlock) (instructions : List Instruction) :
    (schedule pending instructions).filterMap Task.instruction? = instructions := by
  induction instructions generalizing pending with
  | nil => exact filterMap_instruction?_map_block pending
  | cons instruction rest inductionHypothesis =>
    rw [schedule]
    split
    · rw [filterMap_instruction?_cons, inductionHypothesis]
    · rw [List.filterMap_append, filterMap_instruction?_map_block, List.nil_append,
        filterMap_instruction?_cons, inductionHypothesis]

theorem blocks_schedule (pending : List CodeBlock) (instructions : List Instruction) :
    (schedule pending instructions).filterMap Task.block? = pending := by
  induction instructions generalizing pending with
  | nil => exact filterMap_block?_map_block pending
  | cons instruction rest inductionHypothesis =>
    rw [schedule]
    split
    · rw [List.filterMap_cons_none rfl, inductionHypothesis]
    · rw [List.filterMap_append, filterMap_block?_map_block, List.filterMap_cons_none rfl,
        inductionHypothesis, List.takeWhile_append_dropWhile]

theorem mem_of_instruction_mem_schedule {pending : List CodeBlock}
    {instructions : List Instruction} {instruction : Instruction}
    (member : Task.instruction instruction ∈ schedule pending instructions) :
    instruction ∈ instructions := by
  rw [← instructions_schedule pending instructions]
  exact List.mem_filterMap.mpr ⟨_, member, rfl⟩

theorem mem_of_block_mem_schedule {pending : List CodeBlock} {instructions : List Instruction}
    {block : CodeBlock} (member : Task.block block ∈ schedule pending instructions) :
    block ∈ pending := by
  rw [← blocks_schedule pending instructions]
  exact List.mem_filterMap.mpr ⟨_, member, rfl⟩

/-! ### The order -/

/-- Lines that are all known and go down the guide. -/
def InLineOrder (lines : List (Option Int)) : Prop :=
  ∃ known : List Int, lines = known.map some ∧ known.Pairwise (· ≤ ·)

theorem InLineOrder.exists_of_mem {lines : List (Option Int)} (ordered : InLineOrder lines)
    {line : Option Int} (member : line ∈ lines) : ∃ number, line = some number := by
  obtain ⟨known, rfl, -⟩ := ordered
  obtain ⟨number, -, rfl⟩ := List.mem_map.mp member
  exact ⟨number, rfl⟩

theorem InLineOrder.sublist {fewer lines : List (Option Int)} (ordered : InLineOrder lines)
    (part : fewer.Sublist lines) : InLineOrder fewer := by
  obtain ⟨known, rfl, ascending⟩ := ordered
  obtain ⟨kept, sublist, rfl⟩ := List.sublist_map_iff.mp part
  exact ⟨kept, rfl, ascending.sublist sublist⟩

theorem InLineOrder.le_of_mem {first : Int} {rest : List (Option Int)}
    (ordered : InLineOrder (some first :: rest)) {number : Int} (member : some number ∈ rest) :
    first ≤ number := by
  obtain ⟨known, same, ascending⟩ := ordered
  match known with
  | [] => simp at same
  | head :: tail =>
    rw [List.map_cons, List.cons.injEq, Option.some.injEq] at same
    obtain ⟨rfl, rfl⟩ := same
    obtain ⟨other, inside, equal⟩ := List.mem_map.mp member
    rw [← Option.some.inj equal]
    exact (List.pairwise_cons.mp ascending).1 other inside

/-- Whether two tasks may follow each other: a block before an instruction has the smaller line, and
an instruction before a block has not. -/
def InPlace : Task → Task → Prop
  | .block block, .instruction asked =>
    ∀ blockLine ∈ block.line, ∀ stepLine ∈ asked.step.line, blockLine < stepLine
  | .instruction asked, .block block =>
    ∀ blockLine ∈ block.line, ∀ stepLine ∈ asked.step.line, stepLine ≤ blockLine
  | _, _ => True

theorem pairwise_inPlace_map_block (blocks : List CodeBlock) :
    (blocks.map Task.block).Pairwise InPlace := by
  refine List.pairwise_map.mpr ?_
  exact List.pairwise_of_forall fun _ _ => trivial

/-- Where blocks go down the guide, those that are not before a line are all behind it. -/
theorem le_of_mem_dropWhile {blocks : List CodeBlock} (ordered : InLineOrder (blocks.map (·.line)))
    {line : Int} {block : CodeBlock}
    (member : block ∈ blocks.dropWhile fun block => block.line.any (· < line)) {number : Int}
    (known : block.line = some number) : line ≤ number := by
  induction blocks with
  | nil => simp at member
  | cons first rest inductionHypothesis =>
    rw [List.map_cons] at ordered
    obtain ⟨start, begins⟩ := ordered.exists_of_mem List.mem_cons_self
    rw [List.dropWhile_cons, begins] at member
    split at member
    · exact inductionHypothesis (ordered.sublist (List.sublist_cons_self _ _)) member
    · rename_i behind
      have later : line ≤ start := by simpa using behind
      rw [begins] at ordered
      rcases List.mem_cons.mp member with rfl | inside
      · rw [begins] at known
        exact Option.some.inj known ▸ later
      · exact Int.le_trans later (ordered.le_of_mem (known ▸ List.mem_map_of_mem inside))

theorem lt_of_mem_takeWhile {blocks : List CodeBlock} {line : Int} {block : CodeBlock}
    (member : block ∈ blocks.takeWhile fun block => block.line.any (· < line)) :
    ∀ number ∈ block.line, number < line := by
  intro number known
  have before := List.all_eq_true.mp List.all_takeWhile block member
  rw [Option.mem_def.mp known] at before
  simpa using before

/-- Whether every task of a list may follow a block that stands before a line. -/
theorem inPlace_of_block {block : CodeBlock} {line : Int}
    (before : ∀ number ∈ block.line, number < line) {pending : List CodeBlock}
    {instructions : List Instruction}
    (behind : ∀ asked ∈ instructions, ∀ stepLine ∈ asked.step.line, line ≤ stepLine)
    {task : Task} (member : task ∈ schedule pending instructions) :
    InPlace (.block block) task := by
  cases task with
  | block other => trivial
  | instruction asked =>
    intro blockLine known stepLine reached
    exact Int.lt_of_lt_of_le (before blockLine known)
      (behind asked (mem_of_instruction_mem_schedule member) stepLine reached)

/-- Where steps and blocks go down the guide, every task is in its place. -/
theorem pairwise_inPlace_schedule {pending : List CodeBlock} {instructions : List Instruction}
    (blocksOrdered : InLineOrder (pending.map (·.line)))
    (stepsOrdered : InLineOrder (instructions.map (·.step.line))) :
    (schedule pending instructions).Pairwise InPlace := by
  induction instructions generalizing pending with
  | nil => exact pairwise_inPlace_map_block pending
  | cons instruction rest inductionHypothesis =>
    rw [List.map_cons] at stepsOrdered
    obtain ⟨line, known⟩ := stepsOrdered.exists_of_mem List.mem_cons_self
    have restOrdered := stepsOrdered.sublist (List.sublist_cons_self _ _)
    rw [known] at stepsOrdered
    have behind : ∀ asked ∈ rest, ∀ stepLine ∈ asked.step.line, line ≤ stepLine := by
      intro asked member stepLine reached
      exact stepsOrdered.le_of_mem (Option.mem_def.mp reached ▸ List.mem_map_of_mem member)
    have droppedOrdered : InLineOrder
        ((pending.dropWhile fun block => block.line.any (· < line)).map (·.line)) :=
      blocksOrdered.sublist ((List.dropWhile_sublist _).map _)
    rw [schedule, known]
    refine List.pairwise_append.mpr ⟨pairwise_inPlace_map_block _, ?_, ?_⟩
    · refine List.pairwise_cons.mpr ⟨fun task member => ?_, inductionHypothesis droppedOrdered
        restOrdered⟩
      cases task with
      | instruction other => trivial
      | block own =>
        intro blockLine ownLine stepLine reached
        rw [known, Option.mem_some_iff] at reached
        rw [← reached]
        exact le_of_mem_dropWhile blocksOrdered (mem_of_block_mem_schedule member) ownLine
    · intro earlier before later member
      obtain ⟨block, taken, rfl⟩ := List.mem_map.mp before
      have early := lt_of_mem_takeWhile taken
      rcases List.mem_cons.mp member with rfl | further
      · intro blockLine ownLine stepLine reached
        rw [known, Option.mem_some_iff] at reached
        rw [← reached]
        exact early blockLine ownLine
      · exact inPlace_of_block early behind further

/-! ### What runs -/

/-- Tasks that are those of a guide: every instruction once and in the order of the steps, every
block that no instruction uses once and in the order of the blocks, and a block before an
instruction exactly if its line is before that of the step. -/
structure IsPlanOf (document : Document) (tasks : List Task) : Prop where
  instructions : tasks.filterMap Task.instruction? = document.steps.map Instruction.ofStep
  blocks : tasks.filterMap Task.block? =
    document.blocks.filter (isUnclaimed (claimedLines (document.steps.map Instruction.ofStep)))
  placed : ∀ (blockIndex stepIndex : Nat) (block : CodeBlock) (asked : Instruction)
    (blockLine stepLine : Int), tasks[blockIndex]? = some (.block block) →
      tasks[stepIndex]? = some (.instruction asked) → block.line = some blockLine →
        asked.step.line = some stepLine → (blockIndex < stepIndex ↔ blockLine < stepLine)

/-- Tasks that are in their places stand by their lines. -/
theorem lt_iff_of_pairwise_inPlace {tasks : List Task} (ordered : tasks.Pairwise InPlace)
    {blockIndex stepIndex : Nat} {block : CodeBlock} {asked : Instruction}
    {blockLine stepLine : Int} (isBlock : tasks[blockIndex]? = some (.block block))
    (isStep : tasks[stepIndex]? = some (.instruction asked)) (own : block.line = some blockLine)
    (reached : asked.step.line = some stepLine) :
    blockIndex < stepIndex ↔ blockLine < stepLine := by
  obtain ⟨blockBound, blockHere⟩ := List.getElem?_eq_some_iff.mp isBlock
  obtain ⟨stepBound, stepHere⟩ := List.getElem?_eq_some_iff.mp isStep
  rw [List.pairwise_iff_getElem] at ordered
  rcases Nat.lt_trichotomy blockIndex stepIndex with before | same | behind
  · have inPlace := ordered blockIndex stepIndex blockBound stepBound before
    rw [blockHere, stepHere] at inPlace
    exact iff_of_true before (inPlace blockLine own stepLine reached)
  · subst same
    rw [isBlock] at isStep
    simp at isStep
  · have inPlace := ordered stepIndex blockIndex stepBound blockBound behind
    rw [blockHere, stepHere] at inPlace
    exact iff_of_false (Nat.lt_asymm behind)
      (Int.not_lt.mpr (inPlace blockLine own stepLine reached))

theorem step_ofStep (step : Step) : (Instruction.ofStep step).step = step := rfl

theorem isPlanOf_tasksOf {document : Document}
    (stepsOrdered : InLineOrder (document.steps.map (·.line)))
    (blocksOrdered : InLineOrder (document.blocks.map (·.line))) :
    IsPlanOf document (tasksOf document) where
  instructions := instructions_schedule _ _
  blocks := blocks_schedule _ _
  placed := by
    have lines : (instructionsOf document).map (·.step.line) = document.steps.map (·.line) := by
      rw [instructionsOf, List.map_map]
      exact List.map_congr_left fun step _ => congrArg Step.line (step_ofStep step)
    have ordered : (tasksOf document).Pairwise InPlace :=
      pairwise_inPlace_schedule (blocksOrdered.sublist (List.filter_sublist.map _))
        (lines ▸ stepsOrdered)
    intro blockIndex stepIndex block asked blockLine stepLine isBlock isStep own reached
    exact lt_iff_of_pairwise_inPlace ordered isBlock isStep own reached

/-- A guide whose steps and blocks go down the page has every task of its plan carried out once and
in order, unless one fails in a way that nothing recovers from; then those before it have been. -/
theorem runs_plan_in_order {session : Session} {path : Path} {document : Document}
    (read : readGuide session.tree session.settings path = .ok document)
    (stepsOrdered : InLineOrder (document.steps.map (·.line)))
    (blocksOrdered : InLineOrder (document.blocks.map (·.line))) (normalizes : Bool) (hint : Text) :
    ∃ tasks, IsPlanOf document tasks ∧
      ((∃ after, Performs hint path document.sections tasks (opened normalizes session) after ∧
          runGuide path normalizes hint session = (.ok document, closed session after)) ∨
        ∃ failure after,
          Stops hint path document.sections tasks (opened normalizes session) failure after ∧
            runGuide path normalizes hint session = (.error failure, closed session after)) := by
  refine ⟨tasksOf document, isPlanOf_tasksOf stepsOrdered blocksOrdered, ?_⟩
  rw [runGuide_of_read read]
  rcases performs_or_stops hint path document.sections (tasksOf document)
    (opened normalizes session) with ⟨after, performs, ran⟩ | ⟨failure, after, stops, ran⟩
  · exact .inl ⟨after, performs, by rw [ran]⟩
  · exact .inr ⟨failure, after, stops, by rw [ran]⟩

set_option maxRecDepth 100000

/-- A guide with blocks before, between and behind its steps; the second step uses its own one. -/
def mixedSession : Session :=
  smallSession
    ("# G\n\n```yaml\na: b\n```\n\n1. Add the import\n2. Update the configuration\n\n" ++
      "```yaml\nc: d\n```\n\n3. Restart\n\n```yaml\ne: f\n```\n").toList
    "const app = createApp();\n".toList

theorem runs_plan_of_mixed_guide :
    ∃ tasks, IsPlanOf (smallDocument mixedSession) tasks ∧
      ((∃ after, Performs [] smallPath (smallDocument mixedSession).sections tasks
            (opened false mixedSession) after ∧
          runGuide smallPath false [] mixedSession =
            (.ok (smallDocument mixedSession), closed mixedSession after)) ∨
        ∃ failure after, Stops [] smallPath (smallDocument mixedSession).sections tasks
            (opened false mixedSession) failure after ∧
          runGuide smallPath false [] mixedSession = (.error failure, closed mixedSession after)) :=
  runs_plan_in_order (eq_ok_of_toOption (by decide +kernel))
    ⟨[6, 7, 13], by decide +kernel, by decide⟩ ⟨[2, 9, 15], by decide +kernel, by decide⟩ false []

end GuidedMigration.Migration

namespace GuidedMigration

open Text

/-! ### The queue -/

namespace Session

variable {queued packages : List Text} {package : Text}

theorem mem_enqueue {other : Text} :
    other ∈ enqueue queued package ↔ other ∈ queued ∨ other = package := by
  rw [enqueue]
  split
  · rename_i held
    refine ⟨.inl, fun member => member.elim id ?_⟩
    rintro rfl
    exact List.contains_iff_mem.mp held
  · rw [List.mem_append, List.mem_singleton]

theorem mem_foldl_enqueue :
    package ∈ packages.foldl enqueue queued ↔ package ∈ queued ∨ package ∈ packages := by
  induction packages generalizing queued with
  | nil => simp
  | cons first packages inductionHypothesis =>
    rw [List.foldl_cons, inductionHypothesis, mem_enqueue, List.mem_cons, or_assoc]

/-- Packages go to the end of the queue. -/
theorem exists_foldl_enqueue (queued packages : List Text) :
    ∃ extra, packages.foldl enqueue queued = queued ++ extra ∧ extra ⊆ packages := by
  induction packages generalizing queued with
  | nil => exact ⟨[], (List.append_nil _).symm, List.Subset.refl _⟩
  | cons package packages inductionHypothesis =>
    rw [List.foldl_cons, enqueue]
    split
    · obtain ⟨extra, longer, among⟩ := inductionHypothesis queued
      exact ⟨extra, longer, List.subset_cons_of_subset _ among⟩
    · obtain ⟨extra, longer, among⟩ := inductionHypothesis (queued ++ [package])
      refine ⟨package :: extra, by rw [longer, List.append_assoc]; rfl, ?_⟩
      exact List.cons_subset_cons _ among

/-- A queue stays as it is exactly if it holds the packages already. -/
theorem foldl_enqueue_eq_self_iff :
    packages.foldl enqueue queued = queued ↔ ∀ package ∈ packages, package ∈ queued := by
  constructor
  · intro same package member
    rw [← same]
    exact mem_foldl_enqueue.mpr (.inr member)
  · intro held
    induction packages with
    | nil => rfl
    | cons package packages inductionHypothesis =>
      have first : enqueue queued package = queued := by
        rw [enqueue, if_pos (List.contains_iff_mem.mpr (held package List.mem_cons_self))]
      rw [List.foldl_cons, first]
      exact inductionHypothesis fun other member => held other (List.mem_cons_of_mem _ member)

/-- Packages that are named once each are queued one by one as they are all together. -/
theorem foldl_enqueue_eq (distinct : packages.Nodup) :
    packages.foldl enqueue queued = queued ++ packages.filter (!queued.contains ·) := by
  induction packages generalizing queued with
  | nil => exact (List.append_nil _).symm
  | cons package packages inductionHypothesis =>
    obtain ⟨fresh, distinct⟩ := List.nodup_cons.mp distinct
    rw [List.foldl_cons, inductionHypothesis distinct, enqueue, List.filter_cons]
    cases queued.contains package with
    | true => rfl
    | false =>
      have same : packages.filter (!(queued ++ [package]).contains ·) =
          packages.filter (!queued.contains ·) := List.filter_congr fun other member => by
        have apart : other ≠ package := fun same => fresh (same ▸ member)
        simp [apart]
      rw [if_neg Bool.false_ne_true, same, List.append_assoc]
      rfl

theorem install_eq_queue (distinct : packages.Nodup) (session : Session) :
    session.install packages = session.queue packages := by
  rw [install, queue, foldl_enqueue_eq distinct]

/-- A session with packages at the end of its queue. -/
def lengthen (extra : List Text) (session : Session) : Session :=
  { session with packages := session.packages ++ extra }

theorem lengthen_nil (session : Session) : session.lengthen [] = session := by
  rw [lengthen, List.append_nil]

/-- Queueing more packages lengthens the queue, by none exactly if all of them are in it. -/
theorem queue_append (named more : List Text) (session : Session) :
    ∃ extra ⊆ more, session.queue (named ++ more) = (session.queue named).lengthen extra ∧
      (session.queue (named ++ more) = session.queue named ↔
        ∀ package ∈ more, package ∈ session.packages ∨ package ∈ named) := by
  obtain ⟨extra, longer, among⟩ :=
    exists_foldl_enqueue (named.foldl enqueue session.packages) more
  have queues : (session.queue (named ++ more)).packages =
      more.foldl enqueue (named.foldl enqueue session.packages) := List.foldl_append
  refine ⟨extra, among, ?_, ?_⟩
  · rw [queue, List.foldl_append, longer]
    rfl
  · simp only [← mem_foldl_enqueue]
    rw [← foldl_enqueue_eq_self_iff, ← queues]
    refine ⟨fun same => by rw [same]; rfl, fun same => ?_⟩
    rw [queue, show (named ++ more).foldl enqueue session.packages = _ from same]
    rfl

end Session

/-! ### The kind of an instruction -/

/-- The step without its snippet. -/
def Step.bare (step : Step) : Step := { step with snippet := none }

namespace Instruction

/-- Of the ways to build an action, a text decides for one, whatever else belongs to the step. -/
theorem exists_build (text : Text) :
    ∃ build ∈ [copyOf, deletionOf, updateOf, additionOf, removalOf, installationOf,
        fun _ => Action.generic],
      ∀ step : Step, step.text = text → (ofStep step).action = build step := by
  cases found : rules.find? (·.applies (lower text)) with
  | none =>
    refine ⟨fun _ => .generic, by simp, fun step same => ?_⟩
    show firstAction rules step = _
    rw [firstAction, same, found]
  | some rule =>
    have among : rule.build ∈ rules.map Rule.build :=
      List.mem_map_of_mem (List.mem_of_find?_eq_some found)
    refine ⟨rule.build, ?_, fun step same => ?_⟩
    · exact List.mem_append_left [fun _ => Action.generic] among
    · show firstAction rules step = _
      rw [firstAction, same, found]

/-- The packages that the text of a step names. -/
def namedPackages (step : Step) : List Text :=
  (tokens step.text).filter fun token => isPackage token && !hasExtension token

/-- The packages that are not among those named, each once. -/
def further (packages named : List Text) : List Text := (packages.removeAll named).eraseDups

theorem mem_further {packages named : List Text} {package : Text} :
    package ∈ further packages named ↔ package ∈ packages ∧ package ∉ named := by
  rw [further, List.mem_eraseDups, List.removeAll, List.mem_filter]
  simp

theorem installationOf_eq (step : Step) :
    installationOf step = .installPackage ((namedPackages step).eraseDups ++
      further (installedPackages (snippetCode step)) (namedPackages step)) := by
  rw [installationOf, ← namedPackages, List.eraseDups_append, further]

/-- A step names each package once that it installs. -/
theorem nodup_of_installationOf {step : Step} {packages : List Text}
    (installing : installationOf step = .installPackage packages) : packages.Nodup := by
  rw [installationOf] at installing
  exact Action.installPackage.inj installing ▸ nodup_eraseDups _

theorem installationOf_bare (step : Step) :
    installationOf step.bare = .installPackage (namedPackages step).eraseDups := by
  rw [installationOf_eq]
  exact congrArg Action.installPackage (List.append_nil _)

/-- What a step copies is told by its text. -/
theorem exists_copyOf (step : Step) :
    ∃ source destination, copyOf step = .copyPath source destination ∧
      copyOf step.bare = .copyPath source destination := by
  have same : copyOf step.bare = copyOf step := rfl
  rw [same, copyOf]
  split
  · exact ⟨_, _, rfl, rfl⟩
  · dsimp only
    split
    · exact ⟨_, _, rfl, rfl⟩
    · split <;> exact ⟨_, _, rfl, rfl⟩

end Instruction

namespace Executor

open Instruction

variable {step : Step} {block : CodeBlock}

/-- A snippet in another language than those of configuration and code is not looked at by an
update. -/
theorem update_of_unused (attached : step.snippet = some block)
    (noConfig : configLanguages.contains block.language = false)
    (noCode : codeLanguages.contains block.language = false) (hint : Text)
    (target : Option Text) : update hint step target = update hint step.bare target := by
  unfold update
  rw [attached]
  dsimp only
  rw [noConfig, noCode]
  rfl

/-- Whether two instructions do the same under the same name. -/
def DoAlike (hint : Text) (left right : Instruction) : Prop :=
  perform hint left = perform hint right ∧ left.action.name = right.action.name

theorem DoAlike.execute {hint : Text} {left right : Instruction}
    (alike : DoAlike hint left right) : execute hint left = execute hint right := by
  rw [Executor.execute, alike.1, alike.2, ← Executor.execute]

/-- A step that does not use its snippet does the same without it, unless it installs packages. -/
theorem doAlike_bare_or (attached : step.snippet = some block)
    (unused : (ofStep step).claimsSnippet = false) (hint : Text) :
    (DoAlike hint (ofStep step) (ofStep step.bare) ∧
        ∀ named, (ofStep step.bare).action ≠ .installPackage named) ∨
      (ofStep step).action = installationOf step ∧
        (ofStep step.bare).action = installationOf step.bare := by
  obtain ⟨build, among, built⟩ := exists_build step.text
  have whole : (ofStep step).action = build step := built step rfl
  have alone : (ofStep step.bare).action = build step.bare := built step.bare rfl
  have held : (ofStep step).step.snippet = some block := attached
  rw [claimsSnippet, held, whole] at unused
  rw [DoAlike, perform, perform, whole, alone]
  simp only [List.mem_cons, List.not_mem_nil, or_false] at among
  rcases among with copying | deleting | updating | adding | removing | installing | generic
  · obtain ⟨source, destination, copied, same⟩ := exists_copyOf step
    rw [copying, copied, same]
    exact .inl ⟨⟨rfl, rfl⟩, by simp⟩
  · rw [deleting] at unused
    exact absurd unused.symm Bool.false_ne_true
  · rw [updating] at unused ⊢
    obtain ⟨noConfig, noCode⟩ := Bool.or_eq_false_iff.mp unused
    exact .inl ⟨⟨update_of_unused attached noConfig noCode hint _, rfl⟩, by simp [updateOf]⟩
  · rw [adding] at unused
    exact absurd unused.symm Bool.false_ne_true
  · rw [removing] at unused
    exact absurd unused.symm Bool.false_ne_true
  · exact .inr ⟨by rw [installing], by rw [installing]⟩
  · rw [generic]
    exact .inl ⟨⟨rfl, rfl⟩, by simp⟩

theorem execute_of_installation {instruction : Instruction} {packages : List Text}
    (installing : instruction.action = .installPackage packages) (hint : Text)
    (session : Session) :
    execute hint instruction session = (.ok (), session.install packages) := by
  rw [execute, perform, installing]
  rfl

/-- A snippet that the instruction of its step does not use has no effect through the step: what
becomes of the session is the same as without it, exactly if the step installs no packages or all
those that the commands of the snippet install are queued before or named by the step itself. In any
case nothing but the queue can differ, and only by packages of the snippet at its end. -/
theorem execute_bare_iff (attached : step.snippet = some block)
    (unused : (ofStep step).claimsSnippet = false) (hint : Text) (session : Session) :
    (execute hint (ofStep step) session = execute hint (ofStep step.bare) session ↔
      ∀ named, (ofStep step.bare).action = .installPackage named →
        ∀ package ∈ installedPackages block.content,
          package ∈ session.packages ∨ package ∈ named) ∧
    ∃ extra ⊆ installedPackages block.content, execute hint (ofStep step) session =
      (execute hint (ofStep step.bare) session).map id (Session.lengthen extra) := by
  rcases doAlike_bare_or attached unused hint with ⟨alike, other⟩ | ⟨whole, alone⟩
  · rw [alike.execute]
    refine ⟨⟨fun _ named installing => absurd installing (other named), fun _ => rfl⟩, [],
      List.nil_subset _, ?_⟩
    exact Prod.ext rfl (Session.lengthen_nil _).symm
  · have shown : snippetCode step = block.content := by rw [snippetCode, attached]; rfl
    rw [installationOf_eq, shown] at whole
    rw [installationOf_bare] at alone
    have distinct := shown ▸ nodup_of_installationOf (installationOf_eq step)
    have distinct' := nodup_of_installationOf (installationOf_bare step)
    obtain ⟨extra, among, longer, same⟩ := session.queue_append (namedPackages step).eraseDups
      (further (installedPackages block.content) (namedPackages step))
    rw [execute_of_installation whole, execute_of_installation alone, alone,
      Session.install_eq_queue distinct, Session.install_eq_queue distinct']
    refine ⟨?_, extra, fun package member => (mem_further.mp (among member)).1, ?_⟩
    · rw [Prod.mk.injEq, and_iff_right rfl, same]
      constructor
      · intro held named installing package member
        have own := Action.installPackage.inj installing
        by_cases listed : package ∈ named
        · exact .inr listed
        · rw [← own, List.mem_eraseDups] at listed
          exact own ▸ held package (mem_further.mpr ⟨member, listed⟩)
      · intro held package member
        exact held _ rfl package (mem_further.mp member).1
    · rw [longer]
      rfl

/-- A step that installs packages, with a snippet. -/
def installingStep (language content : Text) : Step :=
  ⟨some 1, "Install the package \x60left-pad\x60".toList, some ⟨language, content, some 2⟩, some 0⟩

/-- A session before anything was done. -/
def freshSession : Session := .start {} [] ⟨[]⟩

/-- A step whose snippet, in a language of another kind, installs what the step names itself. -/
def doublyNamedStep : Step := installingStep "json".toList "npm install left-pad\n".toList

/-- The snippet does nothing through the step. -/
theorem execute_bare_of_named_package :
    doublyNamedStep.snippet = some ⟨"json".toList, "npm install left-pad\n".toList, some 2⟩ ∧
      (ofStep doublyNamedStep).claimsSnippet = false ∧
      execute [] (ofStep doublyNamedStep) freshSession =
        execute [] (ofStep doublyNamedStep.bare) freshSession := by
  have unused : (ofStep doublyNamedStep).claimsSnippet = false := by decide +kernel
  refine ⟨rfl, unused, (execute_bare_iff rfl unused [] freshSession).1.mpr ?_⟩
  intro named installing package member
  have own : (ofStep doublyNamedStep.bare).action = .installPackage ["left-pad".toList] := by
    decide +kernel
  have shown : installedPackages "npm install left-pad\n".toList = ["left-pad".toList] := by
    decide +kernel
  rw [own] at installing
  rw [shown] at member
  exact .inr (Action.installPackage.inj installing ▸ member)

/-- A step with a snippet of configuration in which a command stands. -/
def leakingStep : Step := installingStep "yaml".toList "run: npm install right-pad\n".toList

/-- The instruction says that it does not use the snippet, and queues the package of its command. -/
theorem execute_takes_unused_snippet :
    (ofStep leakingStep).claimsSnippet = false ∧
      execute [] (ofStep leakingStep) freshSession ≠
        execute [] (ofStep leakingStep.bare) freshSession := by
  have queued : (execute [] (ofStep leakingStep) freshSession).2.packages =
      ["left-pad".toList, "right-pad".toList] := by decide +kernel
  have alone : (execute [] (ofStep leakingStep.bare) freshSession).2.packages =
      ["left-pad".toList] := by decide +kernel
  refine ⟨by decide +kernel, fun same => ?_⟩
  rw [same, alone] at queued
  exact absurd queued (by decide)

end Executor

end GuidedMigration
