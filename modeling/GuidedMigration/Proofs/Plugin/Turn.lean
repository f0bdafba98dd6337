/-
This file follows several things through their turns, and templates first. A failure of the
migration's own is caught: it leaves a warning, and the next one has its turn. Any other failure is
not caught and ends the whole integration. A template fails in the first way exactly if it has no
source or would leave the destination, and in the second way of faults of files.
-/
import GuidedMigration.Proofs.Migration.FailureKind
import GuidedMigration.Proofs.Migration.Containment
import GuidedMigration.Proofs.Plugin.Warned

namespace GuidedMigration.Plugin

open Migration GuidedMigration.Tree

variable {First Item Answer : Type} {session before between after reached : Session}

/-! ### Failures that are not caught -/

/-- Whether a result is a failure that is none of the migration's own. -/
def disrupts : Except Failure Answer → Bool
  | .ok _ => false
  | .error failure => !failure.isOwn

section

variable {action : Migration First} {next : First → Migration Answer} {answer : Answer}

theorem disrupts_bind : disrupts ((action >>= next) session).1 = true ↔
    disrupts (action session).1 = true ∨
      ∃ first between, action session = (.ok first, between) ∧
        disrupts (next first between).1 = true := by
  rw [bind_apply]
  obtain ⟨result, between⟩ := action session
  cases result with
  | error failure =>
    refine ⟨.inl, ?_⟩
    rintro (own | ⟨_, _, same, -⟩)
    · exact own
    · cases same
  | ok first =>
    refine ⟨fun later => .inr ⟨first, between, rfl, later⟩, fun either => ?_⟩
    obtain ⟨_, _, same, later⟩ := either.resolve_left Bool.false_ne_true
    cases same
    exact later

theorem bind_eq_error {failure : Failure} : ((action >>= next) session).1 = .error failure ↔
    (action session).1 = .error failure ∨
      ∃ first between, action session = (.ok first, between) ∧
        (next first between).1 = .error failure := by
  rw [bind_apply]
  obtain ⟨result, between⟩ := action session
  cases result with
  | error other =>
    refine ⟨fun same => .inl (congrArg _ (Except.error.inj same)), ?_⟩
    rintro (same | ⟨_, _, same, -⟩)
    · exact congrArg _ (Except.error.inj same)
    · cases same
  | ok first =>
    refine ⟨fun later => .inr ⟨first, between, rfl, later⟩, ?_⟩
    rintro (same | ⟨_, _, same, later⟩)
    · cases same
    · cases same
      exact later

theorem exists_of_disrupts {result : Except Failure Answer} (other : disrupts result = true) :
    ∃ failure, result = .error failure ∧ failure.isOwn = false := by
  cases result with
  | ok answer => cases other
  | error failure => exact ⟨failure, rfl, (Bool.not_eq_true' _).mp other⟩

theorem disrupts_of_fault {result : Except Failure Answer}
    (faults : ∀ failure, result = .error failure → failure.isOwn = true ∨ failure.IsFault) :
    disrupts result = true ↔ ∃ fault, result = .error (.file fault) := by
  cases result with
  | ok answer => simp [disrupts]
  | error failure =>
    rcases faults failure rfl with own | ⟨fault, rfl⟩
    · rw [disrupts, own]
      constructor
      · intro disturbed
        cases disturbed
      · rintro ⟨fault, same⟩
        rw [Except.error.inj same] at own
        cases own
    · exact ⟨fun _ => ⟨fault, rfl⟩, fun _ => rfl⟩

end

section

variable {what : Text} {action : Migration Answer} {failure : Failure}

theorem attempt_of_ok {answer : Answer} (ok : action before = (.ok answer, between)) :
    attempt what action before = (.ok (.ok answer), between) := by
  rw [attempt, ok]

theorem attempt_of_own (failed : action before = (.error failure, between))
    (own : failure.isOwn = true) :
    attempt what action before =
      (.ok (.error failure), between.warn (⟨what, failure⟩ : Note).warning) := by
  rw [attempt, failed]
  exact if_pos own

theorem attempt_of_other (failed : action before = (.error failure, between))
    (other : failure.isOwn = false) :
    attempt what action before = (.error failure, between) := by
  rw [attempt, failed]
  exact if_neg (by simp [other])

end

/-! ### Turns -/

/-- The turn of one of several things: the session in which it comes, and what comes of it. -/
structure Turn (Item Answer : Type) where
  item : Item
  before : Session
  result : Except Failure Answer

/-- Something is done with one thing after the other. Each failure is the migration's own and leaves
a warning, in words about the thing. -/
inductive Turns (words : Item → Text) (action : Item → Migration Answer) :
    List (Turn Item Answer) → Session → Session → Prop
  | nil (session : Session) : Turns words action [] session session
  | done {item : Item} {rest : List (Turn Item Answer)} {before between after : Session}
      {answer : Answer} (ok : action item before = (.ok answer, between))
      (later : Turns words action rest between after) :
      Turns words action (⟨item, before, .ok answer⟩ :: rest) before after
  | noted {item : Item} {rest : List (Turn Item Answer)} {before between after : Session}
      {failure : Failure} (failed : action item before = (.error failure, between))
      (own : failure.isOwn = true)
      (later : Turns words action rest
        (between.warn (⟨words item, failure⟩ : Note).warning) after) :
      Turns words action (⟨item, before, .error failure⟩ :: rest) before after

/-- Does something with one thing after the other, and gives their turns. -/
def attemptEach (words : Item → Text) (action : Item → Migration Answer) :
    List Item → Migration (List (Turn Item Answer))
  | [] => pure []
  | item :: rest => do
    let before ← Migration.ask id
    let result ← attempt (words item) (action item)
    let turns ← attemptEach words action rest
    pure (⟨item, before, result⟩ :: turns)

variable {words : Item → Text} {action : Item → Migration Answer} {item : Item} {items : List Item}
  {turns : List (Turn Item Answer)} {turn : Turn Item Answer} {result : Except Failure Answer}

theorem attemptEach_cons (attempted : attempt (words item) (action item) before =
    (.ok result, between)) : attemptEach words action (item :: items) before =
      ((attemptEach words action items between).1.map (⟨item, before, result⟩ :: ·),
        (attemptEach words action items between).2) := by
  rw [attemptEach, bind_ask_apply, bind_apply, id_eq, attempted]
  dsimp only
  rw [bind_apply]
  obtain ⟨others, last⟩ := attemptEach words action items between
  cases others <;> rfl

/-- Behind turns that were had come the others. -/
theorem Turns.attemptEach_append (had : Turns words action turns before reached)
    (rest : List Item) : attemptEach words action (turns.map Turn.item ++ rest) before =
      ((attemptEach words action rest reached).1.map (turns ++ ·),
        (attemptEach words action rest reached).2) := by
  induction had with
  | nil session =>
    rw [List.map_nil, List.nil_append]
    obtain ⟨others, last⟩ := attemptEach words action rest session
    cases others <;> rfl
  | done ok later inductionHypothesis =>
    rw [List.map_cons, List.cons_append, attemptEach_cons (attempt_of_ok ok), inductionHypothesis]
    cases (attemptEach words action rest _).1 <;> rfl
  | noted failed own later inductionHypothesis =>
    rw [List.map_cons, List.cons_append, attemptEach_cons (attempt_of_own failed own),
      inductionHypothesis]
    cases (attemptEach words action rest _).1 <;> rfl

theorem Turns.attemptEach_eq (had : Turns words action turns before after) :
    attemptEach words action (turns.map Turn.item) before = (.ok turns, after) := by
  have all := had.attemptEach_append []
  rw [List.append_nil] at all
  rw [all]
  exact Prod.ext (congrArg Except.ok (List.append_nil turns)) rfl

/-- What is not caught ends the turns. -/
theorem Turns.attemptEach_of_failed {failure : Failure}
    (had : Turns words action turns before reached)
    (failed : (action item reached).1 = .error failure) (other : failure.isOwn = false)
    (rest : List Item) :
    (attemptEach words action (turns.map Turn.item ++ item :: rest) before).1 =
      .error failure := by
  rw [had.attemptEach_append, Plugin.attemptEach, bind_ask_apply, bind_apply]
  have ended : attempt (words item) (action item) reached =
      (.error failure, (action item reached).2) := attempt_of_other (Prod.ext failed rfl) other
  rw [id_eq, ended]
  rfl

/-- What comes of a turn is what comes of the thing when it has its turn; a failure is the
migration's own. -/
theorem Turns.each (had : Turns words action turns before after) (member : turn ∈ turns) :
    turn.result = (action turn.item turn.before).1 ∧ disrupts turn.result = false := by
  induction had with
  | nil => exact absurd member List.not_mem_nil
  | done ok later inductionHypothesis =>
    rcases List.mem_cons.mp member with rfl | member
    · exact ⟨by rw [ok], rfl⟩
    · exact inductionHypothesis member
  | noted failed own later inductionHypothesis =>
    rcases List.mem_cons.mp member with rfl | member
    · exact ⟨by rw [failed], by rw [disrupts, own]; rfl⟩
    · exact inductionHypothesis member

theorem Turns.warnings (keeps : ∀ item, KeepsWarnings (action item))
    (had : Turns words action turns before after) : before.warnings <+: after.warnings := by
  induction had with
  | nil => exact List.prefix_rfl
  | @done item _ before _ _ _ ok later inductionHypothesis =>
    have kept := keeps item before
    rw [ok] at kept
    exact kept.trans inductionHypothesis
  | @noted item _ before _ _ _ failed own later inductionHypothesis =>
    have kept := keeps item before
    rw [failed] at kept
    exact (kept.trans (List.prefix_append _ _)).trans inductionHypothesis

/-- Each turn that fails leaves its warning. -/
theorem Turns.warned (keeps : ∀ item, KeepsWarnings (action item))
    (had : Turns words action turns before after) {failure : Failure} (member : turn ∈ turns)
    (failed : turn.result = .error failure) :
    (⟨words turn.item, failure⟩ : Note).warning ∈ after.warnings := by
  induction had with
  | nil => exact absurd member List.not_mem_nil
  | done ok later inductionHypothesis =>
    rcases List.mem_cons.mp member with rfl | member
    · cases failed
    · exact inductionHypothesis member
  | noted ran own later inductionHypothesis =>
    rcases List.mem_cons.mp member with rfl | member
    · rw [← Except.error.inj failed]
      exact (later.warnings keeps).subset (List.mem_append_right _ (List.mem_singleton_self _))
    · exact inductionHypothesis member

theorem sound_of_writesWithin {action : Migration Answer} {result : Except Failure Answer}
    (writes : WritesWithin (fun _ => True) action) (ran : action before = (result, after))
    (sound : before.tree.IsSound) : after.tree.IsSound := by
  have kept := (writes before sound).evolves.sound sound
  rwa [ran] at kept

/-- Things that leave sound trees have their turns over sound trees. -/
theorem Turns.sound (keeps : ∀ item, WritesWithin (fun _ => True) (action item))
    (had : Turns words action turns before after) (sound : before.tree.IsSound) :
    after.tree.IsSound ∧ ∀ turn ∈ turns, turn.before.tree.IsSound := by
  induction had with
  | nil => exact ⟨sound, fun turn member => absurd member List.not_mem_nil⟩
  | @done item _ before _ _ _ ok later inductionHypothesis =>
    obtain ⟨last, each⟩ := inductionHypothesis (sound_of_writesWithin (keeps item) ok sound)
    exact ⟨last, List.forall_mem_cons.mpr ⟨sound, each⟩⟩
  | @noted item _ before _ _ _ failed own later inductionHypothesis =>
    have kept := sound_of_writesWithin (keeps item) failed sound
    obtain ⟨last, each⟩ := inductionHypothesis kept
    exact ⟨last, List.forall_mem_cons.mpr ⟨sound, each⟩⟩

/-! ### Templates -/

/-- What a template is called in warnings. -/
def templateWords (name : Text) : Text := "template ".toList ++ name

/-- Copies a template. -/
def copyTemplate (name : Text) : Migration Outcome := fun session =>
  let relative := below templatesDirectory name
  recorded (Target.copyPath session.source session.destination
    ⟨session.settings.excluded, [], false⟩ relative relative) session

theorem writesWithin_copyTemplate (name : Text) :
    WritesWithin (fun _ => True) (copyTemplate name) :=
  fun session sound => WritesWithin.recorded (fun tree sound =>
    (Target.behaves_copyPath _ _ _ _ _ tree sound).evolves.mono fun _ _ => trivial) session sound

/-- Copying templates is giving each of them its turn. -/
theorem copyTemplates_eq (names : List Text) (session : Session) :
    copyTemplates names session =
      ((attemptEach templateWords copyTemplate names session).1.map fun turns =>
          (turns.filter (·.result.isOk)).map Turn.item,
        (attemptEach templateWords copyTemplate names session).2) := by
  induction names generalizing session with
  | nil => rfl
  | cons name rest inductionHypothesis =>
    rw [copyTemplates, bind_ask_apply, bind_apply]
    have same : attempt ("template ".toList ++ name) (recorded (Target.copyPath session.source
        session.destination ⟨session.settings.excluded, [], false⟩
        (below templatesDirectory name) (below templatesDirectory name))) session =
      attempt (templateWords name) (copyTemplate name) session := rfl
    dsimp only [id_eq]
    rw [same]
    cases attempted : attempt (templateWords name) (copyTemplate name) session with
    | mk result between =>
      cases result with
      | error failure =>
        rw [attemptEach, bind_ask_apply, bind_apply, id_eq, attempted]
        rfl
      | ok result =>
        rw [attemptEach_cons attempted]
        dsimp only
        rw [bind_apply, inductionHypothesis]
        obtain ⟨turns, last⟩ := attemptEach templateWords copyTemplate rest between
        cases turns with
        | error failure => rfl
        | ok turns => cases result <;> rfl

end GuidedMigration.Plugin
