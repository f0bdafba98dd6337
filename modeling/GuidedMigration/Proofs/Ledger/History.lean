/-
This file follows the ledger through a history of calls, on any number of runs and in any order.
What the ledger holds after a history is read off the history alone: of each phase of a run the
record of its last report, and of each run the journal that was passed last, entry by entry. Each
call changes what there is about its own run and nothing else.
-/
import GuidedMigration.Ledger.Basic
import Mathlib

namespace GuidedMigration.Ledger

/-! ### Histories -/

/-- What a ledger can be told. -/
inductive Call where
  | start (run : Run)
  | recordPhase (run : Nat) (report : PhaseReport)
  | recordJournal (run : Nat) (journal : List JournalEntry)
  | finish (run : Nat) (success isDual : Bool)

namespace Call

/-- The ledger after a call. -/
def apply (ledger : Ledger) : Call → Ledger
  | .start run => (ledger.start run).2
  | .recordPhase run report => ledger.recordPhase run report
  | .recordJournal run journal => (ledger.recordJournal run journal).2
  | .finish run success isDual => ledger.finish run success isDual

/-- The run that a call is about. A run that starts gets the next number. -/
def run (ledger : Ledger) : Call → Nat
  | .start _ => ledger.runs.length
  | .recordPhase run _ => run
  | .recordJournal run _ => run
  | .finish run _ _ => run

/-- The report that a call gives on a phase of a run. -/
def report? (run : Nat) (phase : Phase) : Call → Option PhaseReport
  | .recordPhase own report => if own = run ∧ report.phase = phase then some report else none
  | _ => none

/-- The journal that a call passes for a run. -/
def journal? (run : Nat) : Call → Option (List JournalEntry)
  | .recordJournal own journal => if own = run then some journal else none
  | _ => none

/-- What a call answers that passes a journal for a run: how many entries it has recorded. -/
def answer? (run : Nat) (ledger : Ledger) (call : Call) : Option Nat :=
  (call.journal? run).map fun journal => (ledger.recordJournal run journal).1

end Call

/-- The ledger after a history. -/
def after (calls : List Call) : Ledger := calls.foldl Call.apply {}

/-- The last report on a phase of a run in a history. -/
def lastReport? (run : Nat) (phase : Phase) (calls : List Call) : Option PhaseReport :=
  (calls.filterMap (Call.report? run phase)).getLast?

/-- The journals that a history passes for a run. -/
def journals (run : Nat) (calls : List Call) : List (List JournalEntry) :=
  calls.filterMap (Call.journal? run)

/-- The journal that a history passes last for a run. -/
def lastJournal (run : Nat) (calls : List Call) : List JournalEntry :=
  (journals run calls).getLast?.getD []

/-- What the calls of a history answer that pass a journal for a run. -/
def answers (run : Nat) : Ledger → List Call → List Nat
  | _, [] => []
  | ledger, call :: rest => (call.answer? run ledger).toList ++ answers run (call.apply ledger) rest

/-- Whether the journals that a history passes for a run only grow at their ends. -/
def Grows (calls : List Call) : Prop := ∀ run, (journals run calls).IsChain (· <+: ·)

variable {ledger : Ledger} {calls : List Call} {call : Call} {run : Nat} {phase : Phase}

@[simp] theorem after_concat : after (calls ++ [call]) = call.apply (after calls) := by
  simp [after]

theorem lastReport?_concat : lastReport? run phase (calls ++ [call]) =
    (call.report? run phase).or (lastReport? run phase calls) := by
  rw [lastReport?, List.filterMap_append]
  cases given : call.report? run phase <;> simp [given, lastReport?]

theorem journals_concat :
    journals run (calls ++ [call]) = journals run calls ++ (call.journal? run).toList := by
  rw [journals, List.filterMap_append]
  cases given : call.journal? run <;> simp [given, journals]

theorem lastJournal_concat : lastJournal run (calls ++ [call]) =
    (call.journal? run).getD (lastJournal run calls) := by
  rw [lastJournal, journals_concat]
  cases call.journal? run <;> simp [lastJournal]

theorem answers_concat : answers run ledger (calls ++ [call]) =
    answers run ledger calls ++ (call.answer? run (calls.foldl Call.apply ledger)).toList := by
  induction calls generalizing ledger with
  | nil => simp [answers]
  | cons first rest inductionHypothesis => simp [answers, inductionHypothesis]

theorem Grows.of_prefix {moment : List Call} (grows : Grows calls) (early : moment <+: calls) :
    Grows moment := by
  obtain ⟨later, rfl⟩ := early
  intro run
  have chain := grows run
  rw [journals, List.filterMap_append] at chain
  exact (List.isChain_append.mp chain).1

/-- A journal that is passed goes on from the one that was passed last. -/
theorem Grows.continues {journal : List JournalEntry} (grows : Grows (calls ++ [call]))
    (passed : call.journal? run = some journal) : lastJournal run calls <+: journal := by
  have chain := grows run
  rw [journals_concat, passed, List.isChain_append] at chain
  rw [lastJournal]
  cases last : (journals run calls).getLast? with
  | none => exact List.nil_prefix
  | some earlier => exact chain.2.2 earlier last journal rfl

/-! ### Phases -/

theorem isAbout_iff {record : PhaseRecord} :
    isAbout run phase record = true ↔ record.run = run ∧ record.phase = phase := by
  simp [isAbout]

/-- A record about one phase is about no other. -/
theorem not_isAbout {other : Nat} {second : Phase} {record : PhaseRecord}
    (about : isAbout run phase record = true) (apart : ¬ (other = run ∧ second = phase)) :
    isAbout other second record = false := by
  rw [Bool.eq_false_iff, Ne, isAbout_iff]
  rw [isAbout_iff] at about
  rintro ⟨rfl, rfl⟩
  exact apart about

/-- A call replaces the record of a phase that it reports on, and leaves those of other phases. -/
theorem phases_apply : (call.apply ledger).phases.filter (isAbout run phase) =
    match call.report? run phase with
    | some report => [recordOf run report]
    | none => ledger.phases.filter (isAbout run phase) := by
  cases call with
  | start _ => rfl
  | recordJournal _ _ => rfl
  | finish _ _ _ => rfl
  | recordPhase own report =>
    rw [Call.report?, Call.apply, Ledger.recordPhase, List.filter_append, List.filter_filter]
    split
    · rename_i given
      obtain ⟨rfl, rfl⟩ : own = run ∧ report.phase = phase := by
        by_contra other
        simp [other] at given
      obtain rfl : report = _ := by simpa using given
      simp [isAbout, recordOf]
    · rename_i given
      have apart : ¬ (own = run ∧ report.phase = phase) := fun same => by simp [same] at given
      have fresh : isAbout run phase (recordOf own report) = false :=
        not_isAbout (isAbout_iff.mpr ⟨rfl, rfl⟩) fun same => apart ⟨same.1.symm, same.2.symm⟩
      rw [List.filter_singleton, fresh, Bool.cond_false, List.append_nil]
      refine List.filter_congr fun record _ => ?_
      cases about : isAbout run phase record with
      | false => rfl
      | true => simp [not_isAbout about apart]

/-- Of each phase of a run there is the record of its last report. -/
theorem phases_after (calls : List Call) (run : Nat) (phase : Phase) :
    (after calls).phases.filter (isAbout run phase) =
      ((lastReport? run phase calls).map (recordOf run)).toList := by
  induction calls using List.reverseRecOn with
  | nil => rfl
  | append_singleton calls call inductionHypothesis =>
    rw [after_concat, phases_apply, lastReport?_concat]
    cases call.report? run phase with
    | some report => rfl
    | none => exact inductionHypothesis

/-- Records in the order of the three phases. -/
theorem perm_phases (records : List PhaseRecord) :
    records.Perm (Phase.all.flatMap fun phase => records.filter (·.phase = phase)) := by
  induction records with
  | nil => exact .nil
  | cons record rest inductionHypothesis =>
    refine (inductionHypothesis.cons record).trans ?_
    cases of : record.phase with
    | scaffold => simp [Phase.all, of]
    | auth => simpa [Phase.all, of] using List.perm_middle.symm
    | plugins =>
      simpa [Phase.all, of] using (@List.perm_middle _ record
        (rest.filter (·.phase = .scaffold) ++ rest.filter (·.phase = .auth))
        (rest.filter (·.phase = .plugins))).symm

theorem phase_of_lastReport? {report : PhaseReport}
    (last : lastReport? run phase calls = some report) : report.phase = phase := by
  obtain ⟨call, -, given⟩ := List.mem_filterMap.mp (List.mem_of_getLast? last)
  cases call with
  | start _ => cases given
  | recordJournal _ _ => cases given
  | finish _ _ _ => cases given
  | recordPhase own other =>
    rw [Call.report?] at given
    split at given
    · rename_i same
      exact Option.some.inj given ▸ same.2
    · cases given

theorem number_injective {first second : Phase} (same : first.number = second.number) :
    first = second := by
  cases first <;> cases second <;> first | rfl | cases same

/-- The phases of a run are asked for in their order, each once, by its last report. -/
theorem phasesOf_after (calls : List Call) (run : Nat) :
    phasesOf run (after calls) =
      Phase.all.filterMap fun phase => (lastReport? run phase calls).map (recordOf run) := by
  have listed : ((after calls).phases.filter (·.run = run)).Perm
      (Phase.all.filterMap fun phase => (lastReport? run phase calls).map (recordOf run)) := by
    refine (perm_phases _).trans (.of_eq ?_)
    rw [List.filterMap_eq_flatMap_toList]
    refine List.flatMap_congr fun phase _ => ?_
    rw [← phases_after, List.filter_filter]
    refine List.filter_congr fun record _ => ?_
    simp [isAbout, Bool.and_comm]
  have numbered {phase : Phase} {record : PhaseRecord}
      (held : (lastReport? run phase calls).map (recordOf run) = some record) :
      record.phase = phase := by
    obtain ⟨report, last, rfl⟩ := Option.map_eq_some_iff.mp held
    exact phase_of_lastReport? last
  have ordered : (Phase.all.filterMap fun phase =>
      (lastReport? run phase calls).map (recordOf run)).Pairwise
      fun left right => left.phase.number < right.phase.number := by
    refine List.Pairwise.filterMap _ ?_ (show Phase.all.Pairwise (·.number < ·.number) by decide)
    intro first second before left held right held'
    rwa [numbered held, numbered held']
  refine List.Perm.eq_of_pairwise (fun left right inside among before behind => ?_)
    (List.pairwise_mergeSort (fun _ _ _ => ?_) (fun _ _ => ?_) _)
    (ordered.imp fun less => decide_eq_true less.le)
    ((List.mergeSort_perm _ _).trans listed)
  · -- there is one record of each phase, and two phases have two numbers
    obtain ⟨first, -, held⟩ := List.mem_filterMap.mp
      (((List.mergeSort_perm _ _).trans listed).mem_iff.mp inside)
    obtain ⟨second, -, held'⟩ := List.mem_filterMap.mp among
    have same : left.phase.number = right.phase.number :=
      le_antisymm (of_decide_eq_true before) (of_decide_eq_true behind)
    rw [numbered held, numbered held'] at same
    obtain rfl : first = second := number_injective same
    exact Option.some.inj (held.symm.trans held')
  · simpa using Nat.le_trans
  · simpa using Nat.le_total _ _

/-! ### Journals -/

theorem mutationsFrom_eq (run start : Nat) (entries : List JournalEntry) :
    mutationsFrom run start entries =
      entries.mapIdx fun position entry => ⟨run, position + start, entry⟩ := by
  induction entries generalizing start with
  | nil => rfl
  | cons entry rest inductionHypothesis =>
    rw [mutationsFrom, inductionHypothesis, List.mapIdx_cons, Nat.zero_add]
    simp only [Nat.add_assoc, Nat.add_comm 1]

theorem filter_mutationsFrom (own run start : Nat) (entries : List JournalEntry) :
    (mutationsFrom own start entries).filter (·.run = run) =
      if own = run then mutationsFrom own start entries else [] := by
  induction entries generalizing start with
  | nil => simp [mutationsFrom]
  | cons entry rest inductionHypothesis =>
    rw [mutationsFrom, List.filter_cons, inductionHypothesis]
    by_cases same : own = run <;> simp [same]

/-- A call that passes a journal adds what is not recorded of it yet. -/
theorem journalOf_apply : (call.apply ledger).journalOf run =
    match call.journal? run with
    | some journal => ledger.journalOf run ++
        mutationsFrom run (ledger.journalOf run).length
          (journal.drop (ledger.journalOf run).length)
    | none => ledger.journalOf run := by
  cases call with
  | start _ => rfl
  | recordPhase _ _ => rfl
  | finish _ _ _ => rfl
  | recordJournal own journal =>
    rw [Call.apply, recordJournal, journalOf, List.filter_append, filter_mutationsFrom,
      Call.journal?]
    by_cases same : own = run
    · subst same
      simp [journalOf]
    · simp [same, journalOf]

/-- The records of a journal, each with its position. -/
def recordsOfJournal (run : Nat) (journal : List JournalEntry) : List MutationRecord :=
  journal.mapIdx fun position entry => ⟨run, position, entry⟩

theorem recordsOfJournal_append (run : Nat) (first second : List JournalEntry) :
    recordsOfJournal run (first ++ second) =
      recordsOfJournal run first ++ mutationsFrom run first.length second := by
  rw [recordsOfJournal, List.mapIdx_append, mutationsFrom_eq]
  rfl

theorem length_recordsOfJournal (run : Nat) (journal : List JournalEntry) :
    (recordsOfJournal run journal).length = journal.length :=
  List.length_mapIdx

/-- Of each run the journal that was passed last is recorded. -/
theorem journalOf_after (grows : Grows calls) (run : Nat) :
    (after calls).journalOf run = recordsOfJournal run (lastJournal run calls) := by
  induction calls using List.reverseRecOn with
  | nil => rfl
  | append_singleton calls call inductionHypothesis =>
    have earlier := inductionHypothesis (grows.of_prefix (List.prefix_append _ _))
    rw [after_concat, journalOf_apply, lastJournal_concat, earlier]
    cases passed : call.journal? run with
    | none => rfl
    | some journal =>
      obtain ⟨more, rfl⟩ := grows.continues passed
      dsimp only [Option.getD_some]
      rw [length_recordsOfJournal, List.drop_left, ← recordsOfJournal_append]

/-- The answers for a run count the entries of the journal that was passed last. -/
theorem sum_answers (grows : Grows calls) (run : Nat) :
    (answers run {} calls).sum = (lastJournal run calls).length := by
  induction calls using List.reverseRecOn with
  | nil => rfl
  | append_singleton calls call inductionHypothesis =>
    have before := grows.of_prefix (List.prefix_append _ _)
    rw [answers_concat, List.sum_append, inductionHypothesis before, lastJournal_concat,
      Call.answer?]
    cases passed : call.journal? run with
    | none => rfl
    | some journal =>
      have stored : ((after calls).journalOf run).length = (lastJournal run calls).length := by
        rw [journalOf_after before, length_recordsOfJournal]
      have longer : (lastJournal run calls).length ≤ journal.length :=
        (grows.continues passed).length_le
      show _ + (journal.length - ((after calls).journalOf run).length) = journal.length
      omega

/-- The journal of a run is asked for in the order in which it was passed. -/
theorem mutationsOf_after (grows : Grows calls) (run : Nat) :
    mutationsOf run none (after calls) = recordsOfJournal run (lastJournal run calls) := by
  rw [mutationsOf, journalOf_after grows]
  refine List.mergeSort_of_pairwise (List.pairwise_iff_getElem.mpr fun left right _ _ before => ?_)
  simpa [recordsOfJournal] using before.le

/-! ### Other runs -/

/-- What there is about a run: the run itself, its phases and its journal. -/
def about (run : Nat) (ledger : Ledger) :
    Option Run × List PhaseRecord × List MutationRecord :=
  (ledger.runs[run]?, ledger.phasesOf run, ledger.mutationsOf run none)

/-- A run that starts is put behind those that there are. -/
theorem runs_start (started : Run) (other : ledger.runs.length ≠ run) :
    (ledger.runs ++ [started])[run]? = ledger.runs[run]? := by
  rcases Nat.lt_or_gt_of_ne other with above | below
  · rw [List.getElem?_eq_none (by simpa using Nat.succ_le_of_lt above),
      List.getElem?_eq_none above.le]
  · rw [List.getElem?_append_left below]

theorem phasesOf_recordPhase {own : Nat} (report : PhaseReport) (other : own ≠ run) :
    phasesOf run (ledger.recordPhase own report) = phasesOf run ledger := by
  have kept : (ledger.recordPhase own report).phases.filter (·.run = run) =
      ledger.phases.filter (·.run = run) := by
    rw [Ledger.recordPhase, List.filter_append, List.filter_filter, List.filter_singleton,
      show decide ((recordOf own report).run = run) = false from decide_eq_false other,
      Bool.cond_false, List.append_nil]
    refine List.filter_congr fun record _ => ?_
    by_cases same : record.run = run
    · simp [same, isAbout, other.symm]
    · simp [same]
  rw [phasesOf, phasesOf, kept]

/-- A call changes nothing about other runs. -/
theorem about_apply (other : call.run ledger ≠ run) :
    (call.apply ledger).about run = ledger.about run := by
  cases call with
  | start started =>
    exact congrArg (·, ledger.phasesOf run, ledger.mutationsOf run none) (runs_start started other)
  | recordPhase own report =>
    exact congrArg (ledger.runs[run]?, ·, ledger.mutationsOf run none)
      (phasesOf_recordPhase report other)
  | recordJournal own journal =>
    have passed : (Call.recordJournal own journal).journal? run = none := if_neg other
    have kept := @journalOf_apply ledger (.recordJournal own journal) run
    rw [passed] at kept
    rw [about, about, mutationsOf, mutationsOf, kept]
    rfl
  | finish own success isDual =>
    refine congrArg (·, ledger.phasesOf run, ledger.mutationsOf run none) ?_
    show (ledger.runs.modify own _)[run]? = ledger.runs[run]?
    have apart : own ≠ run := other
    rw [List.getElem?_modify]
    simp [apart]

/-! ### Integrity -/

/-- What is true of the ledger after a history. -/
structure IsIntact (calls : List Call) : Prop where
  single : ∀ run phase, (after calls).phases.filter (isAbout run phase) =
    ((lastReport? run phase calls).map (recordOf run)).toList
  phases : ∀ run, phasesOf run (after calls) =
    Phase.all.filterMap fun phase => (lastReport? run phase calls).map (recordOf run)
  mutations : ∀ run, mutationsOf run none (after calls) =
    (lastJournal run calls).mapIdx fun position entry => ⟨run, position, entry⟩
  answers : ∀ run, (answers run {} calls).sum = (lastJournal run calls).length
  others : ∀ (call : Call) run, call.run (after calls) ≠ run →
    (call.apply (after calls)).about run = (after calls).about run

/-- Whatever the ledger is told, and in whatever order: as long as journals only grow, it is intact
at every moment. -/
theorem stays_intact (grows : Grows calls) {moment : List Call} (early : moment <+: calls) :
    IsIntact moment where
  single run phase := phases_after moment run phase
  phases run := phasesOf_after moment run
  mutations run := mutationsOf_after (grows.of_prefix early) run
  answers run := sum_answers (grows.of_prefix early) run
  others _ _ other := about_apply other

/-- Two runs told of by turns: the first one passes its journal twice and reports on its first phase
twice. -/
def twoRuns : List Call :=
  let run : Run := { source := [], destination := [], target := 1, started := [] }
  let entry (path : String) : JournalEntry :=
    ⟨1, ⟨path.toList, "copy".toList, "file".toList, .applied, []⟩⟩
  let report (success : Bool) : PhaseReport :=
    { phase := .scaffold, success := success, steps := .start 7 }
  [.start run, .start run, .recordJournal 0 [entry "a"], .recordPhase 0 (report false),
    .recordJournal 1 [entry "b"], .recordPhase 0 (report true),
    .recordJournal 0 [entry "a", entry "c"], .finish 0 true false]

theorem stays_intact_in_two_runs : Grows twoRuns ∧ IsIntact twoRuns := by
  have grows : Grows twoRuns := by
    intro run
    match run with
    | 0 => decide
    | 1 => decide
    | more + 2 => exact .nil
  exact ⟨grows, stays_intact grows List.prefix_rfl⟩

end GuidedMigration.Ledger
